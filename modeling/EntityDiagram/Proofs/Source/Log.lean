import EntityDiagram.Proofs.Source.Groups
import EntityDiagram.Proofs.Source.Inert

/-!
The log of a reading. It tells the passages from phase to phase, the groups that begin and the
ports that are found, each with the number of the line that brought it about. Every line keeps the
log true to what the scanner knows: a passage is logged in its place in the order of phases, a group
with the next number, and a port behind the beginning of its group. So what the log tells in the end
is what the reading results in.
-/

namespace EntityDiagram

/-- The phases that a reader passes between, one after the other. -/
def Phase.passages : List (Phase × Phase) :=
  [(.searching, .inEntity), (.inEntity, .inPorts), (.inPorts, .complete)]

namespace LogEntry

/-- The phases that an entry tells a passage between, if it tells one. -/
def passage? (entry : LogEntry) : Option (Phase × Phase) :=
  match entry.event with
  | .passed old new => some (old, new)
  | _ => none

/-- The group that an entry tells the beginning of, if it tells one. -/
def group? (entry : LogEntry) : Option Nat :=
  match entry.event with
  | .groupBegun group => some group
  | _ => none

/-- The port that an entry tells of, if it tells of one. -/
def port? (entry : LogEntry) : Option Port :=
  match entry.event with
  | .portRead port => some port
  | _ => none

end LogEntry

/-- A log tells which phase a reading has come to and which ports it has found. -/
structure LogTells (log : List LogEntry) (phase : Phase) (ports : Ports) : Prop where
  /-- The passages are those up to the phase, in order. -/
  passages : log.filterMap LogEntry.passage? = Phase.passages.take phase.rank
  inputs : (log.filterMap LogEntry.port?).filter (·.direction.isInput) = ports.inputs
  outputs : (log.filterMap LogEntry.port?).filter (!·.direction.isInput) = ports.outputs
  /-- The groups that begin are numbered from one on. -/
  groups : log.filterMap LogEntry.group? = List.range' 1 (log.filterMap LogEntry.group?).length
  /-- A port is in the group whose beginning was the last to be told. -/
  inGroups : ∀ (i : Nat) (port : Port), log[i]?.bind LogEntry.port? = some port →
    port.group = ((log.take i).filterMap LogEntry.group?).length
  ordered : (log.map LogEntry.lineNumber).Pairwise (· ≤ ·)
  /-- No line begins a group and declares a port, or does one of them twice. -/
  apart : ((log.filter (·.passage?.isNone)).map LogEntry.lineNumber).Pairwise (· < ·)

namespace LogTells

variable {log : List LogEntry} {phase : Phase} {ports : Ports} {lineNumber : Nat}

theorem nil : LogTells [] .searching .empty where
  passages := rfl
  inputs := rfl
  outputs := rfl
  groups := rfl
  inGroups := nofun
  ordered := .nil
  apart := .nil

theorem pairwise_lineNumber_concat {r : Nat → Nat → Prop} {entry : LogEntry}
    (pairwise : (log.map LogEntry.lineNumber).Pairwise r)
    (before : ∀ other ∈ log, r other.lineNumber entry.lineNumber) :
    ((log ++ [entry]).map LogEntry.lineNumber).Pairwise r := by
  rw [List.map_append, List.pairwise_append]
  exact ⟨pairwise, List.pairwise_singleton _ _, by simpa using before⟩

/-- An entry that tells of no group keeps the groups as they are. -/
theorem groups_concat (tells : LogTells log phase ports) {entry : LogEntry}
    (none : entry.group? = none) :
    (log ++ [entry]).filterMap LogEntry.group? =
      List.range' 1 ((log ++ [entry]).filterMap LogEntry.group?).length := by
  have same : (log ++ [entry]).filterMap LogEntry.group? = log.filterMap LogEntry.group? := by
    simp [none]
  rw [same]
  exact tells.groups

/-- An entry keeps the ports before it in their groups, and tells of one in the last group
    itself. -/
theorem inGroups_concat (tells : LogTells log phase ports) {entry : LogEntry}
    (last : ∀ port, entry.port? = some port →
      port.group = (log.filterMap LogEntry.group?).length) (i : Nat) (port : Port)
    (found : (log ++ [entry])[i]?.bind LogEntry.port? = some port) :
    port.group = (((log ++ [entry]).take i).filterMap LogEntry.group?).length := by
  rcases Nat.lt_trichotomy i log.length with before | rfl | behind
  · rw [List.getElem?_append_left before] at found
    rw [List.take_append_of_le_length (Nat.le_of_lt before)]
    exact tells.inGroups i port found
  · rw [List.getElem?_concat_length, Option.bind_some] at found
    rw [List.take_left]
    exact last port found
  · rw [List.getElem?_eq_none (by simpa using Nat.succ_le_of_lt behind)] at found
    cases found

/-- The entry of a passage to the next phase. -/
theorem concat_passed (tells : LogTells log phase ports) {new : Phase}
    (next : Phase.passages.take new.rank = Phase.passages.take phase.rank ++ [(phase, new)])
    (ordered : ∀ entry ∈ log, entry.lineNumber ≤ lineNumber) :
    LogTells (log ++ [⟨lineNumber, .passed phase new⟩]) new ports where
  passages := by simp [LogEntry.passage?, tells.passages, next]
  inputs := by simp [LogEntry.port?, tells.inputs]
  outputs := by simp [LogEntry.port?, tells.outputs]
  groups := tells.groups_concat rfl
  inGroups := tells.inGroups_concat nofun
  ordered := pairwise_lineNumber_concat tells.ordered ordered
  apart := by simpa [LogEntry.passage?] using tells.apart

/-- The entry of the beginning of a group. -/
theorem concat_groupBegun (tells : LogTells log phase ports)
    (ordered : ∀ entry ∈ log, entry.lineNumber ≤ lineNumber)
    (apart : ∀ entry ∈ log, entry.passage? = none → entry.lineNumber < lineNumber) :
    LogTells (log ++ [⟨lineNumber, .groupBegun ((log.filterMap LogEntry.group?).length + 1)⟩])
      phase ports where
  passages := by simp [LogEntry.passage?, tells.passages]
  inputs := by simp [LogEntry.port?, tells.inputs]
  outputs := by simp [LogEntry.port?, tells.outputs]
  groups := by
    simp only [List.filterMap_append, List.filterMap_cons, List.filterMap_nil, LogEntry.group?,
      List.length_append, List.length_singleton]
    rw [List.range'_concat, Nat.one_mul, Nat.add_comm 1, ← tells.groups]
  inGroups := tells.inGroups_concat nofun
  ordered := pairwise_lineNumber_concat tells.ordered ordered
  apart := by
    rw [List.filter_append]
    exact pairwise_lineNumber_concat tells.apart (by simpa using apart)

/-- The entry of a port in the last group. -/
theorem concat_portRead (tells : LogTells log phase ports) {port : Port}
    (group : port.group = (log.filterMap LogEntry.group?).length)
    (ordered : ∀ entry ∈ log, entry.lineNumber ≤ lineNumber)
    (apart : ∀ entry ∈ log, entry.passage? = none → entry.lineNumber < lineNumber) :
    LogTells (log ++ [⟨lineNumber, .portRead port⟩]) phase (ports.add port) where
  passages := by simp [LogEntry.passage?, tells.passages]
  inputs := by
    cases side : port.direction.isInput <;> simp [LogEntry.port?, tells.inputs, Ports.add, side]
  outputs := by
    cases side : port.direction.isInput <;> simp [LogEntry.port?, tells.outputs, Ports.add, side]
  groups := tells.groups_concat rfl
  inGroups := tells.inGroups_concat fun other found => by cases found; exact group
  ordered := pairwise_lineNumber_concat tells.ordered ordered
  apart := by
    rw [List.filter_append]
    exact pairwise_lineNumber_concat tells.apart (by simpa using apart)

end LogTells

namespace Reading

/-- The log of a reading tells where the reading stands and what it has found, and all that it tells
    happened in lines that have been taken. A passage can have been logged for a line that is still
    being taken. -/
structure Told (reading : Reading) : Prop where
  tells : LogTells reading.log.toList reading.scanner.phase reading.scanner.ports
  group : reading.scanner.group = (reading.log.toList.filterMap LogEntry.group?).length
  ordered : ∀ entry ∈ reading.log.toList, entry.lineNumber ≤ reading.consumed + 1
  apart : ∀ entry ∈ reading.log.toList, entry.passage? = none →
    entry.lineNumber < reading.consumed + 1

namespace Told

variable {reading : Reading}

theorem initial : Reading.initial.Told := ⟨.nil, rfl, nofun, nofun⟩

theorem skip (told : reading.Told) (count : Nat) : (reading.skip count).Told where
  tells := told.tells
  group := told.group
  ordered entry member := by
    have := told.ordered entry member
    simp only [Reading.skip]
    omega
  apart entry member content := by
    have := told.apart entry member content
    simp only [Reading.skip]
    omega

theorem ordered_push (told : reading.Told) (event : Event) :
    ∀ entry ∈ reading.log.toList ++ [⟨reading.consumed + 1, event⟩],
      entry.lineNumber ≤ reading.consumed + 1 := by
  intro entry member
  rcases List.mem_append.mp member with before | last
  · exact told.ordered entry before
  · rw [List.mem_singleton.mp last]

/-- Passing to the next phase is logged. -/
theorem pass (told : reading.Told) {new : Phase}
    (next : Phase.passages.take new.rank =
      Phase.passages.take reading.scanner.phase.rank ++ [(reading.scanner.phase, new)]) :
    (reading.pass new).Told := by
  have log : (reading.pass new).log.toList =
      reading.log.toList ++ [⟨reading.consumed + 1, .passed reading.scanner.phase new⟩] := by
    simp [Reading.pass]
  constructor
  · rw [log]
    exact told.tells.concat_passed next told.ordered
  · rw [log, List.filterMap_append, List.length_append]
    exact told.group
  · rw [log]
    exact told.ordered_push _
  · rw [log]
    intro entry member content
    rcases List.mem_append.mp member with before | last
    · exact told.apart entry before content
    · rw [List.mem_singleton.mp last] at content
      cases content

/-- A line that brings about one thing besides passages is logged once. -/
theorem of_scan (told : reading.Told) {line : Line} {event : Event} {scanner : Scanner}
    (step : reading.scanner.read line = ⟨scanner, [event], none⟩)
    (tells : LogTells (reading.log.toList ++ [⟨reading.consumed + 1, event⟩]) scanner.phase
      scanner.ports)
    (group : scanner.group = ((reading.log.toList ++
      [LogEntry.mk (reading.consumed + 1) event]).filterMap LogEntry.group?).length) :
    (reading.scan line).Told := by
  have log : (reading.scan line).log.toList =
      reading.log.toList ++ [⟨reading.consumed + 1, event⟩] := by
    simp [Reading.scan, step]
  have behind : (reading.scan line).scanner = scanner := by simp [Reading.scan, step]
  have later : ∀ entry ∈ (reading.scan line).log.toList,
      entry.lineNumber < (reading.scan line).consumed + 1 := by
    rw [log]
    intro entry member
    exact Nat.lt_succ_of_le (told.ordered_push event entry member)
  constructor
  · rwa [log, behind]
  · rwa [log, behind]
  · exact fun entry member => Nat.le_of_lt (later entry member)
  · exact fun entry member _ => later entry member

/-- A line that ends a reading badly is not logged. -/
theorem of_scan_refused (told : reading.Told) {line : Line} {keyword : String}
    (step : reading.scanner.read line =
      ⟨{ reading.scanner with groupEmpty := false }, [], some keyword⟩) :
    (reading.scan line).Told := by
  have log : (reading.scan line).log = reading.log := by simp [Reading.scan, step]
  have scanner : (reading.scan line).scanner = { reading.scanner with groupEmpty := false } := by
    simp [Reading.scan, step]
  constructor
  · rw [log, scanner]
    exact told.tells
  · rw [log, scanner]
    exact told.group
  · rw [log]
    exact fun entry member => Nat.le_succ_of_le (told.ordered entry member)
  · rw [log]
    exact fun entry member content => Nat.lt_succ_of_lt (told.apart entry member content)

theorem scan_of_separate (told : reading.Told) (running : reading.refused? = none) {line : Line}
    (step : reading.scanner.read line = reading.scanner.separate) : (reading.scan line).Told := by
  by_cases empty : reading.scanner.groupEmpty = true
  · rw [Scanner.separate, if_pos empty] at step
    rw [scan_of_stay running step]
    exact told.skip 1
  · rw [Scanner.separate, if_neg empty] at step
    rw [told.group] at step
    apply told.of_scan step
    · exact told.tells.concat_groupBegun told.ordered told.apart
    · simp [LogEntry.group?]

theorem scan_of_addPort (told : reading.Told) {line : Line} {port : Port}
    (group : port.group = reading.scanner.group)
    (step : reading.scanner.read line = reading.scanner.addPort port) :
    (reading.scan line).Told := by
  apply told.of_scan step
  · exact told.tells.concat_portRead (by rw [group, told.group]) told.ordered told.apart
  · rw [List.filterMap_append, List.length_append]
    exact told.group

theorem scan_of_finish (told : reading.Told) (phase : reading.scanner.phase = .inPorts)
    {line : Line} (finish : line.kind = .finish) : (reading.scan line).Told := by
  have step := Scanner.read_of_inPorts phase line
  rw [finish, Scanner.readKind, Scanner.pass] at step
  apply told.of_scan step
  · exact told.tells.concat_passed (by rw [phase]; rfl) told.ordered
  · rw [List.filterMap_append, List.length_append]
    exact told.group

/-- Every line of the port clause is logged for what it brings about. -/
theorem scan_of_inPorts (told : reading.Told) (phase : reading.scanner.phase = .inPorts)
    (running : reading.refused? = none) (line : Line) : (reading.scan line).Told := by
  cases stops : line.stops with
  | false =>
    cases Scanner.clauseStep phase stops with
    | skipped kind step =>
      rw [scan_of_stay running step]
      exact told.skip 1
    | blank kind step => exact told.scan_of_separate running step
    | declaration spelling written direction spelled step => exact told.scan_of_addPort rfl step
  | true =>
    rcases Bool.or_eq_true_iff.mp stops with finish | refused
    · exact told.scan_of_finish phase (Line.kind_eq_finish_iff.mpr finish)
    · obtain ⟨declaration, kind, turkish⟩ := Line.isRefused_iff.mp refused
      have step := Scanner.read_of_inPorts phase line
      rw [kind, Scanner.readKind, Scanner.declare_of_hasTurkishI _ turkish] at step
      exact told.of_scan_refused step

/-- Before the port clause a line is logged for the passage that it brings about, and for what it
    brings about behind it. -/
theorem scan_of_gate {old new : Phase} {keyword : Keyword} (gate : Phase.Gate old new keyword)
    (told : reading.Told) (phase : reading.scanner.phase = old) (running : reading.refused? = none)
    {line : Line} (further : (reading.pass new).Told → ((reading.pass new).scan line).Told) :
    (reading.scan line).Told := by
  cases present : line.marks keyword with
  | false =>
    rw [scan_of_stay running (Scanner.read_of_not_marks gate phase present)]
    exact told.skip 1
  | true =>
    rw [scan_of_marks gate phase present]
    apply further
    apply told.pass
    rw [phase]
    cases gate <;> rfl

/-- Whatever a line holds, the log tells the story behind it if it did before. -/
theorem scan (told : reading.Told) (running : reading.isOver = false) (line : Line) :
    (reading.scan line).Told := by
  have notRefused := refused?_of_isOver_eq_false running
  cases phase : reading.scanner.phase with
  | searching =>
    apply scan_of_gate .entity told phase notRefused
    intro inEntity
    apply scan_of_gate .port inEntity rfl notRefused
    intro inPorts
    exact inPorts.scan_of_inPorts rfl notRefused line
  | inEntity =>
    apply scan_of_gate .port told phase notRefused
    intro inPorts
    exact inPorts.scan_of_inPorts rfl notRefused line
  | inPorts => exact told.scan_of_inPorts phase notRefused line
  | complete => simp [isOver, phase] at running

end Told

/-- The log of a reading tells the story of its scanner. -/
theorem told_scanLines {reading : Reading} (told : reading.Told) (lines : List Line) :
    (reading.scanLines lines).Told := by
  induction lines generalizing reading with
  | nil => exact told
  | cons line lines ih =>
    cases running : reading.isOver with
    | true => rwa [scanLines_of_isOver running]
    | false =>
      rw [scanLines_cons running]
      exact ih (told.scan running line)

theorem result_eq_ok_iff {reading : Reading} {source : String} {ports : Ports} :
    reading.result source = .ok ports ↔ reading.refused? = none ∧
      reading.scanner.phase = .complete ∧ reading.scanner.ports = ports := by
  unfold result
  cases reading.refused? with
  | some keyword => simp
  | none => by_cases complete : reading.scanner.phase = .complete <;> simp [complete]

theorem result_eq_incomplete_iff {reading : Reading} {source name : String}
    {phase? : Option Phase} :
    reading.result source = .error (.incomplete name phase?) ↔ reading.refused? = none ∧
      reading.scanner.phase ≠ .complete ∧ name = source ∧ phase? = some reading.scanner.phase := by
  unfold result
  cases reading.refused? with
  | some keyword => simp
  | none => by_cases complete : reading.scanner.phase = .complete <;> simp [complete, eq_comm]

/-- The end of the log of a reading that finds ports. -/
theorem messages_of_complete {reading : Reading} (running : reading.refused? = none)
    (complete : reading.scanner.phase = .complete) (source : String) :
    reading.messages source = reading.log.toList.map LogEntry.message ++
      [source ++ ": " ++ (toString reading.scanner.ports.inputs.length ++ " inputs, " ++
        toString reading.scanner.ports.outputs.length ++ " outputs in " ++
        toString (reading.scanner.group + 1) ++ " groups")] := by
  simp [messages, summary?, running, complete]

theorem messages_of_incomplete {reading : Reading} (running : reading.refused? = none)
    (incomplete : reading.scanner.phase ≠ .complete) (source : String) :
    reading.messages source = reading.log.toList.map LogEntry.message ++
      [source ++ ": " ++ ("input ended while " ++ reading.scanner.phase.describe)] := by
  simp [messages, summary?, running, incomplete]

/-- The log of a reading tells the same story as its result. If ports are found, it tells all of
    them and their groups, and ends with how many there are; the number of groups there is that of
    the groups of the ports, and one more if there are no ports or if a blank line follows the last
    declaration. If the source ends too early, the log ends with the phase of the error, and tells
    the passages up to it. -/
theorem log_tells_result (lines : List String) (source : String) :
    let reading := ofLines lines
    let log := reading.log.toList
    let groups := 1 + (log.filterMap LogEntry.group?).length
    (∀ ports, reading.result source = .ok ports →
      LogTells log .complete ports ∧
      reading.messages source = log.map LogEntry.message ++
        [source ++ ": " ++ (toString ports.inputs.length ++ " inputs, " ++
          toString ports.outputs.length ++ " outputs in " ++ toString groups ++ " groups")] ∧
      ∃ port finish, EntersAt lines .inPorts port ∧ EntersAt lines .complete finish ∧
        let body := (clause port finish (scanned lines)).filter (!·.isComment)
        groups = ports.groups.length +
          if ports.count = 0 ∨ Body.BlankFollowsLast body then 1 else 0) ∧
    ∀ name phase?, reading.result source = .error (.incomplete name phase?) →
      ∃ phase, name = source ∧ phase? = some phase ∧ phase ≠ .complete ∧
        LogTells log phase reading.scanner.ports ∧
        reading.messages source = log.map LogEntry.message ++
          [source ++ ": " ++ ("input ended while " ++ phase.describe)] := by
  intro reading log groups
  have told : reading.Told := by
    rw [show reading = initial.scanLines (scanned lines) from ofLines_eq_scanLines lines]
    exact told_scanLines .initial _
  have count : groups = reading.scanner.group + 1 := by rw [told.group, Nat.add_comm]
  constructor
  · intro ports success
    obtain ⟨running, complete, rfl⟩ := result_eq_ok_iff.mp success
    have tells := told.tells
    rw [complete] at tells
    rw [messages_of_complete running complete, count]
    exact ⟨tells, rfl, length_groups_of_result_eq_ok success⟩
  · intro name phase? failed
    obtain ⟨running, incomplete, rfl, rfl⟩ := result_eq_incomplete_iff.mp failed
    exact ⟨_, rfl, rfl, incomplete, told.tells, messages_of_incomplete running incomplete _⟩

/-- A source whose last group is never filled. -/
def emptyLastGroup : List String :=
  ["entity e is port (", "a : out std_logic;", "  ", "-- b", "b : in std_logic", "\t", "", ");",
    "end"]

theorem log_tells_emptyLastGroup :
    let ports : Ports := ⟨[⟨1, "b", false, .input⟩], [⟨0, "a", false, .output⟩]⟩
    let cutOff := ofLines (emptyLastGroup.take 2)
    ((ofLines emptyLastGroup).result "s" = .ok ports ∧ ports.groups.length = 2 ∧
      LogTells (ofLines emptyLastGroup).log.toList .complete ports ∧
      (ofLines emptyLastGroup).messages "s" =
        ["line 1: searching for entity -> in entity", "line 1: in entity -> in entity port",
          "line 2: out port 0~a", "line 3: starting port group 1", "line 5: in port 1~b",
          "line 6: starting port group 2", "line 9: in entity port -> complete",
          "s: 1 inputs, 1 outputs in 3 groups"]) ∧
      cutOff.result "s" = .error (.incomplete "s" (some .inPorts)) ∧
      LogTells cutOff.log.toList .inPorts cutOff.scanner.ports ∧
      cutOff.messages "s" =
        ["line 1: searching for entity -> in entity", "line 1: in entity -> in entity port",
          "line 2: out port 0~a", "s: input ended while in entity port"] := by
  intro ports cutOff
  have success : (ofLines emptyLastGroup).result "s" = .ok ports := by decide +kernel
  have failed : cutOff.result "s" = .error (.incomplete "s" (some .inPorts)) := by decide +kernel
  obtain ⟨tells, -, -⟩ := (log_tells_result emptyLastGroup "s").1 ports success
  obtain ⟨phase, -, same, -, tellsSoFar, -⟩ :=
    (log_tells_result (emptyLastGroup.take 2) "s").2 "s" (some .inPorts) failed
  obtain rfl : Phase.inPorts = phase := Option.some.inj same
  exact ⟨⟨success, by decide, tells, by decide +kernel⟩, failed, tellsSoFar, by decide +kernel⟩

end Reading

end EntityDiagram
