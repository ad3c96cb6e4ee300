import EntityDiagram.Proofs.Source.Clause
import EntityDiagram.Source.Reading
import Mathlib.Order.Bounds.Defs

/-!
How a reading ends, told from where its landmarks stand: the first line with `entity`, from there on
the first with `port`, from there on the first with `end`, and the first refused declaration before
that. A reading jumps from landmark to landmark, because every line between two of them leaves it
where it is.
-/

namespace EntityDiagram

/-- A line as the scanner sees it, without the line breaks at its end. -/
def scanned (lines : List String) : List Line :=
  lines.map fun line => Text.trimFileBreaks line.toList

/-- The least index from `start` on of a line with a property, if there is one. -/
def firstFrom? (start : Nat) (property : Line → Bool) (lines : List Line) : Option Nat :=
  ((lines.drop start).findIdx? property).map (start + ·)

theorem firstFrom?_eq_some_iff {start index : Nat} {property : Line → Bool} {lines : List Line} :
    firstFrom? start property lines = some index ↔
      IsLeast {i | start ≤ i ∧ ∃ line, lines[i]? = some line ∧ property line = true} index := by
  simp only [firstFrom?, Option.map_eq_some_iff, List.findIdx?_eq_some_iff_getElem]
  constructor
  · rintro ⟨offset, ⟨inside, holds, before⟩, rfl⟩
    rw [List.getElem_drop] at holds
    refine ⟨⟨by omega, _, List.getElem?_eq_getElem _, holds⟩, ?_⟩
    rintro i ⟨behind, line, found, lineHolds⟩
    by_contra earlier
    have absent := before (i - start) (by omega)
    obtain ⟨bound, rfl⟩ := List.getElem?_eq_some_iff.mp found
    simp only [List.getElem_drop, show start + (i - start) = i by omega] at absent
    exact absent lineHolds
  · rintro ⟨⟨behind, line, found, holds⟩, least⟩
    obtain ⟨bound, rfl⟩ := List.getElem?_eq_some_iff.mp found
    refine ⟨index - start, ⟨by rw [List.length_drop]; omega, ?_, ?_⟩, by omega⟩
    · simpa only [List.getElem_drop, show start + (index - start) = index by omega] using holds
    · intro offset before lineHolds
      rw [List.getElem_drop] at lineHolds
      have later := least ⟨by omega, _, List.getElem?_eq_getElem _, lineHolds⟩
      omega

theorem firstFrom?_eq_none_iff {start : Nat} {property : Line → Bool} {lines : List Line} :
    firstFrom? start property lines = none ↔
      ∀ i line, start ≤ i → lines[i]? = some line → property line = false := by
  simp only [firstFrom?, Option.map_eq_none_iff, List.findIdx?_eq_none_iff]
  constructor
  · intro absent i line behind found
    apply absent
    apply List.mem_of_getElem? (i := i - start)
    rw [List.getElem?_drop, show start + (i - start) = i by omega, found]
  · intro absent line member
    obtain ⟨offset, found⟩ := List.mem_iff_getElem?.mp member
    rw [List.getElem?_drop] at found
    exact absent (start + offset) line (by omega) found

/-- The lines from `start` on, cut at a line. -/
theorem drop_eq_append {start index : Nat} (behind : start ≤ index) {lines : List Line}
    {line : Line} (found : lines[index]? = some line) :
    lines.drop start = (lines.take index).drop start ++ line :: lines.drop (index + 1) := by
  obtain ⟨inside, rfl⟩ := List.getElem?_eq_some_iff.mp found
  rw [← List.drop_eq_getElem_cons inside]
  conv => lhs; rw [← List.take_append_drop index lines]
  rw [List.drop_append_of_le_length (by rw [List.length_take]; omega)]

theorem mem_drop_take {start stop : Nat} {lines : List Line} {line : Line}
    (member : line ∈ (lines.take stop).drop start) :
    ∃ i, start ≤ i ∧ i < stop ∧ lines[i]? = some line := by
  obtain ⟨offset, found⟩ := List.mem_iff_getElem?.mp member
  rw [List.getElem?_drop] at found
  have inside : start + offset < stop := by
    have bound := (List.getElem?_eq_some_iff.mp found).1
    rw [List.length_take] at bound
    omega
  rw [List.getElem?_take_of_lt inside] at found
  exact ⟨start + offset, by omega, inside, found⟩

/-- In the first lines stands the first line with a property if it stands among them. -/
theorem firstFrom?_take_eq_some_iff {start index count : Nat} {property : Line → Bool}
    {lines : List Line} :
    firstFrom? start property (lines.take count) = some index ↔
      firstFrom? start property lines = some index ∧ index < count := by
  rw [firstFrom?_eq_some_iff, firstFrom?_eq_some_iff]
  have inTake : ∀ i line,
      (lines.take count)[i]? = some line ↔ i < count ∧ lines[i]? = some line := by
    intro i line
    rw [List.getElem?_take]
    split
    · rename_i inside
      simp [inside]
    · rename_i outside
      simp [outside]
  constructor
  · rintro ⟨⟨behind, line, found, holds⟩, least⟩
    obtain ⟨inside, found⟩ := (inTake index line).mp found
    refine ⟨⟨⟨behind, line, found, holds⟩, ?_⟩, inside⟩
    rintro i ⟨iBehind, other, otherFound, otherHolds⟩
    by_contra earlier
    exact earlier (least ⟨iBehind, other, (inTake i other).mpr ⟨by omega, otherFound⟩, otherHolds⟩)
  · rintro ⟨⟨⟨behind, line, found, holds⟩, least⟩, inside⟩
    refine ⟨⟨behind, line, (inTake index line).mpr ⟨inside, found⟩, holds⟩, ?_⟩
    rintro i ⟨iBehind, other, otherFound, otherHolds⟩
    exact least ⟨iBehind, other, ((inTake i other).mp otherFound).2, otherHolds⟩

/-- The indices of the lines that decide how a reading ends. -/
structure Landmarks where
  entity? : Option Nat
  port? : Option Nat
  finish? : Option Nat
  refusal? : Option Nat
  deriving DecidableEq, Repr

namespace Landmarks

/-- The landmarks of lines. Only what stands before the end of the clause can be refused. -/
def of (lines : List Line) : Landmarks :=
  let entity? := firstFrom? 0 (Line.marks .entity) lines
  let port? := entity?.bind fun entity => firstFrom? entity (Line.marks .port) lines
  let finish? := port?.bind fun port => firstFrom? port (Line.marks .finish) lines
  let clause := lines.take (finish?.getD lines.length)
  ⟨entity?, port?, finish?, port?.bind fun port => firstFrom? port Line.isRefused clause⟩

/-- The phase in which lines without an end of the clause leave a reading. -/
def phase (landmarks : Landmarks) : Phase :=
  if landmarks.port?.isSome then .inPorts
  else if landmarks.entity?.isSome then .inEntity
  else .searching

theorem port?_of_entity? {lines : List Line} {entity : Nat}
    (found : (of lines).entity? = some entity) :
    (of lines).port? = firstFrom? entity (Line.marks .port) lines := by
  have first : firstFrom? 0 (Line.marks .entity) lines = some entity := found
  simp [of, first]

theorem finish?_eq (lines : List Line) :
    (of lines).finish? =
      (of lines).port?.bind fun port => firstFrom? port (Line.marks .finish) lines := rfl

theorem refusal?_eq (lines : List Line) :
    (of lines).refusal? = (of lines).port?.bind fun port =>
      firstFrom? port Line.isRefused (lines.take ((of lines).finish?.getD lines.length)) := rfl

theorem finish?_of_port? {lines : List Line} {port : Nat}
    (found : (of lines).port? = some port) :
    (of lines).finish? = firstFrom? port (Line.marks .finish) lines := by
  rw [finish?_eq, found, Option.bind_some]

theorem refusal?_of_port? {lines : List Line} {port : Nat}
    (found : (of lines).port? = some port) :
    (of lines).refusal? =
      firstFrom? port Line.isRefused (lines.take ((of lines).finish?.getD lines.length)) := by
  rw [refusal?_eq, found, Option.bind_some]

/-- In the first lines of a source the port clause opens if it opens in one of them. -/
theorem port?_take_eq_some_iff {lines : List Line} {count port : Nat} :
    (of (lines.take count)).port? = some port ↔ (of lines).port? = some port ∧ port < count := by
  simp only [of, Option.bind_eq_some_iff, firstFrom?_take_eq_some_iff]
  constructor
  · rintro ⟨entity, ⟨first, -⟩, found, inside⟩
    exact ⟨⟨entity, first, found⟩, inside⟩
  · rintro ⟨⟨entity, first, found⟩, inside⟩
    have behind := (firstFrom?_eq_some_iff.mp found).1.1
    exact ⟨entity, ⟨first, by omega⟩, found, inside⟩

/-- In the first lines of a source the port clause ends if it ends in one of them. -/
theorem finish?_take_eq_some_iff {lines : List Line} {count finish : Nat} :
    (of (lines.take count)).finish? = some finish ↔
      (of lines).finish? = some finish ∧ finish < count := by
  simp only [finish?_eq, Option.bind_eq_some_iff, port?_take_eq_some_iff,
    firstFrom?_take_eq_some_iff]
  constructor
  · rintro ⟨port, ⟨opens, -⟩, found, inside⟩
    exact ⟨⟨port, opens, found⟩, inside⟩
  · rintro ⟨⟨port, opens, found⟩, inside⟩
    have behind := (firstFrom?_eq_some_iff.mp found).1.1
    exact ⟨port, ⟨opens, by omega⟩, found, inside⟩

theorem phase_ne_complete (landmarks : Landmarks) : landmarks.phase ≠ .complete := by
  unfold phase
  split
  · decide
  · split <;> decide

end Landmarks

namespace Reading

theorem ofLines_eq_scanLines (lines : List String) :
    ofLines lines = initial.scanLines (scanned lines) := by
  rw [ofLines, takeLines, List.map_map]
  rfl

/-- A reading that has taken some more lines without any effect. -/
def skip (reading : Reading) (count : Nat) : Reading :=
  { reading with consumed := reading.consumed + count }

theorem skip_one_skip (reading : Reading) (count : Nat) :
    (reading.skip 1).skip count = reading.skip (count + 1) := by
  simp only [skip, Nat.add_assoc, Nat.add_comm 1]

/-- A reading that its next line takes to another phase. -/
def pass (reading : Reading) (phase : Phase) : Reading :=
  { reading with
    scanner := { reading.scanner with phase := phase }
    log := reading.log.push ⟨reading.consumed + 1, .passed reading.scanner.phase phase⟩ }

theorem scan_of_stay {reading : Reading} (running : reading.refused? = none) {line : Line}
    (stays : reading.scanner.read line = reading.scanner.stay) :
    reading.scan line = reading.skip 1 := by
  simp [scan, stays, Scanner.stay, skip, ← running]

theorem scan_of_marks {old new : Phase} {keyword : Keyword} (gate : Phase.Gate old new keyword)
    {reading : Reading} (phase : reading.scanner.phase = old) {line : Line}
    (present : line.marks keyword = true) : reading.scan line = (reading.pass new).scan line := by
  simp [scan, Scanner.read_of_marks gate phase present, Scanner.Step.andThen, Scanner.pass, pass]

theorem isOver_eq_false {reading : Reading} (phase : reading.scanner.phase ≠ .complete)
    (running : reading.refused? = none) : reading.isOver = false := by
  simp [isOver, phase, running]

/-- A reading never goes back to an earlier phase. -/
theorem rank_le_scanLines (reading : Reading) (lines : List Line) :
    reading.scanner.phase.rank ≤ (reading.scanLines lines).scanner.phase.rank := by
  induction lines generalizing reading with
  | nil => exact Nat.le_refl _
  | cons line lines ih =>
    cases ended : reading.isOver with
    | true => rw [scanLines_of_isOver ended]
    | false =>
      rw [scanLines_cons ended]
      exact Nat.le_trans (reading.scanner.rank_le_read line) (ih (reading.scan line))

/-- Before the port clause a reading jumps to the line with the keyword that leads on. -/
theorem scanLines_of_gate {old new : Phase} {keyword : Keyword}
    (gate : Phase.Gate old new keyword) {reading : Reading} (phase : reading.scanner.phase = old)
    (running : reading.refused? = none) (lines : List Line) :
    reading.scanLines lines =
      match lines.findIdx? (Line.marks keyword) with
      | none => reading.skip lines.length
      | some index => ((reading.skip index).pass new).scanLines (lines.drop index) := by
  have here : reading.isOver = false := by
    apply isOver_eq_false _ running
    rw [phase]
    cases gate <;> decide
  induction lines generalizing reading with
  | nil => rfl
  | cons line lines ih =>
    rw [scanLines_cons here, List.findIdx?_cons]
    cases present : line.marks keyword with
    | true =>
      have passed : (reading.pass new).isOver = false := by
        apply isOver_eq_false
        · cases gate <;> exact nofun
        · exact running
      rw [scan_of_marks gate phase present, ← scanLines_cons passed]
      rfl
    | false =>
      have stays := Scanner.read_of_not_marks gate phase present
      have later := @ih (reading.skip 1) phase running here
      rw [scan_of_stay running stays, later, if_neg (by simp)]
      cases lines.findIdx? (Line.marks keyword) with
      | none => simp [skip_one_skip]
      | some index => simp [skip_one_skip]

/-- Until a line stops it, a reading of the port clause goes on with the scanner of the clause. -/
theorem scanLines_of_not_stops {reading : Reading} (phase : reading.scanner.phase = .inPorts)
    (running : reading.refused? = none) {lines : List Line}
    (runs : ∀ line ∈ lines, line.stops = false) :
    let after := reading.scanLines lines
    after.scanner = reading.scanner.readAll lines ∧ after.scanner.phase = .inPorts ∧
      after.consumed = reading.consumed + lines.length ∧ after.refused? = none := by
  induction lines generalizing reading with
  | nil => exact ⟨rfl, phase, rfl, running⟩
  | cons line lines ih =>
    have here : reading.isOver = false := isOver_eq_false (by rw [phase]; decide) running
    obtain ⟨nextPhase, nextRunning⟩ := Scanner.read_of_not_stops phase (runs line (by simp))
    obtain ⟨same, finalPhase, consumed, finalRunning⟩ := @ih (reading.scan line)
      nextPhase nextRunning (fun other member => runs other (by simp [member]))
    have one : (reading.scan line).consumed = reading.consumed + 1 := rfl
    rw [scanLines_cons here]
    refine ⟨same, finalPhase, ?_, finalRunning⟩
    rw [consumed, one, List.length_cons]
    omega

/-- The reading behind the lines before the port clause, which it entered at the line with index
    `port`. -/
def entered (entity port : Nat) : Reading :=
  ⟨{ Scanner.initial with phase := .inPorts }, port,
    #[⟨entity + 1, .passed .searching .inEntity⟩, ⟨port + 1, .passed .inEntity .inPorts⟩], none⟩

theorem scanLines_of_entity?_eq_none {lines : List Line}
    (absent : (Landmarks.of lines).entity? = none) :
    initial.scanLines lines = initial.skip lines.length := by
  have nowhere : lines.findIdx? (Line.marks .entity) = none := Option.map_eq_none_iff.mp absent
  rw [scanLines_of_gate .entity rfl rfl, nowhere]

theorem scanLines_of_entity? {lines : List Line} {entity : Nat}
    (found : (Landmarks.of lines).entity? = some entity) :
    initial.scanLines lines =
      ((initial.skip entity).pass .inEntity).scanLines (lines.drop entity) := by
  obtain ⟨index, foundIndex, same⟩ := Option.map_eq_some_iff.mp found
  obtain rfl : index = entity := by omega
  have first : lines.findIdx? (Line.marks .entity) = some index := foundIndex
  rw [scanLines_of_gate .entity rfl rfl, first]

theorem scanLines_of_port?_eq_none {lines : List Line} {entity : Nat}
    (found : (Landmarks.of lines).entity? = some entity)
    (absent : (Landmarks.of lines).port? = none) :
    initial.scanLines lines =
      ((initial.skip entity).pass .inEntity).skip (lines.length - entity) := by
  rw [Landmarks.port?_of_entity? found] at absent
  have nowhere := Option.map_eq_none_iff.mp absent
  rw [scanLines_of_entity? found, scanLines_of_gate .port rfl rfl, nowhere, List.length_drop]

/-- A reading of lines that open a port clause is a reading of the clause. -/
theorem scanLines_of_port? {lines : List Line} {port : Nat}
    (found : (Landmarks.of lines).port? = some port) :
    ∃ entity, (Landmarks.of lines).entity? = some entity ∧ entity ≤ port ∧
      initial.scanLines lines = (entered entity port).scanLines (lines.drop port) := by
  obtain ⟨entity, first, portFound⟩ := Option.bind_eq_some_iff.mp found
  obtain ⟨offset, index, rfl⟩ := Option.map_eq_some_iff.mp portFound
  refine ⟨entity, first, by omega, ?_⟩
  rw [scanLines_of_entity? first, scanLines_of_gate .port rfl rfl, index]
  simp [skip, pass, entered, initial, Scanner.initial]

/-- The line with `end` completes a reading of the port clause. -/
theorem scan_of_finish {reading : Reading} (phase : reading.scanner.phase = .inPorts) {line : Line}
    (finish : line.marks .finish = true) :
    reading.scan line =
      ⟨{ reading.scanner with phase := .complete }, reading.consumed + 1,
        reading.log.push ⟨reading.consumed + 1, .passed .inPorts .complete⟩, none⟩ := by
  have kind := Line.kind_eq_finish_iff.mpr finish
  simp [scan, Scanner.read_of_inPorts phase, kind, Scanner.readKind, Scanner.pass, phase]

/-- A refused declaration breaks a reading of the port clause off. -/
theorem scan_of_hasTurkishI {reading : Reading} (phase : reading.scanner.phase = .inPorts)
    {line : Line} {declaration : Declaration} (kind : line.kind = .declaration declaration)
    (turkish : Text.hasTurkishI declaration.mode = true) :
    reading.scan line =
      ⟨{ reading.scanner with groupEmpty := false }, reading.consumed + 1, reading.log,
        some (Text.lower (String.ofList declaration.mode))⟩ := by
  simp [scan, Scanner.read_of_inPorts phase, kind, Scanner.readKind,
    Scanner.declare_of_hasTurkishI _ turkish]

theorem isOver_scan_of_stops {reading : Reading} (phase : reading.scanner.phase = .inPorts)
    {line : Line} (stops : line.stops = true) : (reading.scan line).isOver = true := by
  rcases Bool.or_eq_true_iff.mp stops with finish | refused
  · rw [scan_of_finish phase finish]
    rfl
  · obtain ⟨declaration, kind, turkish⟩ := Line.isRefused_iff.mp refused
    rw [scan_of_hasTurkishI phase kind turkish]
    simp [isOver]

/-- A reading of the port clause takes the lines up to the first that stops it. -/
theorem scanLines_of_stops {reading : Reading} (phase : reading.scanner.phase = .inPorts)
    (running : reading.refused? = none) {lines : List Line} {start stop : Nat} {line : Line}
    (behind : start ≤ stop) (found : lines[stop]? = some line) (stops : line.stops = true)
    (runs : ∀ i other, start ≤ i → i < stop → lines[i]? = some other → other.stops = false) :
    reading.scanLines (lines.drop start) =
      (reading.scanLines ((lines.take stop).drop start)).scan line := by
  have before : ∀ other ∈ (lines.take stop).drop start, other.stops = false := by
    intro other member
    obtain ⟨i, lower, upper, here⟩ := mem_drop_take member
    exact runs i other lower upper here
  obtain ⟨-, stillInPorts, -, stillRunning⟩ := scanLines_of_not_stops phase running before
  have here := isOver_eq_false (by rw [stillInPorts]; decide) stillRunning
  rw [drop_eq_append behind found, scanLines_append, scanLines_cons here]
  exact scanLines_of_isOver (isOver_scan_of_stops stillInPorts stops) _

end Reading

end EntityDiagram
