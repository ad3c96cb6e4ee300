import EntityDiagram.Proofs.Diagram.LetterCase
import EntityDiagram.Proofs.Source.Groups
import EntityDiagram.Proofs.Text.LetterCase

/-!
The case of ASCII letters in a source. A source in small letters is read as the source itself, step
by step, but for the names of the ports, which come out in small letters. So sources that differ in
the case of letters only have the same outcome up to the case of the names, and diagrams of one
shape.
-/

namespace EntityDiagram

open Text

namespace Line

theorem isComment_map_toLower (line : Line) :
    isComment (line.map Char.toLower) = line.isComment := by
  have hyphen : ∀ c : Char, c.toLower = '-' ↔ c = '-' := fun c => toLower_eq_iff (by decide)
  rw [Bool.eq_iff_iff, isComment_iff_skipSpace, isComment_iff_skipSpace, skipSpace_map_toLower]
  constructor
  · rintro ⟨small, lowered⟩
    obtain ⟨first, rest, front, firstHyphen, restLowered⟩ := List.map_eq_cons_iff.mp lowered
    obtain ⟨second, behind, next, secondHyphen, -⟩ := List.map_eq_cons_iff.mp restLowered
    rw [hyphen] at firstHyphen secondHyphen
    exact ⟨behind, by rw [front, next, firstHyphen, secondHyphen]⟩
  · rintro ⟨behind, front⟩
    exact ⟨behind.map Char.toLower, by rw [front]; rfl⟩

theorem isBlank_map_toLower (line : Line) : isBlank (line.map Char.toLower) = line.isBlank :=
  Text.isBlank_map_toLower line

theorem has_map_toLower (keyword : Keyword) (line : Line) :
    has keyword (line.map Char.toLower) = line.has keyword :=
  hasWord_map_toLower keyword.letters line

end Line

namespace Declaration

/-- The declaration with its name and its mode in small ASCII letters. -/
def small (declaration : Declaration) : Declaration :=
  ⟨declaration.name.map Char.toLower, declaration.mode.map Char.toLower, declaration.isVector⟩

theorem word?_map_toLower (text : List Char) :
    word? (text.map Char.toLower) =
      (word? text).map fun found => (found.1.map Char.toLower, found.2.map Char.toLower) := by
  have same : isWordChar ∘ Char.toLower = isWordChar := funext isWordChar_toLower
  rw [word?, word?, List.takeWhile_map, List.dropWhile_map, same]
  cases text.takeWhile isWordChar with
  | nil => rfl
  | cons c word => rfl

theorem afterColon?_map_toLower (text : List Char) :
    afterColon? (text.map Char.toLower) = (afterColon? text).map (List.map Char.toLower) := by
  have colon : ∀ c : Char, c.toLower = ':' ↔ c = ':' := fun c => toLower_eq_iff (by decide)
  cases text with
  | nil => rfl
  | cons c text =>
    by_cases first : c = ':'
    · subst first
      rfl
    · have lowered : c.toLower ≠ ':' := fun same => first ((colon c).mp same)
      simp [afterColon?, first, lowered]

theorem isMode_map_toLower (word : List Char) : isMode (word.map Char.toLower) = isMode word := by
  have same : ∀ letters : List Char,
      spells letters (word.map Char.toLower) = spells letters word := by
    intro letters
    rw [spells, spells, afterSpelling?_map_toLower]
    cases afterSpelling? letters word with
    | none => rfl
    | some rest => cases rest <;> rfl
  simp only [isMode, same]

theorem afterSpace?_map_toLower (text : List Char) :
    afterSpace? (text.map Char.toLower) = (afterSpace? text).map (List.map Char.toLower) := by
  cases text with
  | nil => rfl
  | cons c text =>
    simp only [List.map_cons, afterSpace?, isSpace_toLower, skipSpace_map_toLower]
    split
    · rfl
    · rfl

/-- What a line declares in small letters is what it declares, in small letters. -/
theorem read?_map_toLower (line : Line) :
    read? (line.map Char.toLower) = (read? line).map small := by
  simp only [read?, skipSpace_map_toLower, word?_map_toLower]
  cases word? (skipSpace line) with
  | none => rfl
  | some found =>
    obtain ⟨name, behindName⟩ := found
    simp only [Option.map_some, Option.bind_eq_bind, Option.bind_some, skipSpace_map_toLower,
      afterColon?_map_toLower]
    cases afterColon? (skipSpace behindName) with
    | none => rfl
    | some behindColon =>
      simp only [Option.map_some, Option.bind_some, skipSpace_map_toLower, word?_map_toLower]
      cases word? (skipSpace behindColon) with
      | none => rfl
      | some found =>
        obtain ⟨mode, behindMode⟩ := found
        simp only [Option.map_some, Option.bind_some, isMode_map_toLower, afterSpace?_map_toLower]
        split
        · rfl
        · cases afterSpace? behindMode with
          | none => rfl
          | some behindGap =>
            simp only [Option.map_some, Option.bind_some, afterSpelling?_map_toLower]
            cases afterSpelling? typeName behindGap with
            | none => rfl
            | some rest => simp [small, afterSpelling?_map_toLower]

theorem port_small (declaration : Declaration) (group : Nat) :
    declaration.small.port group = (declaration.port group).map Port.small := by
  have keyword : Direction.ofKeyword? (String.ofList (declaration.mode.map Char.toLower)) =
      Direction.ofKeyword? (String.ofList declaration.mode) := by
    rw [Direction.ofKeyword?, lower_ofList_map_toLower, Direction.ofKeyword?]
  simp only [port, small, keyword, lower_ofList_map_toLower]
  cases Direction.ofKeyword? (String.ofList declaration.mode) with
  | none => rfl
  | some direction => simp only [Except.map, Port.small, toLower_ofList]

end Declaration

theorem Ports.add_small (ports : Ports) (port : Port) :
    ports.small.add port.small = (ports.add port).small := by
  cases input : port.direction.isInput with
  | true => simp [add, small, Port.small, input]
  | false => simp [add, small, Port.small, input]

/-- The event with its port in small letters. -/
def Event.small : Event → Event
  | .portRead port => .portRead port.small
  | event => event

namespace Scanner

/-- The scanner with the names of its ports in small letters. -/
def small (scanner : Scanner) : Scanner := { scanner with ports := scanner.ports.small }

/-- The step with the names of all ports in small letters. -/
def Step.small (step : Step) : Step :=
  ⟨step.scanner.small, step.events.map Event.small, step.refused?⟩

theorem passAt_small (scanner : Scanner) (old new : Phase) (keyword : Keyword) (line : Line) :
    scanner.small.passAt old new keyword (line.map Char.toLower) =
      (scanner.passAt old new keyword line).small := by
  have phase : scanner.small.phase = scanner.phase := rfl
  rw [passAt, Line.has_map_toLower, phase, passAt]
  split
  · rfl
  · rfl

theorem separate_small (scanner : Scanner) : scanner.small.separate = scanner.separate.small := by
  have groupEmpty : scanner.small.groupEmpty = scanner.groupEmpty := rfl
  rw [separate, groupEmpty, separate]
  split
  · rfl
  · rfl

theorem declare_small (scanner : Scanner) (declaration : Declaration) :
    scanner.small.declare declaration.small = (scanner.declare declaration).small := by
  have group : scanner.small.group = scanner.group := rfl
  simp only [declare, group, Declaration.port_small]
  cases declaration.port scanner.group with
  | error keyword => rfl
  | ok port =>
    simp only [Except.map]
    rw [show scanner.small.ports = scanner.ports.small from rfl, Ports.add_small]
    rfl

theorem readPortLine_small (scanner : Scanner) (line : Line) :
    scanner.small.readPortLine (line.map Char.toLower) = (scanner.readPortLine line).small := by
  rw [readPortLine, Line.has_map_toLower, Line.isBlank_map_toLower, Declaration.read?_map_toLower,
    readPortLine]
  split
  · rfl
  · split
    · exact separate_small scanner
    · cases Declaration.read? line with
      | none => rfl
      | some declaration => exact declare_small scanner declaration

/-- A step behind a step, in small letters. -/
theorem andThen_small (first : Step) {second other : Scanner → Step}
    (same : ∀ scanner, other scanner.small = (second scanner).small) :
    first.small.andThen other = (first.andThen second).small := by
  have start : first.small.scanner = first.scanner.small := rfl
  rw [Step.andThen, start, same]
  simp only [Step.andThen, Step.small, List.map_append]

/-- A line in small letters is read as the line itself, but for the case of the names. -/
theorem read_small (scanner : Scanner) (line : Line) :
    scanner.small.read (line.map Char.toLower) = (scanner.read line).small := by
  rw [read, Line.isComment_map_toLower, read]
  split
  · rfl
  · rw [readCode, passAt_small, readCode,
      andThen_small _ fun scanner => scanner.passAt_small .inEntity .inPorts .port line]
    apply andThen_small
    intro scanner
    have phase : scanner.small.phase = scanner.phase := rfl
    rw [phase]
    split
    · exact readPortLine_small scanner line
    · rfl

end Scanner

/-- The log entry with its port in small letters. -/
def LogEntry.small (entry : LogEntry) : LogEntry := { entry with event := entry.event.small }

namespace Reading

/-- The reading with the names of all ports in small letters. -/
def small (reading : Reading) : Reading :=
  { reading with scanner := reading.scanner.small, log := reading.log.map LogEntry.small }

theorem scan_small (reading : Reading) (line : Line) :
    reading.small.scan (line.map Char.toLower) = (reading.scan line).small := by
  have step := reading.scanner.read_small line
  have entries : ∀ events : List Event,
      (events.map Event.small).map (LogEntry.mk (reading.consumed + 1)) =
        (events.map (LogEntry.mk (reading.consumed + 1))).map LogEntry.small := by
    intro events
    rw [List.map_map, List.map_map]
    rfl
  have log : ∀ (entries : Array LogEntry) (more : List LogEntry),
      (entries ++ more).map LogEntry.small =
        entries.map LogEntry.small ++ more.map LogEntry.small := by
    intro entries more
    rw [← Array.toList_inj]
    simp
  simp only [scan, step, Scanner.Step.small, entries, small, log]

/-- Lines in small letters are read as the lines themselves, but for the case of the names. -/
theorem scanLines_small (reading : Reading) (lines : List Line) :
    reading.small.scanLines (lines.map (List.map Char.toLower)) =
      (reading.scanLines lines).small := by
  have isOver : ∀ reading : Reading, reading.small.isOver = reading.isOver := fun _ => rfl
  induction lines generalizing reading with
  | nil => rfl
  | cons line lines ih =>
    rw [List.map_cons, scanLines, isOver, scanLines, scan_small, ih]
    split
    · rfl
    · rfl

theorem takeLines_small (reading : Reading) (lines : List Line) :
    reading.small.takeLines (lines.map (List.map Char.toLower)) =
      (reading.takeLines lines).small := by
  have trimmed : (lines.map (List.map Char.toLower)).map trimFileBreaks =
      (lines.map trimFileBreaks).map (List.map Char.toLower) := by
    rw [List.map_map, List.map_map]
    exact List.map_congr_left fun line _ => trimFileBreaks_map_toLower line
  rw [takeLines, trimmed, scanLines_small, takeLines]

theorem ofLines_small (lines : List String) :
    (ofLines lines).small =
      initial.takeLines ((lines.map String.toList).map (List.map Char.toLower)) := by
  have start : initial.small = initial := by
    simp [small, initial, Scanner.small, Scanner.initial, Ports.small, Ports.empty]
  rw [ofLines, ← takeLines_small, start]

theorem result_small (reading : Reading) (source : String) :
    reading.small.result source = (reading.result source).map Ports.small := by
  have refused : reading.small.refused? = reading.refused? := rfl
  have phase : reading.small.scanner.phase = reading.scanner.phase := rfl
  rw [result, refused, phase, result]
  cases reading.refused? with
  | some keyword => rfl
  | none =>
    by_cases complete : reading.scanner.phase = .complete
    · simp only [complete, if_true]
      rfl
    · simp only [complete, if_false]
      rfl

/-- Lines differ only in the case of ASCII letters if they are the same in small letters, character
    by character. -/
theorem forall₂_toLower_iff {lines others : List String} :
    List.Forall₂ (fun line other => line.toLower = other.toLower) lines others ↔
      (lines.map String.toList).map (List.map Char.toLower) =
        (others.map String.toList).map (List.map Char.toLower) := by
  have characters : ∀ line other : String, line.toLower = other.toLower ↔
      line.toList.map Char.toLower = other.toList.map Char.toLower := by
    intro line other
    rw [← String.toList_inj, toList_toLower, toList_toLower]
  simp only [characters]
  rw [← @List.forall₂_eq_eq_eq (List Char), List.forall₂_map_left_iff,
    List.forall₂_map_right_iff, List.forall₂_map_left_iff, List.forall₂_map_right_iff]

/-- Sources whose lines differ only in the case of ASCII letters are read alike: as many lines are
    taken, and either there is the same error, or the same ports but for the case of the letters in
    their names, in diagrams with as many lines of the same lengths. Only ASCII letters are put in
    small letters here, so that other letters have to be the same in both sources. -/
theorem agree_of_toLower_eq {lines others : List String}
    (same : List.Forall₂ (fun line other => line.toLower = other.toLower) lines others)
    (source : String) :
    (ofLines lines).consumed = (ofLines others).consumed ∧
      ((∃ error, (ofLines lines).result source = .error error ∧
          (ofLines others).result source = .error error) ∨
        ∃ ports otherPorts, (ofLines lines).result source = .ok ports ∧
          (ofLines others).result source = .ok otherPorts ∧ ports.SameButCase otherPorts ∧
          ports.diagram.map String.length = otherPorts.diagram.map String.length) := by
  rw [forall₂_toLower_iff] at same
  have sameReading : (ofLines lines).small = (ofLines others).small := by
    rw [ofLines_small, ofLines_small, same]
  have consumed : (ofLines lines).consumed = (ofLines others).consumed := by
    show (ofLines lines).small.consumed = (ofLines others).small.consumed
    rw [sameReading]
  refine ⟨consumed, ?_⟩
  have sameResult : ((ofLines lines).result source).map Ports.small =
      ((ofLines others).result source).map Ports.small := by
    rw [← result_small, ← result_small, sameReading]
  cases found : (ofLines lines).result source with
  | error error =>
    cases otherFound : (ofLines others).result source with
    | error otherError =>
      rw [found, otherFound] at sameResult
      exact .inl ⟨error, rfl, by rw [Except.error.inj sameResult]⟩
    | ok otherPorts =>
      rw [found, otherFound] at sameResult
      cases sameResult
  | ok ports =>
    cases otherFound : (ofLines others).result source with
    | error otherError =>
      rw [found, otherFound] at sameResult
      cases sameResult
    | ok otherPorts =>
      rw [found, otherFound] at sameResult
      have samePorts : ports.small = otherPorts.small := Except.ok.inj sameResult
      obtain ⟨-, -, -, words⟩ := exists_numbered_of_result_eq_ok found
      obtain ⟨-, -, -, otherWords⟩ := exists_numbered_of_result_eq_ok otherFound
      exact .inr ⟨ports, otherPorts, rfl, rfl, Ports.sameButCase_of_small samePorts,
        Ports.map_length_diagram_congr words otherWords samePorts⟩

/-- A source with two groups, in capitals for the most part. The dotless letter in the name of the
    second port is no ASCII letter. -/
def inCapitals : List String :=
  ["ENTITY E IS PORT (", "CLK : IN STD_LOGIC;", "Lıne : Out STD_Logic_Vector(7 downto 0);", "",
    "SeL : INOUT STD_LOGIC", "END"]

/-- The same source in small letters. -/
def inSmallLetters : List String :=
  ["entity e is port (", "clk : in std_logic;", "lıne : out std_logic_vector(7 downto 0);", "",
    "sel : inout std_logic", "end"]

theorem agree_of_inCapitals :
    let ports : Ports :=
      ⟨[⟨0, "CLK", false, .input⟩], [⟨0, "Lıne", true, .output⟩, ⟨1, "SeL", false, .bidirectional⟩]⟩
    let otherPorts : Ports :=
      ⟨[⟨0, "clk", false, .input⟩], [⟨0, "lıne", true, .output⟩, ⟨1, "sel", false, .bidirectional⟩]⟩
    List.Forall₂ (fun line other => line.toLower = other.toLower) inCapitals inSmallLetters ∧
      (ofLines inCapitals).result "s" = .ok ports ∧
      (ofLines inSmallLetters).result "s" = .ok otherPorts ∧
      (ofLines inCapitals).consumed = (ofLines inSmallLetters).consumed ∧
      ports.SameButCase otherPorts ∧
      ports.diagram.map String.length = otherPorts.diagram.map String.length := by
  intro ports otherPorts
  have same : List.Forall₂ (fun line other => line.toLower = other.toLower)
      inCapitals inSmallLetters := by
    rw [forall₂_toLower_iff]
    decide +kernel
  have read : (ofLines inCapitals).result "s" = .ok ports := by decide +kernel
  have otherRead : (ofLines inSmallLetters).result "s" = .ok otherPorts := by decide +kernel
  obtain ⟨consumed, failed | succeeded⟩ := agree_of_toLower_eq same "s"
  · obtain ⟨error, failed, -⟩ := failed
    rw [read] at failed
    cases failed
  · obtain ⟨found, otherFound, foundRead, otherFoundRead, alike, lengths⟩ := succeeded
    obtain rfl : ports = found := Except.ok.inj (read.symm.trans foundRead)
    obtain rfl : otherPorts = otherFound := Except.ok.inj (otherRead.symm.trans otherFoundRead)
    exact ⟨same, read, otherRead, consumed, alike, lengths⟩

end Reading

end EntityDiagram
