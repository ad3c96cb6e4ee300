import EntityDiagram.Proofs.Source.Landmarks

/-!
Lines that do not change the outcome of a reading. The outcome depends on the phase, on the ports
and on a refused mode alone, not on how many lines have been taken or on what has been logged. A
blank line at most ends the group at hand, which it does once: a second blank line, and a comment,
change nothing. So comments can be put between any two lines of a source, blank lines can be put
where one is, and one more can be put behind the last line.
-/

namespace EntityDiagram

namespace Scanner

/-- The scanner behind a blank line: in the port clause the group at hand ends, unless it is
    empty. -/
def separated (scanner : Scanner) : Scanner :=
  if scanner.phase = .inPorts ∧ scanner.groupEmpty = false then
    { scanner with group := scanner.group + 1, groupEmpty := true }
  else scanner

theorem separated_separated (scanner : Scanner) :
    scanner.separated.separated = scanner.separated := by
  unfold separated
  by_cases used : scanner.phase = .inPorts ∧ scanner.groupEmpty = false
  · simp [used]
  · simp [used]

theorem phase_separated (scanner : Scanner) : scanner.separated.phase = scanner.phase := by
  unfold separated
  split <;> rfl

theorem ports_separated (scanner : Scanner) : scanner.separated.ports = scanner.ports := by
  unfold separated
  split <;> rfl

theorem separated_of_groupEmpty {scanner : Scanner} (empty : scanner.groupEmpty = true) :
    scanner.separated = scanner := by
  apply if_neg
  rw [empty]
  simp

theorem separated_of_phase_ne {scanner : Scanner} (phase : scanner.phase ≠ .inPorts) :
    scanner.separated = scanner := if_neg fun used => phase used.1

/-- A blank line takes a scanner to no other phase, and it is never refused. -/
theorem read_of_isBlank (scanner : Scanner) {line : Line} (blank : line.isBlank = true) :
    (scanner.read line).scanner = scanner.separated ∧ (scanner.read line).refused? = none := by
  have unmarked : ∀ keyword, line.marks keyword = false := by
    intro keyword
    rw [Line.marks, Line.has_eq_false_of_isBlank blank, Bool.and_false]
  cases phase : scanner.phase with
  | searching =>
    rw [read_of_not_marks .entity phase (unmarked .entity), separated_of_phase_ne (by simp [phase])]
    exact ⟨rfl, rfl⟩
  | inEntity =>
    rw [read_of_not_marks .port phase (unmarked .port), separated_of_phase_ne (by simp [phase])]
    exact ⟨rfl, rfl⟩
  | inPorts =>
    rw [read_of_inPorts phase, Line.kind_eq_blank_iff.mpr blank, readKind, separate, separated,
      phase]
    cases empty : scanner.groupEmpty with
    | true => exact ⟨rfl, rfl⟩
    | false => exact ⟨by simp [← phase], rfl⟩
  | complete =>
    rw [read_of_complete phase, separated_of_phase_ne (by simp [phase])]
    exact ⟨rfl, rfl⟩

end Scanner

namespace Reading

/-- Two readings that differ at most in the number of lines taken and in the log. -/
structure Agree (first second : Reading) : Prop where
  scanner : first.scanner = second.scanner
  refused? : first.refused? = second.refused?

/-- Two readings that differ at most in the group at hand, in the number of lines taken and in the
    log. -/
structure Alike (first second : Reading) : Prop where
  phase : first.scanner.phase = second.scanner.phase
  ports : first.scanner.ports = second.scanner.ports
  refused? : first.refused? = second.refused?

namespace Alike

variable {first second : Reading}

theorem symm (alike : Alike first second) : Alike second first :=
  ⟨alike.phase.symm, alike.ports.symm, alike.refused?.symm⟩

theorem isOver (alike : Alike first second) : first.isOver = second.isOver := by
  rw [Reading.isOver, Reading.isOver, alike.phase, alike.refused?]

theorem result (alike : Alike first second) (source : String) :
    first.result source = second.result source := by
  rw [Reading.result, Reading.result, alike.phase, alike.ports, alike.refused?]

end Alike

namespace Agree

variable {first second : Reading}

theorem refl (reading : Reading) : Agree reading reading := ⟨rfl, rfl⟩

theorem alike (agree : Agree first second) : Alike first second :=
  ⟨congrArg _ agree.scanner, congrArg _ agree.scanner, agree.refused?⟩

theorem scan (agree : Agree first second) (line : Line) :
    Agree (first.scan line) (second.scan line) := by
  constructor <;> simp only [Reading.scan, agree.scanner]

/-- Readings that agree still do when both have taken the same lines. -/
theorem scanLines (agree : Agree first second) (lines : List Line) :
    Agree (first.scanLines lines) (second.scanLines lines) := by
  induction lines generalizing first second with
  | nil => exact agree
  | cons line lines ih =>
    have same := agree.alike.isOver
    cases ended : first.isOver with
    | true => rwa [scanLines_of_isOver ended, scanLines_of_isOver (same.symm.trans ended)]
    | false =>
      rw [scanLines_cons ended, scanLines_cons (same.symm.trans ended)]
      exact ih (agree.scan line)

end Agree

theorem refused?_of_isOver_eq_false {reading : Reading} (running : reading.isOver = false) :
    reading.refused? = none := by
  rw [isOver, Bool.or_eq_false_iff] at running
  simpa using running.2

/-- Blank lines and comments act as one blank line if one of them is blank, and not at all if none
    is. -/
theorem scanLines_separators {reading : Reading} (running : reading.isOver = false)
    {lines : List Line} (kinds : ∀ line ∈ lines, line.isBlank = true ∨ line.isComment = true) :
    (reading.scanLines lines).scanner =
        (if lines.any Line.isBlank then reading.scanner.separated else reading.scanner) ∧
      (reading.scanLines lines).refused? = none := by
  induction lines generalizing reading with
  | nil => exact ⟨rfl, refused?_of_isOver_eq_false running⟩
  | cons line lines ih =>
    obtain ⟨kind, later⟩ := List.forall_mem_cons.mp kinds
    have here : (reading.scan line).scanner =
        (if line.isBlank then reading.scanner.separated else reading.scanner) ∧
          (reading.scan line).refused? = none := by
      rcases kind with blank | comment
      · rw [if_pos blank]
        exact reading.scanner.read_of_isBlank blank
      · rw [Line.isBlank_eq_false_of_isComment comment, scan, Scanner.read_of_isComment comment]
        exact ⟨rfl, rfl⟩
    obtain ⟨scanner, accepted⟩ := here
    have phase : (reading.scan line).scanner.phase = reading.scanner.phase := by
      rw [scanner]
      split
      · exact reading.scanner.phase_separated
      · rfl
    have stillRunning : (reading.scan line).isOver = false := by
      rw [isOver, Bool.or_eq_false_iff] at running ⊢
      rw [phase, accepted]
      exact ⟨running.1, rfl⟩
    obtain ⟨behind, stillAccepted⟩ := ih stillRunning later
    rw [scanLines_cons running]
    refine ⟨?_, stillAccepted⟩
    rw [behind, scanner, List.any_cons]
    cases line.isBlank with
    | true => simp [Scanner.separated_separated]
    | false => simp

/-- Of blank lines and comments it only matters whether one of them is blank. -/
theorem agree_scanLines_separators (reading : Reading) {lines others : List Line}
    (kinds : ∀ line ∈ lines ++ others, line.isBlank = true ∨ line.isComment = true)
    (same : lines.any Line.isBlank = others.any Line.isBlank) :
    Agree (reading.scanLines lines) (reading.scanLines others) := by
  cases running : reading.isOver with
  | true =>
    rw [scanLines_of_isOver running, scanLines_of_isOver running]
    exact .refl _
  | false =>
    obtain ⟨first, firstAccepted⟩ := scanLines_separators running
      fun line member => kinds line (List.mem_append_left _ member)
    obtain ⟨second, secondAccepted⟩ := scanLines_separators running
      fun line member => kinds line (List.mem_append_right _ member)
    exact ⟨by rw [first, second, same], by rw [firstAccepted, secondAccepted]⟩

/-- Blank lines keep the phase and the ports. -/
theorem alike_scanLines_blanks (reading : Reading) {blanks : List Line}
    (areBlank : ∀ line ∈ blanks, line.isBlank = true) :
    Alike reading (reading.scanLines blanks) := by
  cases running : reading.isOver with
  | true =>
    rw [scanLines_of_isOver running]
    exact ⟨rfl, rfl, rfl⟩
  | false =>
    obtain ⟨scanner, accepted⟩ :=
      scanLines_separators running fun line member => .inl (areBlank line member)
    refine ⟨?_, ?_, by rw [accepted, refused?_of_isOver_eq_false running]⟩
    · rw [scanner]
      split
      · exact reading.scanner.phase_separated.symm
      · rfl
    · rw [scanner]
      split
      · exact reading.scanner.ports_separated.symm
      · rfl

/-- In an empty group they keep everything that matters. -/
theorem agree_scanLines_blanks {reading : Reading} {blanks : List Line}
    (areBlank : ∀ line ∈ blanks, line.isBlank = true)
    (empty : reading.isOver = false → reading.scanner.groupEmpty = true) :
    Agree reading (reading.scanLines blanks) := by
  cases running : reading.isOver with
  | true =>
    rw [scanLines_of_isOver running]
    exact .refl _
  | false =>
    obtain ⟨scanner, accepted⟩ :=
      scanLines_separators running fun line member => .inl (areBlank line member)
    refine ⟨?_, by rw [accepted, refused?_of_isOver_eq_false running]⟩
    rw [scanner, Scanner.separated_of_groupEmpty (empty running)]
    simp

/-- What agrees behind two portions of lines leads to the same result behind the same lines. -/
theorem result_eq_of_agree {before behind : List Line} (first second : List Line)
    (agree : Agree ((initial.scanLines before).scanLines first)
      ((initial.scanLines before).scanLines second)) (source : String) :
    (initial.scanLines (before ++ (first ++ behind))).result source =
      (initial.scanLines (before ++ (second ++ behind))).result source := by
  rw [scanLines_append, scanLines_append initial before (second ++ behind), scanLines_append,
    scanLines_append _ second]
  exact (agree.scanLines behind).alike.result source

/-- Comments can stand anywhere in a source. -/
theorem result_scanLines_insert {comments : List Line}
    (areComments : ∀ line ∈ comments, line.isComment = true) (before behind : List Line)
    (source : String) :
    (initial.scanLines (before ++ (comments ++ behind))).result source =
      (initial.scanLines (before ++ behind)).result source := by
  apply result_eq_of_agree comments []
  apply agree_scanLines_separators
  · rw [List.append_nil]
    exact fun line member => .inr (areComments line member)
  · rw [List.any_nil, List.any_eq_false]
    intro line member
    rw [Line.isBlank_eq_false_of_isComment (areComments line member)]
    exact Bool.false_ne_true

/-- A blank line behind the last line of a source has no influence: it could only begin a group, and
    no port would follow. -/
theorem result_scanLines_blank (reading : Reading) (lines : List Line) {line : Line}
    (blank : line.isBlank = true) (source : String) :
    (reading.scanLines (lines ++ [line])).result source =
      (reading.scanLines lines).result source := by
  rw [scanLines_append]
  exact ((alike_scanLines_blanks _ (by simp [blank])).result source).symm

end Reading

end EntityDiagram
