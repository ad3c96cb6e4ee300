import EntityDiagram.Proofs.Source.Inert
import EntityDiagram.Proofs.Source.Invariant

/-!
What a line does whatever group a scanner stands in. The phase alone tells whether a line passes to
another phase and whether it is refused, and a line that is no declaration of the port clause takes
in no port. So two readings that differ in the group at hand at most go on side by side as long as
no port is declared.
-/

namespace EntityDiagram

namespace Scanner

/-- Two steps that lead to the same phase and are both refused for the same reason or both not. -/
structure Step.SameCourse (first second : Step) : Prop where
  phase : first.scanner.phase = second.scanner.phase
  refused? : first.refused? = second.refused?

section Course

variable {first second : Scanner}

theorem sameCourse_stay (same : first.phase = second.phase) :
    first.stay.SameCourse second.stay := ⟨same, rfl⟩

theorem sameCourse_pass (first second : Scanner) (phase : Phase) :
    (first.pass phase).SameCourse (second.pass phase) := ⟨rfl, rfl⟩

theorem sameCourse_passAt (same : first.phase = second.phase) (old new : Phase) (keyword : Keyword)
    (line : Line) :
    (first.passAt old new keyword line).SameCourse (second.passAt old new keyword line) := by
  rw [passAt, passAt, same]
  split
  · exact sameCourse_pass first second new
  · exact sameCourse_stay same

theorem sameCourse_separate (same : first.phase = second.phase) :
    first.separate.SameCourse second.separate := by
  rw [separate, separate]
  split <;> split <;> exact ⟨same, rfl⟩

/-- The group at hand plays no part in whether a declaration is refused. -/
theorem sameCourse_declare (same : first.phase = second.phase) (declaration : Declaration) :
    (first.declare declaration).SameCourse (second.declare declaration) := by
  simp only [declare, Declaration.port]
  cases Direction.ofKeyword? (String.ofList declaration.mode) with
  | some direction => exact ⟨same, rfl⟩
  | none => exact ⟨same, rfl⟩

theorem sameCourse_readPortLine (same : first.phase = second.phase) (line : Line) :
    (first.readPortLine line).SameCourse (second.readPortLine line) := by
  rw [readPortLine, readPortLine]
  split
  · exact sameCourse_pass first second _
  · split
    · exact sameCourse_separate same
    · split
      · exact sameCourse_declare same _
      · exact sameCourse_stay same

theorem Step.SameCourse.andThen {first second : Step} (same : first.SameCourse second)
    {further : Scanner → Step}
    (later : ∀ first second : Scanner, first.phase = second.phase →
      (further first).SameCourse (further second)) :
    (first.andThen further).SameCourse (second.andThen further) :=
  have behind := later first.scanner second.scanner same.phase
  ⟨behind.phase, behind.refused?⟩

/-- The course of reading a line depends on the phase alone. -/
theorem sameCourse_read (same : first.phase = second.phase) (line : Line) :
    (first.read line).SameCourse (second.read line) := by
  rw [read, read]
  split
  · exact sameCourse_stay same
  · apply Step.SameCourse.andThen
    · apply (sameCourse_passAt same _ _ _ line).andThen
      intro first second same
      exact sameCourse_passAt same _ _ _ line
    · intro first second same
      rw [same]
      split
      · exact sameCourse_readPortLine same line
      · exact sameCourse_stay same

end Course

/-! ### Lines that declare nothing -/

/-- A step that takes in no port and does not begin to fill the group at hand. -/
structure Step.AddsNothing (scanner : Scanner) (step : Step) : Prop where
  ports : step.scanner.ports = scanner.ports
  groupEmpty : scanner.groupEmpty = true → step.scanner.groupEmpty = true

variable {scanner : Scanner}

theorem addsNothing_stay (scanner : Scanner) : scanner.stay.AddsNothing scanner := ⟨rfl, id⟩

theorem addsNothing_passAt (scanner : Scanner) (old new : Phase) (keyword : Keyword) (line : Line) :
    (scanner.passAt old new keyword line).AddsNothing scanner := by
  rw [passAt]
  split
  · exact ⟨rfl, id⟩
  · exact addsNothing_stay scanner

theorem addsNothing_separate (scanner : Scanner) : scanner.separate.AddsNothing scanner := by
  rw [separate]
  split
  · exact addsNothing_stay scanner
  · exact ⟨rfl, fun _ => rfl⟩

theorem addsNothing_readPortLine (scanner : Scanner) {line : Line}
    (nothing : line.declares = false) : (scanner.readPortLine line).AddsNothing scanner := by
  have none : Declaration.read? line = none := by simpa [Line.declares] using nothing
  rw [readPortLine, none]
  split
  · exact ⟨rfl, id⟩
  · split
    · exact addsNothing_separate scanner
    · exact addsNothing_stay scanner

theorem Step.AddsNothing.andThen {step : Step} (nothing : step.AddsNothing scanner)
    {further : Scanner → Step}
    (later : ∀ scanner : Scanner, (further scanner).AddsNothing scanner) :
    (step.andThen further).AddsNothing scanner :=
  have behind := later step.scanner
  ⟨behind.ports.trans nothing.ports, fun empty => behind.groupEmpty (nothing.groupEmpty empty)⟩

theorem addsNothing_read (scanner : Scanner) {line : Line} (nothing : line.declares = false) :
    (scanner.read line).AddsNothing scanner := by
  rw [read]
  split
  · exact addsNothing_stay scanner
  · apply Step.AddsNothing.andThen
    · apply (addsNothing_passAt scanner _ _ _ line).andThen
      intro scanner
      exact addsNothing_passAt scanner _ _ _ line
    · intro scanner
      split
      · exact addsNothing_readPortLine scanner nothing
      · exact addsNothing_stay scanner

/-- A line adds something only if it is a declaration of the port clause, or if it is refused. -/
theorem addsNothing_of_not_declared {line : Line} (accepted : (scanner.read line).refused? = none)
    (nothing : (scanner.read line).scanner.phase = .inPorts → line.declares = false) :
    (scanner.read line).AddsNothing scanner := by
  cases effect_read scanner line with
  | passes phase forward accepted behind => exact ⟨by rw [behind], by rw [behind]; exact id⟩
  | separates inTime used accepted behind =>
    exact ⟨by rw [behind], by rw [behind]; exact fun _ => rfl⟩
  | declares port inTime group word accepted behind =>
    exact addsNothing_read scanner (nothing (by rw [behind]))
  | refuses inTime refused behind =>
    rw [accepted] at refused
    cases refused

end Scanner

/-- A line that is no declaration of the clause keeps two readings alike. -/
theorem Reading.Alike.scan {first second : Reading} (alike : Alike first second) {line : Line}
    (nothing : (first.scan line).refused? = none → (first.scan line).scanner.phase = .inPorts →
      line.declares = false) : Alike (first.scan line) (second.scan line) := by
  have course := Scanner.sameCourse_read alike.phase line
  refine ⟨course.phase, ?_, course.refused?⟩
  show (first.scanner.read line).scanner.ports = (second.scanner.read line).scanner.ports
  have samePorts := alike.ports
  cases refused : (first.scanner.read line).refused? with
  | some keyword =>
    have firstRefused : (first.scanner.read line).refused?.isSome = true := by rw [refused]; rfl
    have secondRefused := firstRefused
    rw [course.refused?] at secondRefused
    obtain ⟨-, firstPorts⟩ := (Scanner.effect_read _ line).advances.refused firstRefused
    obtain ⟨-, secondPorts⟩ := (Scanner.effect_read _ line).advances.refused secondRefused
    rw [firstPorts, secondPorts, samePorts]
  | none =>
    have nothingHere := nothing refused
    have first := Scanner.addsNothing_of_not_declared refused nothingHere
    rw [course.refused?] at refused
    have second := Scanner.addsNothing_of_not_declared refused
      fun phase => nothingHere (course.phase.trans phase)
    rw [first.ports, second.ports, samePorts]

end EntityDiagram
