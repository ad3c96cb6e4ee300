import EntityDiagram.Proofs.Source.Grammar
import EntityDiagram.Proofs.Text.Tokens
import EntityDiagram.Source.Scanner

/-!
What a line can do to a scanner. Before the port clause a line either holds the keyword that leads
on, and then it is read again in the next phase, or it changes nothing. In the port clause a line is
of one of four kinds, and its kind tells what it does.
-/

namespace EntityDiagram

theorem Keyword.isWord_letters (keyword : Keyword) : Text.IsWord keyword.letters := by
  cases keyword <;> exact ⟨by decide, List.all_eq_true.mp (by decide +kernel)⟩

/-- What a line is to a reader of the port clause. Comments and lines that no rule covers are passed
    over alike. -/
inductive LineKind where
  | skipped
  | finish
  | blank
  | declaration (declaration : Declaration)
  deriving DecidableEq, Repr

namespace Line

/-- The kind of a line of the port clause. -/
def kind (line : Line) : LineKind :=
  if line.isComment then .skipped
  else if line.has .finish then .finish
  else if line.isBlank then .blank
  else
    match Declaration.read? line with
    | some declaration => .declaration declaration
    | none => .skipped

/-- Whether a line that is no comment holds a keyword. -/
def marks (keyword : Keyword) (line : Line) : Bool := !line.isComment && line.has keyword

/-- Whether a line declares a port with a mode that names no direction. -/
def isRefused (line : Line) : Bool :=
  !line.isComment && !line.has .finish &&
    (Declaration.read? line).any fun declaration => Text.hasTurkishI declaration.mode

/-- Whether a line ends the reading of the port clause, well or badly. -/
def stops (line : Line) : Bool := line.marks .finish || line.isRefused

theorem skipSpace_ne_nil_of_read? {line : Line} {declaration : Declaration}
    (found : Declaration.read? line = some declaration) : Text.skipSpace line ≠ [] := by
  obtain ⟨spelling, rfl, -⟩ := Declaration.read?_eq_some_iff.mp found
  rw [Declaration.Spelling.line,
    Text.skipSpace_append_word spelling.indent_space spelling.name_word]
  simp [spelling.name_word.ne_nil]

/-- A declaration is not blank. -/
theorem isBlank_eq_false_of_read? {line : Line} {declaration : Declaration}
    (found : Declaration.read? line = some declaration) : line.isBlank = false := by
  rw [Bool.eq_false_iff]
  intro blank
  exact skipSpace_ne_nil_of_read? found (Text.isBlank_iff_skipSpace_eq_nil.mp blank)

theorem kind_eq_finish_iff {line : Line} : line.kind = .finish ↔ line.marks .finish = true := by
  unfold kind marks
  cases line.isComment
  · cases line.has .finish
    · cases line.isBlank
      · cases Declaration.read? line <;> simp
      · simp
    · simp
  · simp

theorem kind_eq_declaration_iff {line : Line} {declaration : Declaration} :
    line.kind = .declaration declaration ↔ line.isComment = false ∧ line.has .finish = false ∧
      Declaration.read? line = some declaration := by
  unfold kind
  cases line.isComment
  · cases line.has .finish
    · cases blank : line.isBlank
      · cases Declaration.read? line <;> simp
      · have none : Declaration.read? line ≠ some declaration := by
          intro found
          rw [isBlank_eq_false_of_read? found] at blank
          cases blank
        simp [none]
    · simp
  · simp

theorem has_eq_false_of_isBlank {line : Line} (blank : line.isBlank = true) (keyword : Keyword) :
    line.has keyword = false := by
  rw [isBlank, ← Text.tokens_eq_nil_iff] at blank
  rw [has, Text.hasWord_eq_any_tokens keyword.isWord_letters, blank]
  rfl

theorem kind_eq_blank_iff {line : Line} : line.kind = .blank ↔ line.isBlank = true := by
  unfold kind
  cases comment : line.isComment
  · cases blank : line.isBlank
    · cases line.has .finish
      · cases Declaration.read? line <;> simp
      · simp
    · simp [has_eq_false_of_isBlank blank]
  · simp [isBlank_eq_false_of_isComment comment]

theorem kind_eq_skipped_iff {line : Line} :
    line.kind = .skipped ↔ line.isComment = true ∨ line.has .finish = false ∧
      line.isBlank = false ∧ Declaration.read? line = none := by
  unfold kind
  cases line.isComment
  · cases line.has .finish
    · cases line.isBlank
      · cases Declaration.read? line <;> simp
      · simp
    · simp
  · simp

theorem isRefused_iff {line : Line} :
    line.isRefused = true ↔
      ∃ declaration, line.kind = .declaration declaration ∧
        Text.hasTurkishI declaration.mode = true := by
  simp only [kind_eq_declaration_iff, isRefused, Bool.and_eq_true, Bool.not_eq_true',
    Option.any_eq_true]
  constructor
  · rintro ⟨⟨noComment, noEnd⟩, declaration, found, turkish⟩
    exact ⟨declaration, ⟨noComment, noEnd, found⟩, turkish⟩
  · rintro ⟨declaration, ⟨noComment, noEnd, found⟩, turkish⟩
    exact ⟨⟨noComment, noEnd⟩, declaration, found, turkish⟩

/-- A line that does not stop the reading does not end the clause, and the mode of what it declares
    is plain. -/
theorem stops_eq_false_iff {line : Line} :
    line.stops = false ↔ line.kind ≠ .finish ∧ ∀ declaration,
      line.kind = .declaration declaration → Text.hasTurkishI declaration.mode = false := by
  rw [stops, Bool.or_eq_false_iff, Ne, kind_eq_finish_iff, Bool.not_eq_true]
  apply and_congr_right
  intro _
  rw [← Bool.not_eq_true, isRefused_iff, not_exists]
  apply forall_congr'
  intro declaration
  rw [not_and, Bool.not_eq_true]

theorem stops_eq_false_of_skipped {line : Line} (kind : line.kind = .skipped) :
    line.stops = false := by
  rw [stops_eq_false_iff, kind]
  exact ⟨by simp, by simp⟩

theorem stops_eq_false_of_blank {line : Line} (kind : line.kind = .blank) :
    line.stops = false := by
  rw [stops_eq_false_iff, kind]
  exact ⟨by simp, by simp⟩

end Line

/-- The keyword that leads from one phase to the next, before the port clause. -/
inductive Phase.Gate : (old new : Phase) → Keyword → Prop where
  | entity : Gate .searching .inEntity .entity
  | port : Gate .inEntity .inPorts .port

namespace Scanner

/-- Before the port clause a line without the keyword that leads on changes nothing. -/
theorem read_of_not_marks {old new : Phase} {keyword : Keyword} (gate : Phase.Gate old new keyword)
    {scanner : Scanner} (phase : scanner.phase = old) {line : Line}
    (absent : line.marks keyword = false) : scanner.read line = scanner.stay := by
  unfold read
  cases comment : line.isComment with
  | true => rfl
  | false =>
    have noKeyword : line.has keyword = false := by simpa [Line.marks, comment] using absent
    cases gate <;> simp [readCode, passAt, stay, Step.andThen, phase, noKeyword]

/-- A line with the keyword that leads on is read again in the next phase. -/
theorem read_of_marks {old new : Phase} {keyword : Keyword} (gate : Phase.Gate old new keyword)
    {scanner : Scanner} (phase : scanner.phase = old) {line : Line}
    (present : line.marks keyword = true) :
    scanner.read line = (scanner.pass new).andThen fun scanner => scanner.read line := by
  simp only [Line.marks, Bool.and_eq_true, Bool.not_eq_true'] at present
  obtain ⟨noComment, keywordFound⟩ := present
  cases gate with
  | entity =>
    simp [read, noComment, readCode, passAt, pass, stay, Step.andThen, phase, keywordFound]
  | port =>
    simp [read, noComment, readCode, passAt, pass, stay, Step.andThen, phase, keywordFound]

/-- What a line of a kind leads to in the port clause. -/
def readKind (scanner : Scanner) : LineKind → Step
  | .skipped => scanner.stay
  | .finish => scanner.pass .complete
  | .blank => scanner.separate
  | .declaration declaration => scanner.declare declaration

/-- In the port clause the kind of a line tells what it does. -/
theorem read_of_inPorts {scanner : Scanner} (phase : scanner.phase = .inPorts) (line : Line) :
    scanner.read line = scanner.readKind line.kind := by
  unfold read Line.kind
  cases line.isComment with
  | true => rfl
  | false =>
    have code : scanner.readCode line = scanner.readPortLine line := by
      simp [readCode, passAt, stay, Step.andThen, phase]
    rw [code, readPortLine]
    cases line.has .finish with
    | true => rfl
    | false =>
      cases line.isBlank with
      | true => rfl
      | false => cases Declaration.read? line <;> rfl

/-- Taking a port into the current group. -/
def addPort (scanner : Scanner) (port : Port) : Step :=
  ⟨{ scanner with groupEmpty := false, ports := scanner.ports.add port }, [.portRead port], none⟩

/-- A declaration with a plain mode adds its port to the current group. -/
theorem declare_of_spells (scanner : Scanner) {declaration : Declaration} {direction : Direction}
    (spelled : Text.spells direction.letters declaration.mode = true)
    (plain : Text.hasTurkishI declaration.mode = false) :
    scanner.declare declaration =
      scanner.addPort ⟨scanner.group, String.ofList declaration.name, declaration.isVector,
        direction⟩ := by
  simp [declare, addPort, Declaration.port_of_spells spelled plain]

/-- A declaration whose mode holds a Turkish i is refused. -/
theorem declare_of_hasTurkishI (scanner : Scanner) {declaration : Declaration}
    (turkish : Text.hasTurkishI declaration.mode = true) :
    scanner.declare declaration =
      ⟨{ scanner with groupEmpty := false }, [],
        some (Text.lower (String.ofList declaration.mode))⟩ := by
  simp [declare, Declaration.port_of_hasTurkishI turkish]

/-- What a line does in the port clause if it does not stop the reading. -/
inductive ClauseStep (scanner : Scanner) (line : Line) : Prop where
  | skipped (kind : line.kind = .skipped) (step : scanner.read line = scanner.stay)
  | blank (kind : line.kind = .blank) (step : scanner.read line = scanner.separate)
  | declaration (spelling : Declaration.Spelling) (written : spelling.line = line)
      (direction : Direction) (spelled : Text.spells direction.letters spelling.mode = true)
      (step : scanner.read line = scanner.addPort
        ⟨scanner.group, String.ofList spelling.name, spelling.declaration.isVector, direction⟩)

/-- Such a line is skipped, separates groups or declares a port. -/
theorem clauseStep {scanner : Scanner} (phase : scanner.phase = .inPorts) {line : Line}
    (runs : line.stops = false) : scanner.ClauseStep line := by
  obtain ⟨noEnd, plain⟩ := Line.stops_eq_false_iff.mp runs
  have step := read_of_inPorts phase line
  cases kind : line.kind with
  | skipped => exact .skipped kind (by rw [step, kind]; rfl)
  | finish => exact absurd kind noEnd
  | blank => exact .blank kind (by rw [step, kind]; rfl)
  | declaration declaration =>
    obtain ⟨-, -, found⟩ := Line.kind_eq_declaration_iff.mp kind
    obtain ⟨spelling, written, rfl⟩ := Declaration.read?_eq_some_iff.mp found
    obtain ⟨direction, spelled⟩ := spelling.mode_spells
    apply ClauseStep.declaration spelling written direction spelled
    rw [step, kind, readKind, declare_of_spells scanner spelled (plain _ kind)]
    rfl

/-- In the port clause a line that does not stop the reading leaves the scanner in the clause. -/
theorem read_of_not_stops {scanner : Scanner} (phase : scanner.phase = .inPorts) {line : Line}
    (runs : line.stops = false) :
    (scanner.read line).scanner.phase = .inPorts ∧ (scanner.read line).refused? = none := by
  cases clauseStep phase runs with
  | skipped kind step =>
    rw [step]
    exact ⟨phase, rfl⟩
  | blank kind step =>
    rw [step, separate]
    split
    · exact ⟨phase, rfl⟩
    · exact ⟨phase, rfl⟩
  | declaration spelling written direction spelled step =>
    rw [step]
    exact ⟨phase, rfl⟩

/-- Reading a line of the port clause never leads back. -/
theorem rank_le_read_of_inPorts {scanner : Scanner} (phase : scanner.phase = .inPorts)
    (line : Line) : Phase.inPorts.rank ≤ (scanner.read line).scanner.phase.rank := by
  cases stops : line.stops with
  | false => rw [(read_of_not_stops phase stops).1]
  | true =>
    rw [read_of_inPorts phase]
    rcases Bool.or_eq_true_iff.mp stops with finish | refused
    · rw [Line.kind_eq_finish_iff.mpr finish]
      exact Nat.le_succ _
    · obtain ⟨declaration, kind, turkish⟩ := Line.isRefused_iff.mp refused
      rw [kind, readKind, declare_of_hasTurkishI scanner turkish, phase]

/-- Reading a line never leads back to an earlier phase. -/
theorem rank_le_read (scanner : Scanner) (line : Line) :
    scanner.phase.rank ≤ (scanner.read line).scanner.phase.rank := by
  cases phase : scanner.phase with
  | searching => exact Nat.zero_le _
  | inEntity =>
    cases present : line.marks .port with
    | false =>
      rw [read_of_not_marks .port phase present, stay, phase]
    | true =>
      rw [read_of_marks .port phase present]
      exact Nat.le_trans (by decide)
        (@rank_le_read_of_inPorts (scanner.pass .inPorts).scanner rfl line)
  | inPorts => exact rank_le_read_of_inPorts phase line
  | complete => rw [read_of_complete phase, stay, phase]

end Scanner

end EntityDiagram
