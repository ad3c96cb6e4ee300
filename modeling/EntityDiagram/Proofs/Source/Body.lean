import EntityDiagram.Proofs.Source.Outcome
import Mathlib.Data.List.Forall2
import Mathlib.Data.List.Induction
import Mathlib.Data.Nat.Find

/-!
The body of a port clause, told from its lines alone: which of them declare a port, which blank ones
separate groups, which group a line stands in, and whether the last group has a port. The scanner
that has read a body knows all this, since every line adds to the body what it adds to the scanner.
-/

namespace EntityDiagram

/-- Whether a line declares a port. -/
def Line.declares (line : Line) : Bool := (Declaration.read? line).isSome

namespace Body

/-- A declaration stands before an index with no blank line between them. -/
def FollowsDeclaration (body : List Line) (index : Nat) : Prop :=
  ∃ i < index, body[i]?.any Line.declares = true ∧
    ∀ j < index, i < j → body[j]?.any Line.isBlank = false

instance (body : List Line) (index : Nat) : Decidable (FollowsDeclaration body index) :=
  inferInstanceAs (Decidable (∃ i < index, _))

/-- The line at an index is blank and separates what follows from an earlier declaration. -/
def SeparatesAt (body : List Line) (index : Nat) : Prop :=
  body[index]?.any Line.isBlank = true ∧ FollowsDeclaration body index

instance (body : List Line) (index : Nat) : Decidable (SeparatesAt body index) :=
  inferInstanceAs (Decidable (_ ∧ _))

/-- How many lines before an index separate. -/
def groupAt (body : List Line) (index : Nat) : Nat :=
  (List.range index).countP fun i => SeparatesAt body i

/-- The indices of the lines that declare a port, in order. -/
def declarationIndices (body : List Line) : List Nat :=
  (List.range body.length).filter fun i => body[i]?.any Line.declares

/-- A port is the one that the line at an index declares. -/
def DeclaredAt (body : List Line) (index : Nat) (port : Port) : Prop :=
  ∃ spelling : Declaration.Spelling, body[index]? = some spelling.line ∧
    port.group = groupAt body index ∧ port.name = String.ofList spelling.name ∧
    port.isVector = (Text.afterSpelling? Declaration.vectorEnding spelling.rest).isSome ∧
    Text.spells port.direction.letters spelling.mode = true

end Body

/-- Ports on the sides where their directions put them. -/
def Ports.ofList (ports : List Port) : Ports :=
  ⟨ports.filter (·.direction.isInput), ports.filter (!·.direction.isInput)⟩

theorem Ports.ofList_concat (ports : List Port) (port : Port) :
    ofList (ports ++ [port]) = (ofList ports).add port := by
  cases side : port.direction.isInput <;> simp [ofList, add, side]

theorem Ports.count_ofList (ports : List Port) : (ofList ports).count = ports.length := by
  induction ports using List.reverseRecOn with
  | nil => rfl
  | append_singleton ports port ih => simp [ofList_concat, ih]

namespace Body

section Concat

variable {body : List Line} {line : Line} {index : Nat}

theorem getElem?_concat_of_lt (inside : index < body.length) :
    (body ++ [line])[index]? = body[index]? := List.getElem?_append_left inside

theorem followsDeclaration_concat (inside : index ≤ body.length) :
    FollowsDeclaration (body ++ [line]) index ↔ FollowsDeclaration body index := by
  have same : ∀ i < index, (body ++ [line])[i]? = body[i]? := by
    intro i before
    exact getElem?_concat_of_lt (by omega)
  constructor
  · rintro ⟨i, before, declares, between⟩
    refine ⟨i, before, by rwa [← same i before], ?_⟩
    intro j beforeIndex behind
    rw [← same j beforeIndex]
    exact between j beforeIndex behind
  · rintro ⟨i, before, declares, between⟩
    refine ⟨i, before, by rwa [same i before], ?_⟩
    intro j beforeIndex behind
    rw [same j beforeIndex]
    exact between j beforeIndex behind

/-- Behind a line stands a declaration if it is one, or if it is not blank and one stood before. -/
theorem followsDeclaration_concat_length :
    FollowsDeclaration (body ++ [line]) (body.length + 1) ↔
      line.declares = true ∨ line.isBlank = false ∧ FollowsDeclaration body body.length := by
  have last : (body ++ [line])[body.length]? = some line := by simp
  constructor
  · rintro ⟨i, before, declares, between⟩
    by_cases isLast : i = body.length
    · left
      simpa [isLast, last] using declares
    · right
      have noBlank := between body.length (by omega) (by omega)
      refine ⟨by simpa [last] using noBlank, i, by omega, ?_, ?_⟩
      · rwa [getElem?_concat_of_lt (by omega)] at declares
      · intro j beforeLength behind
        have here := between j (by omega) behind
        rwa [getElem?_concat_of_lt beforeLength] at here
  · rintro (declares | ⟨noBlank, i, before, declares, between⟩)
    · refine ⟨body.length, by omega, by simpa [last] using declares, ?_⟩
      intro j beforeIndex behind
      omega
    · refine ⟨i, by omega, by rwa [getElem?_concat_of_lt before], ?_⟩
      intro j beforeIndex behind
      by_cases isLast : j = body.length
      · simpa [isLast, last] using noBlank
      · rw [getElem?_concat_of_lt (by omega)]
        exact between j (by omega) behind

theorem separatesAt_concat (inside : index < body.length) :
    SeparatesAt (body ++ [line]) index ↔ SeparatesAt body index := by
  rw [SeparatesAt, SeparatesAt, getElem?_concat_of_lt inside,
    followsDeclaration_concat (by omega)]

theorem groupAt_concat (inside : index ≤ body.length) :
    groupAt (body ++ [line]) index = groupAt body index := by
  apply List.countP_congr
  intro i member
  have before : i < body.length := by
    have := List.mem_range.mp member
    omega
  rw [decide_eq_true_iff, decide_eq_true_iff, separatesAt_concat before]

theorem groupAt_concat_length :
    groupAt (body ++ [line]) (body.length + 1) = groupAt body body.length +
      if line.isBlank ∧ FollowsDeclaration body body.length then 1 else 0 := by
  have last : SeparatesAt (body ++ [line]) body.length ↔
      line.isBlank ∧ FollowsDeclaration body body.length := by
    rw [SeparatesAt, followsDeclaration_concat (Nat.le_refl _)]
    simp
  have before : groupAt (body ++ [line]) body.length = groupAt body body.length :=
    groupAt_concat (Nat.le_refl _)
  rw [← before, groupAt, List.range_succ, List.countP_append, groupAt]
  by_cases separates : line.isBlank ∧ FollowsDeclaration body body.length
  · simp [last, separates]
  · simp [last, separates]

theorem declarationIndices_concat :
    declarationIndices (body ++ [line]) =
      declarationIndices body ++ if line.declares then [body.length] else [] := by
  have length : (body ++ [line]).length = body.length + 1 := by simp
  have before : (List.range body.length).filter
      (fun i => (body ++ [line])[i]?.any Line.declares) = declarationIndices body := by
    apply List.filter_congr
    intro i member
    rw [getElem?_concat_of_lt (List.mem_range.mp member)]
  rw [declarationIndices, length, List.range_succ, List.filter_append, before]
  cases declares : line.declares <;> simp [declares]

theorem DeclaredAt.concat {port : Port} (inside : index < body.length)
    (declared : DeclaredAt body index port) : DeclaredAt (body ++ [line]) index port := by
  obtain ⟨spelling, found, group, rest⟩ := declared
  refine ⟨spelling, ?_, ?_, rest⟩
  · rw [getElem?_concat_of_lt inside, found]
  · rw [groupAt_concat (by omega), group]

end Concat

/-- A blank line stands behind the last line that declares a port. -/
def BlankFollowsLast (body : List Line) : Prop :=
  ∃ j < body.length, body[j]?.any Line.isBlank = true ∧
    ∀ i < body.length, j ≤ i → body[i]?.any Line.declares = false

instance (body : List Line) : Decidable (BlankFollowsLast body) :=
  inferInstanceAs (Decidable (∃ j < body.length, _))

theorem declarationIndices_eq_nil_iff {body : List Line} :
    declarationIndices body = [] ↔ ∀ i < body.length, body[i]?.any Line.declares = false := by
  simp only [declarationIndices, List.filter_eq_nil_iff, List.mem_range, Bool.not_eq_true]

/-- If a line declares a port, one of the lines is the last that does. -/
theorem exists_last_declaration {body : List Line} {first : Nat} (inside : first < body.length)
    (declares : body[first]?.any Line.declares = true) :
    ∃ last < body.length, body[last]?.any Line.declares = true ∧
      ∀ i < body.length, body[i]?.any Line.declares = true → i ≤ last := by
  let last := Nat.findGreatest (fun i => body[i]?.any Line.declares = true) body.length
  have found : body[last]?.any Line.declares = true :=
    Nat.findGreatest_spec (P := fun i => body[i]?.any Line.declares = true)
      (Nat.le_of_lt inside) declares
  refine ⟨last, ?_, found, fun i within here => Nat.le_findGreatest (Nat.le_of_lt within) here⟩
  by_contra outside
  rw [List.getElem?_eq_none (Nat.le_of_not_lt outside)] at found
  cases found

/-- A body does not end in a group with a port if no line declares one, or if a blank line stands
    behind the last that does. -/
theorem not_followsDeclaration_iff {body : List Line} :
    ¬ FollowsDeclaration body body.length ↔
      declarationIndices body = [] ∨ BlankFollowsLast body := by
  rw [declarationIndices_eq_nil_iff]
  constructor
  · intro ended
    by_contra neither
    rw [not_or, not_forall] at neither
    obtain ⟨⟨first, some⟩, noBlank⟩ := neither
    rw [Classical.not_imp, Bool.not_eq_false] at some
    -- The last declaration is the one that no blank line follows.
    obtain ⟨last, inside, declares, later⟩ := exists_last_declaration some.1 some.2
    refine ended ⟨last, inside, declares, ?_⟩
    intro j insideToo behind
    rw [← Bool.not_eq_true]
    intro blank
    refine noBlank ⟨j, insideToo, blank, ?_⟩
    intro i insideBody notBefore
    rw [← Bool.not_eq_true]
    intro found
    have := later i insideBody found
    omega
  · rintro ended ⟨i, inside, declares, noBlank⟩
    rcases ended with nowhere | ⟨j, insideToo, blank, none⟩
    · rw [nowhere i inside] at declares
      cases declares
    · rcases Nat.lt_or_ge i j with before | behind
      · rw [noBlank j insideToo before] at blank
        cases blank
      · rw [none i inside behind] at declares
        cases declares

end Body

namespace Scanner

/-- What a scanner of the port clause knows about the lines that it has read. -/
structure HasRead (scanner : Scanner) (body : List Line) : Prop where
  phase : scanner.phase = .inPorts
  group : scanner.group = Body.groupAt body body.length
  groupEmpty : scanner.groupEmpty = true ↔ ¬ Body.FollowsDeclaration body body.length
  ports : ∃ records,
    List.Forall₂ (Body.DeclaredAt body) (Body.declarationIndices body) records ∧
      scanner.ports = Ports.ofList records

theorem hasRead_inClause : inClause.HasRead [] where
  phase := rfl
  group := rfl
  groupEmpty := by simp [inClause, initial, Body.FollowsDeclaration]
  ports := ⟨[], .nil, rfl⟩

/-- The records of a body are records of the body with a further line. -/
theorem HasRead.records_concat {scanner : Scanner} {body : List Line}
    (known : scanner.HasRead body) (line : Line) :
    ∃ records,
      List.Forall₂ (Body.DeclaredAt (body ++ [line])) (Body.declarationIndices body) records ∧
        scanner.ports = Ports.ofList records := by
  obtain ⟨records, declared, ports⟩ := known.ports
  refine ⟨records, ?_, ports⟩
  have inside : ∀ index ∈ Body.declarationIndices body, index < body.length := by
    intro index member
    exact List.mem_range.mp (List.mem_filter.mp member).1
  apply List.Forall₂.imp _ ((List.forall₂_and_left _ _).mpr ⟨inside, declared⟩)
  intro index port both
  exact both.2.concat both.1

/-- A scanner has found as many ports as the body declares. -/
theorem HasRead.count {scanner : Scanner} {body : List Line} (known : scanner.HasRead body) :
    scanner.ports.count = (Body.declarationIndices body).length := by
  obtain ⟨records, declared, ports⟩ := known.ports
  rw [ports, Ports.count_ofList, declared.length_eq]

/-- A line that is passed over leaves the scanner where it is. -/
theorem HasRead.stay {scanner : Scanner} {body : List Line} (known : scanner.HasRead body)
    {line : Line} (noBlank : line.isBlank = false) (noDeclaration : line.declares = false) :
    scanner.HasRead (body ++ [line]) := by
  obtain ⟨records, declared, ports⟩ := known.records_concat line
  have indices := @Body.declarationIndices_concat body line
  rw [noDeclaration, if_neg (by simp), List.append_nil] at indices
  refine ⟨known.phase, ?_, ?_, records, indices ▸ declared, ports⟩
  · rw [List.length_append, List.length_singleton, Body.groupAt_concat_length, known.group, noBlank]
    simp
  · rw [List.length_append, List.length_singleton, Body.followsDeclaration_concat_length,
      noDeclaration, noBlank]
    simpa using known.groupEmpty

/-- A blank line begins a group exactly if a declaration has stood in the current one. -/
theorem HasRead.separate {scanner : Scanner} {body : List Line} (known : scanner.HasRead body)
    {line : Line} (blank : line.isBlank = true) (noDeclaration : line.declares = false) :
    scanner.separate.scanner.HasRead (body ++ [line]) := by
  obtain ⟨records, declared, ports⟩ := known.records_concat line
  have indices := @Body.declarationIndices_concat body line
  rw [noDeclaration, if_neg (by simp), List.append_nil] at indices
  have group := @Body.groupAt_concat_length body line
  have ended : ¬ Body.FollowsDeclaration (body ++ [line]) (body.length + 1) := by
    rw [Body.followsDeclaration_concat_length, noDeclaration, blank]
    simp
  have length : (body ++ [line]).length = body.length + 1 := by simp
  rw [← length] at group ended
  cases empty : scanner.groupEmpty with
  | true =>
    have nothing := known.groupEmpty.mp empty
    rw [Scanner.separate, if_pos empty]
    refine ⟨known.phase, ?_, iff_of_true empty ended, records, indices ▸ declared, ports⟩
    rw [group, if_neg (fun both => nothing both.2), ← known.group]
    rfl
  | false =>
    have something : Body.FollowsDeclaration body body.length := by
      by_contra nothing
      rw [known.groupEmpty.mpr nothing] at empty
      cases empty
    rw [Scanner.separate, if_neg (by simp [empty])]
    refine ⟨known.phase, ?_, iff_of_true rfl ended, records, indices ▸ declared, ports⟩
    rw [group, if_pos ⟨blank, something⟩, ← known.group]

/-- A declaration adds its port, in the group that the lines before it tell. -/
theorem HasRead.addPort {scanner : Scanner} {body : List Line} (known : scanner.HasRead body)
    {line : Line} {spelling : Declaration.Spelling} (written : spelling.line = line)
    {direction : Direction} (spelled : Text.spells direction.letters spelling.mode = true) :
    (scanner.addPort ⟨scanner.group, String.ofList spelling.name,
      spelling.declaration.isVector, direction⟩).scanner.HasRead (body ++ [line]) := by
  obtain ⟨records, declared, ports⟩ := known.records_concat line
  have found : Declaration.read? line = some spelling.declaration := by
    rw [← written]
    exact Declaration.read?_line spelling
  have noBlank := Line.isBlank_eq_false_of_read? found
  have declares : line.declares = true := by simp [Line.declares, found]
  have indices := @Body.declarationIndices_concat body line
  rw [declares, if_pos rfl] at indices
  refine ⟨known.phase, ?_, ?_, ?_⟩
  · show scanner.group = _
    rw [List.length_append, List.length_singleton, Body.groupAt_concat_length, known.group, noBlank]
    simp
  · rw [List.length_append, List.length_singleton, Body.followsDeclaration_concat_length, declares]
    simp [Scanner.addPort]
  · let port : Port :=
      ⟨scanner.group, String.ofList spelling.name, spelling.declaration.isVector, direction⟩
    refine ⟨records ++ [port], ?_, ?_⟩
    · rw [indices]
      apply List.rel_append declared
      refine .cons ⟨spelling, ?_, ?_, rfl, rfl, spelled⟩ .nil
      · simp [written]
      · rw [Body.groupAt_concat (Nat.le_refl _), ← known.group]
    · rw [Ports.ofList_concat, ← ports]
      rfl

/-- A further line of the body keeps what the scanner knows true. -/
theorem HasRead.read {scanner : Scanner} {body : List Line} (known : scanner.HasRead body)
    {line : Line} (code : line.isComment = false) (runs : line.stops = false) :
    (scanner.read line).scanner.HasRead (body ++ [line]) := by
  cases clauseStep known.phase runs with
  | skipped kind step =>
    obtain ⟨-, noBlank, noDeclaration⟩ :=
      (Line.kind_eq_skipped_iff.mp kind).resolve_left (by simp [code])
    rw [step]
    exact known.stay noBlank (by simp [Line.declares, noDeclaration])
  | blank kind step =>
    have blank := Line.kind_eq_blank_iff.mp kind
    rw [step]
    apply known.separate blank
    rw [← Bool.not_eq_true]
    intro declares
    obtain ⟨declaration, found⟩ := Option.isSome_iff_exists.mp declares
    rw [Line.isBlank_eq_false_of_read? found] at blank
    cases blank
  | declaration spelling written direction spelled step =>
    rw [step]
    exact known.addPort written spelled

theorem readAll_cons (scanner : Scanner) (line : Line) (lines : List Line) :
    scanner.readAll (line :: lines) = (scanner.read line).scanner.readAll lines := rfl

theorem readAll_append (scanner : Scanner) (first second : List Line) :
    scanner.readAll (first ++ second) = (scanner.readAll first).readAll second :=
  List.foldl_append

theorem readAll_concat (scanner : Scanner) (lines : List Line) (line : Line) :
    scanner.readAll (lines ++ [line]) = ((scanner.readAll lines).read line).scanner := by
  simp [readAll]

/-- The scanner behind a body knows the body. -/
theorem hasRead_readAll {body : List Line}
    (lines : ∀ line ∈ body, line.isComment = false ∧ line.stops = false) :
    (inClause.readAll body).HasRead body := by
  induction body using List.reverseRecOn with
  | nil => exact hasRead_inClause
  | append_singleton body line ih =>
    obtain ⟨code, runs⟩ := lines line (by simp)
    rw [readAll_concat]
    exact (ih fun other member => lines other (by simp [member])).read code runs

/-- Comments leave no trace in a scanner. -/
theorem readAll_filter_isComment (scanner : Scanner) (lines : List Line) :
    scanner.readAll (lines.filter (!·.isComment)) = scanner.readAll lines := by
  induction lines using List.reverseRecOn with
  | nil => rfl
  | append_singleton lines line ih =>
    cases comment : line.isComment with
    | true => simp [readAll_concat, ih, comment, read_of_isComment comment, Scanner.stay]
    | false => simp [readAll_concat, ih, comment]

end Scanner

end EntityDiagram
