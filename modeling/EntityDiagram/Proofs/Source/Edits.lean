import EntityDiagram.Proofs.Source.Course
import Mathlib.Logic.Relation

/-!
Changes of a source that keep its outcome. Comments, blank lines and lines that no rule covers act
as boundaries of groups at most: comments may come and go, blank lines too where no group is to be
kept apart from another one, and more of them where one is. Before the first declaration of the port
clause the group at hand is empty, so that no blank line ends it; behind the last one the readings
with a blank line and without it may stand in different groups, but no port is put into them.
-/

namespace EntityDiagram

/-- The indices of the lines of the port clause that declare a port, in order. -/
def clauseDeclarations (lines : List Line) : List Nat :=
  let landmarks := Landmarks.of lines
  (List.range lines.length).filter fun i =>
    landmarks.port?.any (· ≤ i) && landmarks.finish?.all (i < ·) && lines[i]?.any Line.declares

theorem mem_clauseDeclarations {lines : List Line} {i port : Nat} {line : Line}
    (opened : (Landmarks.of lines).port? = some port) (behind : port ≤ i)
    (before : ∀ finish, (Landmarks.of lines).finish? = some finish → i < finish)
    (found : lines[i]? = some line) (declares : line.declares = true) :
    i ∈ clauseDeclarations lines := by
  have inside := (List.getElem?_eq_some_iff.mp found).1
  simp only [clauseDeclarations, List.mem_filter, List.mem_range, opened, found, Option.any_some,
    declares, Bool.and_true, Bool.and_eq_true, decide_eq_true_eq]
  refine ⟨inside, behind, ?_⟩
  cases finishFound : (Landmarks.of lines).finish? with
  | none => rfl
  | some finish => simpa using before finish finishFound

namespace Reading

variable {lines before behind : List Line}

/-- A reading that is not over has come to the phase that the landmarks of its lines tell, and has
    not met the end of the clause. -/
theorem landmarks_of_running (running : (initial.scanLines lines).isOver = false) :
    (Landmarks.of lines).finish? = none ∧
      (initial.scanLines lines).scanner.phase = (Landmarks.of lines).phase := by
  have accepted := refused?_of_isOver_eq_false running
  have noRefusal : (Landmarks.of lines).refusal? = none := by
    rw [Option.eq_none_iff_forall_ne_some]
    intro refusal refused
    obtain ⟨port, portFound⟩ := Landmarks.exists_port?_of_refusal? refused
    obtain ⟨-, line, declaration, -, -, keyword⟩ := scanLines_of_refusal? portFound refused
    rw [accepted] at keyword
    cases keyword
  have noFinish : (Landmarks.of lines).finish? = none := by
    rw [Option.eq_none_iff_forall_ne_some]
    intro finish finishFound
    obtain ⟨port, portFound⟩ := Landmarks.exists_port?_of_finish? finishFound
    obtain ⟨scanner, -, -⟩ := scanLines_of_finish? portFound finishFound noRefusal
    simp [isOver, scanner] at running
  exact ⟨noFinish, (scanLines_of_incomplete noFinish noRefusal).1⟩

/-- A declaration that a reading meets in the port clause and does not refuse is one of the
    declarations of the clause. -/
theorem length_mem_clauseDeclarations {line : Line}
    (running : (initial.scanLines (before ++ [line])).isOver = false)
    (phase : (initial.scanLines (before ++ [line])).scanner.phase = .inPorts)
    (declares : line.declares = true) :
    before.length ∈ clauseDeclarations (before ++ line :: behind) := by
  obtain ⟨noFinish, landmarkPhase⟩ := landmarks_of_running running
  have part : before ++ [line] = (before ++ line :: behind).take (before.length + 1) := by
    simp [List.take_append]
  rw [phase] at landmarkPhase
  cases portFound : (Landmarks.of (before ++ [line])).port? with
  | none =>
    rw [Landmarks.phase, portFound] at landmarkPhase
    revert landmarkPhase
    cases (Landmarks.of (before ++ [line])).entity? <;> simp
  | some port =>
    rw [part, Landmarks.port?_take_eq_some_iff] at portFound
    apply mem_clauseDeclarations portFound.1 (Nat.le_of_lt_succ portFound.2) _ (by simp) declares
    intro finish finishFound
    by_contra early
    have inPart := Landmarks.finish?_take_eq_some_iff.mpr
      ⟨finishFound, Nat.lt_succ_of_le (Nat.le_of_not_lt early)⟩
    rw [← part, noFinish] at inPart
    cases inPart

/-- A line that the reading takes and that is none of the declarations of the clause declares
    nothing there. -/
theorem declares_eq_false {line : Line} (running : (initial.scanLines before).isOver = false)
    (notDeclared : before.length ∉ clauseDeclarations (before ++ line :: behind))
    (accepted : ((initial.scanLines before).scan line).refused? = none)
    (phase : ((initial.scanLines before).scan line).scanner.phase = .inPorts) :
    line.declares = false := by
  rw [← Bool.not_eq_true]
  intro declares
  rw [← scanLines_concat running] at accepted phase
  have stillRunning := isOver_eq_false (by rw [phase]; decide) accepted
  exact notDeclared (length_mem_clauseDeclarations stillRunning phase declares)

/-- Before the first declaration of the port clause the group at hand is empty. -/
theorem groupEmpty_scanLines (running : (initial.scanLines before).isOver = false)
    (none : ∀ i ∈ clauseDeclarations (before ++ behind), before.length ≤ i) :
    (initial.scanLines before).scanner.groupEmpty = true := by
  induction before using List.reverseRecOn generalizing behind with
  | nil => rfl
  | append_singleton before line ih =>
    have runningBefore := isOver_eq_false_of_concat running
    have accepted := refused?_of_isOver_eq_false running
    rw [scanLines_concat runningBefore] at accepted ⊢
    rw [List.append_assoc, List.singleton_append, List.length_append, List.length_singleton] at none
    have empty := ih runningBefore fun i member => Nat.le_of_succ_le (none i member)
    have nothing := declares_eq_false runningBefore
      (fun member => Nat.not_succ_le_self _ (none _ member)) accepted
    exact (Scanner.addsNothing_of_not_declared accepted nothing).groupEmpty empty

/-- Behind the last declaration of the port clause readings stay alike. -/
theorem alike_scanLines {other : Reading} (alike : Alike (initial.scanLines before) other)
    (none : ∀ i ∈ clauseDeclarations (before ++ behind), i < before.length) :
    Alike (initial.scanLines (before ++ behind)) (other.scanLines behind) := by
  induction behind generalizing before other with
  | nil => rwa [List.append_nil]
  | cons line behind ih =>
    cases running : (initial.scanLines before).isOver with
    | true =>
      rw [scanLines_append, scanLines_of_isOver running,
        scanLines_of_isOver (alike.isOver.symm.trans running)]
      exact alike
    | false =>
      have part : before ++ line :: behind = (before ++ [line]) ++ behind := by simp
      rw [scanLines_cons (alike.isOver.symm.trans running), part]
      apply ih
      · rw [scanLines_concat running]
        apply alike.scan
        exact declares_eq_false running fun member => Nat.lt_irrefl _ (none _ member)
      · intro i member
        rw [← part] at member
        rw [List.length_append]
        exact Nat.lt_succ_of_lt (none i member)

end Reading

/-! ### Edits -/

/-- No declaration of the port clause stands before an index, or none stands there or behind. -/
def OutsideDeclarations (lines : List Line) (index : Nat) : Prop :=
  (∀ i ∈ clauseDeclarations lines, index ≤ i) ∨ ∀ i ∈ clauseDeclarations lines, i < index

instance (lines : List Line) (index : Nat) : Decidable (OutsideDeclarations lines index) :=
  inferInstanceAs (Decidable (_ ∨ _))

/-- Changes of a source that keep its outcome: a comment comes in anywhere; blank lines and comments
    come in for a blank line; blank lines come in or go where the declarations of the port clause
    have not begun or have ended; a line that no rule covers comes into the opened clause. -/
inductive Edit : List Line → List Line → Prop where
  | insertComment (before behind : List Line) {comment : Line}
      (isComment : comment.isComment = true) :
      Edit (before ++ behind) (before ++ comment :: behind)
  | replaceBlank (before others behind : List Line) {blank : Line}
      (isBlank : blank.isBlank = true)
      (kinds : ∀ line ∈ others, line.isBlank = true ∨ line.isComment = true)
      (someBlank : ∃ line ∈ others, line.isBlank = true) :
      Edit (before ++ blank :: behind) (before ++ (others ++ behind))
  | insertBlanks (before blanks behind : List Line)
      (areBlank : ∀ line ∈ blanks, line.isBlank = true)
      (outside : OutsideDeclarations (before ++ behind) before.length) :
      Edit (before ++ behind) (before ++ (blanks ++ behind))
  | deleteBlanks (before blanks behind : List Line)
      (areBlank : ∀ line ∈ blanks, line.isBlank = true)
      (outside : OutsideDeclarations (before ++ (blanks ++ behind)) before.length) :
      Edit (before ++ (blanks ++ behind)) (before ++ behind)
  | insertSkipped (before behind : List Line) {line : Line} (noBlank : line.isBlank = false)
      (noDeclaration : Declaration.read? line = none) (noFinish : line.has .finish = false)
      (opened : ∃ port < before.length, (Landmarks.of (before ++ behind)).port? = some port) :
      Edit (before ++ behind) (before ++ line :: behind)

namespace Reading

variable {before blanks behind : List Line}

/-- Blank lines have no influence before the first declaration of the port clause. -/
theorem result_insert_blanks_of_le (areBlank : ∀ line ∈ blanks, line.isBlank = true)
    {rest : List Line} (none : ∀ i ∈ clauseDeclarations (before ++ rest), before.length ≤ i)
    (source : String) :
    (initial.scanLines (before ++ (blanks ++ behind))).result source =
      (initial.scanLines (before ++ behind)).result source := by
  have agree := agree_scanLines_blanks areBlank fun running => groupEmpty_scanLines running none
  exact (result_eq_of_agree [] blanks agree source).symm

/-- Nor have they behind its last declaration, whether that is told with them or without them. -/
theorem result_insert_blanks_of_lt (areBlank : ∀ line ∈ blanks, line.isBlank = true)
    (none : (∀ i ∈ clauseDeclarations (before ++ behind), i < before.length) ∨
      ∀ i ∈ clauseDeclarations (before ++ (blanks ++ behind)), i < before.length)
    (source : String) :
    (initial.scanLines (before ++ (blanks ++ behind))).result source =
      (initial.scanLines (before ++ behind)).result source := by
  have alike := alike_scanLines_blanks (initial.scanLines before) areBlank
  rw [← scanLines_append] at alike
  rcases none with without | within
  · have whole := (alike_scanLines alike without).result source
    rw [whole, ← scanLines_append, List.append_assoc]
  · rw [← List.append_assoc] at within ⊢
    have longer : ∀ i ∈ clauseDeclarations ((before ++ blanks) ++ behind),
        i < (before ++ blanks).length := by
      intro i member
      rw [List.length_append]
      exact Nat.lt_add_right _ (within i member)
    have whole := (alike_scanLines alike.symm longer).result source
    rw [whole, ← scanLines_append]

/-- In an opened port clause a line that no rule covers is passed over. -/
theorem agree_scan_skipped {line : Line} (kind : line.kind = .skipped) {port : Nat}
    (opened : (Landmarks.of before).port? = some port) :
    Agree (initial.scanLines before) ((initial.scanLines before).scanLines [line]) := by
  cases running : (initial.scanLines before).isOver with
  | true =>
    rw [scanLines_of_isOver running]
    exact .refl _
  | false =>
    have phase : (initial.scanLines before).scanner.phase = .inPorts := by
      rw [(landmarks_of_running running).2, Landmarks.phase, opened]
      rfl
    have stays := Scanner.read_of_inPorts phase line
    rw [kind, Scanner.readKind] at stays
    rw [scanLines_cons running, scan_of_stay (refused?_of_isOver_eq_false running) stays]
    exact ⟨rfl, rfl⟩

/-- An edit keeps the result. -/
theorem result_scanLines_of_edit {lines others : List Line} (edit : Edit lines others)
    (source : String) :
    (initial.scanLines lines).result source = (initial.scanLines others).result source := by
  cases edit with
  | insertComment before behind isComment =>
    apply result_eq_of_agree [] [_]
    apply agree_scanLines_separators
    · simp [isComment]
    · simp [Line.isBlank_eq_false_of_isComment isComment]
  | replaceBlank before others behind isBlank kinds someBlank =>
    apply result_eq_of_agree [_]
    apply agree_scanLines_separators
    · exact List.forall_mem_cons.mpr ⟨.inl isBlank, kinds⟩
    · rw [List.any_eq_true.mpr someBlank]
      simp [isBlank]
  | insertBlanks before blanks behind areBlank outside =>
    rcases outside with early | late
    · exact (result_insert_blanks_of_le areBlank early source).symm
    · exact (result_insert_blanks_of_lt areBlank (.inl late) source).symm
  | deleteBlanks before blanks behind areBlank outside =>
    rcases outside with early | late
    · exact result_insert_blanks_of_le areBlank early source
    · exact result_insert_blanks_of_lt areBlank (.inr late) source
  | insertSkipped before behind noBlank noDeclaration noFinish opened =>
    obtain ⟨port, inside, opened⟩ := opened
    have kind := Line.kind_eq_skipped_iff.mpr (.inr ⟨noFinish, noBlank, noDeclaration⟩)
    have openedBefore : (Landmarks.of before).port? = some port := by
      rw [← @List.take_left _ before behind]
      exact Landmarks.port?_take_eq_some_iff.mpr ⟨opened, inside⟩
    exact result_eq_of_agree [] [_] (agree_scan_skipped kind openedBefore) source

/-- Comments, blank lines and lines that no rule covers act as boundaries of groups at most: any
    number of edits, made or taken back, keeps the outcome of a source. -/
theorem result_eq_of_edits {lines others : List String}
    (edits : Relation.EqvGen Edit (scanned lines) (scanned others)) (source : String) :
    (ofLines lines).result source = (ofLines others).result source := by
  rw [ofLines_eq_scanLines, ofLines_eq_scanLines]
  generalize scanned lines = first at edits
  generalize scanned others = second at edits
  induction edits with
  | rel first second edit => exact result_scanLines_of_edit edit source
  | refl lines => rfl
  | symm first second _ ih => exact ih.symm
  | trans first second third _ _ ih laterIh => exact ih.trans laterIh

/-- Two groups with one port each. -/
def sparse : List String :=
  ["entity e is", "port (", "a : in std_logic;", "", "b : out std_logic", ");", "end"]

/-- The same groups between comments, blank lines and a port of another type. -/
def padded : List String :=
  ["-- port", "entity e is", "port (", "", "a : in std_logic;", "c : in integer;", " ", "-- end",
    "\t", "b : out std_logic", "", "", ");", "end"]

theorem result_eq_of_edits_sparse :
    Relation.EqvGen Edit (scanned sparse) (scanned padded) ∧
      (ofLines padded).result "s" = .ok ⟨[⟨0, "a", false, .input⟩], [⟨1, "b", false, .output⟩]⟩ ∧
      (ofLines sparse).result "s" = (ofLines padded).result "s" := by
  let opening := ["-- port", "entity e is", "port ("]
  let firstPort := opening ++ ["", "a : in std_logic;"]
  let group := firstPort ++ ["c : in integer;"]
  let secondPort := group ++ [" ", "-- end", "\t", "b : out std_logic"]
  have comment : Edit (scanned sparse) (scanned (opening ++ sparse.drop 2)) :=
    .insertComment [] (scanned sparse) (by decide +kernel)
  have early : Edit (scanned (opening ++ sparse.drop 2)) (scanned (firstPort ++ sparse.drop 3)) :=
    .insertBlanks (scanned opening) (scanned [""]) (scanned (sparse.drop 2)) (by decide +kernel)
      (by decide +kernel)
  have skipped : Edit (scanned (firstPort ++ sparse.drop 3)) (scanned (group ++ sparse.drop 3)) :=
    .insertSkipped (scanned firstPort) (scanned (sparse.drop 3)) (by decide +kernel)
      (by decide +kernel) (by decide +kernel) ⟨2, by decide +kernel, by decide +kernel⟩
  have wider : Edit (scanned (group ++ sparse.drop 3)) (scanned (secondPort ++ sparse.drop 5)) :=
    .replaceBlank (scanned group) (scanned [" ", "-- end", "\t"]) (scanned (sparse.drop 4))
      (by decide +kernel) (by decide +kernel) (by decide +kernel)
  have late : Edit (scanned (secondPort ++ sparse.drop 5)) (scanned padded) :=
    .insertBlanks (scanned secondPort) (scanned ["", ""]) (scanned (sparse.drop 5))
      (by decide +kernel) (by decide +kernel)
  have edits : Relation.EqvGen Edit (scanned sparse) (scanned padded) :=
    .trans _ _ _ (.rel _ _ comment) <| .trans _ _ _ (.rel _ _ early) <|
      .trans _ _ _ (.rel _ _ skipped) <| .trans _ _ _ (.rel _ _ wider) <| .rel _ _ late
  exact ⟨edits, by decide +kernel, result_eq_of_edits edits "s"⟩

end Reading

end EntityDiagram
