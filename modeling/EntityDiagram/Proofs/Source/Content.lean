import EntityDiagram.Proofs.Source.Body

/-!
What a reading finds. The ports of a source are the declarations of its port clause, each exactly
once and in order, and the group of a port counts the blank lines before it that separate it from an
earlier declaration.
-/

namespace EntityDiagram

namespace Reading

/-- A reading comes into a phase with the line at an index: it stands before the phase when it has
    taken the lines up to that one, and no longer when it has taken that line, too. -/
def EntersAt (lines : List String) (phase : Phase) (index : Nat) : Prop :=
  (ofLines (lines.take index)).scanner.phase.rank < phase.rank ∧
    phase.rank ≤ (ofLines (lines.take (index + 1))).scanner.phase.rank

theorem scanned_take (lines : List String) (count : Nat) :
    scanned (lines.take count) = (scanned lines).take count := by
  simp [scanned]

/-- A reading comes into a phase with one line at most. -/
theorem EntersAt.unique {lines : List String} {phase : Phase} {first second : Nat}
    (firstEnters : EntersAt lines phase first) (secondEnters : EntersAt lines phase second) :
    first = second := by
  have ordered : ∀ {first second : Nat}, EntersAt lines phase first →
      EntersAt lines phase second → second ≤ first := by
    rintro first second ⟨-, behind⟩ ⟨before, -⟩
    by_contra later
    have longer : lines.take second =
        lines.take (first + 1) ++ (lines.take second).drop (first + 1) := by
      conv => lhs; rw [← List.take_append_drop (first + 1) (lines.take second)]
      rw [List.take_take, Nat.min_eq_left (by omega)]
    have further := rank_le_scanLines (ofLines (lines.take (first + 1)))
      (scanned ((lines.take second).drop (first + 1)))
    rw [ofLines_eq_scanLines, ← scanLines_append, scanned, scanned, ← List.map_append, ← longer,
      ← scanned, ← scanned, ← ofLines_eq_scanLines, ← ofLines_eq_scanLines] at further
    omega
  exact Nat.le_antisymm (ordered secondEnters firstEnters) (ordered firstEnters secondEnters)

theorem entersAt_of_port? {lines : List String} {port : Nat}
    (found : (Landmarks.of (scanned lines)).port? = some port) :
    EntersAt lines .inPorts port := by
  constructor
  · have portAbsent : (Landmarks.of (scanned (lines.take port))).port? = none := by
      rw [scanned_take, Option.eq_none_iff_forall_ne_some]
      intro other otherFound
      obtain ⟨same, before⟩ := Landmarks.port?_take_eq_some_iff.mp otherFound
      rw [found, Option.some.injEq] at same
      omega
    have noFinish : (Landmarks.of (scanned (lines.take port))).finish? = none := by
      simp [Landmarks.finish?_eq, portAbsent]
    have noRefusal : (Landmarks.of (scanned (lines.take port))).refusal? = none := by
      simp [Landmarks.refusal?_eq, portAbsent]
    rw [ofLines_eq_scanLines, (scanLines_of_incomplete noFinish noRefusal).1, Landmarks.phase,
      portAbsent]
    split
    · contradiction
    · split <;> decide
  · have portFound : (Landmarks.of (scanned (lines.take (port + 1)))).port? = some port := by
      rw [scanned_take]
      exact Landmarks.port?_take_eq_some_iff.mpr ⟨found, by omega⟩
    obtain ⟨entity, -, -, enters⟩ := scanLines_of_port? portFound
    rw [ofLines_eq_scanLines, enters]
    exact rank_le_scanLines (entered entity port) _

theorem entersAt_of_finish? {lines : List String} {finish : Nat}
    (found : (Landmarks.of (scanned lines)).finish? = some finish)
    (noRefusal : (Landmarks.of (scanned lines)).refusal? = none) :
    EntersAt lines .complete finish := by
  obtain ⟨port, portFound⟩ := Landmarks.exists_port?_of_finish? found
  obtain ⟨scanner, consumed, -⟩ := scanLines_of_finish? portFound found noRefusal
  rw [← ofLines_eq_scanLines] at scanner consumed
  constructor
  · have noFinishBefore : (Landmarks.of (scanned (lines.take finish))).finish? = none := by
      rw [scanned_take, Option.eq_none_iff_forall_ne_some]
      intro other otherFound
      obtain ⟨same, before⟩ := Landmarks.finish?_take_eq_some_iff.mp otherFound
      rw [found, Option.some.injEq] at same
      omega
    have noRefusalBefore : (Landmarks.of (scanned (lines.take finish))).refusal? = none := by
      rw [Landmarks.refusal?_of_port? portFound, found] at noRefusal
      rw [scanned_take] at noFinishBefore ⊢
      rw [Landmarks.refusal?_eq, noFinishBefore, Option.bind_eq_none_iff]
      intro other otherFound
      obtain ⟨same, -⟩ := Landmarks.port?_take_eq_some_iff.mp otherFound
      rw [portFound, Option.some.injEq] at same
      rw [Option.getD_none, List.take_length, ← same]
      exact noRefusal
    rw [ofLines_eq_scanLines, (scanLines_of_incomplete noFinishBefore noRefusalBefore).1]
    have incomplete := (Landmarks.of (scanned (lines.take finish))).phase_ne_complete
    revert incomplete
    cases (Landmarks.of (scanned (lines.take finish))).phase <;> decide
  · have complete : (ofLines lines).scanner.phase = .complete := by rw [scanner]
    have ended : (ofLines lines).isOver = true := by simp [isOver, complete]
    have whole := ofLines_take_consumed_append ended []
    rw [List.append_nil, consumed] at whole
    rw [whole, complete]

/-- A reading that finds ports ends with the line that ends the port clause. -/
theorem exists_landmarks_of_result_eq_ok {lines : List String} {source : String} {ports : Ports}
    (success : (ofLines lines).result source = .ok ports) :
    ∃ port finish, (Landmarks.of (scanned lines)).port? = some port ∧
      (Landmarks.of (scanned lines)).finish? = some finish ∧
      (Landmarks.of (scanned lines)).refusal? = none ∧
      ports = (Scanner.inClause.readAll (clause port finish (scanned lines))).ports := by
  cases refusalFound : (Landmarks.of (scanned lines)).refusal? with
  | some refusal =>
    obtain ⟨line, declaration, -, -, failed⟩ := result_ofLines_of_refusal? source refusalFound
    rw [failed] at success
    cases success
  | none =>
    cases finishFound : (Landmarks.of (scanned lines)).finish? with
    | none =>
      rw [result_ofLines_of_incomplete source finishFound refusalFound] at success
      cases success
    | some finish =>
      obtain ⟨port, portFound⟩ := Landmarks.exists_port?_of_finish? finishFound
      rw [result_ofLines_of_finish? source portFound finishFound refusalFound] at success
      cases success
      exact ⟨port, finish, portFound, rfl, rfl, rfl⟩

/-- The lines of a clause that is read to its end do not stop the reading. -/
theorem stops_eq_false_of_mem_clause {lines : List Line} {port finish : Nat}
    (portFound : (Landmarks.of lines).port? = some port)
    (finishFound : (Landmarks.of lines).finish? = some finish)
    (noRefusal : (Landmarks.of lines).refusal? = none) {line : Line}
    (member : line ∈ clause port finish lines) : line.stops = false := by
  obtain ⟨i, behind, before, found⟩ := mem_drop_take member
  apply Landmarks.stops_eq_false_of_refusal?_eq_none portFound noRefusal behind _ found
  intro stop stopFound
  rw [finishFound, Option.some.injEq] at stopFound
  omega

/-- The ports that a reading finds are those that its body declares: the lines, comments apart, from
    the one that comes into the port clause to the one that completes it. -/
theorem content_of_result_eq_ok {lines : List String} {source : String} {ports : Ports}
    (success : (ofLines lines).result source = .ok ports) :
    ∃ port finish, EntersAt lines .inPorts port ∧ EntersAt lines .complete finish ∧
      let body := (clause port finish (scanned lines)).filter (!·.isComment)
      ∃ records, List.Forall₂ (Body.DeclaredAt body) (Body.declarationIndices body) records ∧
        ports = Ports.ofList records := by
  obtain ⟨port, finish, portFound, finishFound, noRefusal, rfl⟩ :=
    exists_landmarks_of_result_eq_ok success
  refine ⟨port, finish, entersAt_of_port? portFound, entersAt_of_finish? finishFound noRefusal, ?_⟩
  intro body
  have lines : ∀ line ∈ body, line.isComment = false ∧ line.stops = false := by
    intro line member
    obtain ⟨inClause, code⟩ := List.mem_filter.mp member
    exact ⟨by simpa using code,
      stops_eq_false_of_mem_clause portFound finishFound noRefusal inClause⟩
  obtain ⟨records, declared, same⟩ := (Scanner.hasRead_readAll lines).ports
  rw [Scanner.readAll_filter_isComment] at same
  exact ⟨records, declared, same⟩

/-- A source whose port line declares a port itself. Two groups are apart by blank lines, between
    which stands a comment, and a line that no rule covers follows. -/
def twoGroups : List String :=
  ["entity e is\r", "port : in std_logic", "", "-- end", " \t ",
    "data : INOUT std_logic_vector(7 downto 0);", "junk", "end e;", "port late : in std_logic"]

theorem content_of_twoGroups :
    (ofLines twoGroups).result "s" =
        .ok ⟨[⟨0, "port", false, .input⟩], [⟨1, "data", true, .bidirectional⟩]⟩ ∧
      ∃ port finish, EntersAt twoGroups .inPorts port ∧ EntersAt twoGroups .complete finish ∧
        let body := (clause port finish (scanned twoGroups)).filter (!·.isComment)
        ∃ records, List.Forall₂ (Body.DeclaredAt body) (Body.declarationIndices body) records ∧
          ⟨[⟨0, "port", false, .input⟩], [⟨1, "data", true, .bidirectional⟩]⟩ =
            Ports.ofList records := by
  have success : (ofLines twoGroups).result "s" =
      .ok ⟨[⟨0, "port", false, .input⟩], [⟨1, "data", true, .bidirectional⟩]⟩ := by
    decide +kernel
  exact ⟨success, content_of_result_eq_ok success⟩

end Reading

end EntityDiagram
