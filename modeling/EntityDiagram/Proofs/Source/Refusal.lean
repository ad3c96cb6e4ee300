import EntityDiagram.Proofs.Source.Content

/-!
Which sources have ports. Lines that hold the three keywords one behind the other are read well,
whatever else they hold, as long as no declaration of the clause is refused. Besides a refused
declaration, nothing but the end of the lines keeps a reading from its ports.
-/

namespace EntityDiagram

/-- The line at an index is no comment and holds a keyword as a whole word. -/
def MarksAt (lines : List Line) (keyword : Keyword) (index : Nat) : Prop :=
  ∃ line, lines[index]? = some line ∧ line.marks keyword = true

/-- Lines hold the three keywords of a port clause, each in the line of the one before or behind
    it. These need not be the first lines with the keywords. -/
def HasClause (lines : List Line) : Prop :=
  ∃ entity port finish, entity ≤ port ∧ port ≤ finish ∧
    MarksAt lines .entity entity ∧ MarksAt lines .port port ∧ MarksAt lines .finish finish

/-- The first line with a keyword stands no later than any line with it. -/
theorem exists_firstFrom?_of_marksAt {lines : List Line} {keyword : Keyword} {start index : Nat}
    (behind : start ≤ index) (marked : MarksAt lines keyword index) :
    ∃ first, firstFrom? start (Line.marks keyword) lines = some first ∧ first ≤ index := by
  obtain ⟨line, found, marks⟩ := marked
  cases first? : firstFrom? start (Line.marks keyword) lines with
  | none =>
    rw [firstFrom?_eq_none_iff.mp first? index line behind found] at marks
    cases marks
  | some first =>
    have least := (firstFrom?_eq_some_iff.mp first?).2
    exact ⟨first, rfl, least ⟨behind, line, found, marks⟩⟩

namespace Landmarks

variable {lines : List Line}

/-- Looking for each keyword from the first line with the one before misses no clause. -/
theorem exists_finish?_of_hasClause (holds : HasClause lines) :
    ∃ finish, (of lines).finish? = some finish := by
  obtain ⟨entity, port, finish, entityPort, portFinish, entityMarked, portMarked, finishMarked⟩ :=
    holds
  -- No first line stands behind the line that is given for its keyword, so that the line given for
  -- the next keyword is still ahead.
  obtain ⟨firstEntity, entityFound, earlyEntity⟩ :=
    exists_firstFrom?_of_marksAt (Nat.zero_le entity) entityMarked
  obtain ⟨firstPort, portFound, earlyPort⟩ :=
    exists_firstFrom?_of_marksAt (Nat.le_trans earlyEntity entityPort) portMarked
  obtain ⟨firstFinish, finishFound, -⟩ :=
    exists_firstFrom?_of_marksAt (Nat.le_trans earlyPort portFinish) finishMarked
  have opens : (of lines).port? = some firstPort := by
    rw [port?_of_entity? entityFound, portFound]
  exact ⟨firstFinish, by rw [finish?_of_port? opens, finishFound]⟩

theorem hasClause_of_finish? {finish : Nat} (found : (of lines).finish? = some finish) :
    HasClause lines := by
  obtain ⟨port, portFound, finishFound⟩ := Option.bind_eq_some_iff.mp found
  obtain ⟨entity, entityFound, portFromEntity⟩ := Option.bind_eq_some_iff.mp portFound
  obtain ⟨⟨-, entityMarked⟩, -⟩ := firstFrom?_eq_some_iff.mp entityFound
  obtain ⟨⟨entityPort, portMarked⟩, -⟩ := firstFrom?_eq_some_iff.mp portFromEntity
  obtain ⟨⟨portFinish, finishMarked⟩, -⟩ := firstFrom?_eq_some_iff.mp finishFound
  exact ⟨entity, port, finish, entityPort, portFinish, entityMarked, portMarked, finishMarked⟩

end Landmarks

namespace Reading

variable {lines : List String} {source : String}

/-- Without a refused declaration, a whole clause gives its ports. -/
theorem exists_result_ofLines_eq_ok (source : String)
    (noRefusal : (Landmarks.of (scanned lines)).refusal? = none)
    (holds : HasClause (scanned lines)) :
    ∃ ports, (ofLines lines).result source = .ok ports := by
  obtain ⟨finish, finishFound⟩ := Landmarks.exists_finish?_of_hasClause holds
  obtain ⟨port, portFound⟩ := Landmarks.exists_port?_of_finish? finishFound
  exact ⟨_, result_ofLines_of_finish? source portFound finishFound noRefusal⟩

/-- Without a refused declaration, the only error is that the lines end before the clause does. -/
theorem error_of_result_ofLines {error : Error}
    (noRefusal : (Landmarks.of (scanned lines)).refusal? = none)
    (failed : (ofLines lines).result source = .error error) :
    error = .incomplete source (some (Landmarks.of (scanned lines)).phase) := by
  cases finishFound : (Landmarks.of (scanned lines)).finish? with
  | some finish =>
    have holds := Landmarks.hasClause_of_finish? finishFound
    obtain ⟨ports, success⟩ := exists_result_ofLines_eq_ok source noRefusal holds
    rw [success] at failed
    cases failed
  | none =>
    rw [result_ofLines_of_incomplete source finishFound noRefusal] at failed
    cases failed
    rfl

/-- Lines without a refused declaration in their clause have ports if and only if they hold a
    clause, and their only error is that they end too early. A refused declaration is an error of
    its own, and nothing else causes that error. -/
theorem result_ofLines_of_hasClause (lines : List String) (source : String) :
    let refusal? := (Landmarks.of (scanned lines)).refusal?
    let result := (ofLines lines).result source
    (refusal? = none →
      ((∃ ports, result = .ok ports) ↔ HasClause (scanned lines)) ∧
      ∀ error, result = .error error → ∃ phase, error = .incomplete source (some phase)) ∧
    ((∃ keyword, result = .error (.unknownDirection keyword)) ↔ refusal?.isSome) := by
  intro refusal? result
  refine ⟨fun noRefusal => ⟨⟨?_, ?_⟩, ?_⟩, ⟨?_, ?_⟩⟩
  · rintro ⟨ports, success⟩
    obtain ⟨-, finish, -, finishFound, -, -⟩ := exists_landmarks_of_result_eq_ok success
    exact Landmarks.hasClause_of_finish? finishFound
  · intro holds
    exact exists_result_ofLines_eq_ok source noRefusal holds
  · intro error failed
    exact ⟨_, error_of_result_ofLines noRefusal failed⟩
  · rintro ⟨keyword, failed⟩
    rw [Option.isSome_iff_ne_none]
    intro noRefusal
    cases error_of_result_ofLines noRefusal failed
  · intro refused
    obtain ⟨refusal, refused⟩ := Option.isSome_iff_exists.mp refused
    obtain ⟨line, declaration, -, -, failed⟩ := result_ofLines_of_refusal? source refused
    exact ⟨_, failed⟩

theorem result_ofLines_of_twoGroups :
    (Landmarks.of (scanned twoGroups)).refusal? = none ∧ HasClause (scanned twoGroups) ∧
      (∃ ports, (ofLines twoGroups).result "s" = .ok ports) ∧
      ∀ error, (ofLines twoGroups).result "s" = .error error →
        ∃ phase, error = .incomplete "s" (some phase) := by
  have noRefusal : (Landmarks.of (scanned twoGroups)).refusal? = none := by decide +kernel
  have holds : HasClause (scanned twoGroups) := by
    refine ⟨0, 1, 7, by decide, by decide, ⟨_, rfl, ?_⟩, ⟨_, rfl, ?_⟩, ⟨_, rfl, ?_⟩⟩
    all_goals decide +kernel
  obtain ⟨succeeds, errors⟩ := (result_ofLines_of_hasClause twoGroups "s").1 noRefusal
  exact ⟨noRefusal, holds, succeeds.mpr holds, errors⟩

/-- A source whose declaration spells its mode with a dotted capital letter, which counts as a
    spelling of the keyword but is another one in small letters. -/
def dottedMode : List String := ["entity e is", "port (", "a : \u0130n std_logic;", ");", "end e;"]

/-- A clause can be whole and still have no ports. -/
theorem result_ofLines_dottedMode :
    HasClause (scanned dottedMode) ∧
      (ofLines dottedMode).result "<string>" = .error (.unknownDirection "i\u0307n") := by
  constructor
  · refine ⟨0, 1, 4, by decide, by decide, ⟨_, rfl, ?_⟩, ⟨_, rfl, ?_⟩, ⟨_, rfl, ?_⟩⟩
    all_goals decide +kernel
  · decide +kernel

end Reading

end EntityDiagram
