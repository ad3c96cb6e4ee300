import EntityDiagram.Text.Word
import Mathlib.Data.List.Basic

/-!
Runs of a class of characters as pieces of a text. A run of a text is a non-empty piece of
characters of the class that no further one stands next to, and it lies between the runs of what
stands before it and of what stands behind it. A text falls in one way only into characters of the
class and a rest that begins with no such character.
-/

namespace EntityDiagram.Text

variable {inClass : Char → Bool}

/-- What holds of all runs of a class, and of two texts together with a character outside the class
    between them, holds of every text. -/
theorem runs_induction (inClass : Char → Bool) {motive : List Char → Prop}
    (run : ∀ text, (∀ c ∈ text, inClass c = true) → motive text)
    (cut : ∀ before c behind, inClass c = false → motive before → motive behind →
      motive (before ++ c :: behind)) (text : List Char) : motive text := by
  -- The induction carries the run that has been passed so far.
  suffices passed : ∀ text before, (∀ c ∈ before, inClass c = true) → motive (before ++ text) from
    passed text [] (by simp)
  intro text
  induction text with
  | nil => simpa using run
  | cons c text ih =>
    intro before all
    cases member : inClass c with
    | true =>
      have longer := ih (before ++ [c]) (by
        intro d h
        rcases List.mem_append.mp h with h | h
        · exact all d h
        · rw [List.mem_singleton.mp h, member])
      simpa using longer
    | false => exact cut before c text member (run before all) (ih [] (by simp))

/-! ### The ends of a piece -/

theorem getLast?_any_eq_false {text : List Char} (apart : ∀ c ∈ text, inClass c = false) :
    text.getLast?.any inClass = false := by
  cases last : text.getLast? with
  | none => rfl
  | some c => exact apart c (List.mem_of_getLast? last)

theorem getLast?_any_append_cons {c : Char} {text : List Char} (stop : inClass c = false)
    (last : text.getLast?.any inClass = false) (before : List Char) :
    (before ++ c :: text).getLast?.any inClass = false := by
  rw [List.getLast?_append, List.getLast?_cons, Option.some_or]
  cases found : text.getLast? with
  | none => simpa using stop
  | some d => simpa [found] using last

theorem head?_any_append {piece rest : List Char} (apart : ∀ c ∈ piece, inClass c = false)
    (stop : rest.head?.any inClass = false) : (piece ++ rest).head?.any inClass = false := by
  cases piece with
  | nil => exact stop
  | cons c piece => simpa using apart c (by simp)

theorem head?_any_append_of_ne_nil {piece : List Char} (nonempty : piece ≠ [])
    (apart : ∀ c ∈ piece, inClass c = false) (rest : List Char) :
    (piece ++ rest).head?.any inClass = false := by
  cases piece with
  | nil => exact absurd rfl nonempty
  | cons c piece => simpa using apart c (by simp)

theorem head?_any_dropWhile (inClass : Char → Bool) (text : List Char) :
    (text.dropWhile inClass).head?.any inClass = false := by
  have stopped := List.head?_dropWhile_not inClass text
  cases first : (text.dropWhile inClass).head? with
  | none => rfl
  | some c => simpa [first] using stopped

theorem takeWhile_eq_nil_of_head? {text : List Char} (stop : text.head?.any inClass = false) :
    text.takeWhile inClass = [] := by
  cases text with
  | nil => rfl
  | cons c text =>
    have first : inClass c = false := by simpa using stop
    simp [first]

/-- A text falls in one way only into characters of a class and a rest that begins with none. -/
theorem append_inj_of_class {first second rest other : List Char}
    (firstAll : ∀ c ∈ first, inClass c = true) (secondAll : ∀ c ∈ second, inClass c = true)
    (stop : rest.head?.any inClass = false) (otherStop : other.head?.any inClass = false)
    (same : first ++ rest = second ++ other) : first = second ∧ rest = other := by
  have pieces := congrArg (List.takeWhile inClass) same
  rw [List.takeWhile_append_of_pos firstAll, List.takeWhile_append_of_pos secondAll,
    takeWhile_eq_nil_of_head? stop, takeWhile_eq_nil_of_head? otherStop, List.append_nil,
    List.append_nil] at pieces
  subst pieces
  exact ⟨rfl, List.append_cancel_left same⟩

/-! ### Runs as pieces -/

theorem runs_cons {c : Char} (stop : inClass c = false) (text : List Char) :
    runs inClass (c :: text) = runs inClass text := by
  have cut := runs_append_cons stop [] text
  rwa [runs_nil, List.nil_append, List.nil_append] at cut

theorem runs_concat {c : Char} (stop : inClass c = false) (text : List Char) :
    runs inClass (text ++ [c]) = runs inClass text := by
  rw [runs_append_cons stop, runs_nil, List.append_nil]

theorem runs_eq_nil {text : List Char} (apart : ∀ c ∈ text, inClass c = false) :
    runs inClass text = [] := by
  induction text with
  | nil => exact runs_nil inClass
  | cons c text ih =>
    rw [runs_cons (apart c (by simp)), ih fun d member => apart d (by simp [member])]

/-- A text that begins with a run is that run and what the further runs stand in. -/
theorem runs_append {run behind : List Char} (nonempty : run ≠ [])
    (all : ∀ c ∈ run, inClass c = true) (ends : behind.head?.any inClass = false) :
    runs inClass (run ++ behind) = run :: runs inClass behind := by
  have single := runs_eq_singleton nonempty all
  cases behind with
  | nil => rw [List.append_nil, single, runs_nil]
  | cons c behind =>
    have stop : inClass c = false := by simpa using ends
    rw [runs_append_cons stop, runs_cons stop, single, List.singleton_append]

/-- A maximal run stands between the runs before it and those behind it. -/
theorem runs_append_append {before run behind : List Char} (nonempty : run ≠ [])
    (all : ∀ c ∈ run, inClass c = true) (begins : before.getLast?.any inClass = false)
    (ends : behind.head?.any inClass = false) :
    runs inClass (before ++ (run ++ behind)) =
      runs inClass before ++ run :: runs inClass behind := by
  have first := runs_append nonempty all ends
  rcases List.eq_nil_or_concat' before with rfl | ⟨earlier, c, rfl⟩
  · rw [List.nil_append, first, runs_nil, List.nil_append]
  · have stop : inClass c = false := by simpa using begins
    rw [runs_concat stop, List.append_assoc, List.singleton_append, runs_append_cons stop, first]

/-- The runs of a text are its longest pieces of characters of the class. -/
theorem mem_runs_iff {run text : List Char} :
    run ∈ runs inClass text ↔ run ≠ [] ∧ (∀ c ∈ run, inClass c = true) ∧
      ∃ before behind, text = before ++ (run ++ behind) ∧
        before.getLast?.any inClass = false ∧ behind.head?.any inClass = false := by
  constructor
  · intro member
    induction text using runs_induction inClass with
    | run text all =>
      by_cases empty : text = []
      · rw [empty, runs_nil] at member
        cases member
      · rw [runs_eq_singleton empty all, List.mem_singleton] at member
        subst member
        exact ⟨empty, all, [], [], by simp, rfl, rfl⟩
    | cut first c second stop firstRuns secondRuns =>
      rw [runs_append_cons stop, List.mem_append] at member
      rcases member with member | member
      · obtain ⟨nonempty, all, before, behind, rfl, begins, ends⟩ := firstRuns member
        refine ⟨nonempty, all, before, behind ++ c :: second, by simp, begins, ?_⟩
        cases behind with
        | nil => simpa using stop
        | cons d behind => simpa using ends
      · obtain ⟨nonempty, all, before, behind, rfl, begins, ends⟩ := secondRuns member
        exact ⟨nonempty, all, first ++ c :: before, behind, by simp,
          getLast?_any_append_cons stop begins first, ends⟩
  · rintro ⟨nonempty, all, before, behind, rfl, begins, ends⟩
    rw [runs_append_append nonempty all begins ends]
    exact List.mem_append_right _ List.mem_cons_self

/-- Behind characters outside the class, the first run is the one that begins there. -/
theorem head?_runs_append {gap run behind : List Char} (apart : ∀ c ∈ gap, inClass c = false)
    (nonempty : run ≠ []) (all : ∀ c ∈ run, inClass c = true)
    (ends : behind.head?.any inClass = false) :
    (runs inClass (gap ++ (run ++ behind))).head? = some run := by
  rw [runs_append_append nonempty all (getLast?_any_eq_false apart) ends, runs_eq_nil apart]
  rfl

end EntityDiagram.Text
