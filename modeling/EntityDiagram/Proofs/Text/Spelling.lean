import EntityDiagram.Proofs.Text.CharacterClasses
import Mathlib.Data.List.Forall2

/-!
Spellings of a word: letter for letter a form of the word's letter. A spelling of a word of letters
consists of word characters, it can be cut off the front of a text, and its small form is the word
unless it uses a form outside ASCII.
-/

namespace EntityDiagram.Text

@[simp] theorem spells_nil_iff {text : List Char} : spells [] text = true ↔ text = [] := by
  simp [spells]

@[simp] theorem spells_cons_nil (letter : Char) (word : List Char) :
    spells (letter :: word) [] = false := rfl

@[simp] theorem spells_cons_cons (letter c : Char) (word text : List Char) :
    spells (letter :: word) (c :: text) = (isFormOf letter c && spells word text) := by
  cases form : isFormOf letter c <;> simp [spells, afterSpelling?_cons_cons, form]

/-- A spelling has a form of each letter in its place, and nothing else. -/
theorem spells_iff_forall₂ {word text : List Char} :
    spells word text = true ↔
      List.Forall₂ (fun letter c => isFormOf letter c = true) word text := by
  induction word generalizing text with
  | nil => simp
  | cons letter word ih =>
    cases text with
    | nil => simp
    | cons c text => simp [ih]

/-- A text begins with a spelling exactly if it is one with something behind it. -/
theorem afterSpelling?_eq_some_iff {word text rest : List Char} :
    afterSpelling? word text = some rest ↔
      ∃ spelling, spells word spelling = true ∧ text = spelling ++ rest := by
  induction word generalizing text with
  | nil => simp
  | cons letter word ih =>
    cases text with
    | nil =>
      simp only [afterSpelling?_cons_nil, reduceCtorEq, false_iff, not_exists, not_and]
      intro spelling spelled same
      have empty : spelling = [] := (List.append_eq_nil_iff.mp same.symm).1
      simp [empty] at spelled
    | cons c text =>
      rw [afterSpelling?_cons_cons]
      constructor
      · intro found
        split at found
        · rename_i form
          obtain ⟨spelling, spelled, rfl⟩ := ih.mp found
          exact ⟨c :: spelling, by simp [form, spelled], rfl⟩
        · cases found
      · rintro ⟨spelling, spelled, same⟩
        cases spelling with
        | nil => simp at spelled
        | cons d spelling =>
          simp only [spells_cons_cons, Bool.and_eq_true] at spelled
          obtain ⟨rfl, rfl⟩ := List.cons.inj same
          rw [if_pos spelled.1]
          exact ih.mpr ⟨spelling, spelled.2, rfl⟩

/-- The forms of word characters are word characters. -/
theorem isWordChar_of_isFormOf {letter c : Char} (form : isFormOf letter c = true)
    (word : isWordChar letter = true) : isWordChar c = true := by
  simp only [isFormOf, Bool.or_eq_true, beq_iff_eq, List.contains_eq_mem,
    decide_eq_true_eq] at form
  rcases form with rfl | foreign
  · rwa [isWordChar_toLower] at word
  · unfold foreignForms at foreign
    split at foreign
    all_goals simp only [List.mem_cons, List.not_mem_nil, or_false] at foreign
    · rcases foreign with rfl | rfl <;> decide +kernel
    · subst foreign; decide +kernel
    · subst foreign; decide +kernel

theorem isFormOf_eq_false {letter c : Char} (word : isWordChar letter = true)
    (noWord : isWordChar c = false) : isFormOf letter c = false := by
  cases form : isFormOf letter c with
  | false => rfl
  | true => simp [isWordChar_of_isFormOf form word] at noWord

/-- A word of letters, as keywords are: it has some, and all of them are word characters. -/
structure IsWord (word : List Char) : Prop where
  ne_nil : word ≠ []
  isWordChar : ∀ letter ∈ word, isWordChar letter = true

/-- A spelling of a keyword is a word itself. -/
theorem IsWord.of_spells {word text : List Char} (keyword : IsWord word)
    (spelled : spells word text = true) : IsWord text := by
  constructor
  · rintro rfl
    cases word with
    | nil => exact keyword.ne_nil rfl
    | cons letter word => simp at spelled
  · have letters := keyword.isWordChar
    clear keyword
    induction word generalizing text with
    | nil => simp [spells_nil_iff.mp spelled]
    | cons letter word ih =>
      cases text with
      | nil => simp
      | cons c text =>
        simp only [spells_cons_cons, Bool.and_eq_true] at spelled
        intro d member
        rcases List.mem_cons.mp member with rfl | member
        · exact isWordChar_of_isFormOf spelled.1 (letters letter (by simp))
        · exact ih spelled.2 (fun letter member => letters letter (by simp [member])) d member

/-- A text whose small form is a word spells the word. -/
theorem spells_of_map_toLower {word text : List Char} (same : text.map Char.toLower = word) :
    spells word text = true := by
  subst same
  induction text with
  | nil => rfl
  | cons c text ih =>
    have form : isFormOf c.toLower c = true := by simp [isFormOf]
    simp [form, ih]

/-- A spelling without forms outside ASCII differs from the word in the case of letters only. -/
theorem map_toLower_of_spells {word text : List Char} (spelled : spells word text = true)
    (plain : ∀ letter ∈ word, ∀ c ∈ text, c ∉ foreignForms letter) :
    text.map Char.toLower = word := by
  induction word generalizing text with
  | nil => simpa using spelled
  | cons letter word ih =>
    cases text with
    | nil => simp at spelled
    | cons c text =>
      simp only [spells_cons_cons, Bool.and_eq_true] at spelled
      have first : c.toLower = letter := by
        simpa [isFormOf, plain letter (by simp) c (by simp)] using spelled.1
      have rest : text.map Char.toLower = word := by
        apply ih spelled.2
        intro letter letterMember c member
        exact plain letter (by simp [letterMember]) c (by simp [member])
      rw [List.map_cons, first, rest]

end EntityDiagram.Text
