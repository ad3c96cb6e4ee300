import EntityDiagram.Proofs.Text.Runs
import EntityDiagram.Proofs.Text.Spelling

/-!
Keywords as whole words of a line. The search for a keyword sees the maximal runs of word
characters and nothing else: it succeeds on a line exactly if one of the runs spells the keyword, so
any other character cuts the line into two that are searched apart. The case of ASCII letters does
not matter to it.
-/

namespace EntityDiagram.Text

/-- A text that begins with a word begins with it whatever stands behind a character that no word
    contains. -/
theorem beginsWithWord_append_cons {word : List Char}
    (letters : ∀ letter ∈ word, isWordChar letter = true) {c : Char} (noWord : isWordChar c = false)
    (before behind : List Char) :
    beginsWithWord word (before ++ c :: behind) = beginsWithWord word before := by
  unfold beginsWithWord
  induction word generalizing before with
  | nil => cases before <;> simp [atWordEnd, noWord]
  | cons letter word ih =>
    have first := letters letter (by simp)
    cases before with
    | nil => simp [afterSpelling?_cons_cons, isFormOf_eq_false first noWord]
    | cons d before =>
      simp only [List.cons_append, afterSpelling?_cons_cons]
      cases form : isFormOf letter d with
      | false => rfl
      | true => exact ih (fun letter member => letters letter (by simp [member])) before

theorem hasWordFrom_append_cons {word : List Char} (keyword : IsWord word) {c : Char}
    (noWord : isWordChar c = false) (insideWord : Bool) (before behind : List Char) :
    hasWordFrom word insideWord (before ++ c :: behind) =
      (hasWordFrom word insideWord before || hasWordFrom word false behind) := by
  induction before generalizing insideWord with
  | nil =>
    have none : beginsWithWord word (c :: behind) = false := by
      rw [← List.nil_append (c :: behind),
        beginsWithWord_append_cons keyword.isWordChar noWord]
      cases word with
      | nil => exact absurd rfl keyword.ne_nil
      | cons letter word => rfl
    simp [hasWordFrom, none, noWord]
  | cons d before ih =>
    have same := beginsWithWord_append_cons keyword.isWordChar noWord (d :: before) behind
    rw [List.cons_append] at same
    simp only [List.cons_append, hasWordFrom, same, ih, Bool.or_assoc]

/-- A character that no word contains cuts a line into two that are searched apart. -/
theorem hasWord_append_cons {word : List Char} (keyword : IsWord word) {c : Char}
    (noWord : isWordChar c = false) (before behind : List Char) :
    hasWord word (before ++ c :: behind) = (hasWord word before || hasWord word behind) :=
  hasWordFrom_append_cons keyword noWord false before behind

/-- Nothing is found from the inside of a run to its end. -/
theorem hasWordFrom_run (word : List Char) {text : List Char}
    (run : ∀ c ∈ text, isWordChar c = true) : hasWordFrom word true text = false := by
  induction text with
  | nil => rfl
  | cons c text ih =>
    have first := run c (by simp)
    simp [hasWordFrom, first, ih (fun d member => run d (by simp [member]))]

/-- In a run nothing but the whole of it is found. -/
theorem beginsWithWord_run (word : List Char) {text : List Char}
    (run : ∀ c ∈ text, isWordChar c = true) : beginsWithWord word text = spells word text := by
  unfold beginsWithWord spells
  induction word generalizing text with
  | nil =>
    cases text with
    | nil => rfl
    | cons c text => simp [atWordEnd, run c (by simp)]
  | cons letter word ih =>
    cases text with
    | nil => rfl
    | cons c text =>
      simp only [afterSpelling?_cons_cons]
      cases form : isFormOf letter c with
      | false => rfl
      | true => exact ih (fun d member => run d (by simp [member]))

theorem hasWord_run {word text : List Char} (keyword : IsWord word)
    (run : ∀ c ∈ text, isWordChar c = true) : hasWord word text = spells word text := by
  cases text with
  | nil =>
    cases word with
    | nil => exact absurd rfl keyword.ne_nil
    | cons letter word => rfl
  | cons c text =>
    have inside : hasWordFrom word (isWordChar c) text = false := by
      rw [run c (by simp)]
      exact hasWordFrom_run word (fun d member => run d (by simp [member]))
    simp [hasWord, hasWordFrom, inside, beginsWithWord_run word run]

/-- A keyword is found exactly if one of the words of the line spells it. -/
theorem hasWord_eq_any_runs {word : List Char} (keyword : IsWord word) (text : List Char) :
    hasWord word text = (runs isWordChar text).any (spells word) := by
  induction text using runs_induction isWordChar with
  | run text all =>
    rw [hasWord_run keyword all]
    by_cases empty : text = []
    · subst empty
      cases word with
      | nil => exact absurd rfl keyword.ne_nil
      | cons letter word => simp [spells]
    · simp [runs_eq_singleton empty all]
  | cut before c behind noWord first second =>
    rw [hasWord_append_cons keyword noWord, runs_append_cons noWord, List.any_append, first, second]

/-! ### The case of ASCII letters -/

theorem afterSpelling?_map_toLower (word text : List Char) :
    afterSpelling? word (text.map Char.toLower) =
      (afterSpelling? word text).map (List.map Char.toLower) := by
  induction word generalizing text with
  | nil => simp
  | cons letter word ih =>
    cases text with
    | nil => rfl
    | cons c text =>
      simp only [List.map_cons, afterSpelling?_cons_cons, isFormOf_toLower]
      split
      · exact ih text
      · rfl

theorem beginsWithWord_map_toLower (word text : List Char) :
    beginsWithWord word (text.map Char.toLower) = beginsWithWord word text := by
  unfold beginsWithWord
  rw [afterSpelling?_map_toLower]
  cases afterSpelling? word text with
  | none => rfl
  | some rest => cases rest <;> simp [atWordEnd]

/-- The search for a keyword does not see the case of ASCII letters. -/
theorem hasWord_map_toLower (word text : List Char) :
    hasWord word (text.map Char.toLower) = hasWord word text := by
  suffices from_ : ∀ insideWord, hasWordFrom word insideWord (text.map Char.toLower) =
      hasWordFrom word insideWord text from from_ false
  induction text with
  | nil => intro _; rfl
  | cons c text ih =>
    intro insideWord
    have begins := beginsWithWord_map_toLower word (c :: text)
    rw [List.map_cons] at begins
    simp only [List.map_cons, hasWordFrom, begins, isWordChar_toLower, ih]

end EntityDiagram.Text
