import EntityDiagram.Proofs.Source.Clause
import EntityDiagram.Proofs.Text.Runs

/-!
What the search for a keyword of a line sees. It looks for a spelling of the keyword between two
word boundaries, the ends of the line included; the spellings between boundaries are the maximal
runs of word characters that spell the keyword. So a spelling that is only a piece of a longer
identifier neither counts nor hides a whole word that follows.
-/

namespace EntityDiagram

namespace Text

/-- Whether a word begins or ends between two texts: the characters on both sides are not of the
    same kind, and beyond the ends of a line no word goes on. -/
def isBoundary (before behind : List Char) : Bool :=
  before.getLast?.any isWordChar != behind.head?.any isWordChar

theorem isBoundary_append_left {before word : List Char} (isWord : IsWord word)
    (behind : List Char) :
    isBoundary before (word ++ behind) = true ↔ before.getLast?.any isWordChar = false := by
  cases word with
  | nil => exact absurd rfl isWord.ne_nil
  | cons c word => simp [isBoundary, isWord.isWordChar c (by simp)]

theorem isBoundary_append_right {word behind : List Char} (isWord : IsWord word)
    (before : List Char) :
    isBoundary (before ++ word) behind = true ↔ behind.head?.any isWordChar = false := by
  rcases List.eq_nil_or_concat' word with rfl | ⟨word, c, rfl⟩
  · exact absurd rfl isWord.ne_nil
  · rw [isBoundary, ← List.append_assoc, List.getLast?_concat]
    simp [isWord.isWordChar c (by simp)]

/-- A text spells a word letter for letter. -/
abbrev SpellsLetters (word text : List Char) : Prop :=
  List.Forall₂ (fun letter c => isFormOf letter c = true) word text

/-- A word is found exactly if one of the runs of the text spells it. -/
theorem hasWord_iff_exists_run {word : List Char} (keyword : IsWord word) {text : List Char} :
    hasWord word text = true ↔ ∃ run ∈ runs isWordChar text, SpellsLetters word run := by
  rw [hasWord_eq_any_runs keyword, List.any_eq_true]
  simp only [spells_iff_forall₂]

/-- A spelling of a word between two boundaries is a run of the text, and conversely. -/
theorem hasWord_iff_boundaries {word : List Char} (keyword : IsWord word) {text : List Char} :
    hasWord word text = true ↔ ∃ before spelling behind, text = before ++ (spelling ++ behind) ∧
      SpellsLetters word spelling ∧
      isBoundary before (spelling ++ behind) = true ∧
      isBoundary (before ++ spelling) behind = true := by
  rw [hasWord_iff_exists_run keyword]
  constructor
  · rintro ⟨run, member, spelled⟩
    obtain ⟨-, -, before, behind, rfl, begins, ends⟩ := mem_runs_iff.mp member
    have isWord := keyword.of_spells (spells_iff_forall₂.mpr spelled)
    exact ⟨before, run, behind, rfl, spelled, (isBoundary_append_left isWord behind).mpr begins,
      (isBoundary_append_right isWord before).mpr ends⟩
  · rintro ⟨before, spelling, behind, rfl, spelled, begins, ends⟩
    have isWord := keyword.of_spells (spells_iff_forall₂.mpr spelled)
    refine ⟨spelling, mem_runs_iff.mpr ⟨isWord.ne_nil, isWord.isWordChar, before, behind, rfl,
      ?_, ?_⟩, spelled⟩
    · exact (isBoundary_append_left isWord behind).mp begins
    · exact (isBoundary_append_right isWord before).mp ends

/-- A run that is longer than a word does not count in the search for the word. -/
theorem hasWord_append_run {word : List Char} (keyword : IsWord word)
    {before run behind : List Char} (all : ∀ c ∈ run, isWordChar c = true)
    (longer : word.length < run.length) (begins : before.getLast?.any isWordChar = false)
    (ends : behind.head?.any isWordChar = false) :
    hasWord word (before ++ (run ++ behind)) = (hasWord word before || hasWord word behind) := by
  have nonempty : run ≠ [] := List.ne_nil_of_length_pos (by omega)
  have tooLong : spells word run = false := by
    rw [← Bool.not_eq_true, spells_iff_forall₂]
    intro spelled
    have length := spelled.length_eq
    omega
  simp only [hasWord_eq_any_runs keyword]
  rw [runs_append_append nonempty all begins ends, List.any_append, List.any_cons, tooLong,
    Bool.false_or]

/-- A search for a word sees the whole words of a text and nothing else. -/
structure IsWholeWordSearch (word : List Char) (search : List Char → Bool) : Prop where
  /-- It finds the spellings of the word between two boundaries. -/
  boundaries : ∀ text, search text = true ↔ ∃ before spelling behind,
    text = before ++ (spelling ++ behind) ∧ SpellsLetters word spelling ∧
      isBoundary before (spelling ++ behind) = true ∧ isBoundary (before ++ spelling) behind = true
  /-- These are the maximal runs of word characters that spell the word. -/
  runs : ∀ text, search text = true ↔ ∃ run ∈ runs isWordChar text, SpellsLetters word run
  /-- A character that no word contains cuts a text into two that are searched apart. -/
  cut : ∀ before c behind, isWordChar c = false →
    search (before ++ c :: behind) = (search before || search behind)
  /-- A spelling inside a longer identifier does not count, wherever the identifier stands. -/
  longer : ∀ before left spelling right behind, SpellsLetters word spelling →
    (∀ c ∈ left ++ right, isWordChar c = true) → left ++ right ≠ [] →
    before.getLast?.any isWordChar = false → behind.head?.any isWordChar = false →
    search (before ++ ((left ++ (spelling ++ right)) ++ behind)) =
      (search before || search behind)

end Text

/-- The search for each keyword of a line sees whole words only, in every script. -/
theorem Line.isWholeWordSearch_has (keyword : Keyword) :
    Text.IsWholeWordSearch keyword.letters (has keyword) where
  boundaries _ := Text.hasWord_iff_boundaries keyword.isWord_letters
  runs _ := Text.hasWord_iff_exists_run keyword.isWord_letters
  cut before _ behind noWord :=
    Text.hasWord_append_cons keyword.isWord_letters noWord before behind
  longer before left spelling right behind spelled sides extended begins ends := by
    have isWord := keyword.isWord_letters.of_spells (Text.spells_iff_forall₂.mpr spelled)
    apply Text.hasWord_append_run keyword.isWord_letters _ _ begins ends
    · intro c member
      rw [List.mem_append, List.mem_append] at member
      rcases member with member | member | member
      · exact sides c (List.mem_append_left _ member)
      · exact isWord.isWordChar c member
      · exact sides c (List.mem_append_right _ member)
    · have same := spelled.length_eq
      have more := List.length_pos_of_ne_nil extended
      simp only [List.length_append] at more ⊢
      omega

end EntityDiagram
