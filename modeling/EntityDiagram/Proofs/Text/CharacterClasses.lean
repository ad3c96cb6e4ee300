import EntityDiagram.Text.Lines
import EntityDiagram.Text.Lower
import EntityDiagram.Text.CharacterClasses
import EntityDiagram.Text.Word
import Mathlib.Data.Nat.Basic

/-!
How the classes of characters lie to each other. White space, word characters and the marks of a
declaration are pairwise apart, every line break is white space, and no class can tell a capital
ASCII letter from its small form.
-/

namespace EntityDiagram.Text

/-- A fact about all code points of listed ranges can be checked one code point after the other. -/
theorem CodeRanges.forall_covers {ranges : CodeRanges} (property : Nat → Bool)
    (checked : (ranges.all fun range =>
      (List.range' range.1 (range.2 + 1 - range.1)).all property) = true)
    {code : Nat} (covered : CodeRanges.covers ranges code = true) : property code = true := by
  obtain ⟨range, member, lower, upper⟩ := CodeRanges.exists_of_covers covered
  have inRange := List.all_eq_true.mp checked range member
  apply List.all_eq_true.mp inRange code
  rw [List.mem_range'_1]
  omega

/-- White space is never part of a word. -/
theorem isWordChar_eq_false_of_isSpace {c : Char} (space : isSpace c = true) :
    isWordChar c = false := by
  have apart : (!wordRanges.covers c.toNat) = true :=
    CodeRanges.forall_covers (fun code => !wordRanges.covers code) (by decide +kernel) space
  simpa [isWordChar] using apart

theorem isSpace_eq_false_of_isWordChar {c : Char} (word : isWordChar c = true) :
    isSpace c = false := by
  cases space : isSpace c with
  | false => rfl
  | true => simp [isWordChar_eq_false_of_isSpace space] at word

/-- Every break between lines on a display is white space. -/
theorem isSpace_of_isDisplayBreak {c : Char} (isBreak : isDisplayBreak c = true) :
    isSpace c = true := by
  simp only [isDisplayBreak, List.contains_eq_mem, decide_eq_true_eq] at isBreak
  exact List.all_eq_true.mp (by decide) c isBreak

/-- What holds of each capital ASCII letter and of all characters that are their own small form
    holds of every character. -/
theorem toLower_cases {motive : Char → Prop} (same : ∀ c : Char, c.toLower = c → motive c)
    (capital : ∀ code ∈ List.range' 65 26, motive (Char.ofNat code)) (c : Char) : motive c := by
  by_cases bounds : c.val ≥ 'A'.val ∧ c.val ≤ 'Z'.val
  · have lower : 65 ≤ c.toNat := UInt32.le_iff_toNat_le.mp bounds.1
    have upper : c.toNat ≤ 90 := UInt32.le_iff_toNat_le.mp bounds.2
    have letter := capital c.toNat (by rw [List.mem_range'_1]; omega)
    rwa [Char.ofNat_toNat] at letter
  · exact same c (dif_neg bounds)

@[simp] theorem isWordChar_toLower (c : Char) : isWordChar c.toLower = isWordChar c := by
  induction c using toLower_cases with
  | same c small => rw [small]
  | capital code member => revert code; decide +kernel

@[simp] theorem isSpace_toLower (c : Char) : isSpace c.toLower = isSpace c := by
  induction c using toLower_cases with
  | same c small => rw [small]
  | capital code member => revert code; decide

/-- The forms of a letter outside ASCII are their own small forms. -/
theorem toLower_of_mem_foreignForms {letter c : Char} (member : c ∈ foreignForms letter) :
    c.toLower = c ∧ 128 ≤ c.toNat := by
  unfold foreignForms at member
  split at member
  all_goals simp only [List.mem_cons, List.not_mem_nil, or_false] at member
  · rcases member with rfl | rfl <;> decide
  · subst member; decide
  · subst member; decide

/-- A character is a form of the same letters as its small form. -/
@[simp] theorem isFormOf_toLower (letter c : Char) :
    isFormOf letter c.toLower = isFormOf letter c := by
  induction c using toLower_cases with
  | same c small => rw [small]
  | capital code member =>
    have twice : (Char.ofNat code).toLower.toLower = (Char.ofNat code).toLower := by
      revert code; decide
    have ascii : (Char.ofNat code).toNat < 128 ∧ (Char.ofNat code).toLower.toNat < 128 := by
      revert code; decide
    have foreign : ∀ c : Char, c.toNat < 128 → c ∉ foreignForms letter := by
      intro c small member
      have := (toLower_of_mem_foreignForms member).2
      omega
    simp [isFormOf, twice, foreign _ ascii.1, foreign _ ascii.2]

end EntityDiagram.Text
