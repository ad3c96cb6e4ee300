import EntityDiagram.Proofs.Text.Spelling
import EntityDiagram.Source.Line

/-!
Which mode keywords name a direction. A declaration may spell its mode with any form of the letters,
but the mode names a direction only if lower-casing it gives the keyword, and that fails exactly for
the two Turkish forms of the letter i.
-/

namespace EntityDiagram

namespace Text

/-- Whether a text holds the dotted capital or the dotless small i. -/
def hasTurkishI (text : List Char) : Bool := text.contains '\u0130' || text.contains '\u0131'

theorem hasTurkishI_iff {text : List Char} :
    hasTurkishI text = true ↔ '\u0130' ∈ text ∨ '\u0131' ∈ text := by
  simp [hasTurkishI]

/-- Lower-casing takes an ASCII character to its small form, whatever stands beside it. -/
theorem lowerChar_of_ascii {c : Char} (ascii : c.toNat < 128) : lowerChar c = [c.toLower] := by
  have checked : ∀ code ∈ List.range 128,
      lowerChar (Char.ofNat code) = [(Char.ofNat code).toLower] := by decide +kernel
  have found := checked c.toNat (List.mem_range.mpr ascii)
  rwa [Char.ofNat_toNat] at found

theorem lowerFrom_of_ascii {text : List Char} (ascii : ∀ c ∈ text, c.toNat < 128)
    (behindCased : Bool) : lowerFrom behindCased text = text.map Char.toLower := by
  induction text generalizing behindCased with
  | nil => rfl
  | cons c text ih =>
    have first := ascii c (by simp)
    have noSigma : c ≠ '\u03a3' := by
      rintro rfl
      exact absurd first (by decide)
    rw [lowerFrom, ih (fun d member => ascii d (by simp [member]))]
    simp [noSigma, lowerChar_of_ascii first]

/-- What lower-casing makes of a character other than the capital sigma is found in the lower-case
    form of every text that holds it. -/
theorem mem_lowerFrom {text : List Char} {c d : Char} (member : c ∈ text) (noSigma : c ≠ '\u03a3')
    (lowered : d ∈ lowerChar c) (behindCased : Bool) : d ∈ lowerFrom behindCased text := by
  induction text generalizing behindCased with
  | nil => cases member
  | cons other text ih =>
    rw [lowerFrom]
    apply List.mem_append.mpr
    rcases List.mem_cons.mp member with rfl | member
    · left
      simpa [noSigma] using lowered
    · right
      exact ih member _

theorem toNat_lt_of_toLower {c : Char} (small : c.toLower.toNat < 128) : c.toNat < 128 := by
  induction c using toLower_cases with
  | same c unchanged => rwa [unchanged] at small
  | capital code member => clear small; revert code; decide

end Text

namespace Direction

/-- Besides the ASCII forms only the letter i of a mode has forms. -/
theorem mem_foreignForms {direction : Direction} {letter c : Char}
    (member : letter ∈ direction.letters) (foreign : c ∈ Text.foreignForms letter) :
    c = '\u0130' ∨ c = '\u0131' := by
  have checked : (direction.letters.all fun letter =>
      (Text.foreignForms letter).all fun c => c == '\u0130' || c == '\u0131') = true := by
    cases direction <;> decide
  have found := List.all_eq_true.mp (List.all_eq_true.mp checked letter member) c foreign
  simpa using found

theorem toNat_lt_of_mem_letters {direction : Direction} {letter : Char}
    (member : letter ∈ direction.letters) : letter.toNat < 128 := by
  have checked : (direction.letters.all fun letter => decide (letter.toNat < 128)) = true := by
    cases direction <;> decide
  exact of_decide_eq_true (List.all_eq_true.mp checked letter member)

/-- Without a Turkish i, a spelling of a mode differs from the keyword in the case of ASCII letters
    only. -/
theorem map_toLower_of_spells {direction : Direction} {mode : List Char}
    (spelled : Text.spells direction.letters mode = true)
    (plain : Text.hasTurkishI mode = false) : mode.map Char.toLower = direction.letters := by
  apply Text.map_toLower_of_spells spelled
  intro letter letterMember c member foreign
  have turkish : Text.hasTurkishI mode = true := by
    apply Text.hasTurkishI_iff.mpr
    rcases mem_foreignForms letterMember foreign with rfl | rfl
    · exact .inl member
    · exact .inr member
  rw [plain] at turkish
  cases turkish

/-- A mode in any case of ASCII letters names its direction. -/
theorem ofKeyword?_of_spells {direction : Direction} {mode : List Char}
    (spelled : Text.spells direction.letters mode = true)
    (plain : Text.hasTurkishI mode = false) :
    ofKeyword? (String.ofList mode) = some direction := by
  have small := map_toLower_of_spells spelled plain
  have ascii : ∀ c ∈ mode, c.toNat < 128 := by
    intro c member
    apply Text.toNat_lt_of_toLower
    apply toNat_lt_of_mem_letters
    rw [← small]
    exact List.mem_map_of_mem member
  have lowered : Text.lower (String.ofList mode) = direction.keyword := by
    rw [Text.lower, String.toList_ofList, Text.lowerFrom_of_ascii ascii, small, keyword]
  rw [ofKeyword?, lowered]
  cases direction <;> decide

/-- A mode with a Turkish i names none. -/
theorem ofKeyword?_of_hasTurkishI {mode : List Char} (turkish : Text.hasTurkishI mode = true) :
    ofKeyword? (String.ofList mode) = none := by
  have found : '\u0307' ∈ Text.lowerFrom false mode ∨ '\u0131' ∈ Text.lowerFrom false mode := by
    rcases Text.hasTurkishI_iff.mp turkish with member | member
    · left
      exact Text.mem_lowerFrom member (by decide) (by decide) false
    · right
      exact Text.mem_lowerFrom member (by decide) (by decide +kernel) false
  rw [ofKeyword?, List.find?_eq_none]
  intro direction _ same
  simp only [keyword, Text.lower, String.toList_ofList, beq_iff_eq, String.ofList_inj] at same
  rw [← same] at found
  revert found
  cases direction <;> decide

end Direction

end EntityDiagram
