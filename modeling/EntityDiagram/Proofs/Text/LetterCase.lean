import EntityDiagram.Proofs.Text.WholeWords
import EntityDiagram.Text.Lines
import EntityDiagram.Text.Lower

/-!
Texts in small ASCII letters. Nothing that a line is asked tells a capital ASCII letter from its
small form: not its white space, not its breaks, and not its lower-case form in the sense of the
whole of Unicode, which looks at the letters around a sigma but not at their case.
-/

namespace EntityDiagram.Text

/-- The library puts the ASCII letters of a text in small letters one by one. -/
theorem toList_toLower (text : String) : text.toLower.toList = text.toList.map Char.toLower :=
  String.toList_map

theorem toLower_ofList (text : List Char) :
    (String.ofList text).toLower = String.ofList (text.map Char.toLower) := by
  rw [← String.toList_inj, toList_toLower, String.toList_ofList, String.toList_ofList]

theorem length_toLower (text : String) : text.toLower.length = text.length :=
  String.length_map

/-- Only letters are the small form of another character. -/
theorem toLower_eq_iff {c d : Char} (noLetter : d.isAlpha = false) : c.toLower = d ↔ c = d := by
  induction c using toLower_cases with
  | same c small => rw [small]
  | capital code member =>
    have letters : (Char.ofNat code).toLower.isAlpha = true ∧ (Char.ofNat code).isAlpha = true := by
      revert code; decide
    constructor
    · rintro rfl
      rw [letters.1] at noLetter
      cases noLetter
    · rintro rfl
      rw [letters.2] at noLetter
      cases noLetter

theorem skipSpace_map_toLower (text : List Char) :
    skipSpace (text.map Char.toLower) = (skipSpace text).map Char.toLower := by
  have same : isSpace ∘ Char.toLower = isSpace := funext isSpace_toLower
  rw [skipSpace, List.dropWhile_map, same, skipSpace]

theorem isBlank_map_toLower (text : List Char) :
    isBlank (text.map Char.toLower) = isBlank text := by
  have same : isSpace ∘ Char.toLower = isSpace := funext isSpace_toLower
  rw [isBlank, List.all_map, same, isBlank]

theorem isFileBreak_toLower (c : Char) : isFileBreak c.toLower = isFileBreak c := by
  rw [Bool.eq_iff_iff]
  simp only [isFileBreak, Bool.or_eq_true, beq_iff_eq]
  rw [toLower_eq_iff (d := '\n') (by decide), toLower_eq_iff (d := '\r') (by decide)]

theorem trimFileBreaks_map_toLower (line : List Char) :
    trimFileBreaks (line.map Char.toLower) = (trimFileBreaks line).map Char.toLower := by
  have same : isFileBreak ∘ Char.toLower = isFileBreak := funext isFileBreak_toLower
  rw [trimFileBreaks, ← List.map_reverse, List.dropWhile_map, same, ← List.map_reverse,
    trimFileBreaks]

/-! ### Lower-casing -/

@[simp] theorem isCased_toLower (c : Char) : isCased c.toLower = isCased c := by
  induction c using toLower_cases with
  | same c small => rw [small]
  | capital code member => revert code; decide +kernel

@[simp] theorem isCaseIgnorable_toLower (c : Char) :
    isCaseIgnorable c.toLower = isCaseIgnorable c := by
  induction c using toLower_cases with
  | same c small => rw [small]
  | capital code member => revert code; decide +kernel

@[simp] theorem lowerChar_toLower (c : Char) : lowerChar c.toLower = lowerChar c := by
  induction c using toLower_cases with
  | same c small => rw [small]
  | capital code member => revert code; decide +kernel

theorem continuesWord_map_toLower (text : List Char) :
    continuesWord (text.map Char.toLower) = continuesWord text := by
  have same : isCaseIgnorable ∘ Char.toLower = isCaseIgnorable := funext isCaseIgnorable_toLower
  rw [continuesWord, List.dropWhile_map, same, continuesWord]
  cases text.dropWhile isCaseIgnorable with
  | nil => rfl
  | cons c rest => exact isCased_toLower c

theorem lowerFrom_map_toLower (behindCased : Bool) (text : List Char) :
    lowerFrom behindCased (text.map Char.toLower) = lowerFrom behindCased text := by
  induction text generalizing behindCased with
  | nil => rfl
  | cons c text ih =>
    have sigma : c.toLower = '\u03a3' ↔ c = '\u03a3' := toLower_eq_iff (by decide)
    simp only [List.map_cons, lowerFrom, sigma, lowerChar_toLower, isCased_toLower,
      isCaseIgnorable_toLower, continuesWord_map_toLower, ih]

/-- Lower-casing does not see the case of ASCII letters. -/
theorem lower_ofList_map_toLower (text : List Char) :
    lower (String.ofList (text.map Char.toLower)) = lower (String.ofList text) := by
  rw [lower, lower, String.toList_ofList, String.toList_ofList, lowerFrom_map_toLower]

end EntityDiagram.Text
