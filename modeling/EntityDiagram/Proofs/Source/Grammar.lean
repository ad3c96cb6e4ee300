import EntityDiagram.Proofs.Port.Mode
import EntityDiagram.Proofs.Text.Spelling

/-!
The grammar of declarations. A line is read as a declaration exactly if it falls into an indent, a
name, a colon, a mode, white space and a spelling of the type, whatever follows the type; and the
port that it declares has the direction that its mode spells.
-/

namespace EntityDiagram

namespace Text

/-- White space ends where a word begins. -/
theorem skipSpace_append_word {blank word : List Char} (space : ∀ c ∈ blank, isSpace c = true)
    (isWord : IsWord word) (text : List Char) :
    skipSpace (blank ++ (word ++ text)) = word ++ text := by
  rw [skipSpace_append space]
  cases word with
  | nil => exact absurd rfl isWord.ne_nil
  | cons c word =>
    have first := isSpace_eq_false_of_isWordChar (isWord.isWordChar c (by simp))
    exact skipSpace_cons_of_not_isSpace first

theorem atWordEnd_append_of_isSpace {blank : List Char} (space : ∀ c ∈ blank, isSpace c = true)
    {text : List Char} (stop : atWordEnd text = true) : atWordEnd (blank ++ text) = true := by
  cases blank with
  | nil => exact stop
  | cons c blank => simp [atWordEnd, isWordChar_eq_false_of_isSpace (space c (by simp))]

end Text

namespace Declaration

open Text

/-- What a line holds if it is a declaration, from left to right. -/
structure Spelling where
  indent : List Char
  name : List Char
  beforeColon : List Char
  behindColon : List Char
  mode : List Char
  behindMode : List Char
  type : List Char
  rest : List Char
  indent_space : ∀ c ∈ indent, isSpace c = true
  name_word : IsWord name
  beforeColon_space : ∀ c ∈ beforeColon, isSpace c = true
  behindColon_space : ∀ c ∈ behindColon, isSpace c = true
  mode_spells : ∃ direction : Direction, spells direction.letters mode = true
  behindMode_ne_nil : behindMode ≠ []
  behindMode_space : ∀ c ∈ behindMode, isSpace c = true
  type_spells : spells typeName type = true

/-- The line with such pieces. -/
def Spelling.line (spelling : Spelling) : Line :=
  spelling.indent ++ (spelling.name ++ (spelling.beforeColon ++ ':' :: (spelling.behindColon ++
    (spelling.mode ++ (spelling.behindMode ++ (spelling.type ++ spelling.rest))))))

/-- What such a line declares: a vector if the name of the type goes on as that of vectors does. -/
def Spelling.declaration (spelling : Spelling) : Declaration :=
  ⟨spelling.name, spelling.mode, (afterSpelling? vectorEnding spelling.rest).isSome⟩

theorem isWord_letters (direction : Direction) : IsWord direction.letters := by
  cases direction <;> exact ⟨by decide, List.all_eq_true.mp (by decide +kernel)⟩

theorem isWord_typeName : IsWord typeName :=
  ⟨by decide, List.all_eq_true.mp (by decide +kernel)⟩

theorem isMode_iff {word : List Char} :
    isMode word = true ↔ ∃ direction : Direction, spells direction.letters word = true := by
  simp only [isMode, List.any_eq_true]
  constructor
  · rintro ⟨direction, -, spelled⟩
    exact ⟨direction, spelled⟩
  · rintro ⟨direction, spelled⟩
    exact ⟨direction, direction.mem_all, spelled⟩

theorem word?_append {word : List Char} (isWord : IsWord word) {text : List Char}
    (stop : atWordEnd text = true) : word? (word ++ text) = some (word, text) := by
  rw [word?_eq_some_iff, List.takeWhile_append_of_pos isWord.isWordChar,
    List.dropWhile_append_of_pos isWord.isWordChar]
  refine ⟨isWord.ne_nil, ?_, ?_⟩
  · cases text with
    | nil => simp
    | cons c text => simp_all [atWordEnd]
  · cases text with
    | nil => simp
    | cons c text => simp_all [atWordEnd]

/-- A word that is read is the word, and what follows stands behind it. -/
theorem eq_append_of_word? {text word rest : List Char} (found : word? text = some (word, rest)) :
    IsWord word ∧ text = word ++ rest := by
  obtain ⟨nonempty, rfl, rfl⟩ := word?_eq_some_iff.mp found
  refine ⟨⟨nonempty, ?_⟩, List.takeWhile_append_dropWhile.symm⟩
  intro c member
  exact List.all_eq_true.mp List.all_takeWhile c member

theorem afterSpace?_append {blank word : List Char} (nonempty : blank ≠ [])
    (space : ∀ c ∈ blank, isSpace c = true) (isWord : IsWord word) (text : List Char) :
    afterSpace? (blank ++ (word ++ text)) = some (word ++ text) := by
  cases blank with
  | nil => exact absurd rfl nonempty
  | cons c blank =>
    have behind : ∀ d ∈ blank, isSpace d = true := fun d member => space d (by simp [member])
    have left := skipSpace_append_word behind isWord text
    simp [afterSpace?, space c (by simp), left]

theorem eq_append_of_afterSpace? {text rest : List Char} (found : afterSpace? text = some rest) :
    ∃ blank, blank ≠ [] ∧ (∀ c ∈ blank, isSpace c = true) ∧ text = blank ++ rest := by
  cases text with
  | nil => cases found
  | cons c text =>
    simp only [afterSpace?, Option.ite_none_right_eq_some, Option.some.injEq] at found
    obtain ⟨first, rfl⟩ := found
    obtain ⟨blank, space, same⟩ := exists_space_append_skipSpace text
    refine ⟨c :: blank, by simp, ?_, by rw [List.cons_append, ← same]⟩
    intro d member
    rcases List.mem_cons.mp member with rfl | member
    · exact first
    · exact space d member

theorem Spelling.isWord_mode (spelling : Spelling) : IsWord spelling.mode := by
  obtain ⟨direction, spelled⟩ := spelling.mode_spells
  exact (isWord_letters direction).of_spells spelled

theorem Spelling.isWord_type (spelling : Spelling) : IsWord spelling.type :=
  isWord_typeName.of_spells spelling.type_spells

/-- A line with the pieces of a declaration is read as that declaration. -/
theorem read?_line (spelling : Spelling) : read? spelling.line = some spelling.declaration := by
  have modeWord := spelling.isWord_mode
  let behindType := spelling.type ++ spelling.rest
  let behindColon := spelling.behindColon ++ (spelling.mode ++ (spelling.behindMode ++ behindType))
  have name : word? (skipSpace spelling.line) =
      some (spelling.name, spelling.beforeColon ++ ':' :: behindColon) := by
    rw [Spelling.line, skipSpace_append_word spelling.indent_space spelling.name_word]
    apply word?_append spelling.name_word
    exact atWordEnd_append_of_isSpace spelling.beforeColon_space rfl
  have colon : afterColon? (skipSpace (spelling.beforeColon ++ ':' :: behindColon)) =
      some behindColon := by
    rw [skipSpace_append spelling.beforeColon_space, skipSpace_cons_of_not_isSpace (by decide)]
    rfl
  have mode : word? (skipSpace behindColon) =
      some (spelling.mode, spelling.behindMode ++ behindType) := by
    rw [skipSpace_append_word spelling.behindColon_space modeWord]
    apply word?_append modeWord
    cases gap : spelling.behindMode with
    | nil => exact absurd gap spelling.behindMode_ne_nil
    | cons c blank =>
      have space := spelling.behindMode_space c (by simp [gap])
      simp [atWordEnd, isWordChar_eq_false_of_isSpace space]
  have isMode : isMode spelling.mode = true := isMode_iff.mpr spelling.mode_spells
  have gap : afterSpace? (spelling.behindMode ++ behindType) = some behindType :=
    afterSpace?_append spelling.behindMode_ne_nil spelling.behindMode_space spelling.isWord_type _
  have type : afterSpelling? typeName behindType = some spelling.rest :=
    afterSpelling?_eq_some_iff.mpr ⟨spelling.type, spelling.type_spells, rfl⟩
  simp [read?, name, colon, mode, isMode, gap, type, Spelling.declaration]

/-- A line is read as a declaration exactly if it has the pieces of one. -/
theorem read?_eq_some_iff {line : Line} {declaration : Declaration} :
    read? line = some declaration ↔
      ∃ spelling : Spelling, spelling.line = line ∧ spelling.declaration = declaration := by
  constructor
  · intro found
    simp only [read?, Option.bind_eq_bind, Option.bind_eq_some_iff, Prod.exists] at found
    obtain ⟨name, behindName, nameRead, behindColon, colonRead, mode, behindMode, modeRead,
      found⟩ := found
    cases modeFound : isMode mode with
    | false => simp [modeFound] at found
    | true =>
      simp only [modeFound, Bool.not_true, Bool.false_eq_true, if_false, Option.bind_eq_some_iff,
        Option.pure_def, Option.some.injEq] at found
      obtain ⟨behindGap, gapRead, rest, typeRead, same⟩ := found
      obtain ⟨indent, indentSpace, lineEq⟩ := exists_space_append_skipSpace line
      obtain ⟨nameWord, nameEq⟩ := eq_append_of_word? nameRead
      obtain ⟨beforeColon, beforeSpace, beforeEq⟩ := exists_space_append_skipSpace behindName
      have colonEq := afterColon?_eq_some_iff.mp colonRead
      obtain ⟨space, spaceBlank, spaceEq⟩ := exists_space_append_skipSpace behindColon
      obtain ⟨-, modeEq⟩ := eq_append_of_word? modeRead
      obtain ⟨gap, gapNonempty, gapSpace, gapEq⟩ := eq_append_of_afterSpace? gapRead
      obtain ⟨type, typeSpells, typeEq⟩ := afterSpelling?_eq_some_iff.mp typeRead
      refine ⟨⟨indent, name, beforeColon, space, mode, gap, type, rest, indentSpace, nameWord,
        beforeSpace, spaceBlank, isMode_iff.mp modeFound, gapNonempty, gapSpace, typeSpells⟩, ?_,
        same⟩
      rw [Spelling.line, lineEq, nameEq, beforeEq, colonEq, spaceEq, modeEq, gapEq, typeEq]
  · rintro ⟨spelling, rfl, rfl⟩
    exact read?_line spelling

/-- A declaration that is read declares a port in the direction that its mode spells, unless the
    mode holds a Turkish i. -/
theorem port_of_spells {declaration : Declaration} {direction : Direction}
    (spelled : spells direction.letters declaration.mode = true)
    (plain : hasTurkishI declaration.mode = false) (group : Nat) :
    declaration.port group =
      .ok ⟨group, String.ofList declaration.name, declaration.isVector, direction⟩ := by
  simp [port, Direction.ofKeyword?_of_spells spelled plain]

theorem port_of_hasTurkishI {declaration : Declaration}
    (turkish : hasTurkishI declaration.mode = true) (group : Nat) :
    declaration.port group = .error (lower (String.ofList declaration.mode)) := by
  simp [port, Direction.ofKeyword?_of_hasTurkishI turkish]

end Declaration

end EntityDiagram
