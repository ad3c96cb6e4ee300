import EntityDiagram.Proofs.Source.Grammar
import EntityDiagram.Proofs.Text.Runs

/-!
The pattern of declarations as a search with backtracking, which tries every way to find the pieces
of a declaration in a line. No line has the pieces in two ways: each piece ends where the next one
begins, with a character that it cannot hold. So what the search comes to first is the only thing it
finds, and the reader, which never goes back, reads the same.
-/

namespace EntityDiagram

namespace Text

/-- The ways to cut a leading piece of characters of a class off a text, the longest piece first. -/
def cuts (inClass : Char → Bool) : List Char → List (List Char × List Char)
  | [] => [([], [])]
  | c :: text =>
    if inClass c then (cuts inClass text).map (fun cut => (c :: cut.1, cut.2)) ++ [([], c :: text)]
    else [([], c :: text)]

theorem mem_cuts_iff {inClass : Char → Bool} {text piece rest : List Char} :
    (piece, rest) ∈ cuts inClass text ↔ (∀ c ∈ piece, inClass c = true) ∧ text = piece ++ rest := by
  induction text generalizing piece with
  | nil =>
    simp only [cuts, List.mem_singleton, Prod.mk.injEq, List.nil_eq, List.append_eq_nil_iff]
    constructor
    · rintro ⟨rfl, rfl⟩
      simp
    · exact And.right
  | cons c text ih =>
    cases piece with
    | nil =>
      simp only [cuts]
      split
      · simpa using eq_comm
      · simpa using eq_comm
    | cons d piece =>
      have head : (d :: piece, rest) ∈ cuts inClass (c :: text) ↔
          inClass c = true ∧ d = c ∧ (piece, rest) ∈ cuts inClass text := by
        simp only [cuts]
        split
        · rename_i member
          simp [member, @eq_comm _ c, and_comm]
        · rename_i stop
          simp [stop]
      rw [head, ih]
      constructor
      · rintro ⟨member, rfl, all, rfl⟩
        exact ⟨List.forall_mem_cons.mpr ⟨member, all⟩, rfl⟩
      · rintro ⟨all, same⟩
        obtain ⟨rfl, rfl⟩ := List.cons.inj same
        obtain ⟨member, all⟩ := List.forall_mem_cons.mp all
        exact ⟨member, rfl, all, rfl⟩

/-- Such pieces, unless the piece is empty. -/
def nonemptyCuts (inClass : Char → Bool) (text : List Char) : List (List Char × List Char) :=
  (cuts inClass text).filter (!·.1.isEmpty)

theorem mem_nonemptyCuts_iff {inClass : Char → Bool} {text piece rest : List Char} :
    (piece, rest) ∈ nonemptyCuts inClass text ↔
      piece ≠ [] ∧ (∀ c ∈ piece, inClass c = true) ∧ text = piece ++ rest := by
  rw [nonemptyCuts, List.mem_filter, mem_cuts_iff]
  simp [and_comm]

/-- A leading spelling of a word, and what follows it. -/
def cutSpelling? (word text : List Char) : Option (List Char × List Char) :=
  (afterSpelling? word text).map fun rest => (text.take word.length, rest)

theorem cutSpelling?_eq_some_iff {word text spelling rest : List Char} :
    cutSpelling? word text = some (spelling, rest) ↔
      spells word spelling = true ∧ text = spelling ++ rest := by
  simp only [cutSpelling?, Option.map_eq_some_iff, Prod.mk.injEq, afterSpelling?_eq_some_iff]
  constructor
  · rintro ⟨behind, ⟨front, spelled, rfl⟩, rfl, rfl⟩
    have length := (spells_iff_forall₂.mp spelled).length_eq
    rw [length, List.take_left]
    exact ⟨spelled, rfl⟩
  · rintro ⟨spelled, rfl⟩
    have length := (spells_iff_forall₂.mp spelled).length_eq
    exact ⟨rest, ⟨spelling, spelled, rfl⟩, by rw [length, List.take_left], rfl⟩

end Text

namespace Declaration

open Text

/-! ### The search with backtracking -/

/-- The names, the modes and what follows the type, for every way to find the pieces of a
    declaration in a line, in the order in which a search with backtracking comes to them: every
    repetition takes as much as it can first, and the modes come as the directions are listed. -/
def candidates (line : Line) : List (List Char × List Char × List Char) :=
  (cuts isSpace line).flatMap fun indent =>
  (nonemptyCuts isWordChar indent.2).flatMap fun name =>
  (cuts isSpace name.2).flatMap fun beforeColon =>
  (afterColon? beforeColon.2).toList.flatMap fun text =>
  (cuts isSpace text).flatMap fun behindColon =>
  Direction.all.flatMap fun direction =>
  (cutSpelling? direction.letters behindColon.2).toList.flatMap fun mode =>
  (nonemptyCuts isSpace mode.2).flatMap fun behindMode =>
  (cutSpelling? typeName behindMode.2).toList.map fun type => (name.1, mode.1, type.2)

/-- What such a search makes of a line, one way after the other: it takes the name of the type for
    that of vectors first. -/
def attempts (line : Line) : List Declaration :=
  (candidates line).flatMap fun (name, mode, rest) =>
    (cutSpelling? vectorEnding rest).toList.map (fun _ => ⟨name, mode, true⟩) ++
      [⟨name, mode, false⟩]

/-- The search finds the pieces of declarations and nothing else. -/
theorem mem_candidates_iff {line : Line} {name mode rest : List Char} :
    (name, mode, rest) ∈ candidates line ↔ ∃ spelling : Spelling, spelling.line = line ∧
      spelling.name = name ∧ spelling.mode = mode ∧ spelling.rest = rest := by
  simp only [candidates, List.mem_flatMap, List.mem_map, Option.mem_toList, Prod.exists,
    Prod.mk.injEq, mem_cuts_iff, mem_nonemptyCuts_iff, cutSpelling?_eq_some_iff,
    afterColon?_eq_some_iff]
  constructor
  · rintro ⟨indent, _, ⟨indentSpace, rfl⟩, _, _, ⟨nameNonempty, nameWord, rfl⟩, beforeColon, _,
      ⟨beforeSpace, rfl⟩, _, rfl, behindColon, _, ⟨behindSpace, rfl⟩, direction, -, _, _,
      ⟨modeSpells, rfl⟩, behindMode, _, ⟨gapNonempty, gapSpace, rfl⟩, type, _,
      ⟨typeSpells, rfl⟩, rfl, rfl, rfl⟩
    exact ⟨⟨indent, _, beforeColon, behindColon, _, behindMode, type, _, indentSpace,
      ⟨nameNonempty, nameWord⟩, beforeSpace, behindSpace, ⟨direction, modeSpells⟩, gapNonempty,
      gapSpace, typeSpells⟩, rfl, rfl, rfl, rfl⟩
  · rintro ⟨spelling, rfl, rfl, rfl, rfl⟩
    obtain ⟨direction, spelled⟩ := spelling.mode_spells
    exact ⟨_, _, ⟨spelling.indent_space, rfl⟩, _, _,
      ⟨spelling.name_word.ne_nil, spelling.name_word.isWordChar, rfl⟩, _, _,
      ⟨spelling.beforeColon_space, rfl⟩, _, rfl, _, _, ⟨spelling.behindColon_space, rfl⟩,
      direction, direction.mem_all, _, _, ⟨spelled, rfl⟩, _, _,
      ⟨spelling.behindMode_ne_nil, spelling.behindMode_space, rfl⟩, _, _,
      ⟨spelling.type_spells, rfl⟩, rfl, rfl, rfl⟩

/-- The first thing that the search makes of a line is what is read. -/
theorem head?_attempts (line : Line) : (attempts line).head? = read? line := by
  rw [attempts]
  cases all : candidates line with
  | nil =>
    symm
    rw [List.flatMap_nil, List.head?_nil, Option.eq_none_iff_forall_ne_some]
    intro declaration found
    obtain ⟨spelling, written, -⟩ := read?_eq_some_iff.mp found
    have member := mem_candidates_iff.mpr ⟨spelling, written, rfl, rfl, rfl⟩
    rw [all] at member
    cases member
  | cons first later =>
    obtain ⟨name, mode, rest⟩ := first
    have member : (name, mode, rest) ∈ candidates line := by rw [all]; exact List.mem_cons_self
    obtain ⟨spelling, rfl, rfl, rfl, rfl⟩ := mem_candidates_iff.mp member
    rw [read?_line, Spelling.declaration]
    cases vector : afterSpelling? vectorEnding spelling.rest with
    | none => simp [cutSpelling?, vector]
    | some behind => simp [cutSpelling?, vector]

/-! ### The only way to find the pieces -/

theorem head?_any_isSpace_append {word : List Char} (isWord : IsWord word) (rest : List Char) :
    (word ++ rest).head?.any isSpace = false :=
  head?_any_append_of_ne_nil isWord.ne_nil
    (fun c member => isSpace_eq_false_of_isWordChar (isWord.isWordChar c member)) rest

theorem isWordChar_eq_false_of_mem {blank : List Char} (space : ∀ c ∈ blank, isSpace c = true) :
    ∀ c ∈ blank, isWordChar c = false :=
  fun c member => isWordChar_eq_false_of_isSpace (space c member)

theorem isWordChar_colon : isWordChar ':' = false := by decide +kernel

theorem isSpace_colon : isSpace ':' = false := by decide

theorem Spelling.nameEnds (spelling : Spelling) (rest : List Char) :
    (spelling.beforeColon ++ ':' :: rest).head?.any isWordChar = false :=
  head?_any_append (isWordChar_eq_false_of_mem spelling.beforeColon_space)
    (by simp [isWordChar_colon])

theorem Spelling.modeEnds (spelling : Spelling) (rest : List Char) :
    (spelling.behindMode ++ rest).head?.any isWordChar = false :=
  head?_any_append_of_ne_nil spelling.behindMode_ne_nil
    (isWordChar_eq_false_of_mem spelling.behindMode_space) rest

/-- A line has the pieces of a declaration in one way only. -/
theorem Spelling.eq_of_line {first second : Spelling} (same : first.line = second.line) :
    first = second := by
  -- Each piece is cut off from the left: its characters are of a class that what follows begins
  -- without.
  obtain ⟨indent, same⟩ := append_inj_of_class first.indent_space second.indent_space
    (head?_any_isSpace_append first.name_word _) (head?_any_isSpace_append second.name_word _) same
  obtain ⟨name, same⟩ := append_inj_of_class first.name_word.isWordChar second.name_word.isWordChar
    (first.nameEnds _) (second.nameEnds _) same
  obtain ⟨beforeColon, same⟩ := append_inj_of_class first.beforeColon_space
    second.beforeColon_space (by simp [isSpace_colon]) (by simp [isSpace_colon]) same
  obtain ⟨behindColon, same⟩ := append_inj_of_class first.behindColon_space
    second.behindColon_space (head?_any_isSpace_append first.isWord_mode _)
    (head?_any_isSpace_append second.isWord_mode _) (List.cons.inj same).2
  obtain ⟨mode, same⟩ := append_inj_of_class first.isWord_mode.isWordChar
    second.isWord_mode.isWordChar (first.modeEnds _) (second.modeEnds _) same
  obtain ⟨behindMode, same⟩ := append_inj_of_class first.behindMode_space second.behindMode_space
    (head?_any_isSpace_append first.isWord_type _) (head?_any_isSpace_append second.isWord_type _)
    same
  have length : first.type.length = second.type.length := by
    have firstLength := (spells_iff_forall₂.mp first.type_spells).length_eq
    have secondLength := (spells_iff_forall₂.mp second.type_spells).length_eq
    exact firstLength.symm.trans secondLength
  obtain ⟨type, rest⟩ := List.append_inj same length
  cases first
  cases second
  simp only [Spelling.mk.injEq]
  exact ⟨indent, name, beforeColon, behindColon, mode, behindMode, type, rest⟩

/-! ### What is read -/

/-- What stands behind the first colon of a line. -/
def behindFirstColon (line : Line) : List Char := (line.dropWhile (· != ':')).tail

theorem Spelling.behindFirstColon_line (spelling : Spelling) :
    behindFirstColon spelling.line = spelling.behindColon ++
      (spelling.mode ++ (spelling.behindMode ++ (spelling.type ++ spelling.rest))) := by
  have blank : ∀ gap : List Char, (∀ c ∈ gap, isSpace c = true) →
      ∀ c ∈ gap, (c != ':') = true := by
    intro gap space c member
    rw [bne_iff_ne]
    rintro rfl
    exact absurd (space ':' member) (by simp [isSpace_colon])
  have name : ∀ c ∈ spelling.name, (c != ':') = true := by
    intro c member
    rw [bne_iff_ne]
    rintro rfl
    exact absurd (spelling.name_word.isWordChar ':' member) (by simp [isWordChar_colon])
  rw [behindFirstColon, Spelling.line, List.dropWhile_append_of_pos (blank _ spelling.indent_space),
    List.dropWhile_append_of_pos name,
    List.dropWhile_append_of_pos (blank _ spelling.beforeColon_space)]
  rfl

/-- No two directions have keywords of one length, so a mode spells one of them only. -/
theorem direction_eq_of_spells {first second : Direction} {mode : List Char}
    (firstSpells : spells first.letters mode = true)
    (secondSpells : spells second.letters mode = true) : first = second := by
  have length : first.letters.length = second.letters.length := by
    rw [(spells_iff_forall₂.mp firstSpells).length_eq,
      (spells_iff_forall₂.mp secondSpells).length_eq]
  revert length
  cases first <;> cases second <;> decide

/-- A declaration tells what a line with the pieces of one says: the name is the first word of the
    line, the mode is the first word behind the colon, and that the port is a vector depends on
    how the rest begins, whatever follows. -/
structure Spelling.IsReadAs (spelling : Spelling) (declaration : Declaration) : Prop where
  name : declaration.name = spelling.name
  name_run : (runs isWordChar spelling.line).head? = some spelling.name
  mode : declaration.mode = spelling.mode
  mode_run : (runs isWordChar (behindFirstColon spelling.line)).head? = some spelling.mode
  direction : ∃! direction : Direction, spells direction.letters spelling.mode = true
  vector : declaration.isVector = true ↔ ∃ ending behind,
    spells vectorEnding ending = true ∧ spelling.rest = ending ++ behind

theorem Spelling.isReadAs_declaration (spelling : Spelling) :
    spelling.IsReadAs spelling.declaration where
  name := rfl
  name_run := head?_runs_append (isWordChar_eq_false_of_mem spelling.indent_space)
    spelling.name_word.ne_nil spelling.name_word.isWordChar (spelling.nameEnds _)
  mode := rfl
  mode_run := by
    rw [spelling.behindFirstColon_line]
    exact head?_runs_append (isWordChar_eq_false_of_mem spelling.behindColon_space)
      spelling.isWord_mode.ne_nil spelling.isWord_mode.isWordChar (spelling.modeEnds _)
  direction := by
    obtain ⟨direction, spelled⟩ := spelling.mode_spells
    exact ⟨direction, spelled, fun other otherSpelled =>
      direction_eq_of_spells otherSpelled spelled⟩
  vector := by
    rw [Spelling.declaration, Option.isSome_iff_exists]
    simp only [afterSpelling?_eq_some_iff]
    exact exists_comm

/-- The pattern of declarations accepts a line exactly if the line has the pieces of a declaration.
    It has them in one way only, and what the search with backtracking finds first tells them. -/
theorem read?_matches_in_one_way (line : Line) :
    read? line = (attempts line).head? ∧
      ((read? line).isSome = true ↔ ∃ spelling : Spelling, spelling.line = line) ∧
      (∀ first second : Spelling, first.line = line → second.line = line → first = second) ∧
      ∀ spelling : Spelling, spelling.line = line →
        ∃ declaration, read? line = some declaration ∧ spelling.IsReadAs declaration := by
  refine ⟨(head?_attempts line).symm, ?_, ?_, ?_⟩
  · rw [Option.isSome_iff_exists]
    constructor
    · rintro ⟨declaration, found⟩
      obtain ⟨spelling, written, -⟩ := read?_eq_some_iff.mp found
      exact ⟨spelling, written⟩
    · rintro ⟨spelling, rfl⟩
      exact ⟨_, read?_line spelling⟩
  · intro first second firstLine secondLine
    exact Spelling.eq_of_line (firstLine.trans secondLine.symm)
  · rintro spelling rfl
    exact ⟨_, read?_line spelling, spelling.isReadAs_declaration⟩

theorem read?_matches_inOutBus :
    let line := "\tdata : InOut \u3000 \u017fTD_LOGIC_vectors".toList
    let declaration : Declaration := ⟨"data".toList, "InOut".toList, true⟩
    (attempts line).head? = some declaration ∧
      ∃ spelling : Spelling, spelling.line = line ∧ spelling.IsReadAs declaration ∧
        ∀ other : Spelling, other.line = line → other = spelling := by
  intro line declaration
  obtain ⟨first, accepts, unique, reads⟩ := read?_matches_in_one_way line
  have found : read? line = some declaration := by decide +kernel
  obtain ⟨spelling, written⟩ := accepts.mp (by rw [found]; rfl)
  obtain ⟨same, sameFound, isRead⟩ := reads spelling written
  obtain rfl : declaration = same := Option.some.inj (found.symm.trans sameFound)
  exact ⟨by rw [← first, found], spelling, written, isRead,
    fun other otherWritten => unique other spelling otherWritten written⟩

end Declaration

end EntityDiagram
