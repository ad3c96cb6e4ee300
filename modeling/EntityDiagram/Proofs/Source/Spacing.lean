import EntityDiagram.Proofs.Source.Clause
import EntityDiagram.Source.Reading
import Mathlib.Data.List.Forall2
import Mathlib.Data.List.Induction

/-!
The layout of white space in a line. What a line is to a scanner can be told from its tokens:
whether it is a comment, whether it is blank, which keywords it holds and what it declares. So lines
with the same tokens are read alike in every state, and a source can be indented, aligned and
terminated in any way without another outcome.
-/

namespace EntityDiagram

open Text

namespace Line

theorem isComment_iff {line : Line} :
    line.isComment = true ↔
      ∃ blank behind, (∀ c ∈ blank, isSpace c = true) ∧ line = blank ++ (['-', '-'] ++ behind) := by
  constructor
  · intro comment
    obtain ⟨blank, space, whole⟩ := exists_space_append_skipSpace line
    obtain ⟨behind, left⟩ := isComment_iff_skipSpace.mp comment
    exact ⟨blank, behind, space, by rw [whole, left]; rfl⟩
  · rintro ⟨blank, behind, space, rfl⟩
    have hyphen : isSpace '-' = false := by decide
    rw [isComment_iff_skipSpace, skipSpace_append space]
    exact ⟨behind, skipSpace_cons_of_not_isSpace hyphen⟩

variable {first second : Line}

theorem isComment_of_sameTokens (same : SameTokens first second)
    (comment : first.isComment = true) : second.isComment = true := by
  obtain ⟨blank, behind, space, rfl⟩ := isComment_iff.mp comment
  have ink : ∀ c ∈ ['-', '-'], isInk c = true := List.all_eq_true.mp (by decide)
  obtain ⟨otherBlank, otherBehind, rfl, otherSpace, -⟩ :=
    SameTokens.exists_cut space (List.cons_ne_nil _ _) ink same
  exact isComment_iff.mpr ⟨otherBlank, otherBehind, otherSpace, rfl⟩

theorem isComment_congr (same : SameTokens first second) :
    first.isComment = second.isComment :=
  Bool.eq_iff_iff.mpr ⟨isComment_of_sameTokens same, isComment_of_sameTokens same.symm⟩

theorem isBlank_congr (same : SameTokens first second) : first.isBlank = second.isBlank := by
  rw [Bool.eq_iff_iff, isBlank, isBlank, ← tokens_eq_nil_iff, ← tokens_eq_nil_iff, same]

theorem has_congr (same : SameTokens first second) (keyword : Keyword) :
    first.has keyword = second.has keyword := by
  rw [has, has, hasWord_eq_any_tokens keyword.isWord_letters,
    hasWord_eq_any_tokens keyword.isWord_letters, same]

end Line

namespace Declaration

theorem isInk_of_isWord {word : List Char} (isWord : IsWord word) : ∀ c ∈ word, isInk c = true :=
  fun c member => isInk_of_isWordChar (isWord.isWordChar c member)

/-- Whether a spelling of a word stands at the front of a text is settled within the token there. -/
theorem isSome_afterSpelling?_takeWhile {word : List Char}
    (letters : ∀ letter ∈ word, isWordChar letter = true) (text : List Char) :
    (afterSpelling? word text).isSome = (afterSpelling? word (text.takeWhile isInk)).isSome := by
  induction word generalizing text with
  | nil => simp
  | cons letter word ih =>
    have later := ih fun other member => letters other (by simp [member])
    cases text with
    | nil => rfl
    | cons c text =>
      cases form : isFormOf letter c with
      | false => cases ink : isInk c <;> simp [afterSpelling?_cons_cons, form, ink]
      | true =>
        have ink := isInk_of_isWordChar (isWordChar_of_isFormOf form (letters letter (by simp)))
        simp only [List.takeWhile_cons, ink, if_true, afterSpelling?_cons_cons, form]
        exact later text

/-- A declaration can be laid out anew as every line with the same tokens. -/
theorem Spelling.exists_of_sameTokens (spelling : Spelling) {other : Line}
    (same : SameTokens spelling.line other) :
    ∃ again : Spelling, again.line = other ∧ again.declaration = spelling.declaration := by
  have modeWord := spelling.isWord_mode
  have typeWord := spelling.isWord_type
  have colonInk : ∀ c ∈ [':'], isInk c = true := List.all_eq_true.mp (by decide)
  -- The pieces are cut out of the other line from left to right, each with the white space before.
  obtain ⟨indent, behindName, rfl, indentSpace, alignedName⟩ :=
    SameTokens.exists_cut spelling.indent_space spelling.name_word.ne_nil
      (isInk_of_isWord spelling.name_word) same
  obtain ⟨beforeColon, behindColon, rfl, beforeSpace, -, alignedColon⟩ :=
    alignedName.exists_cut spelling.beforeColon_space (List.cons_ne_nil ':' []) colonInk
  obtain ⟨space, behindMode, rfl, spaceSpace, -, alignedMode⟩ :=
    alignedColon.exists_cut spelling.behindColon_space modeWord.ne_nil (isInk_of_isWord modeWord)
  obtain ⟨gap, rest, rfl, gapSpace, gapNonempty, alignedRest⟩ :=
    alignedMode.exists_cut spelling.behindMode_space typeWord.ne_nil (isInk_of_isWord typeWord)
  refine ⟨{ spelling with
    indent := indent
    beforeColon := beforeColon
    behindColon := space
    behindMode := gap
    rest := rest
    indent_space := indentSpace
    beforeColon_space := beforeSpace
    behindColon_space := spaceSpace
    behindMode_ne_nil := gapNonempty spelling.behindMode_ne_nil
    behindMode_space := gapSpace }, rfl, ?_⟩
  have letters : ∀ letter ∈ vectorEnding, isWordChar letter = true :=
    List.all_eq_true.mp (by decide +kernel)
  rw [Spelling.declaration, Spelling.declaration, isSome_afterSpelling?_takeWhile letters,
    ← alignedRest.here, ← isSome_afterSpelling?_takeWhile letters]

theorem read?_of_sameTokens {first second : Line} (same : SameTokens first second)
    {declaration : Declaration} (found : read? first = some declaration) :
    read? second = some declaration := by
  obtain ⟨spelling, rfl, rfl⟩ := read?_eq_some_iff.mp found
  exact read?_eq_some_iff.mpr (spelling.exists_of_sameTokens same)

/-- Lines with the same tokens declare the same. -/
theorem read?_congr {first second : Line} (same : SameTokens first second) :
    read? first = read? second := by
  ext declaration
  exact ⟨read?_of_sameTokens same, read?_of_sameTokens same.symm⟩

end Declaration

namespace Scanner

/-- Lines with the same tokens lead a scanner to the same step. -/
theorem read_congr {first second : Line} (same : SameTokens first second) (scanner : Scanner) :
    scanner.read first = scanner.read second := by
  simp only [read, readCode, passAt, readPortLine, Line.isComment_congr same,
    Line.isBlank_congr same, Line.has_congr same, Declaration.read?_congr same]

end Scanner

/-! ### Line breaks at the end of a line -/

theorem Text.isSpace_of_isFileBreak {c : Char} (isBreak : isFileBreak c = true) :
    isSpace c = true := by
  simp only [isFileBreak, Bool.or_eq_true, beq_iff_eq] at isBreak
  rcases isBreak with rfl | rfl <;> decide

/-- Line breaks at the end of a line belong to no token. -/
theorem Text.sameTokens_trimFileBreaks (line : List Char) :
    SameTokens (trimFileBreaks line) line := by
  induction line using List.reverseRecOn with
  | nil => rfl
  | append_singleton line c ih =>
    cases isBreak : isFileBreak c with
    | false => rw [trimFileBreaks_append_of_not_isFileBreak isBreak]; rfl
    | true =>
      have space : ∀ d ∈ [c], isSpace d = true := by
        simpa using isSpace_of_isFileBreak isBreak
      rw [trimFileBreaks_append_of_isFileBreak isBreak, SameTokens, ih,
        tokens_append_right space]

namespace Reading

/-- Taking lines does not depend on the layout of their white space. -/
theorem scanLines_congr {lines others : List Line} (same : List.Forall₂ SameTokens lines others)
    (reading : Reading) : reading.scanLines lines = reading.scanLines others := by
  induction same generalizing reading with
  | nil => rfl
  | cons first later ih =>
    rw [scanLines, scanLines, scan, Scanner.read_congr first, ← scan, ih]

theorem takeLines_congr {lines others : List Line} (same : List.Forall₂ SameTokens lines others)
    (reading : Reading) : reading.takeLines lines = reading.takeLines others := by
  apply scanLines_congr
  rw [List.forall₂_map_left_iff, List.forall₂_map_right_iff]
  apply same.imp
  intro line other sameLine
  exact ((sameTokens_trimFileBreaks line).trans sameLine).trans
    (sameTokens_trimFileBreaks other).symm

/-- The layout of white space never matters: not to one line in any state of a scanner, and so
    neither to the outcome nor to the log of a reading. It makes no difference how a line is
    indented, how wide its gaps are, what stands behind its last token, and whether its terminator
    has been left on. -/
theorem reading_eq_of_sameTokens :
    (∀ (scanner : Scanner) (first second : Line), SameTokens first second →
      scanner.read first = scanner.read second) ∧
    (∀ lines others : List String,
      List.Forall₂ (fun line other => SameTokens line.toList other.toList) lines others →
      ∀ source, (ofLines lines).result source = (ofLines others).result source ∧
        (ofLines lines).consumed = (ofLines others).consumed ∧
        (ofLines lines).messages source = (ofLines others).messages source) ∧
    (∀ (scanner : Scanner) (before blank other behind : List Char),
      (∀ c ∈ blank ++ other, isSpace c = true) →
      before = [] ∨ behind = [] ∨ (blank ≠ [] ∧ other ≠ []) →
      scanner.read (before ++ (blank ++ behind)) = scanner.read (before ++ (other ++ behind))) ∧
    ∀ (scanner : Scanner) (line : Line),
      scanner.read (trimFileBreaks line) = scanner.read line := by
  refine ⟨?_, ?_, ?_, ?_⟩
  · intro scanner first second same
    exact Scanner.read_congr same scanner
  · intro lines others same source
    have sameLines : List.Forall₂ SameTokens (lines.map String.toList) (others.map String.toList) :=
      by simpa using same
    rw [ofLines, ofLines, takeLines_congr sameLines]
    exact ⟨rfl, rfl, rfl⟩
  · intro scanner before blank other behind space places
    have blankSpace : ∀ c ∈ blank, isSpace c = true := fun c member => space c (by simp [member])
    have otherSpace : ∀ c ∈ other, isSpace c = true := fun c member => space c (by simp [member])
    apply Scanner.read_congr
    rcases places with rfl | rfl | ⟨blankNonempty, otherNonempty⟩
    · exact (tokens_append_left blankSpace behind).trans (tokens_append_left otherSpace behind).symm
    · rw [List.append_nil, List.append_nil]
      exact (tokens_append_right blankSpace before).trans
        (tokens_append_right otherSpace before).symm
    · exact (tokens_append_append blankNonempty blankSpace before behind).trans
        (tokens_append_append otherNonempty otherSpace before behind).symm
  · intro scanner line
    exact Scanner.read_congr (sameTokens_trimFileBreaks line) scanner

/-- A source with little white space. -/
def narrow : List String :=
  ["entity e is", "port (clk : in std_logic;", "clk : in std_logic;", "", "-- end",
    "bus: buffer STD_LOGIC_VECTOR(7 downto 0)", "end"]

/-- The same source with more white space of several kinds, terminators among it. -/
def wide : List String :=
  ["\tentity\u3000e  is\r\n", "port\t(clk :\u00a0in std_logic;",
    "  clk \u000c: in\t\tstd_logic; ", " \t\r", "\u2028 --  end",
    "bus:\n\nbuffer STD_LOGIC_VECTOR(7\u1680downto 0)\n", "\u0085end\n\r\n"]

theorem reading_eq_of_narrow_wide :
    List.Forall₂ (fun line other => SameTokens line.toList other.toList) narrow wide ∧
      (ofLines wide).result "s" =
        .ok ⟨[⟨0, "clk", false, .input⟩], [⟨1, "bus", true, .buffer⟩]⟩ ∧
      (ofLines narrow).result "s" = (ofLines wide).result "s" ∧
      (ofLines narrow).consumed = (ofLines wide).consumed ∧
      (ofLines narrow).messages "s" = (ofLines wide).messages "s" := by
  have same : List.Forall₂ (fun line other => SameTokens line.toList other.toList) narrow wide := by
    decide +kernel
  exact ⟨same, by decide +kernel, reading_eq_of_sameTokens.2.1 narrow wide same "s"⟩

end Reading

end EntityDiagram
