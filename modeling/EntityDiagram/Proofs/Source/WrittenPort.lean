import EntityDiagram.Proofs.Port.Label
import EntityDiagram.Proofs.Source.Clause
import EntityDiagram.Text.Lines

/-!
Ports as an entity is written with them, one to a line. Whatever the indent, the name and the case
of the mode and the type, a reader of the port clause takes such a line for the declaration of its
port, and a line of white space for a blank one.
-/

namespace EntityDiagram

namespace Text

theorem hasWord_append_of_isSpace {word : List Char} (isWord : IsWord word) {blank : List Char}
    (space : ∀ c ∈ blank, isSpace c = true) (text : List Char) :
    hasWord word (blank ++ text) = hasWord word text := by
  induction blank with
  | nil => rfl
  | cons c blank ih =>
    have noWord := isWordChar_eq_false_of_isSpace (space c (by simp))
    have cut := hasWord_append_cons isWord noWord [] (blank ++ text)
    rw [List.nil_append] at cut
    rw [List.cons_append, cut, ih fun d member => space d (by simp [member])]
    rfl

/-- A character that is its own small form stands in a text only if it stands in its small form. -/
theorem not_mem_of_map_toLower {text small : List Char} (same : text.map Char.toLower = small)
    {c : Char} (unchanged : c.toLower = c) (absent : c ∉ small) : c ∉ text := by
  intro member
  apply absent
  rw [← same, ← unchanged]
  exact List.mem_map_of_mem member

end Text

/-- The type of a port in small letters: a single signal, or a vector of eight. -/
def typeText (isVector : Bool) : List Char :=
  Declaration.typeName ++
    if isVector then Declaration.vectorEnding ++ "(7 downto 0)".toList else []

/-- A port as a line declares it: the mode and the type in any case. Its name must not be the word
    that ends the clause. -/
structure WrittenPort where
  indent : List Char
  name : List Char
  mode : List Char
  direction : Direction
  type : List Char
  isVector : Bool
  indent_space : ∀ c ∈ indent, Text.isSpace c = true ∧ c ≠ '\n'
  name_word : Text.IsWord name
  name_noEnd : Text.spells Keyword.finish.letters name = false
  mode_small : mode.map Char.toLower = direction.letters
  type_small : type.map Char.toLower = typeText isVector

namespace WrittenPort

/-- The line that declares the port. -/
def line (written : WrittenPort) : Line :=
  written.indent ++ (written.name ++ ' ' :: ':' :: ' ' :: (written.mode ++ ' ' ::
    (written.type ++ [';'])))

/-- The port in a group. -/
def port (written : WrittenPort) (group : Int) : Port :=
  ⟨group, String.ofList written.name, written.isVector, written.direction⟩

/-- The name, with brackets behind that of a vector. -/
def label (written : WrittenPort) : String :=
  if written.isVector then String.ofList written.name ++ "[]" else String.ofList written.name

variable (written : WrittenPort)

theorem mode_spells : Text.spells written.direction.letters written.mode = true :=
  Text.spells_of_map_toLower written.mode_small

theorem hasTurkishI_mode : Text.hasTurkishI written.mode = false := by
  have absent : ∀ {c : Char}, c.toLower = c → c ∉ written.direction.letters →
      c ∉ written.mode := by
    intro c unchanged
    exact Text.not_mem_of_map_toLower written.mode_small unchanged
  rw [← Bool.not_eq_true, Text.hasTurkishI_iff, not_or]
  constructor
  · apply absent (by decide)
    cases written.direction <;> decide
  · apply absent (by decide)
    cases written.direction <;> decide

/-- The pieces that the declaration of a written port has. -/
theorem exists_spelling :
    ∃ spelling : Declaration.Spelling, spelling.line = written.line ∧
      spelling.declaration = ⟨written.name, written.mode, written.isVector⟩ := by
  obtain ⟨type, ending, typeEq, typeSmall, endingSmall⟩ :=
    List.map_eq_append_iff.mp written.type_small
  have vector : (Text.afterSpelling? Declaration.vectorEnding (ending ++ [';'])).isSome =
      written.isVector := by
    have small := Text.afterSpelling?_map_toLower Declaration.vectorEnding (ending ++ [';'])
    rw [List.map_append, endingSmall] at small
    rw [← Option.isSome_map, ← small]
    cases written.isVector <;> decide
  refine ⟨⟨written.indent, written.name, [' '], [' '], written.mode, [' '], type, ending ++ [';'],
    fun c member => (written.indent_space c member).1, written.name_word, ?_, ?_,
    ⟨_, written.mode_spells⟩, by simp, ?_, Text.spells_of_map_toLower typeSmall⟩, ?_, ?_⟩
  · simpa using (by decide : Text.isSpace ' ' = true)
  · simpa using (by decide : Text.isSpace ' ' = true)
  · simpa using (by decide : Text.isSpace ' ' = true)
  · simp [Declaration.Spelling.line, line, typeEq]
  · rw [Declaration.Spelling.declaration, vector]

theorem read?_line :
    Declaration.read? written.line = some ⟨written.name, written.mode, written.isVector⟩ :=
  Declaration.read?_eq_some_iff.mpr written.exists_spelling

/-- Neither the name nor what stands behind it holds the word that ends the clause. -/
theorem has_finish_line : written.line.has .finish = false := by
  have isWord := Keyword.finish.isWord_letters
  -- The name is searched as a run of its own; what follows the space is known except for its case.
  have cut := Text.hasWord_append_cons isWord (c := ' ') (by decide +kernel) written.name
    (':' :: ' ' :: (written.mode ++ ' ' :: (written.type ++ [';'])))
  rw [Line.has, line,
    Text.hasWord_append_of_isSpace isWord fun c member => (written.indent_space c member).1, cut,
    Text.hasWord_run isWord written.name_word.isWordChar, written.name_noEnd, Bool.false_or,
    ← Text.hasWord_map_toLower]
  simp only [List.map_cons, List.map_append, written.mode_small, written.type_small]
  cases written.direction <;> cases written.isVector <;> decide +kernel

theorem isComment_line : written.line.isComment = false := by
  have behind : Text.skipSpace written.line = written.name ++ ' ' :: ':' :: ' ' ::
      (written.mode ++ ' ' :: (written.type ++ [';'])) :=
    Text.skipSpace_append_word (fun c member => (written.indent_space c member).1)
      written.name_word _
  cases name : written.name with
  | nil => exact absurd name written.name_word.ne_nil
  | cons c name =>
    have word := written.name_word.isWordChar c (by simp [name])
    have noHyphen : c ≠ '-' := by
      rintro rfl
      exact absurd word (by decide +kernel)
    rw [name] at behind
    simp [Line.isComment, behind, noHyphen]

theorem kind_line :
    written.line.kind = .declaration ⟨written.name, written.mode, written.isVector⟩ :=
  Line.kind_eq_declaration_iff.mpr
    ⟨written.isComment_line, written.has_finish_line, written.read?_line⟩

theorem trimFileBreaks_line : Text.trimFileBreaks written.line = written.line := by
  have ends : ∃ front, written.line = front ++ [';'] := by
    refine ⟨written.indent ++ (written.name ++ ' ' :: ':' :: ' ' :: (written.mode ++ ' ' ::
      written.type)), ?_⟩
    simp [line]
  obtain ⟨front, same⟩ := ends
  rw [same]
  exact Text.trimFileBreaks_append_of_not_isFileBreak (by decide)

theorem lineFeed_not_mem_line : '\n' ∉ written.line := by
  have indent : '\n' ∉ written.indent := fun member => (written.indent_space _ member).2 rfl
  have name : '\n' ∉ written.name := by
    intro member
    exact absurd (written.name_word.isWordChar _ member) (by decide +kernel)
  have mode : '\n' ∉ written.mode := by
    apply Text.not_mem_of_map_toLower written.mode_small (by decide)
    cases written.direction <;> decide
  have type : '\n' ∉ written.type := by
    apply Text.not_mem_of_map_toLower written.type_small (by decide)
    cases written.isVector <;> decide
  simp [line, indent, name, mode, type]

/-- Reading the line adds the port to the group at hand. -/
theorem read_line {scanner : Scanner} (phase : scanner.phase = .inPorts) :
    scanner.read written.line = scanner.addPort (written.port scanner.group) := by
  rw [Scanner.read_of_inPorts phase, written.kind_line, Scanner.readKind]
  exact Scanner.declare_of_spells scanner written.mode_spells written.hasTurkishI_mode

end WrittenPort

/-! ### Lines of white space -/

/-- A line with nothing but white space in it. -/
structure BlankLine where
  text : List Char
  text_space : ∀ c ∈ text, Text.isSpace c = true ∧ c ≠ '\n'

theorem Text.mem_of_mem_trimFileBreaks {line : List Char} {c : Char}
    (member : c ∈ trimFileBreaks line) : c ∈ line := by
  have inReverse := (List.dropWhile_sublist _).subset (List.mem_reverse.mp member)
  exact List.mem_reverse.mp inReverse

theorem BlankLine.kind_trimFileBreaks (blank : BlankLine) :
    Line.kind (Text.trimFileBreaks blank.text) = .blank := by
  have space : ∀ c ∈ Text.trimFileBreaks blank.text, Text.isSpace c = true := by
    intro c member
    exact (blank.text_space c (Text.mem_of_mem_trimFileBreaks member)).1
  exact Line.kind_eq_blank_iff.mpr (List.all_eq_true.mpr space)

end EntityDiagram
