import EntityDiagram.Port.Basic
import EntityDiagram.Text.Word

/-!
What a line of a source can be: a comment, a blank line, a line with one of the keywords that lead
from one phase to the next, or the declaration of a port.

A declaration is a name, a colon, a mode, and one of the two types that are drawn. What follows the
type does not matter, except that it tells a vector from a single signal.
-/

namespace EntityDiagram

/-- A line of a source, without its terminator. -/
abbrev Line := List Char

/-- The keywords that a reader looks for. -/
inductive Keyword where
  | entity
  | port
  | finish
  deriving DecidableEq, Repr

/-- The letters of a keyword in their small form. -/
def Keyword.letters : Keyword → List Char
  | entity => ['e', 'n', 't', 'i', 't', 'y']
  | port => ['p', 'o', 'r', 't']
  | finish => ['e', 'n', 'd']

namespace Line

/-- Whether a line is a comment: two hyphens come first, white space apart. -/
def isComment (line : Line) : Bool :=
  match Text.skipSpace line with
  | '-' :: '-' :: _ => true
  | _ => false

/-- Whether a line is blank. -/
def isBlank (line : Line) : Bool := Text.isBlank line

/-- Whether a line holds a keyword as a whole word. -/
def has (keyword : Keyword) (line : Line) : Bool := Text.hasWord keyword.letters line

theorem isComment_iff_skipSpace {line : Line} :
    line.isComment = true ↔ ∃ behind, Text.skipSpace line = '-' :: '-' :: behind := by
  unfold isComment
  split
  · rename_i behind front
    simp [front]
  · rename_i other
    simpa using other

/-- A comment is not blank. -/
theorem isBlank_eq_false_of_isComment {line : Line} (h : isComment line = true) :
    isBlank line = false := by
  rw [Bool.eq_false_iff]
  intro blank
  rw [isBlank, Text.isBlank_iff_skipSpace_eq_nil] at blank
  simp [isComment, blank] at h

end Line

/-- A port declaration as a line spells it. -/
structure Declaration where
  name : List Char
  mode : List Char
  isVector : Bool
  deriving DecidableEq, Repr

namespace Declaration

/-- The type of a single signal. -/
def typeName : List Char := ['s', 't', 'd', '_', 'l', 'o', 'g', 'i', 'c']

/-- What follows the name of that type in the name of the vector type. -/
def vectorEnding : List Char := ['_', 'v', 'e', 'c', 't', 'o', 'r']

/-- Whether a word spells the keyword of a direction. -/
def isMode (word : List Char) : Bool := Direction.all.any fun direction =>
  Text.spells direction.letters word

/-- A word and what follows it, if a text begins with one. -/
def word? (text : List Char) : Option (List Char × List Char) :=
  match text.takeWhile Text.isWordChar with
  | [] => none
  | word => some (word, text.dropWhile Text.isWordChar)

/-- What follows a colon, if a text begins with one. -/
def afterColon? : List Char → Option (List Char)
  | ':' :: text => some text
  | _ => none

/-- What follows white space, if a text begins with some. -/
def afterSpace? : List Char → Option (List Char)
  | c :: text => if Text.isSpace c then some (Text.skipSpace text) else none
  | [] => none

/-- The declaration in a line, if the line is one. -/
def read? (line : Line) : Option Declaration := do
  let (name, text) ← word? (Text.skipSpace line)
  let text ← afterColon? (Text.skipSpace text)
  let (mode, text) ← word? (Text.skipSpace text)
  if !isMode mode then none
  let text ← afterSpace? text
  let rest ← Text.afterSpelling? typeName text
  return ⟨name, mode, (Text.afterSpelling? vectorEnding rest).isSome⟩

/-- The port that a declaration declares in a group. If its mode names no direction, the mode's
    lower-case form is given instead. -/
def port (declaration : Declaration) (group : Nat) : Except String Port :=
  let mode := String.ofList declaration.mode
  match Direction.ofKeyword? mode with
  | some direction =>
    .ok ⟨group, String.ofList declaration.name, declaration.isVector, direction⟩
  | none => .error (Text.lower mode)

theorem afterColon?_eq_some_iff {text rest : List Char} :
    afterColon? text = some rest ↔ text = ':' :: rest := by
  unfold afterColon?
  split
  · simp
  · rename_i other
    constructor
    · simp
    · intro h
      exact absurd h (other rest)

/-- A word that is read is the whole run of word characters. -/
theorem word?_eq_some_iff {text word rest : List Char} :
    word? text = some (word, rest) ↔
      word ≠ [] ∧ text.takeWhile Text.isWordChar = word ∧
        text.dropWhile Text.isWordChar = rest := by
  unfold word?
  split
  · rename_i h
    simp only [h, reduceCtorEq, false_iff, not_and]
    rintro nonempty rfl
    exact absurd rfl nonempty
  · rename_i word' nonempty
    constructor
    · rintro h
      simp only [Option.some.injEq, Prod.mk.injEq] at h
      exact ⟨fun hw => nonempty (h.1.trans hw), h.1, h.2⟩
    · rintro ⟨-, rfl, rfl⟩
      rfl

end Declaration

end EntityDiagram
