import EntityDiagram.Text.CharacterClasses

/-!
Words: maximal runs of word characters. A keyword counts only as a whole word, in any spelling of
its letters, and never as a part of a longer identifier of any script.

Letters are compared without regard to case. Besides the two ASCII forms, three letters have further
forms: the Turkish dotted capital and dotless small i count as `i`, the long s as `s`, and the
Kelvin sign as `k`.
-/

namespace EntityDiagram.Text

/-- The characters outside ASCII that count as the same letter as a small ASCII letter. -/
def foreignForms : Char → List Char
  | 'i' => ['\u0130', '\u0131']
  | 's' => ['\u017f']
  | 'k' => ['\u212a']
  | _ => []

/-- Whether a character is a form of a letter, which is given in its small form. Characters that
    are no letters have only themselves. -/
def isFormOf (letter c : Char) : Bool :=
  c.toLower == letter || (foreignForms letter).contains c

/-- What follows a leading spelling of `word` in `text`, if `text` begins with one. -/
def afterSpelling? : (word text : List Char) → Option (List Char)
  | [], text => some text
  | letter :: word, c :: text => if isFormOf letter c then afterSpelling? word text else none
  | _ :: _, [] => none

/-- Whether the whole of `text` spells `word`. -/
def spells (word text : List Char) : Bool := afterSpelling? word text == some []

@[simp] theorem afterSpelling?_nil (text : List Char) : afterSpelling? [] text = some text := by
  cases text <;> rfl

@[simp] theorem afterSpelling?_cons_nil (letter : Char) (word : List Char) :
    afterSpelling? (letter :: word) [] = none := rfl

theorem afterSpelling?_cons_cons (letter c : Char) (word text : List Char) :
    afterSpelling? (letter :: word) (c :: text) =
      if isFormOf letter c then afterSpelling? word text else none := rfl

/-- Whether a text is empty or begins with a character that no word contains. -/
def atWordEnd : List Char → Bool
  | [] => true
  | c :: _ => !isWordChar c

/-- Whether a text begins with a spelling of `word` that ends at a word's end. -/
def beginsWithWord (word text : List Char) : Bool :=
  match afterSpelling? word text with
  | some rest => atWordEnd rest
  | none => false

/-- Whether `word` occurs as a whole word in a text that stands behind a word character
    (`insideWord`) or behind none. -/
def hasWordFrom (word : List Char) (insideWord : Bool) : List Char → Bool
  | [] => false
  | c :: text =>
    (!insideWord && beginsWithWord word (c :: text)) || hasWordFrom word (isWordChar c) text

/-- Whether `word` occurs as a whole word in a text. -/
def hasWord (word text : List Char) : Bool := hasWordFrom word false text

/-- The maximal runs of characters of a class in a text. -/
def runs (inClass : Char → Bool) (text : List Char) : List (List Char) :=
  (text.splitOnP (!inClass ·)).filter (!·.isEmpty)

@[simp] theorem runs_nil (inClass : Char → Bool) : runs inClass [] = [] := by
  simp [runs]

/-- A character outside the class separates the runs before it from those behind it. -/
theorem runs_append_cons {inClass : Char → Bool} {c : Char} (h : inClass c = false)
    (before behind : List Char) :
    runs inClass (before ++ c :: behind) = runs inClass before ++ runs inClass behind := by
  unfold runs
  rw [List.splitOnP_append_cons before behind (by simp [h]), List.filter_append]

/-- A text of characters of the class is one run, unless it is empty. -/
theorem runs_eq_singleton {inClass : Char → Bool} {text : List Char} (nonempty : text ≠ [])
    (h : ∀ c ∈ text, inClass c = true) : runs inClass text = [text] := by
  unfold runs
  rw [List.splitOnP_eq_singleton (fun c mem => by simp [h c mem])]
  simp [nonempty]

end EntityDiagram.Text
