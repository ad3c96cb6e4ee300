/-!
Lines of a text that ends its lines with terminators: a carriage return with a line feed is one
terminator, and nothing follows the last one. Which characters terminate a line depends on who
reads: files end their lines with a line feed or a carriage return, displays also with the other
line and paragraph breaks.
-/

namespace EntityDiagram.Text

/-- The terminated lines of a text whose current line has begun with `line`, given in reverse. -/
def linesFrom (isBreak : Char → Bool) (line : List Char) : List Char → List (List Char)
  | [] => if line.isEmpty then [] else [line.reverse]
  | '\r' :: '\n' :: text => line.reverse :: linesFrom isBreak [] text
  | c :: text =>
    if isBreak c then line.reverse :: linesFrom isBreak [] text
    else linesFrom isBreak (c :: line) text

/-- The lines of a text, without their terminators. A last line needs no terminator, and behind a
    last terminator there is no further line. -/
def lines (isBreak : Char → Bool) (text : List Char) : List (List Char) := linesFrom isBreak [] text

/-- The characters that end a line of a file. -/
def isFileBreak (c : Char) : Bool := c == '\n' || c == '\r'

/-- The characters that end a line on a display: besides line feed and carriage return, the
    vertical tab, the form feed, the file, group and record separators, the next-line character, and
    the line and paragraph separators. -/
def isDisplayBreak (c : Char) : Bool :=
  ['\n', '\u000b', '\u000c', '\r', '\u001c', '\u001d', '\u001e', '\u0085', '\u2028',
    '\u2029'].contains c

/-- The lines of a text on a display. -/
def displayLines (text : String) : List String :=
  (lines isDisplayBreak text.toList).map String.ofList

/-- A line without the carriage returns and line feeds at its end. -/
def trimFileBreaks (line : List Char) : List Char :=
  (line.reverse.dropWhile isFileBreak).reverse

/-- Lines joined by line feeds, without one at the end. -/
def joinLines (lines : List String) : String := "\n".intercalate lines

/-- Lines printed one after the other, each with a line feed at its end. -/
def printLines (lines : List String) : String := String.join (lines.map (· ++ "\n"))

@[simp] theorem printLines_nil : printLines [] = "" := rfl

@[simp] theorem printLines_cons (line : String) (lines : List String) :
    printLines (line :: lines) = line ++ "\n" ++ printLines lines := by
  simp [printLines]

@[simp] theorem printLines_append (first second : List String) :
    printLines (first ++ second) = printLines first ++ printLines second := by
  simp [printLines]

/-- A line that ends in no break stays as it is. -/
theorem trimFileBreaks_append_of_not_isFileBreak {line : List Char} {c : Char}
    (h : isFileBreak c = false) : trimFileBreaks (line ++ [c]) = line ++ [c] := by
  simp [trimFileBreaks, h]

/-- A break at the end goes. -/
theorem trimFileBreaks_append_of_isFileBreak {line : List Char} {c : Char}
    (h : isFileBreak c = true) : trimFileBreaks (line ++ [c]) = trimFileBreaks line := by
  simp [trimFileBreaks, h]

end EntityDiagram.Text
