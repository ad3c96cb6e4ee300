import EntityDiagram.Text.Lines

/-!
Rows of a diagram, and the box around them. A row is what stands at the left and what at the right
edge of one line of the box. Left texts are flush left, right texts flush right, and the gap between
them is at least as wide as four spaces. Every line of the box begins with two hyphens, so that it
can stand in a comment.
-/

namespace EntityDiagram

/-- One line of the box. -/
structure Row where
  left : String
  right : String
  deriving DecidableEq, Repr

namespace Row

/-- The row with nothing on either side. -/
def empty : Row := ⟨"", ""⟩

/-- Both sides with a mark in the gap between them. -/
def text (row : Row) : String := row.left ++ "~" ++ row.right

/-- Whether a row has nothing on either side, as the rows between groups do. -/
def isSeparator (row : Row) : Bool := row.left.isEmpty && row.right.isEmpty

/-- The row with its sides exchanged. -/
def swap (row : Row) : Row := ⟨row.right, row.left⟩

/-- The length of the longest text among rows, zero if there are none. -/
def width (rows : List Row) : Nat := rows.foldr (fun row width => max row.text.length width) 0

/-- The mark takes one place. -/
@[simp] theorem length_text (row : Row) :
    row.text.length = row.left.length + row.right.length + 1 := by
  have mark : "~".length = 1 := by decide
  simp only [text, String.length_append, mark]
  omega

@[simp] theorem isSeparator_empty : empty.isSeparator = true := by decide

theorem width_cons (row : Row) (rows : List Row) :
    width (row :: rows) = max row.text.length (width rows) := rfl

/-- Rows with texts of the same lengths have the same width. -/
theorem width_map {f : Row → Row} (length : ∀ row, (f row).text.length = row.text.length)
    (rows : List Row) : width (rows.map f) = width rows := by
  induction rows with
  | nil => rfl
  | cons row rows ih => rw [List.map_cons, width_cons, width_cons, length, ih]

/-- No row is longer than the width. -/
theorem length_text_le_width {row : Row} {rows : List Row} (h : row ∈ rows) :
    row.text.length ≤ width rows := by
  induction rows with
  | nil => simp at h
  | cons other rows ih =>
    rw [width_cons]
    rcases List.mem_cons.1 h with rfl | h
    · omega
    · have := ih h
      omega

end Row

namespace Box

/-- How far the border reaches beyond the longest row text. -/
def borderMargin : Nat := 5

/-- How many spaces the longest row has in its gap. -/
def leastGap : Nat := 4

/-- What a row holds between the edges of a box of a width. -/
def content (width : Nat) (row : Row) : String :=
  row.left ++ String.ofList (List.replicate (width + leastGap - row.text.length) ' ') ++ row.right

/-- A row with the edges of the box. -/
def rowLine (width : Nat) (row : Row) : String := "-- --|" ++ content width row ++ "|--"

/-- The upper and the lower border of a box of a width. -/
def border (width : Nat) : String :=
  "--   " ++ String.ofList (List.replicate (width + borderMargin) '-')

/-- The parts of a box from top to bottom. A part whose row holds line breaks is more than one line
    on a display. -/
def parts (rows : List Row) : List String :=
  let width := Row.width rows
  ["--", border width] ++ rows.map (rowLine width) ++ [border width, "--"]

/-- The box in one text, without a line feed at the end. -/
def render (rows : List Row) : String := Text.joinLines (parts rows)

/-- The lines of the box on a display. -/
def lines (rows : List Row) : List String := Text.displayLines (render rows)

theorem length_parts (rows : List Row) : (parts rows).length = rows.length + 4 := by
  simp [parts]

/-- The border is as long as the longest row text and ten characters more. -/
theorem length_border (width : Nat) : (border width).length = width + 10 := by
  have margin : "--   ".length = 5 := by decide
  simp only [border, borderMargin, String.length_append, String.length_ofList,
    List.length_replicate, margin]
  omega

/-- A row that is not too long is drawn two characters longer than the border. -/
theorem length_rowLine {width : Nat} {row : Row} (h : row.text.length ≤ width) :
    (rowLine width row).length = width + 12 := by
  have leftEdge : "-- --|".length = 6 := by decide
  have rightEdge : "|--".length = 3 := by decide
  simp only [Row.length_text] at h
  simp only [rowLine, content, leastGap, Row.length_text, String.length_append,
    String.length_ofList, List.length_replicate, leftEdge, rightEdge]
  omega

end Box

end EntityDiagram
