import EntityDiagram.Proofs.Diagram.Frame
import Mathlib.Data.List.Infix

/-!
Reading a box back. Between the edges of a row line the gap begins with the first spaces that are as
many as the least gap, and it ends before the next character that is no space. That gives readable
rows back, so no two lists of them have the same box.
-/

namespace EntityDiagram

/-- Texts that can be told apart from the gap of a row: without breaks, without spaces at their
    ends, and without four spaces together, which are as many as the least gap has. -/
structure Readable (text : List Char) : Prop where
  plain : ∀ c ∈ text, Text.isDisplayBreak c = false
  head : text.head? ≠ some ' '
  last : text.getLast? ≠ some ' '
  noGap : ¬ List.replicate 4 ' ' <:+: text

instance (text : List Char) : Decidable (Readable text) :=
  decidable_of_iff
    (text.any Text.isDisplayBreak = false ∧ text.head? ≠ some ' ' ∧ text.getLast? ≠ some ' ' ∧
      ¬ List.replicate 4 ' ' <:+: text)
    ⟨fun known => ⟨by simpa using known.1, known.2.1, known.2.2.1, known.2.2.2⟩,
      fun readable => ⟨by simpa using readable.plain, readable.head, readable.last, readable.noGap⟩⟩

/-- A text with neither breaks nor spaces is readable. -/
theorem Readable.of_noSpace {text : List Char}
    (plain : ∀ c ∈ text, Text.isDisplayBreak c = false ∧ c ≠ ' ') : Readable text where
  plain := fun c member => (plain c member).1
  head := fun first => (plain ' ' (List.mem_of_head? first)).2 rfl
  last := fun final => (plain ' ' (List.mem_of_getLast? final)).2 rfl
  noGap := fun gap => (plain ' ' (gap.subset (by decide))).2 rfl

/-- A row whose sides are readable. -/
structure Row.IsReadable (row : Row) : Prop where
  left : Readable row.left.toList
  right : Readable row.right.toList

instance (row : Row) : Decidable row.IsReadable :=
  decidable_of_iff (Readable row.left.toList ∧ Readable row.right.toList)
    ⟨fun sides => ⟨sides.1, sides.2⟩, fun readable => ⟨readable.left, readable.right⟩⟩

theorem Row.IsReadable.isPlain {row : Row} (readable : row.IsReadable) : row.IsPlain where
  left := readable.left.plain
  right := readable.right.plain

namespace Box

/-- What stands before the first spaces that are as many as the least gap. -/
def beforeGap : List Char → List Char
  | [] => []
  | c :: text =>
    if List.replicate leastGap ' ' <+: c :: text then [] else c :: beforeGap text

/-- The row that stands in a text: its sides are what the gap has before it and behind it. -/
def rowOfContent (text : List Char) : Row :=
  let left := beforeGap text
  ⟨String.ofList left, String.ofList ((text.drop left.length).dropWhile (· == ' '))⟩

/-- The row in a line of a box, between the six characters of the left edge and the three of the
    right one. -/
def rowOfLine (line : String) : Row :=
  rowOfContent ((line.toList.drop 6).take (line.length - 9))

/-- The rows in the lines of a box, all but the first two and the last two of which show a row. -/
def rowsOfLines (lines : List String) : List Row :=
  ((lines.drop 2).take (lines.length - 4)).map rowOfLine

/-- The rows in the text of a box. -/
def readBack (text : String) : List Row := rowsOfLines (Text.displayLines text)

theorem beforeGap_of_prefix {text : List Char} (begins : List.replicate leastGap ' ' <+: text) :
    beforeGap text = [] := by
  cases text with
  | nil => rfl
  | cons c text => rw [beforeGap, if_pos begins]

/-- No gap begins before the end of a text that holds none and does not end in a space. -/
theorem beforeGap_append {gap : Nat} (wide : leastGap ≤ gap) {left : List Char}
    (last : left.getLast? ≠ some ' ') (noGap : ¬ List.replicate leastGap ' ' <:+: left)
    (right : List Char) : beforeGap (left ++ (List.replicate gap ' ' ++ right)) = left := by
  induction left with
  | nil =>
    apply beforeGap_of_prefix
    obtain ⟨more, rfl⟩ := Nat.exists_eq_add_of_le wide
    rw [List.nil_append, ← List.replicate_append_replicate, List.append_assoc]
    exact List.prefix_append _ _
  | cons c left ih =>
    have within : c :: left <+: c :: (left ++ (List.replicate gap ' ' ++ right)) :=
      List.prefix_append (c :: left) _
    have noneHere :
        ¬ List.replicate leastGap ' ' <+: c :: (left ++ (List.replicate gap ' ' ++ right)) := by
      intro begins
      -- Either the text holds the whole gap that begins here, or it ends within that gap.
      rcases List.prefix_or_prefix_of_prefix begins within with inside | short
      · exact noGap inside.isInfix
      · have final := List.getLast?_eq_some_getLast (List.cons_ne_nil c left)
        have space := List.eq_of_mem_replicate (short.subset (List.mem_of_getLast? final))
        rw [space] at final
        exact last final
    have lastLater : left.getLast? ≠ some ' ' := by
      intro final
      rw [List.getLast?_cons, final] at last
      exact last rfl
    rw [List.cons_append, beforeGap, if_neg noneHere,
      ih lastLater fun inside => noGap (List.infix_cons inside)]

/-- A text that does not begin with a space is left of it behind a gap. -/
theorem dropWhile_replicate_append {right : List Char} (head : right.head? ≠ some ' ')
    (gap : Nat) : (List.replicate gap ' ' ++ right).dropWhile (· == ' ') = right := by
  rw [List.dropWhile_append_of_pos (by simp)]
  cases right with
  | nil => rfl
  | cons c right =>
    have first : c ≠ ' ' := by simpa using head
    simp [first]

theorem rowOfContent_append {gap : Nat} (wide : leastGap ≤ gap) {row : Row}
    (readable : row.IsReadable) :
    rowOfContent (row.left.toList ++ (List.replicate gap ' ' ++ row.right.toList)) = row := by
  have left := beforeGap_append wide readable.left.last readable.left.noGap row.right.toList
  rw [rowOfContent, left, List.drop_left, dropWhile_replicate_append readable.right.head,
    String.ofList_toList, String.ofList_toList]

/-- The line of a readable row tells the row. -/
theorem rowOfLine_rowLine {width : Nat} {row : Row} (fits : row.text.length ≤ width)
    (readable : row.IsReadable) : rowOfLine (rowLine width row) = row := by
  have edges : (rowLine width row).length - 9 = (content width row).toList.length := by
    have leftEdge : "-- --|".toList.length = 6 := by decide
    have rightEdge : "|--".toList.length = 3 := by decide
    rw [← String.length_toList, toList_rowLine, List.length_append, List.length_append, leftEdge,
      rightEdge]
    omega
  have inside : ((rowLine width row).toList.drop 6).take ((rowLine width row).length - 9) =
      (content width row).toList := by
    rw [edges, toList_rowLine]
    exact List.take_left
  rw [rowOfLine, inside, toList_content, rowOfContent_append (by omega) readable]

/-- The parts of a box of readable rows tell the rows. -/
theorem rowsOfLines_parts {rows : List Row} (readable : ∀ row ∈ rows, row.IsReadable) :
    rowsOfLines (parts rows) = rows := by
  have inside : ((parts rows).drop 2).take ((parts rows).length - 4) =
      rows.map (rowLine (Row.width rows)) := by
    rw [length_parts, Nat.add_sub_cancel, parts]
    simp
  have each : ∀ row ∈ rows, rowOfLine (rowLine (Row.width rows) row) = row :=
    fun row member => rowOfLine_rowLine (Row.length_text_le_width member) (readable row member)
  calc
    rowsOfLines (parts rows) = rows.map fun row => rowOfLine (rowLine (Row.width rows) row) := by
      rw [rowsOfLines, inside, List.map_map]
      rfl
    _ = rows.map id := List.map_congr_left each
    _ = rows := List.map_id rows

theorem parts_injective {rows others : List Row} (readable : ∀ row ∈ rows, row.IsReadable)
    (otherReadable : ∀ row ∈ others, row.IsReadable) (same : parts rows = parts others) :
    rows = others := by
  calc
    rows = rowsOfLines (parts rows) := (rowsOfLines_parts readable).symm
    _ = rowsOfLines (parts others) := by rw [same]
    _ = others := rowsOfLines_parts otherReadable

/-- The text of a box of readable rows tells the rows. -/
theorem readBack_render {rows : List Row} (readable : ∀ row ∈ rows, row.IsReadable) :
    readBack (render rows) = rows := by
  have displayed : Text.displayLines (render rows) = parts rows :=
    lines_eq_parts fun row member => (readable row member).isPlain
  rw [readBack, displayed, rowsOfLines_parts readable]

/-- Readable rows can be read back from the text of their box, so no other readable rows have the
    same text. -/
theorem readBack_and_eq_of_render_eq {rows : List Row} (readable : ∀ row ∈ rows, row.IsReadable) :
    readBack (render rows) = rows ∧
      ∀ others : List Row, (∀ row ∈ others, row.IsReadable) → render rows = render others →
        rows = others := by
  refine ⟨readBack_render readable, ?_⟩
  intro others otherReadable same
  calc
    rows = readBack (render rows) := (readBack_render readable).symm
    _ = readBack (render others) := by rw [same]
    _ = others := readBack_render otherReadable

/-- Rows with texts that could be taken for edges, marks or a gap, and with empty sides. -/
def misleadingRows : List Row :=
  [⟨"a   b", "|--"⟩, .empty, ⟨"", "-- --|~"⟩, ⟨"~", ""⟩]

/-- The same characters as in the first row, cut at another place. -/
def recutRows : List Row := [⟨"a", "b   |--"⟩, .empty, ⟨"", "-- --|~"⟩, ⟨"~", ""⟩]

theorem readBack_render_misleadingRows :
    (∀ row ∈ misleadingRows, row.IsReadable) ∧ (∀ row ∈ recutRows, row.IsReadable) ∧
      readBack (render misleadingRows) = misleadingRows ∧
      render misleadingRows ≠ render recutRows := by
  have readable : ∀ row ∈ misleadingRows, row.IsReadable := by decide
  have otherReadable : ∀ row ∈ recutRows, row.IsReadable := by decide
  obtain ⟨back, injective⟩ := readBack_and_eq_of_render_eq readable
  refine ⟨readable, otherReadable, back, fun same => ?_⟩
  exact absurd (injective recutRows otherReadable same) (by decide)

/-- A space at an end of a side cannot be told from the gap. -/
example : render [⟨"a ", "b"⟩] = render [⟨"a", " b"⟩] := by decide

/-- Four spaces inside a side cannot be told from the gap. -/
example : render [⟨"a    b", "c"⟩] = render [⟨"a", "b    c"⟩] := by decide

end Box

end EntityDiagram
