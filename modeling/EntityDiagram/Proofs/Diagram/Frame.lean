import EntityDiagram.Diagram.Box
import EntityDiagram.Proofs.Text.Lines
import Mathlib.Data.List.Basic

/-!
The lines of a box. Every part of a box ends in a hyphen, so that no line break of a row runs into
the next part: the lines of the box are the lines of its parts, whatever the rows hold. Rows without
breaks have one line each, two characters longer than the border, and the longest of them have the
least gap.
-/

namespace EntityDiagram

namespace Row

/-- A row without breaks on its sides. -/
structure IsPlain (row : Row) : Prop where
  left : ∀ c ∈ row.left.toList, Text.isDisplayBreak c = false
  right : ∀ c ∈ row.right.toList, Text.isDisplayBreak c = false

instance (row : Row) : Decidable row.IsPlain :=
  decidable_of_iff
    (row.left.toList.any Text.isDisplayBreak = false ∧
      row.right.toList.any Text.isDisplayBreak = false)
    ⟨fun sides => ⟨by simpa using sides.1, by simpa using sides.2⟩,
      fun plain => ⟨by simpa using plain.left, by simpa using plain.right⟩⟩

/-- A row is as long as the width. -/
theorem exists_length_text_eq_width {rows : List Row} (nonempty : rows ≠ []) :
    ∃ row ∈ rows, row.text.length = width rows := by
  induction rows with
  | nil => exact absurd rfl nonempty
  | cons row rows ih =>
    rw [width_cons]
    by_cases longest : width rows ≤ row.text.length
    · exact ⟨row, by simp, (Nat.max_eq_left longest).symm⟩
    · have longer : rows ≠ [] := by
        rintro rfl
        exact longest (Nat.zero_le _)
      obtain ⟨other, member, length⟩ := ih longer
      exact ⟨other, by simp [member], by omega⟩

end Row

namespace Box

/-- How many spaces stand between the sides of a row. -/
def gap (width : Nat) (row : Row) : Nat := width - row.left.length - row.right.length + 3

/-- A row between the edges of a box, with its gap. -/
def spacedLine (width : Nat) (row : Row) : String :=
  "-- --|" ++ row.left ++ String.ofList (List.replicate (gap width row) ' ') ++ row.right ++ "|--"

theorem toList_content (width : Nat) (row : Row) :
    (content width row).toList = row.left.toList ++
      (List.replicate (width + leastGap - row.text.length) ' ' ++ row.right.toList) := by
  simp [content]

theorem toList_rowLine (width : Nat) (row : Row) :
    (rowLine width row).toList =
      "-- --|".toList ++ ((content width row).toList ++ "|--".toList) := by
  rw [rowLine, String.toList_append, String.toList_append, List.append_assoc]

/-- No gap is cut short, because no row is longer than the width. -/
theorem gap_eq {width : Nat} {row : Row} (fits : row.text.length ≤ width) :
    gap width row = width + leastGap - row.text.length := by
  rw [Row.length_text] at fits ⊢
  rw [gap, leastGap]
  omega

theorem rowLine_eq_spacedLine {width : Nat} {row : Row} (fits : row.text.length ≤ width) :
    rowLine width row = spacedLine width row := by
  rw [spacedLine, gap_eq fits, rowLine, content]
  simp only [String.append_assoc]

theorem getLast?_rowLine (width : Nat) (row : Row) :
    (rowLine width row).toList.getLast? = some '-' := by
  have edge : "|--".toList.getLast? = some '-' := rfl
  rw [rowLine, String.toList_append, List.getLast?_append, edge, Option.some_or]

/-- Every part of a box ends in a hyphen. -/
theorem getLast?_of_mem_parts {rows : List Row} {part : String} (member : part ∈ parts rows) :
    part.toList.getLast? = some '-' := by
  have hyphens : ∀ width : Nat, (border width).toList.getLast? = some '-' := by
    intro width
    simp only [border, borderMargin, String.toList_append, String.toList_ofList,
      List.getLast?_append, List.getLast?_replicate]
    rfl
  simp only [parts, List.mem_append, List.mem_cons, List.not_mem_nil, or_false,
    List.mem_map] at member
  rcases member with ((rfl | rfl) | ⟨row, -, rfl⟩) | (rfl | rfl)
  · rfl
  · exact hyphens _
  · exact getLast?_rowLine _ row
  · exact hyphens _
  · rfl

/-- The lines of a box are the lines of its parts. -/
theorem lines_eq_flatMap (rows : List Row) :
    lines rows = (parts rows).flatMap Text.displayLines := by
  have ends : ∀ text ∈ (parts rows).map String.toList,
      ∃ c, text.getLast? = some c ∧ Text.isDisplayBreak c = false := by
    intro text member
    obtain ⟨part, partMember, rfl⟩ := List.mem_map.mp member
    exact ⟨'-', getLast?_of_mem_parts partMember, by decide⟩
  have feed : "\n".toList = ['\n'] := rfl
  rw [lines, Text.displayLines, render, Text.joinLines, String.toList_intercalate, feed,
    Text.lines_intercalate (by decide) (by decide) ends, List.map_flatMap, List.flatMap_map]
  rfl

/-- The fixed parts of a box are drawn with hyphens, spaces and bars. -/
theorem isDisplayBreak_of_frame {frame : List Char}
    (drawn : (frame.all fun c => c == '-' || c == ' ' || c == '|') = true) {c : Char}
    (member : c ∈ frame) : Text.isDisplayBreak c = false := by
  have used := List.all_eq_true.mp drawn c member
  simp only [Bool.or_eq_true, beq_iff_eq] at used
  rcases used with (rfl | rfl) | rfl <;> decide

theorem isDisplayBreak_of_mem_replicate {count : Nat} {drawn c : Char}
    (plain : Text.isDisplayBreak drawn = false) (member : c ∈ List.replicate count drawn) :
    Text.isDisplayBreak c = false := by
  rw [List.eq_of_mem_replicate member]
  exact plain

/-- The line of a row without breaks has no breaks. -/
theorem isDisplayBreak_rowLine {width : Nat} {row : Row} (plain : row.IsPlain) :
    ∀ c ∈ (rowLine width row).toList, Text.isDisplayBreak c = false := by
  intro c member
  simp only [rowLine, String.toList_append, toList_content, List.mem_append] at member
  rcases member with (edge | left | gap | right) | edge
  · exact isDisplayBreak_of_frame (by decide) edge
  · exact plain.left c left
  · exact isDisplayBreak_of_mem_replicate (by decide) gap
  · exact plain.right c right
  · exact isDisplayBreak_of_frame (by decide) edge

theorem isDisplayBreak_border (width : Nat) :
    ∀ c ∈ (border width).toList, Text.isDisplayBreak c = false := by
  intro c member
  simp only [border, String.toList_append, String.toList_ofList, List.mem_append] at member
  rcases member with edge | line
  · exact isDisplayBreak_of_frame (by decide) edge
  · exact isDisplayBreak_of_mem_replicate (by decide) line

/-- The parts of a box of rows without breaks have no breaks. -/
theorem isDisplayBreak_parts {rows : List Row} (plain : ∀ row ∈ rows, row.IsPlain) {part : String}
    (member : part ∈ parts rows) : ∀ c ∈ part.toList, Text.isDisplayBreak c = false := by
  simp only [parts, List.mem_append, List.mem_cons, List.not_mem_nil, or_false,
    List.mem_map] at member
  rcases member with ((rfl | rfl) | ⟨row, rowMember, rfl⟩) | (rfl | rfl)
  · exact fun c => isDisplayBreak_of_frame (by decide)
  · exact isDisplayBreak_border _
  · exact isDisplayBreak_rowLine (plain row rowMember)
  · exact isDisplayBreak_border _
  · exact fun c => isDisplayBreak_of_frame (by decide)

/-- A part without breaks is one line. -/
theorem displayLines_of_mem_parts {rows : List Row} {part : String} (member : part ∈ parts rows)
    (plain : ∀ c ∈ part.toList, Text.isDisplayBreak c = false) :
    Text.displayLines part = [part] := by
  have nonempty : part.toList ≠ [] := by
    intro empty
    have last := getLast?_of_mem_parts member
    rw [empty] at last
    cases last
  rw [Text.displayLines, Text.lines_of_plain (by decide) nonempty plain, List.map_singleton,
    String.ofList_toList]

/-- The parts of a box of rows without breaks are its lines on a display. -/
theorem lines_eq_parts {rows : List Row} (rowsPlain : ∀ row ∈ rows, row.IsPlain) :
    lines rows = parts rows := by
  have single : ∀ part ∈ parts rows, Text.displayLines part = [part] :=
    fun part member => displayLines_of_mem_parts member (isDisplayBreak_parts rowsPlain member)
  rw [lines_eq_flatMap, List.flatMap_congr single, List.flatMap_singleton']

/-- The parts of a box but for its rows. -/
theorem lines_eq_cons (rows : List Row) :
    lines rows = ["--", border (Row.width rows)] ++
      rows.flatMap (fun row => Text.displayLines (rowLine (Row.width rows) row)) ++
      [border (Row.width rows), "--"] := by
  have frame : ∀ {part : String}, part ∈ parts rows →
      (∀ c ∈ part.toList, Text.isDisplayBreak c = false) → Text.displayLines part = [part] :=
    displayLines_of_mem_parts
  have edge : Text.displayLines "--" = ["--"] :=
    frame (by simp [parts]) fun c => isDisplayBreak_of_frame (by decide)
  have line : Text.displayLines (border (Row.width rows)) = [border (Row.width rows)] :=
    frame (by simp [parts]) (isDisplayBreak_border _)
  rw [lines_eq_flatMap, parts, List.flatMap_append, List.flatMap_append, List.flatMap_map]
  simp only [List.flatMap_cons, List.flatMap_nil, edge, line]
  rfl

/-- The lengths of the parts of a box. -/
theorem map_length_parts (rows : List Row) :
    (parts rows).map String.length =
      [2, Row.width rows + 10] ++ List.replicate rows.length (Row.width rows + 12) ++
        [Row.width rows + 10, 2] := by
  have hyphens : "--".length = 2 := by decide
  have rowLengths : rows.map (String.length ∘ rowLine (Row.width rows)) =
      List.replicate rows.length (Row.width rows + 12) := by
    rw [List.map_eq_replicate_iff]
    exact fun row member => length_rowLine (Row.length_text_le_width member)
  simp only [parts, List.map_append, List.map_cons, List.map_nil, List.map_map, hyphens,
    length_border, rowLengths]

/-- A box is an exact frame around its rows. A row is drawn with as many spaces between its sides as
    take its right side to the right edge, at least four of them, and the longest row has no more.
    Where a row breaks on a display does not depend on what stands around it, and rows without
    breaks have a line each, all of one length. -/
theorem lines_eq_frame (rows : List Row) :
    let width := Row.width rows
    let edge := "--   " ++ String.ofList (List.replicate (width + 5) '-')
    lines rows = ["--", edge] ++
      rows.flatMap (fun row => Text.displayLines (spacedLine width row)) ++ [edge, "--"] ∧
    (∀ row ∈ rows, 4 ≤ gap width row ∧
      row.left.length + gap width row + row.right.length = width + 3) ∧
    (rows ≠ [] → ∃ row ∈ rows, gap width row = 4) ∧
    ((∀ row ∈ rows, row.IsPlain) →
      lines rows = ["--", edge] ++ rows.map (spacedLine width) ++ [edge, "--"] ∧
      (lines rows).length = rows.length + 4 ∧ Text.joinLines (lines rows) = render rows ∧
      ∀ row ∈ rows, (spacedLine width row).length = width + 12 ∧
        (spacedLine width row).length = edge.length + 2) := by
  intro width edge
  have fits : ∀ row ∈ rows, row.text.length ≤ width := fun row => Row.length_text_le_width
  have drawn : ∀ row ∈ rows, rowLine width row = spacedLine width row :=
    fun row member => rowLine_eq_spacedLine (fits row member)
  refine ⟨?_, ?_, ?_, fun plain => ⟨?_, ?_, ?_, ?_⟩⟩
  · have displayed : ∀ row ∈ rows, Text.displayLines (rowLine width row) =
        Text.displayLines (spacedLine width row) := fun row member => by rw [drawn row member]
    rw [lines_eq_cons, List.flatMap_congr displayed]
    rfl
  · intro row member
    have short := fits row member
    rw [gap_eq short, leastGap]
    rw [Row.length_text] at short ⊢
    omega
  · intro nonempty
    obtain ⟨row, member, longest⟩ := Row.exists_length_text_eq_width nonempty
    refine ⟨row, member, ?_⟩
    rw [gap_eq (fits row member), longest, leastGap]
    exact Nat.add_sub_cancel_left _ _
  · rw [lines_eq_parts plain, parts, ← List.map_congr_left drawn]
    rfl
  · rw [lines_eq_parts plain, length_parts]
  · rw [lines_eq_parts plain, render]
  · intro row member
    have edgeLength : edge.length = width + 10 := length_border width
    rw [← drawn row member, length_rowLine (fits row member), edgeLength]
    exact ⟨rfl, rfl⟩

/-- Rows with texts that could be taken for parts of a box or for a template. -/
def bracedRows : List Row := [⟨"\x7b\x7b row \x7d\x7d", "|--"⟩, ⟨"", "\x7b% for %\x7d"⟩, .empty]

theorem lines_eq_frame_bracedRows :
    bracedRows ≠ [] ∧ (∀ row ∈ bracedRows, row.IsPlain) ∧
      lines bracedRows = ["--", "--   ------------------", "-- --|\x7b\x7b row \x7d\x7d    |--|--",
        "-- --|       \x7b% for %\x7d|--", "-- --|                |--", "--   ------------------",
        "--"] ∧
      (∃ row ∈ bracedRows, gap (Row.width bracedRows) row = 4) ∧
      (lines bracedRows).length = bracedRows.length + 4 := by
  have nonempty : bracedRows ≠ [] := by decide
  have plain : ∀ row ∈ bracedRows, row.IsPlain := by decide
  obtain ⟨-, -, exact, whole⟩ := lines_eq_frame bracedRows
  exact ⟨nonempty, plain, (whole plain).1.trans (by decide), exact nonempty, (whole plain).2.1⟩

/-- A carriage return and a line feed on both sides of a gap are two breaks. -/
example : lines [⟨"a\r", "\nb"⟩] = ["--", "--   ----------", "-- --|a", "    ", "b|--",
    "--   ----------", "--"] := by decide

end Box

end EntityDiagram
