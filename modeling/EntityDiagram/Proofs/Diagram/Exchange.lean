import EntityDiagram.Proofs.Diagram.Drawing
import EntityDiagram.Proofs.Text.Pieces

/-!
The exchange of the two sides. Both sides of a diagram are laid out alike: with inputs and outputs
exchanged, each row has its sides exchanged, and nothing else is changed. So the box keeps its width
and its borders, and, because the gap of a row keeps the breaks of its sides apart, as many lines.
-/

namespace EntityDiagram

namespace Row

theorem swap_empty : empty.swap = empty := rfl

theorem isSeparator_swap (row : Row) : row.swap.isSeparator = row.isSeparator :=
  Bool.and_comm _ _

theorem length_text_swap (row : Row) : row.swap.text.length = row.text.length := by
  rw [length_text, length_text, swap, Nat.add_comm row.right.length]

end Row

namespace Slot

/-- A slot with its sides exchanged. -/
def swap : Slot → Slot
  | left input => right input
  | right output => left output
  | both input output => both output input

theorem row_swap (slot : Slot) : slot.swap.row = slot.row.swap := by
  cases slot <;> rfl

/-- Exchanged sides fill the same slots with their sides exchanged. -/
theorem ofPorts_swap (inputs outputs : List Port) :
    ofPorts outputs inputs = (ofPorts inputs outputs).map swap := by
  -- The order of the tests shows only for ports of equal groups, and these share a slot.
  fun_induction ofPorts inputs outputs with
  | case1 => simp
  | case2 input inputs ih => rw [ofPorts, ih, List.map_cons, swap]
  | case3 output outputs ih => rw [ofPorts, ih, List.map_cons, swap]
  | case4 input inputs output outputs same ih =>
    rw [ofPorts, if_pos same.symm, ih, List.map_cons, swap]
  | case5 input inputs output outputs apart less ih =>
    have noLess : ¬ output.group < input.group := by omega
    rw [ofPorts, if_neg (Ne.symm apart), if_neg noLess, ih, List.map_cons, swap]
  | case6 input inputs output outputs apart noLess ih =>
    have less : output.group < input.group := by omega
    rw [ofPorts, if_neg (Ne.symm apart), if_pos less, ih, List.map_cons, swap]

theorem group_swap_of_mem_ofPorts {inputs outputs : List Port} {slot : Slot}
    (member : slot ∈ ofPorts inputs outputs) : slot.swap.group = slot.group := by
  cases slot with
  | left input => rfl
  | right output => rfl
  | both input output => exact (group_eq_of_mem_ofPorts member).symm

end Slot

namespace Box

/-- A row has one line more on a display than its sides have breaks. -/
theorem length_displayLines_rowLine {width : Nat} {row : Row} (fits : row.text.length ≤ width) :
    (Text.displayLines (rowLine width row)).length =
      Text.countBreaks Text.isDisplayBreak row.left.toList +
        Text.countBreaks Text.isDisplayBreak row.right.toList + 1 := by
  have cut := @Text.countBreaks_append_append Text.isDisplayBreak rfl rfl
  have leftEdge : ∀ c ∈ "-- --|".toList, Text.isDisplayBreak c = false :=
    fun c => isDisplayBreak_of_frame (by decide)
  have rightEdge : ∀ c ∈ "|--".toList, Text.isDisplayBreak c = false :=
    fun c => isDisplayBreak_of_frame (by decide)
  have gapPlain : ∀ c ∈ List.replicate (width + leastGap - row.text.length) ' ',
      Text.isDisplayBreak c = false := fun c => isDisplayBreak_of_mem_replicate (by decide)
  have gapNonempty : List.replicate (width + leastGap - row.text.length) ' ' ≠ [] := by
    rw [Ne, List.replicate_eq_nil_iff, leastGap]
    omega
  have line : (rowLine width row).toList = [] ++ ("-- --|".toList ++ (row.left.toList ++
      (List.replicate (width + leastGap - row.text.length) ' ' ++
        (row.right.toList ++ ("|--".toList ++ []))))) := by
    rw [toList_rowLine, toList_content, List.append_nil, List.nil_append, List.append_assoc,
      List.append_assoc]
  have nothing : Text.countBreaks Text.isDisplayBreak [] = 0 := rfl
  rw [Text.length_displayLines (getLast?_rowLine width row) (by decide), line,
    cut [] (by decide) leftEdge, cut _ gapNonempty gapPlain, cut _ (by decide) rightEdge, nothing]
  omega

theorem length_displayLines_rowLine_swap {width : Nat} {row : Row}
    (fits : row.text.length ≤ width) :
    (Text.displayLines (rowLine width row.swap)).length =
      (Text.displayLines (rowLine width row)).length := by
  have fitsSwap : row.swap.text.length ≤ width := by rwa [Row.length_text_swap]
  rw [length_displayLines_rowLine fits, length_displayLines_rowLine fitsSwap, Row.swap,
    Nat.add_comm (Text.countBreaks _ row.left.toList)]

/-- A box keeps the number of its lines when the sides of its rows are exchanged. -/
theorem length_lines_map_swap (rows : List Row) :
    (lines (rows.map Row.swap)).length = (lines rows).length := by
  have sameLengths :
      rows.map (fun row => (Text.displayLines (rowLine (Row.width rows) row.swap)).length) =
        rows.map fun row => (Text.displayLines (rowLine (Row.width rows) row)).length :=
    List.map_congr_left fun row member =>
      length_displayLines_rowLine_swap (Row.length_text_le_width member)
  rw [lines_eq_cons, lines_eq_cons, Row.width_map Row.length_text_swap, List.flatMap_map]
  simp only [List.length_append, List.length_flatMap, sameLengths]

end Box

namespace Ports

/-- The layout of exchanged sides has the sides of its rows exchanged. -/
theorem layout_swap (ports : Ports) : ports.swap.layout = ports.layout.map Row.swap := by
  rw [layout, swap, Slot.ofPorts_swap]
  exact Slot.rowsBehind_map Function.injective_id Row.swap_empty
    (fun slot member => Slot.group_swap_of_mem_ofPorts member) (fun slot _ => Slot.row_swap slot) 0

/-- Both sides are treated alike: with inputs and outputs exchanged, each row has its sides
    exchanged, empty rows stand where they did, and the diagram keeps its width, its borders and the
    number of its lines. -/
theorem layout_swap_and_diagram_swap (ports : Ports) :
    let edge := Box.border (Row.width ports.layout)
    ports.swap.layout = ports.layout.map Row.swap ∧
      ports.swap.layout.map Row.isSeparator = ports.layout.map Row.isSeparator ∧
      Row.width ports.swap.layout = Row.width ports.layout ∧
      ports.swap.diagram.length = ports.diagram.length ∧
      ∃ inside otherInside,
        ports.diagram = ["--", edge] ++ inside ++ [edge, "--"] ∧
        ports.swap.diagram = ["--", edge] ++ otherInside ++ [edge, "--"] := by
  intro edge
  have rows := layout_swap ports
  have sameWidth : Row.width ports.swap.layout = Row.width ports.layout := by
    rw [rows, Row.width_map Row.length_text_swap]
  have otherDrawn := Box.lines_eq_cons ports.swap.layout
  rw [sameWidth] at otherDrawn
  refine ⟨rows, ?_, sameWidth, ?_, _, _, Box.lines_eq_cons ports.layout, otherDrawn⟩
  · rw [rows, List.map_map]
    exact List.map_congr_left fun row _ => Row.isSeparator_swap row
  · rw [diagram, rows, Box.length_lines_map_swap, diagram]

/-- Labels with breaks take more than one line, on either side. -/
example : (Ports.diagram ⟨[⟨0, "a\r", false, .input⟩], [⟨0, "\nb", false, .output⟩]⟩).length = 7 ∧
    (Ports.diagram ⟨[⟨0, "\nb", false, .output⟩], [⟨0, "a\r", false, .input⟩]⟩).length = 7 := by
  decide +kernel

end Ports

end EntityDiagram
