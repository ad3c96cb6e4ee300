import EntityDiagram.Proofs.Diagram.Drawing
import EntityDiagram.Proofs.Text.LetterCase
import Mathlib.Data.List.Forall2

/-!
The case of ASCII letters in a diagram. Names are drawn as they are spelled, so the case of their
letters is seen, but it changes nothing else: the diagram keeps its lines and their lengths.
-/

namespace EntityDiagram

/-- The port with its name in small ASCII letters. -/
def Port.small (port : Port) : Port := { port with name := port.name.toLower }

/-- Two ports that differ at most in the case of ASCII letters of their names. -/
structure Port.SameButCase (port other : Port) : Prop where
  group : port.group = other.group
  name : port.name.toLower = other.name.toLower
  isVector : port.isVector = other.isVector
  direction : port.direction = other.direction

/-- Ports of two entities that differ, one after the other on each side, at most in the case of
    ASCII letters of their names. -/
structure Ports.SameButCase (ports others : Ports) : Prop where
  inputs : List.Forall₂ Port.SameButCase ports.inputs others.inputs
  outputs : List.Forall₂ Port.SameButCase ports.outputs others.outputs

/-- The row with its texts in small ASCII letters. -/
def Row.small (row : Row) : Row := ⟨row.left.toLower, row.right.toLower⟩

/-- The ports with their names in small ASCII letters. -/
def Ports.small (ports : Ports) : Ports :=
  ⟨ports.inputs.map Port.small, ports.outputs.map Port.small⟩

theorem Port.sameButCase_of_small {port other : Port} (same : port.small = other.small) :
    SameButCase port other := by
  rw [small, small, mk.injEq] at same
  obtain ⟨group, name, isVector, direction⟩ := same
  exact ⟨group, name, isVector, direction⟩

theorem Port.forall₂_sameButCase {ports others : List Port}
    (same : ports.map small = others.map small) : List.Forall₂ SameButCase ports others := by
  have pairs : List.Forall₂ (· = ·) (ports.map small) (others.map small) := by
    rwa [List.forall₂_eq_eq_eq]
  rw [List.forall₂_map_left_iff, List.forall₂_map_right_iff] at pairs
  exact pairs.imp fun _ _ => sameButCase_of_small

theorem Ports.sameButCase_of_small {ports others : Ports} (same : ports.small = others.small) :
    SameButCase ports others := by
  rw [small, small, mk.injEq] at same
  exact ⟨Port.forall₂_sameButCase same.1, Port.forall₂_sameButCase same.2⟩

theorem Port.label_small (port : Port) : port.small.label = port.label.toLower := by
  rw [← String.toList_inj]
  cases vector : port.isVector with
  | false => simp [label, small, vector]
  | true => simp [label, small, vector, Text.toList_toLower]

theorem toLower_empty : "".toLower = "" := by
  rw [← String.toList_inj, Text.toList_toLower]
  rfl

theorem Row.small_empty : Row.empty.small = Row.empty := by
  rw [small, empty, toLower_empty]

theorem Row.length_text_small (row : Row) : row.small.text.length = row.text.length := by
  rw [length_text, length_text, small, Text.length_toLower, Text.length_toLower]

theorem Slot.row_map_small (slot : Slot) : (slot.map Port.small).row = slot.row.small := by
  cases slot with
  | left input => rw [map, row, Port.label_small, row, Row.small, toLower_empty]
  | right output => rw [map, row, Port.label_small, row, Row.small, toLower_empty]
  | both input output =>
    rw [map, row, Port.label_small, Port.label_small, row, Row.small]

namespace Ports

theorem layout_small (ports : Ports) : ports.small.layout = ports.layout.map Row.small :=
  layout_map (f := Port.small) (fun _ => rfl) Slot.row_map_small Row.small_empty ports

/-- The lines of a diagram are as long as the rows and their width tell. -/
theorem map_length_diagram {ports : Ports} (words : ∀ port ∈ ports.members, port.HasWordName) :
    ports.diagram.map String.length =
      [2, Row.width ports.layout + 10] ++
        List.replicate ports.layout.length (Row.width ports.layout + 12) ++
        [Row.width ports.layout + 10, 2] := by
  rw [diagram_eq_parts words, Box.map_length_parts]

/-- The case of the letters in the names does not change the lengths of the lines. -/
theorem map_length_diagram_congr {ports others : Ports}
    (words : ∀ port ∈ ports.members, port.HasWordName)
    (otherWords : ∀ port ∈ others.members, port.HasWordName) (same : ports.small = others.small) :
    ports.diagram.map String.length = others.diagram.map String.length := by
  have sameRows : ports.layout.map Row.small = others.layout.map Row.small := by
    rw [← layout_small, ← layout_small, same]
  have sameWidth : Row.width ports.layout = Row.width others.layout := by
    rw [← Row.width_map Row.length_text_small, sameRows, Row.width_map Row.length_text_small]
  have sameCount : ports.layout.length = others.layout.length := by
    rw [← List.length_map Row.small, sameRows, List.length_map]
  rw [map_length_diagram words, map_length_diagram otherWords, sameWidth, sameCount]

end Ports

end EntityDiagram
