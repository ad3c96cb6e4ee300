import EntityDiagram.Diagram.Box
import EntityDiagram.Port.Basic

/-!
The diagram of an entity: its ports, laid out in rows, in a box. Both sides are walked in order of
declaration: two ports at the front that are of one group share a slot, otherwise the port of the
lower group has a slot of its own. An empty row stands wherever the group changes from one slot to
the next, and before the first slot if its group is not zero.
-/

namespace EntityDiagram

/-- What a row shows: a port on one side, or two ports of one group on both. -/
inductive Slot where
  | left (input : Port)
  | right (output : Port)
  | both (input output : Port)
  deriving DecidableEq, Repr

namespace Slot

/-- The group of a slot. -/
def group : Slot → Int
  | left input => input.group
  | right output => output.group
  | both input _ => input.group

/-- A slot as a row of labels. -/
def row : Slot → Row
  | left input => ⟨input.label, ""⟩
  | right output => ⟨"", output.label⟩
  | both input output => ⟨input.label, output.label⟩

/-- The slots that two sequences of ports fill. -/
def ofPorts : (inputs outputs : List Port) → List Slot
  | [], [] => []
  | input :: inputs, [] => left input :: ofPorts inputs []
  | [], output :: outputs => right output :: ofPorts [] outputs
  | input :: inputs, output :: outputs =>
    if input.group = output.group then both input output :: ofPorts inputs outputs
    else if input.group < output.group then left input :: ofPorts inputs (output :: outputs)
    else right output :: ofPorts (input :: inputs) outputs
  termination_by inputs outputs => inputs.length + outputs.length

/-- The rows of slots that stand behind a slot of a group. -/
def rowsBehind (group : Int) : List Slot → List Row
  | [] => []
  | slot :: slots =>
    if slot.group = group then slot.row :: rowsBehind group slots
    else Row.empty :: slot.row :: rowsBehind slot.group slots

@[simp] theorem ofPorts_nil : ofPorts [] [] = [] := by
  simp [ofPorts]

end Slot

/-- The rows of a diagram of ports. -/
def Ports.layout (ports : Ports) : List Row :=
  Slot.rowsBehind 0 (Slot.ofPorts ports.inputs ports.outputs)

/-- The lines of the diagram of an entity's ports. -/
def Ports.diagram (ports : Ports) : List String := Box.lines ports.layout

end EntityDiagram
