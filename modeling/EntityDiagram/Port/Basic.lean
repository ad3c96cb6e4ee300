import EntityDiagram.Text.Lower

/-!
Ports of an entity, and the two sequences that they are kept in: the inputs and all others. The
order within each sequence is the order of declaration.

The direction of a port is written as a keyword in any case; which keyword it is decides its
lower-case form, and a keyword that lower-cases to no direction is unknown.
-/

namespace EntityDiagram

/-- The direction of a port, in the order in which the language lists the modes. -/
inductive Direction where
  | input
  | output
  | bidirectional
  | buffer
  deriving DecidableEq, Repr

namespace Direction

/-- The keyword of a direction, letter by letter. -/
def letters : Direction → List Char
  | input => ['i', 'n']
  | output => ['o', 'u', 't']
  | bidirectional => ['i', 'n', 'o', 'u', 't']
  | buffer => ['b', 'u', 'f', 'f', 'e', 'r']

/-- The keyword of a direction. -/
def keyword (direction : Direction) : String := String.ofList direction.letters

/-- All directions. -/
def all : List Direction := [input, output, bidirectional, buffer]

/-- The direction with a keyword, if there is one. -/
def ofKeyword? (keyword : String) : Option Direction :=
  all.find? (·.keyword == Text.lower keyword)

/-- Whether ports of this direction stand on the input side of a diagram. All others, also those
    that can be read as well, stand on the output side. -/
def isInput : Direction → Bool
  | input => true
  | _ => false

theorem mem_all (direction : Direction) : direction ∈ all := by
  cases direction <;> simp [all]

theorem isInput_iff {direction : Direction} : direction.isInput = true ↔ direction = input := by
  cases direction <;> simp [isInput]

end Direction

/-- A port. `group` numbers the blocks of declarations that blank lines set apart. -/
structure Port where
  group : Int
  name : String
  isVector : Bool
  direction : Direction
  deriving DecidableEq, Repr

namespace Port

/-- The name as a diagram shows it: brackets mark a vector. -/
def label (port : Port) : String := if port.isVector then port.name ++ "[]" else port.name

/-- The port as messages show it: the group and the label. -/
def describe (port : Port) : String := toString port.group ++ "~" ++ port.label

end Port

/-- The ports of an entity: `inputs` for the left side of the diagram, `outputs` for the right. -/
structure Ports where
  inputs : List Port
  outputs : List Port
  deriving DecidableEq, Repr

namespace Ports

/-- No ports. -/
def empty : Ports := ⟨[], []⟩

/-- How many ports there are on both sides. -/
def count (ports : Ports) : Nat := ports.inputs.length + ports.outputs.length

/-- One more port, last on the side where its direction puts it. -/
def add (ports : Ports) (port : Port) : Ports :=
  if port.direction.isInput then { ports with inputs := ports.inputs ++ [port] }
  else { ports with outputs := ports.outputs ++ [port] }

/-- The ports of two entities on their sides, one after the other. The groups stay as they are. -/
def append (first second : Ports) : Ports :=
  ⟨first.inputs ++ second.inputs, first.outputs ++ second.outputs⟩

instance : Append Ports := ⟨append⟩

/-- The same ports with the sides exchanged. -/
def swap (ports : Ports) : Ports := ⟨ports.outputs, ports.inputs⟩

@[simp] theorem count_add (ports : Ports) (port : Port) :
    (ports.add port).count = ports.count + 1 := by
  unfold add count
  split <;> simp <;> omega

end Ports

end EntityDiagram
