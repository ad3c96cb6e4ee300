import EntityDiagram.Proofs.Diagram.Drawing
import Mathlib.Order.Monotone.Basic

/-!
The numbers of the groups in a layout. All that depends on a number itself is the empty row before
the first port, which stands there unless the first group is zero; the rows behind it depend on the
order of the groups only. So the groups can be renumbered in the same order, and ports of higher
groups are laid out behind all others as they are without them.
-/

namespace EntityDiagram

namespace Slot

/-- The rows of slots, with no empty row before the first one. -/
def rows : List Slot → List Row
  | [] => []
  | slot :: slots => slot.row :: rowsBehind slot.group slots

/-- Behind a group an empty row stands before the first slot, unless the slot goes on with the
    group. -/
theorem rowsBehind_eq_append_rows (before : Int) (slots : List Slot) :
    rowsBehind before slots =
      (if (slots.head?.map group).all (· = before) then [] else [Row.empty]) ++ rows slots := by
  cases slots with
  | nil => rfl
  | cons slot slots =>
    by_cases same : slot.group = before
    · simp [rowsBehind, rows, same]
    · simp [rowsBehind, rows, same]

theorem rowsBehind_of_ne {before : Int} {slots : List Slot} (nonempty : slots ≠ [])
    (apart : ∀ slot ∈ slots, slot.group ≠ before) :
    rowsBehind before slots = [Row.empty] ++ rows slots := by
  obtain ⟨slot, slots, rfl⟩ := List.exists_cons_of_ne_nil nonempty
  have other := apart slot List.mem_cons_self
  simp [rowsBehind, rows, other]

/-- Slots behind slots of other groups have an empty row before them, and nothing else of what
    stands before them has an influence on their rows. -/
theorem rowsBehind_append_rows (before : Int) {slots later : List Slot} (nonempty : slots ≠ [])
    (laterNonempty : later ≠ [])
    (apart : ∀ slot ∈ slots, ∀ other ∈ later, other.group ≠ slot.group) :
    rowsBehind before (slots ++ later) =
      rowsBehind before slots ++ ([Row.empty] ++ rows later) := by
  induction slots generalizing before with
  | nil => exact absurd rfl nonempty
  | cons slot slots ih =>
    have behind : rowsBehind slot.group (slots ++ later) =
        rowsBehind slot.group slots ++ ([Row.empty] ++ rows later) := by
      by_cases last : slots = []
      · rw [last]
        exact rowsBehind_of_ne laterNonempty (apart slot List.mem_cons_self)
      · exact ih slot.group last fun other member => apart other (List.mem_cons_of_mem _ member)
    rw [List.cons_append, rowsBehind_eq_append_rows, rows, behind,
      rowsBehind_eq_append_rows before (slot :: slots), rows, List.append_assoc, List.cons_append]
    rfl

/-- Renumbered groups do not change the rows. -/
theorem rows_map {f : Slot → Slot} {h : Int → Int} (apart : Function.Injective h)
    (groups : ∀ slot, (f slot).group = h slot.group) (same : ∀ slot, (f slot).row = slot.row)
    (slots : List Slot) : rows (slots.map f) = rows slots := by
  cases slots with
  | nil => rfl
  | cons slot slots =>
    have behind : rowsBehind (h slot.group) (slots.map f) =
        (rowsBehind slot.group slots).map id :=
      rowsBehind_map apart rfl (fun other _ => groups other) (fun other _ => same other) slot.group
    rw [List.map_cons, rows, rows, groups, same, behind, List.map_id]

end Slot

/-- The port with its group renumbered. -/
def Port.regroup (f : Int → Int) (port : Port) : Port := { port with group := f port.group }

theorem Slot.row_map_regroup (f : Int → Int) (slot : Slot) :
    (slot.map (Port.regroup f)).row = slot.row := by
  cases slot <;> rfl

namespace Ports

/-- The group that a layout begins with: the lower one of the first groups on both sides, or the
    only one. -/
def firstGroup? (ports : Ports) : Option Int :=
  match ports.inputs, ports.outputs with
  | [], [] => none
  | input :: _, [] => some input.group
  | [], output :: _ => some output.group
  | input :: _, output :: _ => some (min input.group output.group)

/-- The empty row before the first port, unless the group of that port is zero. -/
def lead (ports : Ports) : List Row :=
  if ports.firstGroup?.all (· = 0) then [] else [Row.empty]

/-- The ports with their groups renumbered. -/
def regroup (f : Int → Int) (ports : Ports) : Ports :=
  ⟨ports.inputs.map (Port.regroup f), ports.outputs.map (Port.regroup f)⟩

theorem map_group_head?_ofPorts (inputs outputs : List Port) :
    (Slot.ofPorts inputs outputs).head?.map Slot.group = firstGroup? ⟨inputs, outputs⟩ := by
  fun_cases Slot.ofPorts inputs outputs with
  | case1 => rfl
  | case2 input inputs => rfl
  | case3 output outputs => rfl
  | case4 input inputs output outputs same =>
    have lower : min input.group output.group = input.group := min_eq_left (Int.le_of_eq same)
    exact congrArg some lower.symm
  | case5 input inputs output outputs apart less =>
    have lower : min input.group output.group = input.group := min_eq_left (Int.le_of_lt less)
    exact congrArg some lower.symm
  | case6 input inputs output outputs apart noLess =>
    have lower : min input.group output.group = output.group :=
      min_eq_right (Int.not_lt.mp noLess)
    exact congrArg some lower.symm

/-- A layout is the rows of the slots behind the empty row that the first group asks for. -/
theorem layout_eq_lead_append_rows (ports : Ports) :
    ports.layout = ports.lead ++ Slot.rows (Slot.ofPorts ports.inputs ports.outputs) := by
  rw [layout, Slot.rowsBehind_eq_append_rows, map_group_head?_ofPorts, lead]

/-- Ports of higher groups leave the rows before them as they are, and behind one empty row they are
    laid out as they are alone, but for the empty row that their first group asks for there. -/
theorem exists_layout_append {first second : Ports} (nonempty : first.members ≠ [])
    (laterNonempty : second.members ≠ [])
    (ordered : ∀ port ∈ first.members, ∀ later ∈ second.members, port.group < later.group) :
    ∃ rest, second.layout = second.lead ++ rest ∧
      (first ++ second).layout = first.layout ++ ([Row.empty] ++ rest) := by
  have apart : ∀ slot ∈ Slot.ofPorts first.inputs first.outputs,
      ∀ other ∈ Slot.ofPorts second.inputs second.outputs, other.group ≠ slot.group := by
    intro slot member other otherMember
    obtain ⟨port, portMember, same⟩ := Slot.exists_group_of_mem_ofPorts member
    obtain ⟨later, laterMember, otherSame⟩ := Slot.exists_group_of_mem_ofPorts otherMember
    rw [same, otherSame]
    exact Int.ne_of_gt (ordered port portMember later laterMember)
  refine ⟨Slot.rows (Slot.ofPorts second.inputs second.outputs),
    layout_eq_lead_append_rows second, ?_⟩
  rw [layout, inputs_append, outputs_append, Slot.ofPorts_append ordered,
    Slot.rowsBehind_append_rows 0 (Slot.ofPorts_ne_nil nonempty)
      (Slot.ofPorts_ne_nil laterNonempty) apart, layout]

/-- Inputs and an output of the groups one and zero. -/
def lowGroups : Ports :=
  ⟨[⟨1, "a", false, .input⟩, ⟨0, "b", true, .input⟩], [⟨0, "x", false, .output⟩]⟩

/-- Outputs of two groups above one, the higher one first. -/
def highGroups : Ports := ⟨[], [⟨7, "y", false, .output⟩, ⟨2, "z", false, .buffer⟩]⟩

theorem exists_layout_append_lowGroups :
    lowGroups.members ≠ [] ∧ highGroups.members ≠ [] ∧
      (∀ port ∈ lowGroups.members, ∀ later ∈ highGroups.members, port.group < later.group) ∧
      ∃ rest, highGroups.layout = highGroups.lead ++ rest ∧
        (lowGroups ++ highGroups).layout = lowGroups.layout ++ ([Row.empty] ++ rest) := by
  have nonempty : lowGroups.members ≠ [] := by decide
  have laterNonempty : highGroups.members ≠ [] := by decide
  have ordered : ∀ port ∈ lowGroups.members, ∀ later ∈ highGroups.members,
      port.group < later.group := by decide
  exact ⟨nonempty, laterNonempty, ordered, exists_layout_append nonempty laterNonempty ordered⟩

/-! ### Renumbered groups -/

section Renumbered

variable {f : Int → Int} (increasing : ∀ ⦃group other : Int⦄, group < other → f group < f other)

include increasing

theorem ofPorts_regroup (ports : Ports) :
    Slot.ofPorts (ports.regroup f).inputs (ports.regroup f).outputs =
      (Slot.ofPorts ports.inputs ports.outputs).map (Slot.map (Port.regroup f)) :=
  Slot.ofPorts_map (fun _ _ => (StrictMono.injective increasing).eq_iff)
    (fun _ _ => StrictMono.lt_iff_lt increasing) ports.inputs ports.outputs

/-- Where zero keeps its number, no row is changed. -/
theorem layout_regroup_of_zero (zero : f 0 = 0) (ports : Ports) :
    (ports.regroup f).layout = ports.layout := by
  have rows : Slot.rowsBehind (f 0)
      ((Slot.ofPorts ports.inputs ports.outputs).map (Slot.map (Port.regroup f))) =
        ports.layout.map id :=
    Slot.rowsBehind_map (StrictMono.injective increasing) rfl
      (fun slot _ => Slot.group_map (fun _ => rfl) slot)
      (fun slot _ => Slot.row_map_regroup f slot) 0
  rw [zero, List.map_id] at rows
  rw [layout, ofPorts_regroup increasing, rows]

theorem rows_regroup (ports : Ports) :
    Slot.rows (Slot.ofPorts (ports.regroup f).inputs (ports.regroup f).outputs) =
      Slot.rows (Slot.ofPorts ports.inputs ports.outputs) := by
  rw [ofPorts_regroup increasing]
  exact Slot.rows_map (StrictMono.injective increasing) (Slot.group_map fun _ => rfl)
    (Slot.row_map_regroup f) _

/-- Nothing but the order of the groups and the labels of the ports enters a layout: groups that are
    renumbered in the same order change at most the empty row before the first port, and not even
    that if zero keeps its number, and ports with the same groups and labels can be exchanged. -/
theorem layout_regroup_and_congr (ports : Ports) :
    (f 0 = 0 → (ports.regroup f).layout = ports.layout) ∧
      (∃ rest, ports.layout = ports.lead ++ rest ∧
        (ports.regroup f).layout = (ports.regroup f).lead ++ rest) ∧
      ∀ others : Ports, others.inputs.map Port.drawn = ports.inputs.map Port.drawn →
        others.outputs.map Port.drawn = ports.outputs.map Port.drawn →
        others.layout = ports.layout := by
  refine ⟨fun zero => layout_regroup_of_zero increasing zero ports, ?_, ?_⟩
  · refine ⟨Slot.rows (Slot.ofPorts ports.inputs ports.outputs),
      layout_eq_lead_append_rows ports, ?_⟩
    rw [layout_eq_lead_append_rows, rows_regroup increasing]
  · intro others inputs outputs
    exact layout_congr inputs outputs

end Renumbered

/-- The ports of `lowGroups` with other names and directions, but with the same labels. -/
def sameLabels : Ports :=
  ⟨[⟨1, "a", false, .buffer⟩, ⟨0, "b[]", false, .input⟩], [⟨0, "x", false, .bidirectional⟩]⟩

theorem layout_regroup_and_congr_lowGroups :
    (∀ ⦃group other : Int⦄, group < other → 3 * group < 3 * other) ∧
      (lowGroups.regroup fun group => 3 * group).layout = lowGroups.layout ∧
      (∃ rest, lowGroups.layout = lowGroups.lead ++ rest ∧
        (lowGroups.regroup fun group => 3 * group).layout =
          (lowGroups.regroup fun group => 3 * group).lead ++ rest) ∧
      sameLabels.inputs.map Port.drawn = lowGroups.inputs.map Port.drawn ∧
      sameLabels.outputs.map Port.drawn = lowGroups.outputs.map Port.drawn ∧
      sameLabels.layout = lowGroups.layout := by
  have increasing : ∀ ⦃group other : Int⦄, group < other → 3 * group < 3 * other := by
    intro group other less
    omega
  have inputs : sameLabels.inputs.map Port.drawn = lowGroups.inputs.map Port.drawn := by decide
  have outputs : sameLabels.outputs.map Port.drawn = lowGroups.outputs.map Port.drawn := by decide
  obtain ⟨same, split, labels⟩ :=
    layout_regroup_and_congr (f := fun group => 3 * group) increasing lowGroups
  exact ⟨increasing, same rfl, split, inputs, outputs, labels sameLabels inputs outputs⟩

/-- Groups that are lowered from zero on have an empty row before them. -/
example : (lowGroups.regroup (· - 4)).layout = Row.empty :: lowGroups.layout := by decide +kernel

end Ports

end EntityDiagram
