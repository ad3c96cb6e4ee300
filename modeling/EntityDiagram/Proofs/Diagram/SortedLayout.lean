import EntityDiagram.Proofs.Diagram.Separators
import Mathlib.Data.List.Sort

/-!
The layout of ports that are sorted by group on both sides. Nothing has to be walked to know it: for
one group after the other, from the lowest to the highest, the labels of the inputs of the group are
paired position by position with the labels of its outputs.
-/

namespace EntityDiagram

namespace Port

/-- Sorted ports of a lowest group stand before all others. -/
theorem filter_append_filter {ports : List Port} {group : Int}
    (sorted : (ports.map Port.group).Pairwise (· ≤ ·))
    (least : ∀ port ∈ ports, group ≤ port.group) :
    ports.filter (·.group = group) ++ ports.filter (·.group ≠ group) = ports := by
  induction ports with
  | nil => rfl
  | cons port ports ih =>
    obtain ⟨lower, sortedLater⟩ := List.pairwise_cons.mp sorted
    have leastLater : ∀ other ∈ ports, group ≤ other.group :=
      fun other member => least other (List.mem_cons_of_mem _ member)
    by_cases same : port.group = group
    · simpa [same] using ih sortedLater leastLater
    · -- The group of the first port has passed the lowest one, so no port behind it has that one.
      have above : ∀ other ∈ port :: ports, other.group ≠ group := by
        intro other member
        have first := least port List.mem_cons_self
        rcases List.mem_cons.mp member with rfl | behind
        · exact same
        · have := lower other.group (List.mem_map_of_mem behind)
          omega
      have none : (port :: ports).filter (·.group = group) = [] :=
        List.filter_eq_nil_iff.mpr fun other member => by simpa using above other member
      have all : (port :: ports).filter (·.group ≠ group) = port :: ports :=
        List.filter_eq_self.mpr fun other member => by simpa using above other member
      rw [none, all, List.nil_append]

/-- Sorted ports are the ports of their groups, one group after the other. -/
theorem flatMap_filter_eq {ports : List Port} {groups : List Int}
    (sorted : (ports.map Port.group).Pairwise (· ≤ ·)) (ascending : groups.Pairwise (· < ·))
    (complete : ∀ port ∈ ports, port.group ∈ groups) :
    groups.flatMap (fun group => ports.filter (·.group = group)) = ports := by
  induction groups generalizing ports with
  | nil =>
    rw [List.flatMap_nil, eq_comm, List.eq_nil_iff_forall_not_mem]
    intro port member
    cases complete port member
  | cons first groups ih =>
    obtain ⟨above, ascendingLater⟩ := List.pairwise_cons.mp ascending
    have least : ∀ port ∈ ports, first ≤ port.group := by
      intro port member
      rcases List.mem_cons.mp (complete port member) with same | behind
      · exact Int.le_of_eq same.symm
      · exact Int.le_of_lt (above port.group behind)
    have sortedLater : ((ports.filter (·.group ≠ first)).map Port.group).Pairwise (· ≤ ·) :=
      sorted.sublist (List.filter_sublist.map Port.group)
    have completeLater : ∀ port ∈ ports.filter (·.group ≠ first), port.group ∈ groups := by
      intro port member
      obtain ⟨portMember, other⟩ := List.mem_filter.mp member
      exact List.mem_of_ne_of_mem (by simpa using other) (complete port portMember)
    have later : groups.flatMap (fun group => ports.filter (·.group = group)) =
        ports.filter (·.group ≠ first) := by
      rw [← ih sortedLater ascendingLater completeLater]
      apply List.flatMap_congr
      intro group member
      rw [List.filter_filter]
      apply List.filter_congr
      intro port _
      have := above group member
      by_cases same : port.group = group
      · have : group ≠ first := by omega
        simp [same, this]
      · simp [same]
    rw [List.flatMap_cons, later, filter_append_filter sorted least]

end Port

namespace Ports

/-- The groups of the ports of both sides, each once, from the lowest to the highest. -/
def ascendingGroups (ports : Ports) : List Int := ports.groups.insertionSort (· ≤ ·)

/-- The ports of one group, on their sides and in order. -/
def ofGroup (ports : Ports) (group : Int) : Ports :=
  ⟨ports.inputs.filter (·.group = group), ports.outputs.filter (·.group = group)⟩

/-- The rows of a group that as many groups precede as the index tells: the labels of its inputs are
    paired with those of its outputs, and an empty row stands before them, except before group zero
    if it is the first one. -/
def groupRows (ports : Ports) (group : Int) (index : Nat) : List Row :=
  (if index = 0 ∧ group = 0 then [] else [Row.empty]) ++ (ports.ofGroup group).rows

/-- The rows of the groups from the lowest to the highest. -/
def groupedLayout (ports : Ports) : List Row :=
  ports.ascendingGroups.zipIdx.flatMap fun place => ports.groupRows place.1 place.2

theorem mem_ascendingGroups {ports : Ports} {group : Int} :
    group ∈ ports.ascendingGroups ↔ ∃ port ∈ ports.members, port.group = group := by
  rw [ascendingGroups, List.mem_insertionSort, mem_groups]

theorem pairwise_ascendingGroups (ports : Ports) : ports.ascendingGroups.Pairwise (· < ·) := by
  have sorted : ports.ascendingGroups.Pairwise (· ≤ ·) :=
    List.pairwise_insertionSort (· ≤ ·) ports.groups
  have distinct : ports.ascendingGroups.Pairwise (· ≠ ·) :=
    (List.perm_insertionSort (· ≤ ·) ports.groups).nodup_iff.mpr (List.nodup_dedup _)
  exact sorted.imp₂ (fun _ _ le ne => lt_of_le_of_ne le ne) distinct

theorem isBlock_ofGroup {ports : Ports} {group : Int}
    (occurs : ∃ port ∈ ports.members, port.group = group) :
    IsBlock group (ports.ofGroup group) where
  nonempty := by
    obtain ⟨port, member, same⟩ := occurs
    apply List.ne_nil_of_mem (a := port)
    simpa [members, ofGroup, same] using member
  sameGroup := by
    intro port member
    rcases mem_members.mp member with input | output
    · exact of_decide_eq_true (List.mem_filter.mp input).2
    · exact of_decide_eq_true (List.mem_filter.mp output).2

/-- The ports of the ascending groups are one block for each. -/
theorem forall₂_isBlock (ports : Ports) :
    List.Forall₂ IsBlock ports.ascendingGroups (ports.ascendingGroups.map ports.ofGroup) := by
  rw [List.forall₂_map_right_iff, List.forall₂_same]
  intro group member
  exact isBlock_ofGroup (mem_ascendingGroups.mp member)

/-- Ports that are sorted on both sides are their blocks, one after the other. -/
theorem concat_ofGroup {ports : Ports}
    (inputs : (ports.inputs.map Port.group).Pairwise (· ≤ ·))
    (outputs : (ports.outputs.map Port.group).Pairwise (· ≤ ·)) :
    concat (ports.ascendingGroups.map ports.ofGroup) = ports := by
  have sides : ∀ groups : List Int, concat (groups.map ports.ofGroup) =
      ⟨groups.flatMap fun group => ports.inputs.filter (·.group = group),
        groups.flatMap fun group => ports.outputs.filter (·.group = group)⟩ := by
    intro groups
    induction groups with
    | nil => rfl
    | cons group groups ih =>
      rw [List.map_cons, concat_cons, ih, List.flatMap_cons, List.flatMap_cons]
      rfl
  have complete : ∀ port ∈ ports.members, port.group ∈ ports.ascendingGroups :=
    fun port member => mem_ascendingGroups.mpr ⟨port, member, rfl⟩
  rw [sides,
    Port.flatMap_filter_eq inputs ports.pairwise_ascendingGroups
      fun port member => complete port (mem_members.mpr (.inl member)),
    Port.flatMap_filter_eq outputs ports.pairwise_ascendingGroups
      fun port member => complete port (mem_members.mpr (.inr member))]

theorem groupRows_zero (ports : Ports) (group : Int) :
    ports.groupRows group 0 =
      (if group = 0 then [] else [Row.empty]) ++ (ports.ofGroup group).rows := by
  simp only [groupRows, true_and]

theorem groupRows_succ (ports : Ports) (group : Int) (index : Nat) :
    ports.groupRows group (index + 1) = Row.empty :: (ports.ofGroup group).rows := by
  simp [groupRows]

/-- Each group behind the first has an empty row before it. -/
theorem flatMap_groupRows_succ (ports : Ports) (groups : List Int) (index : Nat) :
    (groups.zipIdx (index + 1)).flatMap (fun place => ports.groupRows place.1 place.2) =
      (groups.map ports.ofGroup).flatMap fun block => Row.empty :: block.rows := by
  induction groups generalizing index with
  | nil => rfl
  | cons group groups ih =>
    rw [List.zipIdx_cons, List.flatMap_cons, ih, List.map_cons, List.flatMap_cons, groupRows_succ]

/-- Ports that are sorted by group on both sides are laid out group by group. -/
theorem layout_eq_groupedLayout {ports : Ports}
    (inputs : (ports.inputs.map Port.group).Pairwise (· ≤ ·))
    (outputs : (ports.outputs.map Port.group).Pairwise (· ≤ ·)) :
    ports.layout = ports.groupedLayout := by
  have ascending := ports.pairwise_ascendingGroups
  have known := ports.forall₂_isBlock
  have whole := concat_ofGroup inputs outputs
  rw [groupedLayout]
  conv => lhs; rw [← whole]
  cases groups : ports.ascendingGroups with
  | nil => simp [layout, empty, Slot.rowsBehind]
  | cons group later =>
    rw [groups] at ascending known
    obtain ⟨here, knownLater⟩ := List.forall₂_cons.mp known
    rw [List.map_cons, layout_concat_cons here knownLater ascending, List.zipIdx_cons,
      List.flatMap_cons, flatMap_groupRows_succ ports later 0, groupRows_zero, List.append_assoc]

/-- Two inputs and three outputs of sorted groups, one of which is negative. -/
def sortedByGroup : Ports :=
  ⟨[⟨0, "a", false, .input⟩, ⟨7, "b", true, .input⟩],
    [⟨-2, "x", false, .output⟩, ⟨7, "y", false, .output⟩, ⟨7, "z", false, .buffer⟩]⟩

theorem layout_eq_groupedLayout_sortedByGroup :
    (sortedByGroup.inputs.map Port.group).Pairwise (· ≤ ·) ∧
      (sortedByGroup.outputs.map Port.group).Pairwise (· ≤ ·) ∧
      sortedByGroup.layout = sortedByGroup.groupedLayout := by
  have inputs : (sortedByGroup.inputs.map Port.group).Pairwise (· ≤ ·) := by decide
  have outputs : (sortedByGroup.outputs.map Port.group).Pairwise (· ≤ ·) := by decide
  exact ⟨inputs, outputs, layout_eq_groupedLayout inputs outputs⟩

example : sortedByGroup.groupedLayout =
    [⟨"", ""⟩, ⟨"", "x"⟩, ⟨"", ""⟩, ⟨"a", ""⟩, ⟨"", ""⟩, ⟨"b[]", "y"⟩, ⟨"", "z"⟩] := by
  decide

end Ports

end EntityDiagram
