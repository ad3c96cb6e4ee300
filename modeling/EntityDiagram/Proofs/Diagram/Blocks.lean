import EntityDiagram.Diagram.Layout
import Mathlib.Data.List.Forall2

/-!
The layout of ports that come in blocks, each with higher groups than the one before it. Blocks are
laid out apart: the slots of the whole are the slots of the blocks, one block after the other. A
block of one group pairs the labels of its sides position by position, and blocks whose groups count
up from zero have exactly one empty row between them.
-/

namespace EntityDiagram

namespace Row

/-- The rows of two sides that are paired position by position. The shorter side is filled up with
    empty text. -/
def pairs : (lefts rights : List String) → List Row
  | [], rights => rights.map fun right => ⟨"", right⟩
  | left :: lefts, [] => ⟨left, ""⟩ :: pairs lefts []
  | left :: lefts, right :: rights => ⟨left, right⟩ :: pairs lefts rights

theorem lefts_pairs {lefts : List String} (nonempty : ∀ text ∈ lefts, text ≠ "")
    (rights : List String) : ((pairs lefts rights).map left).filter (· != "") = lefts := by
  fun_induction pairs lefts rights with
  | case1 rights => simp
  | case2 text lefts ih =>
    have first := nonempty text (by simp)
    simpa [first] using ih fun other member => nonempty other (by simp [member])
  | case3 text lefts right rights ih =>
    have first := nonempty text (by simp)
    simpa [first] using ih fun other member => nonempty other (by simp [member])

theorem rights_pairs (lefts : List String) {rights : List String}
    (nonempty : ∀ text ∈ rights, text ≠ "") :
    ((pairs lefts rights).map right).filter (· != "") = rights := by
  fun_induction pairs lefts rights with
  | case1 rights =>
    have same : (rights.map fun text => (⟨"", text⟩ : Row)).map right = rights := by
      simp [Function.comp_def]
    rw [same, List.filter_eq_self]
    simpa using nonempty
  | case2 text lefts ih => simpa using ih nonempty
  | case3 left lefts text rights ih =>
    have first := nonempty text (by simp)
    simpa [first] using ih fun other member => nonempty other (by simp [member])

/-- Both sides can be read off the rows if no text is empty. -/
theorem pairs_injective {lefts rights otherLefts otherRights : List String}
    (nonempty : ∀ text ∈ lefts ++ rights, text ≠ "")
    (otherNonempty : ∀ text ∈ otherLefts ++ otherRights, text ≠ "")
    (same : pairs lefts rights = pairs otherLefts otherRights) :
    lefts = otherLefts ∧ rights = otherRights := by
  obtain ⟨leftTexts, rightTexts⟩ := List.forall_mem_append.mp nonempty
  obtain ⟨otherLeftTexts, otherRightTexts⟩ := List.forall_mem_append.mp otherNonempty
  constructor
  · rw [← lefts_pairs leftTexts rights, same, lefts_pairs otherLeftTexts otherRights]
  · rw [← rights_pairs lefts rightTexts, same, rights_pairs otherLefts otherRightTexts]

/-- No row of non-empty texts is empty. -/
theorem empty_not_mem_pairs {lefts rights : List String}
    (nonempty : ∀ text ∈ lefts ++ rights, text ≠ "") : empty ∉ pairs lefts rights := by
  fun_induction pairs lefts rights with
  | case1 rights =>
    intro member
    obtain ⟨text, textMember, same⟩ := List.mem_map.mp member
    exact nonempty text (by simpa using textMember) (congrArg right same)
  | case2 text lefts ih =>
    have first := nonempty text (by simp)
    have later := ih fun other member => nonempty other (by grind)
    rw [List.mem_cons, not_or]
    exact ⟨fun same => first (congrArg left same).symm, later⟩
  | case3 text lefts right rights ih =>
    have first := nonempty text (by simp)
    have later := ih fun other member => nonempty other (by grind)
    rw [List.mem_cons, not_or]
    exact ⟨fun same => first (congrArg left same).symm, later⟩

theorem pairs_ne_nil {lefts rights : List String} (nonempty : lefts ++ rights ≠ []) :
    pairs lefts rights ≠ [] := by
  fun_cases pairs lefts rights with
  | case1 => simpa using nonempty
  | case2 text lefts => simp
  | case3 text lefts right rights => simp

end Row

namespace Ports

/-- All ports of both sides. -/
def members (ports : Ports) : List Port := ports.inputs ++ ports.outputs

/-- The ports of blocks, one block after the other. -/
def concat (blocks : List Ports) : Ports := blocks.foldr (· ++ ·) empty

/-- The rows of a block of one group. -/
def rows (block : Ports) : List Row :=
  Row.pairs (block.inputs.map Port.label) (block.outputs.map Port.label)

/-- Blocks whose groups count up from `first`, each of one group and with a port in it. -/
inductive Numbered : (first : Int) → List Ports → Prop
  | nil (first : Int) : Numbered first []
  | cons {first : Int} {block : Ports} {blocks : List Ports} (nonempty : block.members ≠ [])
      (sameGroup : ∀ port ∈ block.members, port.group = first)
      (later : Numbered (first + 1) blocks) : Numbered first (block :: blocks)

@[simp] theorem inputs_append (first second : Ports) :
    (first ++ second).inputs = first.inputs ++ second.inputs := rfl

@[simp] theorem outputs_append (first second : Ports) :
    (first ++ second).outputs = first.outputs ++ second.outputs := rfl

theorem append_empty (ports : Ports) : ports ++ empty = ports := by
  show Ports.mk _ _ = ports
  simp [empty]

theorem append_assoc (first second third : Ports) :
    first ++ second ++ third = first ++ (second ++ third) := by
  show Ports.mk _ _ = Ports.mk _ _
  simp

@[simp] theorem concat_nil : concat [] = empty := rfl

@[simp] theorem concat_cons (block : Ports) (blocks : List Ports) :
    concat (block :: blocks) = block ++ concat blocks := rfl

theorem concat_append (first second : List Ports) :
    concat (first ++ second) = concat first ++ concat second := by
  induction first with
  | nil => rfl
  | cons block first ih => rw [List.cons_append, concat_cons, concat_cons, ih, append_assoc]

theorem mem_members {ports : Ports} {port : Port} :
    port ∈ ports.members ↔ port ∈ ports.inputs ∨ port ∈ ports.outputs := List.mem_append

theorem mem_members_append {first second : Ports} {port : Port} :
    port ∈ (first ++ second).members ↔ port ∈ first.members ∨ port ∈ second.members := by
  simp only [mem_members, inputs_append, outputs_append, List.mem_append]
  constructor
  · rintro ((h | h) | (h | h)) <;> simp [h]
  · rintro ((h | h) | (h | h)) <;> simp [h]

/-- Numbered blocks have no groups below the first number. -/
theorem Numbered.le_group {first : Int} {blocks : List Ports} (numbered : Numbered first blocks) :
    ∀ port ∈ (concat blocks).members, first ≤ port.group := by
  induction numbered with
  | nil first =>
    intro port member
    simp [members, empty] at member
  | cons nonempty sameGroup later ih =>
    intro port member
    rw [concat_cons, mem_members_append] at member
    rcases member with here | behind
    · exact Int.le_of_eq (sameGroup port here).symm
    · have := ih port behind
      omega

end Ports

namespace Slot

/-- The port on the left side of a slot, if there is one. -/
def input? : Slot → Option Port
  | left input => some input
  | right _ => none
  | both input _ => some input

/-- The port on the right side of a slot, if there is one. -/
def output? : Slot → Option Port
  | left _ => none
  | right output => some output
  | both _ output => some output

/-- Ports of higher groups fill slots of their own behind all others. -/
theorem ofPorts_append {inputs outputs laterInputs laterOutputs : List Port}
    (ordered : ∀ port ∈ inputs ++ outputs, ∀ later ∈ laterInputs ++ laterOutputs,
      port.group < later.group) :
    ofPorts (inputs ++ laterInputs) (outputs ++ laterOutputs) =
      ofPorts inputs outputs ++ ofPorts laterInputs laterOutputs := by
  -- When one side is used up, the later ports on it are compared with what is left on the other.
  fun_induction ofPorts inputs outputs with
  | case1 => rfl
  | case2 input inputs ih =>
    have behind := ih fun port member => ordered port (by grind)
    cases laterOutputs with
    | nil => simpa [ofPorts] using behind
    | cons output laterOutputs =>
      have below := ordered input (by simp) output (by simp)
      have apart : input.group ≠ output.group := by omega
      simpa [ofPorts, apart, below] using behind
  | case3 output outputs ih =>
    have behind := ih fun port member => ordered port (by grind)
    cases laterInputs with
    | nil => simpa [ofPorts] using behind
    | cons input laterInputs =>
      have below := ordered output (by simp) input (by simp)
      have apart : input.group ≠ output.group := by omega
      have noLess : ¬ input.group < output.group := by omega
      simpa [ofPorts, apart, noLess] using behind
  | case4 input inputs output outputs same ih =>
    have behind := ih fun port member => ordered port (by grind)
    simpa [ofPorts, same] using behind
  | case5 input inputs output outputs apart less ih =>
    have behind := ih fun port member => ordered port (by grind)
    simpa [ofPorts, apart, less] using behind
  | case6 input inputs output outputs apart noLess ih =>
    have behind := ih fun port member => ordered port (by grind)
    simpa [ofPorts, apart, noLess] using behind

/-- Every input stands in one slot, in order. -/
theorem filterMap_input?_ofPorts (inputs outputs : List Port) :
    (ofPorts inputs outputs).filterMap input? = inputs := by
  fun_induction ofPorts inputs outputs with
  | case1 => rfl
  | case2 input inputs ih => exact congrArg (input :: ·) ih
  | case3 output outputs ih => exact ih
  | case4 input inputs output outputs same ih => exact congrArg (input :: ·) ih
  | case5 input inputs output outputs apart less ih => exact congrArg (input :: ·) ih
  | case6 input inputs output outputs apart noLess ih => exact ih

/-- Every output stands in one slot, in order. -/
theorem filterMap_output?_ofPorts (inputs outputs : List Port) :
    (ofPorts inputs outputs).filterMap output? = outputs := by
  fun_induction ofPorts inputs outputs with
  | case1 => rfl
  | case2 input inputs ih => exact ih
  | case3 output outputs ih => exact congrArg (output :: ·) ih
  | case4 input inputs output outputs same ih => exact congrArg (output :: ·) ih
  | case5 input inputs output outputs apart less ih => exact ih
  | case6 input inputs output outputs apart noLess ih => exact congrArg (output :: ·) ih

theorem mem_of_mem_ofPorts {inputs outputs : List Port} {slot : Slot}
    (member : slot ∈ ofPorts inputs outputs) :
    (∀ port, slot.input? = some port → port ∈ inputs) ∧
      ∀ port, slot.output? = some port → port ∈ outputs := by
  constructor
  · intro port stands
    rw [← filterMap_input?_ofPorts inputs outputs]
    exact List.mem_filterMap.mpr ⟨slot, member, stands⟩
  · intro port stands
    rw [← filterMap_output?_ofPorts inputs outputs]
    exact List.mem_filterMap.mpr ⟨slot, member, stands⟩

/-- Only ports of one group share a slot. -/
theorem group_eq_of_mem_ofPorts {inputs outputs : List Port} {input output : Port}
    (member : both input output ∈ ofPorts inputs outputs) : input.group = output.group := by
  fun_induction ofPorts inputs outputs with
  | case1 => cases member
  | case2 first inputs ih => exact ih (by simpa using member)
  | case3 first outputs ih => exact ih (by simpa using member)
  | case4 first inputs second outputs same ih =>
    rcases List.mem_cons.mp member with here | later
    · obtain ⟨rfl, rfl⟩ := both.inj here
      exact same
    · exact ih later
  | case5 first inputs second outputs apart less ih => exact ih (by simpa using member)
  | case6 first inputs second outputs apart noLess ih => exact ih (by simpa using member)

/-- A slot has the group of a port that stands in it. -/
theorem exists_group_of_mem_ofPorts {inputs outputs : List Port} {slot : Slot}
    (member : slot ∈ ofPorts inputs outputs) :
    ∃ port ∈ inputs ++ outputs, slot.group = port.group := by
  obtain ⟨fromInputs, fromOutputs⟩ := mem_of_mem_ofPorts member
  cases slot with
  | left input => exact ⟨input, List.mem_append_left _ (fromInputs input rfl), rfl⟩
  | right output => exact ⟨output, List.mem_append_right _ (fromOutputs output rfl), rfl⟩
  | both input output => exact ⟨input, List.mem_append_left _ (fromInputs input rfl), rfl⟩

/-- Ports of one group are paired position by position. -/
theorem map_row_ofPorts {inputs outputs : List Port} {group : Int}
    (sameGroup : ∀ port ∈ inputs ++ outputs, port.group = group) :
    (ofPorts inputs outputs).map row =
      Row.pairs (inputs.map Port.label) (outputs.map Port.label) := by
  fun_induction ofPorts inputs outputs with
  | case1 => rfl
  | case2 input inputs ih =>
    have later := ih fun port member => sameGroup port (by grind)
    simpa [Row.pairs, row] using later
  | case3 output outputs ih =>
    have later := ih fun port member => sameGroup port (by grind)
    simpa [Row.pairs, row] using later
  | case4 input inputs output outputs same ih =>
    have later := ih fun port member => sameGroup port (by grind)
    simpa [Row.pairs, row] using later
  | case5 input inputs output outputs apart less ih =>
    have first := sameGroup input (by simp)
    have second := sameGroup output (by simp)
    omega
  | case6 input inputs output outputs apart noLess ih =>
    have first := sameGroup input (by simp)
    have second := sameGroup output (by simp)
    omega

/-- No empty row stands among slots of the group before them. -/
theorem rowsBehind_append {group : Int} {slots : List Slot}
    (sameGroup : ∀ slot ∈ slots, slot.group = group) (behind : List Slot) :
    rowsBehind group (slots ++ behind) = slots.map row ++ rowsBehind group behind := by
  induction slots with
  | nil => rfl
  | cons slot slots ih =>
    have here := sameGroup slot (by simp)
    have later := ih fun other member => sameGroup other (by simp [member])
    simp [rowsBehind, here, later]

/-- An empty row stands before slots of another group. -/
theorem rowsBehind_append_of_ne {before group : Int} (apart : group ≠ before) {slots : List Slot}
    (nonempty : slots ≠ []) (sameGroup : ∀ slot ∈ slots, slot.group = group)
    (behind : List Slot) :
    rowsBehind before (slots ++ behind) =
      Row.empty :: (slots.map row ++ rowsBehind group behind) := by
  cases slots with
  | nil => exact absurd rfl nonempty
  | cons slot slots =>
    have here := sameGroup slot (by simp)
    have others : ∀ other ∈ slots, other.group = group :=
      fun other member => sameGroup other (by simp [member])
    have later := rowsBehind_append others behind
    simp [rowsBehind, here, apart, later]

theorem ofPorts_ne_nil {inputs outputs : List Port} (nonempty : inputs ++ outputs ≠ []) :
    ofPorts inputs outputs ≠ [] := by
  intro nothing
  have left := filterMap_input?_ofPorts inputs outputs
  have right := filterMap_output?_ofPorts inputs outputs
  rw [nothing, List.filterMap_nil] at left right
  rw [← left, ← right] at nonempty
  exact nonempty rfl

end Slot

namespace Ports

theorem group_of_mem_ofPorts {block : Ports} {group : Int}
    (sameGroup : ∀ port ∈ block.members, port.group = group) :
    ∀ slot ∈ Slot.ofPorts block.inputs block.outputs, slot.group = group := by
  intro slot member
  obtain ⟨port, portMember, same⟩ := Slot.exists_group_of_mem_ofPorts member
  rw [same, sameGroup port portMember]

/-- A block of one group, with a port in it. -/
structure IsBlock (group : Int) (block : Ports) : Prop where
  nonempty : block.members ≠ []
  sameGroup : ∀ port ∈ block.members, port.group = group

section Ascending

variable {group before : Int} {groups : List Int} {block : Ports} {blocks : List Ports}

theorem group_mem_of_blocks (known : List.Forall₂ IsBlock groups blocks) :
    ∀ port ∈ (concat blocks).members, port.group ∈ groups := by
  induction known with
  | nil =>
    intro port member
    cases member
  | cons here later ih =>
    intro port member
    rw [concat_cons, mem_members_append] at member
    rcases member with first | behind
    · rw [here.sameGroup port first]
      exact List.mem_cons_self
    · exact List.mem_cons_of_mem _ (ih port behind)

/-- The slots of blocks of ascending groups are the slots of the blocks, one block after the
    other. -/
theorem ofPorts_concat_cons (here : IsBlock group block)
    (later : List.Forall₂ IsBlock groups blocks) (above : ∀ other ∈ groups, group < other) :
    Slot.ofPorts (concat (block :: blocks)).inputs (concat (block :: blocks)).outputs =
      Slot.ofPorts block.inputs block.outputs ++
        Slot.ofPorts (concat blocks).inputs (concat blocks).outputs := by
  apply Slot.ofPorts_append
  intro port member other otherMember
  rw [here.sameGroup port member]
  exact above other.group (group_mem_of_blocks later other otherMember)

theorem head_ne (above : ∀ other ∈ groups, group < other) :
    ∀ other ∈ groups.head?, other ≠ group := by
  intro other first
  exact Int.ne_of_gt (above other (List.mem_of_mem_head? first))

/-- Each block behind another group has an empty row before it. -/
theorem rowsBehind_concat (known : List.Forall₂ IsBlock groups blocks)
    (ascending : groups.Pairwise (· < ·)) (apart : ∀ group ∈ groups.head?, group ≠ before) :
    Slot.rowsBehind before (Slot.ofPorts (concat blocks).inputs (concat blocks).outputs) =
      blocks.flatMap fun block => Row.empty :: block.rows := by
  induction known generalizing before with
  | nil => simp [empty, Slot.rowsBehind]
  | @cons group block groups blocks here later ih =>
    obtain ⟨above, ascendingLater⟩ := List.pairwise_cons.mp ascending
    rw [ofPorts_concat_cons here later above,
      Slot.rowsBehind_append_of_ne (apart group rfl) (Slot.ofPorts_ne_nil here.nonempty)
        (group_of_mem_ofPorts here.sameGroup),
      Slot.map_row_ofPorts here.sameGroup, ih ascendingLater (head_ne above), List.flatMap_cons,
      rows, List.cons_append]

/-- Blocks of ascending groups are laid out one after the other, with one empty row between two of
    them, and with one before the first unless its group is zero. -/
theorem layout_concat_cons (here : IsBlock group block)
    (later : List.Forall₂ IsBlock groups blocks) (ascending : (group :: groups).Pairwise (· < ·)) :
    (concat (block :: blocks)).layout =
      (if group = 0 then [] else [Row.empty]) ++
        (block.rows ++ blocks.flatMap fun other => Row.empty :: other.rows) := by
  by_cases zero : group = 0
  · subst zero
    obtain ⟨above, ascendingLater⟩ := List.pairwise_cons.mp ascending
    rw [layout, ofPorts_concat_cons here later above,
      Slot.rowsBehind_append (group_of_mem_ofPorts here.sameGroup),
      Slot.map_row_ofPorts here.sameGroup, rowsBehind_concat later ascendingLater (head_ne above),
      if_pos rfl, List.nil_append, rows]
  · have apart : ∀ other ∈ (group :: groups).head?, other ≠ 0 := by
      rintro other first rfl
      exact zero (Option.some.inj first)
    rw [layout, rowsBehind_concat (.cons here later) ascending apart, if_neg zero,
      List.flatMap_cons, List.cons_append, List.singleton_append]

end Ascending

/-- Numbered blocks have ascending groups. -/
theorem Numbered.exists_groups {first : Int} {blocks : List Ports}
    (numbered : Numbered first blocks) :
    ∃ groups, List.Forall₂ IsBlock groups blocks ∧ groups.Pairwise (· < ·) ∧
      ∀ group ∈ groups, first ≤ group := by
  induction numbered with
  | nil first => exact ⟨[], .nil, .nil, nofun⟩
  | @cons first block blocks nonempty sameGroup later ih =>
    obtain ⟨groups, known, ascending, lower⟩ := ih
    refine ⟨first :: groups, .cons ⟨nonempty, sameGroup⟩ known, .cons lower ascending, ?_⟩
    intro group member
    rcases List.mem_cons.mp member with rfl | behind
    · exact Int.le_refl group
    · have := lower group behind
      omega

theorem intercalate_cons (first : List Row) (others : List (List Row)) :
    [Row.empty].intercalate (first :: others) =
      first ++ others.flatMap fun rows => Row.empty :: rows := by
  induction others generalizing first with
  | nil => simp
  | cons second others ih => simp [List.intercalate_cons_cons, ih]

/-- Blocks that are numbered from zero are laid out one after the other, with one empty row between
    two of them and none before the first or behind the last. -/
theorem Numbered.layout_concat {blocks : List Ports} (numbered : Numbered 0 blocks) :
    (concat blocks).layout = [Row.empty].intercalate (blocks.map rows) := by
  cases numbered with
  | nil => simp [layout, empty, Slot.rowsBehind]
  | cons nonempty sameGroup later =>
    obtain ⟨groups, known, ascending, lower⟩ := later.exists_groups
    rw [layout_concat_cons ⟨nonempty, sameGroup⟩ known (.cons lower ascending), if_pos rfl,
      List.nil_append, List.map_cons, intercalate_cons, List.flatMap_map]

end Ports

end EntityDiagram
