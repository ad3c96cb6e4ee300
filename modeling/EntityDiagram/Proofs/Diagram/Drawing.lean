import EntityDiagram.Diagram.Layout
import EntityDiagram.Proofs.Diagram.Blocks
import EntityDiagram.Proofs.Port.Label

/-!
What the diagram of ports shows. If the names of the ports are words, the diagram is the box of
their layout, line by line. It shows the group and the label of every port and nothing else: ports
that agree in both are drawn alike, and from the diagram of blocks that are numbered from zero the
groups and the labels can be read back.
-/

namespace EntityDiagram

theorem Slot.mem_rowsBehind {group : Int} {slots : List Slot} {row : Row}
    (member : row ∈ rowsBehind group slots) :
    row = Row.empty ∨ ∃ slot ∈ slots, row = slot.row := by
  induction slots generalizing group with
  | nil => cases member
  | cons slot slots ih =>
    have behind : ∀ {group : Int}, row ∈ rowsBehind group slots →
        row = Row.empty ∨ ∃ other ∈ slot :: slots, row = other.row := by
      intro group memberBehind
      rcases ih memberBehind with empty | ⟨other, otherMember, same⟩
      · exact .inl empty
      · exact .inr ⟨other, List.mem_cons_of_mem _ otherMember, same⟩
    rw [rowsBehind] at member
    split at member
    · rcases List.mem_cons.mp member with here | later
      · exact .inr ⟨slot, List.mem_cons_self, here⟩
      · exact behind later
    · rcases List.mem_cons.mp member with empty | member
      · exact .inl empty
      · rcases List.mem_cons.mp member with here | later
        · exact .inr ⟨slot, List.mem_cons_self, here⟩
        · exact behind later

theorem Row.isReadable_empty : Row.empty.IsReadable where
  left := Readable.of_noSpace (by simp [Row.empty])
  right := Readable.of_noSpace (by simp [Row.empty])

namespace Ports

/-- Words make readable rows. -/
theorem isReadable_layout {ports : Ports} (words : ∀ port ∈ ports.members, port.HasWordName) :
    ∀ row ∈ ports.layout, row.IsReadable := by
  have nothing : Readable "".toList := Readable.of_noSpace (by simp)
  have input : ∀ port ∈ ports.inputs, Readable port.label.toList := by
    intro port member
    exact Port.readable_label (words port (mem_members.mpr (.inl member)))
  have output : ∀ port ∈ ports.outputs, Readable port.label.toList := by
    intro port member
    exact Port.readable_label (words port (mem_members.mpr (.inr member)))
  intro row member
  rcases Slot.mem_rowsBehind member with rfl | ⟨slot, slotMember, rfl⟩
  · exact Row.isReadable_empty
  · obtain ⟨fromInputs, fromOutputs⟩ := Slot.mem_of_mem_ofPorts slotMember
    cases slot with
    | left port => exact ⟨input port (fromInputs port rfl), nothing⟩
    | right port => exact ⟨nothing, output port (fromOutputs port rfl)⟩
    | both port other =>
      exact ⟨input port (fromInputs port rfl), output other (fromOutputs other rfl)⟩

/-- The diagram of ports is the box of their rows, and no row takes more than one line. -/
theorem diagram_eq_parts {ports : Ports} (words : ∀ port ∈ ports.members, port.HasWordName) :
    ports.diagram = Box.parts ports.layout :=
  Box.lines_eq_parts fun row member => (isReadable_layout words row member).isPlain

end Ports

/-! ### Ports that are drawn alike -/

namespace Slot

/-- A slot with other ports in it. -/
def map (f : Port → Port) : Slot → Slot
  | left input => left (f input)
  | right output => right (f output)
  | both input output => both (f input) (f output)

/-- Only the order of the groups tells which ports share a slot. -/
theorem ofPorts_map {f : Port → Port}
    (sameGroup : ∀ port other, (f port).group = (f other).group ↔ port.group = other.group)
    (order : ∀ port other, (f port).group < (f other).group ↔ port.group < other.group)
    (inputs outputs : List Port) :
    ofPorts (inputs.map f) (outputs.map f) = (ofPorts inputs outputs).map (map f) := by
  fun_induction ofPorts inputs outputs with
  | case1 => simp
  | case2 input inputs ih => simpa [ofPorts, map] using ih
  | case3 output outputs ih => simpa [ofPorts, map] using ih
  | case4 input inputs output outputs same ih => simpa [ofPorts, map, sameGroup, same] using ih
  | case5 input inputs output outputs apart less ih =>
    simpa [ofPorts, map, sameGroup, order, apart, less] using ih
  | case6 input inputs output outputs apart noLess ih =>
    simpa [ofPorts, map, sameGroup, order, apart, noLess] using ih

/-- When slots are changed and all groups renumbered, so that equal groups stay equal and no others
    become equal, each row is changed as its slot is. -/
theorem rowsBehind_map {f : Slot → Slot} {g : Row → Row} {h : Int → Int}
    (apart : Function.Injective h) (empty : g Row.empty = Row.empty) {slots : List Slot}
    (groups : ∀ slot ∈ slots, (f slot).group = h slot.group)
    (rows : ∀ slot ∈ slots, (f slot).row = g slot.row) (group : Int) :
    rowsBehind (h group) (slots.map f) = (rowsBehind group slots).map g := by
  induction slots generalizing group with
  | nil => rfl
  | cons slot slots ih =>
    have later := ih (fun other member => groups other (List.mem_cons_of_mem _ member))
      (fun other member => rows other (List.mem_cons_of_mem _ member))
    rw [List.map_cons, rowsBehind, rowsBehind, groups slot List.mem_cons_self,
      rows slot List.mem_cons_self, later, later]
    by_cases same : slot.group = group
    · rw [if_pos same, if_pos (congrArg h same), List.map_cons]
    · rw [if_neg same, if_neg fun equal => same (apart equal), List.map_cons, List.map_cons, empty]

theorem group_map {f : Port → Port} {h : Int → Int}
    (groups : ∀ port, (f port).group = h port.group) (slot : Slot) :
    (slot.map f).group = h slot.group := by
  cases slot with
  | left input => exact groups input
  | right output => exact groups output
  | both input output => exact groups input

end Slot

/-- What a layout shows of a port: the group and the label. -/
def Port.drawn (port : Port) : Int × String := (port.group, port.label)

/-- The plain input that a layout shows something of. -/
def Port.ofDrawn (drawn : Int × String) : Port := ⟨drawn.1, drawn.2, false, .input⟩

/-- Ports that are shown alike are drawn alike in a layout. -/
theorem Port.map_drawn_eq {ports others : List Port} (same : ports.map shown = others.map shown) :
    ports.map drawn = others.map drawn := by
  have build : drawn =
      (fun key : Int × String × Bool => drawn ⟨key.1, key.2.1, key.2.2, .input⟩) ∘ shown := rfl
  rw [build, ← List.map_map, same, List.map_map]

namespace Ports

/-- What is done to ports without a change of their groups is done to the rows of their layout. -/
theorem layout_map {f : Port → Port} {g : Row → Row}
    (groups : ∀ port, (f port).group = port.group)
    (rows : ∀ slot : Slot, (slot.map f).row = g slot.row) (empty : g Row.empty = Row.empty)
    (ports : Ports) :
    layout ⟨ports.inputs.map f, ports.outputs.map f⟩ = ports.layout.map g := by
  have slots := Slot.ofPorts_map (f := f) (fun port other => by rw [groups, groups])
    (fun port other => by rw [groups, groups]) ports.inputs ports.outputs
  rw [layout, slots]
  exact Slot.rowsBehind_map Function.injective_id empty (fun slot _ => Slot.group_map groups slot)
    (fun slot _ => rows slot) 0

/-- Nothing but the groups and the labels of the ports enters the layout. -/
theorem layout_ofDrawn (ports : Ports) :
    layout ⟨(ports.inputs.map Port.drawn).map Port.ofDrawn,
      (ports.outputs.map Port.drawn).map Port.ofDrawn⟩ = ports.layout := by
  have rows : ∀ slot : Slot, (slot.map (Port.ofDrawn ∘ Port.drawn)).row = id slot.row := by
    intro slot
    cases slot <;> rfl
  rw [List.map_map, List.map_map,
    layout_map (f := Port.ofDrawn ∘ Port.drawn) (fun _ => rfl) rows rfl, List.map_id]

theorem layout_congr {ports others : Ports}
    (inputs : ports.inputs.map Port.drawn = others.inputs.map Port.drawn)
    (outputs : ports.outputs.map Port.drawn = others.outputs.map Port.drawn) :
    ports.layout = others.layout := by
  rw [← layout_ofDrawn ports, ← layout_ofDrawn others, inputs, outputs]

/-- Ports that are shown alike are drawn alike. -/
theorem diagram_congr {ports others : Ports}
    (inputs : ports.inputs.map Port.shown = others.inputs.map Port.shown)
    (outputs : ports.outputs.map Port.shown = others.outputs.map Port.shown) :
    ports.diagram = others.diagram := by
  rw [diagram, diagram, layout_congr (Port.map_drawn_eq inputs) (Port.map_drawn_eq outputs)]

/-! ### Reading a layout back -/

/-- Words make labels that are not empty. -/
theorem label_ne_empty_of_words {ports : Ports}
    (words : ∀ port ∈ ports.members, port.HasWordName) :
    ∀ text ∈ ports.inputs.map Port.label ++ ports.outputs.map Port.label, text ≠ "" := by
  intro text member
  rw [← List.map_append] at member
  obtain ⟨port, portMember, rfl⟩ := List.mem_map.mp member
  exact Port.label_ne_empty (words port portMember)

theorem empty_not_mem_rows {block : Ports} (words : ∀ port ∈ block.members, port.HasWordName) :
    Row.empty ∉ block.rows :=
  Row.empty_not_mem_pairs (label_ne_empty_of_words words)

theorem rows_ne_nil {block : Ports} (nonempty : block.members ≠ []) : block.rows ≠ [] := by
  apply Row.pairs_ne_nil
  rw [← List.map_append]
  simpa [members] using nonempty

/-- In one group the labels tell what is shown of the ports. -/
theorem map_shown_eq_of_label {ports others : List Port} {group : Int}
    (known : ∀ port ∈ ports, port.group = group ∧ port.HasWordName)
    (otherKnown : ∀ port ∈ others, port.group = group ∧ port.HasWordName)
    (same : ports.map Port.label = others.map Port.label) :
    ports.map Port.shown = others.map Port.shown := by
  induction ports generalizing others with
  | nil =>
    rw [List.map_nil, eq_comm, List.map_eq_nil_iff] at same
    rw [same]
  | cons port ports ih =>
    cases others with
    | nil => cases same
    | cons other others =>
      obtain ⟨sameLabel, sameLabels⟩ := List.cons.inj same
      obtain ⟨portGroup, word⟩ := known port (by simp)
      obtain ⟨otherGroup, otherWord⟩ := otherKnown other (by simp)
      have shown : port.shown = other.shown :=
        Port.shown_eq_iff.mpr ⟨portGroup.trans otherGroup.symm,
          Port.label_injective word otherWord sameLabel⟩
      rw [List.map_cons, List.map_cons, shown,
        ih (fun port member => known port (by simp [member]))
          (fun port member => otherKnown port (by simp [member])) sameLabels]

/-- The rows of a block tell what is shown of its ports. -/
theorem map_shown_eq_of_rows {block other : Ports} {group : Int}
    (known : ∀ port ∈ block.members, port.group = group ∧ port.HasWordName)
    (otherKnown : ∀ port ∈ other.members, port.group = group ∧ port.HasWordName)
    (same : block.rows = other.rows) :
    block.inputs.map Port.shown = other.inputs.map Port.shown ∧
      block.outputs.map Port.shown = other.outputs.map Port.shown := by
  obtain ⟨inputLabels, outputLabels⟩ := Row.pairs_injective
    (label_ne_empty_of_words fun port member => (known port member).2)
    (label_ne_empty_of_words fun port member => (otherKnown port member).2) same
  constructor
  · exact map_shown_eq_of_label (fun port member => known port (mem_members.mpr (.inl member)))
      (fun port member => otherKnown port (mem_members.mpr (.inl member))) inputLabels
  · exact map_shown_eq_of_label (fun port member => known port (mem_members.mpr (.inr member)))
      (fun port member => otherKnown port (mem_members.mpr (.inr member))) outputLabels

/-- The rows of numbered blocks tell what is shown of all ports. -/
theorem Numbered.map_shown_eq {first : Int} {blocks others : List Ports}
    (numbered : Numbered first blocks) (otherNumbered : Numbered first others)
    (words : ∀ port ∈ (concat blocks).members, port.HasWordName)
    (otherWords : ∀ port ∈ (concat others).members, port.HasWordName)
    (same : blocks.map rows = others.map rows) :
    (concat blocks).inputs.map Port.shown = (concat others).inputs.map Port.shown ∧
      (concat blocks).outputs.map Port.shown = (concat others).outputs.map Port.shown := by
  induction numbered generalizing others with
  | nil first =>
    rw [List.map_nil, eq_comm, List.map_eq_nil_iff] at same
    rw [same]
    exact ⟨rfl, rfl⟩
  | @cons first block blocks nonempty sameGroup later ih =>
    cases otherNumbered with
    | nil => cases same
    | @cons _ other others otherNonempty otherGroup otherLater =>
      obtain ⟨sameRows, sameLater⟩ := List.cons.inj same
      simp only [concat_cons, mem_members_append] at words otherWords
      obtain ⟨inputs, outputs⟩ := map_shown_eq_of_rows
        (fun port member => ⟨sameGroup port member, words port (.inl member)⟩)
        (fun port member => ⟨otherGroup port member, otherWords port (.inl member)⟩) sameRows
      obtain ⟨laterInputs, laterOutputs⟩ := ih otherLater
        (fun port member => words port (.inr member))
        (fun port member => otherWords port (.inr member)) sameLater
      simp only [concat_cons, inputs_append, outputs_append, List.map_append]
      rw [inputs, outputs, laterInputs, laterOutputs]
      exact ⟨rfl, rfl⟩

/-- Non-empty lists of rows that are not empty can be told from their rows with an empty row between
    two lists. -/
theorem intercalate_injective {blocks others : List (List Row)}
    (known : ∀ rows ∈ blocks, rows ≠ [] ∧ Row.empty ∉ rows)
    (otherKnown : ∀ rows ∈ others, rows ≠ [] ∧ Row.empty ∉ rows)
    (same : [Row.empty].intercalate blocks = [Row.empty].intercalate others) :
    blocks = others := by
  have nonempty : ∀ {first : List Row} {later : List (List Row)}, first ≠ [] →
      [Row.empty].intercalate (first :: later) ≠ [] := by
    intro first later firstNonempty
    rw [intercalate_cons]
    exact List.append_ne_nil_of_left_ne_nil firstNonempty _
  -- Splitting cannot tell no list from one empty list, so empty `blocks` stand apart.
  cases blocks with
  | nil =>
    cases others with
    | nil => rfl
    | cons other others => exact absurd same.symm (nonempty (otherKnown other (by simp)).1)
  | cons block blocks =>
    cases others with
    | nil => exact absurd same (nonempty (known block (by simp)).1)
    | cons other others =>
      rw [← List.splitOn_intercalate Row.empty (fun rows member => (known rows member).2) (by simp),
        same, List.splitOn_intercalate Row.empty (fun rows member => (otherKnown rows member).2)
          (by simp)]

/-- The rows of numbered blocks can be told from the rows between them. -/
theorem Numbered.rows_known {first : Int} {blocks : List Ports} (numbered : Numbered first blocks)
    (words : ∀ port ∈ (concat blocks).members, port.HasWordName) :
    ∀ piece ∈ blocks.map rows, piece ≠ [] ∧ Row.empty ∉ piece := by
  induction numbered with
  | nil first => simp
  | cons nonempty sameGroup later ih =>
    simp only [concat_cons, mem_members_append] at words
    intro piece member
    rcases List.mem_cons.mp member with rfl | member
    · exact ⟨rows_ne_nil nonempty, empty_not_mem_rows fun port member => words port (.inl member)⟩
    · exact ih (fun port member => words port (.inr member)) piece member

/-- Blocks that are numbered from zero, with words for names, are drawn alike only if they are shown
    alike. -/
theorem Numbered.map_shown_eq_of_diagram {blocks others : List Ports}
    (numbered : Numbered 0 blocks) (otherNumbered : Numbered 0 others)
    (words : ∀ port ∈ (concat blocks).members, port.HasWordName)
    (otherWords : ∀ port ∈ (concat others).members, port.HasWordName)
    (same : (concat blocks).diagram = (concat others).diagram) :
    (concat blocks).inputs.map Port.shown = (concat others).inputs.map Port.shown ∧
      (concat blocks).outputs.map Port.shown = (concat others).outputs.map Port.shown := by
  have sameParts : Box.parts (concat blocks).layout = Box.parts (concat others).layout := by
    rw [← diagram_eq_parts words, ← diagram_eq_parts otherWords, same]
  have sameLayout : (concat blocks).layout = (concat others).layout :=
    Box.parts_injective (isReadable_layout words) (isReadable_layout otherWords) sameParts
  rw [numbered.layout_concat, otherNumbered.layout_concat] at sameLayout
  have sameRows : blocks.map rows = others.map rows :=
    intercalate_injective (numbered.rows_known words) (otherNumbered.rows_known otherWords)
      sameLayout
  exact numbered.map_shown_eq otherNumbered words otherWords sameRows

end Ports

end EntityDiagram
