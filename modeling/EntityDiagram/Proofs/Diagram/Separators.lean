import EntityDiagram.Proofs.Diagram.Drawing
import Mathlib.Data.List.Dedup
import Mathlib.Data.List.Perm.Basic
import Mathlib.Order.Bounds.Defs

/-!
The empty rows between groups. Which port a row shows is told from the rows alone: on each side the
texts belong to the ports of that side, one after the other. In the layout of blocks that are
numbered from zero the rows of a group are the rows of its block, so that exactly one empty row
stands between the last row of a group and the first row of the next.
-/

namespace EntityDiagram

namespace Row

/-- The row at an index shows a port on a side: its text there is the label of the port, and as many
    rows before it have a text there as there are ports before the port. -/
def ShowsOn (side : Row → String) (rows : List Row) (ports : List Port) (index : Nat)
    (port : Port) : Prop :=
  ∃ row, rows[index]? = some row ∧ side row ≠ "" ∧ side row = port.label ∧
    ports[(rows.take index).countP (side · ≠ "")]? = some port

/-- The row at an index shows a port: inputs stand on the left, outputs on the right. -/
def Shows (rows : List Row) (ports : Ports) (index : Nat) (port : Port) : Prop :=
  ShowsOn left rows ports.inputs index port ∨ ShowsOn right rows ports.outputs index port

/-- The row at an index shows a port of a group. -/
def ShowsGroup (rows : List Row) (ports : Ports) (group : Int) (index : Nat) : Prop :=
  ∃ port, port.group = group ∧ Shows rows ports index port

/-- On each side there are as many texts in the rows as there are ports. -/
structure Fit (rows : List Row) (ports : Ports) : Prop where
  inputs : rows.countP (·.left ≠ "") = ports.inputs.length
  outputs : rows.countP (·.right ≠ "") = ports.outputs.length

theorem isSeparator_iff {row : Row} : row.isSeparator = true ↔ row.left = "" ∧ row.right = "" := by
  rw [isSeparator, Bool.and_eq_true, String.isEmpty_iff, String.isEmpty_iff]

theorem isSeparator_iff_eq_empty {row : Row} : row.isSeparator = true ↔ row = empty := by
  rw [isSeparator_iff]
  cases row
  simp [empty]

/-- As many separators stand before a separator as its number tells, counted from zero. -/
theorem findIdxNth_isSeparator (before behind : List Row) :
    (before ++ empty :: behind).findIdxNth isSeparator (before.countP isSeparator) =
      before.length := by
  induction before with
  | nil => simp
  | cons row before ih =>
    cases separator : row.isSeparator with
    | true => simp [separator, ih]
    | false => simp [separator, ih, List.findIdxNth_cons_of_neg]

section Side

variable {side : Row → String} {rows others : List Row} {ports otherPorts : List Port}
  {index : Nat} {port : Port}

theorem ShowsOn.mem (shown : ShowsOn side rows ports index port) : port ∈ ports := by
  obtain ⟨-, -, -, -, found⟩ := shown
  exact List.mem_of_getElem? found

/-- What the first rows show they show of the first ports, if there are enough of these. -/
theorem showsOn_append_of_lt (fit : rows.countP (side · ≠ "") = ports.length)
    (inside : index < rows.length) :
    ShowsOn side (rows ++ others) (ports ++ otherPorts) index port ↔
      ShowsOn side rows ports index port := by
  have sameRow : (rows ++ others)[index]? = rows[index]? := List.getElem?_append_left inside
  have sameRows : (rows ++ others).take index = rows.take index :=
    List.take_append_of_le_length (Nat.le_of_lt inside)
  rw [ShowsOn, ShowsOn, sameRow, sameRows]
  apply exists_congr
  intro row
  apply and_congr_right
  intro found
  apply and_congr_right
  intro text
  -- The row has a text itself, so the rows before it have not used the ports up.
  have enough : (rows.take index).countP (side · ≠ "") < ports.length := by
    obtain ⟨bound, rfl⟩ := List.getElem?_eq_some_iff.mp found
    have cut : rows.take index ++ rows[index] :: rows.drop (index + 1) = rows := by
      rw [← List.drop_eq_getElem_cons bound, List.take_append_drop]
    rw [← fit]
    conv => rhs; rw [← cut]
    rw [List.countP_append, List.countP_cons_of_pos (by simpa using text)]
    omega
  rw [List.getElem?_append_left enough]

/-- What the rows behind others show they show of the ports behind the ports of these. -/
theorem showsOn_append_add (fit : rows.countP (side · ≠ "") = ports.length) :
    ShowsOn side (rows ++ others) (ports ++ otherPorts) (rows.length + index) port ↔
      ShowsOn side others otherPorts index port := by
  have sameRow : (rows ++ others)[rows.length + index]? = others[index]? := by
    rw [List.getElem?_append_right (Nat.le_add_right _ _), Nat.add_sub_cancel_left]
  have count : ((rows ++ others).take (rows.length + index)).countP (side · ≠ "") =
      ports.length + (others.take index).countP (side · ≠ "") := by
    rw [List.take_length_add_append, List.countP_append, fit]
  rw [ShowsOn, ShowsOn, sameRow, count, List.getElem?_append_right (Nat.le_add_right _ _),
    Nat.add_sub_cancel_left]

end Side

section Both

variable {rows others : List Row} {ports otherPorts : Ports} {index : Nat} {port : Port}

theorem Shows.mem (shown : Shows rows ports index port) : port ∈ ports.members :=
  Ports.mem_members.mpr (shown.imp ShowsOn.mem ShowsOn.mem)

/-- A row that shows a port is no separator. -/
theorem Shows.isSeparator_eq_false (shown : Shows rows ports index port) :
    index < rows.length ∧ rows[index]?.any isSeparator = false := by
  obtain ⟨row, found, text⟩ : ∃ row, rows[index]? = some row ∧
      ¬ (row.left = "" ∧ row.right = "") := by
    rcases shown with ⟨row, found, text, -⟩ | ⟨row, found, text, -⟩
    · exact ⟨row, found, fun nothing => text nothing.1⟩
    · exact ⟨row, found, fun nothing => text nothing.2⟩
  refine ⟨(List.getElem?_eq_some_iff.mp found).1, ?_⟩
  rw [found, Option.any_some, Bool.eq_false_iff, Ne, isSeparator_iff]
  exact text

/-- Rows fit ports if their texts are the labels of the ports. -/
theorem fit_of_texts (lefts : (rows.map left).filter (· ≠ "") = ports.inputs.map Port.label)
    (rights : (rows.map right).filter (· ≠ "") = ports.outputs.map Port.label) :
    Fit rows ports where
  inputs := by
    rw [← List.length_map Port.label, ← lefts, ← List.countP_eq_length_filter, List.countP_map]
    rfl
  outputs := by
    rw [← List.length_map Port.label, ← rights, ← List.countP_eq_length_filter, List.countP_map]
    rfl

theorem fit_nil : Fit [] .empty := ⟨rfl, rfl⟩

theorem fit_empty : Fit [empty] .empty := ⟨by decide, by decide⟩

theorem Fit.append (fit : Fit rows ports) (otherFit : Fit others otherPorts) :
    Fit (rows ++ others) (ports ++ otherPorts) where
  inputs := by
    rw [List.countP_append, fit.inputs, otherFit.inputs, Ports.inputs_append, List.length_append]
  outputs := by
    rw [List.countP_append, fit.outputs, otherFit.outputs, Ports.outputs_append,
      List.length_append]

theorem shows_append_of_lt (fit : Fit rows ports) (inside : index < rows.length) :
    Shows (rows ++ others) (ports ++ otherPorts) index port ↔ Shows rows ports index port :=
  or_congr (showsOn_append_of_lt fit.inputs inside) (showsOn_append_of_lt fit.outputs inside)

theorem shows_append_add (fit : Fit rows ports) :
    Shows (rows ++ others) (ports ++ otherPorts) (rows.length + index) port ↔
      Shows others otherPorts index port :=
  or_congr (showsOn_append_add fit.inputs) (showsOn_append_add fit.outputs)

end Both

end Row

namespace Slot

/-- The ports that stand in a slot. -/
def ports : Slot → Ports
  | left input => ⟨[input], []⟩
  | right output => ⟨[], [output]⟩
  | both input output => ⟨[input], [output]⟩

/-- Every port stands in one slot, in order on its side. -/
theorem concat_ports_ofPorts (inputs outputs : List Port) :
    Ports.concat ((ofPorts inputs outputs).map ports) = ⟨inputs, outputs⟩ := by
  fun_induction ofPorts inputs outputs with
  | case1 => rfl
  | case2 input inputs ih => exact congrArg (Ports.append ⟨[input], []⟩) ih
  | case3 output outputs ih => exact congrArg (Ports.append ⟨[], [output]⟩) ih
  | case4 input inputs output outputs same ih =>
    exact congrArg (Ports.append ⟨[input], [output]⟩) ih
  | case5 input inputs output outputs apart less ih =>
    exact congrArg (Ports.append ⟨[input], []⟩) ih
  | case6 input inputs output outputs apart noLess ih =>
    exact congrArg (Ports.append ⟨[], [output]⟩) ih

/-- The texts of the row of a slot are the labels of its ports. -/
theorem texts_row {slot : Slot} (labels : ∀ port ∈ slot.ports.members, port.label ≠ "") :
    ([slot.row].map Row.left).filter (· ≠ "") = slot.ports.inputs.map Port.label ∧
      ([slot.row].map Row.right).filter (· ≠ "") = slot.ports.outputs.map Port.label := by
  cases slot with
  | left input => simpa [row, ports, Ports.members] using labels
  | right output => simpa [row, ports, Ports.members] using labels
  | both input output => simpa [row, ports, Ports.members] using labels

theorem fit_row {slot : Slot} (labels : ∀ port ∈ slot.ports.members, port.label ≠ "") :
    Row.Fit [slot.row] slot.ports :=
  Row.fit_of_texts (texts_row labels).1 (texts_row labels).2

/-- The row of a slot shows a port of the slot. -/
theorem exists_shows_row {slot : Slot} (labels : ∀ port ∈ slot.ports.members, port.label ≠ "") :
    ∃ port, Row.Shows [slot.row] slot.ports 0 port := by
  cases slot with
  | left input =>
    have text : input.label ≠ "" := labels input (by simp [ports, Ports.members])
    exact ⟨input, .inl ⟨_, rfl, text, rfl, rfl⟩⟩
  | right output =>
    have text : output.label ≠ "" := labels output (by simp [ports, Ports.members])
    exact ⟨output, .inr ⟨_, rfl, text, rfl, rfl⟩⟩
  | both input output =>
    have text : input.label ≠ "" := labels input (by simp [ports, Ports.members])
    exact ⟨input, .inl ⟨_, rfl, text, rfl, rfl⟩⟩

/-- The rows of slots show the ports of the slots, and each of them shows one. -/
theorem fit_map_row {slots : List Slot}
    (labels : ∀ port ∈ (Ports.concat (slots.map ports)).members, port.label ≠ "") :
    Row.Fit (slots.map row) (Ports.concat (slots.map ports)) ∧
      ∀ index < slots.length,
        ∃ port, Row.Shows (slots.map row) (Ports.concat (slots.map ports)) index port := by
  induction slots with
  | nil => exact ⟨Row.fit_nil, nofun⟩
  | cons slot slots ih =>
    simp only [List.map_cons, Ports.concat_cons, Ports.mem_members_append] at labels
    have here := fun port member => labels port (.inl member)
    obtain ⟨laterFit, laterShows⟩ := ih fun port member => labels port (.inr member)
    have fit := fit_row here
    refine ⟨fit.append laterFit, ?_⟩
    intro index inside
    cases index with
    | zero =>
      obtain ⟨port, shown⟩ := exists_shows_row here
      exact ⟨port, (Row.shows_append_of_lt fit (by simp)).mpr shown⟩
    | succ index =>
      obtain ⟨port, shown⟩ := laterShows index (by simpa using inside)
      refine ⟨port, ?_⟩
      rw [Nat.add_comm]
      exact (Row.shows_append_add fit).mpr shown

end Slot

namespace Ports

/-- The groups of the ports of both sides, each once. -/
def groups (ports : Ports) : List Int := (ports.members.map Port.group).dedup

/-- The rows of a block show the ports of the block, and each of them shows one. -/
theorem fit_rows {block : Ports} {group : Int}
    (sameGroup : ∀ port ∈ block.members, port.group = group)
    (words : ∀ port ∈ block.members, port.HasWordName) :
    Row.Fit block.rows block ∧
      ∀ index < block.rows.length, ∃ port, Row.Shows block.rows block index port := by
  have same := Slot.concat_ports_ofPorts block.inputs block.outputs
  have known := @Slot.fit_map_row (Slot.ofPorts block.inputs block.outputs)
  rw [same, Slot.map_row_ofPorts sameGroup] at known
  have length := congrArg List.length (Slot.map_row_ofPorts sameGroup)
  rw [List.length_map] at length
  rw [rows, ← length]
  exact known fun port member => Port.label_ne_empty (words port member)

/-- The rows of blocks, each block with an empty row behind it. -/
def rowsBefore (blocks : List Ports) : List Row :=
  blocks.flatMap fun block => block.rows ++ [Row.empty]

theorem rowsBefore_cons (block : Ports) (blocks : List Ports) :
    rowsBefore (block :: blocks) = block.rows ++ [Row.empty] ++ rowsBefore blocks := rfl

theorem rowsBefore_snoc (blocks : List Ports) (block : Ports) :
    rowsBefore (blocks ++ [block]) = rowsBefore blocks ++ (block.rows ++ [Row.empty]) := by
  rw [rowsBefore, List.flatMap_append, List.flatMap_singleton, rowsBefore]

/-- The rows of all blocks, cut before and behind one of them. -/
theorem intercalate_rows (earlier : List Ports) (block : Ports) (later : List Ports) :
    [Row.empty].intercalate ((earlier ++ block :: later).map rows) =
      rowsBefore earlier ++
        (block.rows ++ later.flatMap fun other => Row.empty :: other.rows) := by
  induction earlier with
  | nil =>
    rw [List.nil_append, List.map_cons, intercalate_cons, List.flatMap_map]
    rfl
  | cons first earlier ih =>
    obtain ⟨second, others, cut⟩ : ∃ second others, earlier ++ block :: later = second :: others :=
      List.exists_cons_of_ne_nil (by simp)
    rw [List.cons_append, cut, List.map_cons, List.map_cons, List.intercalate_cons_cons,
      ← List.map_cons, ← cut, ih, rowsBefore_cons, List.append_assoc, List.append_assoc,
      List.append_assoc]

/-- Numbered blocks can be cut in two, and the second half goes on with the numbers. -/
theorem Numbered.of_append {first : Int} {earlier later : List Ports}
    (numbered : Numbered first (earlier ++ later)) :
    Numbered first earlier ∧ Numbered (first + earlier.length) later := by
  induction earlier generalizing first with
  | nil => exact ⟨.nil first, by simpa using numbered⟩
  | cons block earlier ih =>
    cases numbered with
    | cons nonempty sameGroup behind =>
      obtain ⟨numberedEarlier, numberedLater⟩ := ih behind
      refine ⟨.cons nonempty sameGroup numberedEarlier, ?_⟩
      have place : first + 1 + (earlier.length : Int) =
          first + ((block :: earlier).length : Nat) := by
        rw [List.length_cons]
        omega
      rwa [← place]

/-- The groups of numbered blocks are the numbers from the first one on, one for each block. -/
theorem Numbered.exists_group_iff {first : Int} {blocks : List Ports}
    (numbered : Numbered first blocks) {group : Int} :
    (∃ port ∈ (concat blocks).members, port.group = group) ↔
      first ≤ group ∧ group < first + blocks.length := by
  induction numbered with
  | nil first =>
    simp only [concat_nil, members, empty, List.append_nil, List.not_mem_nil, false_and,
      exists_false, List.length_nil, false_iff]
    omega
  | @cons first block blocks nonempty sameGroup later ih =>
    simp only [concat_cons, mem_members_append, or_and_right, exists_or, ih, List.length_cons]
    obtain ⟨port, member⟩ := List.exists_mem_of_ne_nil _ nonempty
    constructor
    · rintro (⟨other, otherMember, rfl⟩ | inside)
      · have := sameGroup other otherMember
        omega
      · omega
    · intro inside
      by_cases here : group = first
      · exact .inl ⟨port, member, (sameGroup port member).trans here.symm⟩
      · right
        omega

theorem fit_rowsBefore {blocks : List Ports} {first : Int} (numbered : Numbered first blocks)
    (words : ∀ port ∈ (concat blocks).members, port.HasWordName) :
    Row.Fit (rowsBefore blocks) (concat blocks) := by
  induction numbered with
  | nil first => exact Row.fit_nil
  | cons nonempty sameGroup later ih =>
    simp only [concat_cons, mem_members_append] at words
    have fit := (fit_rows sameGroup fun port member => words port (.inl member)).1
    have behind := ih fun port member => words port (.inr member)
    have known := (fit.append Row.fit_empty).append behind
    rwa [append_empty] at known

/-- The rows that show a port of a group are the rows of its block. -/
theorem Numbered.showsGroup_iff {earlier later : List Ports} {block : Ports}
    (numbered : Numbered 0 (earlier ++ block :: later))
    (words : ∀ port ∈ (concat (earlier ++ block :: later)).members, port.HasWordName)
    (index : Nat) :
    Row.ShowsGroup (concat (earlier ++ block :: later)).layout (concat (earlier ++ block :: later))
        earlier.length index ↔
      (rowsBefore earlier).length ≤ index ∧
        index < (rowsBefore earlier).length + block.rows.length := by
  have layout := numbered.layout_concat.trans (intercalate_rows earlier block later)
  obtain ⟨numberedEarlier, numberedLater⟩ := numbered.of_append
  cases numberedLater with
  | cons nonempty sameGroup behind =>
    rw [Int.zero_add] at sameGroup behind
    simp only [Row.ShowsGroup, layout]
    simp only [concat_append, concat_cons, mem_members_append] at words ⊢
    have fit := fit_rowsBefore numberedEarlier fun port member => words port (.inl member)
    obtain ⟨blockFit, blockShows⟩ :=
      fit_rows sameGroup fun port member => words port (.inr (.inl member))
    constructor
    · rintro ⟨port, group, shown⟩
      by_contra outside
      by_cases before : index < (rowsBefore earlier).length
      · have lower := numberedEarlier.exists_group_iff.mp
          ⟨port, ((Row.shows_append_of_lt fit before).mp shown).mem, group⟩
        omega
      · obtain ⟨offset, rfl⟩ := Nat.exists_eq_add_of_le (Nat.le_of_not_lt before)
        rw [Row.shows_append_add fit] at shown
        obtain ⟨further, rfl⟩ :=
          Nat.exists_eq_add_of_le (show block.rows.length ≤ offset by omega)
        rw [Row.shows_append_add blockFit] at shown
        have higher := behind.le_group port shown.mem
        omega
    · rintro ⟨notBefore, inside⟩
      obtain ⟨offset, rfl⟩ := Nat.exists_eq_add_of_le notBefore
      obtain ⟨port, shown⟩ := blockShows offset (by omega)
      refine ⟨port, sameGroup port shown.mem, ?_⟩
      rw [Row.shows_append_add fit, Row.shows_append_of_lt blockFit (by omega)]
      exact shown

theorem countP_isSeparator_rows {block : Ports}
    (words : ∀ port ∈ block.members, port.HasWordName) :
    block.rows.countP Row.isSeparator = 0 := by
  rw [List.countP_eq_zero]
  intro row member separator
  rw [Row.isSeparator_iff_eq_empty.mp separator] at member
  exact empty_not_mem_rows words member

theorem countP_isSeparator_rowsBefore {blocks : List Ports}
    (words : ∀ port ∈ (concat blocks).members, port.HasWordName) :
    (rowsBefore blocks).countP Row.isSeparator = blocks.length := by
  induction blocks with
  | nil => rfl
  | cons block blocks ih =>
    simp only [concat_cons, mem_members_append] at words
    have here := countP_isSeparator_rows fun port member => words port (.inl member)
    rw [rowsBefore_cons, List.countP_append, List.countP_append, here,
      ih fun port member => words port (.inr member), List.countP_singleton,
      Row.isSeparator_empty, List.length_cons]
    simp [Nat.add_comm]

/-- The groups count up from zero, and one empty row stands between the last row of a group and the
    first row of the next, but nowhere else. -/
structure IsSeparated (ports : Ports) : Prop where
  groups : ∀ group, group ∈ ports.groups ↔ 0 ≤ group ∧ group < ports.groups.length
  count : ports.layout.countP Row.isSeparator = ports.groups.length - 1
  between : ∀ group : Nat, group + 1 < ports.groups.length → ∃ last,
    IsGreatest {index | Row.ShowsGroup ports.layout ports group index} last ∧
      ports.layout.findIdxNth Row.isSeparator group = last + 1 ∧
      IsLeast {index | Row.ShowsGroup ports.layout ports (group + 1 : Nat) index} (last + 2)
  inner : ∀ index, ports.layout[index]?.any Row.isSeparator = true →
    0 < index ∧ index + 1 < ports.layout.length ∧
      ports.layout[index + 1]?.any Row.isSeparator = false

theorem mem_groups {ports : Ports} {group : Int} :
    group ∈ ports.groups ↔ ∃ port ∈ ports.members, port.group = group := by
  rw [groups, List.mem_dedup, List.mem_map]

/-- Numbered blocks have as many groups as there are blocks. -/
theorem Numbered.length_groups {blocks : List Ports} (numbered : Numbered 0 blocks) :
    (concat blocks).groups.length = blocks.length := by
  have nodup : ((List.range blocks.length).map Int.ofNat).Nodup :=
    List.nodup_range.map fun _ _ same => Int.ofNat.inj same
  have same : (concat blocks).groups.Perm ((List.range blocks.length).map Int.ofNat) := by
    apply (List.perm_ext_iff_of_nodup (List.nodup_dedup _) nodup).mpr
    intro group
    show group ∈ (concat blocks).groups ↔ _
    rw [mem_groups, numbered.exists_group_iff, Int.zero_add, List.mem_map]
    constructor
    · rintro ⟨lower, upper⟩
      exact ⟨group.toNat, List.mem_range.mpr (by omega), Int.toNat_of_nonneg lower⟩
    · rintro ⟨number, member, rfl⟩
      have inside := List.mem_range.mp member
      exact ⟨Int.natCast_nonneg _, by simpa using inside⟩
  rw [same.length_eq, List.length_map, List.length_range]

/-- There is one empty row less than there are blocks. -/
theorem Numbered.countP_isSeparator {blocks : List Ports} (numbered : Numbered 0 blocks)
    (words : ∀ port ∈ (concat blocks).members, port.HasWordName) :
    (concat blocks).layout.countP Row.isSeparator = blocks.length - 1 := by
  rcases blocks.eq_nil_or_concat' with rfl | ⟨earlier, block, rfl⟩
  · rw [numbered.layout_concat]
    rfl
  · rw [numbered.layout_concat, intercalate_rows]
    simp only [concat_append, concat_cons, mem_members_append] at words
    have before := countP_isSeparator_rowsBefore fun port member => words port (.inl member)
    have here := countP_isSeparator_rows fun port member => words port (.inr (.inl member))
    simp [before, here]

/-- Between two blocks that follow each other stands an empty row. -/
theorem Numbered.exists_last {earlier later : List Ports} {block next : Ports}
    (numbered : Numbered 0 (earlier ++ block :: next :: later))
    (words : ∀ port ∈ (concat (earlier ++ block :: next :: later)).members, port.HasWordName) :
    let ports := concat (earlier ++ block :: next :: later)
    ∃ last, IsGreatest {index | Row.ShowsGroup ports.layout ports earlier.length index} last ∧
      ports.layout.findIdxNth Row.isSeparator earlier.length = last + 1 ∧
      IsLeast {index | Row.ShowsGroup ports.layout ports (earlier.length + 1 : Nat) index}
        (last + 2) := by
  intro ports
  have cut : earlier ++ block :: next :: later = earlier ++ [block] ++ next :: later := by simp
  have place : (rowsBefore (earlier ++ [block])).length =
      (rowsBefore earlier).length + block.rows.length + 1 := by
    rw [rowsBefore_snoc]
    simp only [List.length_append, List.length_singleton]
    omega
  have here : ∀ index, Row.ShowsGroup ports.layout ports earlier.length index ↔
      (rowsBefore earlier).length ≤ index ∧
        index < (rowsBefore earlier).length + block.rows.length := numbered.showsGroup_iff words
  have there : ∀ index, Row.ShowsGroup ports.layout ports (earlier.length + 1 : Nat) index ↔
      (rowsBefore earlier).length + block.rows.length + 1 ≤ index ∧
        index < (rowsBefore earlier).length + block.rows.length + 1 + next.rows.length := by
    rw [cut] at numbered words
    have shows := numbered.showsGroup_iff words
    rwa [place, ← cut, List.length_append, List.length_singleton] at shows
  obtain ⟨rowsHere, rowsThere⟩ : 0 < block.rows.length ∧ 0 < next.rows.length := by
    cases numbered.of_append.2 with
    | cons nonempty sameGroup behind =>
      cases behind with
      | cons nextNonempty nextGroup behind =>
        exact ⟨List.length_pos_of_ne_nil (rows_ne_nil nonempty),
          List.length_pos_of_ne_nil (rows_ne_nil nextNonempty)⟩
  refine ⟨(rowsBefore earlier).length + block.rows.length - 1, ⟨?_, ?_⟩, ?_, ⟨?_, ?_⟩⟩
  · exact (here _).mpr (by omega)
  · intro index shown
    have := (here index).mp shown
    omega
  · have layout : ports.layout = (rowsBefore earlier ++ block.rows) ++
        Row.empty :: (next.rows ++ later.flatMap fun other => Row.empty :: other.rows) := by
      rw [numbered.layout_concat, intercalate_rows, List.flatMap_cons, List.append_assoc,
        List.cons_append]
    simp only [concat_append, concat_cons, mem_members_append] at words
    have before := countP_isSeparator_rowsBefore fun port member => words port (.inl member)
    have within := countP_isSeparator_rows fun port member => words port (.inr (.inl member))
    have count : (rowsBefore earlier ++ block.rows).countP Row.isSeparator = earlier.length := by
      rw [List.countP_append, before, within, Nat.add_zero]
    rw [layout, ← count, Row.findIdxNth_isSeparator, List.length_append]
    omega
  · exact (there _).mpr (by omega)
  · intro index shown
    have := (there index).mp shown
    omega

/-- Blocks that are numbered from zero, with words for names, are laid out with one empty row
    between two groups. -/
theorem Numbered.isSeparated {blocks : List Ports} (numbered : Numbered 0 blocks)
    (words : ∀ port ∈ (concat blocks).members, port.HasWordName) :
    (concat blocks).IsSeparated := by
  have count := numbered.countP_isSeparator words
  have between : ∀ group : Nat, group + 1 < blocks.length →
      let ports := concat blocks
      ∃ last, IsGreatest {index | Row.ShowsGroup ports.layout ports group index} last ∧
        ports.layout.findIdxNth Row.isSeparator group = last + 1 ∧
        IsLeast {index | Row.ShowsGroup ports.layout ports (group + 1 : Nat) index}
          (last + 2) := by
    intro group inside
    obtain ⟨earlier, block, next, later, rfl, rfl⟩ : ∃ earlier block next later,
        earlier.length = group ∧ blocks = earlier ++ block :: next :: later := by
      refine ⟨blocks.take group, blocks[group], blocks[group + 1], blocks.drop (group + 2), ?_, ?_⟩
      · rw [List.length_take]
        omega
      · rw [← List.drop_eq_getElem_cons, ← List.drop_eq_getElem_cons, List.take_append_drop]
    exact numbered.exists_last words
  refine ⟨?_, ?_, ?_, ?_⟩
  · intro group
    rw [mem_groups, numbered.exists_group_iff, numbered.length_groups, Int.zero_add]
  · rw [count, numbered.length_groups]
  · rw [numbered.length_groups]
    exact between
  · intro index separator
    obtain ⟨row, found, isSeparator⟩ := (Option.any_eq_true _ _).mp separator
    obtain ⟨inside, rfl⟩ := List.getElem?_eq_some_iff.mp found
    have number := List.findIdxNth_countPBefore_of_lt_length_of_pos isSeparator
    have few := List.countPBefore_lt_countP_of_lt_length_of_pos isSeparator
    rw [count] at few
    obtain ⟨last, -, place, ⟨port, -, shown⟩, -⟩ :=
      between ((concat blocks).layout.countPBefore Row.isSeparator index) (by omega)
    obtain ⟨further, noSeparator⟩ := shown.isSeparator_eq_false
    obtain rfl : index = last + 1 := number.symm.trans place
    exact ⟨by omega, further, noSeparator⟩

end Ports

end EntityDiagram
