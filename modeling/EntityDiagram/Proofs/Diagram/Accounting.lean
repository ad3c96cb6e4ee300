import EntityDiagram.Proofs.Diagram.Separators

/-!
What the layout of any ports shows, sorted by group or not. The rows account for the ports: each
port is shown once, in order on its side, ports that share a row share their group, and an empty row
stands just where the group changes from one port to the next. All this is said of rows behind a
group, so that one more slot in front of them keeps it.
-/

namespace EntityDiagram

namespace Row

/-- Rows behind a group account for ports: the texts of a side are the labels of its ports, two
    ports in one row have the same group, every row but the empty ones shows ports of one group, and
    exactly one empty row stands where that group is another than before, and nowhere else. -/
structure AccountFor (before : Int) (rows : List Row) (ports : Ports) : Prop where
  lefts : (rows.map left).filter (· ≠ "") = ports.inputs.map Port.label
  rights : (rows.map right).filter (· ≠ "") = ports.outputs.map Port.label
  paired : ∀ index row, rows[index]? = some row → row.left ≠ "" → row.right ≠ "" →
    ∃ input output, ShowsOn left rows ports.inputs index input ∧
      ShowsOn right rows ports.outputs index output ∧ input.group = output.group
  known : ∀ index row, rows[index]? = some row →
    row = empty ∨ ∃ group, ShowsGroup rows ports group index
  unique : ∀ index group other, ShowsGroup rows ports group index →
    ShowsGroup rows ports other index → group = other
  first : ∀ index group, ShowsGroup rows ports group index →
    (∀ earlier < index, ∀ other, ¬ ShowsGroup rows ports other earlier) →
      index = if group = before then 0 else 1
  next : ∀ index later group other, ShowsGroup rows ports group index →
    ShowsGroup rows ports other later → index < later →
      (∀ middle, index < middle → middle < later → ∀ third, ¬ ShowsGroup rows ports third middle) →
        later = if other = group then index + 1 else index + 2
  last : rows ≠ [] → ∃ group, ShowsGroup rows ports group (rows.length - 1)

theorem not_showsGroup_empty {rows : List Row} {group : Int} {index : Nat} :
    ¬ ShowsGroup rows .empty group index := by
  rintro ⟨port, -, shown⟩
  cases shown.mem

end Row

namespace Slot

/-- The rows between a slot and a group before it. -/
def gap (before : Int) (slot : Slot) : List Row :=
  if slot.group = before then [] else [Row.empty]

/-- Rows behind a group, with the row of a slot in front of them. -/
def inFront (slot : Slot) (before : Int) (rows : List Row) : List Row :=
  slot.gap before ++ ([slot.row] ++ rows)

/-- A slot of ports of one group, none of which has an empty label. -/
structure IsSound (slot : Slot) : Prop where
  labels : ∀ port ∈ slot.ports.members, port.label ≠ ""
  sameGroup : ∀ port ∈ slot.ports.members, port.group = slot.group

theorem rowsBehind_cons (before : Int) (slot : Slot) (slots : List Slot) :
    rowsBehind before (slot :: slots) = slot.inFront before (rowsBehind slot.group slots) := by
  rw [rowsBehind, inFront, gap]
  split
  · rename_i same
    rw [same]
    rfl
  · rfl

theorem texts_gap (before : Int) (slot : Slot) :
    ((slot.gap before).map Row.left).filter (· ≠ "") = [] ∧
      ((slot.gap before).map Row.right).filter (· ≠ "") = [] := by
  rw [gap]
  split
  · exact ⟨rfl, rfl⟩
  · exact ⟨by decide, by decide⟩

theorem fit_gap (before : Int) (slot : Slot) : Row.Fit (slot.gap before) .empty :=
  Row.fit_of_texts (texts_gap before slot).1 (texts_gap before slot).2

theorem length_gap (before : Int) (slot : Slot) :
    (slot.gap before).length = if slot.group = before then 0 else 1 := by
  rw [gap]
  split
  · rfl
  · rfl

theorem eq_empty_of_mem_gap {before : Int} {slot : Slot} {row : Row}
    (member : row ∈ slot.gap before) : row = Row.empty := by
  rw [gap] at member
  split at member
  · cases member
  · exact List.mem_singleton.mp member

section Step

variable {before : Int} {slot : Slot} {rows : List Row} {ports : Ports} {index : Nat}

/-- An index tells a row of the gap, the row of the slot, or a row behind it. -/
theorem index_cases (before : Int) (slot : Slot) (index : Nat) :
    index < (slot.gap before).length ∨ index = (slot.gap before).length + 0 ∨
      ∃ offset, index = (slot.gap before).length + (1 + offset) := by
  rcases Nat.lt_trichotomy index (slot.gap before).length with inside | here | behind
  · exact .inl inside
  · exact .inr (.inl here)
  · obtain ⟨offset, place⟩ := Nat.exists_eq_add_of_lt behind
    exact .inr (.inr ⟨offset, by omega⟩)

theorem not_shows_of_inside (inside : index < (slot.gap before).length) {port : Port} :
    ¬ Row.Shows (slot.inFront before rows) (slot.ports ++ ports) index port := by
  intro shown
  have behindNone : Row.Shows (slot.inFront before rows) (.empty ++ (slot.ports ++ ports)) index
      port := shown
  cases ((Row.shows_append_of_lt (fit_gap before slot) inside).mp behindNone).mem

theorem IsSound.shows_slot_iff (sound : slot.IsSound) {port : Port} :
    Row.Shows (slot.inFront before rows) (slot.ports ++ ports) ((slot.gap before).length + 0) port ↔
      Row.Shows [slot.row] slot.ports 0 port :=
  (Row.shows_append_add (fit_gap before slot)).trans
    (Row.shows_append_of_lt (fit_row sound.labels) Nat.one_pos)

theorem IsSound.shows_add_iff (sound : slot.IsSound) {offset : Nat} {port : Port} :
    Row.Shows (slot.inFront before rows) (slot.ports ++ ports)
        ((slot.gap before).length + (1 + offset)) port ↔
      Row.Shows rows ports offset port :=
  (Row.shows_append_add (fit_gap before slot)).trans (Row.shows_append_add (fit_row sound.labels))

/-- A slot in front of rows shows its group behind the gap, and the rows show what they do without
    it. -/
theorem IsSound.showsGroup_iff (sound : slot.IsSound) {group : Int} :
    Row.ShowsGroup (slot.inFront before rows) (slot.ports ++ ports) group index ↔
      (index = (slot.gap before).length ∧ group = slot.group) ∨
        ∃ offset, index = (slot.gap before).length + (1 + offset) ∧
          Row.ShowsGroup rows ports group offset := by
  constructor
  · rintro ⟨port, rfl, shown⟩
    rcases index_cases before slot index with inside | rfl | ⟨offset, rfl⟩
    · exact absurd shown (not_shows_of_inside inside)
    · have member := (sound.shows_slot_iff.mp shown).mem
      exact .inl ⟨rfl, sound.sameGroup port member⟩
    · exact .inr ⟨offset, rfl, port, rfl, sound.shows_add_iff.mp shown⟩
  · rintro (⟨rfl, rfl⟩ | ⟨offset, rfl, port, rfl, shown⟩)
    · obtain ⟨port, shown⟩ := exists_shows_row sound.labels
      exact ⟨port, sound.sameGroup port shown.mem, sound.shows_slot_iff.mpr shown⟩
    · exact ⟨port, rfl, sound.shows_add_iff.mpr shown⟩

theorem IsSound.showsGroup_slot (sound : slot.IsSound) :
    Row.ShowsGroup (slot.inFront before rows) (slot.ports ++ ports) slot.group
      ((slot.gap before).length + 0) :=
  sound.showsGroup_iff.mpr (.inl ⟨rfl, rfl⟩)

theorem IsSound.showsGroup_add (sound : slot.IsSound) {group : Int} {offset : Nat}
    (shown : Row.ShowsGroup rows ports group offset) :
    Row.ShowsGroup (slot.inFront before rows) (slot.ports ++ ports) group
      ((slot.gap before).length + (1 + offset)) :=
  sound.showsGroup_iff.mpr (.inr ⟨offset, rfl, shown⟩)

theorem getElem?_inFront :
    (slot.inFront before rows)[(slot.gap before).length + 0]? = some slot.row := by
  rw [inFront, List.getElem?_append_right (Nat.le_add_right _ _), Nat.add_sub_cancel_left]
  rfl

theorem getElem?_inFront_add {offset : Nat} :
    (slot.inFront before rows)[(slot.gap before).length + (1 + offset)]? = rows[offset]? := by
  rw [inFront, List.getElem?_append_right (Nat.le_add_right _ _), Nat.add_sub_cancel_left,
    Nat.add_comm]
  rfl

theorem eq_empty_of_inside (inside : index < (slot.gap before).length) {row : Row}
    (found : (slot.inFront before rows)[index]? = some row) : row = Row.empty := by
  rw [inFront, List.getElem?_append_left inside] at found
  exact eq_empty_of_mem_gap (List.mem_of_getElem? found)

/-- Two texts in the row of a slot belong to ports of one group. -/
theorem IsSound.paired_row (sound : slot.IsSound) (leftText : slot.row.left ≠ "")
    (rightText : slot.row.right ≠ "") :
    ∃ input output, Row.ShowsOn Row.left [slot.row] slot.ports.inputs 0 input ∧
      Row.ShowsOn Row.right [slot.row] slot.ports.outputs 0 output ∧
      input.group = output.group := by
  have sameGroup := sound.sameGroup
  cases slot with
  | left input => exact absurd rfl rightText
  | right output => exact absurd rfl leftText
  | both input output =>
    have inputGroup := sameGroup input (by simp [Slot.ports, Ports.members])
    have outputGroup := sameGroup output (by simp [Slot.ports, Ports.members])
    exact ⟨input, output, ⟨_, rfl, leftText, rfl, rfl⟩, ⟨_, rfl, rightText, rfl, rfl⟩,
      inputGroup.trans outputGroup.symm⟩

/-- With a slot in front of the rows, too, two texts in a row belong to ports of one group. -/
theorem IsSound.paired (sound : slot.IsSound) (account : Row.AccountFor slot.group rows ports)
    {row : Row} (found : (slot.inFront before rows)[index]? = some row) (leftText : row.left ≠ "")
    (rightText : row.right ≠ "") :
    ∃ input output,
      Row.ShowsOn Row.left (slot.inFront before rows) (slot.ports ++ ports).inputs index input ∧
        Row.ShowsOn Row.right (slot.inFront before rows) (slot.ports ++ ports).outputs index
          output ∧ input.group = output.group := by
  have fitGap := fit_gap before slot
  have fitRow := fit_row sound.labels
  rcases index_cases before slot index with inside | rfl | ⟨offset, rfl⟩
  · rw [eq_empty_of_inside inside found] at leftText
    exact absurd rfl leftText
  · obtain rfl : slot.row = row := Option.some.inj (getElem?_inFront.symm.trans found)
    obtain ⟨input, output, onLeft, onRight, same⟩ := sound.paired_row leftText rightText
    exact ⟨input, output,
      (Row.showsOn_append_add fitGap.inputs).mpr
        ((Row.showsOn_append_of_lt fitRow.inputs Nat.one_pos).mpr onLeft),
      (Row.showsOn_append_add fitGap.outputs).mpr
        ((Row.showsOn_append_of_lt fitRow.outputs Nat.one_pos).mpr onRight), same⟩
  · obtain ⟨input, output, onLeft, onRight, same⟩ :=
      account.paired offset row (getElem?_inFront_add.symm.trans found) leftText rightText
    exact ⟨input, output,
      (Row.showsOn_append_add fitGap.inputs).mpr
        ((Row.showsOn_append_add fitRow.inputs).mpr onLeft),
      (Row.showsOn_append_add fitGap.outputs).mpr
        ((Row.showsOn_append_add fitRow.outputs).mpr onRight), same⟩

/-- With a slot in front of the rows, too, the group tells where the next row with a port stands. -/
theorem IsSound.next (sound : slot.IsSound) (account : Row.AccountFor slot.group rows ports)
    {later : Nat} {group other : Int}
    (shown : Row.ShowsGroup (slot.inFront before rows) (slot.ports ++ ports) group
      index)
    (otherShown : Row.ShowsGroup (slot.inFront before rows) (slot.ports ++ ports)
      other later)
    (order : index < later)
    (noneBetween : ∀ middle, index < middle → middle < later → ∀ third,
      ¬ Row.ShowsGroup (slot.inFront before rows) (slot.ports ++ ports) third
        middle) :
    later = if other = group then index + 1 else index + 2 := by
  rcases sound.showsGroup_iff.mp shown with ⟨rfl, rfl⟩ | ⟨offset, rfl, behind⟩
  · rcases sound.showsGroup_iff.mp otherShown with ⟨rfl, -⟩ | ⟨otherOffset, rfl, otherBehind⟩
    · exact absurd order (Nat.lt_irrefl _)
    · have noneEarlier : ∀ earlier < otherOffset, ∀ third,
          ¬ Row.ShowsGroup rows ports third earlier :=
        fun earlier before third thirdBehind =>
          noneBetween _ (by omega) (by omega) third (sound.showsGroup_add thirdBehind)
      have place := account.first otherOffset other otherBehind noneEarlier
      by_cases same : other = slot.group
      · rw [if_pos same] at place ⊢
        omega
      · rw [if_neg same] at place ⊢
        omega
  · rcases sound.showsGroup_iff.mp otherShown with ⟨rfl, -⟩ | ⟨otherOffset, rfl, otherBehind⟩
    · omega
    · have noneMiddle : ∀ middle, offset < middle → middle < otherOffset → ∀ third,
          ¬ Row.ShowsGroup rows ports third middle :=
        fun middle above below third thirdBehind =>
          noneBetween _ (by omega) (by omega) third (sound.showsGroup_add thirdBehind)
      have place := account.next offset otherOffset group other behind otherBehind (by omega)
        noneMiddle
      by_cases same : other = group
      · rw [if_pos same] at place ⊢
        omega
      · rw [if_neg same] at place ⊢
        omega

/-- Rows that account for ports still do so with one more slot in front of them. -/
theorem IsSound.accountFor (sound : slot.IsSound) (account : Row.AccountFor slot.group rows ports) :
    Row.AccountFor before (slot.inFront before rows) (slot.ports ++ ports) where
  lefts := by
    rw [inFront, List.map_append, List.map_append, List.filter_append, List.filter_append,
      (texts_gap before slot).1, account.lefts, Ports.inputs_append, List.map_append,
      (texts_row sound.labels).1, List.nil_append]
  rights := by
    rw [inFront, List.map_append, List.map_append, List.filter_append, List.filter_append,
      (texts_gap before slot).2, account.rights, Ports.outputs_append, List.map_append,
      (texts_row sound.labels).2, List.nil_append]
  paired index row found leftText rightText := sound.paired account found leftText rightText
  known index row found := by
    rcases index_cases before slot index with inside | rfl | ⟨offset, rfl⟩
    · exact .inl (eq_empty_of_inside inside found)
    · exact .inr ⟨slot.group, sound.showsGroup_slot⟩
    · rcases account.known offset row (getElem?_inFront_add.symm.trans found) with empty | shown
      · exact .inl empty
      · obtain ⟨group, shown⟩ := shown
        exact .inr ⟨group, sound.showsGroup_add shown⟩
  unique index group other shown otherShown := by
    rcases sound.showsGroup_iff.mp shown with ⟨rfl, rfl⟩ | ⟨offset, rfl, behind⟩
    · rcases sound.showsGroup_iff.mp otherShown with ⟨-, same⟩ | ⟨offset, place, -⟩
      · exact same.symm
      · omega
    · rcases sound.showsGroup_iff.mp otherShown with ⟨place, -⟩ | ⟨otherOffset, place, otherBehind⟩
      · omega
      · obtain rfl : offset = otherOffset := by omega
        exact account.unique offset group other behind otherBehind
  first index group shown noneEarlier := by
    rcases sound.showsGroup_iff.mp shown with ⟨rfl, rfl⟩ | ⟨offset, rfl, -⟩
    · exact length_gap before slot
    · exact absurd sound.showsGroup_slot (noneEarlier _ (by omega) slot.group)
  next index later group other shown otherShown order noneBetween :=
    sound.next account shown otherShown order noneBetween
  last _ := by
    cases rows with
    | nil =>
      have place : (slot.inFront before []).length - 1 =
          (slot.gap before).length + 0 := by simp [inFront]
      exact ⟨slot.group, by rw [place]; exact sound.showsGroup_slot⟩
    | cons row rows =>
      obtain ⟨group, shown⟩ := account.last (List.cons_ne_nil row rows)
      have place : (slot.inFront before (row :: rows)).length - 1 =
          (slot.gap before).length + (1 + ((row :: rows).length - 1)) := by
        simp only [inFront, List.length_append, List.length_cons, List.length_nil]
        omega
      exact ⟨group, by rw [place]; exact sound.showsGroup_add shown⟩

end Step

/-- No rows account for no ports. -/
theorem accountFor_nil (before : Int) : Row.AccountFor before [] .empty where
  lefts := rfl
  rights := rfl
  paired := nofun
  known := nofun
  unique _ _ _ shown := absurd shown Row.not_showsGroup_empty
  first _ _ shown := absurd shown Row.not_showsGroup_empty
  next _ _ _ _ shown := absurd shown Row.not_showsGroup_empty
  last nonempty := absurd rfl nonempty

/-- The rows of slots account for the ports in the slots. -/
theorem accountFor_rowsBehind {slots : List Slot} (sound : ∀ slot ∈ slots, slot.IsSound)
    (before : Int) :
    Row.AccountFor before (rowsBehind before slots) (Ports.concat (slots.map ports)) := by
  induction slots generalizing before with
  | nil => exact accountFor_nil before
  | cons slot slots ih =>
    have here := sound slot List.mem_cons_self
    have later := ih (fun other member => sound other (List.mem_cons_of_mem _ member)) slot.group
    rw [rowsBehind_cons]
    exact here.accountFor later

theorem isSound_of_mem_ofPorts {inputs outputs : List Port}
    (labels : ∀ port ∈ inputs ++ outputs, port.label ≠ "") {slot : Slot}
    (member : slot ∈ ofPorts inputs outputs) : slot.IsSound := by
  obtain ⟨fromInputs, fromOutputs⟩ := mem_of_mem_ofPorts member
  cases slot with
  | left input =>
    have label := labels input (List.mem_append_left _ (fromInputs input rfl))
    exact ⟨by simpa [ports, Ports.members] using label, by simp [ports, Ports.members, group]⟩
  | right output =>
    have label := labels output (List.mem_append_right _ (fromOutputs output rfl))
    exact ⟨by simpa [ports, Ports.members] using label, by simp [ports, Ports.members, group]⟩
  | both input output =>
    have label := labels input (List.mem_append_left _ (fromInputs input rfl))
    have otherLabel := labels output (List.mem_append_right _ (fromOutputs output rfl))
    have same := group_eq_of_mem_ofPorts member
    exact ⟨by simpa [ports, Ports.members] using ⟨label, otherLabel⟩,
      by simp [ports, Ports.members, group, same]⟩

end Slot

namespace Ports

/-- The layout of ports accounts for them, whatever their groups and the order of these: no port is
    lost, shown twice, moved on its side or put beside a port of another group, and an empty row
    stands just where the group changes, from group zero before the first row on. -/
theorem accountFor_layout {ports : Ports} (labels : ∀ port ∈ ports.members, port.label ≠ "") :
    Row.AccountFor 0 ports.layout ports := by
  have sound : ∀ slot ∈ Slot.ofPorts ports.inputs ports.outputs, slot.IsSound :=
    fun slot member => Slot.isSound_of_mem_ofPorts labels member
  have account := Slot.accountFor_rowsBehind sound 0
  rwa [Slot.concat_ports_ofPorts] at account

/-- Ports of two entities, one behind the other, so that the groups begin anew. -/
def unsorted : Ports :=
  ⟨[⟨1, "a", false, .input⟩, ⟨0, "b", true, .input⟩],
    [⟨0, "x", false, .output⟩, ⟨1, "y", false, .output⟩, ⟨-3, "z", false, .buffer⟩]⟩

theorem accountFor_layout_unsorted :
    (∀ port ∈ unsorted.members, port.label ≠ "") ∧ Row.AccountFor 0 unsorted.layout unsorted := by
  have labels : ∀ port ∈ unsorted.members, port.label ≠ "" := by decide
  exact ⟨labels, accountFor_layout labels⟩

example : unsorted.layout =
    [⟨"", "x"⟩, ⟨"", ""⟩, ⟨"a", "y"⟩, ⟨"", ""⟩, ⟨"", "z"⟩, ⟨"", ""⟩, ⟨"b[]", ""⟩] := by
  decide +kernel

end Ports

end EntityDiagram
