import EntityDiagram.Proofs.Diagram.Separators
import EntityDiagram.Proofs.Source.Content

/-!
The groups of what a reading finds. A scanner of the port clause has closed some blocks of ports and
fills another one; a blank line closes the block if there is a port in it. So the groups of a source
count up from zero without a gap, its layout has one empty row between two of them, and its diagram
shows everything of its ports except which of the outputs are bidirectional or buffers, and how
inputs and outputs took turns.
-/

namespace EntityDiagram

namespace Ports

theorem concat_snoc (blocks : List Ports) (block : Ports) :
    concat (blocks ++ [block]) = concat blocks ++ block := by
  rw [concat_append, concat_cons, concat_nil, append_empty]

/-- A block of the next group goes on with the numbers. -/
theorem Numbered.snoc {first : Int} {blocks : List Ports} (numbered : Numbered first blocks)
    {block : Ports} (nonempty : block.members ≠ [])
    (sameGroup : ∀ port ∈ block.members, port.group = first + blocks.length) :
    Numbered first (blocks ++ [block]) := by
  induction numbered with
  | nil first =>
    apply Numbered.cons nonempty _ (.nil _)
    simpa using sameGroup
  | cons nonemptyFirst sameFirst later ih =>
    apply Numbered.cons nonemptyFirst sameFirst
    apply ih
    intro port member
    rw [sameGroup port member, List.length_cons]
    omega

theorem append_add (first second : Ports) (port : Port) :
    (first ++ second).add port = first ++ second.add port := by
  show _ = Ports.mk _ _
  cases side : port.direction.isInput <;> simp [add, side]

theorem eq_empty_of_members_eq_nil {ports : Ports} (nothing : ports.members = []) :
    ports = empty := by
  obtain ⟨inputs, outputs⟩ := List.append_eq_nil_iff.mp nothing
  cases ports
  simp only at inputs outputs
  rw [inputs, outputs]
  rfl

theorem mem_members_add {ports : Ports} {port other : Port} :
    other ∈ (ports.add port).members ↔ other ∈ ports.members ∨ other = port := by
  simp only [mem_members, add]
  cases port.direction.isInput with
  | true => simp [or_right_comm]
  | false => simp [or_assoc]

end Ports

namespace Scanner

/-- A scanner of the port clause that has closed some blocks and fills a further one. -/
structure InBlocks (scanner : Scanner) (closed : List Ports) (current : Ports) : Prop where
  phase : scanner.phase = .inPorts
  numbered : Ports.Numbered 0 closed
  group : scanner.group = closed.length
  sameGroup : ∀ port ∈ current.members, port.group = scanner.group
  groupEmpty : scanner.groupEmpty = true ↔ current.members = []
  ports : scanner.ports = Ports.concat closed ++ current
  words : ∀ port ∈ scanner.ports.members, port.HasWordName

variable {scanner : Scanner} {closed : List Ports} {current : Ports}

theorem inBlocks_inClause : inClause.InBlocks [] .empty where
  phase := rfl
  numbered := .nil 0
  group := rfl
  sameGroup := nofun
  groupEmpty := iff_of_true rfl rfl
  ports := rfl
  words := nofun

/-- A blank line closes the block at hand unless it is empty. -/
theorem InBlocks.separate (known : scanner.InBlocks closed current) :
    ∃ closed current, scanner.separate.scanner.InBlocks closed current := by
  by_cases empty : scanner.groupEmpty = true
  · rw [Scanner.separate, if_pos empty]
    exact ⟨closed, current, known⟩
  · have nonempty : current.members ≠ [] := fun nothing => empty (known.groupEmpty.mpr nothing)
    have sameGroup : ∀ port ∈ current.members, port.group = 0 + closed.length := by
      intro port member
      rw [known.sameGroup port member, known.group, Int.zero_add]
    rw [Scanner.separate, if_neg empty]
    refine ⟨closed ++ [current], .empty, known.phase, known.numbered.snoc nonempty sameGroup, ?_,
      ?_, iff_of_true rfl rfl, ?_, known.words⟩
    · show scanner.group + 1 = _
      rw [known.group, List.length_append, List.length_singleton]
    · intro port member
      cases member
    · show scanner.ports = _
      rw [known.ports, Ports.concat_snoc, Ports.append_empty]

/-- A declaration puts its port into the block at hand. -/
theorem InBlocks.addPort (known : scanner.InBlocks closed current) {port : Port}
    (group : port.group = scanner.group) (word : port.HasWordName) :
    (scanner.addPort port).scanner.InBlocks closed (current.add port) := by
  refine ⟨known.phase, known.numbered, known.group, ?_, ?_, ?_, ?_⟩
  · intro other member
    rcases Ports.mem_members_add.mp member with before | rfl
    · exact known.sameGroup other before
    · exact group
  · apply iff_of_false (by simp [Scanner.addPort])
    exact List.ne_nil_of_mem (Ports.mem_members_add.mpr (.inr rfl))
  · show scanner.ports.add port = _
    rw [known.ports, Ports.append_add]
  · intro other member
    rcases Ports.mem_members_add.mp member with before | rfl
    · exact known.words other before
    · exact word

/-- Every line that does not stop the reading keeps the ports in blocks. -/
theorem InBlocks.read (known : scanner.InBlocks closed current) {line : Line}
    (runs : line.stops = false) :
    ∃ closed current, (scanner.read line).scanner.InBlocks closed current := by
  cases clauseStep known.phase runs with
  | skipped kind step =>
    rw [step]
    exact ⟨closed, current, known⟩
  | blank kind step =>
    rw [step]
    exact known.separate
  | declaration spelling written direction spelled step =>
    rw [step]
    refine ⟨closed, _, known.addPort rfl ?_⟩
    rw [Port.HasWordName, String.toList_ofList]
    exact spelling.name_word

theorem exists_inBlocks_readAll {lines : List Line} (runs : ∀ line ∈ lines, line.stops = false) :
    ∃ closed current, (inClause.readAll lines).InBlocks closed current := by
  induction lines using List.reverseRecOn with
  | nil => exact ⟨[], .empty, inBlocks_inClause⟩
  | append_singleton lines line ih =>
    obtain ⟨closed, current, known⟩ := ih fun other member => runs other (by simp [member])
    rw [readAll_concat]
    exact known.read (runs line (by simp))

/-- The block at hand is one more block, or it is empty. -/
theorem InBlocks.exists_numbered (known : scanner.InBlocks closed current) :
    ∃ blocks, Ports.Numbered 0 blocks ∧ scanner.ports = Ports.concat blocks := by
  by_cases empty : current.members = []
  · refine ⟨closed, known.numbered, ?_⟩
    rw [known.ports, Ports.eq_empty_of_members_eq_nil empty, Ports.append_empty]
  · refine ⟨closed ++ [current], known.numbered.snoc empty ?_, ?_⟩
    · intro port member
      rw [known.sameGroup port member, known.group, Int.zero_add]
    · rw [known.ports, Ports.concat_snoc]

/-- All groups up to the one at hand have ports, and that one has some unless it is empty. -/
theorem InBlocks.length_groups {scanner : Scanner} {closed : List Ports} {current : Ports}
    (known : scanner.InBlocks closed current) :
    scanner.ports.groups.length + (if scanner.groupEmpty then 1 else 0) = scanner.group + 1 := by
  cases empty : scanner.groupEmpty with
  | true =>
    have nothing := Ports.eq_empty_of_members_eq_nil (known.groupEmpty.mp empty)
    rw [known.ports, nothing, Ports.append_empty, known.numbered.length_groups, known.group]
    rfl
  | false =>
    have nonempty : current.members ≠ [] := by
      intro nothing
      rw [known.groupEmpty.mpr nothing] at empty
      cases empty
    have numbered := known.numbered.snoc nonempty fun port member => by
      rw [known.sameGroup port member, known.group, Int.zero_add]
    rw [known.ports, ← Ports.concat_snoc, numbered.length_groups, known.group,
      List.length_append, List.length_singleton]
    rfl

end Scanner

namespace Reading

/-- The ports that a reading finds are blocks whose groups count up from zero, and the names of the
    ports are words. -/
theorem exists_numbered_of_result_eq_ok {lines : List String} {source : String} {ports : Ports}
    (success : (ofLines lines).result source = .ok ports) :
    ∃ blocks, Ports.Numbered 0 blocks ∧ ports = Ports.concat blocks ∧
      ∀ port ∈ ports.members, port.HasWordName := by
  obtain ⟨port, finish, portFound, finishFound, noRefusal, rfl⟩ :=
    exists_landmarks_of_result_eq_ok success
  obtain ⟨closed, current, known⟩ := Scanner.exists_inBlocks_readAll
    fun line member => stops_eq_false_of_mem_clause portFound finishFound noRefusal member
  obtain ⟨blocks, numbered, same⟩ := known.exists_numbered
  exact ⟨blocks, numbered, same, known.words⟩

/-- Every group that has begun has ports in the end, except for the last one if there are no ports
    at all or a blank line follows the last declaration. -/
theorem length_groups_of_result_eq_ok {lines : List String} {source : String} {ports : Ports}
    (success : (ofLines lines).result source = .ok ports) :
    ∃ port finish, EntersAt lines .inPorts port ∧ EntersAt lines .complete finish ∧
      let body := (clause port finish (scanned lines)).filter (!·.isComment)
      (ofLines lines).scanner.group + 1 = ports.groups.length +
        if ports.count = 0 ∨ Body.BlankFollowsLast body then 1 else 0 := by
  obtain ⟨port, finish, portFound, finishFound, noRefusal, rfl⟩ :=
    exists_landmarks_of_result_eq_ok success
  obtain ⟨scanner, -, -⟩ := scanLines_of_finish? portFound finishFound noRefusal
  have runs : ∀ line ∈ clause port finish (scanned lines), line.stops = false :=
    fun line member => stops_eq_false_of_mem_clause portFound finishFound noRefusal member
  rw [← ofLines_eq_scanLines] at scanner
  refine ⟨port, finish, entersAt_of_port? portFound, entersAt_of_finish? finishFound noRefusal, ?_⟩
  intro body
  have bodyLines : ∀ line ∈ body, line.isComment = false ∧ line.stops = false := by
    intro line member
    obtain ⟨inClause, code⟩ := List.mem_filter.mp member
    exact ⟨by simpa using code, runs line inClause⟩
  have known := Scanner.hasRead_readAll bodyLines
  rw [Scanner.readAll_filter_isComment] at known
  obtain ⟨closed, current, inBlocks⟩ := Scanner.exists_inBlocks_readAll runs
  have empty : (Scanner.inClause.readAll (clause port finish (scanned lines))).groupEmpty = true ↔
      (Scanner.inClause.readAll (clause port finish (scanned lines))).ports.count = 0 ∨
        Body.BlankFollowsLast body := by
    rw [known.groupEmpty, Body.not_followsDeclaration_iff, known.count, List.length_eq_zero_iff]
  rw [scanner, ← inBlocks.length_groups]
  simp only [empty]

/-- Two sources that are read well have the same diagram exactly if their inputs agree in group,
    name and kind, one after the other, and so do their outputs. -/
theorem diagram_eq_iff {first second : List String} {firstSource secondSource : String}
    {firstPorts secondPorts : Ports}
    (firstSuccess : (ofLines first).result firstSource = .ok firstPorts)
    (secondSuccess : (ofLines second).result secondSource = .ok secondPorts) :
    firstPorts.diagram = secondPorts.diagram ↔
      firstPorts.inputs.map Port.shown = secondPorts.inputs.map Port.shown ∧
        firstPorts.outputs.map Port.shown = secondPorts.outputs.map Port.shown := by
  constructor
  · intro same
    obtain ⟨blocks, numbered, rfl, words⟩ := exists_numbered_of_result_eq_ok firstSuccess
    obtain ⟨others, otherNumbered, rfl, otherWords⟩ :=
      exists_numbered_of_result_eq_ok secondSuccess
    exact numbered.map_shown_eq_of_diagram otherNumbered words otherWords same
  · rintro ⟨inputs, outputs⟩
    exact Ports.diagram_congr inputs outputs

/-- The ports of `twoGroups` in another entity. The output is a buffer here. -/
def twoGroupsAgain : List String :=
  ["ENTITY f IS PORT (", "", "port : in std_logic;", "   ", "",
    "data : buffer std_logic_vector(3 downto 0)", ");", "END"]

theorem diagram_eq_iff_twoGroups :
    let ports : Ports := ⟨[⟨0, "port", false, .input⟩], [⟨1, "data", true, .bidirectional⟩]⟩
    let portsAgain : Ports := ⟨[⟨0, "port", false, .input⟩], [⟨1, "data", true, .buffer⟩]⟩
    (ofLines twoGroups).result "s" = .ok ports ∧
      (ofLines twoGroupsAgain).result "t" = .ok portsAgain ∧
      ports.diagram = portsAgain.diagram := by
  intro ports portsAgain
  have success : (ofLines twoGroups).result "s" = .ok ports := by decide +kernel
  have successAgain : (ofLines twoGroupsAgain).result "t" = .ok portsAgain := by decide +kernel
  exact ⟨success, successAgain, (diagram_eq_iff success successAgain).mpr ⟨rfl, rfl⟩⟩

/-- The groups of a source that is read well count up from zero, and its layout has one empty row
    between two groups and nowhere else. -/
theorem isSeparated_of_result_eq_ok {lines : List String} {source : String} {ports : Ports}
    (success : (ofLines lines).result source = .ok ports) : ports.IsSeparated := by
  obtain ⟨blocks, numbered, rfl, words⟩ := exists_numbered_of_result_eq_ok success
  exact numbered.isSeparated words

theorem isSeparated_of_twoGroups :
    let ports : Ports := ⟨[⟨0, "port", false, .input⟩], [⟨1, "data", true, .bidirectional⟩]⟩
    (ofLines twoGroups).result "s" = .ok ports ∧ ports.IsSeparated := by
  intro ports
  have success : (ofLines twoGroups).result "s" = .ok ports := by decide +kernel
  exact ⟨success, isSeparated_of_result_eq_ok success⟩

end Reading

end EntityDiagram
