import EntityDiagram.Proofs.Diagram.Drawing
import EntityDiagram.Proofs.Source.Body
import EntityDiagram.Proofs.Source.WrittenPort

/-!
Entities written out group by group. Every such text is read well, and the diagram of what is read
shows the groups as they were written: one block of rows for each, inputs on the left and all other
ports on the right, with one empty row between two blocks.
-/

namespace EntityDiagram

/-- Ports that stand together, at least one. -/
structure WrittenGroup where
  ports : List WrittenPort
  ports_ne_nil : ports ≠ []

/-- A group with the lines of white space that set it apart from the group before it, at least
    one. -/
structure SeparateGroup where
  blanks : List BlankLine
  blanks_ne_nil : blanks ≠ []
  group : WrittenGroup

/-- An entity with one group of ports or more. -/
structure WrittenEntity where
  first : WrittenGroup
  others : List SeparateGroup

namespace WrittenGroup

def lines (written : WrittenGroup) : List Line := written.ports.map WrittenPort.line

/-- The ports on their sides, in a group. -/
def block (written : WrittenGroup) (group : Int) : Ports :=
  Ports.ofList (written.ports.map (·.port group))

/-- The rows of the group: the labels of the inputs paired with those of all other ports. -/
def rows (written : WrittenGroup) : List Row :=
  Row.pairs ((written.ports.filter (·.direction.isInput)).map WrittenPort.label)
    ((written.ports.filter (!·.direction.isInput)).map WrittenPort.label)

/-- The blocks of groups that are numbered on from `group`. -/
def blocks (group : Int) : List WrittenGroup → List Ports
  | [] => []
  | written :: others => written.block group :: blocks (group + 1) others

end WrittenGroup

def SeparateGroup.lines (separate : SeparateGroup) : List Line :=
  separate.blanks.map BlankLine.text ++ separate.group.lines

namespace WrittenEntity

def groups (entity : WrittenEntity) : List WrittenGroup :=
  entity.first :: entity.others.map SeparateGroup.group

/-- The lines between the one that opens the port clause and the one that closes it. -/
def body (entity : WrittenEntity) : List Line :=
  entity.first.lines ++ entity.others.flatMap SeparateGroup.lines

def lines (entity : WrittenEntity) : List Line :=
  "entity e is".toList :: "port (".toList :: (entity.body ++ [");".toList, "end e;".toList])

/-- The text of the entity, line by line. -/
def text (entity : WrittenEntity) : String := Text.joinLines (entity.lines.map String.ofList)

/-- The rows of all groups, with an empty row between two groups. -/
def rows (entity : WrittenEntity) : List Row :=
  [Row.empty].intercalate (entity.groups.map WrittenGroup.rows)

end WrittenEntity

/-! ### The blocks of a written entity -/

namespace Ports

theorem append_ofList_cons (ports : Ports) (port : Port) (others : List Port) :
    ports ++ ofList (port :: others) = ports.add port ++ ofList others := by
  show Ports.mk _ _ = Ports.mk _ _
  cases side : port.direction.isInput <;> simp [ofList, add, side]

end Ports

namespace WrittenGroup

end WrittenGroup

/-! ### Reading a written entity -/

/-- A source whose first line opens the entity and whose second line opens the port clause is read
    well if no line stops the reading before the last one, which ends the clause. -/
theorem Reading.result_of_clause {opening portLine finish : Line} {body : List Line}
    (entity : opening.marks .entity = true) (noPort : opening.marks .port = false)
    (port : portLine.marks .port = true) (runs : ∀ line ∈ portLine :: body, line.stops = false)
    (ends : finish.marks .finish = true) (source : String) :
    (initial.scanLines (opening :: ((portLine :: body) ++ [finish]))).result source =
      .ok (Scanner.inClause.readAll (portLine :: body)).ports := by
  have portFound :
      (Landmarks.of (opening :: ((portLine :: body) ++ [finish]))).port? = some 1 := by
    simp [Landmarks.of, firstFrom?, List.findIdx?_cons, entity, noPort, port]
  obtain ⟨entityLine, -, -, enters⟩ := scanLines_of_port? portFound
  obtain ⟨scanner, phase, -, running⟩ :=
    @scanLines_of_not_stops (entered entityLine 1) rfl rfl _ runs
  have here := isOver_eq_false (by rw [phase]; decide) running
  rw [enters, List.drop_succ_cons, List.drop_zero, scanLines_append, scanLines_cons here,
    scan_of_finish phase ends, scanner]
  rfl

namespace Scanner

section Clause

variable (group : Nat) (ports : Ports)

/-- Blank lines behind a blank line have no effect. -/
theorem readAll_blanks_of_groupEmpty {lines : List Line}
    (blank : ∀ line ∈ lines, line.kind = .blank) :
    readAll ⟨.inPorts, group, true, ports⟩ lines = ⟨.inPorts, group, true, ports⟩ := by
  induction lines with
  | nil => rfl
  | cons line lines ih =>
    rw [readAll_cons, read_of_inPorts rfl, blank line (by simp)]
    exact ih fun other member => blank other (by simp [member])

/-- Blank lines behind a declaration begin one group. -/
theorem readAll_blanks {lines : List Line} (nonempty : lines ≠ [])
    (blank : ∀ line ∈ lines, line.kind = .blank) :
    readAll ⟨.inPorts, group, false, ports⟩ lines = ⟨.inPorts, group + 1, true, ports⟩ := by
  cases lines with
  | nil => exact absurd rfl nonempty
  | cons line lines =>
    have others : ∀ other ∈ lines, other.kind = .blank :=
      fun other member => blank other (by simp [member])
    rw [readAll_cons, read_of_inPorts rfl, blank line (by simp)]
    exact readAll_blanks_of_groupEmpty (group + 1) ports others

/-- The lines of written ports add the ports to the group at hand. -/
theorem readAll_writtenPorts (groupEmpty : Bool) (written : List WrittenPort) :
    readAll ⟨.inPorts, group, groupEmpty, ports⟩ (written.map WrittenPort.line) =
      ⟨.inPorts, group, groupEmpty && written.isEmpty,
        ports ++ Ports.ofList (written.map (·.port group))⟩ := by
  induction written generalizing groupEmpty ports with
  | nil =>
    have nothing : Ports.ofList [] = Ports.empty := rfl
    simp [readAll, nothing, Ports.append_empty]
  | cons first others ih =>
    rw [List.map_cons, readAll_cons, first.read_line rfl, addPort, ih, List.map_cons,
      Ports.append_ofList_cons]
    simp

/-- The lines of a group add its block. -/
theorem readAll_writtenGroup (groupEmpty : Bool) (written : WrittenGroup) :
    readAll ⟨.inPorts, group, groupEmpty, ports⟩ written.lines =
      ⟨.inPorts, group, false, ports ++ written.block group⟩ := by
  have nonempty : written.ports.isEmpty = false := by simp [written.ports_ne_nil]
  rw [WrittenGroup.lines, readAll_writtenPorts, nonempty, Bool.and_false]
  rfl

end Clause

end Scanner

/-- The lines of a group end with no break. -/
theorem WrittenGroup.map_trimFileBreaks_lines (written : WrittenGroup) :
    written.lines.map Text.trimFileBreaks = written.lines := by
  rw [lines, List.map_map]
  apply List.map_congr_left
  intro port _
  exact port.trimFileBreaks_line

namespace SeparateGroup

theorem kind_blanks (separate : SeparateGroup) :
    ∀ line ∈ (separate.blanks.map BlankLine.text).map Text.trimFileBreaks,
      Line.kind line = .blank := by
  intro line member
  rw [List.map_map, List.mem_map] at member
  obtain ⟨blank, -, rfl⟩ := member
  exact blank.kind_trimFileBreaks

/-- A separate group is read into a group of its own. -/
theorem readAll_lines (group : Nat) (ports : Ports) (separate : SeparateGroup) :
    Scanner.readAll ⟨.inPorts, group, false, ports⟩ (separate.lines.map Text.trimFileBreaks) =
      ⟨.inPorts, group + 1, false, ports ++ separate.group.block (group + 1)⟩ := by
  have nonempty : (separate.blanks.map BlankLine.text).map Text.trimFileBreaks ≠ [] := by
    simpa using separate.blanks_ne_nil
  rw [lines, List.map_append, WrittenGroup.map_trimFileBreaks_lines, Scanner.readAll_append,
    Scanner.readAll_blanks group ports nonempty separate.kind_blanks, Scanner.readAll_writtenGroup]
  rfl

/-- Separate groups are read into groups that are numbered on from the group at hand. -/
theorem readAll_flatMap_lines (group : Nat) (ports : Ports) (others : List SeparateGroup) :
    Scanner.readAll ⟨.inPorts, group, false, ports⟩
        ((others.flatMap lines).map Text.trimFileBreaks) =
      ⟨.inPorts, group + others.length, false,
        ports ++
          Ports.concat (WrittenGroup.blocks (group + 1) (others.map SeparateGroup.group))⟩ := by
  induction others generalizing group ports with
  | nil => simp [Scanner.readAll, WrittenGroup.blocks, Ports.append_empty]
  | cons separate others ih =>
    rw [List.flatMap_cons, List.map_append, Scanner.readAll_append, readAll_lines, ih,
      List.map_cons, WrittenGroup.blocks, Ports.concat_cons, Ports.append_assoc]
    simp [Nat.add_assoc, Nat.add_comm 1]

end SeparateGroup

namespace WrittenEntity

variable (entity : WrittenEntity)

/-- The blocks that the ports of the entity are read into. -/
def blocks : List Ports := WrittenGroup.blocks 0 entity.groups

/-- The body is read into the blocks of the entity. -/
theorem readAll_body :
    Scanner.inClause.readAll (entity.body.map Text.trimFileBreaks) =
      ⟨.inPorts, entity.others.length, false, Ports.concat entity.blocks⟩ := by
  have start : Scanner.inClause = ⟨.inPorts, 0, true, .empty⟩ := rfl
  rw [start, body, List.map_append, WrittenGroup.map_trimFileBreaks_lines, Scanner.readAll_append,
    Scanner.readAll_writtenGroup, SeparateGroup.readAll_flatMap_lines, Nat.zero_add]
  rfl

/-- No line of the body stops the reading. -/
theorem stops_body : ∀ line ∈ entity.body.map Text.trimFileBreaks, Line.stops line = false := by
  have ports : ∀ (group : WrittenGroup), ∀ line ∈ group.lines, Line.stops line = false := by
    intro group line member
    obtain ⟨written, -, rfl⟩ := List.mem_map.mp member
    rw [Line.stops_eq_false_iff, written.kind_line]
    refine ⟨by simp, ?_⟩
    rintro declaration ⟨⟩
    exact written.hasTurkishI_mode
  intro line member
  rw [body, List.map_append, List.mem_append, WrittenGroup.map_trimFileBreaks_lines] at member
  rcases member with first | later
  · exact ports entity.first line first
  · rw [List.map_flatMap, List.mem_flatMap] at later
    obtain ⟨separate, -, separateMember⟩ := later
    rw [SeparateGroup.lines, List.map_append, List.mem_append,
      WrittenGroup.map_trimFileBreaks_lines] at separateMember
    rcases separateMember with blank | port
    · exact Line.stops_eq_false_of_blank (separate.kind_blanks line blank)
    · exact ports separate.group line port

theorem lineFeed_not_mem_lines : ∀ line ∈ entity.lines, '\n' ∉ line := by
  have ports : ∀ (group : WrittenGroup), ∀ line ∈ group.lines, '\n' ∉ line := by
    intro group line member
    obtain ⟨written, -, rfl⟩ := List.mem_map.mp member
    exact written.lineFeed_not_mem_line
  intro line member
  simp only [lines, body, List.mem_cons, List.mem_append, List.mem_flatMap, List.not_mem_nil,
    or_false] at member
  rcases member with rfl | rfl | (first | ⟨separate, -, later⟩) | rfl | rfl
  · decide
  · decide
  · exact ports entity.first line first
  · rcases List.mem_append.mp later with blank | port
    · obtain ⟨space, -, rfl⟩ := List.mem_map.mp blank
      exact fun feed => (space.text_space _ feed).2 rfl
    · exact ports separate.group line port
  · decide
  · decide

/-- The lines of the text are those that the entity is written in. -/
theorem splitOn_text : entity.text.toList.splitOn '\n' = entity.lines := by
  have feed : "\n".toList = ['\n'] := rfl
  rw [text, Text.joinLines, String.toList_intercalate, feed, List.map_map]
  simp only [Function.comp_def, String.toList_ofList, List.map_id']
  exact List.splitOn_intercalate _ entity.lineFeed_not_mem_lines (by simp [lines])

theorem map_trimFileBreaks_lines :
    entity.lines.map Text.trimFileBreaks =
      "entity e is".toList :: (("port (".toList ::
        (entity.body.map Text.trimFileBreaks ++ [");".toList])) ++ ["end e;".toList]) := by
  have entityLine : Text.trimFileBreaks "entity e is".toList = "entity e is".toList := by decide
  have portLine : Text.trimFileBreaks "port (".toList = "port (".toList := by decide
  have closing : Text.trimFileBreaks ");".toList = ");".toList := by decide
  have finish : Text.trimFileBreaks "end e;".toList = "end e;".toList := by decide
  simp only [lines, List.map_cons, List.map_append, List.map_nil]
  rw [entityLine, portLine, closing, finish, List.cons_append, List.append_assoc]
  rfl

/-- The text of an entity is read well, and the ports that are found are those of its blocks. -/
theorem result_ofText (source : String) :
    (Reading.ofText entity.text).result source = .ok (Ports.concat entity.blocks) := by
  have openingKind : Line.kind "port (".toList = .skipped := by decide +kernel
  have closingKind : Line.kind ");".toList = .skipped := by decide +kernel
  have runs : ∀ line ∈ "port (".toList :: (entity.body.map Text.trimFileBreaks ++ [");".toList]),
      Line.stops line = false := by
    intro line member
    rcases List.mem_cons.mp member with rfl | member
    · exact Line.stops_eq_false_of_skipped openingKind
    · rcases List.mem_append.mp member with body | closing
      · exact entity.stops_body line body
      · rw [List.mem_singleton.mp closing]
        exact Line.stops_eq_false_of_skipped closingKind
  have clause : Scanner.inClause.readAll
      ("port (".toList :: (entity.body.map Text.trimFileBreaks ++ [");".toList])) =
        ⟨.inPorts, entity.others.length, false, Ports.concat entity.blocks⟩ := by
    rw [Scanner.readAll_cons, Scanner.read_of_inPorts rfl, openingKind, Scanner.readAll_append]
    show Scanner.readAll (Scanner.inClause.readAll _) _ = _
    rw [readAll_body, Scanner.readAll_cons, Scanner.read_of_inPorts rfl, closingKind]
    rfl
  rw [Reading.ofText, splitOn_text, Reading.takeLines, map_trimFileBreaks_lines,
    Reading.result_of_clause (by decide +kernel) (by decide +kernel) (by decide +kernel) runs
      (by decide +kernel), clause]

end WrittenEntity

end EntityDiagram
