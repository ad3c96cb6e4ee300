import EntityDiagram.Source.Line

/-!
The scanner of a source, one line at a time. A comment changes nothing in any phase. Any other line
passes from the search to the entity at the keyword `entity`, from there to the port clause at
`port`, and in the port clause it either ends the clause, or separates groups, or declares a port,
or is skipped. One line can pass through several phases, and the phases only ever go forward. What a
line brings about is told by events.
-/

namespace EntityDiagram

/-- Where a reader stands in a source. -/
inductive Phase where
  | searching
  | inEntity
  | inPorts
  | complete
  deriving DecidableEq, Repr

namespace Phase

/-- The phase in words. -/
def describe : Phase → String
  | searching => "searching for entity"
  | inEntity => "in entity"
  | inPorts => "in entity port"
  | complete => "complete"

/-- All phases, in the order in which a reader passes through them. -/
def all : List Phase := [searching, inEntity, inPorts, complete]

/-- The phase that words describe, if any. -/
def ofDescription? (text : String) : Option Phase := all.find? (·.describe == text)

/-- How many phases come before one. -/
def rank : Phase → Nat
  | searching => 0
  | inEntity => 1
  | inPorts => 2
  | complete => 3

/-- A phase is found by its own description and by no other words. -/
theorem ofDescription?_eq_some_iff {text : String} {phase : Phase} :
    ofDescription? text = some phase ↔ phase.describe = text := by
  constructor
  · intro found
    simpa using List.find?_some found
  · rintro rfl
    cases phase <;> rfl

theorem rank_injective {first second : Phase} (h : first.rank = second.rank) : first = second := by
  cases first <;> cases second <;> simp_all [rank]

end Phase

/-- Something that a line of a source brought about. -/
inductive Event where
  | passed (old new : Phase)
  | groupBegun (group : Nat)
  | portRead (port : Port)
  deriving DecidableEq, Repr

/-- An event with the number of the line that brought it about; lines count from one. -/
structure LogEntry where
  lineNumber : Nat
  event : Event
  deriving DecidableEq, Repr

/-- An event in words. -/
def Event.describe : Event → String
  | .passed old new => old.describe ++ " -> " ++ new.describe
  | .groupBegun group => "starting port group " ++ toString group
  | .portRead port => port.direction.keyword ++ " port " ++ port.describe

/-- A log entry in words. -/
def LogEntry.message (entry : LogEntry) : String :=
  "line " ++ toString entry.lineNumber ++ ": " ++ entry.event.describe

/-- Where a scanner stands and what it has collected. `groupEmpty` tells that no declaration has
    been seen since the current group began, so that a blank line begins no further one. -/
structure Scanner where
  phase : Phase
  group : Nat
  groupEmpty : Bool
  ports : Ports
  deriving DecidableEq, Repr

namespace Scanner

/-- A scanner that has read nothing. -/
def initial : Scanner := ⟨.searching, 0, true, .empty⟩

/-- What reading one line leads to: the scanner behind the line, the events in order, and the
    lower-case form of a mode that is no direction, if the line was refused because of one. -/
structure Step where
  scanner : Scanner
  events : List Event
  refused? : Option String
  deriving DecidableEq, Repr

/-- A step that changes nothing. -/
def stay (scanner : Scanner) : Step := ⟨scanner, [], none⟩

/-- The step to another phase. -/
def pass (scanner : Scanner) (phase : Phase) : Step :=
  ⟨{ scanner with phase := phase }, [.passed scanner.phase phase], none⟩

/-- The step to a phase if the scanner is in another one and the line holds a keyword. -/
def passAt (scanner : Scanner) (old new : Phase) (keyword : Keyword) (line : Line) : Step :=
  if scanner.phase = old ∧ line.has keyword then scanner.pass new else scanner.stay

/-- One step after another; the second starts where the first ended. -/
def Step.andThen (first : Step) (second : Scanner → Step) : Step :=
  let next := second first.scanner
  ⟨next.scanner, first.events ++ next.events, next.refused?⟩

/-- Reading a blank line of the port clause: it begins a group unless the current one is empty. -/
def separate (scanner : Scanner) : Step :=
  if scanner.groupEmpty then scanner.stay
  else
    let group := scanner.group + 1
    ⟨{ scanner with group := group, groupEmpty := true }, [.groupBegun group], none⟩

/-- Reading a declaration of the port clause. The group counts as used even if the declaration is
    refused. -/
def declare (scanner : Scanner) (declaration : Declaration) : Step :=
  let scanner := { scanner with groupEmpty := false }
  match declaration.port scanner.group with
  | .ok port => ⟨{ scanner with ports := scanner.ports.add port }, [.portRead port], none⟩
  | .error keyword => ⟨scanner, [], some keyword⟩

/-- Reading a line of the port clause that is no comment. -/
def readPortLine (scanner : Scanner) (line : Line) : Step :=
  if line.has .finish then scanner.pass .complete
  else if line.isBlank then scanner.separate
  else
    match Declaration.read? line with
    | some declaration => scanner.declare declaration
    | none => scanner.stay

/-- Reading a line that is no comment. -/
def readCode (scanner : Scanner) (line : Line) : Step :=
  ((scanner.passAt .searching .inEntity .entity line).andThen fun scanner =>
    scanner.passAt .inEntity .inPorts .port line).andThen fun scanner =>
      if scanner.phase = .inPorts then scanner.readPortLine line else scanner.stay

/-- Reading a line. -/
def read (scanner : Scanner) (line : Line) : Step :=
  if line.isComment then scanner.stay else scanner.readCode line

/-- The steps of reading lines one after the other, whatever they lead to. -/
def steps (scanner : Scanner) : List Line → List Step
  | [] => []
  | line :: lines =>
    let step := scanner.read line
    step :: step.scanner.steps lines

/-- The scanner behind lines that are read one after the other, whatever they lead to. -/
def readAll (scanner : Scanner) (lines : List Line) : Scanner :=
  lines.foldl (fun scanner line => (scanner.read line).scanner) scanner

theorem read_of_isComment {scanner : Scanner} {line : Line} (h : line.isComment = true) :
    scanner.read line = scanner.stay := by
  simp [read, h]

/-- Behind the end of the port clause nothing changes any more. -/
theorem read_of_complete {scanner : Scanner} (h : scanner.phase = .complete) (line : Line) :
    scanner.read line = scanner.stay := by
  unfold read
  split
  · rfl
  · simp [readCode, passAt, stay, Step.andThen, h]

end Scanner

end EntityDiagram
