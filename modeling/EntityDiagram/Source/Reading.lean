import EntityDiagram.Source.Scanner
import EntityDiagram.Text.Lines
import EntityDiagram.Text.Quoted
import EntityDiagram.Text.Utf8

/-!
Reading a whole source: line after line until the port clause ends, until a declaration is refused,
or until there are no more lines. What comes behind the line that ends a reading is not looked at. A
reading gives the ports that it found, or the error that keeps a diagram from being drawn.
-/

namespace EntityDiagram

/-- Why there is no diagram. -/
inductive Error where
  /-- No files were named. -/
  | noFiles
  /-- A file is missing, is no regular file, or cannot be read. -/
  | unreadable (file : String)
  /-- A source ended before its port clause did; `phase?` tells where, if that is known. -/
  | incomplete (source : String) (phase? : Option Phase)
  /-- A port has a mode that lower-cases to `keyword`, which is no direction. -/
  | unknownDirection (keyword : String)
  deriving DecidableEq, Repr

/-- The one line that is reported to the user. -/
def Error.message : Error → String
  | .noFiles => "Error, no files supplied"
  | .unreadable file => "Error reading " ++ file
  | .incomplete source _ => "Error parsing " ++ source
  | .unknownDirection keyword => Text.quoted keyword ++ " is not a valid Direction"

/-- A reading so far: the scanner, how many lines it has taken, what it has logged, and the
    lower-case form of a mode that is no direction, if one was met. -/
structure Reading where
  scanner : Scanner
  consumed : Nat
  log : Array LogEntry
  refused? : Option String

namespace Reading

/-- A reading that has taken no line. -/
def initial : Reading := ⟨.initial, 0, #[], none⟩

/-- Whether a reading takes no further line. -/
def isOver (reading : Reading) : Bool :=
  reading.scanner.phase = .complete || reading.refused?.isSome

/-- Taking one line that has no line break at its end. -/
def scan (reading : Reading) (line : Line) : Reading :=
  let step := reading.scanner.read line
  let consumed := reading.consumed + 1
  ⟨step.scanner, consumed, reading.log ++ step.events.map (LogEntry.mk consumed), step.refused?⟩

/-- Taking such lines until the reading is over. -/
def scanLines (reading : Reading) : List Line → Reading
  | [] => reading
  | line :: lines => if reading.isOver then reading else (reading.scan line).scanLines lines

/-- Taking lines until the reading is over. Carriage returns and line feeds at the end of a line do
    not belong to it. -/
def takeLines (reading : Reading) (lines : List Line) : Reading :=
  reading.scanLines (lines.map Text.trimFileBreaks)

/-- The ports that a reading found, or why it found none. `source` is the name of what was read. -/
def result (reading : Reading) (source : String) : Except Error Ports :=
  match reading.refused? with
  | some keyword => .error (.unknownDirection keyword)
  | none =>
    if reading.scanner.phase = .complete then .ok reading.scanner.ports
    else .error (.incomplete source (some reading.scanner.phase))

/-- What the log says in the end: how much was found, or where the source broke off. A refused
    declaration leaves the log without an end. -/
def summary? (reading : Reading) (source : String) : Option String :=
  match reading.refused? with
  | some _ => none
  | none =>
    let scanner := reading.scanner
    some (source ++ ": " ++
      if scanner.phase = .complete then
        toString scanner.ports.inputs.length ++ " inputs, " ++
          toString scanner.ports.outputs.length ++ " outputs in " ++
          toString (scanner.group + 1) ++ " groups"
      else "input ended while " ++ scanner.phase.describe)

/-- All messages of a reading, in order. -/
def messages (reading : Reading) (source : String) : List String :=
  reading.log.toList.map LogEntry.message ++ (reading.summary? source).toList

/-- The reading of lines. A line may come with its terminator or without. -/
def ofLines (lines : List String) : Reading := initial.takeLines (lines.map String.toList)

/-- The reading of a text, which has one line more than line feeds. -/
def ofText (text : String) : Reading := initial.takeLines (text.toList.splitOn '\n')

/-- The reading of a file's bytes: UTF-8, in lines that end as lines of files do. -/
def ofBytes (bytes : List UInt8) : Reading :=
  initial.takeLines (Text.lines Text.isFileBreak (Text.Utf8.decode bytes))

theorem scanLines_cons {reading : Reading} (running : reading.isOver = false) (line : Line)
    (lines : List Line) :
    reading.scanLines (line :: lines) = (reading.scan line).scanLines lines := by
  simp [scanLines, running]

/-- A reading that is over stays as it is. -/
theorem scanLines_of_isOver {reading : Reading} (ended : reading.isOver = true)
    (lines : List Line) : reading.scanLines lines = reading := by
  cases lines with
  | nil => rfl
  | cons line lines => simp [scanLines, ended]

/-- Lines can be taken in two portions. -/
theorem scanLines_append (reading : Reading) (first second : List Line) :
    reading.scanLines (first ++ second) = (reading.scanLines first).scanLines second := by
  induction first generalizing reading with
  | nil => rfl
  | cons line first ih =>
    cases ended : reading.isOver with
    | true => simp [scanLines_of_isOver ended]
    | false => rw [List.cons_append, scanLines_cons ended, scanLines_cons ended, ih]

theorem scanLines_concat {reading : Reading} {lines : List Line}
    (running : (reading.scanLines lines).isOver = false) (line : Line) :
    reading.scanLines (lines ++ [line]) = (reading.scanLines lines).scan line := by
  rw [scanLines_append, scanLines_cons running]
  rfl

theorem isOver_eq_false_of_concat {reading : Reading} {lines : List Line} {line : Line}
    (running : (reading.scanLines (lines ++ [line])).isOver = false) :
    (reading.scanLines lines).isOver = false := by
  cases ended : (reading.scanLines lines).isOver with
  | false => rfl
  | true =>
    rw [scanLines_append, scanLines_of_isOver ended, ended] at running
    cases running

end Reading

end EntityDiagram
