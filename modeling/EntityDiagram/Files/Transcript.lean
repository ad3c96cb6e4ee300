import EntityDiagram.Diagram.Layout
import EntityDiagram.Source.Reading

/-!
What a run over named files prints, and how it ends. Each file's diagram is printed in the order of
the names; with more than one name, every diagram stands behind its file's name, and an empty line
stands between one diagram and the next name. The first file that has no diagram ends the run.
-/

namespace EntityDiagram

/-- The files that a run can see: the bytes of a name, if the name is that of a readable file. -/
abbrev Files := String → Option (List UInt8)

namespace Files

/-- The ports of the entity in a file. -/
def ports (files : Files) (name : String) : Except Error Ports :=
  match files name with
  | some bytes => (Reading.ofBytes bytes).result name
  | none => .error (.unreadable name)

end Files

/-- The printed lines of a run and the error that ended it, if one did. -/
structure Transcript where
  lines : List String
  error? : Option Error
  deriving DecidableEq, Repr

namespace Transcript

/-- Everything that is printed. -/
def output (transcript : Transcript) : String := Text.printLines transcript.lines

/-- The transcript with lines in front. -/
def behind (transcript : Transcript) (lines : List String) : Transcript :=
  { transcript with lines := lines ++ transcript.lines }

/-- The transcript of one file's diagram. -/
def ofFile (files : Files) (name : String) : Transcript :=
  match files.ports name with
  | .ok ports => ⟨ports.diagram, none⟩
  | .error error => ⟨[], some error⟩

/-- The transcript of files that are printed under their names. -/
def ofNamedFiles (files : Files) : List String → Transcript
  | [] => ⟨[], none⟩
  | name :: names =>
    let transcript := (ofFile files name).behind [name]
    if transcript.error?.isSome ∨ names.isEmpty then transcript
    else (ofNamedFiles files names).behind (transcript.lines ++ [""])

/-- The transcript of a run over files. -/
def ofFiles (files : Files) : List String → Transcript
  | [] => ⟨[], some .noFiles⟩
  | [name] => ofFile files name
  | names => ofNamedFiles files names

end Transcript

end EntityDiagram
