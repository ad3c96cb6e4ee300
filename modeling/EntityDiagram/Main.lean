import EntityDiagram.Files.Transcript

/-!
The command line: every argument is the name of a file, whose diagram is printed.
-/

namespace EntityDiagram

/-- The bytes of a regular file that can be read. -/
def readRegularFile (name : String) : IO (Option (List UInt8)) :=
  try
    let path ← IO.FS.realPath name
    let metadata ← path.metadata
    match metadata.type with
    | .file => return some (← IO.FS.readBinFile path).toList
    | _ => return none
  catch _ => return none

/-- The named files, read once. -/
def readFiles (names : List String) : IO Files := do
  let contents ← names.mapM fun name => return (name, ← readRegularFile name)
  return fun name => (contents.lookup name).join

end EntityDiagram

open EntityDiagram in
/-- Prints the diagrams of the named files. The run fails when a file has no diagram. -/
def main (names : List String) : IO UInt32 := do
  let transcript := Transcript.ofFiles (← readFiles names) names
  IO.print transcript.output
  match transcript.error? with
  | none => return 0
  | some error =>
    IO.eprintln error.message
    return 1
