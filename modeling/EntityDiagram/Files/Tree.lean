import EntityDiagram.Files.Transcript

/-!
Directory trees held in memory, and the files that a run over such a tree can see. A path is walked
name by name from the root: every name but the last has to lead to a directory, an empty name or a
dot stays where it is, and two dots lead to the parent directory. No path leads out of the tree.
-/

namespace EntityDiagram

/-- Where something stands in a tree: the names on the way from the root. -/
abbrev Location := List String

/-- Where one name leads to from a location. The root is its own parent. -/
def Location.enter (location : Location) (name : String) : Location :=
  if name = "" ∨ name = "." then location
  else if name = ".." then location.dropLast
  else location ++ [name]

/-- What stands at a location. -/
inductive Node where
  | directory
  | file (bytes : List UInt8)
  deriving DecidableEq, Repr

/-- A directory tree: nodes at their locations, the latest first. -/
structure FileTree where
  nodes : List (Location × Node)

namespace FileTree

/-- The tree that holds its root only. -/
def empty : FileTree := ⟨[([], .directory)]⟩

/-- The longest path that can be walked, in bytes. -/
def maxPathBytes : Nat := 4095

/-- The names that a path is made of. -/
def names (path : String) : List String := (path.toList.splitOn '/').map String.ofList

/-- The tree with a node at a location. -/
def put (tree : FileTree) (location : Location) (node : Node) : FileTree :=
  ⟨(location, node) :: tree.nodes⟩

/-- The tree with a node where names lead to from a location. Every location on the way becomes a
    directory, also one that two dots leave again. -/
def insertFrom (tree : FileTree) (location : Location) (node : Node) : List String → FileTree
  | [] => tree.put location node
  | name :: names => (tree.put location .directory).insertFrom (location.enter name) node names

/-- The tree with a node at the end of a path. -/
def insert (tree : FileTree) (path : String) (node : Node) : FileTree :=
  tree.insertFrom [] node (names path)

/-- What stands at a location. -/
def node? (tree : FileTree) (location : Location) : Option Node := tree.nodes.lookup location

/-- Whether there is a directory at a location. -/
def isDirectory (tree : FileTree) (location : Location) : Bool :=
  match tree.node? location with
  | some .directory => true
  | _ => false

/-- Where names lead to from a directory of the tree. -/
def walk? (tree : FileTree) (directory : Location) : List String → Option Location
  | [] => some directory
  | name :: names =>
    let location := directory.enter name
    if name = ".." ∧ directory.isEmpty then none
    else if names.isEmpty ∨ tree.isDirectory location then tree.walk? location names
    else none

/-- The files of a tree: the bytes of the file that a path names, if it names one. -/
def bytes? (tree : FileTree) : Files := fun path =>
  if path.utf8ByteSize > maxPathBytes ∨ path.startsWith "/" then none
  else
    match (tree.walk? [] (names path)).bind tree.node? with
    | some (.file bytes) => some bytes
    | _ => none

theorem node?_put (tree : FileTree) (location target : Location) (node : Node) :
    (tree.put location node).node? target =
      if target = location then some node else tree.node? target := by
  unfold node? put
  by_cases here : target = location
  · rw [if_pos here, here, List.lookup_cons_self]
  · rw [if_neg here, List.lookup_cons, beq_false_of_ne here]

/-- The empty tree is one with the root alone. -/
theorem node?_empty (location : Location) :
    empty.node? location = if location = [] then some .directory else none :=
  node?_put ⟨[]⟩ [] location .directory

theorem isDirectory_iff {tree : FileTree} {location : Location} :
    tree.isDirectory location = true ↔ tree.node? location = some .directory := by
  unfold isDirectory
  split
  · rename_i found
    simp [found]
  · rename_i other
    simpa using other

end FileTree

end EntityDiagram
