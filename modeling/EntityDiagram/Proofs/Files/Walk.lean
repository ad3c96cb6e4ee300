import EntityDiagram.Files.Tree
import EntityDiagram.Proofs.Files.Transcript

/-!
Paths in a tree of files. A path leads to a location by its names alone; whether it can be walked
depends on the directories that the tree has on the way. A file that is put into a tree is found
under its path, and leaves all runs as they are that do not come to it.
-/

namespace EntityDiagram

namespace Location

/-- Where names lead to from a location, one behind the other. -/
def follow (location : Location) : List String → Location
  | [] => location
  | name :: names => (location.enter name).follow names

/-- The locations that names leave on their way. -/
def passed (location : Location) : List String → List Location
  | [] => []
  | name :: names => location :: (location.enter name).passed names

/-- Names that never ask for the parent of the root. -/
def StaysInside (location : Location) : List String → Prop
  | [] => True
  | name :: names => ¬ (name = ".." ∧ location = []) ∧ (location.enter name).StaysInside names

/-- Names that leave a location at all leave it first. -/
theorem forall_passed_iff {location : Location} {names : List String} {property : Location → Prop} :
    (∀ target ∈ location.passed names, property target) ↔
      (names = [] ∨ property location) ∧
        ∀ target ∈ (location.passed names).tail, property target := by
  cases names with
  | nil => simp [passed]
  | cons name names => simp [passed]

end Location

namespace FileTree

variable {tree : FileTree} {path : String} {bytes : List UInt8}

/-- Where the names of a path lead to from the root. -/
def location (path : String) : Location := Location.follow [] (names path)

/-- The locations that a path leaves on its way from the root. -/
def way (path : String) : List Location := Location.passed [] (names path)

/-- What stands where after names have led to a node. -/
theorem node?_insertFrom (tree : FileTree) (start : Location) (node : Node) (names : List String)
    (target : Location) :
    (tree.insertFrom start node names).node? target =
      if target = start.follow names then some node
      else if target ∈ start.passed names then some .directory
      else tree.node? target := by
  induction names generalizing tree start with
  | nil => simp [insertFrom, node?_put, Location.follow, Location.passed]
  | cons name names ih =>
    rw [insertFrom, ih, node?_put, Location.follow, Location.passed]
    by_cases last : target = (start.enter name).follow names
    · rw [if_pos last, if_pos last]
    · rw [if_neg last, if_neg last]
      by_cases first : target = start
      · simp [first]
      · simp [first]

theorem node?_insert (tree : FileTree) (path : String) (node : Node) (target : Location) :
    (tree.insert path node).node? target =
      if target = location path then some node
      else if target ∈ way path then some .directory
      else tree.node? target :=
  node?_insertFrom tree [] node (names path) target

/-- Names lead somewhere from a directory: never above the root, and through directories only. -/
structure Leads (tree : FileTree) (directory : Location) (names : List String)
    (target : Location) : Prop where
  target : directory.follow names = target
  inside : directory.StaysInside names
  directories : ∀ location ∈ (directory.passed names).tail, tree.isDirectory location = true

theorem walk?_eq_some_iff {directory target : Location} {names : List String} :
    tree.walk? directory names = some target ↔ tree.Leads directory names target := by
  induction names generalizing directory with
  | nil =>
    constructor
    · intro found
      exact ⟨Option.some.inj found, trivial, by simp [Location.passed]⟩
    · intro leads
      exact congrArg some leads.target
  | cons name names ih =>
    have further := @Location.forall_passed_iff (directory.enter name) names
      (tree.isDirectory · = true)
    rw [walk?]
    by_cases up : name = ".." ∧ directory.isEmpty
    · have leaves : ¬ tree.Leads directory (name :: names) target := fun leads =>
        leads.inside.1 ⟨up.1, List.isEmpty_iff.mp up.2⟩
      rw [if_pos up]
      exact iff_of_false (by simp) leaves
    · rw [if_neg up]
      have stays : ¬ (name = ".." ∧ directory = []) := by rwa [List.isEmpty_iff] at up
      by_cases passes : names.isEmpty ∨ tree.isDirectory (directory.enter name)
      · rw [if_pos passes, ih]
        rw [List.isEmpty_iff] at passes
        constructor
        · intro leads
          exact ⟨leads.target, ⟨stays, leads.inside⟩, further.mpr ⟨passes, leads.directories⟩⟩
        · intro leads
          exact ⟨leads.target, leads.inside.2, (further.mp leads.directories).2⟩
      · rw [if_neg passes]
        rw [List.isEmpty_iff] at passes
        exact iff_of_false (by simp) fun leads => passes (further.mp leads.directories).1

theorem Leads.congr {other : FileTree} {directory target : Location} {names : List String}
    (same : ∀ location, other.isDirectory location = tree.isDirectory location)
    (leads : tree.Leads directory names target) : other.Leads directory names target :=
  ⟨leads.target, leads.inside, fun location member =>
    (same location).trans (leads.directories location member)⟩

/-- A path that begins where the root of the tree stands and is not too long. -/
structure IsWalkable (path : String) : Prop where
  short : path.utf8ByteSize ≤ maxPathBytes
  relative : path.startsWith "/" = false

/-- A path has the bytes of the file that its names lead to. -/
theorem bytes?_eq_some_iff :
    tree.bytes? path = some bytes ↔ IsWalkable path ∧
      tree.Leads [] (names path) (location path) ∧
      tree.node? (location path) = some (.file bytes) := by
  unfold bytes?
  by_cases refused : path.utf8ByteSize > maxPathBytes ∨ path.startsWith "/"
  · have unwalkable : ¬ IsWalkable path := by
      intro walkable
      rcases refused with long | absolute
      · exact absurd walkable.short (Nat.not_le.mpr long)
      · rw [walkable.relative] at absolute
        cases absolute
    rw [if_pos refused]
    exact iff_of_false (by simp) fun shown => unwalkable shown.1
  · obtain ⟨short, relative⟩ := not_or.mp refused
    rw [if_neg refused]
    constructor
    · intro found
      split at found
      · rename_i content reached
        obtain ⟨target, walked, node⟩ := Option.bind_eq_some_iff.mp reached
        have leads := walk?_eq_some_iff.mp walked
        obtain rfl : location path = target := leads.target
        rw [← Option.some.inj found]
        exact ⟨⟨by omega, by simpa using relative⟩, leads, node⟩
      · cases found
    · rintro ⟨-, leads, node⟩
      rw [walk?_eq_some_iff.mpr leads, Option.bind_some, node]

/-- A file that is put into a tree is found under its path, if the path does not lead through it. -/
theorem bytes?_insert (tree : FileTree) (walkable : IsWalkable path)
    (inside : Location.StaysInside [] (names path)) (once : location path ∉ (way path).tail) :
    (tree.insert path (.file bytes)).bytes? path = some bytes := by
  rw [bytes?_eq_some_iff]
  refine ⟨walkable, ⟨rfl, inside, ?_⟩, ?_⟩
  · intro target member
    have notLast : target ≠ location path := by
      rintro rfl
      exact once member
    have onWay : target ∈ way path := List.mem_of_mem_tail member
    rw [isDirectory_iff, node?_insert, if_neg notLast, if_pos onWay]
  · rw [node?_insert, if_pos rfl]

/-- A file that is put where its directory is, and not in place of a directory, changes no other
    file. -/
theorem bytes?_insert_of_ne (ready : ∀ target ∈ way path, tree.isDirectory target = true)
    (free : tree.isDirectory (location path) = false) {other : String}
    (apart : location other ≠ location path) :
    (tree.insert path (.file bytes)).bytes? other = tree.bytes? other := by
  have nodes : ∀ target ≠ location path,
      (tree.insert path (.file bytes)).node? target = tree.node? target := by
    intro target notLast
    rw [node?_insert, if_neg notLast]
    by_cases onWay : target ∈ way path
    · rw [if_pos onWay, isDirectory_iff.mp (ready target onWay)]
    · rw [if_neg onWay]
  have directories : ∀ target,
      (tree.insert path (.file bytes)).isDirectory target = tree.isDirectory target := by
    intro target
    by_cases last : target = location path
    · rw [last, free, isDirectory, node?_insert, if_pos rfl]
    · rw [isDirectory, nodes target last, isDirectory]
  apply Option.ext
  intro content
  rw [bytes?_eq_some_iff, bytes?_eq_some_iff, nodes _ apart]
  constructor
  · rintro ⟨walkable, leads, node⟩
    exact ⟨walkable, leads.congr fun target => (directories target).symm, node⟩
  · rintro ⟨walkable, leads, node⟩
    exact ⟨walkable, leads.congr directories, node⟩

/-- A file that is put into a tree is read as its bytes. -/
theorem ports_insert (tree : FileTree) (walkable : IsWalkable path)
    (inside : Location.StaysInside [] (names path)) (once : location path ∉ (way path).tail) :
    Files.ports (tree.insert path (.file bytes)).bytes? path =
      (Reading.ofBytes bytes).result path := by
  rw [Files.ports, bytes?_insert tree walkable inside once]

/-- Two dots leave a directory again, which stays where it is. -/
example : (empty.insert "d/../e.vhd" (.file [])).bytes? "d/.././e.vhd" = some [] := by
  decide +kernel

/-- A run does not notice that a file is put where none of its names leads. -/
theorem ofFiles_insert (ready : ∀ target ∈ way path, tree.isDirectory target = true)
    (free : tree.isDirectory (location path) = false) {names : List String}
    (apart : ∀ name ∈ names, location name ≠ location path) :
    Transcript.ofFiles (tree.insert path (.file bytes)).bytes? names =
      Transcript.ofFiles tree.bytes? names :=
  Transcript.ofFiles_congr fun name member => bytes?_insert_of_ne ready free (apart name member)

end FileTree

end EntityDiagram
