import EntityDiagram.Proofs.Files.Walk
import Mathlib.Data.List.Basic
import Mathlib.Data.List.Induction

/-!
Trees that hold listed files. If the names of several paths all lead from a directory to something
in it, and no path leads through another, then a tree into which files are put under these paths
shows them and no others, and a run over the tree is a run over the files as they are listed.
-/

namespace EntityDiagram

namespace Location

/-- A name that leads from a directory to something in it. -/
def IsPlainName (name : String) : Prop := name ≠ "" ∧ name ≠ "." ∧ name ≠ ".."

instance : DecidablePred IsPlainName := fun name =>
  inferInstanceAs (Decidable (name ≠ "" ∧ name ≠ "." ∧ name ≠ ".."))

theorem enter_of_isPlainName {name : String} (plain : IsPlainName name) (location : Location) :
    location.enter name = location ++ [name] := by
  obtain ⟨nonempty, noDot, noDots⟩ := plain
  simp [enter, nonempty, noDot, noDots]

section Plain

variable {names : List String} (plain : ∀ name ∈ names, IsPlainName name) (location : Location)

include plain

theorem follow_of_isPlainName : location.follow names = location ++ names := by
  induction names generalizing location with
  | nil => simp [follow]
  | cons name names ih =>
    obtain ⟨first, later⟩ := List.forall_mem_cons.mp plain
    rw [follow, enter_of_isPlainName first, ih later, List.append_assoc]
    rfl

theorem staysInside_of_isPlainName : location.StaysInside names := by
  induction names generalizing location with
  | nil => trivial
  | cons name names ih =>
    obtain ⟨first, later⟩ := List.forall_mem_cons.mp plain
    exact ⟨fun up => first.2.2 up.1, ih later _⟩

/-- Plain names leave what some of them lead to. -/
theorem mem_passed_iff_of_isPlainName {target : Location} :
    target ∈ location.passed names ↔
      ∃ front, front <+: names ∧ front ≠ names ∧ target = location ++ front := by
  induction names generalizing location with
  | nil =>
    simp only [passed, List.not_mem_nil, List.prefix_nil, false_iff]
    rintro ⟨front, empty, nonempty, -⟩
    exact nonempty empty
  | cons name names ih =>
    obtain ⟨first, later⟩ := List.forall_mem_cons.mp plain
    rw [passed, List.mem_cons, enter_of_isPlainName first, ih later]
    constructor
    · rintro (rfl | ⟨front, start, part, rfl⟩)
      · exact ⟨[], List.nil_prefix, (List.cons_ne_nil name names).symm, by simp⟩
      · exact ⟨name :: front, by simpa using start, by simpa using part, by simp⟩
    · rintro ⟨front, start, part, rfl⟩
      cases front with
      | nil => simp
      | cons other front =>
        obtain ⟨rfl, behind⟩ := List.cons_prefix_cons.mp start
        exact .inr ⟨front, behind, by simpa using part, by simp⟩

end Plain

end Location

namespace FileTree

section

variable {tree : FileTree} {path : String} {bytes : List UInt8}

/-- A path whose names all lead from a directory to something in it. -/
def IsPlain (path : String) : Prop := ∀ name ∈ names path, Location.IsPlainName name

instance : DecidablePred IsPlain := fun path =>
  inferInstanceAs (Decidable (∀ name ∈ names path, Location.IsPlainName name))

theorem names_ne_nil (path : String) : names path ≠ [] := by
  simp [names, List.splitOn_ne_nil]

theorem names_injective : Function.Injective names := by
  intro first second same
  have injective : Function.Injective String.ofList :=
    Function.LeftInverse.injective fun _ => String.toList_ofList
  have pieces : first.toList.splitOn '/' = second.toList.splitOn '/' :=
    List.map_injective_iff.mpr injective same
  rw [← String.toList_inj]
  calc
    first.toList = ['/'].intercalate (first.toList.splitOn '/') :=
      (List.intercalate_splitOn '/').symm
    _ = ['/'].intercalate (second.toList.splitOn '/') := by rw [pieces]
    _ = second.toList := List.intercalate_splitOn '/'

section Plain

variable (plain : IsPlain path)

include plain

theorem IsPlain.location_eq : location path = names path :=
  Location.follow_of_isPlainName plain []

theorem IsPlain.mem_way_iff {target : Location} :
    target ∈ way path ↔ target <+: names path ∧ target ≠ names path := by
  rw [way, Location.mem_passed_iff_of_isPlainName plain]
  constructor
  · rintro ⟨front, start, part, rfl⟩
    exact ⟨start, part⟩
  · rintro ⟨start, part⟩
    exact ⟨target, start, part, rfl⟩

theorem IsPlain.isWalkable (short : path.utf8ByteSize ≤ maxPathBytes) : IsWalkable path := by
  refine ⟨short, ?_⟩
  rw [String.startsWith_string_eq_false_iff]
  rintro ⟨rest, whole⟩
  have empty : "" ∈ names path := by
    have first : path.toList = [] ++ '/' :: rest := whole.symm
    rw [names, first, List.splitOn_append_cons_self]
    simp
  exact (plain "" empty).1 rfl

/-- A plain path leads where its names say if directories stand on its way. -/
theorem IsPlain.leads (directories : ∀ target ∈ way path, tree.isDirectory target = true) :
    tree.Leads [] (names path) (location path) :=
  ⟨rfl, Location.staysInside_of_isPlainName plain [], fun target member =>
    directories target (List.mem_of_mem_tail member)⟩

end Plain

/-- Paths of which neither leads through the other. -/
def Apart (path other : String) : Prop :=
  ¬ names path <+: names other ∧ ¬ names other <+: names path

instance : DecidableRel Apart := fun path other =>
  inferInstanceAs (Decidable (¬ names path <+: names other ∧ ¬ names other <+: names path))

/-- The tree shows files under their paths, and otherwise only the directories on the way to
    them. -/
structure Holds (tree : FileTree) (entries : List (String × List UInt8)) : Prop where
  file : ∀ target bytes, tree.node? target = some (.file bytes) ↔
    ∃ entry ∈ entries, names entry.1 = target ∧ entry.2 = bytes
  directory : ∀ target, tree.node? target = some .directory ↔
    target = [] ∨ ∃ entry ∈ entries, target <+: names entry.1 ∧ target ≠ names entry.1

theorem holds_empty : empty.Holds [] := by
  constructor
  · intro target bytes
    rw [node?_empty]
    by_cases root : target = []
    · simp [root]
    · simp [root]
  · intro target
    rw [node?_empty]
    by_cases root : target = []
    · simp [root]
    · simp [root]

/-- One more file on a way of its own joins those that a tree holds. -/
theorem Holds.insert {entries : List (String × List UInt8)} (holds : tree.Holds entries)
    (plain : IsPlain path) (apart : ∀ entry ∈ entries, Apart entry.1 path) (bytes : List UInt8) :
    (tree.insert path (.file bytes)).Holds (entries ++ [(path, bytes)]) := by
  have more : ∀ property : String × List UInt8 → Prop,
      (∃ entry ∈ entries ++ [(path, bytes)], property entry) ↔
        (∃ entry ∈ entries, property entry) ∨ property (path, bytes) := by
    intro property
    simp [or_and_right, exists_or]
  refine ⟨?_, ?_⟩
  · intro target content
    -- Neither at the end of the path nor on its way stands a file that the tree holds already.
    have fresh : target <+: names path →
        ¬ ∃ entry ∈ entries, names entry.1 = target ∧ entry.2 = content := by
      intro start ⟨entry, member, here, _⟩
      exact (apart entry member).1 (here ▸ start)
    rw [node?_insert, plain.location_eq, more]
    by_cases last : target = names path
    · rw [if_pos last, or_iff_right (fresh (last ▸ List.prefix_rfl)), and_iff_right last.symm,
        Option.some.injEq, Node.file.injEq]
    · have elsewhere : ¬ (names path = target ∧ bytes = content) := fun here => last here.1.symm
      rw [if_neg last, or_iff_left elsewhere]
      by_cases onWay : target ∈ way path
      · rw [if_pos onWay]
        exact iff_of_false (by simp) (fresh (plain.mem_way_iff.mp onWay).1)
      · rw [if_neg onWay, holds.file]
  · intro target
    rw [node?_insert, plain.location_eq, more, ← plain.mem_way_iff]
    by_cases last : target = names path
    · have noRoot : target ≠ [] := last ▸ names_ne_nil path
      have noFront : target ∉ way path := fun onWay => (plain.mem_way_iff.mp onWay).2 last
      have fresh : ¬ ∃ entry ∈ entries, target <+: names entry.1 ∧ target ≠ names entry.1 := by
        intro ⟨entry, member, start, _⟩
        exact (apart entry member).2 (last ▸ start)
      have nowhere : ¬ (target = [] ∨ (∃ entry ∈ entries, target <+: names entry.1 ∧
          target ≠ names entry.1) ∨ target ∈ way path) := by
        rintro (root | held | onWay)
        · exact noRoot root
        · exact fresh held
        · exact noFront onWay
      rw [if_pos last]
      exact iff_of_false (by simp) nowhere
    · rw [if_neg last]
      by_cases onWay : target ∈ way path
      · rw [if_pos onWay]
        exact iff_of_true rfl (.inr (.inr onWay))
      · rw [if_neg onWay, holds.directory, or_iff_left onWay]

/-- A plain path has the bytes that a tree holds under it. -/
theorem Holds.bytes?_eq_some_iff {entries : List (String × List UInt8)} (holds : tree.Holds entries)
    (plain : IsPlain path) (short : path.utf8ByteSize ≤ maxPathBytes) :
    tree.bytes? path = some bytes ↔ (path, bytes) ∈ entries := by
  rw [FileTree.bytes?_eq_some_iff, holds.file, plain.location_eq]
  constructor
  · rintro ⟨-, -, entry, member, same, rfl⟩
    rwa [← names_injective same]
  · intro member
    have leads : tree.Leads [] (names path) (location path) := by
      apply plain.leads
      intro target onWay
      rw [isDirectory_iff, holds.directory]
      exact .inr ⟨(path, bytes), member, plain.mem_way_iff.mp onWay⟩
    rw [plain.location_eq] at leads
    exact ⟨plain.isWalkable short, leads, (path, bytes), member, rfl, rfl⟩

end

/-- Files under plain paths, none of which leads through another. -/
structure Listing where
  entries : List (String × List UInt8)
  plain : ∀ entry ∈ entries, IsPlain entry.1
  apart : entries.Pairwise fun entry other => Apart entry.1 other.1

namespace Listing

variable (listing : Listing)

/-- The files as they are listed. -/
def files : Files := fun path => listing.entries.lookup path

/-- The tree into which the files have been put one after the other. -/
def tree : FileTree :=
  listing.entries.foldl (fun tree entry => tree.insert entry.1 (.file entry.2)) empty

theorem holds_tree : listing.tree.Holds listing.entries := by
  obtain ⟨entries, plain, apart⟩ := listing
  rw [tree]
  induction entries using List.reverseRecOn with
  | nil => exact holds_empty
  | append_singleton entries entry ih =>
    obtain ⟨apartBefore, -, apartLast⟩ := List.pairwise_append.mp apart
    rw [List.forall_mem_append] at plain
    rw [List.foldl_append]
    exact (ih plain.1 apartBefore).insert (plain.2 entry (by simp))
      (fun other member => apartLast other member entry (by simp)) entry.2

theorem files_eq_some_iff {path : String} {bytes : List UInt8} :
    listing.files path = some bytes ↔ (path, bytes) ∈ listing.entries := by
  rw [files, List.lookup_eq_some_iff]
  constructor
  · rintro ⟨before, behind, whole, -⟩
    rw [whole]
    simp
  · intro member
    obtain ⟨before, behind, whole⟩ := List.append_of_mem member
    refine ⟨before, behind, whole, ?_⟩
    intro entry earlier
    have apart := listing.apart
    rw [whole, List.pairwise_append] at apart
    have different := apart.2.2 entry earlier (path, bytes) List.mem_cons_self
    rw [bne_iff_ne]
    rintro rfl
    exact different.1 List.prefix_rfl

/-- The tree shows the files that are listed. -/
theorem bytes?_tree {path : String} (plain : IsPlain path)
    (short : path.utf8ByteSize ≤ maxPathBytes) : listing.tree.bytes? path = listing.files path := by
  apply Option.ext
  intro bytes
  rw [listing.holds_tree.bytes?_eq_some_iff plain short, files_eq_some_iff]

/-- A run over a tree of listed files is a run over the files as listed. -/
theorem ofFiles_tree {names : List String} (plain : ∀ name ∈ names, IsPlain name)
    (short : ∀ name ∈ names, name.utf8ByteSize ≤ maxPathBytes) :
    Transcript.ofFiles listing.tree.bytes? names = Transcript.ofFiles listing.files names :=
  Transcript.ofFiles_congr fun name member =>
    listing.bytes?_tree (plain name member) (short name member)

/-- Files can share a directory, and a name can begin as another one does. -/
example : ∃ listing : Listing,
    listing.entries.map Prod.fst = ["rtl/counter.vhd", "rtl/counter.vhdl", "rt"] :=
  ⟨⟨[("rtl/counter.vhd", []), ("rtl/counter.vhdl", []), ("rt", [])], by decide, by decide⟩, rfl⟩

end Listing

end FileTree

end EntityDiagram
