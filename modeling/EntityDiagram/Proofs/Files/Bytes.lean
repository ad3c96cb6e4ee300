import EntityDiagram.Files.Transcript
import EntityDiagram.Proofs.Source.Inert
import EntityDiagram.Proofs.Text.Pieces
import EntityDiagram.Proofs.Text.Utf8

/-!
Files whose bytes need not be well-formed. An ill-formed part is never read beyond the line that it
stands in: a file is read as the pieces of its bytes between the line ends, each decoded on its own.
-/

namespace EntityDiagram

namespace Text

open Utf8

theorem head?_decode {bytes : List UInt8} {c : Char} (ascii : c.toNat < 0x80)
    (first : (decode bytes).head? = some c) : bytes.head? = some (.ofNat c.toNat) := by
  obtain ⟨text, whole⟩ := List.head?_eq_some_iff.mp first
  obtain ⟨behind, rfl, -⟩ := (reads_iff.mpr whole).exists_of_cons ascii
  rfl

theorem unbroken_decode {piece : List UInt8} (unbroken : Unbroken 0x0A 0x0D piece) :
    Unbroken '\n' '\r' (decode piece) :=
  ⟨fun feed => unbroken.1 ((reads_decode piece).mem_of_mem (by decide) feed),
    fun carriage => unbroken.2 ((reads_decode piece).mem_of_mem (by decide) carriage)⟩

/-- A line end is decoded as the same line end, and separates what is decoded. -/
theorem decode_append_spell (piece : List UInt8) (terminator : Terminator) (bytes : List UInt8) :
    decode (piece ++ (terminator.spell 0x0A 0x0D ++ bytes)) =
      decode piece ++ (terminator.spell '\n' '\r' ++ decode bytes) := by
  have feed : (0x0A : UInt8) < 0x80 := by decide
  have carriage : (0x0D : UInt8) < 0x80 := by decide
  cases terminator with
  | feed => exact decode_append_cons feed piece bytes
  | carriage => exact decode_append_cons carriage piece bytes
  | carriageFeed =>
    have behind := decode_append_cons feed [] bytes
    have whole := decode_append_cons carriage piece (0x0A :: bytes)
    rw [List.nil_append] at behind
    rw [behind] at whole
    exact whole

/-- Decoded bytes are cut where the bytes are. -/
theorem pieces_decode (bytes : List UInt8) :
    pieces '\n' '\r' (decode bytes) = (pieces 0x0A 0x0D bytes).map decode := by
  induction bytes using pieces_induction (0x0A : UInt8) 0x0D with
  | piece piece unbroken =>
    rw [pieces_of_unbroken unbroken, pieces_of_unbroken (unbroken_decode unbroken)]
    rfl
  | append piece terminator bytes unbroken fits ih =>
    have decodedFits : terminator.Fits '\n' (decode bytes) :=
      fun same first => fits same (head?_decode (by decide) first)
    rw [decode_append_spell, pieces_append (by decide) unbroken fits,
      pieces_append (by decide) (unbroken_decode unbroken) decodedFits, ih]
    rfl

/-- The lines of a file: the pieces of its bytes, each decoded on its own. -/
def decodedPieces (bytes : List UInt8) : List String :=
  (pieces 0x0A 0x0D bytes).map fun piece => String.ofList (decode piece)

theorem unbroken_of_mem_decodedPieces {bytes : List UInt8} {line : String}
    (member : line ∈ decodedPieces bytes) : Unbroken '\n' '\r' line.toList := by
  obtain ⟨piece, pieceMember, rfl⟩ := List.mem_map.mp member
  rw [String.toList_ofList]
  exact unbroken_decode (unbroken_of_mem_pieces (by decide) pieceMember)

/-- Which piece of bytes stands between two others has no influence on the other lines. -/
theorem exists_decodedPieces_eq {before behind : List UInt8}
    (encloses : Encloses 0x0A 0x0D before behind) :
    ∃ front back, ∀ piece, Unbroken 0x0A 0x0D piece →
      decodedPieces (before ++ (piece ++ behind)) =
        if before.getLast? = some 0x0D ∧ piece = [] ∧ behind.head? = some 0x0A
        then front ++ back else front ++ String.ofList (decode piece) :: back := by
  obtain ⟨front, back, same⟩ := exists_pieces_eq (by decide) encloses
  refine ⟨front.map (String.ofList ∘ decode), back.map (String.ofList ∘ decode), ?_⟩
  intro piece unbroken
  rw [decodedPieces, same piece unbroken]
  split
  · exact List.map_append
  · rw [List.map_append, List.map_cons]
    rfl

theorem map_toList_decodedPieces (bytes : List UInt8) :
    (decodedPieces bytes).map String.toList = pieces '\n' '\r' (decode bytes) := by
  rw [pieces_decode, decodedPieces, List.map_map]
  exact List.map_congr_left fun piece _ => String.toList_ofList

/-- The lines of a file are its decoded pieces, but for an empty one at the end. -/
theorem map_toList_decodedPieces_eq_lines (bytes : List UInt8) :
    (decodedPieces bytes).map String.toList =
      lines isFileBreak (decode bytes) ++
        if (decodedPieces bytes).getLast? = some "" then [[]] else [] := by
  have last : (decodedPieces bytes).getLast? = some "" ↔
      (pieces '\n' '\r' (decode bytes)).getLast? = some [] := by
    rw [← map_toList_decodedPieces, List.getLast?_map, Option.map_eq_some_iff]
    constructor
    · intro empty
      exact ⟨"", empty, rfl⟩
    · rintro ⟨line, found, empty⟩
      rwa [String.toList_eq_nil_iff.mp empty] at found
  rw [if_congr last rfl rfl, map_toList_decodedPieces]
  exact pieces_eq_lines (decode bytes)

end Text

namespace Reading

/-- An empty line behind the last one has no influence. -/
theorem result_takeLines_append_nil (lines : List Line) (source : String) :
    (initial.takeLines (lines ++ [[]])).result source =
      (initial.takeLines lines).result source := by
  rw [takeLines, takeLines, List.map_append]
  exact result_scanLines_blank initial _ (by decide) source

/-- A reading that fails has run out of lines or has met a mode that is no direction. -/
theorem error_of_result_eq_error {reading : Reading} {source : String} {error : Error}
    (failed : reading.result source = .error error) :
    (∃ phase, error = .incomplete source (some phase)) ∨
      ∃ keyword, error = .unknownDirection keyword := by
  unfold result at failed
  split at failed
  · exact .inr ⟨_, (Except.error.inj failed).symm⟩
  · split at failed
    · cases failed
    · exact .inl ⟨_, (Except.error.inj failed).symm⟩

/-- Bytes are read as their decoded pieces. -/
theorem result_ofBytes (bytes : List UInt8) (source : String) :
    (ofBytes bytes).result source = (ofLines (Text.decodedPieces bytes)).result source := by
  rw [ofBytes, ofLines, Text.map_toList_decodedPieces_eq_lines]
  split
  · rw [result_takeLines_append_nil]
  · rw [List.append_nil]

end Reading

/-- A file is read piece by piece: it has the outcome of its decoded pieces, which are its lines,
    and a change of one piece changes that line alone. Emptying a piece between a carriage return
    and a line feed takes the line away, since the two become one line end. -/
structure IsReadByPieces (files : Files) (name : String) (bytes : List UInt8) : Prop where
  ports_eq : files.ports name = (Reading.ofLines (Text.decodedPieces bytes)).result name
  reads_iff : ∀ piece ∈ Text.pieces 0x0A 0x0D bytes, ∀ text,
    Text.Utf8.Reads piece text ↔ Text.Utf8.decode piece = text
  unbroken : ∀ line ∈ Text.decodedPieces bytes, Text.Unbroken '\n' '\r' line.toList
  lines_eq : (Text.decodedPieces bytes).map String.toList =
    Text.lines Text.isFileBreak (Text.Utf8.decode bytes) ++
      if (Text.decodedPieces bytes).getLast? = some "" then [[]] else []
  exchange : ∀ before old behind, bytes = before ++ (old ++ behind) →
    Text.Encloses 0x0A 0x0D before behind → Text.Unbroken 0x0A 0x0D old → ∃ front back,
      ∀ piece, Text.Unbroken 0x0A 0x0D piece →
        Text.decodedPieces (before ++ (piece ++ behind)) =
          if before.getLast? = some 0x0D ∧ piece = [] ∧ behind.head? = some 0x0A
          then front ++ back else front ++ String.ofList (Text.Utf8.decode piece) :: back
  error : ∀ error, files.ports name = .error error →
    (∃ phase, error = .incomplete name (some phase)) ∨ ∃ keyword, error = .unknownDirection keyword

namespace Files

/-- Every readable file is read piece by piece, whatever its bytes are. -/
theorem isReadByPieces {files : Files} {name : String} {bytes : List UInt8}
    (readable : files name = some bytes) : IsReadByPieces files name bytes := by
  have outcome : files.ports name = (Reading.ofBytes bytes).result name := by
    rw [ports, readable]
  constructor
  case ports_eq => rw [outcome, Reading.result_ofBytes]
  case reads_iff => exact fun piece _ text => Text.Utf8.reads_iff
  case unbroken => exact fun line => Text.unbroken_of_mem_decodedPieces
  case lines_eq => exact Text.map_toList_decodedPieces_eq_lines bytes
  case exchange => exact fun before old behind _ encloses _ => Text.exists_decodedPieces_eq encloses
  case error => exact fun error failed => Reading.error_of_result_eq_error (outcome ▸ failed)

/-- Bytes with sequences cut short by line ends, an overlong line feed, and a surrogate. -/
def truncated : List UInt8 :=
  Text.Utf8.encode "entity e is\nport (".toList ++ [0xE2, 0x82, 0x0D, 0x0A] ++
    Text.Utf8.encode "a : in std_logic".toList ++ [0xC0, 0x8A, 0x0D] ++
    Text.Utf8.encode "b : out std_logic_vector".toList ++ [0xF0, 0x9F, 0x0A] ++
    Text.Utf8.encode "end".toList ++ [0xED, 0xA0, 0x80]

theorem isReadByPieces_truncated :
    let files : Files := fun name => if name = "e" then some truncated else none
    files "e" = some truncated ∧ (Text.decodedPieces truncated).length = 5 ∧
      files.ports "e" = .ok ⟨[⟨0, "a", false, .input⟩], [⟨0, "b", true, .output⟩]⟩ ∧
      IsReadByPieces files "e" truncated := by
  intro files
  have readable : files "e" = some truncated := rfl
  have pieces : (Text.decodedPieces truncated).length = 5 := by decide +kernel
  have found : files.ports "e" = .ok ⟨[⟨0, "a", false, .input⟩], [⟨0, "b", true, .output⟩]⟩ := by
    decide +kernel
  exact ⟨readable, pieces, found, isReadByPieces readable⟩

end Files

end EntityDiagram
