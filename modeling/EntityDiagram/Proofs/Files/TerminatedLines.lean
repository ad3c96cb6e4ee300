import EntityDiagram.Proofs.Files.Bytes
import EntityDiagram.Proofs.Source.Spacing
import Mathlib.Data.List.Chain

/-!
Lines with line ends of any kind. A file that holds such lines has the outcome of the lines
themselves, and so has a text without lone carriage returns, although a text keeps the carriage
returns of its lines and has an empty line behind a last line feed.
-/

namespace EntityDiagram

open Text

/-- Lines that a text can hold: each has a line end, but for a last one that may be there. No line
    holds a line end, and no lone carriage return is followed by the line feed of an empty line,
    since the two would be one line end. -/
structure TerminatedLines where
  terminated : List (Line × Terminator)
  last? : Option Line
  unbroken : ∀ entry ∈ terminated, Unbroken '\n' '\r' entry.1
  last_unbroken : ∀ line, last? = some line → Unbroken '\n' '\r' line
  apart : terminated.IsChain fun entry next => entry.2 = .carriage → next ≠ ([], .feed)

/-- The text of lines with their line ends, and of what stands behind them. -/
def terminatedText (terminated : List (Line × Terminator)) (last : Line) : List Char :=
  (terminated.flatMap fun entry => entry.1 ++ entry.2.spell '\n' '\r') ++ last

/-- A line as it is left when a text is split at its line feeds. -/
def keptLine (entry : Line × Terminator) : Line :=
  if entry.2 = .carriageFeed then entry.1 ++ ['\r'] else entry.1

namespace TerminatedLines

/-- The text that holds the lines. -/
def text (written : TerminatedLines) : List Char :=
  terminatedText written.terminated (written.last?.getD [])

/-- The lines alone. -/
def lines (written : TerminatedLines) : List String :=
  (written.terminated.map Prod.fst ++ written.last?.toList).map String.ofList

end TerminatedLines

section

variable {terminated : List (Line × Terminator)} {last : Line}

theorem terminatedText_cons (entry : Line × Terminator) (terminated : List (Line × Terminator))
    (last : Line) :
    terminatedText (entry :: terminated) last =
      entry.1 ++ (entry.2.spell '\n' '\r' ++ terminatedText terminated last) := by
  simp [terminatedText]

/-- Only an empty line makes a text begin with a line feed. -/
theorem head?_terminatedText (unbroken : ∀ entry ∈ terminated, Unbroken '\n' '\r' entry.1)
    (lastUnbroken : Unbroken '\n' '\r' last)
    (first : (terminatedText terminated last).head? = some '\n') :
    terminated.head? = some ([], .feed) := by
  cases terminated with
  | nil => exact absurd (List.mem_of_head? first) lastUnbroken.1
  | cons entry terminated =>
    obtain ⟨line, terminator⟩ := entry
    have plain := unbroken (line, terminator) (by simp)
    rw [terminatedText_cons] at first
    cases line with
    | nil =>
      cases terminator with
      | feed => rfl
      | carriage | carriageFeed => exact absurd (Option.some.inj first) (by decide)
    | cons c line =>
      obtain rfl : c = '\n' := Option.some.inj first
      exact absurd List.mem_cons_self plain.1

/-- The pieces of a text are its lines. -/
theorem pieces_terminatedText (unbroken : ∀ entry ∈ terminated, Unbroken '\n' '\r' entry.1)
    (lastUnbroken : Unbroken '\n' '\r' last)
    (apart : terminated.IsChain fun entry next => entry.2 = .carriage → next ≠ ([], .feed)) :
    pieces '\n' '\r' (terminatedText terminated last) = terminated.map Prod.fst ++ [last] := by
  induction terminated with
  | nil => exact pieces_of_unbroken lastUnbroken
  | cons entry terminated ih =>
    have later : ∀ other ∈ terminated, Unbroken '\n' '\r' other.1 :=
      fun other member => unbroken other (by simp [member])
    obtain ⟨apartHere, apartLater⟩ := List.isChain_cons.mp apart
    have fits : entry.2.Fits '\n' (terminatedText terminated last) := by
      intro carriage first
      exact apartHere _ (head?_terminatedText later lastUnbroken first) carriage rfl
    rw [terminatedText_cons, pieces_append (by decide) (unbroken entry (by simp)) fits,
      ih later apartLater]
    rfl

theorem append_spell_eq_keptLine {entry : Line × Terminator} (noCarriage : entry.2 ≠ .carriage)
    (text : List Char) :
    entry.1 ++ (entry.2.spell '\n' '\r' ++ text) = keptLine entry ++ '\n' :: text := by
  obtain ⟨line, terminator⟩ := entry
  cases terminator with
  | feed => rfl
  | carriage => exact absurd rfl noCarriage
  | carriageFeed => simp [keptLine, Terminator.spell]

theorem lineFeed_not_mem_keptLine {entry : Line × Terminator}
    (unbroken : Unbroken '\n' '\r' entry.1) : '\n' ∉ keptLine entry := by
  unfold keptLine
  split
  · simpa using unbroken.1
  · exact unbroken.1

/-- A text without lone carriage returns is split at its line feeds where its lines end. -/
theorem splitOn_terminatedText (unbroken : ∀ entry ∈ terminated, Unbroken '\n' '\r' entry.1)
    (lastUnbroken : Unbroken '\n' '\r' last)
    (noCarriage : ∀ entry ∈ terminated, entry.2 ≠ .carriage) :
    (terminatedText terminated last).splitOn '\n' = terminated.map keptLine ++ [last] := by
  induction terminated with
  | nil => exact List.splitOn_eq_singleton lastUnbroken.1
  | cons entry terminated ih =>
    have later := ih (fun other member => unbroken other (by simp [member]))
      (fun other member => noCarriage other (by simp [member]))
    have plain := lineFeed_not_mem_keptLine (unbroken entry (by simp))
    rw [terminatedText_cons, append_spell_eq_keptLine (noCarriage entry (by simp)),
      List.splitOn_append_cons_self_of_not_mem plain, later]
    rfl

/-- The carriage return that a line keeps goes when the line is taken. -/
theorem trimFileBreaks_keptLine (entry : Line × Terminator) :
    trimFileBreaks (keptLine entry) = trimFileBreaks entry.1 := by
  unfold keptLine
  split
  · exact trimFileBreaks_append_of_isFileBreak rfl
  · rfl

end

namespace TerminatedLines

variable (written : TerminatedLines)

/-- The lines have the outcome of the lines behind which nothing, or an empty line, stands. -/
theorem result_lines (source : String) :
    (Reading.ofLines written.lines).result source =
      (Reading.initial.takeLines
        (written.terminated.map Prod.fst ++ [written.last?.getD []])).result source := by
  have same : written.lines.map String.toList =
      written.terminated.map Prod.fst ++ written.last?.toList := by
    rw [lines, List.map_map]
    exact List.map_id'' (fun line => String.toList_ofList) _
  rw [Reading.ofLines, same]
  cases written.last? with
  | none =>
    rw [Option.toList_none, List.append_nil]
    exact (Reading.result_takeLines_append_nil _ source).symm
  | some line => rfl

theorem last_getD_unbroken : Unbroken '\n' '\r' (written.last?.getD []) := by
  cases found : written.last? with
  | none => exact ⟨List.not_mem_nil, List.not_mem_nil⟩
  | some line => exact written.last_unbroken line found

/-- A file that holds the lines has their outcome. -/
theorem result_ofBytes (source : String) :
    (Reading.ofBytes (Utf8.encode written.text)).result source =
      (Reading.ofLines written.lines).result source := by
  rw [Reading.result_ofBytes, Reading.ofLines, map_toList_decodedPieces, Utf8.decode_encode, text,
    pieces_terminatedText written.unbroken written.last_getD_unbroken written.apart, result_lines]

/-- A text that holds the lines, without lone carriage returns, has their outcome. -/
theorem result_ofText (noCarriage : ∀ entry ∈ written.terminated, entry.2 ≠ .carriage)
    (source : String) :
    (Reading.ofText (String.ofList written.text)).result source =
      (Reading.ofLines written.lines).result source := by
  have trimmed : (written.terminated.map keptLine).map trimFileBreaks =
      (written.terminated.map Prod.fst).map trimFileBreaks := by
    rw [List.map_map, List.map_map]
    exact List.map_congr_left fun entry _ => trimFileBreaks_keptLine entry
  rw [result_lines, Reading.ofText, String.toList_ofList, text,
    splitOn_terminatedText written.unbroken written.last_getD_unbroken noCarriage,
    Reading.takeLines, Reading.takeLines, List.map_append, trimmed, List.map_append]

/-- Lines have the same outcome in a file, in a text and on their own. -/
theorem ports_eq_result_lines (source : String) :
    (∀ files : Files, files source = some (Utf8.encode written.text) →
      files.ports source = (Reading.ofLines written.lines).result source) ∧
    ((∀ entry ∈ written.terminated, entry.2 ≠ .carriage) →
      (Reading.ofText (String.ofList written.text)).result source =
        (Reading.ofLines written.lines).result source) := by
  constructor
  · intro files holds
    rw [Files.ports, holds]
    exact written.result_ofBytes source
  · intro noCarriage
    exact written.result_ofText noCarriage source

/-- Lines with a byte order mark and with line breaks of displays, which end no line of a file. -/
def separatorLines : List Line :=
  ["\ufeffentity\u2028e\u0085is", "", "port (", "a\u000b: in std_logic",
    "-- \u2029 b : out std_logic", "", "c : out std_logic_vector\u001c"].map String.toList

/-- These lines with line ends of every kind. -/
def mixedEnds : TerminatedLines where
  terminated := separatorLines.zip
    [.carriage, .carriageFeed, .feed, .carriageFeed, .feed, .feed, .carriage]
  last? := some "end;".toList
  unbroken := by decide +kernel
  last_unbroken := by decide +kernel
  apart := by decide +kernel

/-- These lines without lone carriage returns. -/
def feedEnds : TerminatedLines where
  terminated := separatorLines.zip
    [.feed, .carriageFeed, .feed, .carriageFeed, .feed, .feed, .carriageFeed]
  last? := none
  unbroken := by decide +kernel
  last_unbroken := by decide +kernel
  apart := by decide +kernel

theorem ports_eq_result_lines_mixedEnds :
    let ports : Ports := ⟨[⟨0, "a", false, .input⟩], [⟨1, "c", true, .output⟩]⟩
    let files : Files := fun name => if name = "e" then some (Utf8.encode mixedEnds.text) else none
    files "e" = some (Utf8.encode mixedEnds.text) ∧ files.ports "e" = .ok ports ∧
      files.ports "e" = (Reading.ofLines mixedEnds.lines).result "e" ∧
      (∀ entry ∈ feedEnds.terminated, entry.2 ≠ .carriage) ∧
      (Reading.ofText (String.ofList feedEnds.text)).result "t" =
        (Reading.ofLines feedEnds.lines).result "t" := by
  intro ports files
  have holds : files "e" = some (Utf8.encode mixedEnds.text) := rfl
  have found : files.ports "e" = .ok ports := by decide +kernel
  have noCarriage : ∀ entry ∈ feedEnds.terminated, entry.2 ≠ .carriage := by decide +kernel
  exact ⟨holds, found, (ports_eq_result_lines mixedEnds "e").1 files holds, noCarriage,
    (ports_eq_result_lines feedEnds "t").2 noCarriage⟩

end TerminatedLines

end EntityDiagram
