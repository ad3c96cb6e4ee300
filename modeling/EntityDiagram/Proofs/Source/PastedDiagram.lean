import EntityDiagram.Proofs.Diagram.Drawing
import EntityDiagram.Proofs.Source.Groups
import EntityDiagram.Proofs.Source.Inert
import EntityDiagram.Proofs.Source.Spacing

/-!
Diagrams in a source. Every line of a box is a comment, whatever its rows hold, as long as they hold
no line break. So the diagram of an entity can be pasted between any two lines of any source, and
the source leads to the same outcome as before.
-/

namespace EntityDiagram

namespace Text

/-- What a text is split into holds no line feed. -/
theorem lineFeed_not_mem_of_mem_splitOn {text line : List Char}
    (member : line ∈ text.splitOn '\n') : '\n' ∉ line := by
  induction text using runs_induction (· != '\n') with
  | run text plain =>
    have absent : '\n' ∉ text := by
      intro feed
      simpa using plain _ feed
    rw [List.splitOn_eq_singleton absent, List.mem_singleton] at member
    rwa [member]
  | cut before c behind isFeed first second =>
    obtain rfl : c = '\n' := by simpa using isFeed
    rw [List.splitOn_append_cons_self, List.mem_append] at member
    rcases member with member | member
    · exact first member
    · exact second member

/-- Joined lines are split where the lines themselves are, and between two of them. -/
theorem splitOn_joinLines {lines : List String} (nonempty : lines ≠ []) :
    (joinLines lines).toList.splitOn '\n' = lines.flatMap fun line => line.toList.splitOn '\n' := by
  have feed : "\n".toList = ['\n'] := rfl
  rw [joinLines, String.toList_intercalate, feed]
  induction lines with
  | nil => exact absurd rfl nonempty
  | cons first lines ih =>
    cases lines with
    | nil => simp
    | cons second lines =>
      have later := ih (List.cons_ne_nil second lines)
      rw [List.map_cons] at later
      rw [List.map_cons, List.map_cons, List.intercalate_cons_cons, List.append_assoc,
        List.singleton_append, List.splitOn_append_cons_self, later]
      rfl

/-- Lines without line feeds are what their joined text is split into. -/
theorem flatMap_splitOn {lines : List String} (plain : ∀ line ∈ lines, '\n' ∉ line.toList) :
    (lines.flatMap fun line => line.toList.splitOn '\n') = lines.map String.toList := by
  induction lines with
  | nil => rfl
  | cons line lines ih =>
    rw [List.flatMap_cons, List.map_cons, List.splitOn_eq_singleton (plain line (by simp)),
      ih fun other member => plain other (by simp [member])]
    rfl

end Text

/-- Lines that can be put between any two lines of any source, and as a text between any two lines
    of any text, without another outcome. -/
structure IsInert (inserted : List String) : Prop where
  lines : ∀ (lines : List String) (k : Nat) (source : String),
    (Reading.ofLines (lines.take k ++ inserted ++ lines.drop k)).result source =
      (Reading.ofLines lines).result source
  text : ∀ (text : String) (k : Nat) (source : String),
    let lines := (text.toList.splitOn '\n').map String.ofList
    (Reading.ofText (Text.joinLines
        (lines.take k ++ [Text.joinLines inserted] ++ lines.drop k))).result source =
      (Reading.ofText text).result source

/-- A text is read as the lines that it is split into. -/
theorem Reading.ofText_eq_ofLines (text : String) :
    ofText text = ofLines ((text.toList.splitOn '\n').map String.ofList) := by
  simp [ofText, ofLines, Function.comp_def]

/-- Comments without line feeds are inert. -/
theorem isInert_of_comments {inserted : List String} (nonempty : inserted ≠ [])
    (comments : ∀ line ∈ inserted, Line.isComment line.toList = true)
    (plain : ∀ line ∈ inserted, '\n' ∉ line.toList) : IsInert inserted := by
  have areComments : ∀ line ∈ scanned inserted, line.isComment = true := by
    intro line member
    obtain ⟨whole, wholeMember, rfl⟩ := List.mem_map.mp member
    rw [Line.isComment_congr (Text.sameTokens_trimFileBreaks whole.toList)]
    exact comments whole wholeMember
  have betweenLines : ∀ (lines : List String) (k : Nat) (source : String),
      (Reading.ofLines (lines.take k ++ inserted ++ lines.drop k)).result source =
        (Reading.ofLines lines).result source := by
    intro lines k source
    have insertion := Reading.result_scanLines_insert areComments (scanned (lines.take k))
      (scanned (lines.drop k)) source
    have whole : scanned (lines.take k) ++ scanned (lines.drop k) = scanned lines := by
      rw [scanned, scanned, ← List.map_append, List.take_append_drop, scanned]
    rw [Reading.ofLines_eq_scanLines, Reading.ofLines_eq_scanLines, ← whole, ← insertion]
    simp [scanned]
  refine ⟨betweenLines, ?_⟩
  intro text k source lines
  have linesPlain : ∀ line ∈ lines, '\n' ∉ line.toList := by
    intro line member
    obtain ⟨piece, pieceMember, rfl⟩ := List.mem_map.mp member
    rw [String.toList_ofList]
    exact Text.lineFeed_not_mem_of_mem_splitOn pieceMember
  have split : (Text.joinLines (lines.take k ++ [Text.joinLines inserted] ++
      lines.drop k)).toList.splitOn '\n' =
        (lines.take k ++ inserted ++ lines.drop k).map String.toList := by
    rw [Text.splitOn_joinLines (by simp), List.flatMap_append, List.flatMap_append,
      List.flatMap_singleton, Text.splitOn_joinLines nonempty, Text.flatMap_splitOn plain,
      Text.flatMap_splitOn fun line member => linesPlain line (List.mem_of_mem_take member),
      Text.flatMap_splitOn fun line member => linesPlain line (List.mem_of_mem_drop member),
      List.map_append, List.map_append]
  rw [Reading.ofText_eq_ofLines text, ← betweenLines lines k source, Reading.ofText, split]
  rfl

namespace Box

/-- Every part of a box is a comment. -/
theorem isComment_of_mem_parts {rows : List Row} {part : String} (member : part ∈ parts rows) :
    Line.isComment part.toList = true := by
  have marked : ∀ {front : String} (behind : String), ['-', '-'] <+: front.toList →
      Line.isComment (front ++ behind).toList = true := by
    rintro front behind ⟨rest, whole⟩
    refine Line.isComment_iff.mpr ⟨[], rest ++ behind.toList, by simp, ?_⟩
    rw [String.toList_append, ← whole, List.append_assoc, List.nil_append]
  simp only [parts, List.mem_append, List.mem_cons, List.not_mem_nil, or_false,
    List.mem_map] at member
  rcases member with ((rfl | rfl) | ⟨row, rowMember, rfl⟩) | (rfl | rfl)
  · decide
  · exact marked _ (by decide)
  · rw [rowLine, String.append_assoc]
    exact marked _ (by decide)
  · exact marked _ (by decide)
  · decide

/-- The box of rows without line breaks is inert. -/
theorem isInert_lines {rows : List Row} (plain : ∀ row ∈ rows, row.IsPlain) :
    IsInert (lines rows) := by
  rw [lines_eq_parts plain]
  apply isInert_of_comments
  · simp [parts]
  · exact fun part => isComment_of_mem_parts
  · intro part member feed
    exact absurd (isDisplayBreak_parts plain member '\n' feed) (by decide)

end Box

namespace Reading

/-- The diagram of a source that is read well can be pasted between any two lines of any source, and
    so can every box whose rows hold no line break. -/
theorem isInert_diagram :
    (∀ (lines : List String) (source : String) (ports : Ports),
      (ofLines lines).result source = .ok ports → IsInert ports.diagram) ∧
    ∀ rows : List Row, (∀ row ∈ rows, row.IsPlain) → IsInert (Box.lines rows) := by
  constructor
  · intro lines source ports success
    obtain ⟨-, -, -, words⟩ := exists_numbered_of_result_eq_ok success
    exact Box.isInert_lines fun row member => (Ports.isReadable_layout words row member).isPlain
  · intro rows plain
    exact Box.isInert_lines plain

/-- Rows whose texts would mean something in a source if they did not stand in a comment. -/
def keywordRows : List Row := [⟨"entity e is port (", "end;"⟩, ⟨"", "a : in std_logic;"⟩]

theorem isInert_diagram_twoGroups :
    let ports : Ports := ⟨[⟨0, "port", false, .input⟩], [⟨1, "data", true, .bidirectional⟩]⟩
    (ofLines twoGroups).result "s" = .ok ports ∧ (∀ row ∈ keywordRows, row.IsPlain) ∧
      IsInert ports.diagram ∧ IsInert (Box.lines keywordRows) := by
  intro ports
  have success : (ofLines twoGroups).result "s" = .ok ports := by decide +kernel
  have sidesPlain : (keywordRows.all fun row =>
      (row.left.toList ++ row.right.toList).all (!Text.isDisplayBreak ·)) = true := by
    decide +kernel
  have plain : ∀ row ∈ keywordRows, row.IsPlain := by
    intro row member
    have sides := List.all_eq_true.mp (List.all_eq_true.mp sidesPlain row member)
    constructor
    · intro c inside
      simpa using sides c (by simp [inside])
    · intro c inside
      simpa using sides c (by simp [inside])
  exact ⟨success, plain, isInert_diagram.1 twoGroups "s" ports success,
    isInert_diagram.2 keywordRows plain⟩

end Reading

end EntityDiagram
