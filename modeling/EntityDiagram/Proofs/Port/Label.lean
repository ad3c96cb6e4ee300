import EntityDiagram.Port.Basic
import EntityDiagram.Proofs.Diagram.Decoding
import EntityDiagram.Proofs.Text.Spelling

/-!
Labels of ports whose names are words. Such a label is readable in a diagram and never empty, and it
tells the name and the kind of the port, because no word contains a bracket.
-/

namespace EntityDiagram

/-- The name of a port is a word. -/
def Port.HasWordName (port : Port) : Prop := Text.IsWord port.name.toList

namespace Port

/-- What a diagram shows of a port: the group, and with the label the name and the kind. -/
def shown (port : Port) : Int × String × Bool := (port.group, port.name, port.isVector)

theorem shown_eq_iff {port other : Port} :
    port.shown = other.shown ↔
      port.group = other.group ∧ port.name = other.name ∧ port.isVector = other.isVector := by
  simp [shown]

theorem toList_label (port : Port) :
    port.label.toList = port.name.toList ++ if port.isVector then ['[', ']'] else [] := by
  unfold label
  cases port.isVector with
  | false => simp
  | true =>
    have brackets : "[]".toList = ['[', ']'] := rfl
    simp [brackets]

/-- The characters of a label are those of words, and brackets. -/
theorem mem_label {port : Port} (word : port.HasWordName) {c : Char}
    (member : c ∈ port.label.toList) : Text.isWordChar c = true ∨ c = '[' ∨ c = ']' := by
  rw [toList_label, List.mem_append] at member
  rcases member with name | brackets
  · exact .inl (word.isWordChar c name)
  · right
    split at brackets
    · simpa using brackets
    · cases brackets

theorem readable_label {port : Port} (word : port.HasWordName) : Readable port.label.toList := by
  apply Readable.of_noSpace
  intro c member
  have noSpace : Text.isSpace c = false := by
    rcases mem_label word member with letter | rfl | rfl
    · exact Text.isSpace_eq_false_of_isWordChar letter
    · decide
    · decide
  constructor
  · cases isBreak : Text.isDisplayBreak c with
    | false => rfl
    | true => rw [Text.isSpace_of_isDisplayBreak isBreak] at noSpace; cases noSpace
  · rintro rfl
    exact absurd noSpace (by decide)

theorem label_ne_empty {port : Port} (word : port.HasWordName) : port.label ≠ "" := by
  intro empty
  have nothing := port.toList_label
  rw [empty] at nothing
  exact word.ne_nil (List.append_eq_nil_iff.mp nothing.symm).1

/-- A bracket in the label marks a vector. -/
theorem bracket_mem_label_iff {port : Port} (word : port.HasWordName) :
    '[' ∈ port.label.toList ↔ port.isVector = true := by
  have absent : '[' ∉ port.name.toList := by
    intro member
    exact absurd (word.isWordChar '[' member) (by decide +kernel)
  cases vector : port.isVector with
  | false => simp [toList_label, vector, absent]
  | true => simp [toList_label, vector]

/-- A label tells the name of the port and whether the port is a vector. -/
theorem label_injective {port other : Port} (word : port.HasWordName)
    (otherWord : other.HasWordName) (same : port.label = other.label) :
    port.name = other.name ∧ port.isVector = other.isVector := by
  have sameKind : port.isVector = other.isVector := by
    rw [Bool.eq_iff_iff, ← bracket_mem_label_iff word, same, bracket_mem_label_iff otherWord]
  have lists := congrArg String.toList same
  rw [toList_label, toList_label, sameKind] at lists
  exact ⟨String.toList_inj.mp (List.append_cancel_right lists), sameKind⟩

end Port

end EntityDiagram
