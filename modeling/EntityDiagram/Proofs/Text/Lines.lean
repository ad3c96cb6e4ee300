import EntityDiagram.Text.Lines

/-!
Lines that are joined by line feeds and split again. A text that does not end in a break is split by
itself, whatever is joined to it. Pieces that hold no break come back as they were.
-/

namespace EntityDiagram.Text

variable {isBreak : Char → Bool}

theorem forall_getLast?_of_cons {c : Char} {text : List Char}
    (last : ∀ d, (c :: text).getLast? = some d → isBreak d = false) :
    ∀ d, text.getLast? = some d → isBreak d = false := by
  intro d final
  apply last
  rw [List.getLast?_cons, final]
  rfl

/-- Behind a break a text goes on if it does not end in one. -/
theorem ne_nil_of_isBreak {c : Char} {text : List Char} (ends : isBreak c = true)
    (last : ∀ d, (c :: text).getLast? = some d → isBreak d = false) : text ≠ [] := by
  rintro rfl
  rw [last c rfl] at ends
  cases ends

theorem linesFrom_cons {c : Char} {text : List Char} (apart : c = '\r' → text.head? ≠ some '\n')
    (line : List Char) :
    linesFrom isBreak line (c :: text) =
      if isBreak c then line.reverse :: linesFrom isBreak [] text
      else linesFrom isBreak (c :: line) text := by
  rw [linesFrom]
  rintro text' rfl rfl
  exact apart rfl rfl

section Breaks

variable (carriage : isBreak '\r' = true)

include carriage

/-- What holds no break belongs to the current line. -/
theorem linesFrom_append {piece : List Char} (plain : ∀ c ∈ piece, isBreak c = false)
    (line text : List Char) :
    linesFrom isBreak line (piece ++ text) = linesFrom isBreak (piece.reverse ++ line) text := by
  induction piece generalizing line with
  | nil => rfl
  | cons c piece ih =>
    have first := plain c (by simp)
    have noReturn : c ≠ '\r' := by
      intro same
      rw [same, carriage] at first
      cases first
    rw [List.cons_append, linesFrom_cons (fun same => absurd same noReturn),
      if_neg (by simp [first]), ih fun d member => plain d (by simp [member])]
    simp

theorem lines_of_plain {piece : List Char} (nonempty : piece ≠ [])
    (plain : ∀ c ∈ piece, isBreak c = false) : lines isBreak piece = [piece] := by
  have whole := linesFrom_append carriage plain [] []
  rw [List.append_nil, List.append_nil] at whole
  rw [lines, whole]
  simp [linesFrom, nonempty]

variable (feed : isBreak '\n' = true)

include feed

/-- A line feed behind a text that does not end in a break ends the last line of the text. -/
theorem linesFrom_append_cons {line text : List Char} (nonempty : text = [] → line ≠ [])
    (last : ∀ c, text.getLast? = some c → isBreak c = false) (rest : List Char) :
    linesFrom isBreak line (text ++ '\n' :: rest) =
      linesFrom isBreak line text ++ lines isBreak rest := by
  fun_induction linesFrom isBreak line text with
  | case1 line empty => exact absurd (List.isEmpty_iff.mp empty) (nonempty rfl)
  | case2 line more =>
    rw [List.nil_append, linesFrom_cons (fun same => absurd same (by decide)), if_pos feed]
    rfl
  | case3 line text ih =>
    have more : text ≠ [] := ne_nil_of_isBreak feed (forall_getLast?_of_cons last)
    rw [List.cons_append, List.cons_append, linesFrom,
      ih (fun empty => absurd empty more) (forall_getLast?_of_cons (forall_getLast?_of_cons last)),
      List.cons_append]
  | case4 line c text apart ends ih =>
    have more := ne_nil_of_isBreak ends last
    have noFeed : c = '\r' → (text ++ '\n' :: rest).head? ≠ some '\n' := by
      intro same head
      obtain ⟨d, behind, rfl⟩ := List.exists_cons_of_ne_nil more
      obtain rfl : d = '\n' := Option.some.inj head
      exact apart behind same rfl
    rw [List.cons_append, linesFrom_cons noFeed, if_pos ends,
      ih (fun empty => absurd empty more) (forall_getLast?_of_cons last), List.cons_append]
  | case5 line c text apart goes ih =>
    have noReturn : c ≠ '\r' := by
      rintro rfl
      exact goes carriage
    rw [List.cons_append, linesFrom_cons (fun same => absurd same noReturn), if_neg goes,
      ih (fun _ => List.cons_ne_nil _ _) (forall_getLast?_of_cons last)]

/-- Texts that do not end in a break have their lines apart when they are joined by line feeds. -/
theorem lines_intercalate {texts : List (List Char)}
    (ends : ∀ text ∈ texts, ∃ c, text.getLast? = some c ∧ isBreak c = false) :
    lines isBreak (['\n'].intercalate texts) = texts.flatMap (lines isBreak) := by
  induction texts with
  | nil => rfl
  | cons text texts ih =>
    cases texts with
    | nil => simp
    | cons second texts =>
      obtain ⟨c, final, plain⟩ := ends text (by simp)
      have nonempty : text ≠ [] := by
        rintro rfl
        cases final
      have last : ∀ d, text.getLast? = some d → isBreak d = false := by
        intro d other
        obtain rfl : c = d := Option.some.inj (final.symm.trans other)
        exact plain
      have here : ∀ rest, lines isBreak (text ++ '\n' :: rest) =
          lines isBreak text ++ lines isBreak rest :=
        linesFrom_append_cons carriage feed (fun empty => absurd empty nonempty) last
      rw [List.intercalate_cons_cons, List.append_assoc, List.singleton_append, here,
        ih fun other member => ends other (by simp [member])]
      rfl

end Breaks

end EntityDiagram.Text
