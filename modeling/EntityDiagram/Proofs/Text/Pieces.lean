import EntityDiagram.Proofs.Text.Lines
import Mathlib.Data.List.Basic

/-!
Cutting a text at its line ends, over any alphabet with a line feed and a carriage return: besides
these two, a carriage return with a line feed behind it is one end. A text with n ends has n + 1
pieces, and a piece can be exchanged without an influence on the others. Over characters, the pieces
are the lines of a file, with an empty one behind a last terminator.
-/

namespace EntityDiagram.Text

variable {α : Type} [DecidableEq α]

/-- A text with every line end written as a line feed: a carriage return goes if a line feed is
    behind it, and is replaced by one otherwise. -/
def unifyEnds (feed carriage : α) : List α → List α
  | [] => []
  | c :: text =>
    if c = carriage then
      if text.head? = some feed then unifyEnds feed carriage text
      else feed :: unifyEnds feed carriage text
    else c :: unifyEnds feed carriage text

/-- The pieces of a text between its line ends. -/
def pieces (feed carriage : α) (text : List α) : List (List α) :=
  (unifyEnds feed carriage text).splitOn feed

/-- Whether a piece holds no line end. -/
def Unbroken (feed carriage : α) (piece : List α) : Prop := feed ∉ piece ∧ carriage ∉ piece

instance (feed carriage : α) (piece : List α) : Decidable (Unbroken feed carriage piece) :=
  inferInstanceAs (Decidable (_ ∧ _))

/-- What ends a line. -/
inductive Terminator where
  | feed
  | carriage
  | carriageFeed
  deriving DecidableEq, Repr

/-- A line end in the alphabet of a text. -/
def Terminator.spell (feed carriage : α) : Terminator → List α
  | .feed => [feed]
  | .carriage => [carriage]
  | .carriageFeed => [carriage, feed]

/-- Whether a line end stays the same in front of a text: a carriage return does not if the text
    begins with a line feed. -/
def Terminator.Fits (feed : α) (terminator : Terminator) (text : List α) : Prop :=
  terminator = .carriage → text.head? ≠ some feed

section

variable {feed carriage : α}

theorem unifyEnds_cons_of_ne {c : α} (other : c ≠ carriage) (text : List α) :
    unifyEnds feed carriage (c :: text) = c :: unifyEnds feed carriage text := by
  rw [unifyEnds, if_neg other]

theorem unifyEnds_carriage {text : List α} (apart : text.head? ≠ some feed) :
    unifyEnds feed carriage (carriage :: text) = feed :: unifyEnds feed carriage text := by
  rw [unifyEnds, if_pos rfl, if_neg apart]

theorem unifyEnds_carriage_of_feed {text : List α} (joined : text.head? = some feed) :
    unifyEnds feed carriage (carriage :: text) = unifyEnds feed carriage text := by
  rw [unifyEnds, if_pos rfl, if_pos joined]

/-- Line ends are unified on both sides of a cut that divides none of them. -/
theorem unifyEnds_append {text more : List α}
    (apart : text.getLast? = some carriage → more.head? ≠ some feed) :
    unifyEnds feed carriage (text ++ more) =
      unifyEnds feed carriage text ++ unifyEnds feed carriage more := by
  induction text with
  | nil => rfl
  | cons c text ih =>
    by_cases other : c = carriage
    · subst other
      cases text with
      | nil => rw [List.singleton_append, unifyEnds_carriage (apart rfl)]; simp [unifyEnds]
      | cons d text =>
        have later := ih (by simpa using apart)
        by_cases joined : d = feed
        · rw [List.cons_append, unifyEnds_carriage_of_feed (by simp [joined]), later,
            unifyEnds_carriage_of_feed (by simp [joined])]
        · rw [List.cons_append, unifyEnds_carriage (by simp [joined]), later,
            unifyEnds_carriage (by simp [joined])]
          rfl
    · have later := ih fun last => apart (by rw [List.getLast?_cons, last]; rfl)
      rw [List.cons_append, unifyEnds_cons_of_ne other, later, unifyEnds_cons_of_ne other]
      rfl

theorem unifyEnds_of_not_mem {piece : List α} (plain : carriage ∉ piece) :
    unifyEnds feed carriage piece = piece := by
  induction piece with
  | nil => rfl
  | cons c piece ih =>
    rw [List.mem_cons, not_or] at plain
    rw [unifyEnds_cons_of_ne (Ne.symm plain.1), ih plain.2]

/-- A text without line ends is one piece. -/
theorem pieces_of_unbroken {piece : List α} (unbroken : Unbroken feed carriage piece) :
    pieces feed carriage piece = [piece] := by
  rw [pieces, unifyEnds_of_not_mem unbroken.2, List.splitOn_eq_singleton unbroken.1]

variable (distinct : feed ≠ carriage)

include distinct

/-- However it is written, a line end is one line feed in the end. -/
theorem unifyEnds_spell {terminator : Terminator} {text : List α}
    (fits : terminator.Fits feed text) :
    unifyEnds feed carriage (terminator.spell feed carriage ++ text) =
      feed :: unifyEnds feed carriage text := by
  cases terminator with
  | feed => exact unifyEnds_cons_of_ne distinct text
  | carriage => exact unifyEnds_carriage (fits rfl)
  | carriageFeed =>
    rw [Terminator.spell, List.cons_append, unifyEnds_carriage_of_feed rfl]
    exact unifyEnds_cons_of_ne distinct text

/-- A line end divides the pieces before it from those behind it. -/
theorem pieces_append_spell {before text : List α} {terminator : Terminator}
    (whole : terminator = .feed → before.getLast? ≠ some carriage)
    (fits : terminator.Fits feed text) :
    pieces feed carriage (before ++ (terminator.spell feed carriage ++ text)) =
      pieces feed carriage before ++ pieces feed carriage text := by
  have apart : before.getLast? = some carriage →
      (terminator.spell feed carriage ++ text).head? ≠ some feed := by
    intro last
    cases terminator with
    | feed => exact absurd last (whole rfl)
    | carriage | carriageFeed => simpa [Terminator.spell] using Ne.symm distinct
  rw [pieces, unifyEnds_append apart, unifyEnds_spell distinct fits, List.splitOn_append_cons_self]
  rfl

/-- What stands before the first line end is the first piece. -/
theorem pieces_append {piece : List α} (unbroken : Unbroken feed carriage piece)
    {terminator : Terminator} {text : List α} (fits : terminator.Fits feed text) :
    pieces feed carriage (piece ++ (terminator.spell feed carriage ++ text)) =
      piece :: pieces feed carriage text := by
  have whole : terminator = .feed → piece.getLast? ≠ some carriage :=
    fun _ last => unbroken.2 (List.mem_of_getLast? last)
  rw [pieces_append_spell distinct whole fits, pieces_of_unbroken unbroken]
  rfl

omit distinct in
/-- A text is one piece, or it is a piece, a line end and a shorter text. -/
theorem unbroken_or_exists_terminator (feed carriage : α) (text : List α) :
    Unbroken feed carriage text ∨
      ∃ piece terminator behind, Unbroken feed carriage piece ∧
        Terminator.Fits feed terminator behind ∧
        text = piece ++ (terminator.spell feed carriage ++ behind) := by
  induction text with
  | nil => exact .inl ⟨List.not_mem_nil, List.not_mem_nil⟩
  | cons c text ih =>
    have none : Unbroken feed carriage ([] : List α) := ⟨List.not_mem_nil, List.not_mem_nil⟩
    by_cases isFeed : c = feed
    · exact .inr ⟨[], .feed, text, none, nofun, by rw [isFeed]; rfl⟩
    by_cases isCarriage : c = carriage
    · right
      by_cases joined : text.head? = some feed
      · obtain ⟨behind, rfl⟩ := List.head?_eq_some_iff.mp joined
        exact ⟨[], .carriageFeed, behind, none, nofun, by rw [isCarriage]; rfl⟩
      · exact ⟨[], .carriage, text, none, fun _ => joined, by rw [isCarriage]; rfl⟩
    have first : ∀ {piece}, Unbroken feed carriage piece → Unbroken feed carriage (c :: piece) := by
      intro piece unbroken
      constructor
      · simpa [Ne.symm isFeed] using unbroken.1
      · simpa [Ne.symm isCarriage] using unbroken.2
    rcases ih with unbroken | ⟨piece, terminator, behind, unbroken, fits, rfl⟩
    · exact .inl (first unbroken)
    · exact .inr ⟨c :: piece, terminator, behind, first unbroken, fits, rfl⟩

omit distinct in
/-- Induction over the pieces of a text. -/
theorem pieces_induction (feed carriage : α) {motive : List α → Prop}
    (piece : ∀ piece, Unbroken feed carriage piece → motive piece)
    (append : ∀ piece terminator text, Unbroken feed carriage piece →
      Terminator.Fits feed terminator text → motive text →
      motive (piece ++ (terminator.spell feed carriage ++ text)))
    (text : List α) : motive text := by
  induction length : text.length using Nat.strongRecOn generalizing text with
  | ind size ih =>
    rcases unbroken_or_exists_terminator feed carriage text with unbroken |
      ⟨first, terminator, behind, unbroken, fits, rfl⟩
    · exact piece text unbroken
    · refine append first terminator behind unbroken fits (ih behind.length ?_ behind rfl)
      rw [← length]
      cases terminator <;> simp [Terminator.spell] <;> omega

theorem unbroken_of_mem_pieces {text piece : List α} (member : piece ∈ pieces feed carriage text) :
    Unbroken feed carriage piece := by
  induction text using pieces_induction feed carriage with
  | piece whole unbroken =>
    rw [pieces_of_unbroken unbroken, List.mem_singleton] at member
    rwa [member]
  | append first terminator text unbroken fits ih =>
    rw [pieces_append distinct unbroken fits] at member
    rcases List.mem_cons.mp member with rfl | later
    · exact unbroken
    · exact ih later

/-- Whether what stands between two texts is cut off from them: the first text ends as a line does,
    and the second one begins with a line end. -/
structure Encloses (feed carriage : α) (before behind : List α) : Prop where
  last : ∀ c, before.getLast? = some c → c = feed ∨ c = carriage
  first : ∀ c, behind.head? = some c → c = feed ∨ c = carriage

omit distinct in
/-- A text that begins as a line end does begins with a whole one. -/
theorem exists_spell_append {behind : List α}
    (first : ∀ c, behind.head? = some c → c = feed ∨ c = carriage) (nonempty : behind ≠ []) :
    ∃ terminator text, Terminator.Fits feed terminator text ∧
      behind = terminator.spell feed carriage ++ text := by
  obtain ⟨c, text, rfl⟩ := List.exists_cons_of_ne_nil nonempty
  rcases first c rfl with rfl | rfl
  · exact ⟨.feed, text, nofun, rfl⟩
  by_cases joined : text.head? = some feed
  · obtain ⟨text, rfl⟩ := List.head?_eq_some_iff.mp joined
    exact ⟨.carriageFeed, text, nofun, rfl⟩
  · exact ⟨.carriage, text, fun _ => joined, rfl⟩

omit distinct in
/-- A text that ends as a line end does ends with a whole one. -/
theorem exists_append_spell {before : List α}
    (last : ∀ c, before.getLast? = some c → c = feed ∨ c = carriage) (nonempty : before ≠ []) :
    ∃ text, ∃ terminator : Terminator, (terminator = .feed → text.getLast? ≠ some carriage) ∧
      before = text ++ terminator.spell feed carriage := by
  obtain ⟨text, c, rfl⟩ := List.eq_nil_or_concat before |>.resolve_left nonempty
  rcases last c (by simp) with rfl | rfl
  · by_cases joined : text.getLast? = some carriage
    · obtain ⟨text, rfl⟩ := List.getLast?_eq_some_iff.mp joined
      exact ⟨text, .carriageFeed, nofun, by simp [Terminator.spell]⟩
    · exact ⟨text, .feed, fun _ => joined, by simp [Terminator.spell]⟩
  · exact ⟨text, .carriage, nofun, by simp [Terminator.spell]⟩

/-- The pieces behind a piece do not depend on it. -/
theorem exists_pieces_append {behind : List α}
    (first : ∀ c, behind.head? = some c → c = feed ∨ c = carriage) :
    ∃ back,
      (∀ piece, Unbroken feed carriage piece →
        pieces feed carriage (piece ++ behind) = piece :: back) ∧
      ∀ text, behind = feed :: text → back = pieces feed carriage text := by
  by_cases nonempty : behind = []
  · refine ⟨[], fun piece unbroken => ?_, fun text begins => ?_⟩
    · rw [nonempty, List.append_nil, pieces_of_unbroken unbroken]
    · rw [nonempty] at begins
      cases begins
  · obtain ⟨terminator, text, fits, rfl⟩ := exists_spell_append first nonempty
    refine ⟨pieces feed carriage text, fun piece unbroken => ?_, fun other begins => ?_⟩
    · exact pieces_append distinct unbroken fits
    · cases terminator with
      | feed =>
        obtain rfl : text = other := (List.cons.inj begins).2
        rfl
      | carriage | carriageFeed => exact absurd (List.cons.inj begins).1.symm distinct

/-- Which piece stands between two texts has no influence on the other pieces. Only if nothing is
    left between a carriage return and a line feed, the two become one line end. -/
theorem exists_pieces_eq {before behind : List α}
    (encloses : Encloses feed carriage before behind) :
    ∃ front back, ∀ piece, Unbroken feed carriage piece →
      pieces feed carriage (before ++ (piece ++ behind)) =
        if before.getLast? = some carriage ∧ piece = [] ∧ behind.head? = some feed
        then front ++ back else front ++ piece :: back := by
  obtain ⟨back, sameBack, joinedBack⟩ := exists_pieces_append distinct encloses.first
  by_cases nonempty : before = []
  · refine ⟨[], back, fun piece unbroken => ?_⟩
    rw [if_neg (by simp [nonempty]), nonempty, List.nil_append, List.nil_append,
      sameBack piece unbroken]
  obtain ⟨text, terminator, whole, rfl⟩ := exists_append_spell encloses.last nonempty
  refine ⟨pieces feed carriage text, back, fun piece unbroken => ?_⟩
  rw [List.append_assoc]
  split
  · rename_i joined
    obtain ⟨last, rfl, head⟩ := joined
    obtain ⟨rest, rfl⟩ := List.head?_eq_some_iff.mp head
    obtain rfl : terminator = .carriage := by
      cases terminator with
      | carriage => rfl
      | feed | carriageFeed => exact absurd (by simpa [Terminator.spell] using last) distinct
    have together : pieces feed carriage
        (text ++ (Terminator.carriageFeed.spell feed carriage ++ rest)) =
          pieces feed carriage text ++ pieces feed carriage rest :=
      pieces_append_spell distinct nofun nofun
    rw [joinedBack rest rfl, ← together]
    rfl
  · rename_i apart
    have fits : terminator.Fits feed (piece ++ behind) := by
      rintro rfl head
      refine apart ⟨by simp [Terminator.spell], ?_⟩
      cases piece with
      | nil => exact ⟨rfl, head⟩
      | cons c piece =>
        obtain rfl : c = feed := Option.some.inj head
        exact absurd (List.mem_cons_self) unbroken.1
    rw [pieces_append_spell distinct whole fits, sameBack piece unbroken]

end

/-! ### Counting lines -/

section Breaks

variable {isBreak : Char → Bool}

/-- How many line ends a text has for a reader that breaks lines at some characters. -/
def countBreaks (isBreak : Char → Bool) (text : List Char) : Nat :=
  (unifyEnds '\n' '\r' text).countP isBreak

variable (carriage : isBreak '\r' = true) (feed : isBreak '\n' = true)

include carriage

theorem countBreaks_of_plain {text : List Char} (plain : ∀ c ∈ text, isBreak c = false) :
    countBreaks isBreak text = 0 := by
  have absent : '\r' ∉ text := by
    intro member
    rw [plain '\r' member] at carriage
    cases carriage
  rw [countBreaks, unifyEnds_of_not_mem absent, List.countP_eq_zero]
  intro c member
  simp [plain c member]

include feed

/-- What holds no break and is not empty keeps the breaks on its two sides apart. -/
theorem countBreaks_append_append (before : List Char) {between : List Char}
    (nonempty : between ≠ []) (plain : ∀ c ∈ between, isBreak c = false) (behind : List Char) :
    countBreaks isBreak (before ++ (between ++ behind)) =
      countBreaks isBreak before + countBreaks isBreak behind := by
  have noReturn : between.getLast? ≠ some '\r' := by
    intro last
    rw [plain '\r' (List.mem_of_getLast? last)] at carriage
    cases carriage
  have noFeed : (between ++ behind).head? ≠ some '\n' := by
    rw [List.head?_append_of_ne_nil _ nonempty]
    intro first
    rw [plain '\n' (List.mem_of_head? first)] at feed
    cases feed
  have none : (unifyEnds '\n' '\r' between).countP isBreak = 0 :=
    countBreaks_of_plain carriage plain
  rw [countBreaks, unifyEnds_append fun _ => noFeed,
    unifyEnds_append fun last => absurd last noReturn, List.countP_append, List.countP_append, none, Nat.zero_add]
  rfl

/-- A text that does not end in a break has one line more than breaks. -/
theorem length_linesFrom {line text : List Char} (nonempty : text = [] → line ≠ [])
    (last : ∀ c, text.getLast? = some c → isBreak c = false) :
    (linesFrom isBreak line text).length = countBreaks isBreak text + 1 := by
  fun_induction linesFrom isBreak line text with
  | case1 line empty => exact absurd (List.isEmpty_iff.mp empty) (nonempty rfl)
  | case2 line more => rfl
  | case3 line text ih =>
    have more : text ≠ [] := ne_nil_of_isBreak feed (forall_getLast?_of_cons last)
    have later := ih (fun empty => absurd empty more)
      (forall_getLast?_of_cons (forall_getLast?_of_cons last))
    rw [List.length_cons, later, countBreaks, countBreaks, unifyEnds_carriage_of_feed rfl,
      unifyEnds_cons_of_ne (by decide), List.countP_cons_of_pos feed]
  | case4 line c text apart ends ih =>
    have more := ne_nil_of_isBreak ends last
    have later := ih (fun empty => absurd empty more) (forall_getLast?_of_cons last)
    rw [List.length_cons, later, countBreaks, countBreaks]
    by_cases isReturn : c = '\r'
    · subst isReturn
      have noFeed : text.head? ≠ some '\n' := by
        intro head
        obtain ⟨behind, rfl⟩ := List.head?_eq_some_iff.mp head
        exact apart behind rfl rfl
      rw [unifyEnds_carriage noFeed, List.countP_cons_of_pos feed]
    · rw [unifyEnds_cons_of_ne isReturn, List.countP_cons_of_pos ends]
  | case5 line c text apart goes ih =>
    have isOther : c ≠ '\r' := by
      rintro rfl
      exact goes carriage
    rw [ih (fun _ => List.cons_ne_nil _ _) (forall_getLast?_of_cons last), countBreaks, countBreaks,
      unifyEnds_cons_of_ne isOther, List.countP_cons_of_neg goes]

end Breaks

theorem length_displayLines {text : String} {c : Char} (last : text.toList.getLast? = some c)
    (plain : isDisplayBreak c = false) :
    (displayLines text).length = countBreaks isDisplayBreak text.toList + 1 := by
  have nonempty : text.toList = [] → ([] : List Char) ≠ [] := by
    intro empty
    rw [empty] at last
    cases last
  have noBreak : ∀ d, text.toList.getLast? = some d → isDisplayBreak d = false := by
    intro d final
    obtain rfl : c = d := Option.some.inj (last.symm.trans final)
    exact plain
  rw [displayLines, List.length_map, lines, length_linesFrom rfl rfl nonempty noBreak]

/-! ### Lines of files -/

theorem isFileBreak_eq_false_of_unbroken {piece : List Char} (unbroken : Unbroken '\n' '\r' piece) :
    ∀ c ∈ piece, isFileBreak c = false := by
  intro c member
  have notFeed : c ≠ '\n' := fun same => unbroken.1 (same ▸ member)
  have notCarriage : c ≠ '\r' := fun same => unbroken.2 (same ▸ member)
  simp [isFileBreak, notFeed, notCarriage]

/-- What stands before the first line end is the first line. -/
theorem lines_append_spell {piece : List Char} (unbroken : Unbroken '\n' '\r' piece)
    {terminator : Terminator} {text : List Char} (fits : terminator.Fits '\n' text) :
    lines isFileBreak (piece ++ (terminator.spell '\n' '\r' ++ text)) =
      piece :: lines isFileBreak text := by
  have plain := isFileBreak_eq_false_of_unbroken unbroken
  have stop : linesFrom isFileBreak piece.reverse (terminator.spell '\n' '\r' ++ text) =
      piece :: linesFrom isFileBreak [] text := by
    cases terminator with
    | feed => simp [Terminator.spell, linesFrom, isFileBreak]
    | carriage =>
      have apart : ∀ behind, text ≠ '\n' :: behind := by
        rintro behind rfl
        exact fits rfl rfl
      simp [Terminator.spell, linesFrom, isFileBreak, apart]
    | carriageFeed => simp [Terminator.spell, linesFrom]
  rw [lines, linesFrom_append rfl plain, List.append_nil, stop, lines]

/-- The pieces of a text are its lines in a file, and an empty one behind a last terminator. -/
theorem pieces_eq_lines (text : List Char) :
    pieces '\n' '\r' text =
      lines isFileBreak text ++
        if (pieces '\n' '\r' text).getLast? = some [] then [[]] else [] := by
  induction text using pieces_induction '\n' '\r' with
  | piece piece unbroken =>
    rw [pieces_of_unbroken unbroken]
    by_cases empty : piece = []
    · rw [empty]
      rfl
    · rw [lines_of_plain rfl empty (isFileBreak_eq_false_of_unbroken unbroken), if_neg (by simpa)]
      rfl
  | append piece terminator text unbroken fits ih =>
    have distinct : '\n' ≠ '\r' := by decide
    have nonempty : pieces '\n' '\r' text ≠ [] := List.splitOn_ne_nil _ _
    rw [pieces_append distinct unbroken fits, lines_append_spell unbroken fits,
      List.getLast?_cons_of_ne_nil nonempty, List.cons_append, ← ih]

end EntityDiagram.Text
