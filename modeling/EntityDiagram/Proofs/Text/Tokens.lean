import EntityDiagram.Proofs.Text.WholeWords
import EntityDiagram.Text.Lines

/-!
Tokens: the maximal runs of characters that are no white space. Two texts with the same tokens
differ in the layout of their white space only. What stands in one token of the one text can be cut
out of the other text, too, and what is left of both texts is laid out alike again. Whether a text
is blank and which keywords it holds can be told from its tokens.
-/

namespace EntityDiagram.Text

theorem dropWhile_eq_self {p : Char → Bool} {text : List Char} (stop : text.takeWhile p = []) :
    text.dropWhile p = text := by
  have whole : text.takeWhile p ++ text.dropWhile p = text := List.takeWhile_append_dropWhile
  rwa [stop, List.nil_append] at whole

theorem takeWhile_dropWhile (p : Char → Bool) (text : List Char) :
    (text.dropWhile p).takeWhile p = [] :=
  takeWhile_eq_nil_of_head? (head?_any_dropWhile p text)

/-- Whether a character is no white space. -/
def isInk (c : Char) : Bool := !isSpace c

/-- The maximal runs of characters that are no white space. -/
def tokens (text : List Char) : List (List Char) := runs isInk text

/-- Two texts agree in all but the layout of their white space. -/
def SameTokens (first second : List Char) : Prop := tokens first = tokens second

instance (first second : List Char) : Decidable (SameTokens first second) :=
  inferInstanceAs (Decidable (tokens first = tokens second))

@[simp] theorem isInk_eq_false_iff {c : Char} : isInk c = false ↔ isSpace c = true := by
  simp [isInk]

@[simp] theorem isInk_eq_true_iff {c : Char} : isInk c = true ↔ isSpace c = false := by
  simp [isInk]

theorem isInk_of_isWordChar {c : Char} (word : isWordChar c = true) : isInk c = true :=
  isInk_eq_true_iff.mpr (isSpace_eq_false_of_isWordChar word)

@[simp] theorem tokens_nil : tokens [] = [] := runs_nil isInk

theorem tokens_cons_of_isSpace {c : Char} (space : isSpace c = true) (text : List Char) :
    tokens (c :: text) = tokens text :=
  runs_cons (isInk_eq_false_iff.mpr space) text

/-- White space before a text adds no token. -/
theorem tokens_append_left {blank : List Char} (space : ∀ c ∈ blank, isSpace c = true)
    (text : List Char) : tokens (blank ++ text) = tokens text := by
  induction blank with
  | nil => rfl
  | cons c blank ih =>
    rw [List.cons_append, tokens_cons_of_isSpace (space c (by simp)),
      ih fun d member => space d (by simp [member])]

/-- White space keeps the tokens of two texts apart. -/
theorem tokens_append_append {blank : List Char} (nonempty : blank ≠ [])
    (space : ∀ c ∈ blank, isSpace c = true) (before behind : List Char) :
    tokens (before ++ (blank ++ behind)) = tokens before ++ tokens behind := by
  cases blank with
  | nil => exact absurd rfl nonempty
  | cons c blank =>
    have more : ∀ d ∈ blank, isSpace d = true := fun d member => space d (by simp [member])
    have cut := runs_append_cons (isInk_eq_false_iff.mpr (space c (by simp))) before
      (blank ++ behind)
    rw [List.cons_append, tokens, cut]
    exact congrArg (tokens before ++ ·) (tokens_append_left more behind)

/-- White space behind a text adds no token. -/
theorem tokens_append_right {blank : List Char} (space : ∀ c ∈ blank, isSpace c = true)
    (text : List Char) : tokens (text ++ blank) = tokens text := by
  by_cases nonempty : blank = []
  · rw [nonempty, List.append_nil]
  · have apart := tokens_append_append nonempty space text []
    rwa [tokens_nil, List.append_nil, List.append_nil] at apart

/-- A text that begins with a token is that token and what its further tokens stand in. -/
theorem tokens_eq_cons {text : List Char} (nonempty : text.takeWhile isInk ≠ []) :
    tokens text = text.takeWhile isInk :: tokens (text.dropWhile isInk) := by
  have ink : ∀ c ∈ text.takeWhile isInk, isInk c = true :=
    fun c member => List.all_eq_true.mp List.all_takeWhile c member
  have cut := runs_append nonempty ink (head?_any_dropWhile isInk text)
  rwa [List.takeWhile_append_dropWhile] at cut

theorem takeWhile_isInk_ne_nil {text behind : List Char} {c : Char}
    (rest : skipSpace text = c :: behind) : (c :: behind).takeWhile isInk ≠ [] := by
  have stopped := List.head?_dropWhile_not isSpace text
  rw [← skipSpace, rest] at stopped
  have first : isSpace c = false := by simpa using stopped
  simp [isInk, first]

theorem tokens_skipSpace (text : List Char) : tokens (skipSpace text) = tokens text := by
  have whole : text.takeWhile isSpace ++ skipSpace text = text :=
    List.takeWhile_append_dropWhile
  have space : ∀ c ∈ text.takeWhile isSpace, isSpace c = true :=
    fun c member => List.all_eq_true.mp List.all_takeWhile c member
  conv => rhs; rw [← whole, tokens_append_left space]

/-- A text has no tokens exactly if it is blank. -/
theorem tokens_eq_nil_iff {text : List Char} : tokens text = [] ↔ isBlank text = true := by
  rw [isBlank_iff_skipSpace_eq_nil, ← tokens_skipSpace]
  constructor
  · intro none
    cases rest : skipSpace text with
    | nil => rfl
    | cons c behind =>
      rw [rest, tokens_eq_cons (takeWhile_isInk_ne_nil rest)] at none
      cases none
  · intro empty
    rw [empty, tokens_nil]

/-- The words of a line lie within its tokens. -/
theorem hasWord_eq_any_tokens {word : List Char} (keyword : IsWord word) (text : List Char) :
    hasWord word text = (tokens text).any (hasWord word) := by
  induction text using runs_induction isInk with
  | run text ink =>
    by_cases empty : text = []
    · rw [empty]
      rfl
    · have single : tokens text = [text] := runs_eq_singleton empty ink
      simp [single]
  | cut before c behind space first second =>
    have noWord := isWordChar_eq_false_of_isSpace (isInk_eq_false_iff.mp space)
    have cut : tokens (before ++ c :: behind) = tokens before ++ tokens behind :=
      runs_append_cons space before behind
    rw [hasWord_append_cons keyword noWord, cut, List.any_append, first, second]

/-- The first token of a text can be cut out of it. -/
theorem exists_of_tokens_eq_cons {text token : List Char} {later : List (List Char)}
    (found : tokens text = token :: later) :
    ∃ blank behind, text = blank ++ (token ++ behind) ∧ (∀ c ∈ blank, isSpace c = true) ∧
      behind.takeWhile isInk = [] ∧ tokens behind = later := by
  obtain ⟨blank, space, whole⟩ := exists_space_append_skipSpace text
  cases rest : skipSpace text with
  | nil =>
    rw [← tokens_skipSpace, rest] at found
    cases found
  | cons c behind =>
    rw [← tokens_skipSpace, rest, tokens_eq_cons (takeWhile_isInk_ne_nil rest)] at found
    obtain ⟨rfl, tokensBehind⟩ := List.cons.inj found
    refine ⟨blank, (c :: behind).dropWhile isInk, ?_, space, ?_, tokensBehind⟩
    · rw [List.takeWhile_append_dropWhile, ← rest]
      exact whole
    · exact takeWhile_dropWhile isInk (c :: behind)

/-! ### Texts that are laid out alike -/

/-- Two texts behind equal tokens: they go on with the same characters up to the next white space,
    and agree from there on in all but the layout of their white space. -/
structure Aligned (first second : List Char) : Prop where
  here : first.takeWhile isInk = second.takeWhile isInk
  behind : SameTokens (first.dropWhile isInk) (second.dropWhile isInk)

theorem Aligned.sameTokens {first second : List Char} (aligned : Aligned first second) :
    SameTokens first second := by
  by_cases empty : first.takeWhile isInk = []
  · have same := aligned.behind
    have otherEmpty := aligned.here.symm.trans empty
    rwa [dropWhile_eq_self empty, dropWhile_eq_self otherEmpty] at same
  · have otherNonempty := empty
    rw [aligned.here] at otherNonempty
    rw [SameTokens, tokens_eq_cons empty, tokens_eq_cons otherNonempty, aligned.here,
      aligned.behind]

/-- A part of a token can be cut out of every text with the same tokens. -/
theorem SameTokens.exists_cut {blank piece behind other : List Char}
    (space : ∀ c ∈ blank, isSpace c = true) (nonempty : piece ≠ [])
    (ink : ∀ c ∈ piece, isInk c = true) (same : SameTokens (blank ++ (piece ++ behind)) other) :
    ∃ otherBlank otherBehind, other = otherBlank ++ (piece ++ otherBehind) ∧
      (∀ c ∈ otherBlank, isSpace c = true) ∧ Aligned behind otherBehind := by
  have token : (piece ++ behind).takeWhile isInk = piece ++ behind.takeWhile isInk :=
    List.takeWhile_append_of_pos ink
  have rest : (piece ++ behind).dropWhile isInk = behind.dropWhile isInk :=
    List.dropWhile_append_of_pos ink
  have known : tokens other =
      (piece ++ behind.takeWhile isInk) :: tokens (behind.dropWhile isInk) := by
    rw [← same, tokens_append_left space, tokens_eq_cons (by simp [token, nonempty]), token, rest]
  obtain ⟨otherBlank, gap, rfl, otherSpace, stop, later⟩ := exists_of_tokens_eq_cons known
  have inkHere : ∀ c ∈ behind.takeWhile isInk, isInk c = true :=
    fun c member => List.all_eq_true.mp List.all_takeWhile c member
  refine ⟨otherBlank, behind.takeWhile isInk ++ gap, by rw [List.append_assoc], otherSpace, ?_, ?_⟩
  · rw [List.takeWhile_append_of_pos inkHere, stop, List.append_nil]
  · rw [List.dropWhile_append_of_pos inkHere, dropWhile_eq_self stop, SameTokens, later]

/-- What is laid out alike has white space in the same places. -/
theorem Aligned.exists_cut {blank piece behind other : List Char}
    (space : ∀ c ∈ blank, isSpace c = true) (nonempty : piece ≠ [])
    (ink : ∀ c ∈ piece, isInk c = true) (aligned : Aligned (blank ++ (piece ++ behind)) other) :
    ∃ otherBlank otherBehind, other = otherBlank ++ (piece ++ otherBehind) ∧
      (∀ c ∈ otherBlank, isSpace c = true) ∧ (blank ≠ [] → otherBlank ≠ []) ∧
      Aligned behind otherBehind := by
  obtain ⟨otherBlank, otherBehind, rfl, otherSpace, alignedBehind⟩ :=
    aligned.sameTokens.exists_cut space nonempty ink
  refine ⟨otherBlank, otherBehind, rfl, otherSpace, ?_, alignedBehind⟩
  rintro gap rfl
  have here := aligned.here
  rw [List.nil_append, List.takeWhile_append_of_pos ink] at here
  cases blank with
  | nil => exact gap rfl
  | cons c blank => simp [isInk, space c (by simp), nonempty] at here

end EntityDiagram.Text
