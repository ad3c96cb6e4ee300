import EntityDiagram.Text.Utf8
import Mathlib.Algebra.Group.Nat.Defs
import Mathlib.Tactic.SplitIfs

/-!
What UTF-8 bytes stand for, said without a reader: well-formed parts are the encodings of
characters, and an ill-formed part is a beginning of an encoding that goes on as no encoding does,
as long as possible, or else a single byte. Bytes are cut into such parts in one way only, and the
reader of bytes finds that way. So it reads encoded text back, and an ASCII character is read
exactly where its byte stands.
-/

namespace EntityDiagram.Text.Utf8

open String (utf8EncodeChar utf8EncodeChar_ne_nil)

/-! ### Parts of bytes -/

/-- Whether bytes are a beginning of a character's encoding. -/
def Begins (part : List UInt8) : Prop := ∃ c, part <+: utf8EncodeChar c

/-- Whether a part in front of further bytes is one maximal ill-formed part: no character is encoded
    there, and the part is the longest beginning of an encoding there, or one byte without any. -/
structure IllFormed (part behind : List UInt8) : Prop where
  ne_nil : part ≠ []
  noCharacter : ∀ c, ¬ utf8EncodeChar c <+: part ++ behind
  begins_or_single : Begins part ∨ part.length = 1
  maximal : ∀ longer, longer <+: part ++ behind → Begins longer → longer.length ≤ part.length

/-- Bytes stand for a text: they are cut into encodings of characters and maximal ill-formed parts,
    and every such part stands for one replacement character. -/
inductive Reads : List UInt8 → List Char → Prop
  | nil : Reads [] []
  | character {bytes : List UInt8} {text : List Char} (c : Char) :
      Reads bytes text → Reads (utf8EncodeChar c ++ bytes) (c :: text)
  | illFormed {part bytes : List UInt8} {text : List Char} :
      IllFormed part bytes → Reads bytes text → Reads (part ++ bytes) (replacement :: text)

/-- No encoding is a beginning of another one. -/
theorem utf8EncodeChar_append_inj {c d : Char} {bytes others : List UInt8}
    (same : utf8EncodeChar c ++ bytes = utf8EncodeChar d ++ others) : c = d ∧ bytes = others := by
  have first := ByteArray.utf8DecodeChar?_utf8EncodeChar_append (b := bytes.toByteArray) (c := c)
  have second := ByteArray.utf8DecodeChar?_utf8EncodeChar_append (b := others.toByteArray) (c := d)
  rw [← List.toByteArray_append] at first second
  rw [same, second] at first
  obtain rfl : d = c := Option.some.inj first
  exact ⟨rfl, List.append_cancel_left same⟩

theorem Begins.of_append {part more : List UInt8} (begins : Begins (part ++ more)) :
    Begins part := by
  obtain ⟨c, whole⟩ := begins
  exact ⟨c, (List.prefix_append part more).trans whole⟩

/-- A part without a whole encoding is ill-formed if no encoding goes on with the next byte. -/
theorem IllFormed.of_stop {part behind : List UInt8} (nonempty : part ≠ [])
    (beginsOrSingle : Begins part ∨ part.length = 1)
    (unfinished : ∀ c, ¬ utf8EncodeChar c <+: part)
    (stop : ∀ b, behind.head? = some b → ¬ Begins (part ++ [b])) : IllFormed part behind := by
  have short : ∀ longer, longer <+: part ++ behind → Begins longer → longer <+: part := by
    intro longer within begins
    rcases List.prefix_or_prefix_of_prefix within (List.prefix_append part behind) with
      inside | ⟨more, rfl⟩
    · exact inside
    · cases more with
      | nil => simp
      | cons b more =>
        obtain ⟨rest, rfl⟩ := (List.prefix_append_right_inj part).mp within
        rw [List.append_cons] at begins
        exact absurd begins.of_append (stop b rfl)
  refine ⟨nonempty, ?_, beginsOrSingle, ?_⟩
  · intro c within
    exact unfinished c (short _ within ⟨c, List.prefix_rfl⟩)
  · intro longer within begins
    exact (short longer within begins).length_le

/-- A byte that begins no encoding is ill-formed on its own. -/
theorem IllFormed.of_not_begins {b : UInt8} (never : ¬ Begins [b]) (behind : List UInt8) :
    IllFormed [b] behind := by
  apply IllFormed.of_stop (List.cons_ne_nil b []) (.inr rfl)
  · intro c within
    rcases List.prefix_cons_iff.mp within with empty | ⟨rest, whole, -⟩
    · exact utf8EncodeChar_ne_nil empty
    · exact never ⟨c, rest, whole.symm⟩
  · intro next first further
    exact never further.of_append

theorem IllFormed.length_le {part other behind otherBehind : List UInt8}
    (first : IllFormed part behind) (second : IllFormed other otherBehind)
    (same : part ++ behind = other ++ otherBehind) : part.length ≤ other.length := by
  rcases first.begins_or_single with begins | single
  · exact second.maximal part (same ▸ List.prefix_append part behind) begins
  · rw [single]
    exact List.length_pos_iff.mpr second.ne_nil

/-- At one place there is only one maximal ill-formed part. -/
theorem IllFormed.unique {part other behind otherBehind : List UInt8}
    (first : IllFormed part behind) (second : IllFormed other otherBehind)
    (same : part ++ behind = other ++ otherBehind) : part = other ∧ behind = otherBehind := by
  have length : part.length = other.length :=
    Nat.le_antisymm (first.length_le second same) (second.length_le first same.symm)
  exact List.append_inj same length

/-- Bytes stand for one text only. -/
theorem Reads.unique {bytes : List UInt8} {text other : List Char} (reads : Reads bytes text)
    (readsOther : Reads bytes other) : text = other := by
  -- Both ways of cutting have the same first part: an encoding is none of an ill-formed part.
  induction reads generalizing other with
  | nil =>
    generalize empty : ([] : List UInt8) = bytes at readsOther
    cases readsOther with
    | nil => rfl
    | character c => simp [utf8EncodeChar_ne_nil] at empty
    | illFormed ill => simp [ill.ne_nil] at empty
  | character c reads ih =>
    generalize same : utf8EncodeChar c ++ _ = bytes at readsOther
    cases readsOther with
    | nil => simp [utf8EncodeChar_ne_nil] at same
    | character d readsOther =>
      obtain ⟨rfl, rfl⟩ := utf8EncodeChar_append_inj same
      rw [ih readsOther]
    | illFormed ill =>
      exact absurd (same ▸ List.prefix_append _ _) (ill.noCharacter c)
  | @illFormed part behind _ ill reads ih =>
    generalize same : part ++ behind = bytes at readsOther
    cases readsOther with
    | nil => simp [ill.ne_nil] at same
    | character d =>
      exact absurd (same ▸ List.prefix_append _ _) (ill.noCharacter d)
    | illFormed otherIll readsOther =>
      obtain ⟨rfl, rfl⟩ := ill.unique otherIll same
      rw [ih readsOther]

/-! ### The bytes of one character -/

/-- The continuation bytes that carry the last `count` six-bit groups of a code point. -/
def continuations : Nat → Nat → List UInt8
  | 0, _ => []
  | count + 1, point => .ofNat (point / 64 ^ count % 64 + 0x80) :: continuations count point

/-- What a first byte adds to the highest bits when so many continuation bytes follow. -/
def marker : Nat → Nat
  | 1 => 0xC0
  | 2 => 0xE0
  | 3 => 0xF0
  | _ => 0

/-- Whether a code point beyond ASCII has so many continuation bytes. -/
def Needs : Nat → Nat → Prop
  | 1, point => 0x80 ≤ point ∧ point < 0x800
  | 2, point => 0x800 ≤ point ∧ point < 0x10000
  | 3, point => 0x10000 ≤ point ∧ point < 0x110000
  | _, _ => False

theorem toNat_ofNat_of_isValidChar {point : Nat} (valid : point.isValidChar) :
    (Char.ofNat point).toNat = point := by
  rw [Char.ofNat, dif_pos valid]
  rfl

theorem utf8EncodeChar_of_lt {c : Char} (ascii : c.toNat < 0x80) :
    utf8EncodeChar c = [.ofNat c.toNat] :=
  if_pos (Nat.le_of_lt_succ ascii)

/-- An ASCII byte encodes the character with its code. -/
theorem utf8EncodeChar_ofNat_toNat {b : UInt8} (ascii : b.toNat < 0x80) :
    utf8EncodeChar (Char.ofNat b.toNat) = [b] := by
  have code : (Char.ofNat b.toNat).toNat = b.toNat :=
    toNat_ofNat_of_isValidChar (.inl (by omega))
  rw [utf8EncodeChar_of_lt (by rwa [code]), code, UInt8.ofNat_toNat]

/-- Beyond ASCII, a first byte carries the highest bits and continuation bytes carry the others. -/
theorem utf8EncodeChar_of_needs {c : Char} {count : Nat} (needs : Needs count c.toNat) :
    utf8EncodeChar c =
      .ofNat (c.toNat / 64 ^ count + marker count) :: continuations count c.toNat := by
  have point : c.val.toNat = c.toNat := rfl
  simp only [utf8EncodeChar, point]
  rcases count with _ | _ | _ | _ | count <;> simp only [Needs] at needs
  · have lead : c.toNat / 64 % 32 = c.toNat / 64 ^ 1 := by omega
    rw [if_neg (by omega), if_pos (by omega), lead]
    simp [continuations, marker]
  · have lead : c.toNat / 4096 % 16 = c.toNat / 64 ^ 2 := by omega
    rw [if_neg (by omega), if_neg (by omega), if_pos (by omega), lead]
    simp [continuations, marker]
  · have lead : c.toNat / 262144 % 8 = c.toNat / 64 ^ 3 := by omega
    rw [if_neg (by omega), if_neg (by omega), if_neg (by omega), lead]
    simp [continuations, marker]

theorem lt_or_needs (c : Char) : c.toNat < 0x80 ∨ ∃ count, Needs count c.toNat := by
  have valid : c.toNat.isValidChar := c.valid
  rw [Nat.isValidChar] at valid
  by_cases ascii : c.toNat < 0x80
  · exact .inl ascii
  by_cases two : c.toNat < 0x800
  · exact .inr ⟨1, by simp only [Needs]; omega⟩
  by_cases three : c.toNat < 0x10000
  · exact .inr ⟨2, by simp only [Needs]; omega⟩
  · exact .inr ⟨3, by simp only [Needs]; omega⟩

/-- A first byte tells how many continuation bytes follow. -/
theorem Needs.unique {count other point otherPoint : Nat} (needs : Needs count point)
    (otherNeeds : Needs other otherPoint)
    (same : point / 64 ^ count + marker count = otherPoint / 64 ^ other + marker other) :
    count = other := by
  rcases count with _ | _ | _ | _ | count <;> rcases other with _ | _ | _ | _ | other <;>
    simp only [Needs, marker] at needs otherNeeds same <;> omega

/-- The first byte of a character beyond ASCII. -/
theorem Needs.toNat_lead {count point : Nat} (needs : Needs count point) :
    (UInt8.ofNat (point / 64 ^ count + marker count)).toNat = point / 64 ^ count + marker count ∧
      0xC2 ≤ point / 64 ^ count + marker count ∧ point / 64 ^ count + marker count < 0xF5 := by
  rcases count with _ | _ | _ | _ | count <;> simp only [Needs, marker] at needs ⊢ <;>
    rw [UInt8.toNat_ofNat'] <;> omega

/-! ### What a first byte begins -/

/-- Whether the bits of a code point that have been read are those of a sequence that has begun, and
    the byte with its next bits lies in the range. -/
def Pending.Awaits (pending : Pending) (point : Nat) : Prop :=
  pending.bits * 64 + pending.low.toNat ≤ point / 64 ^ (pending.missing - 1) + 0x80 ∧
    point / 64 ^ (pending.missing - 1) + 0x80 ≤ pending.bits * 64 + pending.high.toNat

/-- Whether a sequence awaits what a first byte begins: it awaits the code points of the characters
    whose encodings begin with that byte, and no others. -/
structure Pending.IsLead (pending : Pending) (b : UInt8) : Prop where
  missing_pos : 1 ≤ pending.missing
  low_le_high : pending.low.toNat ≤ pending.high.toNat
  high_le : pending.high.toNat ≤ 0xBF
  awaits_iff : ∀ point, pending.Awaits point ↔
    point.isValidChar ∧ Needs pending.missing point ∧
      point / 64 ^ pending.missing + marker pending.missing = b.toNat

variable {b : UInt8}

theorem first_of_lt (ascii : b.toNat < 0x80) : first b = ([Char.ofNat b.toNat], .start) :=
  if_pos (UInt8.lt_iff_toNat_lt.mpr ascii)

theorem first_of_not_lead (notAscii : 0x80 ≤ b.toNat) (notLead : b.toNat < 0xC2 ∨ 0xF5 ≤ b.toNat) :
    first b = ([replacement], .start) := by
  simp only [first, UInt8.lt_iff_toNat_lt, ← UInt8.toNat_inj, UInt8.reduceToNat]
  split_ifs
  all_goals first | rfl | omega

/-- A first byte makes the reader await what it begins. -/
theorem first_of_lead (low : 0xC2 ≤ b.toNat) (high : b.toNat < 0xF5) :
    ∃ pending : Pending, pending.IsLead b ∧ first b = ([], .within pending) := by
  simp only [first, await, UInt8.lt_iff_toNat_lt, ← UInt8.toNat_inj, UInt8.reduceToNat]
  rw [if_neg (by omega), if_neg (by omega)]
  split_ifs
  -- The seven ranges of first bytes differ in the bounds that they set for the second byte.
  case neg => omega
  all_goals
    refine ⟨_, ⟨by simp, by simp, by simp, fun point => ?_⟩, rfl⟩
    simp only [Pending.Awaits, Nat.isValidChar, Needs, marker, UInt8.reduceToNat]
    omega

/-- A byte that begins an encoding is ASCII, or carries the highest bits of the character. -/
theorem lt_or_needs_of_prefix {c : Char} (begins : [b] <+: utf8EncodeChar c) :
    b.toNat < 0x80 ∨
      ∃ count, Needs count c.toNat ∧ c.toNat / 64 ^ count + marker count = b.toNat := by
  obtain ⟨rest, whole⟩ := begins
  rcases lt_or_needs c with ascii | ⟨count, needs⟩
  · left
    rw [utf8EncodeChar_of_lt ascii] at whole
    obtain ⟨rfl, -⟩ := List.cons.inj whole
    rw [UInt8.toNat_ofNat']
    omega
  · right
    rw [utf8EncodeChar_of_needs needs] at whole
    obtain ⟨rfl, -⟩ := List.cons.inj whole
    exact ⟨count, needs, needs.toNat_lead.1.symm⟩

theorem lt_or_lead_of_begins (begins : Begins [b]) :
    b.toNat < 0x80 ∨ 0xC2 ≤ b.toNat ∧ b.toNat < 0xF5 := by
  obtain ⟨c, begins⟩ := begins
  rcases lt_or_needs_of_prefix begins with ascii | ⟨count, needs, same⟩
  · exact .inl ascii
  · rw [← same]
    exact .inr needs.toNat_lead.2

/-! ### Sequences that have begun -/

theorem Pending.le_toNat_low (pending : Pending) : 0x80 ≤ pending.low.toNat :=
  UInt8.le_iff_toNat_le.mp pending.ascii_lt

/-- Some code point is awaited. -/
theorem Pending.exists_awaits {pending : Pending}
    (range : pending.low.toNat ≤ pending.high.toNat) : ∃ point, pending.Awaits point := by
  have low := pending.le_toNat_low
  refine ⟨(pending.bits * 64 + (pending.low.toNat - 0x80)) * 64 ^ (pending.missing - 1), ?_⟩
  rw [Awaits, Nat.mul_div_cancel _ (Nat.pow_pos (by decide))]
  omega

/-- What a part of bytes leaves pending: it begins the encodings of the characters that are awaited,
    and of no others. -/
structure Begun (part : List UInt8) (pending : Pending) : Prop where
  ne_nil : part ≠ []
  missing_pos : 1 ≤ pending.missing
  low_le_high : pending.low.toNat ≤ pending.high.toNat
  high_le : pending.high.toNat ≤ 0xBF
  isValidChar : ∀ point, pending.Awaits point → point.isValidChar
  awaits : ∀ c, part <+: utf8EncodeChar c → pending.Awaits c.toNat
  encodes : ∀ c, pending.Awaits c.toNat →
    utf8EncodeChar c = part ++ continuations pending.missing c.toNat

/-- A first byte begins what its sequence awaits. -/
theorem Pending.IsLead.begun {pending : Pending} (lead : pending.IsLead b) (low : 0xC2 ≤ b.toNat) :
    Begun [b] pending := by
  refine ⟨by simp, lead.missing_pos, lead.low_le_high, lead.high_le, ?_, ?_, ?_⟩
  · intro point awaited
    exact ((lead.awaits_iff point).mp awaited).1
  · intro c begins
    rcases lt_or_needs_of_prefix begins with ascii | ⟨count, needs, same⟩
    · omega
    · obtain ⟨point, awaited⟩ := Pending.exists_awaits lead.low_le_high
      obtain ⟨-, otherNeeds, otherSame⟩ := (lead.awaits_iff point).mp awaited
      obtain rfl := otherNeeds.unique needs (otherSame.trans same.symm)
      exact (lead.awaits_iff c.toNat).mpr ⟨c.valid, needs, same⟩
  · intro c awaited
    obtain ⟨-, needs, same⟩ := (lead.awaits_iff c.toNat).mp awaited
    rw [utf8EncodeChar_of_needs needs, same, UInt8.ofNat_toNat]
    rfl

/-- The byte with the next bits of a code point. -/
def Pending.next (pending : Pending) (point : Nat) : UInt8 :=
  .ofNat (point / 64 ^ (pending.missing - 1) % 64 + 0x80)

theorem ascii_lt_continuation : (0x80 : UInt8) ≤ 0x80 := UInt8.le_refl _

/-- What is pending when the next byte has been read and more are missing. -/
def Pending.after (pending : Pending) (b : UInt8) : Pending :=
  ⟨pending.bits * 64 + (b.toNat - 0x80), pending.missing - 1, 0x80, 0xBF, ascii_lt_continuation⟩

@[simp] theorem Pending.bits_after (pending : Pending) (b : UInt8) :
    (pending.after b).bits = pending.bits * 64 + (b.toNat - 0x80) := rfl

@[simp] theorem Pending.missing_after (pending : Pending) (b : UInt8) :
    (pending.after b).missing = pending.missing - 1 := rfl

@[simp] theorem Pending.low_after (pending : Pending) (b : UInt8) :
    (pending.after b).low = 0x80 := rfl

@[simp] theorem Pending.high_after (pending : Pending) (b : UInt8) :
    (pending.after b).high = 0xBF := rfl

theorem Pending.toNat_next (pending : Pending) (point : Nat) :
    (pending.next point).toNat = point / 64 ^ (pending.missing - 1) % 64 + 0x80 := by
  rw [next, UInt8.toNat_ofNat']
  omega

section

variable {part : List UInt8} {pending : Pending}

/-- The next byte of what is awaited lies in the range. -/
theorem Begun.next_mem (begun : Begun part pending) {point : Nat} (awaited : pending.Awaits point) :
    pending.low ≤ pending.next point ∧ pending.next point ≤ pending.high := by
  have low := pending.le_toNat_low
  have high := begun.high_le
  rw [Pending.Awaits] at awaited
  rw [UInt8.le_iff_toNat_le, UInt8.le_iff_toNat_le, Pending.toNat_next]
  omega

theorem Begun.encodes_next (begun : Begun part pending) {c : Char}
    (awaited : pending.Awaits c.toNat) :
    utf8EncodeChar c =
      part ++ pending.next c.toNat :: continuations (pending.missing - 1) c.toNat := by
  obtain ⟨more, missing⟩ := Nat.exists_eq_add_of_le' begun.missing_pos
  rw [begun.encodes c awaited, Pending.next, missing]
  rfl

/-- What has begun is a beginning of some encoding, and not the whole of it. -/
theorem Begun.exists_encodes (begun : Begun part pending) :
    ∃ c b more, utf8EncodeChar c = part ++ b :: more := by
  obtain ⟨point, awaited⟩ := Pending.exists_awaits begun.low_le_high
  rw [← toNat_ofNat_of_isValidChar (begun.isValidChar point awaited)] at awaited
  exact ⟨Char.ofNat point, _, _, begun.encodes_next awaited⟩

/-- What begins with a part and a further byte is awaited, and that byte is the next one. -/
theorem Begun.awaits_next (begun : Begun part pending) {c : Char}
    (further : part ++ [b] <+: utf8EncodeChar c) :
    pending.Awaits c.toNat ∧ pending.next c.toNat = b := by
  have awaited := begun.awaits c ((List.prefix_append part [b]).trans further)
  rw [begun.encodes_next awaited, List.prefix_append_right_inj, List.cons_prefix_cons] at further
  exact ⟨awaited, further.1.symm⟩

theorem Begun.awaits_after_iff (begun : Begun part pending) (low : pending.low ≤ b)
    (high : b ≤ pending.high) (more : 1 < pending.missing) (point : Nat) :
    (pending.after b).Awaits point ↔ pending.Awaits point ∧ pending.next point = b := by
  obtain ⟨later, missing⟩ : ∃ later, pending.missing = later + 2 :=
    Nat.exists_eq_add_of_le' more
  have ascii := pending.le_toNat_low
  -- In base 64, the bytes are the digits of the code point and the bits are its leading digits.
  have quotient : point / 64 ^ (later + 1) = point / 64 ^ later / 64 := by
    rw [Nat.pow_succ, Nat.div_div_eq_div_mul]
  have bound := begun.high_le
  rw [UInt8.le_iff_toNat_le] at low high
  rw [← UInt8.toNat_inj, Pending.toNat_next]
  simp only [Pending.Awaits, Pending.bits_after, Pending.missing_after, Pending.low_after,
    Pending.high_after, UInt8.reduceToNat, missing, Nat.add_one_sub_one, quotient]
  omega

/-- A further byte in the range continues a sequence that misses more than one byte. -/
theorem Begun.step (begun : Begun part pending) (low : pending.low ≤ b) (high : b ≤ pending.high)
    (more : 1 < pending.missing) : Begun (part ++ [b]) (pending.after b) := by
  have awaits := begun.awaits_after_iff low high more
  refine ⟨by simp, Nat.le_sub_one_of_lt more, by simp, by simp, ?_, ?_, ?_⟩
  · intro point awaited
    exact begun.isValidChar point ((awaits point).mp awaited).1
  · intro c further
    exact (awaits c.toNat).mpr (begun.awaits_next further)
  · intro c awaited
    obtain ⟨before, next⟩ := (awaits c.toNat).mp awaited
    rw [begun.encodes_next before, next, List.append_assoc]
    rfl

/-- A last byte in the range completes a character. -/
theorem Begun.complete (begun : Begun part pending) (low : pending.low ≤ b)
    (high : b ≤ pending.high) (last : pending.missing ≤ 1) :
    utf8EncodeChar (Char.ofNat (pending.bits * 64 + (b.toNat - 0x80))) = part ++ [b] := by
  have missing : pending.missing = 1 := Nat.le_antisymm last begun.missing_pos
  have ascii := pending.le_toNat_low
  have bound := begun.high_le
  rw [UInt8.le_iff_toNat_le] at low high
  generalize whole : pending.bits * 64 + (b.toNat - 0x80) = point
  have awaited : pending.Awaits point := by
    rw [Pending.Awaits, missing]
    omega
  have next : pending.next point = b := by
    rw [← UInt8.toNat_inj, Pending.toNat_next, missing]
    omega
  have code := toNat_ofNat_of_isValidChar (begun.isValidChar point awaited)
  rw [← code] at awaited
  rw [begun.encodes_next awaited, code, next, missing]
  rfl

/-- A sequence that cannot go on with the next byte is ill-formed. -/
theorem Begun.illFormed (begun : Begun part pending) {behind : List UInt8}
    (stop : ∀ b, behind.head? = some b → ¬ (pending.low ≤ b ∧ b ≤ pending.high)) :
    IllFormed part behind := by
  obtain ⟨c, next, more, whole⟩ := begun.exists_encodes
  apply IllFormed.of_stop begun.ne_nil (.inl ⟨c, whole ▸ List.prefix_append part _⟩)
  · rintro d ⟨rest, rfl⟩
    have same : utf8EncodeChar c ++ [] = utf8EncodeChar d ++ (rest ++ next :: more) := by
      rw [whole, List.append_nil, List.append_assoc]
    simpa using (utf8EncodeChar_append_inj same).2
  · rintro b first ⟨c, further⟩
    obtain ⟨awaited, rfl⟩ := begun.awaits_next further
    exact stop _ first (begun.next_mem awaited)

/-! ### The reader -/

theorem step_within_of_more (low : pending.low ≤ b) (high : b ≤ pending.high)
    (more : 1 < pending.missing) : step (.within pending) b = ([], .within (pending.after b)) := by
  rw [step, if_pos ⟨low, high⟩, if_neg (Nat.not_le_of_lt more)]
  rfl

theorem step_within_of_last (low : pending.low ≤ b) (high : b ≤ pending.high)
    (last : pending.missing ≤ 1) :
    step (.within pending) b =
      ([Char.ofNat (pending.bits * 64 + (b.toNat - 0x80))], .start) := by
  rw [step, if_pos ⟨low, high⟩, if_pos last]

theorem decodeFrom_within_of_stop (stop : ¬ (pending.low ≤ b ∧ b ≤ pending.high))
    (bytes : List UInt8) :
    decodeFrom (.within pending) [] (b :: bytes) = replacement :: decode (b :: bytes) := by
  have stepped : step (.within pending) b = (replacement :: (first b).1, (first b).2) := by
    rw [step, if_neg stop]
  rw [decode, decodeFrom_cons, decodeFrom_cons, stepped]
  rfl

/-- What has begun is read on as it should be if everything behind it is. -/
theorem Begun.reads (begun : Begun part pending) {bytes : List UInt8}
    (later : ∀ behind, behind.length ≤ bytes.length → Reads behind (decode behind)) :
    Reads (part ++ bytes) (decodeFrom (.within pending) [] bytes) := by
  induction bytes generalizing part pending with
  | nil => exact .illFormed (begun.illFormed (by simp)) .nil
  | cons b bytes ih =>
    have shorter : ∀ behind, behind.length ≤ bytes.length → Reads behind (decode behind) :=
      fun behind bound => later behind (Nat.le_succ_of_le bound)
    by_cases range : pending.low ≤ b ∧ b ≤ pending.high
    · obtain ⟨low, high⟩ := range
      rw [List.append_cons, decodeFrom_cons]
      rcases Nat.lt_or_ge 1 pending.missing with more | last
      · rw [step_within_of_more low high more]
        exact ih (begun.step low high more) shorter
      · rw [step_within_of_last low high last, ← begun.complete low high last]
        exact .character _ (shorter bytes (Nat.le_refl _))
    · rw [decodeFrom_within_of_stop range]
      refine .illFormed (begun.illFormed ?_) (later _ (Nat.le_refl _))
      rintro c first
      obtain rfl : b = c := Option.some.inj first
      exact range

end

/-- The reader finds what bytes stand for. -/
theorem reads_decode (bytes : List UInt8) : Reads bytes (decode bytes) := by
  -- A part has up to four bytes, so what is left behind it is shorter, but no fixed tail.
  induction length : bytes.length using Nat.strongRecOn generalizing bytes with
  | ind size ih =>
    cases bytes with
    | nil => exact .nil
    | cons b bytes =>
      have later : ∀ behind, behind.length ≤ bytes.length → Reads behind (decode behind) :=
        fun behind bound => ih _ (by rw [← length]; exact Nat.lt_succ_of_le bound) behind rfl
      rw [decode, decodeFrom_cons]
      by_cases ascii : b.toNat < 0x80
      · have encoded := Reads.character (Char.ofNat b.toNat) (later bytes (Nat.le_refl _))
        rw [utf8EncodeChar_ofNat_toNat ascii] at encoded
        rw [step, first_of_lt ascii]
        exact encoded
      by_cases lead : 0xC2 ≤ b.toNat ∧ b.toNat < 0xF5
      · obtain ⟨pending, isLead, first⟩ := first_of_lead lead.1 lead.2
        rw [step, first]
        exact (isLead.begun lead.1).reads later
      · have never : ¬ Begins [b] := fun begins => (lt_or_lead_of_begins begins).elim ascii lead
        rw [step, first_of_not_lead (by omega) (by omega)]
        exact .illFormed (.of_not_begins never bytes) (later bytes (Nat.le_refl _))

/-- Bytes stand for the text that they are read as, and for no other one. -/
theorem reads_iff {bytes : List UInt8} {text : List Char} :
    Reads bytes text ↔ decode bytes = text :=
  ⟨fun reads => (reads_decode bytes).unique reads, fun same => same ▸ reads_decode bytes⟩

-- A sequence that is cut short, an overlong line feed, and a surrogate.
example : decode [0xE2, 0x82, 0x41, 0xC0, 0x8A, 0xED, 0xA0, 0x80] =
    [replacement, 'A', replacement, replacement, replacement, replacement, replacement] := by
  decide

/-- Encoded text is read back. -/
theorem decode_encode (text : List Char) : decode (encode text) = text := by
  rw [← reads_iff]
  induction text with
  | nil => exact .nil
  | cons c text ih =>
    rw [encode, List.flatMap_cons]
    exact .character c ih

/-! ### ASCII characters -/

/-- Behind an ASCII byte the reader starts afresh, wherever it stood before. -/
theorem decodeFrom_append_cons (ascii : b < 0x80) (state : State) (before behind : List UInt8) :
    decodeFrom state [] (before ++ b :: behind) =
      decodeFrom state [] before ++ Char.ofNat b.toNat :: decode behind := by
  induction before generalizing state with
  | nil =>
    rw [List.nil_append, decodeFrom_cons, step_of_lt ascii]
    simp [decodeFrom, decode]
  | cons c before ih =>
    rw [List.cons_append, decodeFrom_cons, decodeFrom_cons, ih, List.append_assoc]

theorem decode_append_cons (ascii : b < 0x80) (before behind : List UInt8) :
    decode (before ++ b :: behind) = decode before ++ Char.ofNat b.toNat :: decode behind :=
  decodeFrom_append_cons ascii .start before behind

/-- An ASCII character is read only at the front of bytes that begin with its code. -/
theorem Reads.exists_of_cons {bytes : List UInt8} {text : List Char} {c : Char}
    (reads : Reads bytes (c :: text)) (ascii : c.toNat < 0x80) :
    ∃ behind, bytes = .ofNat c.toNat :: behind ∧ Reads behind text := by
  cases reads with
  | character _ reads => exact ⟨_, by rw [utf8EncodeChar_of_lt ascii]; rfl, reads⟩
  | illFormed => exact absurd ascii (by decide)

/-- An ASCII character is read only where bytes hold its code. -/
theorem Reads.mem_of_mem {bytes : List UInt8} {text : List Char} {c : Char}
    (reads : Reads bytes text) (ascii : c.toNat < 0x80) (member : c ∈ text) :
    .ofNat c.toNat ∈ bytes := by
  induction reads with
  | nil => cases member
  | character d reads ih =>
    rw [List.mem_append]
    rcases List.mem_cons.mp member with rfl | later
    · exact .inl (by simp [utf8EncodeChar_of_lt ascii])
    · exact .inr (ih later)
  | illFormed ill reads ih =>
    rw [List.mem_append]
    rcases List.mem_cons.mp member with rfl | later
    · exact absurd ascii (by decide)
    · exact .inr (ih later)

end EntityDiagram.Text.Utf8
