/-!
UTF-8, read one byte at a time. Ill-formed input is never refused: every maximal part of a sequence
that cannot be completed is read as one replacement character, and the byte that cut it short is
read afresh. An ASCII byte therefore always stands for itself, whatever comes before it.
-/

namespace EntityDiagram.Text.Utf8

/-- What stands for an ill-formed part: the replacement character. -/
def replacement : Char := '\uFFFD'

/-- A sequence that has begun and is not complete: the bits read so far, the number of bytes still
    to come, and the range in which the next one has to lie. No ASCII byte lies in it. -/
structure Pending where
  bits : Nat
  missing : Nat
  low : UInt8
  high : UInt8
  ascii_lt : 0x80 ≤ low

/-- Where the reader stands between two bytes. -/
inductive State where
  | start
  | within (pending : Pending)

/-- No character yet: a sequence waits for its next byte. -/
def await (bits missing : Nat) (low high : UInt8) (ascii_lt : 0x80 ≤ low := by decide) :
    List Char × State :=
  ([], .within ⟨bits, missing, low, high, ascii_lt⟩)

/-- Reading a byte that begins a character. The bounds on the second byte keep out overlong forms,
    surrogates and code points behind the last one. -/
def first (b : UInt8) : List Char × State :=
  if b < 0x80 then ([Char.ofNat b.toNat], .start)
  else if b < 0xC2 then ([replacement], .start)
  else if b < 0xE0 then await (b.toNat - 0xC0) 1 0x80 0xBF
  else if b = 0xE0 then await 0x0 2 0xA0 0xBF
  else if b = 0xED then await 0xD 2 0x80 0x9F
  else if b < 0xF0 then await (b.toNat - 0xE0) 2 0x80 0xBF
  else if b = 0xF0 then await 0 3 0x90 0xBF
  else if b < 0xF4 then await (b.toNat - 0xF0) 3 0x80 0xBF
  else if b = 0xF4 then await 4 3 0x80 0x8F
  else ([replacement], .start)

/-- Reading one byte: the characters that it completes, and where the reader stands behind it. -/
def step : State → UInt8 → List Char × State
  | .start, b => first b
  | .within pending, b =>
    if pending.low ≤ b ∧ b ≤ pending.high then
      let bits := pending.bits * 64 + (b.toNat - 0x80)
      if pending.missing ≤ 1 then ([Char.ofNat bits], .start)
      else await bits (pending.missing - 1) 0x80 0xBF
    else
      let (chars, state) := first b
      (replacement :: chars, state)

/-- What the end of the input adds: a sequence that has begun is ill-formed. -/
def finish : State → List Char
  | .start => []
  | .within _ => [replacement]

/-- The characters of bytes, read on from a state. The characters that are already known are given
    in reverse. -/
def decodeFrom (state : State) (known : List Char) : List UInt8 → List Char
  | [] => known.reverse ++ finish state
  | b :: bytes =>
    let (chars, next) := step state b
    decodeFrom next (chars.reverse ++ known) bytes

/-- The characters of bytes. -/
def decode (bytes : List UInt8) : List Char := decodeFrom .start [] bytes

/-- The bytes of characters. -/
def encode (text : List Char) : List UInt8 := text.flatMap String.utf8EncodeChar

/-- What is already known comes first and has no influence on the rest. -/
theorem decodeFrom_eq_append (state : State) (known : List Char) (bytes : List UInt8) :
    decodeFrom state known bytes = known.reverse ++ decodeFrom state [] bytes := by
  induction bytes generalizing state known with
  | nil => simp [decodeFrom]
  | cons b bytes ih =>
    simp only [decodeFrom]
    rw [ih, ih _ ((step state b).1.reverse ++ [])]
    simp

theorem decodeFrom_cons (state : State) (b : UInt8) (bytes : List UInt8) :
    decodeFrom state [] (b :: bytes) =
      (step state b).1 ++ decodeFrom (step state b).2 [] bytes := by
  simp only [decodeFrom, List.append_nil]
  rw [decodeFrom_eq_append, List.reverse_reverse]

/-- An ASCII byte cuts short what has begun and stands for itself. -/
theorem step_of_lt {b : UInt8} (h : b < 0x80) (state : State) :
    step state b = (finish state ++ [Char.ofNat b.toNat], .start) := by
  cases state with
  | start => simp [step, first, finish, h]
  | within pending =>
    have outside : ¬ (pending.low ≤ b ∧ b ≤ pending.high) := by
      intro inside
      have := UInt8.le_iff_toNat_le.1 inside.1
      have := UInt8.lt_iff_toNat_lt.1 h
      have := UInt8.le_iff_toNat_le.1 pending.ascii_lt
      omega
    simp [step, first, finish, h, outside]

end EntityDiagram.Text.Utf8
