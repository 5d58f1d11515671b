namespace MediaGraph.Text.Utf8

/-!
# UTF-8, read and written

Reading goes character by character.  `Step` says what stands at the front of the bytes: a
character, or a fault with the number of bytes that a reader gives up (the longest front part
that some character starts with, and at least one byte).

* `decode` — the text, with one replacement character for every fault.
* `decodeStrict?` — the text, when there is no fault.
* `firstFault?` — how many bytes stand before the first fault.
* `encode` — the bytes of a text.
-/

/-- Bytes of a text or a stream. -/
abbrev Bytes := List UInt8

/-- What the first byte of a character announces: how many bytes follow, between which bounds
    the next one lies, and the bits that it contributes. -/
structure Lead where
  tails : Nat
  low : UInt8
  high : UInt8
  bits : Nat

/-- The announcement of a first byte; none for a byte that starts no character. -/
def lead? (b : UInt8) : Option Lead :=
  if b < 0x80 then some ⟨0, 0x80, 0xBF, b.toNat⟩
  else if b < 0xC2 then none
  else if b < 0xE0 then some ⟨1, 0x80, 0xBF, b.toNat - 0xC0⟩
  else if b = 0xE0 then some ⟨2, 0xA0, 0xBF, 0⟩
  else if b = 0xED then some ⟨2, 0x80, 0x9F, 0xD⟩
  else if b < 0xF0 then some ⟨2, 0x80, 0xBF, b.toNat - 0xE0⟩
  else if b = 0xF0 then some ⟨3, 0x90, 0xBF, 0⟩
  else if b < 0xF4 then some ⟨3, 0x80, 0xBF, b.toNat - 0xF0⟩
  else if b = 0xF4 then some ⟨3, 0x80, 0x8F, 4⟩
  else none

/-- The bytes still owed to a character: its bits when they are all there, else how many of
    them were in place. -/
def tails : Nat → UInt8 → UInt8 → Nat → Bytes → Except Nat Nat
  | 0, _, _, bits, _ => .ok bits
  | _ + 1, _, _, _, [] => .error 0
  | n + 1, low, high, bits, b :: bs =>
    if low ≤ b && b ≤ high then
      match tails n 0x80 0xBF (bits * 64 + (b.toNat - 0x80)) bs with
      | .ok value => .ok value
      | .error k => .error (k + 1)
    else .error 0

/-- What stands at the front of some bytes. -/
inductive Step where
  /-- A character, and the number of bytes after its first one. -/
  | char (c : Char) (after : Nat)
  /-- A fault, and the number of bytes given up after the first one. -/
  | fault (after : Nat)
  deriving Repr, DecidableEq

/-- Reads what stands at the front of `b :: bs`. -/
def step (b : UInt8) (bs : Bytes) : Step :=
  match lead? b with
  | none => .fault 0
  | some l =>
    match tails l.tails l.low l.high l.bits bs with
    | .ok value => .char (Char.ofNat value) l.tails
    | .error k => .fault k

/-- The text of some bytes, one replacement character for every fault. -/
def decodeChars : Bytes → List Char
  | [] => []
  | b :: bs =>
    match step b bs with
    | .char c k => c :: decodeChars (bs.drop k)
    | .fault k => '\ufffd' :: decodeChars (bs.drop k)
  termination_by bytes => bytes.length
  decreasing_by all_goals simp only [List.length_drop, List.length_cons]; omega

/-- The number of bytes before the first fault, when there is one. -/
def firstFault? : Bytes → Option Nat
  | [] => none
  | b :: bs =>
    match step b bs with
    | .char _ k => (firstFault? (bs.drop k)).map (· + k + 1)
    | .fault _ => some 0
  termination_by bytes => bytes.length
  decreasing_by all_goals simp only [List.length_drop, List.length_cons]; omega

/-- The text of some bytes, one replacement character for every fault. -/
def decode (bytes : Bytes) : String := String.ofList (decodeChars bytes)

/-- The text of some bytes, when they are the bytes of a text. -/
def decodeStrict? (bytes : Bytes) : Option String :=
  if (firstFault? bytes).isSome then none else some (decode bytes)

/-- The bytes of one character. -/
def encodeChar (c : Char) : Bytes :=
  let n := c.toNat
  if n < 0x80 then [n.toUInt8]
  else if n < 0x800 then [(0xC0 + n / 64).toUInt8, (0x80 + n % 64).toUInt8]
  else if n < 0x10000 then
    [(0xE0 + n / 4096).toUInt8, (0x80 + n / 64 % 64).toUInt8, (0x80 + n % 64).toUInt8]
  else
    [(0xF0 + n / 262144).toUInt8, (0x80 + n / 4096 % 64).toUInt8, (0x80 + n / 64 % 64).toUInt8,
      (0x80 + n % 64).toUInt8]

/-- The bytes of a text. -/
def encode (s : String) : Bytes := s.toList.flatMap encodeChar

end MediaGraph.Text.Utf8
