import MediaGraph.Text.CaseMapping

namespace MediaGraph.Text

/-!
# Decimal digits of all scripts

* `digitValue?` — the value of a decimal digit.
* `isDigit` — decimal digits and the characters that stand for a digit without being one
  (superscripts, circled digits).
* `readDecimal?` — the number that a text of decimal digits writes.
-/

/-- The zero of every script; the nine digits follow it. -/
def zeros : List Nat :=
  [0x0030, 0x0660, 0x06F0, 0x07C0, 0x0966, 0x09E6, 0x0A66, 0x0AE6,
   0x0B66, 0x0BE6, 0x0C66, 0x0CE6, 0x0D66, 0x0DE6, 0x0E50, 0x0ED0,
   0x0F20, 0x1040, 0x1090, 0x17E0, 0x1810, 0x1946, 0x19D0, 0x1A80,
   0x1A90, 0x1B50, 0x1BB0, 0x1C40, 0x1C50, 0xA620, 0xA8D0, 0xA900,
   0xA9D0, 0xA9F0, 0xAA50, 0xABF0, 0xFF10, 0x104A0, 0x10D30, 0x11066,
   0x110F0, 0x11136, 0x111D0, 0x112F0, 0x11450, 0x114D0, 0x11650, 0x116C0,
   0x11730, 0x118E0, 0x11950, 0x11C50, 0x11D50, 0x11DA0, 0x16A60, 0x16AC0,
   0x16B50, 0x1D7CE, 0x1D7D8, 0x1D7E2, 0x1D7EC, 0x1D7F6, 0x1E140, 0x1E2F0,
   0x1E950, 0x1FBF0]

/-- Ranges of the characters that stand for a digit and have no decimal value. -/
def digitSigns : List (Nat × Nat) :=
  [(178, 179), (185, 185), (4969, 4977), (6618, 6618), (8304, 8304), (8308, 8313), (8320, 8329),
   (9312, 9320), (9332, 9340), (9352, 9360), (9450, 9450), (9461, 9469), (9471, 9471),
   (10102, 10110), (10112, 10120), (10122, 10130), (68160, 68163), (69216, 69224),
   (69714, 69722), (127232, 127242)]

/-- The value of a decimal digit of any script. -/
def digitValue? (c : Char) : Option Nat :=
  (zeros.find? fun z => z ≤ c.toNat && c.toNat < z + 10).map (c.toNat - ·)

/-- Whether a character is a decimal digit or stands for one. -/
def isDigit (c : Char) : Bool := (digitValue? c).isSome || inRanges digitSigns c.toNat

/-- The number written by a non-empty text of decimal digits. -/
def readDecimal? : List Char → Option Nat
  | [] => none
  | cs => cs.foldl (fun acc c => do return 10 * (← acc) + (← digitValue? c)) (some 0)

end MediaGraph.Text
