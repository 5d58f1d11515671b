import MediaGraph.Text.Blank
import MediaGraph.Text.ByteSet
import MediaGraph.Text.Utf8

namespace MediaGraph.Text

/-!
# Character sets

* `Charset.ofName?` — the character set of a name, in any of its spellings.
* `Charset.decodeChars` — the characters of some bytes, with a replacement for every fault.
* `Charset.takesManyBytes`, `Charset.readsNothing`, `Charset.breaksCode` — names of further sets.
-/

/-- The character sets that texts are decoded from. -/
inductive Charset where
  | utf8
  /-- UTF-8, a byte order mark in front being dropped. -/
  | utf8Signed
  | latin1
  | ascii
  /-- A set of one byte to a character. -/
  | single (set : ByteSet)
  /-- UTF-16, in the order that a mark in front tells. -/
  | utf16
  | utf16Little
  | utf16Big
  /-- UTF-32, in the order that a mark in front tells. -/
  | utf32
  | utf32Little
  | utf32Big
  deriving Repr, DecidableEq

namespace Charset

/-- The characters of a name that count. -/
def isNameChar (c : Char) : Bool := c.isAlphanum || c = '.'

/-- A name in lower case, with every run of other characters between two counted ones made an
    underscore.  `pending` tells that such a run was just passed. -/
def normalName (started pending : Bool) : List Char → List Char
  | [] => []
  | c :: cs =>
    if isNameChar c then
      if started && pending then '_' :: c.toLower :: normalName true false cs
      else c.toLower :: normalName true false cs
    else normalName started true cs

/-- The character sets by their own names. -/
def ownNames : List (String × Charset) :=
  [("utf_8", .utf8), ("utf_8_sig", .utf8Signed), ("latin_1", .latin1), ("iso8859_1", .latin1),
   ("ascii", .ascii), ("utf_16", .utf16), ("utf_16_le", .utf16Little), ("utf_16_be", .utf16Big),
   ("utf_32", .utf32), ("utf_32_le", .utf32Little), ("utf_32_be", .utf32Big)] ++
    ByteSet.all.map fun set => (set.name, .single set)

/-- The other names of the character sets. -/
def otherNames : List (Charset × List String) :=
  [(.utf8, ["utf8", "u8", "utf", "utf8_ucs2", "utf8_ucs4", "cp65001"]),
   (.latin1, ["latin1", "iso8859_1", "iso_8859_1", "iso8859", "8859", "l1", "latin", "cp819",
      "ibm819", "csisolatin1", "iso_ir_100", "iso_8859_1_1987"]),
   (.ascii, ["us_ascii", "us", "646", "cp367", "ibm367", "csascii", "iso646_us", "iso_ir_6",
      "ansi_x3.4_1968", "ansi_x3_4_1968", "ansi_x3.4_1986", "iso_646.irv_1991"]),
   (.utf16, ["utf16", "u16"]),
   (.utf16Little, ["utf_16le", "unicodelittleunmarked"]),
   (.utf16Big, ["utf_16be", "unicodebigunmarked"]),
   (.utf32, ["utf32", "u32"]),
   (.utf32Little, ["utf_32le"]),
   (.utf32Big, ["utf_32be"])] ++
    ByteSet.all.map fun set => (.single set, set.otherNames)

/-- The character set that goes by another name. -/
def ofOtherName? (normal : List Char) : Option Charset :=
  (otherNames.find? fun e => e.2.contains (String.ofList normal)).map (·.1)

/-- The character set of a name.  In other names than its own a point may stand for an
    underscore. -/
def ofName? (name : String) : Option Charset :=
  let normal := normalName false false name.toList
  (ofOtherName? normal).or
    ((ofOtherName? (replaceChar '.' '_' normal)).or (ownNames.lookup (String.ofList normal)))

/-- Whether a name is that of a set in which a character may take more than a byte, and which is
    not among the sets that texts are decoded from. -/
def takesManyBytes (name : String) : Bool :=
  let normal := normalName false false name.toList
  manyByteNames.contains (String.ofList normal) ||
    manyByteNames.contains (String.ofList (replaceChar '.' '_' normal))

/-- Whether a name is that of a set that reads nothing when faults are to be replaced. -/
def readsNothing (name : String) : Bool :=
  ["idna", "undefined"].contains (String.ofList (normalName false false name.toList))

/-- Whether a name is that of the set in which what follows the last hyphen is a code in ASCII, and
    some bytes are no such code. -/
def breaksCode (name : String) (bytes : Utf8.Bytes) : Bool :=
  String.ofList (normalName false false name.toList) = "punycode" &&
    (bytes.reverse.takeWhile fun b => b ≠ 0x2D).any fun b => 0x80 ≤ b

/-- What stands for a fault. -/
def replacement : Char := '\ufffd'

/-- The character of a number, if it has one. -/
def charOf? (n : Nat) : Option Char := if n.isValidChar then some (Char.ofNat n) else none

/-- The characters of bytes in a set of one byte to a character. -/
def decodeSingle (set : ByteSet) (bytes : Utf8.Bytes) : List Char :=
  let high := set.high.toList.toArray
  let low := 256 - high.size
  bytes.map fun b =>
    if b.toNat < low then Char.ofNat b.toNat else (high[b.toNat - low]?).getD replacement

/-- The number of two bytes, in either order. -/
def unitOf (big : Bool) (a b : UInt8) : Nat :=
  if big then a.toNat * 256 + b.toNat else b.toNat * 256 + a.toNat

/-- Text in units of two bytes: a pair of surrogates makes one character, a surrogate without
    its partner is a fault, and so is what is cut off at the end. -/
def decode16 (big : Bool) : Utf8.Bytes → List (Option Char)
  | [] => []
  | [_] => [none]
  | a :: b :: rest =>
    let n := unitOf big a b
    if 0xD800 ≤ n && n < 0xDC00 then
      match rest with
      | c :: d :: rest' =>
        let m := unitOf big c d
        if 0xDC00 ≤ m && m < 0xE000 then
          charOf? (0x10000 + (n - 0xD800) * 0x400 + (m - 0xDC00)) :: decode16 big rest'
        else none :: decode16 big (c :: d :: rest')
      | _ => [none]
    else charOf? n :: decode16 big rest

/-- Text in units of four bytes. -/
def decode32 (big : Bool) : Utf8.Bytes → List (Option Char)
  | [] => []
  | a :: b :: c :: d :: rest =>
    let n :=
      if big then unitOf true a b * 65536 + unitOf true c d
      else unitOf false c d * 65536 + unitOf false a b
    charOf? n :: decode32 big rest
  | _ => [none]

/-- The characters, with a replacement for every fault. -/
def replacing (cs : List (Option Char)) : List Char := cs.map (·.getD replacement)

/-- The characters of some bytes. -/
def decodeChars : Charset → Utf8.Bytes → List Char
  | .utf8, bytes => Utf8.decodeChars bytes
  | .utf8Signed, bytes =>
    match bytes with
    | 0xEF :: 0xBB :: 0xBF :: rest => Utf8.decodeChars rest
    | _ => Utf8.decodeChars bytes
  | .latin1, bytes => bytes.map fun b => Char.ofNat b.toNat
  | .ascii, bytes => bytes.map fun b => if b < 0x80 then Char.ofNat b.toNat else replacement
  | .single set, bytes => decodeSingle set bytes
  | .utf16, bytes =>
    match bytes with
    | 0xFF :: 0xFE :: rest => replacing (decode16 false rest)
    | 0xFE :: 0xFF :: rest => replacing (decode16 true rest)
    | _ => replacing (decode16 false bytes)
  | .utf16Little, bytes => replacing (decode16 false bytes)
  | .utf16Big, bytes => replacing (decode16 true bytes)
  | .utf32, bytes =>
    match bytes with
    | 0xFF :: 0xFE :: 0 :: 0 :: rest => replacing (decode32 false rest)
    | 0 :: 0 :: 0xFE :: 0xFF :: rest => replacing (decode32 true rest)
    | _ => replacing (decode32 false bytes)
  | .utf32Little, bytes => replacing (decode32 false bytes)
  | .utf32Big, bytes => replacing (decode32 true bytes)

/-- Text in ASCII, every run of other bytes being one fault; `inFault` tells that the byte in front
    was such a one. -/
def decodeRuns (inFault : Bool) : Utf8.Bytes → List Char
  | [] => []
  | b :: bytes =>
    if b < 0x80 then Char.ofNat b.toNat :: decodeRuns false bytes
    else if inFault then decodeRuns true bytes
    else replacement :: decodeRuns true bytes

end Charset

end MediaGraph.Text
