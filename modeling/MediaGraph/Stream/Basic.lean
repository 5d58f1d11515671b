import MediaGraph.Failure.Basic
import MediaGraph.Text.Utf8

namespace MediaGraph

/-!
# Byte streams

A stream is its bytes, a position, and whether it can go back.  Reading moves the position;
`Stream.peek` looks at what comes next and puts the position back.

* `Stream.peek_snd` — a stream that was peeked at is the stream it was.
-/

/-- The bytes of a document. -/
abbrev Bytes := Text.Utf8.Bytes

/-- A stream of bytes; the position may lie behind the end. -/
structure Stream where
  bytes : Bytes
  position : Nat
  seekable : Bool
  deriving Repr, DecidableEq

namespace Stream

/-- A stream of these bytes, at their start. -/
def ofBytes (bytes : Bytes) : Stream := ⟨bytes, 0, true⟩

/-- The bytes from the position on. -/
def remaining (s : Stream) : Bytes := s.bytes.drop s.position

/-- The number of bytes that a request stands for: a negative one asks for everything. -/
def requested (s : Stream) (length : Int) : Nat :=
  if length < 0 then s.remaining.length else length.toNat

/-- Reads up to `length` bytes, all that are left when it is negative. -/
def read (s : Stream) (length : Int) : Bytes × Stream :=
  let taken := s.remaining.take (s.requested length)
  (taken, { s with position := s.position + taken.length })

/-- The greatest position, and the greatest length that can be asked for. -/
def limit : Nat := 9223372036854775807

/-- Whether a number can be a position or a length at all. -/
def isMeasure (n : Int) : Bool := -(limit : Int) - 1 ≤ n && n ≤ limit

/-- Reads as `read` does, and refuses a length that cannot be one. -/
def take (s : Stream) (length : Int) : Except Failure Bytes × Stream :=
  if isMeasure length then (.ok (s.read length).1, (s.read length).2) else (.error .outOfRange, s)

/-- Moves the position. -/
def seek (s : Stream) (offset : Int) : Except Failure Stream :=
  if !s.seekable then .error .inaccessible
  else if !isMeasure offset then .error .outOfRange
  else if offset < 0 then .error (.invalidValue (.negativeSeek offset))
  else .ok { s with position := offset.toNat }

/-- The position. -/
def tell (s : Stream) : Except Failure Nat :=
  if s.seekable then .ok s.position else .error .inaccessible

/-- A stream that can go back: the stream itself, or a copy of what is left of it. -/
def ensureSeekable (s : Stream) : Stream := if s.seekable then s else ofBytes s.remaining

/-- The next bytes, read and then stepped back over. -/
def peek (s : Stream) (length : Int) : Except Failure Bytes × Stream :=
  if !s.seekable then (.error (.invalidValue .unseekableStream), s)
  else ((s.take length).1, { (s.take length).2 with position := s.position })

/-- Peeking leaves the stream as it was. -/
theorem peek_snd (s : Stream) (length : Int) : (s.peek length).2 = s := by
  rw [peek]
  split
  · rfl
  · simp only [take]
    split <;> rfl

end Stream

end MediaGraph
