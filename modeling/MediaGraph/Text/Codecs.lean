import MediaGraph.Failure.Basic
import MediaGraph.Text.Charset

namespace MediaGraph

/-!
# Codecs

Bytes are decoded by codecs, which are looked up by name.  Which codecs there are, and what each of
them makes of some bytes, is left open: the readers of texts and of markup are given a `Codecs`.

* `Codecs` — decoding by name, with the failures that may come of it.
* `Codecs.listed` — the codecs of the character sets that are written down here.
-/

/-- Decoding bytes by the name of a codec, with a replacement character for every fault of the
    bytes. -/
structure Codecs where
  /-- The characters of some bytes.  It fails where no codec has the name, and where a codec does
      not decode the bytes although faults are replaced. -/
  decode : String → Text.Utf8.Bytes → Except Failure (List Char)
  /-- Codecs know nothing of configurations, documents and markup. -/
  foreign : ∀ name bytes f, decode name bytes = .error f → f.isForeign = true

namespace Codecs

open Text

/-- The characters of bytes in a set that is written down here.  Of the further sets with several
    bytes to a character only ASCII is decoded, and some sets refuse bytes in ways of their own. -/
def decodeListed (name : String) (bytes : Utf8.Bytes) : Except Failure (List Char) :=
  match Charset.ofName? name with
  | some set => .ok (set.decodeChars bytes)
  | none =>
    if Charset.takesManyBytes name then .ok (Charset.decodeRuns false bytes)
    else if Charset.readsNothing name then .error .unnameable
    else if Charset.breaksCode name bytes then .error .undecodable
    else .error .unknownEncoding

theorem isForeign_of_decodeListed (name : String) (bytes : Utf8.Bytes) (f : Failure)
    (h : decodeListed name bytes = .error f) : f.isForeign = true := by
  unfold decodeListed at h
  split at h
  · cases h
  · split at h
    · cases h
    · split at h
      · cases h
        rfl
      · split at h <;> cases h <;> rfl

/-- The codecs of the character sets that are written down here. -/
def listed : Codecs where
  decode := decodeListed
  foreign := isForeign_of_decodeListed

end Codecs

end MediaGraph
