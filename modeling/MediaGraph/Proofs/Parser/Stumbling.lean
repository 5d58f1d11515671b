import MediaGraph.Proofs.Config.Document
import MediaGraph.Proofs.Detector.Window
import MediaGraph.Proofs.Parser.PackagedTree

namespace MediaGraph

/-!
# Parsers that stumble

Parsing promises content, or the failure of a document that cannot be parsed.  The packaged parsers
keep the promise for markup that is not well-formed and for a name that no codec has.  They stumble
over a name or an encoding that is refused in another way, and over a detector that asks for more
bytes than can be asked for.

* `Stumbles` — a failure that comes out although no document that cannot be parsed is to blame.
* `Job.CharsetFault`, `Job.stumbles_decodeNamed_iff` — where decoding a text stumbles.
* `Job.stumbles_markupText_iff` — where reading markup does.
* `Parser.Finish.Fault` — a document whose way ends where it is stumbled over.
* `Parser.stumbles_parse_iff` — these are all the documents that parsing stumbles over.
-/

variable {α : Type} {f : Failure}

/-- Whether a failure is that of a document that cannot be parsed. -/
def Failure.isUnparsable : Failure → Bool
  | .unparsable .. => true
  | _ => false

/-- Whether `f` comes out of a result although it is not that of a document that cannot be
    parsed. -/
def Stumbles (f : Failure) (r : Except Failure α) : Prop := r = .error f ∧ f.isUnparsable = false

/-- A result that stumbles over nothing is content or the failure of a document that cannot be
    parsed. -/
theorem forall_not_stumbles_iff {r : Except Failure α} :
    (∀ f, ¬ Stumbles f r) ↔
      (∃ a, r = .ok a) ∨ ∃ fault cause, r = .error (.unparsable fault cause) := by
  cases r with
  | ok a => simp [Stumbles]
  | error g => cases g <;> simp [Stumbles, Failure.isUnparsable]

/-! ### Jobs -/

namespace Job

variable {codecs : Codecs} {name : String} {bytes : Bytes} {t : MediaType} {m : Metadata}

/-- What decoding bytes in a named character set stumbles over: a zero character in the name, and a
    failure of the codec other than that it is not found. -/
inductive CharsetFault (codecs : Codecs) (name : String) (bytes : Bytes) : Failure → Prop where
  | zero (held : '\x00' ∈ name.toList) :
      CharsetFault codecs name bytes (.invalidValue (.custom "embedded null character"))
  | codec {f : Failure} (plain : '\x00' ∉ name.toList) (nonempty : bytes ≠ [])
      (fails : codecs.decode name bytes = .error f) (found : f.isLookupFault = false) :
      CharsetFault codecs name bytes f

/-- A zero character in the name is refused before anything else. -/
theorem decodeNamed_of_zero (held : '\x00' ∈ name.toList) :
    decodeNamed codecs name bytes = .error (.invalidValue (.custom "embedded null character")) := by
  unfold decodeNamed
  rw [if_pos (List.contains_iff_mem.mpr held)]

/-- Without bytes, a name without a zero character is not looked up. -/
theorem decodeNamed_nil (plain : '\x00' ∉ name.toList) : decodeNamed codecs name [] = .ok "" := by
  unfold decodeNamed
  rw [if_neg fun hzero => plain (List.contains_iff_mem.mp hzero)]
  rfl

/-- Bytes that the codec decodes are a text. -/
theorem decodeNamed_of_decodes {cs : List Char} (plain : '\x00' ∉ name.toList)
    (nonempty : bytes ≠ []) (decodes : codecs.decode name bytes = .ok cs) :
    decodeNamed codecs name bytes = .ok (String.ofList cs) := by
  unfold decodeNamed
  rw [if_neg fun hzero => plain (List.contains_iff_mem.mp hzero),
    if_neg fun hempty => nonempty (List.isEmpty_iff.mp hempty)]
  simp only [decodes]

/-- That the codec is not found is the fault of the document; any other failure comes out. -/
theorem decodeNamed_of_fails (plain : '\x00' ∉ name.toList) (nonempty : bytes ≠ [])
    (fails : codecs.decode name bytes = .error f) :
    decodeNamed codecs name bytes =
      if f.isLookupFault then .error (.unparsable (.unknownCharset name) (some f))
      else .error f := by
  unfold decodeNamed
  rw [if_neg fun hzero => plain (List.contains_iff_mem.mp hzero),
    if_neg fun hempty => nonempty (List.isEmpty_iff.mp hempty)]
  simp only [fails]

/-- What comes from outside is not the failure of a document that cannot be parsed. -/
theorem isUnparsable_of_isForeign (hf : f.isForeign = true) : f.isUnparsable = false := by
  cases f <;> first | rfl | cases hf

/-- What comes of a fault of the character set. -/
theorem CharsetFault.decodeNamed_eq (h : CharsetFault codecs name bytes f) :
    decodeNamed codecs name bytes = .error f ∧ f.isUnparsable = false := by
  cases h with
  | zero held => exact ⟨decodeNamed_of_zero held, rfl⟩
  | codec plain nonempty fails found =>
    refine ⟨?_, isUnparsable_of_isForeign (codecs.foreign _ _ _ fails)⟩
    rw [decodeNamed_of_fails plain nonempty fails, found, if_neg Bool.false_ne_true]

/-- **Where decoding stumbles.**  Bytes that a codec decodes never do, nor do bytes in a set that
    nobody knows, nor no bytes at all behind a name without a zero character. -/
theorem stumbles_decodeNamed_iff :
    Stumbles f (decodeNamed codecs name bytes) ↔ CharsetFault codecs name bytes f := by
  refine ⟨?_, CharsetFault.decodeNamed_eq⟩
  rintro ⟨h, hf⟩
  by_cases hzero : '\x00' ∈ name.toList
  · rw [decodeNamed_of_zero hzero] at h
    cases h
    exact .zero hzero
  by_cases hempty : bytes = []
  · subst hempty
    rw [decodeNamed_nil hzero] at h
    cases h
  cases hdecode : codecs.decode name bytes with
  | ok cs =>
    rw [decodeNamed_of_decodes hzero hempty hdecode] at h
    cases h
  | error g =>
    rw [decodeNamed_of_fails hzero hempty hdecode] at h
    split at h
    · -- A name that nobody knows is foreseen.
      cases h
      cases hf
    · next hfound =>
      cases h
      exact .codec hzero hempty hdecode (Bool.eq_false_iff.mpr hfound)

/-- **Where reading markup stumbles**: over the encoding of the bytes. -/
theorem stumbles_markupText_iff :
    Stumbles f (markupText codecs bytes) ↔ Config.Document.EncodingFault codecs bytes f := by
  unfold markupText
  constructor
  · rintro ⟨h, hf⟩
    split at h
    · cases h
    · -- Markup that is not well-formed is foreseen.
      cases h
      cases hf
    · rename_i g hne hread
      cases h
      exact (Config.Document.fault_of_ofBytes hread).resolve_left hne
  · intro h
    rw [h.ofBytes_eq]
    have hforeign : f.isForeign = true := h.isForeign
    refine ⟨?_, isUnparsable_of_isForeign hforeign⟩
    split
    · next heq => cases heq
    · next heq =>
      cases heq
      cases hforeign
    · next heq =>
      cases heq
      rfl

/-- Declaring a type changes nothing about what is stumbled over. -/
theorem stumbles_declaring_iff {text : Except Failure String} :
    Stumbles f (declaring t m text).1 ↔ Stumbles f text := by
  cases text <;> simp [declaring, Stumbles]

end Job

namespace Parser

/-! ### Documents -/

/-- A document whose way ends where it is stumbled over: at a parser of plain text with a fault of
    its character set, at a parser of markup with a fault of its encoding, or at a detector that
    asks for a number of bytes that cannot be a length. -/
inductive Finish.Fault (allowed : Detector → Prop) : Finish → Failure → Prop where
  | charset {cls codecs s m f}
      (fault : Job.CharsetFault codecs (Job.charsetName m) s.remaining f) :
      Fault allowed (.leaf cls (.plainText codecs) (some s) m) f
  | encoding {cls codecs s m f} (fault : Config.Document.EncodingFault codecs s.remaining f) :
      Fault allowed (.leaf cls (.markup codecs) (some s) m) f
  | window {d n m} (detects : allowed d) (asked : n ∈ d.lengths)
      (endless : Stream.isMeasure n = false) : Fault allowed (.undetected .outOfRange m) .outOfRange

variable {allowed : Detector → Prop} {p : Parser} {m : Metadata} {finish : Finish}

/-- What ends at a fault is stumbled over. -/
theorem Finish.Fault.stumbles (h : finish.Fault allowed f) : Stumbles f finish.outcome.1 := by
  cases h with
  | charset fault => exact Job.stumbles_declaring_iff.mpr (Job.stumbles_decodeNamed_iff.mpr fault)
  | encoding fault => exact Job.stumbles_declaring_iff.mpr (Job.stumbles_markupText_iff.mpr fault)
  | window => exact ⟨rfl, rfl⟩

/-- A known job stumbles over the faults of a document only. -/
theorem fault_of_run {cls : ClassRef} {job : Job} {s : Stream} (known : job.Packaged)
    (h : Stumbles f (job.run (some s.remaining) m).1) :
    Finish.Fault allowed (.leaf cls job (some s) m) f := by
  cases job with
  | nothing => cases h.1
  | plainText => exact .charset (Job.stumbles_decodeNamed_iff.mp (Job.stumbles_declaring_iff.mp h))
  | markup => exact .encoding (Job.stumbles_markupText_iff.mp (Job.stumbles_declaring_iff.mp h))
  | custom => exact known.elim

/-- What the way of a document ends with is stumbled over only at a fault. -/
theorem fault_of_stumbles {s : Stream} {hops : List Hop} (hroute : Route (some s) m p hops finish)
    (known : p.Packaged allowed) (hallowed : ∀ d, allowed d → d.Packaged)
    (h : Stumbles f finish.outcome.1) : finish.Fault allowed f := by
  rcases hroute.finish_of_some known with
    ⟨cls, job, stream, m', hjob, rfl⟩ | ⟨g, m', d, stream, hd, hanswer, rfl⟩
  · exact fault_of_run hjob h
  · -- The detector is asked about a stream that can go back.
    obtain ⟨_, ⟨⟩, ⟨hs, -⟩ | ⟨-, rfl, n, hn, hmeasure⟩⟩ :=
      Detector.failure_of_answer (hallowed d hd) hanswer
    · rw [Stream.seekable_ensureSeekable] at hs
      cases hs
    · cases h.1
      exact .window hd hn hmeasure

/-- **What parsing stumbles over.**  In every tree of packaged parsers and packaged detectors, for
    every document and every metadata: a failure comes out that is not that of a document that
    cannot be parsed exactly where the way of the document ends at a fault, and then it is that of
    the fault.  So parsing keeps its promise where no way ends at a fault, and nowhere else. -/
theorem stumbles_parse_iff (p : Parser) (hallowed : ∀ d, allowed d → d.Packaged)
    (known : p.Packaged allowed) (s : Stream) (m : Metadata) :
    (∀ f, Stumbles f (parse (some s) m p).content.result ↔
      ∃ hops finish, Route (some s) m p hops finish ∧ finish.Fault allowed f) ∧
    (((∃ c, (parse (some s) m p).content.result = .ok c) ∨
        ∃ fault cause, (parse (some s) m p).content.result = .error (.unparsable fault cause)) ↔
      ∀ hops finish f, Route (some s) m p hops finish → ¬ finish.Fault allowed f) := by
  have hstumbles : ∀ f, Stumbles f (parse (some s) m p).content.result ↔
      ∃ hops finish, Route (some s) m p hops finish ∧ finish.Fault allowed f := by
    intro f
    constructor
    · intro h
      obtain ⟨hops, finish, hroute⟩ := exists_route p (some s) m
      have houtcome : finish.outcome.1 = (parse (some s) m p).content.result :=
        congrArg Prod.fst hroute.parse_eq.symm
      rw [← houtcome] at h
      exact ⟨hops, finish, hroute, fault_of_stumbles hroute known hallowed h⟩
    · rintro ⟨hops, finish, hroute, hfault⟩
      have houtcome : (parse (some s) m p).content.result = finish.outcome.1 :=
        congrArg Prod.fst hroute.parse_eq
      rw [houtcome]
      exact hfault.stumbles
  refine ⟨hstumbles, ?_⟩
  rw [← forall_not_stumbles_iff]
  simp only [hstumbles, not_exists, not_and]
  constructor
  · intro h hops finish f
    exact h f hops finish
  · intro h f hops finish
    exact h hops finish f

/-! ### A document in an unknown encoding -/

/-- Well-formed markup that declares an encoding which nobody knows. -/
def unknownEncodingPage : Stream :=
  .ofBytes (Text.Utf8.encode "<?xml version='1.0' encoding='x-unknown'?><r/>")

/-- Whether a result is the failure of an encoding that is not known. -/
def isUnknownEncoding : Except Failure α → Bool
  | .error .unknownEncoding => true
  | _ => false

theorem eq_of_isUnknownEncoding {r : Except Failure α} (h : isUnknownEncoding r = true) :
    r = .error .unknownEncoding := by
  unfold isUnknownEncoding at h
  split at h
  · rfl
  · cases h

/-- The packaged parsers, below a composite. -/
def packagedComposite : Parser :=
  .composite compositeClass none .empty (packaged .listed) [] nothing

/-- The parser of markup. -/
def markupLeaf : Parser := .leaf xmlClass (.markup .listed)

/-- Metadata that declares markup. -/
def declaredMarkup : Metadata := ⟨[(contentTypeKey, "application/xml")]⟩

/-- A composite hands the document to the parser of markup, and the fault of the encoding comes out
    of both of them. -/
theorem stumbles_parse_iff_unknownEncoding :
    packagedComposite.Packaged Detector.Packaged ∧
    Route (some unknownEncodingPage) declaredMarkup packagedComposite [⟨[], false⟩]
      (.leaf xmlClass (.markup .listed) (some unknownEncodingPage) declaredMarkup) ∧
    Stumbles .unknownEncoding
      (parse (some unknownEncodingPage) declaredMarkup packagedComposite).content.result := by
  have htree : packagedComposite.Packaged Detector.Packaged :=
    .plain (fun _ => packaged_of_mem_packaged) (.leaf trivial)
  have hname : Xml.foreignEncoding? unknownEncodingPage.remaining = some "x-unknown" := by
    decide +kernel
  have hfault : Config.Document.EncodingFault .listed unknownEncodingPage.remaining
      .unknownEncoding := .codec hname rfl
  have hroute : Route (some unknownEncodingPage) declaredMarkup packagedComposite [⟨[], false⟩]
      (.leaf xmlClass (.markup .listed) (some unknownEncodingPage) declaredMarkup) :=
    .child (i := 1) rfl (by decide) rfl .leaf
  have hiff := (stumbles_parse_iff packagedComposite (fun _ h => h) htree unknownEncodingPage
    declaredMarkup).1
  exact ⟨htree, hroute, (hiff _).mpr ⟨_, _, hroute, .encoding hfault⟩⟩

/-- The parser of markup breaks the promise: what comes of the document is neither content nor the
    failure of a document that cannot be parsed. -/
theorem parse_unknownEncoding :
    markupLeaf.Packaged Detector.Packaged ∧
    (parse (some unknownEncodingPage) .empty markupLeaf).content.result
      = .error .unknownEncoding ∧
    ¬ ((∃ c, (parse (some unknownEncodingPage) .empty markupLeaf).content.result = .ok c) ∨
        ∃ fault cause, (parse (some unknownEncodingPage) .empty markupLeaf).content.result
          = .error (.unparsable fault cause)) := by
  have hresult : (parse (some unknownEncodingPage) .empty markupLeaf).content.result
      = .error .unknownEncoding :=
    eq_of_isUnknownEncoding (by decide +kernel)
  refine ⟨.leaf trivial, hresult, ?_⟩
  rw [hresult]
  rintro (⟨c, h⟩ | ⟨fault, cause, h⟩)
  · cases h
  · cases h

end Parser

end MediaGraph
