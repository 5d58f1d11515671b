import MediaGraph.Config.Model
import MediaGraph.Proofs.Detector.Window
import MediaGraph.Proofs.Parser.PackagedTree

namespace MediaGraph

/-!
# The bytes that are left

A stream may stand anywhere in its bytes, or behind them, and may be unable to go back.  None of
this matters to the auto-detecting parser: it detects on a stream that can go back, a copy if need
be, and what is detected and what is parsed are told by the bytes that are left.

* `Stream.remaining_ensureSeekable` — a stream that was made able to go back goes on as before.
* `Detector.alike_detect_of_remaining` — packaged detectors tell streams apart by what is left.
* `Parser.PreparedAlike` — what a composite hands over of two such streams.
* `Parser.parse_of_remaining` — what comes of two such streams in a tree of packaged parsers.
* `MediaConfig.autoDetectParser_of_remaining` — the auto-detecting parser of a configuration.
-/

/-! ### Looking at what is left -/

section

variable {s s' : Stream} {m : Metadata}

/-- A stream that was made able to go back goes on with the same bytes. -/
theorem Stream.remaining_ensureSeekable (s : Stream) : s.ensureSeekable.remaining = s.remaining := by
  unfold ensureSeekable
  split
  · rfl
  · exact List.drop_zero

/-- Peeking finds the same, whatever is asked for, where the same bytes are left. -/
theorem Stream.peek_of_remaining (hs : s.seekable = true) (hs' : s'.seekable = true)
    (h : s.remaining = s'.remaining) (length : Int) : (s.peek length).1 = (s'.peek length).1 := by
  have hrequested : s.requested length = s'.requested length := by
    rw [requested, requested, h]
  unfold peek take read
  simp only [hs, hs', h, hrequested, Bool.not_true, Bool.false_eq_true, if_false]
  split <;> rfl

/-- Packaged detectors tell the same of streams of which the same bytes are left. -/
theorem Detector.alike_detect_of_remaining {d : Detector} (known : d.Packaged)
    (hs : s.seekable = true) (hs' : s'.seekable = true) (h : s.remaining = s'.remaining) :
    (d.detect m).Alike (some s) (some s') := by
  refine alike_detect known fun n _ => ?_
  show Traced.ofExcept (s.peek n).1 = Traced.ofExcept (s'.peek n).1
  rw [Stream.peek_of_remaining hs hs' h]

end

namespace Parser

variable {detector : Option Detector} {p : Parser} {s s' : Option Stream}

/-! ### Handing on what is left -/

/-- Whether the same bytes are left of two documents, or there is no stream of either. -/
def SameRest (s s' : Option Stream) : Prop := s.map Stream.remaining = s'.map Stream.remaining

/-- Whether a composite hands over the same twice, but for streams of which the same bytes are
    left. -/
inductive PreparedAlike :
    Traced (Option Stream × Metadata) → Traced (Option Stream × Metadata) → Prop where
  | failed {f records} : PreparedAlike ⟨.error f, records⟩ ⟨.error f, records⟩
  | handed {s s' m records} (rest : SameRest s s') :
      PreparedAlike ⟨.ok (s, m), records⟩ ⟨.ok (s', m), records⟩

/-- With a packaged detector or without one, a composite hands over alike what goes on alike: the
    detector is asked about streams that can go back, whether the given ones can or not. -/
theorem preparedAlike_of_sameRest (detects : ∀ d ∈ detector, d.Packaged) (h : SameRest s s')
    (m : Metadata) : PreparedAlike (prepare detector s m) (prepare detector s' m) := by
  cases detector with
  | none => exact .handed h
  | some d =>
    cases s with
    | none =>
      have hnone : s' = none := Option.map_eq_none_iff.mp h.symm
      rw [hnone]
      exact .failed
    | some s =>
      obtain ⟨s', rfl, hrest⟩ := Option.map_eq_some_iff.mp h.symm
      have hsame : s.ensureSeekable.remaining = s'.ensureSeekable.remaining := by
        rw [Stream.remaining_ensureSeekable, Stream.remaining_ensureSeekable, hrest]
      have hfound : ((d.detect m).run (some s.ensureSeekable)).1
          = ((d.detect m).run (some s'.ensureSeekable)).1 :=
        Detector.alike_detect_of_remaining (detects d rfl) s.seekable_ensureSeekable
          s'.seekable_ensureSeekable hsame
      have hkept : ∀ s, ((d.detect m).run s).2 = s := Detector.keeps_detect m d
      unfold prepare
      dsimp only
      rw [hkept, hkept, hfound]
      cases ((d.detect m).run (some s'.ensureSeekable)).1.result with
      | error f => exact .failed
      | ok t => exact .handed (congrArg some hsame)

/-! ### Parsing what is left -/

/-- **Packaged parsers make the same of the same bytes.**  In every tree of packaged parsers and
    packaged detectors, what comes of a document, what is reported and the metadata afterwards are
    told by the bytes that are left of it. -/
theorem parse_of_remaining (known : p.Packaged Detector.Packaged) (h : SameRest s s')
    (m : Metadata) : parse s m p = parse s' m p := by
  -- Induction on the tree, for whatever streams and metadata a composite hands on.
  induction known generalizing s s' m with
  | leaf =>
    rw [parse, parse, h]
  | decorator _ ih =>
    rw [parse, parse]
    exact ih h m
  | @composite cls detector registry children excluded fallback detects _ _ ihHeld ihOther =>
    have hprepared := preparedAlike_of_sameRest detects h m
    rw [parse, parse]
    generalize prepare detector s m = x at hprepared
    generalize prepare detector s' m = y at hprepared
    cases hprepared with
    | failed => rfl
    | @handed t t' m' records rest =>
      have hfallback : parse t m' fallback = parse t' m' fallback := ihOther rest m'
      have hchild : ∀ i, parseNth t m' children i = parseNth t' m' children i := by
        intro i
        rw [parseNth_eq_map, parseNth_eq_map]
        cases hi : children[i]? with
        | none => rfl
        | some child => exact congrArg some (ihHeld child (List.mem_of_getElem? hi) rest m')
      simp only [hfallback, hchild]

end Parser

/-! ### The auto-detecting parser -/

/-- An auto-detecting parser is packaged when the detector and the parser that it is made of are. -/
theorem packaged_autoDetectParser (cls : ClassRef) {parts : AutoParts}
    (hdetector : parts.detector.Packaged) (hparser : parts.parser.Packaged Detector.Packaged) :
    (autoDetectParser cls parts).Packaged Detector.Packaged := by
  refine .composite ?_ ?_ (.leaf trivial)
  · rintro d ⟨⟩
    exact hdetector
  · intro child hchild
    rw [List.mem_singleton.mp hchild]
    exact hparser

namespace MediaConfig

/-- **Auto-detection depends on the remaining bytes only.**  In every configuration whose detector
    and parser are trees of packaged ones, and for all metadata: of any two streams of which the
    same bytes are left, wherever they stand and whether they can go back or not, the auto-detecting
    parser makes the same content or fails alike, reports the same and leaves the same metadata. -/
theorem autoDetectParser_of_remaining (config : MediaConfig)
    (hdetector : config.detector.Packaged) (hparser : config.parser.Packaged Detector.Packaged)
    (m : Metadata) {s s' : Stream} (h : s.remaining = s'.remaining) :
    Parser.parse (some s) m config.autoDetectParser
      = Parser.parse (some s') m config.autoDetectParser := by
  have hknown : config.autoDetectParser.Packaged Detector.Packaged :=
    packaged_autoDetectParser Parser.autoClass hdetector hparser
  have hrest : Parser.SameRest (some s) (some s') := congrArg some h
  exact Parser.parse_of_remaining hknown hrest m

/-- The packaged repository as a detector, and one that tells text from other bytes. -/
def lookingDetector : Detector :=
  .composite Detector.compositeClass Repository.Packaged.repository.registry
    [.repository Detector.repositoryClass Repository.Packaged.repository,
     .leaf Detector.textClass (.textual 512)]

/-- A configuration whose parser holds one for text and one for markup, which detects again. -/
def lookingConfig : MediaConfig where
  repository := Repository.Packaged.repository
  detector := lookingDetector
  parser :=
    .composite Parser.compositeClass none Repository.Packaged.repository.registry
      [.leaf Parser.textClass (.plainText .listed),
       MediaGraph.autoDetectParser Parser.autoClass
         ⟨.empty, lookingDetector,
          Parser.withTypes (.leaf Parser.xmlClass (.markup .listed)) [.applicationXml]⟩]
      [] Parser.nothing
  translator := .leaf Translator.emptyClass true Translator.identity
  source := "looking"

/-- A text in the middle of a stream, and the same text in a stream that cannot go back, come out
    alike; so do a stream that stands behind its end and an empty one. -/
theorem autoDetectParser_of_remaining_looking :
    lookingConfig.detector.Packaged ∧ lookingConfig.parser.Packaged Detector.Packaged ∧
    (Parser.parse (some ⟨[0, 0, 0x68, 0x69], 2, true⟩) .empty
        lookingConfig.autoDetectParser).content.result
      = .ok ⟨"hi", ⟨[(contentTypeKey, "text/plain")]⟩⟩ ∧
    Parser.parse (some ⟨[0, 0, 0x68, 0x69], 2, true⟩) .empty lookingConfig.autoDetectParser
      = Parser.parse (some ⟨[0x68, 0x69], 0, false⟩) .empty lookingConfig.autoDetectParser ∧
    Parser.parse (some ⟨[0x68], 7, true⟩) .empty lookingConfig.autoDetectParser
      = Parser.parse (some ⟨[], 0, false⟩) .empty lookingConfig.autoDetectParser := by
  have hdetector : lookingDetector.Packaged := by
    refine .composite ?_
    simp only [List.forall_mem_cons]
    exact ⟨.repository, .leaf trivial, nofun⟩
  have hparser : lookingConfig.parser.Packaged Detector.Packaged := by
    refine .plain ?_ (.leaf trivial)
    simp only [List.forall_mem_cons]
    exact ⟨.leaf trivial,
      packaged_autoDetectParser _ hdetector (.decorator (.leaf trivial)), nofun⟩
  have hfound : (Parser.parse (some ⟨[0, 0, 0x68, 0x69], 2, true⟩) .empty
      lookingConfig.autoDetectParser).content.result
        = .ok ⟨"hi", ⟨[(contentTypeKey, "text/plain")]⟩⟩ :=
    toOption_eq_some.mp (by decide +kernel)
  exact ⟨hdetector, hparser, hfound,
    autoDetectParser_of_remaining lookingConfig hdetector hparser .empty rfl,
    autoDetectParser_of_remaining lookingConfig hdetector hparser .empty rfl⟩

end MediaConfig

end MediaGraph
