import MediaGraph.Parser.Packaged
import MediaGraph.Proofs.Detector.Looking
import MediaGraph.Proofs.Parser.Route

namespace MediaGraph

/-!
# Trees of packaged parsers

In a tree of packaged parsers a document ends its way at one of three known jobs, or where a
detector of the tree fails.  A composite without a detector hands on the metadata as it is, so in a
tree without detectors only the leaf decides what becomes of the metadata.

* `Parser.Packaged` — trees of packaged parsers, over some allowed detectors.
* `Parser.Route.finish_of_some` — where the way of a document ends.
* `Parser.Route.finish_of_undetecting` — without detectors, a leaf is given what the tree is given.
* `Metadata.Completes` — metadata to which a missing type was added, and nothing else.
* `Parser.completes_of_parse` — what parsing does to the metadata.
-/

/-- Whether a job is packaged, and not an implementation's own. -/
def Job.Packaged : Job → Prop
  | .custom .. => False
  | _ => True

namespace Parser

/-- The trees of packaged parsers whose detectors are all allowed. -/
inductive Packaged (allowed : Detector → Prop) : Parser → Prop where
  | leaf {cls job} (known : job.Packaged) : Packaged allowed (.leaf cls job)
  | decorator {cls effect inner} (wrapped : Packaged allowed inner) :
      Packaged allowed (.decorator cls effect inner)
  | composite {cls detector registry children excluded fallback}
      (detects : ∀ d ∈ detector, allowed d) (held : ∀ child ∈ children, Packaged allowed child)
      (other : Packaged allowed fallback) :
      Packaged allowed (.composite cls detector registry children excluded fallback)

/-- The trees of packaged parsers none of which detects a type. -/
abbrev Undetecting (p : Parser) : Prop := p.Packaged fun _ => False

/-- A composite without a detector is packaged when its parsers are. -/
theorem Packaged.plain {allowed : Detector → Prop} {cls registry children excluded fallback}
    (held : ∀ child ∈ children, Packaged allowed child) (other : Packaged allowed fallback) :
    Packaged allowed (.composite cls none registry children excluded fallback) :=
  .composite (fun _ hd => by cases hd) held other

/-- The parsers that take part in the default parser by themselves are packaged. -/
theorem packaged_of_mem_packaged {allowed : Detector → Prop} {codecs : Codecs} {child : Parser}
    (h : child ∈ packaged codecs) : child.Packaged allowed := by
  simp only [packaged, List.mem_cons, List.not_mem_nil, or_false] at h
  rcases h with rfl | rfl
  · exact .leaf trivial
  · exact .leaf trivial

/-! ### What a composite hands over -/

/-- With a detector, a composite hands over a stream that can go back and the detected type. -/
theorem result_prepare_some (d : Detector) (s : Stream) (m : Metadata) :
    (prepare (some d) (some s) m).result
      = (d.answer (some s.ensureSeekable) m).map fun t =>
          (some s.ensureSeekable, m.put contentTypeKey t.render) := by
  have hkeeps : ((d.detect m).run (some s.ensureSeekable)).2 = some s.ensureSeekable :=
    Detector.keeps_detect m d _
  unfold prepare Detector.answer Look.result
  dsimp only
  rw [hkeeps]
  cases ((d.detect m).run (some s.ensureSeekable)).1.result <;> rfl

/-! ### Where the way of a document ends -/

section

variable {allowed : Detector → Prop} {p : Parser} {m : Metadata} {hops : List Hop}
  {finish : Finish}

/-- A composite that is given a document hands over a document. -/
theorem exists_stream_of_prepare {detector : Option Detector} {s : Stream} {s' : Option Stream}
    {m' : Metadata} (h : (prepare detector (some s) m).result = .ok (s', m')) :
    ∃ stream, s' = some stream := by
  cases detector with
  | none =>
    cases h
    exact ⟨s, rfl⟩
  | some d =>
    rw [result_prepare_some] at h
    cases hanswer : d.answer (some s.ensureSeekable) m with
    | error f =>
      rw [hanswer] at h
      cases h
    | ok t =>
      rw [hanswer] at h
      cases h
      exact ⟨s.ensureSeekable, rfl⟩

/-- **Where the way of a document ends** in a tree of packaged parsers: at a leaf with a known job,
    or where a detector of the tree fails on a stream that can go back. -/
theorem Route.finish_of_some {s : Stream} (h : Route (some s) m p hops finish)
    (known : p.Packaged allowed) :
    (∃ cls job stream m', job.Packaged ∧ finish = .leaf cls job (some stream) m') ∨
      ∃ f m' d stream, allowed d ∧ d.answer (some (Stream.ensureSeekable stream)) m' = .error f ∧
        finish = .undetected f m' := by
  -- Induction on the route, for every document that a composite on it may hand over.
  generalize hs : some s = given at h
  induction h generalizing s with
  | leaf =>
    subst hs
    cases known with
    | leaf known => exact .inl ⟨_, _, s, _, known, rfl⟩
  | decorator _ ih =>
    cases known with
    | decorator wrapped => exact ih wrapped hs
  | bundle => cases known
  | @undetected _ m _ detector _ _ _ _ f prepared =>
    subst hs
    cases known with
    | composite detects _ _ =>
      cases detector with
      | none => cases prepared
      | some d =>
        rw [result_prepare_some] at prepared
        cases hanswer : d.answer (some s.ensureSeekable) m with
        | ok t =>
          rw [hanswer] at prepared
          cases prepared
        | error f =>
          rw [hanswer] at prepared
          cases prepared
          exact .inr ⟨_, m, d, s, detects d rfl, hanswer, rfl⟩
  | child prepared _ found _ ih =>
    subst hs
    cases known with
    | composite _ held _ =>
      obtain ⟨stream, hstream⟩ := exists_stream_of_prepare prepared
      exact ih (held _ (List.mem_of_getElem? found)) hstream.symm
  | fallback prepared _ _ ih =>
    subst hs
    cases known with
    | composite _ _ other =>
      obtain ⟨stream, hstream⟩ := exists_stream_of_prepare prepared
      exact ih other hstream.symm

/-- **Where no type is detected**, the way of every document, and of none, ends at a leaf with a
    known job, which is given what the tree is given. -/
theorem Route.finish_of_undetecting {s : Option Stream} (h : Route s m p hops finish)
    (known : p.Undetecting) : ∃ cls job, job.Packaged ∧ finish = .leaf cls job s m := by
  -- A composite that can have no detector hands over what it is given.
  have hnone : ∀ detector : Option Detector, (∀ d ∈ detector, False) → detector = none := by
    intro detector hdetector
    cases detector with
    | none => rfl
    | some d => exact (hdetector d rfl).elim
  induction h with
  | leaf =>
    cases known with
    | leaf known => exact ⟨_, _, known, rfl⟩
  | decorator _ ih =>
    cases known with
    | decorator wrapped => exact ih wrapped
  | bundle => cases known
  | undetected prepared =>
    cases known with
    | composite detects _ _ =>
      rw [hnone _ detects] at prepared
      cases prepared
  | child prepared _ found _ ih =>
    cases known with
    | composite detects held _ =>
      rw [hnone _ detects] at prepared
      cases prepared
      exact ih (held _ (List.mem_of_getElem? found))
  | fallback prepared _ _ ih =>
    cases known with
    | composite detects _ other =>
      rw [hnone _ detects] at prepared
      cases prepared
      exact ih other

end

end Parser

/-! ### What becomes of the metadata -/

/-- Whether metadata is what it was, or had no declared type and was given that of a packaged parser
    as its last entry. -/
def Metadata.Completes (before after : Metadata) : Prop :=
  after = before ∨ before.get? contentTypeKey = none ∧
    ∃ t ∈ [MediaType.textPlain, MediaType.applicationXml],
      after.entries = before.entries ++ [(contentTypeKey, t.render)]

namespace Job

variable {t : MediaType} {text : Except Failure String} {c : Content} {m m' : Metadata}

/-- Declaring a type hands out the metadata that it leaves behind, a missing type filled in. -/
theorem completes_of_declaring (ht : t ∈ [MediaType.textPlain, MediaType.applicationXml])
    (h : declaring t m text = (.ok c, m')) : c.metadata = m' ∧ m.Completes m' := by
  cases text with
  | error f => cases h
  | ok text =>
    cases h
    refine ⟨rfl, ?_⟩
    -- A declared type is kept; a missing one goes to the end.
    cases hdeclared : m.get? contentTypeKey with
    | some v => exact .inl (Assoc.putNew_of_get? hdeclared _)
    | none => exact .inr ⟨hdeclared, t, ht, Assoc.entries_putNew_of_get? hdeclared _⟩

/-- Where there is no text, no type is declared. -/
theorem eq_of_declaring {f : Failure} (h : declaring t m text = (.error f, m')) : m' = m := by
  cases text with
  | error f => cases h; rfl
  | ok text => cases h

variable {job : Job} {bytes : Option Bytes}

/-- A known job hands out the metadata that it leaves behind. -/
theorem completes_of_run (known : job.Packaged) (h : job.run bytes m = (.ok c, m')) :
    c.metadata = m' ∧ m.Completes m' := by
  cases job with
  | nothing =>
    cases h
    exact ⟨rfl, .inl rfl⟩
  | plainText =>
    cases bytes with
    | none => cases h
    | some bytes => exact completes_of_declaring (by decide) h
  | markup =>
    cases bytes with
    | none => cases h
    | some bytes => exact completes_of_declaring (by decide) h
  | custom => exact known.elim

/-- A known job that fails leaves the metadata as it was. -/
theorem eq_of_run {f : Failure} (known : job.Packaged) (h : job.run bytes m = (.error f, m')) :
    m' = m := by
  cases job with
  | nothing => cases h
  | plainText =>
    cases bytes with
    | none => cases h; rfl
    | some bytes => exact eq_of_declaring h
  | markup =>
    cases bytes with
    | none => cases h; rfl
    | some bytes => exact eq_of_declaring h
  | custom => exact known.elim

end Job

namespace Parser

/-- **Parsing completes the metadata, and does no more.**  In every tree of packaged parsers without
    detectors, for every document and every metadata: content comes with the metadata that the
    caller is left with, which is what it was, or lacked a declared type and has that of plain text
    or of markup added at its end; a failure leaves the metadata as it was. -/
theorem completes_of_parse (p : Parser) (known : p.Undetecting) (s : Option Stream)
    (m : Metadata) :
    (∀ c, (parse s m p).content.result = .ok c →
      c.metadata = (parse s m p).metadata ∧ m.Completes (parse s m p).metadata) ∧
    ∀ f, (parse s m p).content.result = .error f → (parse s m p).metadata = m := by
  obtain ⟨hops, finish, hroute⟩ := exists_route p s m
  obtain ⟨cls, job, hjob, rfl⟩ := hroute.finish_of_undetecting known
  have hrun : job.run (s.map Stream.remaining) m
      = ((parse s m p).content.result, (parse s m p).metadata) := hroute.parse_eq.symm
  constructor
  · intro c hc
    rw [hc] at hrun
    exact Job.completes_of_run hjob hrun
  · intro f hf
    rw [hf] at hrun
    exact Job.eq_of_run hjob hrun

/-- Filters of types around a leaf and around a composite, below a composite whose fallback is the
    parser of markup. -/
def filteredTree : Parser :=
  .composite compositeClass none .empty
    [withTypes (.leaf textClass (.plainText .listed)) [.applicationXml],
      withoutTypes (.composite defaultClass none .empty (packaged .listed) [] nothing)
        [.applicationXml]]
    [] (.leaf xmlClass (.markup .listed))

/-- What the tree makes of a text without a declared type. -/
def filtered (text : String) : Parsed :=
  parse (some (.ofBytes (Text.Utf8.encode text))) .empty filteredTree

/-- A document without a declared type gets to the fallback, which adds the type when it finds
    markup and leaves the metadata alone when it does not. -/
theorem completes_of_parse_filtered :
    filteredTree.Undetecting ∧
    (filtered "<a>x</a>").content.result = .ok ⟨"x", ⟨[(contentTypeKey, "application/xml")]⟩⟩ ∧
    (filtered "<a>x</a>").metadata = ⟨[(contentTypeKey, "application/xml")]⟩ ∧
    (∃ f, (filtered "<a>x").content.result = .error f) ∧ (filtered "<a>x").metadata = .empty := by
  have hfirst : (withTypes (.leaf textClass (.plainText .listed)) [.applicationXml]).Undetecting :=
    .decorator (.leaf trivial)
  have hsecond : (withoutTypes (.composite defaultClass none .empty (packaged .listed) [] nothing)
      [.applicationXml]).Undetecting :=
    .decorator (.plain (fun _ => packaged_of_mem_packaged) (.leaf trivial))
  have htree : filteredTree.Undetecting := by
    refine .plain ?_ (.leaf trivial)
    intro child hchild
    simp only [List.mem_cons, List.not_mem_nil, or_false] at hchild
    rcases hchild with rfl | rfl
    · exact hfirst
    · exact hsecond
  have hfound : (filtered "<a>x</a>").content.result
      = .ok ⟨"x", ⟨[(contentTypeKey, "application/xml")]⟩⟩ :=
    toOption_eq_some.mp (by decide +kernel)
  obtain ⟨f, hfailed⟩ : ∃ f, (filtered "<a>x").content.result = .error f :=
    toOption_eq_none.mp (by decide +kernel)
  exact ⟨htree, hfound, ((completes_of_parse filteredTree htree _ _).1 _ hfound).1.symm,
    ⟨f, hfailed⟩, (completes_of_parse filteredTree htree _ _).2 f hfailed⟩

end Parser

end MediaGraph
