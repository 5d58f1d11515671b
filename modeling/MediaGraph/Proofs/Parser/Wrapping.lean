import MediaGraph.Parser.Packaged
import MediaGraph.Proofs.Parser.Route
import MediaGraph.Proofs.Registry.Canonical

namespace MediaGraph.Parser

/-!
# A composite around a composite

A composite that is the only child of another one is looked up twice: the outer table asks whether
the inner composite advertises a type on the way up, the inner table which of its children does.
Where both are over one registry and what the inner one advertises is canonical, the two walks stop
at the same type.

* `Canonical`, `canonical_types_composite` — advertised types that normalizing leaves alone.
* `ClaimedPlainly` — a type that is not advertised under another name only.
* `choose_singleton_eq_none_iff` — the outer lookup fails exactly when the inner one does.
* `dispatched`, `outcome_parse_composite` — the parser that a composite hands a document to.
* `outcome_parse_wrapped`, `mem_types_wrapped` — the outer composite makes of a document what the
  inner one does, and advertises the same.
* `outcomeDetected`, `outcome_parse_detecting` — with a detector, it makes of a document what the
  inner one makes of it after its detected type is declared.
-/

variable {registry : Registry} {children : List Parser} {fallback p : Parser} {key : MediaType}

/-! ### Canonical types -/

/-- Whether all advertised types are their own canonical types. -/
def Canonical (registry : Registry) (advertised : TypeSet) : Prop :=
  ∀ v ∈ advertised, registry.normalize v = v

/-- Whether a type is claimed exactly where it is advertised itself, and not under another name. -/
def ClaimedPlainly (registry : Registry) (advertised : TypeSet) (key : MediaType) : Prop :=
  Claims registry advertised key ↔ key ∈ advertised

/-- Canonical types are claimed where they are advertised. -/
theorem Canonical.claims_iff {advertised : TypeSet} (h : Canonical registry advertised) :
    Claims registry advertised key ↔ key ∈ advertised := by
  constructor
  · rintro ⟨v, hv, rfl⟩
    rw [h v hv]
    exact hv
  · intro hkey
    exact ⟨key, hkey, h key hkey⟩

/-- What a composite advertises is canonical where no alias stands for another one. -/
theorem canonical_types_composite (hr : registry.Settled) (cls : ClassRef)
    (detector : Option Detector) (children : List Parser) (excluded : List ClassRef)
    (fallback : Parser) :
    Canonical registry
      (Parser.composite cls detector registry children excluded fallback).types := by
  intro v hv
  obtain ⟨-, -, u, -, rfl⟩ := (mem_types_composite ..).mp hv
  exact Registry.normalize_normalize hr u

/-! ### One lookup in another -/

/-- A type that an only child does not claim is claimed by none. -/
theorem unclaimed_singleton : Unclaimed registry [p] key ↔ ¬ Claims registry p.types key := by
  simp [Unclaimed]

/-- A composite claims what some child of it claims. -/
theorem unclaimed_singleton_composite {cls : ClassRef} {detector : Option Detector}
    {excluded : List ClassRef}
    (h : Canonical registry
      (Parser.composite cls detector registry children excluded fallback).types) :
    Unclaimed registry [.composite cls detector registry children excluded fallback] key ↔
      Unclaimed registry children key := by
  rw [unclaimed_singleton, h.claims_iff, mem_types_composite]
  simp [Unclaimed]

/-- **One lookup in another.**  The lookup in a composite around a composite fails exactly when the
    lookup in the inner one does. -/
theorem choose_singleton_eq_none_iff {cls : ClassRef} {detector : Option Detector}
    {excluded : List ClassRef}
    (h : Canonical registry
      (Parser.composite cls detector registry children excluded fallback).types)
    (t : Option MediaType) :
    choose registry [.composite cls detector registry children excluded fallback] t = none ↔
      choose registry children t = none := by
  cases t with
  | none => exact Iff.rfl
  | some t => simp only [choose_eq_none_iff, unclaimed_singleton_composite h]

/-! ### Handing a document over -/

/-- The parser that a composite hands a document with this metadata to. -/
def dispatched (registry : Registry) (children : List Parser) (fallback : Parser) (m : Metadata) :
    Parser :=
  ((chooseFor registry children m).bind (children[·]?)).getD fallback

/-- Where no child is chosen, the document goes to the fallback. -/
theorem dispatched_of_chooseFor_none {m : Metadata} (h : chooseFor registry children m = none) :
    dispatched registry children fallback m = fallback := by
  rw [dispatched, h, Option.bind_none, Option.getD_none]

/-- Where a child is chosen and there is only one, the document goes to that one. -/
theorem dispatched_singleton {m : Metadata} (h : chooseFor registry [p] m ≠ none) :
    dispatched registry [p] fallback m = p := by
  obtain ⟨i, hi⟩ := Option.ne_none_iff_exists'.mp h
  obtain ⟨child, hchild⟩ := getElem?_of_chooseFor hi
  rw [dispatched, hi, Option.bind_some, hchild, Option.getD_some]
  exact List.mem_singleton.mp (List.mem_of_getElem? hchild)

/-- **What a composite does with a document**: it hands the prepared document over. -/
theorem outcome_parse_composite {cls : ClassRef} {detector : Option Detector}
    {excluded : List ClassRef} {s s' : Option Stream} {m m' : Metadata}
    (prepared : (prepare detector s m).result = .ok (s', m')) :
    Parsed.outcome (parse s m (.composite cls detector registry children excluded fallback))
      = Parsed.outcome (parse s' m' (dispatched registry children fallback m')) := by
  simp only [parse, prepared, parseNth_eq_map, dispatched]
  cases hchoice : chooseFor registry children m' with
  | none => rfl
  | some i =>
    obtain ⟨child, hchild⟩ := getElem?_of_chooseFor hchoice
    simp only [hchild, Option.map_some, Option.bind_some, Option.getD_some]
    rfl

/-- A document that cannot be prepared fails, and its metadata stays. -/
theorem outcome_parse_unprepared {cls : ClassRef} {detector : Option Detector}
    {excluded : List ClassRef} {s : Option Stream} {m : Metadata} {f : Failure}
    (unprepared : (prepare detector s m).result = .error f) :
    Parsed.outcome (parse s m (.composite cls detector registry children excluded fallback))
      = (.error f, m) := by
  simp only [parse, unprepared, Parsed.outcome]

/-! ### A composite around a composite -/

/-- What comes of a document at a parser after the type of the document is detected and declared. -/
def outcomeDetected (d : Detector) (s : Stream) (m : Metadata) (p : Parser) :
    Except Failure Content × Metadata :=
  let (sighting, after) := (d.detect m).run (some s.ensureSeekable)
  match sighting.result with
  | .error f => (.error f, m)
  | .ok t => Parsed.outcome (parse after (m.put contentTypeKey t.render) p)

section

variable {outerClass innerClass : ClassRef} {outerExcluded innerExcluded : List ClassRef}
  (h : Canonical registry
    (Parser.composite innerClass none registry children innerExcluded fallback).types)

include h

/-- What a composite hands over to a composite inside comes to what the inner one makes of it, also
    where it goes to the fallback, which both have in common. -/
theorem outcome_parse_dispatched (s : Option Stream) (m : Metadata) :
    Parsed.outcome (parse s m (dispatched registry
        [.composite innerClass none registry children innerExcluded fallback] fallback m))
      = Parsed.outcome
          (parse s m (.composite innerClass none registry children innerExcluded fallback)) := by
  by_cases hnone : chooseFor registry
      [.composite innerClass none registry children innerExcluded fallback] m = none
  · have hinner : chooseFor registry children m = none :=
      (choose_singleton_eq_none_iff h _).mp hnone
    rw [dispatched_of_chooseFor_none hnone, outcome_parse_composite rfl,
      dispatched_of_chooseFor_none hinner]
  · rw [dispatched_singleton hnone]

/-- **Wrapping makes no difference** to what comes of a document. -/
theorem outcome_parse_wrapped (s : Option Stream) (m : Metadata) :
    Parsed.outcome (parse s m (.composite outerClass none registry
        [.composite innerClass none registry children innerExcluded fallback]
        outerExcluded fallback))
      = Parsed.outcome
          (parse s m (.composite innerClass none registry children innerExcluded fallback)) := by
  rw [outcome_parse_composite rfl, outcome_parse_dispatched h]

/-- **Wrapping with a detector** detects the type, declares it and makes no further difference. -/
theorem outcome_parse_detecting (d : Detector) (s : Stream) (m : Metadata) :
    Parsed.outcome (parse (some s) m (.composite outerClass (some d) registry
        [.composite innerClass none registry children innerExcluded fallback]
        outerExcluded fallback))
      = outcomeDetected d s m
          (.composite innerClass none registry children innerExcluded fallback) := by
  unfold outcomeDetected
  cases hsighting : ((d.detect m).run (some s.ensureSeekable)).1.result with
  | error f =>
    have unprepared : (prepare (some d) (some s) m).result = .error f := by
      simp only [prepare, hsighting]
    simp only [outcome_parse_unprepared unprepared, hsighting]
  | ok t =>
    have prepared : (prepare (some d) (some s) m).result
        = .ok (((d.detect m).run (some s.ensureSeekable)).2, m.put contentTypeKey t.render) := by
      simp only [prepare, hsighting]
    simp only [outcome_parse_composite prepared, outcome_parse_dispatched h, hsighting]

/-- Wrapping makes no difference to the advertised types. -/
theorem mem_types_wrapped (detector : Option Detector) (t : MediaType) :
    t ∈ (Parser.composite outerClass detector registry
        [.composite innerClass none registry children innerExcluded fallback]
        outerExcluded fallback).types ↔
      t ∈ (Parser.composite innerClass none registry children innerExcluded fallback).types := by
  rw [mem_types_composite]
  simp only [List.mem_singleton, exists_eq_left, h.claims_iff]

end

end MediaGraph.Parser
