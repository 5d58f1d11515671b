import MediaGraph.Config.Capability
import MediaGraph.Proofs.Parser.Route

namespace MediaGraph.Parser

/-!
# Excluded classes

A composite drops the children of the classes that it excludes.  It looks at a child and at the
parser inside the decorators of the child, and at nothing that a child holds.  Dispatch goes deeper:
a child may be a composite that holds other parsers, which nobody has looked at again.

* `Composes` — the two ways to build a composite with exclusions.
* `Constructed` — the trees that can be built.
* `Screened` — the invariant: no composite of a tree holds a child that it excludes.
* `not_excluded_of_route` — the composite that hands a document to a leaf does not exclude it.
* `route_of_excluded` — how a leaf of an excluded class can still be reached.
* `excluded_leaf_runs` — a leaf that is reached in spite of its class.
-/

/-! ### Trees of parsers -/

/-- A composite of some parsers without those of the excluded classes: from the constructor, or from
    a class that is given children. -/
inductive Composes (excluded : List ClassRef) (parsers : List Parser) : Parser → Parser → Prop where
  | constructor {cls registry fallback p}
      (built : (composeParser cls registry parsers excluded fallback).result = .ok p) :
      Composes excluded parsers fallback p
  | fromChildren {i registry p}
      (built : (Config.Capability.holdChildren i registry parsers excluded).result = .ok p) :
      Composes excluded parsers nothing p

/-- The trees of leaves, decorators and composites that can be built. -/
inductive Constructed : Parser → Prop where
  | leaf {cls job} : Constructed (.leaf cls job)
  | decorator {cls effect inner} (wrapped : Constructed inner) :
      Constructed (.decorator cls effect inner)
  | bundle {cls registry children fallback inner} (held : ∀ child ∈ children, Constructed child)
      (other : Constructed fallback) (wrapped : Constructed inner) :
      Constructed (.bundle cls registry children fallback inner)
  | composite {excluded parsers fallback p} (held : ∀ child ∈ parsers, Constructed child)
      (other : Constructed fallback) (built : Composes excluded parsers fallback p) :
      Constructed p
  | automatic {cls parts} (held : Constructed parts.parser) :
      Constructed (autoDetectParser cls parts)

/-- No composite that a document can pass holds a child that it excludes. -/
inductive Screened : Parser → Prop where
  | leaf {cls job} : Screened (.leaf cls job)
  | decorator {cls effect inner} (wrapped : Screened inner) :
      Screened (.decorator cls effect inner)
  | bundle {cls registry children fallback inner} (wrapped : Screened inner) :
      Screened (.bundle cls registry children fallback inner)
  | composite {cls detector registry children excluded fallback}
      (kept : ∀ child ∈ children, child.isExcluded excluded = false)
      (held : ∀ child ∈ children, Screened child) (other : Screened fallback) :
      Screened (.composite cls detector registry children excluded fallback)

/-! ### What building a tree preserves -/

variable {excluded : List ClassRef} {parsers : List Parser} {fallback p : Parser}

/-- Either way of composing keeps the parsers that are not excluded. -/
theorem Composes.eq_composite (h : Composes excluded parsers fallback p) :
    ∃ cls registry, p = .composite cls none registry
      (parsers.filter fun p => !p.isExcluded excluded) excluded fallback := by
  cases h with
  | @constructor cls registry _ _ built =>
    rw [result_composeParser] at built
    exact ⟨cls, registry, (Except.ok.inj built).symm⟩
  | @fromChildren i registry _ built =>
    unfold Config.Capability.holdChildren at built
    split at built
    · rw [result_composeParser] at built
      exact ⟨i.cls, registry, (Except.ok.inj built).symm⟩
    all_goals exact absurd built (by simp [Traced.fail])

/-- Every tree that can be built is screened. -/
theorem Constructed.screened (h : Constructed p) : Screened p := by
  induction h with
  | leaf => exact .leaf
  | decorator _ ih => exact .decorator ih
  | bundle _ _ _ _ _ ih => exact .bundle ih
  | automatic _ ih =>
    refine .composite ?_ ?_ .leaf
    · simp [isExcluded, ClassRef.derivesFromAny]
    · simpa using ih
  | composite _ _ built ihHeld ihOther =>
    obtain ⟨cls, registry, rfl⟩ := built.eq_composite
    refine .composite ?_ ?_ ihOther
    · intro child hchild
      simpa using (List.mem_filter.mp hchild).2
    · intro child hchild
      exact ihHeld child (List.mem_filter.mp hchild).1

/-! ### Where a document goes -/

/-- A leaf that is reached without passing a composite is the innermost parser. -/
theorem Route.innermost_eq {s m p hops finish cls job s' m'} (h : Route s m p hops finish)
    (hhops : hops = []) (hfinish : finish = .leaf cls job s' m') : p.innermost = .leaf cls job := by
  induction h with
  | leaf =>
    cases hfinish
    rfl
  | decorator _ ih => exact ih hhops hfinish
  | bundle _ ih => exact ih hhops hfinish
  | undetected => cases hfinish
  | child => cases hhops
  | fallback => cases hhops

/-- **The last composite decides.**  In a screened tree, the composite that hands a document to a
    leaf as to one of its children does not exclude the class of the leaf. -/
theorem not_excluded_of_route {s m p hops finish cls job s' m'} (h : Route s m p hops finish)
    (hp : Screened p) (hfinish : finish = .leaf cls job s' m') {last : Hop}
    (hlast : hops.getLast? = some last) (hdirect : last.viaFallback = false) :
    cls.derivesFromAny last.excluded = false := by
  -- Induction on the route: its last composite is met where nothing is left of the route below.
  induction h with
  | leaf => cases hlast
  | undetected => cases hlast
  | decorator _ ih =>
    cases hp with
    | decorator wrapped => exact ih wrapped hfinish hlast
  | bundle _ ih =>
    cases hp with
    | bundle wrapped => exact ih wrapped hfinish hlast
  | @child _ _ _ _ _ _ _ _ _ _ _ child hops _ _ _ found rest ih =>
    cases hp with
    | composite kept held _ =>
      have hmem : child ∈ _ := List.mem_of_getElem? found
      cases hops with
      | nil =>
        -- The child is a leaf inside decorators, and both ends of it were looked at.
        cases hlast
        have hkept := kept child hmem
        rw [isExcluded, Route.innermost_eq rest rfl hfinish, Bool.or_eq_false_iff] at hkept
        exact hkept.2
      | cons hop hops =>
        rw [List.getLast?_cons_cons] at hlast
        exact ih (held child hmem) hfinish hlast
  | @fallback _ _ _ _ _ _ _ _ _ _ hops _ _ _ rest ih =>
    cases hp with
    | composite _ _ other =>
      cases hops with
      | nil =>
        cases hlast
        cases hdirect
      | cons hop hops =>
        rw [List.getLast?_cons_cons] at hlast
        exact ih other hfinish hlast

/-- Below a composite that detects nothing, every route passes the composite first. -/
theorem Route.hops_of_composite {s m cls registry children hops finish}
    (h : Route s m (.composite cls none registry children excluded fallback) hops finish) :
    ∃ viaFallback rest, hops = ⟨excluded, viaFallback⟩ :: rest := by
  cases h with
  | undetected prepared => cases prepared
  | child => exact ⟨_, _, rfl⟩
  | fallback => exact ⟨_, _, rfl⟩

/-- **What exclusion guarantees.**  In a composite that is built with excluded classes, over any
    trees, every document has a route, which decides what comes of it.  If a leaf of an excluded
    class ends the route, it was handed the document as a fallback, or by a nested composite that
    does not itself exclude the class. -/
theorem route_of_excluded (hp : Composes excluded parsers fallback p)
    (hparsers : ∀ child ∈ parsers, Constructed child) (hfallback : Constructed fallback)
    (s : Option Stream) (m : Metadata) :
    (∃ hops finish, Route s m p hops finish) ∧
      ∀ hops finish, Route s m p hops finish →
        Parsed.outcome (parse s m p) = finish.outcome ∧
          ∀ cls job s' m', finish = .leaf cls job s' m' →
            ∀ e ∈ excluded, cls.derivesFrom e = true →
              ∃ last, hops.getLast? = some last ∧
                (last.viaFallback = true ∨ 1 < hops.length ∧ e ∉ last.excluded) := by
  refine ⟨exists_route p s m, fun hops finish h => ⟨h.parse_eq, ?_⟩⟩
  intro cls job s' m' hfinish e he hcls
  have hscreened : Screened p := (Constructed.composite hparsers hfallback hp).screened
  obtain ⟨own, registry, rfl⟩ := hp.eq_composite
  obtain ⟨viaFallback, rest, rfl⟩ := h.hops_of_composite
  obtain ⟨last, hlast⟩ : ∃ last, (Hop.mk excluded viaFallback :: rest).getLast? = some last :=
    ⟨_, List.getLast?_eq_some_getLast (List.cons_ne_nil _ _)⟩
  refine ⟨last, hlast, ?_⟩
  cases hvia : last.viaFallback with
  | true => exact .inl rfl
  | false =>
    have hfree := not_excluded_of_route h hscreened hfinish hlast hvia
    -- The composite that hands the document over does not exclude the class of the leaf.
    have hnot : e ∉ last.excluded := by
      intro hmem
      have hany : cls.derivesFromAny last.excluded = true := List.any_eq_true.mpr ⟨e, hmem, hcls⟩
      rw [hfree] at hany
      cases hany
    refine .inr ⟨?_, hnot⟩
    cases rest with
    | nil =>
      cases hlast
      exact absurd he hnot
    | cons hop hops => simp

/-! ### An excluded class below a nested composite -/

/-- A parser of plain text. -/
def textLeaf : Parser := .leaf textClass (.plainText .listed)

/-- A composite that holds it. -/
def heldText : Parser := .composite compositeClass none .empty [textLeaf] [] nothing

/-- A composite that excludes the parser of plain text, around one that holds it. -/
def nestedText : Parser := .composite compositeClass none .empty [heldText] [textClass] nothing

/-- The metadata of a document that is declared as plain text. -/
def declaredText : Metadata := ⟨[(contentTypeKey, "text/plain")]⟩

/-- A document of plain text. -/
def greeting : Stream := .ofBytes (Text.Utf8.encode "hello")

/-- Parsers of plain text in three guises: by itself, inside a decorator, and held by a composite
    inside a decorator. -/
def guises : List Parser :=
  [textLeaf, textLeaf.withTypes [.textPlain], heldText.withTypes [.textPlain]]

/-- What is left of them where parsers of plain text are excluded. -/
def guardedText : Parser :=
  .composite compositeClass none .empty [heldText.withTypes [.textPlain]] [textClass] nothing

/-- Through the outer composite and the one in the last guise. -/
def guisedWay : List Hop := [⟨[textClass], false⟩, ⟨[], false⟩]

/-- Only the last guise is left, and through it the document still gets to an excluded parser: by no
    fallback, but from a nested composite that excludes nothing. -/
theorem route_of_excluded_guises :
    Composes [textClass] guises nothing guardedText ∧ (∀ child ∈ guises, Constructed child) ∧
      Constructed nothing ∧
      Route (some greeting) declaredText guardedText guisedWay
        (.leaf textClass (.plainText .listed) (some greeting) declaredText) ∧
      Parsed.outcome (parse (some greeting) declaredText guardedText)
        = (Job.plainText .listed).run (some greeting.remaining) declaredText ∧
      textClass.derivesFrom textClass = true ∧
      ∃ last, guisedWay.getLast? = some last ∧
        (last.viaFallback = true ∨ 1 < guisedWay.length ∧ textClass ∉ last.excluded) := by
  have hcomposes : Composes [textClass] guises nothing guardedText :=
    .constructor (by rw [result_composeParser]; rfl)
  have hbuilt : (composeParser compositeClass .empty [textLeaf] [] nothing).result
      = .ok heldText := by
    rw [result_composeParser]
    rfl
  have hheld : Constructed heldText :=
    .composite (fun _ hchild => List.mem_singleton.mp hchild ▸ .leaf) .leaf (.constructor hbuilt)
  have hguises : ∀ child ∈ guises, Constructed child := by
    simp only [guises, List.mem_cons, List.not_mem_nil, or_false, forall_eq_or_imp, forall_eq]
    exact ⟨.leaf, .decorator .leaf, .decorator hheld⟩
  have hroute : Route (some greeting) declaredText guardedText guisedWay
      (.leaf textClass (.plainText .listed) (some greeting) declaredText) :=
    .child (i := 0) rfl (by decide) rfl (.decorator (.child (i := 0) rfl (by decide) rfl .leaf))
  have hself : textClass.derivesFrom textClass = true := by decide
  obtain ⟨houtcome, hlast⟩ :=
    (route_of_excluded hcomposes hguises .leaf (some greeting) declaredText).2 _ _ hroute
  exact ⟨hcomposes, hguises, .leaf, hroute, houtcome, hself,
    hlast _ _ _ _ rfl textClass (List.mem_singleton_self _) hself⟩

/-- The document gets through both composites, by no fallback, to the parser that the outer one
    excludes. -/
theorem excluded_leaf_runs :
    Composes [textClass] [heldText] nothing nestedText ∧
      Route (some greeting) declaredText nestedText [⟨[textClass], false⟩, ⟨[], false⟩]
        (.leaf textClass (.plainText .listed) (some greeting) declaredText) ∧
      Parsed.outcome (parse (some greeting) declaredText nestedText)
        = (Job.plainText .listed).run (some greeting.remaining) declaredText ∧
      textClass.derivesFromAny [textClass] = true := by
  have hbuilt : (composeParser compositeClass .empty [heldText] [textClass] nothing).result
      = .ok nestedText := by
    rw [result_composeParser]
    rfl
  have hroute : Route (some greeting) declaredText nestedText
      [⟨[textClass], false⟩, ⟨[], false⟩]
      (.leaf textClass (.plainText .listed) (some greeting) declaredText) :=
    .child (i := 0) rfl (by decide) rfl (.child (i := 0) rfl (by decide) rfl .leaf)
  exact ⟨.constructor hbuilt, hroute, hroute.parse_eq, by decide⟩

end MediaGraph.Parser
