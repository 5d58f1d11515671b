import Mathlib.Data.List.Chain
import Mathlib.Data.List.Forall2
import Mathlib.Data.List.Nodup
import Mathlib.Data.List.Perm.Subperm
import Mathlib.Data.List.Range
import MediaGraph.Failure.Basic
import MediaGraph.Failure.Graph

namespace MediaGraph

/-!
# Chains through any links

A chain leads from an incident to its cause, or else to its context.  Nothing keeps the links from
leading in circles, so the loop that follows them goes by what it has passed: it ends where nothing
follows, or where an incident would come again.

* `IncidentGraph.Loop` — the loop: the incidents that it passes, without a bound on their number.
* `IncidentGraph.IsWalk` — the incidents on a chain, told without following it.
* `IncidentGraph.loop_iff_isWalk` — the loop passes the incidents on the chain, and no others.
* `IncidentGraph.loop_walk` — the loop ends, and the walk of the graph is what it passes.
* `IncidentGraph.causeChain_of_closed` — the texts of a chain, for all links between incidents.
* `Failure.causeChain_incidents` — the chain of a failure is the chain of its incidents.
-/

namespace IncidentGraph

/-- Whether all links lead to incidents of the graph. -/
def Closed (g : IncidentGraph) : Prop :=
  ∀ i ∈ g, (∀ n ∈ i.cause, n < g.length) ∧ ∀ n ∈ i.context, n < g.length

/-- The number of the incident behind another one. -/
def next? (g : IncidentGraph) (n : Nat) : Option Nat := g[n]?.bind Incident.next?

/-- The loop of a chain from the current incident, when it has passed the incidents `seen`: those
    that it still passes.  There is no current incident behind the end of the links. -/
inductive Loop (g : IncidentGraph) : List Nat → Option Nat → List Nat → Prop
  | ended {seen : List Nat} : Loop g seen none []
  | repeated {seen : List Nat} {n : Nat} (h : n ∈ seen) : Loop g seen (some n) []
  | step {seen rest : List Nat} {n : Nat} (h : n ∉ seen)
      (later : Loop g (n :: seen) (g.next? n) rest) : Loop g seen (some n) (n :: rest)

/-- Whether `ns` are the incidents on the chain from `n`: it starts there, behind each incident
    comes its cause or else its context, none comes twice, and what follows the last one, if
    anything does, is on the chain already. -/
structure IsWalk (g : IncidentGraph) (n : Nat) (ns : List Nat) : Prop where
  starts : ns.head? = some n
  linked : ns.IsChain fun m k => g.next? m = some k
  nodup : ns.Nodup
  complete : ∀ last m, ns.getLast? = some last → g.next? last = some m → m ∈ ns

variable {g : IncidentGraph} {seen ns : List Nat} {n m : Nat}

/-- What is behind an incident of a closed graph is an incident of the graph. -/
theorem Closed.lt_length (hg : g.Closed) (h : g.next? n = some m) : m < g.length := by
  obtain ⟨i, hi, hnext⟩ := Option.bind_eq_some_iff.mp h
  obtain ⟨hcauses, hcontexts⟩ := hg i (List.mem_of_getElem? hi)
  have heither : i.cause = some m ∨ i.cause = none ∧ i.context = some m := by
    simpa [Incident.next?] using hnext
  rcases heither with hcause | ⟨-, hcontext⟩
  · exact hcauses m hcause
  · exact hcontexts m hcontext

/-! ### The loop and the chain -/

namespace Loop

variable {current : Option Nat}

/-- The loop passes the same incidents whenever it is run. -/
theorem unique {ns' : List Nat} (h : g.Loop seen current ns) (h' : g.Loop seen current ns') :
    ns' = ns := by
  induction h generalizing ns' with
  | ended =>
    cases h'
    rfl
  | repeated hmem =>
    cases h' with
    | repeated => rfl
    | step hnew => exact absurd hmem hnew
  | step hnew _ ih =>
    cases h' with
    | repeated hmem => exact absurd hmem hnew
    | step _ later => rw [ih later]

/-- No incident is passed twice, and none that was passed before. -/
theorem nodup (h : g.Loop seen current ns) : ns.Nodup ∧ ∀ m ∈ ns, m ∉ seen := by
  induction h with
  | ended => simp
  | repeated => simp
  | step hnew _ ih =>
    obtain ⟨hnodup, hrest⟩ := ih
    refine ⟨List.nodup_cons.mpr ⟨fun hmem => hrest _ hmem List.mem_cons_self, hnodup⟩, ?_⟩
    intro m hm
    rcases List.mem_cons.mp hm with rfl | hm
    · exact hnew
    · exact fun hseen => hrest m hm (List.mem_cons_of_mem _ hseen)

/-- What the loop passes from a new incident on starts there, follows the links, and leads back to
    what was passed where it does not end. -/
theorem follows (h : g.Loop seen current ns) (hcurrent : current = some n) (hnew : n ∉ seen) :
    ns.head? = some n ∧ (ns.IsChain fun m k => g.next? m = some k) ∧
      ∀ last m, ns.getLast? = some last → g.next? last = some m → m ∈ seen ∨ m ∈ ns := by
  induction h generalizing n with
  | ended => cases hcurrent
  | repeated hmem =>
    cases hcurrent
    exact absurd hmem hnew
  | @step seen rest k _ later ih =>
    cases hcurrent
    refine ⟨rfl, ?_⟩
    cases hnext : g.next? k with
    | none =>
      -- The links end at `k`.
      rw [hnext] at later
      cases later
      refine ⟨.singleton k, fun last m hlast hm => ?_⟩
      rw [List.getLast?_singleton, Option.some.injEq] at hlast
      rw [← hlast, hnext] at hm
      cases hm
    | some j =>
      by_cases hj : j ∈ k :: seen
      · -- The link of `k` leads back.
        rw [hnext] at later
        cases later with
        | step hfresh => exact absurd hj hfresh
        | repeated =>
          refine ⟨.singleton k, fun last m hlast hm => ?_⟩
          rw [List.getLast?_singleton, Option.some.injEq] at hlast
          rw [← hlast, hnext, Option.some.injEq] at hm
          subst hm
          exact (List.mem_cons.mp hj).symm.imp_right List.mem_singleton.mpr
      · obtain ⟨hhead, hlinked, hlast⟩ := ih hnext hj
        cases rest with
        | nil => cases hhead
        | cons _ rest =>
          cases hhead
          refine ⟨.cons_cons hnext hlinked, fun last m hmem hm => ?_⟩
          rw [List.getLast?_cons_cons] at hmem
          rcases hlast last m hmem hm with hseen | hrest
          · rcases List.mem_cons.mp hseen with rfl | hseen
            · exact .inr List.mem_cons_self
            · exact .inl hseen
          · exact .inr (List.mem_cons_of_mem k hrest)

/-- The incidents that are passed belong to the graph. -/
theorem lt_length (hg : g.Closed) (h : g.Loop seen current ns)
    (hcurrent : ∀ n, current = some n → n < g.length) : ∀ m ∈ ns, m < g.length := by
  induction h with
  | ended => exact nofun
  | repeated => exact nofun
  | @step seen rest n _ _ ih =>
    exact List.forall_mem_cons.mpr ⟨hcurrent n rfl, ih fun k => hg.lt_length⟩

end Loop

/-- A list that starts at the current incident, follows the links without coming to any incident
    twice, and leads back to what was passed where it does not end, is what the loop passes. -/
theorem loop_of_follows (hhead : ns.head? = some n)
    (hlinked : ns.IsChain fun m k => g.next? m = some k) (hnodup : ns.Nodup)
    (hfresh : ∀ m ∈ ns, m ∉ seen)
    (hlast : ∀ last m, ns.getLast? = some last → g.next? last = some m → m ∈ seen ∨ m ∈ ns) :
    g.Loop seen (some n) ns := by
  induction ns generalizing seen n with
  | nil => cases hhead
  | cons k rest ih =>
    cases hhead
    obtain ⟨hnotin, hnodup⟩ := List.nodup_cons.mp hnodup
    refine .step (hfresh k List.mem_cons_self) ?_
    cases rest with
    | nil =>
      cases hnext : g.next? k with
      | none => exact .ended
      | some j =>
        -- What follows the last incident was passed before, or is that incident itself.
        refine .repeated ?_
        rcases hlast k j rfl hnext with hmem | hmem
        · exact List.mem_cons_of_mem k hmem
        · exact List.mem_singleton.mp hmem ▸ List.mem_cons_self
    | cons j rest =>
      obtain ⟨hnext, hlinked⟩ := List.isChain_cons_cons.mp hlinked
      rw [hnext]
      refine ih rfl hlinked hnodup (fun m hm hseen => ?_) fun last m hmem hm => ?_
      · rcases List.mem_cons.mp hseen with rfl | hseen
        · exact hnotin hm
        · exact hfresh m (List.mem_cons_of_mem k hm) hseen
      · rw [← List.getLast?_cons_cons (a := k)] at hmem
        rcases hlast last m hmem hm with hseen | hrest
        · exact .inl (List.mem_cons_of_mem k hseen)
        · rcases List.mem_cons.mp hrest with rfl | hrest
          · exact .inl List.mem_cons_self
          · exact .inr hrest

/-- **The loop passes the incidents on the chain**, and no others. -/
theorem loop_iff_isWalk : g.Loop [] (some n) ns ↔ g.IsWalk n ns := by
  constructor
  · intro h
    obtain ⟨hhead, hlinked, hlast⟩ := h.follows rfl List.not_mem_nil
    refine ⟨hhead, hlinked, h.nodup.1, fun last m hmem hm => ?_⟩
    exact (hlast last m hmem hm).resolve_left List.not_mem_nil
  · intro h
    exact loop_of_follows h.starts h.linked h.nodup (fun _ _ => List.not_mem_nil)
      fun last m hmem hm => .inr (h.complete last m hmem hm)

/-! ### The end of the loop -/

/-- With as many steps as there are incidents that were not passed, a walk goes as far as the
    loop. -/
theorem loop_walkFrom (hg : g.Closed) {fuel : Nat} (hn : n < g.length) (hseen : seen.Nodup)
    (hbelow : ∀ m ∈ seen, m < g.length) (hfuel : g.length ≤ fuel + seen.length) :
    g.Loop seen (some n) (g.walkFrom seen fuel n) := by
  induction fuel generalizing seen n with
  | zero =>
    -- All incidents were passed, the current one among them.
    have hsubset : seen ⊆ List.range g.length := fun m hm => List.mem_range.mpr (hbelow m hm)
    have hperm : seen.Perm (List.range g.length) := by
      refine (List.subperm_of_subset hseen hsubset).perm_of_length_le ?_
      rw [List.length_range]
      omega
    exact .repeated (hperm.mem_iff.mpr (List.mem_range.mpr hn))
  | succ fuel ih =>
    rw [walkFrom]
    by_cases hmem : n ∈ seen
    · rw [if_pos hmem]
      exact .repeated hmem
    · rw [if_neg hmem, List.getElem?_eq_getElem hn]
      refine .step hmem ?_
      have hnext : g.next? n = g[n].next? := by
        rw [next?, List.getElem?_eq_getElem hn, Option.bind_some]
      rw [hnext]
      cases hk : g[n].next? with
      | none => exact .ended
      | some k =>
        refine ih (hg.lt_length (hnext.trans hk)) (List.nodup_cons.mpr ⟨hmem, hseen⟩)
          (List.forall_mem_cons.mpr ⟨hn, hbelow⟩) ?_
        rw [List.length_cons]
        omega

/-- **The loop ends**, wherever the links lead, and what it passes is the walk of the graph. -/
theorem loop_walk (hg : g.Closed) (hn : n < g.length) : g.Loop [] (some n) (g.walk n) :=
  loop_walkFrom hg hn .nil nofun (Nat.le_refl _)

/-! ### The texts of a chain -/

/-- Whether some texts tell of some incidents: there is one text for each incident, in their order,
    the first one bare, and those behind it with the kind of the incident in front. -/
inductive Tells (g : IncidentGraph) : List Nat → List String → Prop
  | mk {n : Nat} {i : Incident} {rest : List Nat} {texts : List String} (first : g[n]? = some i)
      (others : List.Forall₂ (fun m text => ∃ j, g[m]? = some j ∧
        text = j.kind ++ ": " ++ j.shown) rest texts) :
      Tells g (n :: rest) (i.shown :: texts)

/-- Numbers of incidents of the graph name one incident each. -/
theorem forall₂_filterMap (h : ∀ m ∈ ns, m < g.length) :
    List.Forall₂ (fun m i => g[m]? = some i) ns (ns.filterMap (g[·]?)) := by
  induction ns with
  | nil => exact .nil
  | cons m ns ih =>
    obtain ⟨hm, hns⟩ := List.forall_mem_cons.mp h
    have hfound : g[m]? = some g[m] := List.getElem?_eq_getElem hm
    rw [List.filterMap_cons_some hfound]
    exact .cons hfound (ih hns)

/-- The texts of a chain tell of the incidents that the walk passes. -/
theorem tells_causeChain (hstarts : (g.walk n).head? = some n)
    (hbelow : ∀ m ∈ g.walk n, m < g.length) : g.Tells (g.walk n) (g.causeChain n) := by
  have hfound := forall₂_filterMap hbelow
  unfold causeChain
  cases hwalk : g.walk n with
  | nil =>
    rw [hwalk] at hstarts
    cases hstarts
  | cons k rest =>
    rw [hwalk] at hfound
    obtain ⟨i, others, hi, hothers, heq⟩ := List.forall₂_cons_left_iff.mp hfound
    rw [heq]
    refine .mk hi ?_
    rw [List.forall₂_map_right_iff]
    exact hothers.imp fun m j hj => ⟨j, hj, rfl⟩

/-- Three incidents: the first is caused by the second, which came up while the third was handled,
    and that one is caused by the second again. -/
def entangled : IncidentGraph :=
  [⟨"ConfigurationError", "not loaded", some 1, some 2⟩, ⟨"ValueError", "", none, some 2⟩,
   ⟨"RuntimeError", "stuck", some 1, some 0⟩]

end IncidentGraph

/-! ### The chain of a failure -/

namespace Failure

/-- A failure as an incident: the one behind it was being handled when it arose, and is its cause
    unless it came up by itself. -/
def incident (f : Failure) (behind : Option Nat) : Incident :=
  match f with
  | .runtime .. => ⟨f.kindName, f.message, none, behind⟩
  | _ => ⟨f.kindName, f.message, behind, none⟩

/-- A failure and the failures behind it as incidents, outermost first. -/
def incidents (f : Failure) : IncidentGraph :=
  f.chain.mapIdx fun k g => g.incident (if k + 1 < f.chain.length then some (k + 1) else none)

variable {f : Failure} {behind : Option Nat} {k : Nat}

@[simp] theorem next?_incident : (f.incident behind).next? = behind := by
  cases f <;> simp [incident, Incident.next?]

@[simp] theorem shown_incident : (f.incident behind).shown = f.text := by
  cases f <;> rfl

@[simp] theorem entry_incident : (f.incident behind).entry = f.entry := by
  cases f <;> rfl

/-- The links of an incident lead to the one behind it. -/
theorem eq_of_link {n : Nat} (h : n ∈ (f.incident behind).cause ∨ n ∈ (f.incident behind).context) :
    behind = some n := by
  cases f <;> simpa [incident] using h

theorem length_incidents : f.incidents.length = f.chain.length := List.length_mapIdx

/-- A chain starts with the failure itself. -/
theorem length_chain_pos : 0 < f.chain.length := by
  fun_cases chain f <;> simp

/-- Behind each incident of a failure comes the next one. -/
theorem next?_incidents (h : k < f.chain.length) :
    f.incidents.next? k = if k + 1 < f.chain.length then some (k + 1) else none := by
  rw [IncidentGraph.next?, incidents, List.getElem?_mapIdx, List.getElem?_eq_getElem h]
  exact next?_incident

/-- The incidents of a failure are linked among themselves. -/
theorem closed_incidents : f.incidents.Closed := by
  intro i hi
  obtain ⟨k, hk, rfl⟩ := List.mem_mapIdx.mp hi
  have hlink : ∀ n, (if k + 1 < f.chain.length then some (k + 1) else none) = some n →
      n < f.incidents.length := by
    intro n hn
    split at hn
    · cases hn
      rwa [length_incidents]
    · cases hn
  exact ⟨fun n hn => hlink n (eq_of_link (.inl hn)), fun n hn => hlink n (eq_of_link (.inr hn))⟩

/-- The chain from the first incident of a failure passes all of them, in their order. -/
theorem walk_incidents : f.incidents.walk 0 = List.range f.chain.length := by
  have hpos : 0 < f.chain.length := length_chain_pos
  have hloop := IncidentGraph.loop_walk closed_incidents (length_incidents (f := f) ▸ hpos)
  obtain ⟨n, hn⟩ : ∃ n, f.chain.length = n + 1 := Nat.exists_eq_succ_of_ne_zero hpos.ne'
  refine (hloop.unique (IncidentGraph.loop_iff_isWalk.mpr ⟨?_, ?_, ?_, ?_⟩)).symm
  · rw [List.head?_range, if_neg hpos.ne']
  · rw [hn, List.isChain_range_succ]
    intro m hm
    rw [next?_incidents (by omega), if_pos (by omega)]
  · exact List.nodup_range
  · -- Behind the last incident there is none.
    intro last m hlast hm
    rw [List.getLast?_range, if_neg hpos.ne', Option.some.injEq] at hlast
    rw [next?_incidents (by omega), if_neg (by omega)] at hm
    cases hm

/-- The incidents that are found under their own numbers. -/
theorem filterMap_range_getElem? (g : IncidentGraph) :
    (List.range g.length).filterMap (g[·]?) = g := by
  induction g with
  | nil => rfl
  | cons i g ih =>
    have hfirst : (fun k => (i :: g)[k]?) 0 = some i := rfl
    rw [List.length_cons, List.range_succ_eq_map, List.filterMap_cons_some hfirst,
      List.filterMap_map]
    exact congrArg (i :: ·) ih

/-- Incidents are entries like their failures, whatever they are linked to. -/
theorem map_entry_mapIdx (behind : Nat → Option Nat) (gs : List Failure) :
    (gs.mapIdx fun k g => g.incident (behind k)).map Incident.entry = gs.map entry := by
  refine List.ext_getElem? fun k => ?_
  simp [Function.comp_def]

/-- **The chain of a failure** is the chain of its incidents. -/
theorem causeChain_incidents (f : Failure) : f.incidents.causeChain 0 = f.causeChain := by
  unfold IncidentGraph.causeChain causeChain
  rw [walk_incidents, ← length_incidents, filterMap_range_getElem?]
  unfold incidents
  cases f.chain with
  | nil => rfl
  | cons g gs =>
    rw [List.mapIdx_cons]
    dsimp only
    rw [shown_incident, map_entry_mapIdx]

end Failure

end MediaGraph
