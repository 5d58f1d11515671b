import Mathlib.Data.List.Forall2
import Mathlib.Data.List.Perm.Basic
import MediaGraph.Traced

namespace MediaGraph

/-!
# Which failures come out

Loading promises one kind of failure, problems of the configuration.  Any other failure escapes.
This file says where an escaping failure comes from:

* `Escapes` — a failure that comes out although it is no problem of the configuration.
* `escapes_bind` — it comes out of a sequence at the first step or after it.
* `FailsOnly` — the ways in which a result can fail.
* `AtFirst` — something holds of the first item that does not pass.
* `loop_eq_error_iff`, `escapes_loop` — a loop fails, and a failure escapes from it, at the first
  item that does not pass.
* `loop_eq_ok_iff` — a loop that collects values gives one for each item, in their order.
* `mapM_eq_ok_iff_forall₂`, `exists_mapM_of_perm` — so does a pass, and in another order the same.
-/

variable {α β : Type} {f : Failure}

/-- Whether a failure is a problem of the configuration. -/
def Failure.isConfiguration : Failure → Bool
  | .configuration .. => true
  | _ => false

/-- A problem of the configuration has a problem and perhaps a cause. -/
theorem Failure.isConfiguration_iff :
    f.isConfiguration = true ↔ ∃ problem cause, f = .configuration problem cause := by
  cases f <;> simp [isConfiguration]

/-- What comes from outside is no problem of the configuration. -/
theorem Failure.isConfiguration_of_isForeign (hf : f.isForeign = true) :
    f.isConfiguration = false := by
  cases f <;> first | rfl | cases hf

/-- Whether `f` comes out of a result although it is no problem of the configuration. -/
def Escapes (f : Failure) (r : Except Failure α) : Prop :=
  r = .error f ∧ f.isConfiguration = false

/-- Whether a result is a value or a problem of the configuration. -/
def Contained (r : Except Failure α) : Prop :=
  (∃ a, r = .ok a) ∨ ∃ problem cause, r = .error (.configuration problem cause)

/-- A result is contained when nothing escapes from it. -/
theorem contained_iff {r : Except Failure α} : Contained r ↔ ∀ f, ¬ Escapes f r := by
  cases r with
  | ok a => simp [Contained, Escapes]
  | error g =>
    have hg : (∃ problem cause, g = .configuration problem cause) ↔
        ¬ g.isConfiguration = false := by
      rw [← Failure.isConfiguration_iff, Bool.not_eq_false]
    simp only [Contained, Escapes, reduceCtorEq, exists_false, false_or, Except.error.injEq, hg]
    constructor
    · rintro h f ⟨rfl, hf⟩
      exact h hf
    · intro h hf
      exact h g ⟨rfl, hf⟩

/-! ### Results -/

@[simp] theorem escapes_ok {a : α} : ¬ Escapes f (.ok a : Except Failure α) := by simp [Escapes]

@[simp] theorem escapes_pure {a : α} : ¬ Escapes f (pure a : Except Failure α) := escapes_ok

@[simp] theorem escapes_configuration {problem : ConfigProblem} {cause : Option Failure} :
    ¬ Escapes f (.error (.configuration problem cause) : Except Failure α) := by
  rintro ⟨h, hf⟩
  cases h
  cases hf

/-- A sequence succeeds when both of its steps do. -/
theorem bind_eq_ok {r : Except Failure α} {k : α → Except Failure β} {b : β} :
    r >>= k = .ok b ↔ ∃ a, r = .ok a ∧ k a = .ok b := by
  cases r <;> simp [bind, Except.bind]

/-- A sequence fails at the first step, or after the first step succeeded. -/
theorem bind_eq_error {r : Except Failure α} {k : α → Except Failure β} :
    r >>= k = .error f ↔ r = .error f ∨ ∃ a, r = .ok a ∧ k a = .error f := by
  cases r <;> simp [bind, Except.bind]

/-- A result that gives a value is that value. -/
theorem toOption_eq_some {r : Except Failure α} {a : α} : r.toOption = some a ↔ r = .ok a := by
  cases r <;> simp [Except.toOption]

/-- A result that gives no value is a failure. -/
theorem toOption_eq_none {r : Except Failure α} : r.toOption = none ↔ ∃ f, r = .error f := by
  cases r <;> simp [Except.toOption]

/-- A result that is no failure is a value. -/
theorem exists_ok_of_ne_error {r : Except Failure α} (h : ∀ f, r ≠ .error f) : ∃ a, r = .ok a := by
  cases r with
  | ok a => exact ⟨a, rfl⟩
  | error f => exact absurd rfl (h f)

/-- A failure escapes from a sequence at the first step, or after the first step succeeded. -/
theorem escapes_bind {r : Except Failure α} {k : α → Except Failure β} :
    Escapes f (r >>= k) ↔ Escapes f r ∨ ∃ a, r = .ok a ∧ Escapes f (k a) := by
  simp only [Escapes, bind_eq_error, or_and_right, ← exists_and_right, and_assoc]

/-- A replacement fails with what takes the place of a failure. -/
theorem mapError_eq_error {ε ε' : Type} {r : Except ε α} {k : ε → ε'} {g : ε'} :
    r.mapError k = .error g ↔ ∃ h, r = .error h ∧ k h = g := by
  cases r <;> simp [Except.mapError]

/-- A failure escapes from a replacement when the replacement is no problem of the
    configuration. -/
theorem escapes_mapError {r : Except Failure α} {k : Failure → Failure} :
    Escapes f (r.mapError k) ↔
      ∃ g, r = .error g ∧ k g = f ∧ f.isConfiguration = false := by
  simp only [Escapes, mapError_eq_error, ← exists_and_right, and_assoc]

/-- A value is the same whatever failures are replaced by. -/
theorem mapError_eq_ok {ε ε' : Type} {r : Except ε α} {k : ε → ε'} {a : α} :
    r.mapError k = .ok a ↔ r = .ok a := by
  cases r <;> simp [Except.mapError]

/-- Nothing escapes where every failure is made a problem of the configuration. -/
theorem not_escapes_mapError {r : Except Failure α} {k : Failure → Failure}
    (h : ∀ g, (k g).isConfiguration = true) : ¬ Escapes f (r.mapError k) := by
  rw [escapes_mapError]
  rintro ⟨g, -, rfl, hg⟩
  rw [h g] at hg
  cases hg

/-! ### The ways in which something can fail -/

/-- Whether a result, if it is a failure, is one of a kind. -/
def FailsOnly (P : Failure → Prop) (r : Except Failure α) : Prop := ∀ g, r = .error g → P g

section

variable {P : Failure → Prop}

theorem failsOnly_ok {a : α} : FailsOnly P (.ok a : Except Failure α) := nofun

theorem failsOnly_error (h : P f) : FailsOnly P (.error f : Except Failure α) := by
  rintro _ ⟨⟩
  exact h

/-- A sequence fails in the ways of its steps. -/
theorem failsOnly_bind {r : Except Failure α} {k : α → Except Failure β} (hr : FailsOnly P r)
    (hk : ∀ a, FailsOnly P (k a)) : FailsOnly P (r >>= k) := by
  cases r with
  | error g => exact failsOnly_error (hr g rfl)
  | ok a => exact hk a

theorem failsOnly_map {r : Except Failure α} {k : α → β} (hr : FailsOnly P r) :
    FailsOnly P (r.map k) := by
  cases r with
  | error g => exact failsOnly_error (hr g rfl)
  | ok a => exact failsOnly_ok

/-- A pass over a list fails in the ways of its steps. -/
theorem failsOnly_mapM {k : α → Except Failure β} {as : List α}
    (hk : ∀ a ∈ as, FailsOnly P (k a)) : FailsOnly P (as.mapM k) := by
  induction as with
  | nil => exact failsOnly_ok
  | cons a as ih =>
    rw [List.mapM_cons]
    refine failsOnly_bind (hk a List.mem_cons_self) fun b => ?_
    refine failsOnly_bind (ih fun c hc => hk c (List.mem_cons_of_mem _ hc)) fun bs => ?_
    exact failsOnly_ok

end

/-! ### Computations -/

namespace Traced

@[simp] theorem result_report (level : Level) (text : String) :
    (report level text).result = .ok () := rfl

@[simp] theorem result_ofExcept (r : Except Failure α) : (ofExcept r).result = r := rfl

@[simp] theorem result_fail (f : Failure) : (fail f : Traced α).result = .error f := rfl

@[simp] theorem result_mapFailure (k : Failure → Failure) (x : Traced α) :
    (x.mapFailure k).result = x.result.mapError k := rfl

@[simp] theorem result_attempt (x : Traced α) : x.attempt.result = .ok x.result := rfl

/-- What follows a report decides the result. -/
@[simp] theorem result_report_bind (level : Level) (text : String) (k : Unit → Traced β) :
    (report level text >>= k).result = (k ()).result := rfl

/-- Computations are the same when their results and their records are. -/
theorem eq_of {x y : Traced α} (hr : x.result = y.result) (hl : x.records = y.records) :
    x = y := by
  cases x
  cases y
  simp_all

/-- Steps may be grouped in any way. -/
theorem bind_assoc' {γ : Type} (x : Traced α) (k : α → Traced β) (l : β → Traced γ) :
    x >>= k >>= l = x >>= fun a => k a >>= l := by
  change andThen (andThen x k) l = andThen x fun a => andThen (k a) l
  unfold andThen
  cases x.result with
  | error g => rfl
  | ok a =>
    dsimp only
    cases (k a).result <;> simp only [List.append_assoc]

instance : LawfulMonad Traced :=
  LawfulMonad.mk' Traced
    (by
      intro α x
      change andThen x ok = x
      unfold andThen
      cases hx : x.result with
      | error g => exact eq_of hx.symm rfl
      | ok a => exact eq_of hx.symm (List.append_nil _))
    (fun a k => eq_of rfl (List.nil_append _))
    bind_assoc'

end Traced

/-- A sequence of computations succeeds when both of them do. -/
theorem result_bind_eq_ok {x : Traced α} {k : α → Traced β} {b : β} :
    (x >>= k).result = .ok b ↔ ∃ a, x.result = .ok a ∧ (k a).result = .ok b := by
  rw [Traced.result_bind, bind_eq_ok]

/-- A sequence of computations fails at the first, or after the first succeeded. -/
theorem result_bind_eq_error {x : Traced α} {k : α → Traced β} :
    (x >>= k).result = .error f ↔
      x.result = .error f ∨ ∃ a, x.result = .ok a ∧ (k a).result = .error f := by
  rw [Traced.result_bind, bind_eq_error]

/-- A failure escapes from a sequence of computations at the first, or after the first
    succeeded. -/
theorem escapes_result_bind {x : Traced α} {k : α → Traced β} :
    Escapes f (x >>= k).result ↔
      Escapes f x.result ∨ ∃ a, x.result = .ok a ∧ Escapes f (k a).result := by
  rw [Traced.result_bind, escapes_bind]

/-! ### Loops -/

/-- Whether `fails` holds of the first item for which `passes` does not, or earlier. -/
inductive AtFirst (passes fails : α → Prop) : List α → Prop where
  | here {a as} (h : fails a) : AtFirst passes fails (a :: as)
  | later {a as} (h : passes a) (rest : AtFirst passes fails as) : AtFirst passes fails (a :: as)

variable {passes fails : α → Prop}

@[simp] theorem not_atFirst_nil : ¬ AtFirst passes fails [] := nofun

theorem atFirst_cons {a : α} {as : List α} :
    AtFirst passes fails (a :: as) ↔ fails a ∨ passes a ∧ AtFirst passes fails as := by
  constructor
  · rintro (h | ⟨h, rest⟩)
    · exact .inl h
    · exact .inr ⟨h, rest⟩
  · rintro (h | ⟨h, rest⟩)
    · exact .here h
    · exact .later h rest

/-- Something fails at the first item that does not pass when all items in front of it pass. -/
theorem atFirst_iff {as : List α} :
    AtFirst passes fails as ↔
      ∃ before a after, as = before ++ a :: after ∧ (∀ b ∈ before, passes b) ∧ fails a := by
  constructor
  · intro h
    induction h with
    | @here a as h => exact ⟨[], a, as, rfl, nofun, h⟩
    | @later a as h _ ih =>
      obtain ⟨before, b, after, rfl, hbefore, hb⟩ := ih
      exact ⟨a :: before, b, after, rfl, List.forall_mem_cons.mpr ⟨h, hbefore⟩, hb⟩
  · rintro ⟨before, a, after, rfl, hbefore, ha⟩
    induction before with
    | nil => exact .here ha
    | cons b before ih =>
      obtain ⟨hb, hbefore⟩ := List.forall_mem_cons.mp hbefore
      exact .later hb (ih hbefore)

/-- Something fails at the first item only if it fails at some item. -/
theorem AtFirst.exists_mem {as : List α} (h : AtFirst passes fails as) : ∃ a ∈ as, fails a := by
  obtain ⟨before, a, after, rfl, -, ha⟩ := atFirst_iff.mp h
  exact ⟨a, List.mem_append_right before List.mem_cons_self, ha⟩

section

variable {γ : Type} {loop : List α → Traced β} {step : α → Traced γ} {join : γ → β → β}

/-- A loop that takes one step for each item fails as the step of an item does, where the steps in
    front succeed. -/
theorem loop_eq_error_iff (nil : (loop []).result ≠ .error f)
    (cons : ∀ a as, loop (a :: as) = do
      let c ← step a
      return join c (← loop as))
    {as : List α} :
    (loop as).result = .error f ↔
      AtFirst (fun a => ∃ c, (step a).result = .ok c) (fun a => (step a).result = .error f)
        as := by
  induction as with
  | nil => simp [nil]
  | cons a as ih =>
    -- The first step decides, unless it succeeds and leaves it to the rest of the loop.
    rw [cons, atFirst_cons, ← ih]
    simp only [result_bind_eq_error, Traced.result_pure, reduceCtorEq, and_false, exists_false,
      or_false, exists_and_right]

/-- In such a loop a failure escapes when it escapes from the step of an item and the steps in front
    succeed. -/
theorem escapes_loop (nil : ¬ Escapes f (loop []).result)
    (cons : ∀ a as, loop (a :: as) = do
      let c ← step a
      return join c (← loop as))
    (as : List α) :
    Escapes f (loop as).result ↔
      AtFirst (fun a => ∃ c, (step a).result = .ok c) (fun a => Escapes f (step a).result) as := by
  cases hf : f.isConfiguration with
  | true =>
    simp only [Escapes, hf, Bool.true_eq_false, and_false, false_iff]
    exact fun h => h.exists_mem.elim fun _ => And.right
  | false =>
    simp only [Escapes, hf, and_true] at nil ⊢
    exact loop_eq_error_iff nil cons

/-- Such a loop succeeds when all of its steps do. -/
theorem loop_succeeds (nil : ∃ b, (loop []).result = .ok b)
    (cons : ∀ a as, loop (a :: as) = do
      let c ← step a
      return join c (← loop as))
    (as : List α) :
    (∃ b, (loop as).result = .ok b) ↔ ∀ a ∈ as, ∃ c, (step a).result = .ok c := by
  induction as with
  | nil => simp [nil]
  | cons a as ih =>
    rw [List.forall_mem_cons, ← ih, cons]
    simp only [result_bind_eq_ok, Traced.result_pure]
    constructor
    · rintro ⟨_, c, hc, b, hb, -⟩
      exact ⟨⟨c, hc⟩, b, hb⟩
    · rintro ⟨⟨c, hc⟩, b, hb⟩
      exact ⟨join c b, c, hc, b, hb, rfl⟩

/-- A loop that collects a value for each item succeeds with the values of its steps, in the order
    of the items. -/
theorem loop_eq_ok_iff {loop : List α → Traced (List β)} {value : γ → β}
    (nil : (loop []).result = .ok [])
    (cons : ∀ a as, loop (a :: as) = do
      let c ← step a
      return value c :: (← loop as))
    {as : List α} {bs : List β} :
    (loop as).result = .ok bs ↔
      List.Forall₂ (fun a b => ∃ c, (step a).result = .ok c ∧ value c = b) as bs := by
  induction as generalizing bs with
  | nil =>
    rw [nil, Except.ok.injEq, List.forall₂_nil_left_iff]
    exact eq_comm
  | cons a as ih =>
    rw [cons, List.forall₂_cons_left_iff]
    simp only [result_bind_eq_ok, Traced.result_pure, Except.ok.injEq]
    constructor
    · rintro ⟨c, hc, rest, hrest, rfl⟩
      exact ⟨value c, rest, ⟨c, hc, rfl⟩, ih.mp hrest, rfl⟩
    · rintro ⟨_, rest, ⟨c, hc, rfl⟩, hrest, rfl⟩
      exact ⟨c, hc, rest, ih.mpr hrest, rfl⟩

end

/-! ### Passes over lists -/

section

variable {γ : Type} {step : α → Except Failure β} {as as' : List α} {bs : List β}

/-- A pass over a list gives one value for each item, in their order. -/
theorem mapM_eq_ok_iff_forall₂ :
    as.mapM step = .ok bs ↔ List.Forall₂ (fun a b => step a = .ok b) as bs := by
  induction as generalizing bs with
  | nil =>
    rw [List.mapM_nil, List.forall₂_nil_left_iff]
    exact ⟨fun h => (Except.ok.inj h).symm, fun h => h ▸ rfl⟩
  | cons a as ih =>
    rw [List.mapM_cons, List.forall₂_cons_left_iff]
    simp only [bind_eq_ok, ih]
    constructor
    · rintro ⟨b, hb, bs, hbs, ⟨⟩⟩
      exact ⟨b, bs, hb, hbs, rfl⟩
    · rintro ⟨b, bs, hb, hbs, rfl⟩
      exact ⟨b, hb, bs, hbs, rfl⟩

/-- A pass over the same items in another order gives the same values in another order. -/
theorem exists_mapM_of_perm (hperm : as.Perm as') (h : as.mapM step = .ok bs) :
    ∃ bs', as'.mapM step = .ok bs' ∧ bs.Perm bs' := by
  obtain ⟨bs', hbs', hbs⟩ := List.perm_comp_forall₂ hperm.symm (mapM_eq_ok_iff_forall₂.mp h)
  exact ⟨bs', mapM_eq_ok_iff_forall₂.mpr hbs', hbs.symm⟩

/-- What can be read off each item by itself is read off the values in their order. -/
theorem filterMap_eq_map_of_mapM {g : α → Option γ} {k : β → γ}
    (hread : ∀ a b, step a = .ok b → g a = some (k b)) (h : as.mapM step = .ok bs) :
    as.filterMap g = bs.map k := by
  have hall := mapM_eq_ok_iff_forall₂.mp h
  clear h
  induction hall with
  | nil => rfl
  | cons hab _ ih => rw [List.filterMap_cons_some (hread _ _ hab), List.map_cons, ih]

end

end MediaGraph
