import MediaGraph.Failure.Basic
import MediaGraph.Record

namespace MediaGraph

/-!
# Results with a log

A computation gives a result or a failure, and in either case the records that it reported on
the way.

* `Traced.attempt` — the result as a value, so that a failure can be handled.
* `Traced.records_bind` — records of a sequence: those of its parts, one after another.
-/

/-- A result or a failure, and what was reported before it. -/
structure Traced (α : Type) where
  result : Except Failure α
  records : List Record

namespace Traced

/-- A value, with nothing reported. -/
def ok {α : Type} (a : α) : Traced α := ⟨.ok a, []⟩

/-- A failure, with nothing reported. -/
def fail {α : Type} (f : Failure) : Traced α := ⟨.error f, []⟩

/-- One computation after another; nothing follows a failure. -/
def andThen {α β : Type} (x : Traced α) (f : α → Traced β) : Traced β :=
  match x.result with
  | .error e => ⟨.error e, x.records⟩
  | .ok a => ⟨(f a).result, x.records ++ (f a).records⟩

/-- A computation of any type can fail. -/
instance {α : Type} : Inhabited (Traced α) := ⟨fail .wrongType⟩

instance : Monad Traced where
  pure := ok
  bind := andThen

/-- Reports a message. -/
def report (level : Level) (text : String) : Traced Unit := ⟨.ok (), [⟨level, text⟩]⟩

/-- Reports some records. -/
def reportAll (records : List Record) : Traced Unit := ⟨.ok (), records⟩

/-- A result or failure that is already known. -/
def ofExcept {α : Type} (e : Except Failure α) : Traced α := ⟨e, []⟩

/-- The result or failure of a computation, as a value. -/
def attempt {α : Type} (x : Traced α) : Traced (Except Failure α) := ⟨.ok x.result, x.records⟩

/-- The computation with its failure, if it has one, replaced. -/
def mapFailure {α : Type} (f : Failure → Failure) (x : Traced α) : Traced α :=
  ⟨x.result.mapError f, x.records⟩

/-- A value is its own result. -/
@[simp] theorem result_pure {α : Type} (a : α) : (pure a : Traced α).result = .ok a := rfl

/-- A value reports nothing. -/
@[simp] theorem records_pure {α : Type} (a : α) : (pure a : Traced α).records = [] := rfl

/-- The result of two steps is the result of the second on that of the first. -/
theorem result_bind {α β : Type} (x : Traced α) (f : α → Traced β) :
    (x >>= f).result = x.result >>= fun a => (f a).result := by
  change (andThen x f).result = _
  rw [andThen]
  cases x.result <;> rfl

/-- Where the first step succeeds, the records of both follow one another. -/
theorem records_bind {α β : Type} (x : Traced α) (f : α → Traced β) {a : α}
    (h : x.result = .ok a) : (x >>= f).records = x.records ++ (f a).records := by
  change (andThen x f).records = _
  rw [andThen, h]

end Traced

end MediaGraph
