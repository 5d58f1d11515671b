import MediaGraph.Registry.Draft

namespace MediaGraph

/-!
# Building registries step by step

In a session one draft is changed in place, frozen any number of times, and replaced by a draft of a
registry that was frozen before.  A step that is refused leaves behind what it has changed until
then.

* `Edit` — a step, and `Session.perform` — what it does.
* `Session.run` — the session after some steps, refused ones included.
* `Session.step_addAlias` — a refused alias has changed nothing.
-/

/-- A draft that is being changed, and the registries that were frozen, the latest one first. -/
structure Session where
  draft : Draft
  frozen : List Registry
  deriving Repr, DecidableEq

/-- A step of a session.  `thaw back` takes up the registry that was frozen `back` times before the
    latest one. -/
inductive Edit where
  | addType (t : MediaType)
  | addTypes (ts : List MediaType)
  | addAlias (t newName : MediaType)
  | addSupertype (t supertype : MediaType)
  | freeze
  | thaw (back : Nat)
  deriving Repr, DecidableEq

/-- The media types that a step is given. -/
def Edit.given : Edit → List MediaType
  | .addType t => [t]
  | .addTypes ts => ts
  | .addAlias t newName => [t, newName]
  | .addSupertype t supertype => [t, supertype]
  | .freeze => []
  | .thaw _ => []

namespace Session

/-- The session that begins with the draft without entries. -/
def start : Session := ⟨.empty, []⟩

/-- What is done in a session.  Where it is refused, the changes made until then stay. -/
abbrev Action := ExceptT AliasTaken (StateM Session)

/-- Changes the draft. -/
def change (f : Draft → Draft) : Action Unit := modify fun s => { s with draft := f s.draft }

/-- Adds another name for `t`.  Whether it belongs to another type is looked up first; then the
    canonical type is added, then the name. -/
def addAlias (t newName : MediaType) : Action Unit := do
  if let some owner := (← get).draft.aliases.get? newName.base then
    if owner ≠ t.base then throw ⟨newName, owner⟩
  change fun d => d.addType t
  change fun d => { d with aliases := d.aliases.put newName.base t.base }

/-- Records a supertype of `t`, which is added as a canonical type first. -/
def addSupertype (t supertype : MediaType) : Action Unit := do
  change fun d => d.addType t
  change fun d => { d with links := d.links.put t.base supertype.base }

/-- What a step does. -/
def perform : Edit → Action Unit
  | .addType t => change fun d => d.addType t
  | .addTypes ts => ts.forM fun t => change fun d => d.addType t
  | .addAlias t newName => addAlias t newName
  | .addSupertype t supertype => addSupertype t supertype
  | .freeze => modify fun s => { s with frozen := s.draft.freeze :: s.frozen }
  | .thaw back => modify fun s =>
    match s.frozen[back]? with
    | some r => { s with draft := r.thaw }
    | none => s

/-- How a step ends, and the session that it leaves. -/
def step (s : Session) (e : Edit) : Except AliasTaken Unit × Session := (perform e).run s

/-- The session after some steps, one after another, whether they were refused or not. -/
def run (s : Session) (edits : List Edit) : Session := edits.foldl (fun s e => (s.step e).2) s

/-! ### What the steps do -/

@[simp] theorem run_nil (s : Session) : s.run [] = s := rfl

@[simp] theorem run_cons (s : Session) (e : Edit) (edits : List Edit) :
    s.run (e :: edits) = (s.step e).2.run edits := rfl

theorem step_addType (s : Session) (t : MediaType) :
    s.step (.addType t) = (.ok (), { s with draft := s.draft.addType t }) := rfl

theorem step_addTypes (s : Session) (ts : List MediaType) :
    s.step (.addTypes ts) = (.ok (), { s with draft := s.draft.addTypes ts }) := by
  induction ts generalizing s with
  | nil => rfl
  | cons t ts ih => exact ih { s with draft := s.draft.addType t }

theorem step_addSupertype (s : Session) (t supertype : MediaType) :
    s.step (.addSupertype t supertype)
      = (.ok (), { s with draft := s.draft.addSupertype t supertype }) := rfl

theorem step_freeze (s : Session) :
    s.step .freeze = (.ok (), { s with frozen := s.draft.freeze :: s.frozen }) := rfl

theorem step_thaw (s : Session) (back : Nat) :
    s.step (.thaw back) = (.ok (),
      match s.frozen[back]? with
      | some r => { s with draft := r.thaw }
      | none => s) := rfl

/-- What is done after a look at the session is done with the session as it is. -/
theorem run_get_bind (f : Session → Action Unit) (s : Session) :
    ExceptT.run (do f (← get)) s = ExceptT.run (f s) s := rfl

/-- **A refused alias has changed nothing**; any other one is added as to a draft of its own. -/
theorem step_addAlias (s : Session) (t newName : MediaType) :
    s.step (.addAlias t newName) =
      match s.draft.addAlias t newName with
      | .ok d => (.ok (), { s with draft := d })
      | .error e => (.error e, s) := by
  rw [step, perform, addAlias, run_get_bind, Draft.addAlias]
  cases s.draft.aliases.get? newName.base with
  | none => rfl
  | some owner =>
    dsimp only
    split <;> rfl

end Session

end MediaGraph
