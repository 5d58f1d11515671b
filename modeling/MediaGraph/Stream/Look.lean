import MediaGraph.Stream.Basic
import MediaGraph.Traced

namespace MediaGraph

/-!
# Looking at a stream

`Look α` is a computation that may look at a stream (or has none), reports what it does, and hands
the stream on.
-/

/-- A computation that looks at a stream and hands it on. -/
structure Look (α : Type) where
  run : Option Stream → Traced α × Option Stream

namespace Look

/-- A value, without a look. -/
def ok {α : Type} (a : α) : Look α := ⟨fun s => (Traced.ok a, s)⟩

/-- One look after another; nothing follows a failure. -/
def andThen {α β : Type} (x : Look α) (f : α → Look β) : Look β :=
  ⟨fun s =>
    let (first, s') := x.run s
    match first.result with
    | .error e => (⟨.error e, first.records⟩, s')
    | .ok a =>
      let (second, s'') := (f a).run s'
      (⟨second.result, first.records ++ second.records⟩, s'')⟩

instance : Monad Look where
  pure := ok
  bind := andThen

/-- Reports a message. -/
def report (level : Level) (text : String) : Look Unit :=
  ⟨fun s => (Traced.report level text, s)⟩

/-- A result or failure that is already known. -/
def ofExcept {α : Type} (e : Except Failure α) : Look α := ⟨fun s => (Traced.ofExcept e, s)⟩

/-- Whether there is a stream. -/
def hasStream : Look Bool := ⟨fun s => (Traced.ok s.isSome, s)⟩

/-- The next bytes: none when there is no stream. -/
def peek (length : Int) : Look Bytes :=
  ⟨fun
    | none => (Traced.ok [], none)
    | some s => (Traced.ofExcept (s.peek length).1, some (s.peek length).2)⟩

end Look

end MediaGraph
