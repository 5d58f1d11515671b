import MediaGraph.Detector.Basic
import MediaGraph.Proofs.Traced

namespace MediaGraph

/-!
# Looking at a document

A detector looks at a stream and puts it back, so every child of a composite is asked about the
stream that the composite was asked about, and what a detector answers depends on nothing that was
asked before.

* `Look.Keeps` — a look that hands on the stream it was given; `Look.result` — what it finds.
* `Look.Keeps.result_bind` — what one look after another finds.
* `Detector.keeps_detect` — every detector hands on the stream it was given.
* `Detector.answer` — the type that a detector tells of a document.
-/

namespace Look

variable {α β : Type} {x : Look α} {s : Option Stream}

/-! ### Streams that are handed on -/

/-- Whether a look hands on the stream that it was given, also where it fails. -/
def Keeps (x : Look α) : Prop := ∀ s, (x.run s).2 = s

/-- What a look at a stream finds. -/
def result (x : Look α) (s : Option Stream) : Except Failure α := (x.run s).1.result

theorem keeps_pure (a : α) : (pure a : Look α).Keeps := fun _ => rfl

theorem keeps_report (level : Level) (text : String) : (report level text).Keeps := fun _ => rfl

theorem keeps_hasStream : hasStream.Keeps := fun _ => rfl

/-- Peeking puts the stream back. -/
theorem keeps_peek (length : Int) : (peek length).Keeps := by
  intro s
  cases s with
  | none => rfl
  | some s => exact congrArg some (s.peek_snd length)

/-- Looks that hand on the stream do so one after another. -/
theorem Keeps.bind {f : α → Look β} (hx : x.Keeps) (hf : ∀ a, (f a).Keeps) : (x >>= f).Keeps := by
  intro s
  change (andThen x f |>.run s).2 = s
  have hfirst : (x.run s).2 = s := hx s
  unfold andThen
  dsimp only
  cases (x.run s).1.result with
  | error e => exact hfirst
  | ok a =>
    rw [hfirst]
    exact hf a s

/-! ### What is found -/

@[simp] theorem result_pure (a : α) : (pure a : Look α).result s = .ok a := rfl

@[simp] theorem result_report (level : Level) (text : String) :
    (report level text).result s = .ok () := rfl

/-- Behind a look that hands on the stream, the next one finds what it finds of this stream. -/
theorem Keeps.result_bind (hx : x.Keeps) (f : α → Look β) (s : Option Stream) :
    (x >>= f).result s = x.result s >>= fun a => (f a).result s := by
  change ((andThen x f).run s).1.result = _
  have hfirst : (x.run s).2 = s := hx s
  unfold andThen result
  dsimp only
  rw [hfirst]
  cases (x.run s).1.result <;> rfl

end Look

/-! ### Detectors -/

/-- A leaf hands on the stream. -/
theorem Sense.keeps_detect (sense : Sense) (m : Metadata) : (sense.detect m).Keeps := by
  cases sense with
  | emptiness =>
    exact (Look.keeps_peek 1).bind fun _ => Look.keeps_hasStream.bind fun _ => Look.keeps_pure _
  | declared => exact Look.keeps_pure _
  | textual window => exact (Look.keeps_peek window).bind fun _ => Look.keeps_pure _
  | custom answer => exact fun _ => rfl

/-- A repository hands on the stream. -/
theorem Repository.keeps_detect (r : Repository) (m : Metadata) : (r.detect m).Keeps :=
  (Look.keeps_peek _).bind fun _ => (Look.keeps_report _ _).bind fun _ => Look.keeps_pure _

namespace Detector

mutual

/-- **A detector puts the stream back**, whatever tree of detectors it is. -/
theorem keeps_detect (m : Metadata) : ∀ d : Detector, (d.detect m).Keeps
  | .leaf _ sense => by
    rw [detect]
    exact sense.keeps_detect m
  | .repository _ rules => by
    rw [detect]
    exact rules.keeps_detect m
  | .composite _ registry children => by
    rw [detect]
    exact (keeps_detectAll m registry .octetStream children).bind fun _ =>
      (Look.keeps_report _ _).bind fun _ => Look.keeps_pure _

/-- So do detectors that are asked one after another. -/
theorem keeps_detectAll (m : Metadata) (registry : Registry) (guess : MediaType) :
    ∀ ds : List Detector, (detectAll m registry guess ds).Keeps
  | [] => by
    rw [detectAll]
    exact Look.keeps_pure guess
  | d :: ds => by
    rw [detectAll]
    exact (keeps_detect m d).bind fun _ => keeps_detectAll m registry _ ds

end

/-- The type that a detector tells of a document, or why it tells none. -/
def answer (d : Detector) (s : Option Stream) (m : Metadata) : Except Failure MediaType :=
  (d.detect m).result s

end Detector

end MediaGraph
