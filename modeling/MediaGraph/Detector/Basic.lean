import MediaGraph.Class
import MediaGraph.Repository.Detection

namespace MediaGraph

/-!
# Detectors

A detector tells the type of a document from its first bytes and its metadata.  Leaves have a
sense of their own, repositories go by their rules, and composites ask their children in order
and keep the most specific answer.

* `Detector.detect` — the answer of a detector; it looks at the stream and puts it back.
* `Detector.compose` — a composite of the children that are not excluded.
-/

/-- How a leaf tells the type of a document. -/
inductive Sense where
  /-- A document without bytes is known to be empty. -/
  | emptiness
  /-- The declared type is believed. -/
  | declared
  /-- The first bytes, as many as the window holds, look like text or do not. -/
  | textual (window : Int)
  /-- An implementation's own way. -/
  | custom (answer : Option Stream → Metadata → Except Failure MediaType)

namespace Sense

/-- The same answer for every document. -/
def fixed (t : MediaType) : Sense := .custom fun _ _ => .ok t

/-- Control characters that may stand in a text. -/
def textControls : Bytes := [0x09, 0x0A, 0x0C, 0x0D, 0x1B]

/-- The number of control characters that no text holds. -/
def oddControls (head : Bytes) : Nat :=
  (head.filter fun b => b < 0x20 && !textControls.contains b).length

/-- Whether bytes look like the start of a text: some bytes, none of them zero, few odd control
    characters, and no fault in the encoding except in the last three bytes. -/
def looksTextual (head : Bytes) : Bool :=
  !head.isEmpty && !head.contains 0 && oddControls head * 10 ≤ head.length &&
    match Text.Utf8.firstFault? head with
    | none => true
    | some start => head.length ≤ start + 3

/-- The answer of a leaf. -/
def detect (sense : Sense) (m : Metadata) : Look MediaType :=
  match sense with
  | .emptiness => do
    let head ← Look.peek 1
    return if (← Look.hasStream) && head.isEmpty then .emptyDocument else .octetStream
  | .declared =>
    return ((MediaType.readOptional? (m.get? contentTypeKey)).map MediaType.base).getD .octetStream
  | .textual window => do
    let head ← Look.peek window
    return if looksTextual head then .textPlain else .octetStream
  | .custom answer => ⟨fun s => (Traced.ofExcept (answer s m), s)⟩

end Sense

/-- A tree of detectors. -/
inductive Detector where
  | leaf (cls : ClassRef) (sense : Sense)
  | repository (cls : ClassRef) (rules : Repository)
  | composite (cls : ClassRef) (registry : Registry) (children : List Detector)

namespace Detector

/-- The class of a detector. -/
def cls : Detector → ClassRef
  | .leaf cls _ => cls
  | .repository cls _ => cls
  | .composite cls _ _ => cls

/-- The children of a detector. -/
def children : Detector → List Detector
  | .composite _ _ children => children
  | _ => []

/-- Whether a detector holds others. -/
def isComposite : Detector → Bool
  | .composite .. => true
  | _ => false

/-- Whether a detector is of an excluded class. -/
def isExcluded (d : Detector) (excluded : List ClassRef) : Bool := d.cls.derivesFromAny excluded

mutual

/-- A detector as reports show it. -/
def shown : Detector → String
  | .leaf cls _ => s!"{cls.name}()"
  | .repository _ rules => rules.shown
  | .composite cls _ children => cls.name ++ "([" ++ Text.joinWith ", " (shownAll children) ++ "])"

/-- Detectors as reports show them. -/
def shownAll : List Detector → List String
  | [] => []
  | d :: ds => d.shown :: shownAll ds

end

mutual

/-- The type that a detector tells. -/
def detect (m : Metadata) : Detector → Look MediaType
  | .leaf _ sense => sense.detect m
  | .repository _ rules => rules.detect m
  | .composite cls registry children => do
    let detected ← detectAll m registry .octetStream children
    Look.report .trace s!"{cls.name} detected {detected}"
    return detected

/-- The best guess after the detectors were asked: an answer replaces a guess that it
    specializes. -/
def detectAll (m : Metadata) (registry : Registry) (guess : MediaType) :
    List Detector → Look MediaType
  | [] => return guess
  | d :: ds => do
    let answer ← detect m d
    detectAll m registry (if registry.isSpecialization answer guess then answer else guess) ds

end

/-- A composite of the children that are not excluded. -/
def compose (cls : ClassRef) (registry : Registry) (children : List Detector)
    (excluded : List ClassRef) : Traced Detector := do
  let kept := children.filter fun d => !d.isExcluded excluded
  if kept.length ≠ children.length then
    Traced.report .debug
      s!"{cls.name} dropped {children.length - kept.length} excluded detector(s)"
  return .composite cls registry kept

/-- The composite keeps the children that are not excluded. -/
theorem result_compose (cls : ClassRef) (registry : Registry) (children : List Detector)
    (excluded : List ClassRef) :
    (compose cls registry children excluded).result
      = .ok (.composite cls registry (children.filter fun d => !d.isExcluded excluded)) := by
  unfold compose
  dsimp only
  split <;> rfl

end Detector

end MediaGraph
