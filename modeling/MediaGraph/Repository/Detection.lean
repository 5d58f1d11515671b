import MediaGraph.Metadata
import MediaGraph.Repository.Basic
import MediaGraph.Stream.Look
import MediaGraph.Text.Glob

namespace MediaGraph.Repository

/-!
# Detection by rules

Leading bytes are asked first, then the name of the resource, then the declared type; a later
answer replaces an earlier one only when it is a specialization of it.  Among rules of the same
kind the longest one wins, and of equally long ones the first.
-/

/-- The number of leading bytes that are compared. -/
def magicWindow : Nat := 4096

/-- The rule with the greatest weight above `weight`, the first of them. -/
def heaviest {α : Type} (best : Option α) (weight : Nat) : List (Nat × α) → Option α
  | [] => best
  | (w, a) :: rest => if w > weight then heaviest (some a) w rest else heaviest best weight rest

/-- The types with a signature in front of `head`, each with the length of the signature. -/
def magicCandidates (r : Repository) (head : Bytes) : List (Nat × MediaType) :=
  r.rules.values.flatMap fun rule =>
    (rule.magic.filter (·.isPrefixOf head)).map fun sig => (sig.length, rule.mediaType)

/-- The type with the longest signature in front of `head`. -/
def byMagic? (r : Repository) (head : Bytes) : Option MediaType :=
  heaviest none 0 (r.magicCandidates head)

/-- The last part of a path, in lower case. -/
def baseName (name : String) : String :=
  Text.lower (String.ofList (Text.afterLast '/' (Text.replaceChar '\\' '/' name.toList)))

/-- The types with a pattern that a name matches, each with the length of the pattern. -/
def nameCandidates (r : Repository) (base : String) : List (Nat × MediaType) :=
  r.rules.values.flatMap fun rule =>
    (rule.globs.filter fun pattern => Text.globMatches (Text.lower pattern) base).map fun pattern =>
      (pattern.length, rule.mediaType)

/-- The type with the longest pattern that the last part of a path matches. -/
def byName? (r : Repository) (name : String) : Option MediaType :=
  let base := baseName name
  if base.isEmpty then none else heaviest none 0 (r.nameCandidates base)

/-- The guess after the resource name was looked at. -/
def refineByName (r : Repository) (byMagic : Option MediaType) (name : Option String) : MediaType :=
  let guess := byMagic.getD .octetStream
  match name.filter (!·.isEmpty) with
  | none => guess
  | some name =>
    match r.byName? name with
    | none => guess
    | some t => if byMagic.isNone || r.registry.isSpecialization t guess then t else guess

/-- The guess after the declared type was looked at. -/
def refineByHint (r : Repository) (guess : MediaType) (declared : Option String) : MediaType :=
  match MediaType.readOptional? declared with
  | none => guess
  | some hint =>
    let hint := (r.registry.normalize hint).base
    if r.registry.isSpecialization hint guess then hint else guess

/-- The type of a document. -/
def detect (r : Repository) (m : Metadata) : Look MediaType := do
  let head ← Look.peek magicWindow
  let guess := r.refineByName (r.byMagic? head) (m.get? resourceNameKey)
  let detected := r.refineByHint guess (m.get? contentTypeKey)
  Look.report .trace s!"MimeRepository detected {detected} (metadata={m.shown})"
  return detected

end MediaGraph.Repository
