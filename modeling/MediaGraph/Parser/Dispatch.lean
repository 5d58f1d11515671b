import MediaGraph.Parser.Basic

namespace MediaGraph.Parser

/-!
# Dispatch

The table of a composite says which child a canonical type belongs to: the last child that
advertises it.  A document goes to the child that its declared type, or the closest of the
supertypes, belongs to; a document of an unclaimed type goes to the fallback.

* `dispatchTable` — the table of a composite, children by number.
* `claimant?` — the child for a type.
* `parse` — what comes of a document.
-/

/-- The numbers of the children by canonical type. -/
abbrev Table := Assoc MediaType Nat

/-- The table after child `index` put in its claims. -/
def claimAll (registry : Registry) (index : Nat) (claims : TypeSet) (table : Table) : Table :=
  claims.foldl (fun table t => table.put (registry.normalize t) index) table

/-- The table after the children from `index` on put in their claims. -/
def claimFrom (registry : Registry) (index : Nat) (table : Table) : List TypeSet → Table
  | [] => table
  | claims :: rest =>
    claimFrom registry (index + 1) (claimAll registry index claims table) rest

/-- The table of children with these claims. -/
def dispatchTable (registry : Registry) (claims : List TypeSet) : Table :=
  claimFrom registry 0 .empty claims

/-- The child that the first claimed type on the way up from `t` belongs to. -/
def claimant? (registry : Registry) (table : Table) (t : MediaType) : Option Nat :=
  (registry.walk t).findSome? fun u => table.get? (registry.normalize u)

/-! ### What is reported when a table is built -/

/-- A child that takes part in building a table. -/
structure Claim where
  shown : String
  types : TypeSet
  /-- What the child itself reports when it is asked for its types. -/
  records : List Record

/-- The reports of child `index` putting in its claims: one for each type taken from another
    child. -/
def overrideRecords (self : String) (claims : List Claim) (registry : Registry) (index : Nat)
    (taker : String) (table : Table) : TypeSet → List Record
  | [] => []
  | t :: ts =>
    let key := registry.normalize t
    let taken :=
      match table.get? key with
      | none => []
      | some owner =>
        if owner = index then []
        else
          let loser := (claims[owner]?).elim "" (·.shown)
          [⟨.trace, s!"{self}: {taker} overrides {loser} for {key}"⟩]
    taken ++ overrideRecords self claims registry index taker (table.put key index) ts

/-- The reports of the children from `index` on putting in their claims. -/
def claimRecords (self : String) (all : List Claim) (registry : Registry) (index : Nat)
    (table : Table) : List Claim → List Record
  | [] => []
  | c :: rest =>
    c.records ++ overrideRecords self all registry index c.shown table c.types ++
      claimRecords self all registry (index + 1) (claimAll registry index c.types table) rest

mutual

/-- The reports of a parser that is asked for its types. -/
def typesRecords : Parser → List Record
  | .leaf .. => []
  | .composite cls detector registry children excluded fallback =>
    let claims := claimsOf children
    claimRecords (Parser.composite cls detector registry children excluded fallback).shown claims
      registry 0 .empty claims
  | .decorator _ effect inner => if effect.asksInner then inner.typesRecords else []
  | .bundle _ _ _ _ inner => inner.typesRecords

/-- The parsers as they take part in building a table. -/
def claimsOf : List Parser → List Claim
  | [] => []
  | p :: ps => ⟨p.shown, p.types, p.typesRecords⟩ :: claimsOf ps

end

/-- The reports of building the table of a parser that holds children. -/
def tableRecords (p : Parser) (registry : Registry) : List Record :=
  let claims := claimsOf p.children
  claimRecords p.shown claims registry 0 .empty claims

/-! ### Looking a type up -/

/-- The registry of a parser that holds children, and the parser for unclaimed types. -/
def holding? : Parser → Option (Registry × Parser)
  | .composite _ _ registry _ _ fallback => some (registry, fallback)
  | .bundle _ registry _ fallback _ => some (registry, fallback)
  | _ => none

/-- The number of the child for an optional type; none selects the fallback. -/
def choose (registry : Registry) (children : List Parser) (t : Option MediaType) : Option Nat :=
  t.bind (claimant? registry (dispatchTable registry (typesOfAll children)))

/-- The child for an optional type, or the fallback, in a parser that holds children. -/
def find? (p : Parser) (t : Option MediaType) : Option (Traced Parser) :=
  p.holding?.map fun (registry, fallback) =>
    ⟨.ok (((choose registry p.children t).bind (p.children[·]?)).getD fallback),
      p.tableRecords registry⟩

/-- The table of a parser that holds children, with the children themselves. -/
def table? (p : Parser) : Option (Traced (List (MediaType × Parser))) :=
  p.holding?.map fun (registry, _) =>
    ⟨.ok ((dispatchTable registry (typesOfAll p.children)).entries.filterMap fun (t, i) =>
        (p.children[i]?).map fun child => (t, child)), p.tableRecords registry⟩

/-! ### Parsing -/

/-- What comes of a document, with some reports in front. -/
def Parsed.after (records : List Record) (x : Parsed) : Parsed :=
  { x with content := ⟨x.content.result, records ++ x.content.records⟩ }

/-- The text that stands for an optional type in reports. -/
def shownType (t : Option MediaType) : String := (t.map MediaType.render).getD "None"

/-- What a composite does before it hands a document over: with a detector, the type is detected
    on a stream that can go back, which there has to be, and declared. -/
def prepare (detector : Option Detector) (s : Option Stream) (m : Metadata) :
    Traced (Option Stream × Metadata) :=
  match detector, s with
  | none, s => Traced.ok (s, m)
  | some _, none => Traced.fail .missingAttribute
  | some d, some s =>
    let (sighting, after) := (d.detect m).run (some s.ensureSeekable)
    match sighting.result with
    | .error f => ⟨.error f, sighting.records⟩
    | .ok t =>
      ⟨.ok (after, m.put contentTypeKey t.render),
        sighting.records ++ [⟨.debug, s!"Auto-detected {t}"⟩]⟩

/-- The child that a document with this metadata is handed to; none stands for the fallback. -/
def chooseFor (registry : Registry) (children : List Parser) (m : Metadata) : Option Nat :=
  choose registry children (MediaType.readOptional? (m.get? contentTypeKey))

/-- What a composite reports when it hands a document over. -/
def handOverRecords (self fallback : Parser) (registry : Registry) (m : Metadata) : List Record :=
  let declared := MediaType.readOptional? (m.get? contentTypeKey)
  let chosen := ((choose registry self.children declared).bind (self.children[·]?)).getD fallback
  self.tableRecords registry ++
    [⟨.debug, s!"Dispatching {shownType declared} to {chosen.shown}"⟩]

mutual

/-- What comes of a document, of which there may be no stream. -/
def parse (s : Option Stream) (m : Metadata) : Parser → Parsed
  | .leaf _ job =>
    let (result, m') := job.run (s.map Stream.remaining) m
    ⟨Traced.ofExcept result, m'⟩
  | .decorator _ _ inner => parse s m inner
  | .bundle _ _ _ _ inner => parse s m inner
  | .composite cls detector registry children excluded fallback =>
    let prepared := prepare detector s m
    match prepared.result with
    | .error f => ⟨⟨.error f, prepared.records⟩, m⟩
    | .ok (s', m') =>
      let self := Parser.composite cls detector registry children excluded fallback
      Parsed.after (prepared.records ++ handOverRecords self fallback registry m')
        (match chooseFor registry children m' with
        | none => parse s' m' fallback
        | some i =>
          match parseNth s' m' children i with
          | some parsed => parsed
          | none => parse s' m' fallback)

/-- What comes of a document at the parser of a number. -/
def parseNth (s : Option Stream) (m : Metadata) : List Parser → Nat → Option Parsed
  | [], _ => none
  | p :: _, 0 => some (parse s m p)
  | _ :: ps, i + 1 => parseNth s m ps i

end

end MediaGraph.Parser
