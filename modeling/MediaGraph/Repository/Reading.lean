import MediaGraph.Readers
import MediaGraph.Repository.Basic
import MediaGraph.Traced

namespace MediaGraph.Repository

/-!
# Reading a repository

A repository document holds an array `types` of tables, one for each canonical type, with its
other names, an optional supertype, name patterns and leading bytes.

* `readText` — the repository that a document describes.
-/

/-- What a value holds, or a failure when it holds nothing that can be gone through. -/
def itemsOf (v : Toml.Value) : Except Failure (List Toml.Value) :=
  match v.items? with
  | some vs => .ok vs
  | none => .error .wrongType

/-- The values under a key that need not be there. -/
def listUnder (key : String) (entry : Toml.Table) : Except Failure (List Toml.Value) :=
  match Toml.find? key entry with
  | none => .ok []
  | some v => itemsOf v

/-- The media type that a value writes. -/
def typeOf (v : Toml.Value) : Except Failure MediaType :=
  (MediaType.read v.display).mapError .mediaType

/-- The bytes of a text whose characters are all single bytes. -/
def singleBytes (s : String) : Except Failure Bytes :=
  s.toList.mapM fun c => if c.toNat < 0x100 then .ok c.toNat.toUInt8 else .error .unencodable

/-- The draft with the listed other names of a type. -/
def addAliases (t : MediaType) : List Toml.Value → Draft → Except Failure Draft
  | [], draft => .ok draft
  | v :: rest, draft => do
    let newName ← typeOf v
    let draft ← (draft.addAlias t newName).mapError fun e => .invalidValue (.aliasTaken e)
    addAliases t rest draft

/-- The draft with the supertype of an entry, if it names one. -/
def addEntrySupertype (t : MediaType) (entry : Toml.Table) (draft : Draft) :
    Except Failure Draft :=
  match (Toml.find? "supertype" entry).filter (·.isTrue) with
  | none => .ok draft
  | some v => (typeOf v).map fun s => draft.addSupertype t s

/-- Reads one entry: its rules, and the draft with its types. -/
def readEntry (entry : Toml.Table) (draft : Draft) : Except Failure (TypeRules × Draft) := do
  let name ←
    match Toml.find? "name" entry with
    | some v => Except.ok v
    | none => .error (.missingKey "name")
  let t := (← typeOf name).base
  let draft ← addAliases t (← listUnder "aliases" entry) (draft.addType t)
  let draft ← addEntrySupertype t entry draft
  let description := ((Toml.find? "description" entry).map Toml.Value.display).getD ""
  let globs ← listUnder "globs" entry
  let magic ← (← listUnder "magic" entry).mapM fun v => singleBytes v.display
  return (⟨t, description, globs.map Toml.Value.display, magic⟩, draft)

/-- Whether a failure is one of those that make an entry invalid. -/
def makesInvalid (f : Failure) : Bool :=
  f.isValueFault || match f with
    | .wrongType => true
    | _ => false

/-- The name of an entry in quoted form. -/
def shownName (entry : Toml.Table) : String :=
  ((Toml.find? "name" entry).map Toml.Value.shown).getD "None"

/-- Reads the entries from number `index` on. -/
def readEntries (source : String) (index : Nat) (rules : Assoc MediaType TypeRules)
    (draft : Draft) : List Toml.Value → Except Failure (Assoc MediaType TypeRules × Draft)
  | [] => .ok (rules, draft)
  | .table entry :: rest =>
    match readEntry entry draft with
    | .ok (rule, draft) => readEntries source (index + 1) (rules.put rule.mediaType rule) draft rest
    | .error f =>
      if makesInvalid f then
        .error (.configuration (.repositoryEntryInvalid source (shownName entry)) (some f))
      else .error f
  | _ :: _ => .error (.configuration (.repositoryEntryNotTable source index) none)

/-- The repository of a document that was read from `source`. -/
def ofTable (document : Toml.Table) (source : String) : Traced Repository := do
  let entries ←
    match Toml.find? "types" document with
    | none => pure []
    | some (.array entries) => pure entries
    | some _ => Traced.fail (.configuration (.repositoryNotArray source) none)
  let (rules, draft) ← Traced.ofExcept (readEntries source 0 .empty .empty entries)
  Traced.report .debug s!"Loaded {rules.size} media types from {source}"
  Traced.reportAll [draft.freezeRecord]
  return ⟨draft.freeze, rules, source⟩

/-- The table of a document; ill-formed text is a problem of the configuration. -/
def readDocument (reader : TableReader) (problem : ConfigProblem) (text : String) :
    Except Failure Toml.Table :=
  match reader.read text with
  | .ok table => .ok table
  | .error .malformed => .error (.configuration problem (some .malformedTables))
  | .error (.unexpected f) => .error f

/-- The repository that a text describes; `source` names the text in messages. -/
def readText (reader : TableReader) (text source : String) : Traced Repository := do
  let document ← Traced.ofExcept (readDocument reader (.repositoryMalformed source) text)
  ofTable document source

end MediaGraph.Repository
