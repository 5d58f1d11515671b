import MediaGraph.Service.Module

namespace MediaGraph

/-!
# The service table

The table holds, for every family, entries in the order in which they were declared.  A name is
declared once; later declarations of it are reported and dropped.

* `ServiceTable.find` — the entry that a name means: a declared name, or the last part of one when
  no other entry has the same.
* `ServiceTable.classFor` — the class behind a name.
-/

/-- What an entry stands for: the text of a target, or a class. -/
inductive Target where
  | path (text : String)
  | implementation (i : Implementation)

/-- A declared implementation. -/
structure Entry where
  name : String
  target : Target
  /-- Whether the default composites take it in. -/
  auto : Bool
  /-- Where it was declared. -/
  origin : String

/-- The last part of a declared name. -/
def Entry.shortName (e : Entry) : String :=
  String.ofList (Text.afterLast '.' (Text.replaceChar ':' '.' e.name.toList))

/-- The entries of the three families. -/
structure ServiceTable where
  detectors : List Entry
  parsers : List Entry
  translators : List Entry

namespace ServiceTable

/-- The table without entries. -/
def empty : ServiceTable := ⟨[], [], []⟩

/-- The entries of a family. -/
def entries (t : ServiceTable) : Family → List Entry
  | .detectors => t.detectors
  | .parsers => t.parsers
  | .translators => t.translators

/-- The table with the entries of a family replaced. -/
def withEntries (t : ServiceTable) (es : List Entry) : Family → ServiceTable
  | .detectors => { t with detectors := es }
  | .parsers => { t with parsers := es }
  | .translators => { t with translators := es }

/-- The declared names of a family. -/
def names (t : ServiceTable) (family : Family) : List String := (t.entries family).map (·.name)

/-- The entry that is declared under a name. -/
def declared? (t : ServiceTable) (family : Family) (name : String) : Option Entry :=
  (t.entries family).find? fun e => e.name = name

/-- The table as reports show it. -/
def shown (t : ServiceTable) : String :=
  s!"ServiceLoader(detectors={t.detectors.length}, parsers={t.parsers.length}, " ++
    s!"translators={t.translators.length})"

/-- The table with one more entry; a name that is taken is reported, and the table stays. -/
def add (t : ServiceTable) (family : Family) (e : Entry) : Traced ServiceTable :=
  match t.declared? family e.name with
  | some kept => do
    Traced.report .warning
      s!"Duplicate {family.label} name {e.name} from {e.origin} (keeping {kept.origin})"
    return t
  | none => return t.withEntries (t.entries family ++ [e]) family

/-- The table with some more entries. -/
def addAll (t : ServiceTable) (family : Family) : List Entry → Traced ServiceTable
  | [] => return t
  | e :: es => do
    let t ← t.add family e
    t.addAll family es

/-- The origin of entries that were added one by one. -/
def registerOrigin : String := "<register>"

/-- The table with an implementation under a name, which must not be taken. -/
def register (t : ServiceTable) (family : Family) (name : String) (target : Target)
    (auto : Bool) : Except Failure ServiceTable :=
  match t.declared? family name with
  | some _ => .error (.invalidValue (.nameTaken family name))
  | none =>
    .ok (t.withEntries (t.entries family ++ [⟨name, target, auto, registerOrigin⟩]) family)

/-- The table without a name. -/
def unregister (t : ServiceTable) (family : Family) (name : String) : ServiceTable :=
  t.withEntries ((t.entries family).filter fun e => e.name ≠ name) family

/-- The entry that a name means. -/
def find (t : ServiceTable) (family : Family) (name : String) : Except Failure Entry :=
  match t.declared? family name with
  | some e => .ok e
  | none =>
    match (t.entries family).filter fun e => e.shortName = name with
    | [e] => .ok e
    | es => .error (.unknownService family name (es.map (·.name)))

end ServiceTable

/-- Whether a failure to resolve a target makes an entry unavailable. -/
def Failure.isUnresolved : Failure → Bool
  | .missingModule => true
  | .missingAttribute => true
  | f => f.isValueFault

/-- The class that an entry stands for. -/
def Entry.resolve (modules : ModuleTable) (family : Family) (e : Entry) :
    Except Failure Implementation :=
  let foreign := Failure.unavailableService family e.name .notImplementation none
  let check (i : Implementation) := if i.isOf family then .ok i else .error foreign
  match e.target with
  | .implementation i => check i
  | .path text =>
    match modules.resolve text with
    | .ok (.implementation i) => check i
    | .ok _ => .error foreign
    | .error f =>
      if f.isUnresolved then
        .error (.unavailableService family e.name (.notImportable (Text.quoted text)) (some f))
      else .error f

/-- The class behind a name. -/
def ServiceTable.classFor (t : ServiceTable) (modules : ModuleTable) (family : Family)
    (name : String) : Traced Implementation := do
  let e ← Traced.ofExcept (t.find family name)
  let i ← Traced.ofExcept (e.resolve modules family)
  Traced.report .trace s!"Resolved {family.label} {name} -> {i.cls.qualified}"
  return i

end MediaGraph
