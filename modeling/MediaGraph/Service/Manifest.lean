import MediaGraph.Repository.Reading
import MediaGraph.Service.Table

namespace MediaGraph.ServiceTable

/-!
# Manifests and entry points

A manifest is a TOML document with an array of tables for every family.  Its entries are added one
after another, so those in front of a faulty one stay.

* `readManifest` — the table after a manifest, together with the failure that ended it, if any.
* `loadEntryPoints` — the table after the announcements of installed extensions.
-/

/-- The entry that a table of a manifest declares. -/
def entryOf (origin : String) (family : Family) (v : Toml.Value) : Except Failure Entry :=
  let incomplete := Failure.configuration (.manifestIncomplete origin family) none
  match v with
  | .table item =>
    match Toml.find? "name" item, Toml.find? "target" item with
    | some name, some target =>
      .ok ⟨name.display, .path target.display, (Toml.find? "auto" item).any (·.isTrue), origin⟩
    | _, _ => .error incomplete
  | _ => .error incomplete

/-- What is left of a table after something failed on the way. -/
structure Progress where
  table : ServiceTable
  outcome : Traced Unit

/-- Goes on with the table that was reached, unless something failed. -/
def Progress.andThen (p : Progress) (f : ServiceTable → Progress) : Progress :=
  match p.outcome.result with
  | .error _ => p
  | .ok () =>
    let q := f p.table
    ⟨q.table, ⟨q.outcome.result, p.outcome.records ++ q.outcome.records⟩⟩

/-- The table after the entries of one family. -/
def readEntries (t : ServiceTable) (origin : String) (family : Family) :
    List Toml.Value → Progress
  | [] => ⟨t, Traced.ok ()⟩
  | v :: vs =>
    match entryOf origin family v with
    | .error f => ⟨t, Traced.fail f⟩
    | .ok e =>
      let added := t.add family e
      match added.result with
      | .error f => ⟨t, ⟨.error f, added.records⟩⟩
      | .ok t' =>
        Progress.andThen ⟨t', ⟨.ok (), added.records⟩⟩ fun t => readEntries t origin family vs

/-- The table after one family of a manifest. -/
def readFamily (t : ServiceTable) (origin : String) (family : Family) (document : Toml.Table) :
    Progress :=
  match Toml.find? family.plural document with
  | none => ⟨t, Traced.ok ()⟩
  | some (.array items) => readEntries t origin family items
  | some _ => ⟨t, Traced.fail (.configuration (.manifestNotArray origin family) none)⟩

/-- The table after some families of a manifest. -/
def readFamilies (t : ServiceTable) (origin : String) (document : Toml.Table) :
    List Family → Progress
  | [] => ⟨t, Traced.ok ()⟩
  | family :: rest =>
    (readFamily t origin family document).andThen fun t => readFamilies t origin document rest

/-- The table after a manifest. -/
def readManifest (t : ServiceTable) (reader : TableReader) (text origin : String) : Progress :=
  match Repository.readDocument reader (.manifestMalformed origin) text with
  | .error f => ⟨t, Traced.fail f⟩
  | .ok document => readFamilies t origin document Family.all

/-- An announcement of an installed extension. -/
structure EntryPoint where
  group : String
  name : String
  value : String
  deriving Repr, DecidableEq

/-- The table after the announcements for one family. -/
def addEntryPoints (t : ServiceTable) (family : Family) : List EntryPoint → Traced ServiceTable
  | [] => return t
  | p :: ps => do
    Traced.report .debug s!"Discovered {family.label} entry point {p.name} -> {p.value}"
    let t ← t.add family ⟨p.name, .path p.value, true, s!"entry point {family.entryPointGroup}"⟩
    t.addEntryPoints family ps

/-- The table after the announcements for some families. -/
def addAnnounced (t : ServiceTable) (points : List EntryPoint) :
    List Family → Traced ServiceTable
  | [] => return t
  | family :: rest => do
    let own := points.filter fun p => p.group = family.entryPointGroup
    let t ← t.addEntryPoints family own
    t.addAnnounced points rest

/-- The table after the announcements of installed extensions; when they cannot be read, that is
    reported and the table stays. -/
def loadEntryPoints (t : ServiceTable) (points : Option (List EntryPoint)) :
    Traced ServiceTable :=
  match points with
  | none => do
    Traced.report .error "Failed to read entry points"
    return t
  | some points => t.addAnnounced points Family.all

end MediaGraph.ServiceTable
