import MediaGraph.Service.Manifest

namespace MediaGraph

/-!
# Changing a service table call by call

A table is filled and emptied by calls of four kinds.  A call that fails leaves behind what it has
changed until then: a manifest the entries in front of a faulty one, a refused registration nothing.

* `ServiceTable.perform` — what a call does.
* `ServiceTable.after` — the table after some calls, failed ones included.
-/

/-- A call that changes a service table. -/
inductive TableCall where
  | readManifest (text origin : String)
  /-- The announcements of installed extensions; none where they cannot be read. -/
  | loadEntryPoints (points : Option (List ServiceTable.EntryPoint))
  | register (family : Family) (name : String) (target : Target) (auto : Bool)
  | unregister (family : Family) (name : String)

namespace ServiceTable

/-- A change that is made as a whole or not at all. -/
def Progress.ofWhole (t : ServiceTable) (x : Traced ServiceTable) : Progress :=
  match x.result with
  | .ok t' => ⟨t', ⟨.ok (), x.records⟩⟩
  | .error f => ⟨t, ⟨.error f, x.records⟩⟩

/-- What a call does; `reader` reads the manifests. -/
def perform (t : ServiceTable) (reader : TableReader) : TableCall → Progress
  | .readManifest text origin => t.readManifest reader text origin
  | .loadEntryPoints points => .ofWhole t (t.loadEntryPoints points)
  | .register family name target auto =>
    .ofWhole t (Traced.ofExcept (t.register family name target auto))
  | .unregister family name => ⟨t.unregister family name, Traced.ok ()⟩

/-- The table after some calls, one after another, whether they failed or not. -/
def after (t : ServiceTable) (reader : TableReader) (calls : List TableCall) : ServiceTable :=
  calls.foldl (fun t call => (t.perform reader call).table) t

end ServiceTable

end MediaGraph
