import Mathlib.Data.List.Nodup
import MediaGraph.Proofs.Service.History
import MediaGraph.Proofs.Text.Blank

namespace MediaGraph

/-!
# What a name means in a service table

An entry goes by its declared name and by the last part of it.  A declared name comes first, so a
last part that another entry has as its declared name would hide the entry; but then both have the
same last part.

* `ServiceTable.Means` — what a name means: the entry declared under it, else the only one with that
  last part.
* `ServiceTable.find_eq_ok_iff`, `find_eq_error_iff` — that is what looking a name up gives.
* `ServiceTable.find_shortName` — an entry whose last part no other one has is found by it.
* `table_of_calls` — what holds of a service table after any calls.
-/

variable {t : ServiceTable} {family : Family} {name : String} {e d : Entry} {f : Failure}

/-! ### Last parts of names -/

/-- A last part is not divided any further. -/
theorem Entry.not_mem_shortName (e : Entry) :
    '.' ∉ e.shortName.toList ∧ ':' ∉ e.shortName.toList := by
  rw [shortName, String.toList_ofList]
  refine ⟨Text.not_mem_afterLast _ _, fun h => ?_⟩
  exact Text.not_mem_replaceChar (by decide) _ (Text.afterLast_subset _ _ h)

/-- A name that is not divided is its own last part. -/
theorem Entry.shortName_eq_name (hdot : '.' ∉ e.name.toList) (hcolon : ':' ∉ e.name.toList) :
    e.shortName = e.name := by
  rw [shortName, Text.replaceChar_eq_self hcolon, Text.afterLast_eq_self hdot, String.ofList_toList]

/-- An entry that is declared under the last part of another one shares it. -/
theorem Entry.shortName_eq_of_name (h : d.name = e.shortName) : d.shortName = e.shortName := by
  obtain ⟨hdot, hcolon⟩ := e.not_mem_shortName
  rw [shortName_eq_name (h ▸ hdot) (h ▸ hcolon), h]

namespace ServiceTable

/-! ### Lookups -/

/-- Whether `e` is the only entry of a family whose name ends in `name`. -/
def OnlyShort (t : ServiceTable) (family : Family) (name : String) (e : Entry) : Prop :=
  e ∈ t.entries family ∧ e.shortName = name ∧
    ∀ d ∈ t.entries family, d.shortName = name → d = e

/-- Whether a name means an entry: the entry is declared under it, or no entry is, and it is the
    only one whose name ends in it. -/
def Means (t : ServiceTable) (family : Family) (name : String) (e : Entry) : Prop :=
  e ∈ t.entries family ∧ e.name = name ∨
    (∀ d ∈ t.entries family, d.name ≠ name) ∧ t.OnlyShort family name e

section

variable (hnames : (t.names family).Nodup)

include hnames

/-- Entries of one name are one entry. -/
theorem eq_of_name_eq (hd : d ∈ t.entries family) (he : e ∈ t.entries family)
    (h : d.name = e.name) : d = e :=
  List.inj_on_of_nodup_map hnames hd he h

/-- **Every entry is found under its own name**, and nothing else is. -/
theorem declared?_eq_some_iff :
    t.declared? family name = some e ↔ e ∈ t.entries family ∧ e.name = name := by
  refine ⟨mem_entries_of_declared?, ?_⟩
  rintro ⟨he, rfl⟩
  cases hdeclared : t.declared? family e.name with
  | none => exact absurd rfl (declared?_eq_none_iff.mp hdeclared e he)
  | some d =>
    obtain ⟨hd, hname⟩ := mem_entries_of_declared? hdeclared
    rw [eq_of_name_eq hnames hd he hname]

/-- One entry is left of those with a last part when it is the only one. -/
theorem filter_shortName_eq_singleton_iff :
    (t.entries family).filter (fun e => e.shortName = name) = [e] ↔ t.OnlyShort family name e := by
  have hmem : ∀ d, d ∈ (t.entries family).filter (fun e => e.shortName = name) ↔
      d ∈ t.entries family ∧ d.shortName = name := fun d => by
    rw [List.mem_filter, decide_eq_true_eq]
  constructor
  · intro h
    rw [h] at hmem
    obtain ⟨he, hshort⟩ := (hmem e).mp (List.mem_singleton_self e)
    exact ⟨he, hshort, fun d hd hd' => List.mem_singleton.mp ((hmem d).mpr ⟨hd, hd'⟩)⟩
  · rintro ⟨he, hshort, honly⟩
    have hnodup : ((t.entries family).filter fun e => e.shortName = name).Nodup :=
      (List.Nodup.of_map _ hnames).filter _
    refine List.perm_singleton.mp ((List.perm_ext_iff_of_nodup hnodup (List.nodup_singleton e)).mpr
      fun d => ?_)
    rw [hmem, List.mem_singleton]
    constructor
    · rintro ⟨hd, hd'⟩
      exact honly d hd hd'
    · rintro rfl
      exact ⟨he, hshort⟩

/-- **A lookup** gives the entry that a name means. -/
theorem find_eq_ok_iff : t.find family name = .ok e ↔ t.Means family name e := by
  unfold find Means
  cases hdeclared : t.declared? family name with
  | some d =>
    obtain ⟨hd, hname⟩ := mem_entries_of_declared? hdeclared
    rw [Except.ok.injEq]
    constructor
    · rintro rfl
      exact .inl ⟨hd, hname⟩
    · rintro (⟨he, hname'⟩ | ⟨hnone, -⟩)
      · exact eq_of_name_eq hnames hd he (hname.trans hname'.symm)
      · exact absurd hname (hnone d hd)
  | none =>
    have hnone := declared?_eq_none_iff.mp hdeclared
    rw [← filter_shortName_eq_singleton_iff hnames]
    dsimp only
    constructor
    · intro h
      split at h
      · rename_i hfilter
        cases h
        exact .inr ⟨hnone, hfilter⟩
      · cases h
    · rintro (⟨he, hname⟩ | ⟨-, hfilter⟩)
      · exact absurd hname (hnone e he)
      · rw [hfilter]

/-- A lookup fails where a name means no entry, and tells those whose names end in it. -/
theorem find_eq_error_iff :
    t.find family name = .error f ↔
      (∀ e, ¬ t.Means family name e) ∧
        f = .unknownService family name
          (((t.entries family).filter fun e => e.shortName = name).map (·.name)) := by
  simp only [← find_eq_ok_iff hnames]
  unfold find
  cases hdeclared : t.declared? family name with
  | some d => simp
  | none =>
    dsimp only
    split
    · simp
    · simp [eq_comm]

/-- **An entry whose last part no other one has** is found by it. -/
theorem find_shortName (he : e ∈ t.entries family)
    (honly : ∀ d ∈ t.entries family, d.shortName = e.shortName → d = e) :
    t.find family e.shortName = .ok e := by
  rw [find_eq_ok_iff hnames]
  by_cases hdeclared : ∃ d ∈ t.entries family, d.name = e.shortName
  · -- The entry that is declared under the last part is the entry itself.
    obtain ⟨d, hd, hname⟩ := hdeclared
    have hself : d = e := honly d hd (Entry.shortName_eq_of_name hname)
    exact .inl ⟨he, hself ▸ hname⟩
  · exact .inr ⟨fun d hd hname => hdeclared ⟨d, hd, hname⟩, he, rfl, honly⟩

end

end ServiceTable

open ServiceTable

/-- **A service table after any calls**, whatever reads its manifests.  It holds the entries that
    were created, in the order of the additions that created them; their names are distinct, and
    each is found under its own.  A name that is taken keeps its entry: a registration under it is
    refused and changes nothing, other additions are reported; what is there stays in front of what
    a call adds.  What a call does to a family is what its changes of that family do.  A lookup
    gives the entry that a name means, else it fails; and an entry whose last part no other one has
    is found by it. -/
theorem table_of_calls (reader : TableReader) (calls : List TableCall) :
    let t := ServiceTable.empty.after reader calls
    t.Records (calls.flatMap (TableCall.changes reader)) ∧
    (∀ family, (t.names family).Nodup ∧
      ∀ name e, t.declared? family name = some e ↔ e ∈ t.entries family ∧ e.name = name) ∧
    (∀ family name target auto, (∃ kept ∈ t.entries family, kept.name = name) →
      t.perform reader (.register family name target auto)
        = ⟨t, Traced.fail (.invalidValue (.nameTaken family name))⟩) ∧
    (∀ call, (∀ family name target auto, call ≠ .register family name target auto) →
      (t.perform reader call).outcome.records.filter (·.level = .warning)
        = t.notices (call.changes reader)) ∧
    (∀ call, (∀ family name, call ≠ .unregister family name) →
      ∀ family, t.entries family <+: (t.perform reader call).table.entries family) ∧
    (∀ call family, (t.perform reader call).table.entries family
      = (t.applyAll ((call.changes reader).filter fun c => c.family = family)).entries family) ∧
    ∀ family name,
      (∀ e, t.find family name = .ok e ↔ t.Means family name e) ∧
      (∀ f, t.find family name = .error f ↔ (∀ e, ¬ t.Means family name e) ∧
        f = .unknownService family name
          (((t.entries family).filter fun e => e.shortName = name).map (·.name))) ∧
      ∀ e ∈ t.entries family, (∀ d ∈ t.entries family, d.shortName = e.shortName → d = e) →
        t.find family e.shortName = .ok e := by
  intro t
  have hrecords : t.Records (calls.flatMap (TableCall.changes reader)) := by
    rw [show t = _ from after_eq ..]
    exact records_applyAll _
  have hnames := hrecords.nodup_names
  have hdeclared : ∀ family name e,
      t.declared? family name = some e ↔ e ∈ t.entries family ∧ e.name = name :=
    fun family name e => declared?_eq_some_iff (hnames family)
  refine ⟨hrecords, fun family => ⟨hnames family, hdeclared family⟩,
    fun family name target auto htaken => ?_, fun call hcall => warnings_perform hcall,
    fun call hcall family => ?_, fun call family => ?_, fun family name =>
      ⟨fun e => find_eq_ok_iff (hnames family), fun f => find_eq_error_iff (hnames family),
        fun e he honly => find_shortName (hnames family) he honly⟩⟩
  · rw [perform, register_of_taken htaken]
    rfl
  · rw [table_perform]
    exact entries_prefix_applyAll fun c hc => TableCall.put_of_mem_changes hcall hc
  · rw [table_perform, entries_applyAll]

/-- Calls that add a name again after it was dropped, and some that find a name taken. -/
def twinCalls : List TableCall :=
  [.register .parsers "one.Twin" (.path "a:X") false,
   .register .parsers "two:Twin" (.path "b:Y") true,
   .register .parsers "one.Twin" (.path "c:Z") false,
   .unregister .parsers "one.Twin",
   .loadEntryPoints (some [⟨"mediaconf.parsers", "one.Twin", "d:W"⟩,
     ⟨"mediaconf.parsers", "two:Twin", "e:V"⟩]),
   .register .detectors "pkg.Lone" (.path "f:U") false]

/-- After these calls the name that was dropped stands behind the other one, which is still taken;
    both share their last part, and a detector is found by its own. -/
theorem table_of_calls_twins :
    let t := ServiceTable.empty.after .own twinCalls
    t.names .parsers = ["two:Twin", "one.Twin"] ∧
    t.perform .own (.register .parsers "two:Twin" (.path "g:T") true)
      = ⟨t, Traced.fail (.invalidValue (.nameTaken .parsers "two:Twin"))⟩ ∧
    t.find .parsers "Twin" = .error (.unknownService .parsers "Twin" ["two:Twin", "one.Twin"]) ∧
    t.find .detectors "Lone" = .ok ⟨"pkg.Lone", .path "f:U", false, registerOrigin⟩ := by
  intro t
  obtain ⟨-, -, hrefused, -, -, -, hfind⟩ := table_of_calls .own twinCalls
  have hparsers : t.entries .parsers = [⟨"two:Twin", .path "b:Y", true, registerOrigin⟩,
      ⟨"one.Twin", .path "d:W", true, "entry point mediaconf.parsers"⟩] := rfl
  have hdetectors : t.entries .detectors
      = [⟨"pkg.Lone", .path "f:U", false, registerOrigin⟩] := rfl
  refine ⟨rfl, hrefused .parsers "two:Twin" _ _ ⟨_, hparsers ▸ List.mem_cons_self, rfl⟩, ?_, ?_⟩
  · have hshort : ((t.entries .parsers).filter fun e => e.shortName = "Twin").map (·.name)
        = ["two:Twin", "one.Twin"] := by
      rw [hparsers]
      decide +kernel
    refine ((hfind .parsers "Twin").2.1 _).mpr ⟨?_, by rw [hshort]⟩
    rintro e (⟨he, hname⟩ | ⟨-, -, -, honly⟩)
    · rw [hparsers] at he
      simp only [List.mem_cons, List.not_mem_nil, or_false] at he
      rcases he with rfl | rfl <;> simp at hname
    · -- Two entries share the last part, so neither is the only one.
      rw [hparsers] at honly
      have hfirst := honly _ List.mem_cons_self rfl
      have hsecond := honly _ (List.mem_cons_of_mem _ List.mem_cons_self) rfl
      exact absurd (congrArg Entry.name (hfirst.trans hsecond.symm)) (by decide)
  · have hlone : (⟨"pkg.Lone", .path "f:U", false, registerOrigin⟩ : Entry).shortName = "Lone" := by
      decide +kernel
    rw [← hlone]
    refine (hfind .detectors "Lone").2.2 _ (hdetectors ▸ List.mem_cons_self) fun d hd _ => ?_
    exact List.mem_singleton.mp (hdetectors ▸ hd)

end MediaGraph
