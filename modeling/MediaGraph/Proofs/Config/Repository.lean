import MediaGraph.Config.Assembly
import MediaGraph.Proofs.Repository.Reading

namespace MediaGraph.Config

/-!
# Failures of the repository of a document

A document names its repository by a resource.  A resource that cannot be found or read is a problem
of the configuration; what escapes is a fault of the text in its file.

* `ResourceAt` — the file that a resource names; `FileFault` — the faults of a text in one.
* `RepositoryFault`, `escapes_loadRepository` — what escapes from loading the repository.
-/

variable {f : Failure} {reader : TableReader} {files : FileTree Bytes} {root : Xml.Element}
  {base : Option Path}

/-! ### Files of repositories -/

/-- The way in which looking a path up can fail. -/
abbrev IsInaccessible (f : Failure) : Prop := f = .inaccessible

theorem failsOnly_lookUp {α : Type} (t : FileTree α) (p : Path) :
    FailsOnly IsInaccessible (t.lookUp p) := by
  unfold FileTree.lookUp
  split
  · exact failsOnly_ok
  · split
    · exact failsOnly_error rfl
    · exact failsOnly_ok

theorem failsOnly_isFile {α : Type} (t : FileTree α) (p : Path) :
    FailsOnly IsInaccessible (t.isFile p) := failsOnly_map (failsOnly_lookUp t p)

theorem failsOnly_firstFile? {α : Type} (t : FileTree α) (ps : List Path) :
    FailsOnly IsInaccessible (t.firstFile? ps) := by
  induction ps with
  | nil => exact failsOnly_ok
  | cons p ps ih =>
    refine failsOnly_bind (failsOnly_isFile t p) fun there => ?_
    split
    · exact failsOnly_ok
    · exact ih

theorem failsOnly_file? (directory : List String) (p : Path) :
    FailsOnly IsInaccessible (Packaged.file? directory p) := by
  unfold Packaged.file?
  split
  · exact failsOnly_ok
  · exact failsOnly_map (failsOnly_lookUp _ _)

/-- A path that cannot be looked up is a problem of the configuration. -/
theorem not_escapes_of_inaccessible {α : Type} {r : Except Failure α} {resource : String}
    (h : FailsOnly IsInaccessible r) : ¬ Escapes f (r.mapError (ofRepositoryFile resource)) := by
  rw [escapes_mapError]
  rintro ⟨g, hg, rfl, hf⟩
  rw [h g hg] at hf
  cases hf

/-- The first file is a file. -/
theorem isFile_of_firstFile? {t : FileTree Bytes} {ps : List Path} {p : Path}
    (h : t.firstFile? ps = .ok (some p)) : t.isFile p = .ok true := by
  induction ps with
  | nil => cases h
  | cons q ps ih =>
    rw [FileTree.firstFile?] at h
    cases hq : t.isFile q with
    | error g =>
      rw [hq] at h
      cases h
    | ok there =>
      rw [hq] at h
      cases there with
      | true =>
        cases h
        exact hq
      | false => exact ih h

/-- A file that is there can be read. -/
theorem read_of_isFile {t : FileTree Bytes} {p : Path} (h : t.isFile p = .ok true) :
    ∃ bytes, t.read p = .ok bytes := by
  unfold FileTree.isFile FileTree.lookUp at h
  unfold FileTree.read
  split at h
  · cases h
  · rename_i hzero
    rw [if_neg hzero]
    split at h
    · cases h
    · cases hat : t.at? p with
      | none =>
        rw [hat] at h
        cases h
      | some entry =>
        rw [hat] at h
        cases entry with
        | directory => cases h
        | file bytes => exact ⟨bytes, rfl⟩

/-- A fault of the text in the file of a repository that is not taken for one of the file. -/
def FileFault (reader : TableReader) (text : String) (f : Failure) : Prop :=
  Repository.TextFault reader text f ∧ f ≠ .inaccessible ∧ f ≠ .undecodable

/-- Where a file is read, what escapes is no fault of the file. -/
theorem escapes_ofRepositoryFile {α : Type} {r : Except Failure α} {resource : String} :
    Escapes f (r.mapError (ofRepositoryFile resource)) ↔
      Escapes f r ∧ f ≠ .inaccessible ∧ f ≠ .undecodable := by
  rw [escapes_mapError]
  constructor
  · rintro ⟨g, hg, rfl, hf⟩
    unfold ofRepositoryFile at hf ⊢
    split at hf
    · cases hf
    · cases hf
    · next haccess hcode => exact ⟨⟨hg, hf⟩, haccess, hcode⟩
  · rintro ⟨⟨hr, hf⟩, haccess, hcode⟩
    refine ⟨f, hr, ?_, hf⟩
    unfold ofRepositoryFile
    split <;> first | rfl | contradiction

/-- What escapes from the file of a repository is a fault of its text. -/
theorem escapes_loadRepositoryFile {resource source : String} {path : Path}
    (h : files.isFile path = .ok true) :
    Escapes f (loadRepositoryFile reader files resource path source).result ↔
      ∃ text, files.readText path = .ok text ∧ FileFault reader text f := by
  obtain ⟨bytes, hbytes⟩ := read_of_isFile h
  have hread : files.readText path = FileTree.textOf bytes := by
    unfold FileTree.readText
    rw [hbytes]
    rfl
  unfold loadRepositoryFile FileFault
  rw [Traced.result_mapFailure, escapes_ofRepositoryFile, escapes_result_bind,
    Traced.result_ofExcept, hread]
  unfold FileTree.textOf
  split
  · simp [Repository.escapes_readText]
  · simp only [Escapes, Except.error.injEq, reduceCtorEq, false_and, exists_false, or_false,
      iff_false]
    rintro ⟨⟨rfl, -⟩, -, hcode⟩
    exact hcode rfl

/-- The file that a resource names when it is not packaged. -/
def ResourceAt (files : FileTree Bytes) (base : Option Path) (resource : String) (path : Path) :
    Prop :=
  Packaged.file? Packaged.repositoryDirectory (.ofText resource) = .ok none ∧
    files.firstFile? (resourcePaths (.ofText resource) base) = .ok (some path)

theorem not_escapes_loadPackagedRepository (file : Packaged.File) (resource : String) :
    ¬ Escapes f (loadPackagedRepository file resource).result := by
  cases file with
  | repository => exact escapes_ok
  | manifest =>
    change ¬ Escapes f (Repository.ofTable [] resource).result
    rw [Repository.escapes_ofTable]
    rintro ⟨entries, h, -⟩
    cases h
  | configuration => exact escapes_configuration
  | moduleText => exact escapes_configuration

/-- What escapes from loading a resource is a fault of the text in its file. -/
theorem escapes_loadResource (resource : String) :
    Escapes f (loadResource reader files resource base).result ↔
      ∃ path text, ResourceAt files base resource path ∧ files.readText path = .ok text ∧
        FileFault reader text f := by
  unfold loadResource ResourceAt
  simp only [escapes_result_bind, Traced.result_ofExcept,
    not_escapes_of_inaccessible (failsOnly_file? _ _), false_or, mapError_eq_ok]
  constructor
  · rintro ⟨packaged, hpackaged, h⟩
    -- A packaged file takes precedence over the file system, and its text has no faults.
    cases packaged with
    | some file => exact absurd h (not_escapes_loadPackagedRepository file resource)
    | none =>
      simp only [escapes_result_bind, Traced.result_ofExcept,
        not_escapes_of_inaccessible (failsOnly_firstFile? _ _), false_or, mapError_eq_ok] at h
      obtain ⟨found, hfound, h⟩ := h
      cases found with
      | none => exact absurd h escapes_configuration
      | some path =>
        obtain ⟨text, htext, hfault⟩ :=
          (escapes_loadRepositoryFile (isFile_of_firstFile? hfound)).mp h
        exact ⟨path, text, ⟨hpackaged, hfound⟩, htext, hfault⟩
  · rintro ⟨path, text, ⟨hpackaged, hfound⟩, htext, hfault⟩
    refine ⟨none, hpackaged, ?_⟩
    simp only [escapes_result_bind, Traced.result_ofExcept,
      not_escapes_of_inaccessible (failsOnly_firstFile? _ _), false_or, mapError_eq_ok]
    refine ⟨some path, hfound, ?_⟩
    exact (escapes_loadRepositoryFile (isFile_of_firstFile? hfound)).mpr ⟨text, htext, hfault⟩

/-! ### The repository -/

/-- A document that names a repository in whose text there is a fault. -/
def RepositoryFault (reader : TableReader) (files : FileTree Bytes) (root : Xml.Element)
    (base : Option Path) (f : Failure) : Prop :=
  ∃ e resource path text, root.firstChild? "mimeTypeRepository" = some e ∧
    Text.trim ((e.attribute? "resource").getD "") = resource ∧ resource.isEmpty = false ∧
    ResourceAt files base resource path ∧ files.readText path = .ok text ∧ FileFault reader text f

/-- **What escapes from loading the repository** is a fault of its text. -/
theorem escapes_loadRepository :
    Escapes f (loadRepository reader files root base).result ↔
      RepositoryFault reader files root base f := by
  unfold loadRepository RepositoryFault
  cases root.firstChild? "mimeTypeRepository" with
  | none => simp
  | some e =>
    dsimp only
    split
    · rename_i hempty
      simp only [escapes_configuration, Traced.result_fail, false_iff]
      rintro ⟨_, _, path, text, ⟨⟩, rfl, hne, -⟩
      rw [hempty] at hne
      cases hne
    · rename_i hempty
      rw [escapes_loadResource]
      constructor
      · rintro ⟨path, text, hpath, htext, hfault⟩
        exact ⟨e, _, path, text, rfl, rfl, Bool.eq_false_iff.mpr hempty, hpath, htext, hfault⟩
      · rintro ⟨_, _, path, text, ⟨⟩, rfl, -, hpath, htext, hfault⟩
        exact ⟨path, text, hpath, htext, hfault⟩

end MediaGraph.Config
