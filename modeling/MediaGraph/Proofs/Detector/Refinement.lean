import MediaGraph.Config.Model
import MediaGraph.Proofs.Detector.MostSpecific

namespace MediaGraph

/-!
# What is discovered only refines

The default detector holds a repository and the detectors that a service table discovers, in this
order, and compares their answers over the registry of the repository.  In the packaged registry
every type lies below `application/octet-stream`, so what the repository answers becomes the guess,
and whatever is answered afterwards only moves the guess further down.

* `Registry.isInstance_octetStream_packaged` — every type lies below the top of the packaged
  registry.
* `Registry.isInstance_refineAll_cons` — the guess stays below the first answer.
* `result_defaultDetector_eq_ok_iff` — what the default detector holds.
* `Detector.default_refines_repository` — what it answers, compared with its repository.
-/

namespace Registry

variable {r : Registry} {a guess t : MediaType} {answers : List MediaType}

/-! ### Below the top -/

/-- **Every type lies below the top** of the packaged registry, whether it is registered or not. -/
theorem isInstance_octetStream_packaged (t : MediaType) :
    Repository.Packaged.repository.registry.isInstance t .octetStream = true := by
  have hkeys : ∀ k ∈ Repository.Packaged.repository.registry.links.keys,
      Repository.Packaged.repository.registry.isSpecialization k k = false := by
    decide
  rcases isInstance_octetStream_or_onCycle Repository.Packaged.repository.registry t with
    htop | ⟨c, -, hcycle, -⟩
  · exact htop
  · exact absurd hcycle (not_onCycle_of_keys hkeys)

/-- An answer below the guess becomes the guess. -/
theorem refine_of_isInstance (h : r.isInstance a guess = true) : r.refine guess a = a := by
  rcases eq_or_isSpecialization_of_isInstance h with rfl | hbelow
  · rcases r.refine_eq_or a a with hself | hself
    · exact hself
    · exact hself
  · rw [refine, if_pos hbelow]

/-- Where the first answer lies below the guess, the last guess lies below this answer. -/
theorem isInstance_refineAll_cons (h : r.isInstance a guess = true) :
    r.isInstance (r.refineAll guess (a :: answers)) a = true := by
  rw [refineAll_cons, refine_of_isInstance h]
  exact isInstance_refineAll r a answers

end Registry

/-! ### The default detector -/

variable {w : World} {cls : ClassRef} {repository : Repository} {services : ServiceTable}
  {excluded : List ClassRef} {d : Detector} {s : Option Stream} {m : Metadata}

/-- The default detector holds the repository and what is discovered, without what is excluded. -/
theorem result_defaultDetector_eq_ok_iff :
    (defaultDetector w cls repository services excluded).result = .ok d ↔
      ∃ found, (services.discover w.modules .detectors excluded
        Implementation.newDetector).result = .ok found ∧
      .composite cls repository.registry
        ((.repository Detector.repositoryClass repository :: found).filter
          fun d => !d.isExcluded excluded) = d := by
  unfold defaultDetector
  simp only [result_bind_eq_ok, Traced.result_report_bind, Detector.result_compose,
    Except.ok.injEq]

namespace Detector

/-- A default detector whose repository is not excluded asks it first. -/
theorem eq_composite_of_defaultDetector
    (hkept : repositoryClass.derivesFromAny excluded = false)
    (h : (defaultDetector w cls repository services excluded).result = .ok d) :
    ∃ rest, d = .composite cls repository.registry (.repository repositoryClass repository :: rest) := by
  obtain ⟨found, -, rfl⟩ := result_defaultDetector_eq_ok_iff.mp h
  have hfirst : (!(Detector.repository repositoryClass repository).isExcluded excluded) = true := by
    rw [isExcluded, Detector.cls, hkept]
    rfl
  rw [List.filter_cons, if_pos hfirst]
  exact ⟨_, rfl⟩

/-- **What is discovered only refines.**  A default detector over the packaged repository, whatever
    it discovers and whatever else is excluded, answers with an instance of what the repository
    answers by itself, where none of its children fails. -/
theorem default_refines_repository (w : World) (cls : ClassRef) (services : ServiceTable)
    (hkept : repositoryClass.derivesFromAny excluded = false)
    (hbuilt : (defaultDetector w cls Repository.Packaged.repository services excluded).result
      = .ok d)
    (hanswers : ∀ child ∈ d.children, ∃ a, child.answer s m = .ok a) :
    ∃ own detected,
      (Detector.repository repositoryClass Repository.Packaged.repository).answer s m = .ok own ∧
      d.answer s m = .ok detected ∧
      Repository.Packaged.repository.registry.isInstance detected own = true := by
  obtain ⟨rest, rfl⟩ := eq_composite_of_defaultDetector hkept hbuilt
  obtain ⟨answers, hall⟩ := exists_answers_iff.mpr hanswers
  obtain ⟨own, others, rfl, hown, -⟩ := answers_cons_iff.mp hall
  refine ⟨own, _, hown, answer_composite_eq_ok_iff.mpr ⟨own :: others, hall, rfl⟩, ?_⟩
  exact Registry.isInstance_refineAll_cons (Registry.isInstance_octetStream_packaged own)

/-- A world without modules. -/
def voidWorld : World := .ofModules .own ⟨[], fun _ _ => none⟩

/-- A book, which is a kind of archive. -/
def book : MediaType := ⟨"application", "epub+zip", []⟩

/-- A class of detectors that take every document for one of this type. -/
def tellingClass (name : String) (t : MediaType) : Implementation :=
  .ofAnswer (baseClass.under "sample" name) t

/-- A table that declares a detector that takes everything for plain text, and one that takes it for
    a book. -/
def tellingServices : ServiceTable where
  detectors :=
    [⟨"Texts", .implementation (tellingClass "Texts" .textPlain), true,
      ServiceTable.registerOrigin⟩,
     ⟨"Books", .implementation (tellingClass "Books" book), true, ServiceTable.registerOrigin⟩]
  parsers := []
  translators := []

/-- The default detector that this table gives. -/
def tellingDetector : Detector :=
  .composite defaultClass Repository.Packaged.repository.registry
    [.repository repositoryClass Repository.Packaged.repository,
     .leaf (baseClass.under "sample" "Texts") (.fixed .textPlain),
     .leaf (baseClass.under "sample" "Books") (.fixed book)]

/-- The first bytes of an archive. -/
def archive : Stream := .ofBytes [0x50, 0x4B, 0x03, 0x04]

/-- The repository takes an archive for one, plain text does not refine this, and a book does. -/
theorem default_refines_repository_archive :
    (defaultDetector voidWorld defaultClass Repository.Packaged.repository tellingServices
        [textClass]).result = .ok tellingDetector ∧
      (Detector.repository repositoryClass Repository.Packaged.repository).answer (some archive) .empty
        = .ok .applicationZip ∧
      tellingDetector.answer (some archive) .empty = .ok book ∧
      Repository.Packaged.repository.registry.isInstance book .applicationZip = true := by
  have hbuilt : (defaultDetector voidWorld defaultClass Repository.Packaged.repository
      tellingServices [textClass]).result = .ok tellingDetector :=
    rfl
  have hall : Answers (some archive) .empty tellingDetector.children
      [.applicationZip, .textPlain, book] :=
    rfl
  have harchive : (Detector.repository repositoryClass Repository.Packaged.repository).answer
      (some archive) .empty = .ok .applicationZip :=
    rfl
  have hbook : tellingDetector.answer (some archive) .empty = .ok book :=
    answer_composite_eq_ok_iff.mpr ⟨_, hall, by decide⟩
  obtain ⟨own, detected, hown, hdetected, hrefines⟩ :=
    default_refines_repository voidWorld defaultClass tellingServices (by decide) hbuilt
      (exists_answers_iff.mp ⟨_, hall⟩)
  rw [harchive, Except.ok.injEq] at hown
  rw [hbook, Except.ok.injEq] at hdetected
  rw [← hown, ← hdetected] at hrefines
  exact ⟨hbuilt, harchive, hbook, hrefines⟩

end Detector

end MediaGraph
