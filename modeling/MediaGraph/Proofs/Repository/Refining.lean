import MediaGraph.Proofs.Detector.Window

namespace MediaGraph

/-!
# Three answers of a repository

A repository has up to three answers for a document: by its leading bytes, by the name of the
resource, and the declared type.  The first answer by bytes or by name is the guess, whatever it is;
the declared type never is.  Each later answer replaces the guess when it is a specialization of it.

* `Registry.settle` — the guess that is left of answers that are taken and answers that only refine.
* `Registry.isInstance_settle`, `Registry.not_moreSpecific_settle` — how it lies to the answers.
* `Repository.named?`, `Repository.hinted?` — the answers that the metadata give.
* `Repository.result_detect` — what is detected is what is settled from the three answers.
* `Repository.detect_refines` — how it lies to each of them.
-/

namespace Registry

variable {r : Registry} {a : MediaType} {taken hints : List MediaType}

/-! ### Settling on an answer -/

/-- The guess that is left of some answers, the first of which is taken as it is, and of hints, which
    only refine; without answers the guess begins as `application/octet-stream`. -/
def settle (r : Registry) (taken hints : List MediaType) : MediaType :=
  r.refineAll (taken.headD .octetStream) (taken.tail ++ hints)

/-- Hints refine what is left of the answers. -/
theorem settle_eq_refineAll (r : Registry) (taken hints : List MediaType) :
    r.settle taken hints = r.refineAll (r.settle taken []) hints := by
  unfold settle refineAll
  rw [List.append_nil, List.foldl_append]

/-- The guess that is left is one of the answers, a hint, or what it began as. -/
theorem settle_eq_or_mem (r : Registry) (taken hints : List MediaType) :
    r.settle taken hints = .octetStream ∨ r.settle taken hints ∈ taken ++ hints := by
  rcases r.refineAll_eq_or_mem (taken.headD .octetStream) (taken.tail ++ hints) with h | h
  · cases taken with
    | nil => exact .inl h
    | cons a rest =>
      right
      rw [settle, h]
      exact List.mem_cons_self
  · right
    rcases List.mem_append.mp h with hrest | hhint
    · exact List.mem_append_left hints (List.mem_of_mem_tail hrest)
    · exact List.mem_append_right taken hhint

/-- What is left of the guess is an instance of the first answer. -/
theorem isInstance_settle : r.isInstance (r.settle (a :: taken) hints) a = true :=
  isInstance_refineAll r a (taken ++ hints)

/-- It is an instance of the second answer too, where this one refines the first. -/
theorem isInstance_settle_of_isSpecialization {b : MediaType}
    (h : r.isSpecialization a b = true) :
    r.isInstance (r.settle (b :: a :: taken) hints) a = true := by
  have hrefined : r.refine b a = a := if_pos h
  show r.isInstance (r.refineAll (r.refine b a) (taken ++ hints)) a = true
  rw [hrefined]
  exact isInstance_refineAll r a (taken ++ hints)

/-- **No answer and no hint is more specific** than what is left of the guess. -/
theorem not_moreSpecific_settle (h : a ∈ taken ++ hints) :
    ¬ r.MoreSpecific a (r.settle taken hints) := by
  cases taken with
  | nil => exact not_moreSpecific_refineAll h
  | cons b rest =>
    rcases List.mem_cons.mp h with rfl | hlater
    · -- The first answer lies above all that is left.
      rintro ⟨-, hapart⟩
      rw [isInstance_settle] at hapart
      cases hapart
    · exact not_moreSpecific_refineAll hlater

end Registry

namespace Repository

variable {r : Repository} {m : Metadata}

/-! ### The three answers -/

/-- The answer by the name of the resource. -/
def named? (r : Repository) (m : Metadata) : Option MediaType :=
  (m.get? resourceNameKey).bind r.byName?

/-- The answer that is the declared type, in its canonical form and without parameters. -/
def hinted? (r : Repository) (m : Metadata) : Option MediaType :=
  (MediaType.readOptional? (m.get? contentTypeKey)).map fun t => (r.registry.normalize t).base

/-- The guess after the bytes and the name were looked at.  An empty name is not looked up, and
    would match nothing. -/
theorem refineByName_eq (r : Repository) (byMagic : Option MediaType) (name : Option String) :
    r.refineByName byMagic name
      = r.registry.settle (byMagic.toList ++ (name.bind r.byName?).toList) [] := by
  have hunnamed : byMagic.getD .octetStream = r.registry.settle (byMagic.toList ++ []) [] := by
    cases byMagic <;> rfl
  unfold refineByName
  cases name with
  | none => exact hunnamed
  | some name =>
    -- An empty name is dropped first, and the others are looked up.
    by_cases hempty : name = ""
    · have hdropped : (some "").filter (!·.isEmpty) = none := rfl
      have hnone : r.byName? "" = none := rfl
      rw [hempty, hdropped, Option.bind_some, hnone]
      exact hunnamed
    · have hkept : (some name).filter (!·.isEmpty) = some name := by
        rw [Option.filter_some, if_pos]
        simpa using hempty
      rw [hkept, Option.bind_some]
      dsimp only
      cases r.byName? name with
      | none => exact hunnamed
      | some t =>
        cases byMagic with
        | none => rfl
        | some a => rfl

/-- The guess after the declared type was looked at. -/
theorem refineByHint_eq (r : Repository) (guess : MediaType) (m : Metadata) :
    r.refineByHint guess (m.get? contentTypeKey)
      = r.registry.refineAll guess (r.hinted? m).toList := by
  unfold refineByHint hinted?
  cases MediaType.readOptional? (m.get? contentTypeKey) with
  | none => rfl
  | some t => rfl

/-- **What is detected** on a stream that can go back: what is settled from the answers by bytes and
    by name, refined by the declared type. -/
theorem result_detect (r : Repository) (m : Metadata) {s : Stream} (hs : s.seekable = true) :
    (r.detect m).result (some s)
      = .ok (r.registry.settle
          ((r.byMagic? (s.remaining.take 4096)).toList ++ (r.named? m).toList)
          (r.hinted? m).toList) := by
  have hwindow : Stream.isMeasure magicWindow = true := Stream.isMeasure_of_le (by decide) (by decide)
  have hhead : (Look.peek magicWindow).result (some s) = .ok (s.remaining.take 4096) := by
    rw [Look.result_peek, Stream.peek_of_isMeasure hs hwindow]
    rfl
  unfold detect
  rw [(Look.keeps_peek _).result_bind, hhead, Registry.settle_eq_refineAll, named?,
    ← refineByName_eq, ← refineByHint_eq]
  rfl

/-! ### How the detected type lies to the answers -/

/-- **Detection by a repository is a refinement.**  On every stream that can go back, and for all
    metadata: what is detected is `application/octet-stream`, the answer by the first 4096 bytes
    that are left, the answer by name or the declared type.  It is an instance of the answer by
    bytes, and of the answer by name where this one is alone or refines the other.  None of the
    three is strictly more specific, whatever supertypes are recorded. -/
theorem detect_refines (r : Repository) (m : Metadata) {s : Stream} (hs : s.seekable = true) :
    ∃ t, (r.detect m).result (some s) = .ok t ∧
      (t = .octetStream ∨ r.byMagic? (s.remaining.take 4096) = some t ∨ r.named? m = some t ∨
        r.hinted? m = some t) ∧
      (∀ a, r.byMagic? (s.remaining.take 4096) = some a → r.registry.isInstance t a = true) ∧
      (∀ a, r.named? m = some a →
        (r.byMagic? (s.remaining.take 4096) = none ∨
          ∃ b, r.byMagic? (s.remaining.take 4096) = some b ∧
            r.registry.isSpecialization a b = true) →
        r.registry.isInstance t a = true) ∧
      ∀ a, (r.byMagic? (s.remaining.take 4096) = some a ∨ r.named? m = some a ∨
          r.hinted? m = some a) →
        ¬ r.registry.MoreSpecific a t := by
  refine ⟨_, r.result_detect m hs, ?_, ?_, ?_, ?_⟩
  all_goals generalize r.byMagic? (s.remaining.take 4096) = byMagic
  · have hamong := r.registry.settle_eq_or_mem (byMagic.toList ++ (r.named? m).toList)
      (r.hinted? m).toList
    simpa [or_assoc] using hamong
  · rintro a rfl
    exact Registry.isInstance_settle
  · -- The name is the first answer, or it was taken right after the bytes.
    rintro a ha hrefines
    rw [ha]
    rcases hrefines with rfl | ⟨b, rfl, hb⟩
    · exact Registry.isInstance_settle
    · exact Registry.isInstance_settle_of_isSpecialization hb
  · intro a ha
    refine Registry.not_moreSpecific_settle ?_
    simpa [or_assoc] using ha

/-- The first bytes of a letter, behind two others. -/
def letterStream : Stream := ⟨[0, 0, 0x50, 0x4B, 0x03, 0x04, 0x14], 2, true⟩

/-- The metadata of a letter that is declared as a book. -/
def letterMetadata : Metadata :=
  ⟨[(resourceNameKey, "post/Letter.DOCX"), (contentTypeKey, "application/epub+zip; version=3")]⟩

/-- The type of letters. -/
def letterType : MediaType :=
  ⟨"application", "vnd.openxmlformats-officedocument.wordprocessingml.document", []⟩

/-- A letter is an archive by its bytes and a letter by its name.  A book is another kind of archive,
    so the declared type does not count. -/
theorem detect_refines_letter :
    letterStream.seekable = true ∧
      Packaged.repository.byMagic? (letterStream.remaining.take 4096) = some .applicationZip ∧
      Packaged.repository.named? letterMetadata = some letterType ∧
      Packaged.repository.hinted? letterMetadata = some ⟨"application", "epub+zip", []⟩ ∧
      (Packaged.repository.detect letterMetadata).result (some letterStream) = .ok letterType ∧
      Packaged.repository.registry.isInstance letterType .applicationZip = true ∧
      ¬ Packaged.repository.registry.MoreSpecific ⟨"application", "epub+zip", []⟩ letterType := by
  have hmagic : Packaged.repository.byMagic? (letterStream.remaining.take 4096)
      = some .applicationZip := by decide +kernel
  have hnamed : Packaged.repository.named? letterMetadata = some letterType := by decide +kernel
  have hhinted : Packaged.repository.hinted? letterMetadata
      = some ⟨"application", "epub+zip", []⟩ := by decide +kernel
  have hletter : (Packaged.repository.detect letterMetadata).result (some letterStream)
      = .ok letterType := toOption_eq_some.mp (by decide +kernel)
  obtain ⟨t, ht, -, hbytes, -, hmost⟩ :=
    detect_refines Packaged.repository letterMetadata (s := letterStream) rfl
  rw [hletter, Except.ok.injEq] at ht
  subst ht
  exact ⟨rfl, hmagic, hnamed, hhinted, hletter, hbytes _ hmagic, hmost _ (.inr (.inr hhinted))⟩

end Repository

end MediaGraph
