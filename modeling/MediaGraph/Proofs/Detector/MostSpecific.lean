import MediaGraph.Detector.Packaged
import MediaGraph.Proofs.Detector.Looking
import MediaGraph.Proofs.Registry.Order

namespace MediaGraph

/-!
# The most specific answer

A composite begins with the guess `application/octet-stream` and asks its children in order.  An
answer replaces the guess when it is a specialization of it.  So the guess only ever moves down, and
an answer that was not taken does not lie below any later guess, wherever recorded supertypes lead
in circles.

* `Registry.refine`, `Registry.refineAll` — the guess after one answer, and after several.
* `Registry.isInstance_refineAll` — the last guess is an instance of the first.
* `Registry.not_moreSpecific_refineAll` — no answer is more specific than the last guess.
* `Detector.answer_composite_eq_ok_iff` — what a composite answers, from the answers of its
  children.
* `Detector.composite_most_specific` — a composite keeps a most specific answer.
-/

namespace Registry

variable {r : Registry} {a guess : MediaType} {answers : List MediaType}

/-- Whether `a` is strictly more specific than `b`: it lies below it, and not on a cycle with it. -/
def MoreSpecific (r : Registry) (a b : MediaType) : Prop :=
  r.isSpecialization a b = true ∧ r.isInstance b a = false

instance (r : Registry) (a b : MediaType) : Decidable (r.MoreSpecific a b) :=
  inferInstanceAs (Decidable (_ ∧ _))

/-! ### Refining a guess -/

/-- The guess after an answer was heard. -/
def refine (r : Registry) (guess answer : MediaType) : MediaType :=
  if r.isSpecialization answer guess then answer else guess

/-- The guess after some answers were heard, one after another. -/
def refineAll (r : Registry) (guess : MediaType) (answers : List MediaType) : MediaType :=
  answers.foldl r.refine guess

@[simp] theorem refineAll_nil : r.refineAll guess [] = guess := rfl

@[simp] theorem refineAll_cons :
    r.refineAll guess (a :: answers) = r.refineAll (r.refine guess a) answers := rfl

theorem refine_eq_or (r : Registry) (guess a : MediaType) :
    r.refine guess a = guess ∨ r.refine guess a = a := by
  unfold refine
  split
  · exact .inr rfl
  · exact .inl rfl

/-- An answer only refines the guess. -/
theorem isInstance_refine (r : Registry) (guess a : MediaType) :
    r.isInstance (r.refine guess a) guess = true := by
  unfold refine
  split
  · exact isInstance_of_isSpecialization ‹_›
  · exact isInstance_refl r guess

/-- So do several answers. -/
theorem isInstance_refineAll (r : Registry) (guess : MediaType) (answers : List MediaType) :
    r.isInstance (r.refineAll guess answers) guess = true := by
  induction answers generalizing guess with
  | nil => exact isInstance_refl r guess
  | cons a answers ih => exact isInstance_trans (ih (r.refine guess a)) (isInstance_refine r guess a)

/-- The last guess is the first one or one of the answers. -/
theorem refineAll_eq_or_mem (r : Registry) (guess : MediaType) (answers : List MediaType) :
    r.refineAll guess answers = guess ∨ r.refineAll guess answers ∈ answers := by
  induction answers generalizing guess with
  | nil => exact .inl rfl
  | cons a answers ih =>
    rw [refineAll_cons]
    rcases ih (r.refine guess a) with hlast | hmem
    · rw [hlast, List.mem_cons]
      rcases refine_eq_or r guess a with hguess | ha
      · exact .inl hguess
      · exact .inr (.inl ha)
    · exact .inr (List.mem_cons_of_mem a hmem)

/-- **No answer is more specific than the last guess.**  One that was taken lies above the last
    guess; one that was not would have been taken, if it were below the last guess and so below the
    guess at that time. -/
theorem not_moreSpecific_refineAll (ha : a ∈ answers) :
    ¬ r.MoreSpecific a (r.refineAll guess answers) := by
  induction answers generalizing guess with
  | nil => cases ha
  | cons b answers ih =>
    rcases List.mem_cons.mp ha with rfl | ha
    · rintro ⟨hbelow, hapart⟩
      -- The last guess lies below what the guess became when this answer was heard.
      have hlast : r.isInstance (r.refineAll guess (a :: answers)) (r.refine guess a) = true :=
        isInstance_refineAll r (r.refine guess a) answers
      have htaken : r.isSpecialization a guess = true :=
        isSpecialization_trans_isInstance hbelow
          (isInstance_trans hlast (isInstance_refine r guess a))
      rw [refine, if_pos htaken, hapart] at hlast
      cases hlast
    · exact ih ha

end Registry

/-! ### Composites -/

namespace Detector

variable {registry : Registry} {guess t a : MediaType} {cls : ClassRef} {children : List Detector}
  {answers : List MediaType} {s : Option Stream} {m : Metadata}

/-- Whether these are the answers of some detectors, in their order, so that none of them fails. -/
def Answers (s : Option Stream) (m : Metadata) (children : List Detector)
    (answers : List MediaType) : Prop :=
  (children.map fun d => d.answer s m) = answers.map .ok

theorem answers_cons_iff {d : Detector} {ds : List Detector} :
    Answers s m (d :: ds) answers ↔
      ∃ a rest, answers = a :: rest ∧ d.answer s m = .ok a ∧ Answers s m ds rest := by
  unfold Answers
  rw [List.map_cons, eq_comm, List.map_eq_cons_iff]
  simp only [eq_comm]

theorem Answers.mem_iff (h : Answers s m children answers) :
    a ∈ answers ↔ ∃ d ∈ children, d.answer s m = .ok a := by
  have hinjective : Function.Injective (Except.ok : MediaType → Except Failure MediaType) :=
    fun _ _ => Except.ok.inj
  rw [← List.mem_map_of_injective hinjective, ← h, List.mem_map]

/-- Detectors have answers where none of them fails. -/
theorem exists_answers_iff :
    (∃ answers, Answers s m children answers) ↔ ∀ d ∈ children, ∃ a, d.answer s m = .ok a := by
  induction children with
  | nil => exact iff_of_true ⟨[], rfl⟩ nofun
  | cons d ds ih =>
    rw [List.forall_mem_cons, ← ih]
    simp only [answers_cons_iff]
    constructor
    · rintro ⟨_, a, rest, -, ha, hrest⟩
      exact ⟨⟨a, ha⟩, rest, hrest⟩
    · rintro ⟨⟨a, ha⟩, rest, hrest⟩
      exact ⟨a :: rest, a, rest, rfl, ha, hrest⟩

/-- Asked one after another, detectors refine the guess by their answers. -/
theorem result_detectAll_eq_ok_iff :
    (detectAll m registry guess children).result s = .ok t ↔
      ∃ answers, Answers s m children answers ∧ registry.refineAll guess answers = t := by
  induction children generalizing guess with
  | nil => simp [detectAll, Answers]
  | cons d ds ih =>
    rw [detectAll, (keeps_detect m d).result_bind, bind_eq_ok]
    simp only [ih, answers_cons_iff]
    constructor
    · rintro ⟨a, ha, answers, hanswers, rfl⟩
      exact ⟨a :: answers, ⟨a, answers, rfl, ha, hanswers⟩, rfl⟩
    · rintro ⟨_, ⟨a, answers, rfl, ha, hanswers⟩, rfl⟩
      exact ⟨a, ha, answers, hanswers, rfl⟩

/-- What a composite answers, from the answers of its children. -/
theorem answer_composite_eq_ok_iff :
    (composite cls registry children).answer s m = .ok t ↔
      ∃ answers, Answers s m children answers ∧ registry.refineAll .octetStream answers = t := by
  have hkeeps := keeps_detectAll m registry .octetStream children
  rw [← result_detectAll_eq_ok_iff, answer, detect, hkeeps.result_bind, bind_eq_ok]
  simp [(Look.keeps_report _ _).result_bind, bind_eq_ok]

/-- **A composite keeps a most specific answer.**  Where none of its children fails, a composite
    answers `application/octet-stream` or what one of them answers.  The answer is an instance of
    `application/octet-stream`, and none of the children has an answer that is strictly more
    specific, whatever supertypes are recorded. -/
theorem composite_most_specific (cls : ClassRef) (registry : Registry)
    (h : ∀ d ∈ children, ∃ a, d.answer s m = .ok a) :
    ∃ t, (composite cls registry children).answer s m = .ok t ∧
      (t = .octetStream ∨ ∃ d ∈ children, d.answer s m = .ok t) ∧
      registry.isInstance t .octetStream = true ∧
      ∀ d ∈ children, ∀ a, d.answer s m = .ok a → ¬ registry.MoreSpecific a t := by
  obtain ⟨answers, hanswers⟩ := exists_answers_iff.mpr h
  refine ⟨registry.refineAll .octetStream answers,
    answer_composite_eq_ok_iff.mpr ⟨answers, hanswers, rfl⟩, ?_,
    registry.isInstance_refineAll .octetStream answers, ?_⟩
  · rcases registry.refineAll_eq_or_mem .octetStream answers with hfirst | hmem
    · exact .inl hfirst
    · exact .inr (hanswers.mem_iff.mp hmem)
  · intro d hd a ha
    exact Registry.not_moreSpecific_refineAll (hanswers.mem_iff.mpr ⟨d, hd, ha⟩)

/-- A registry in which `application/octet-stream` has a supertype, and so lies on a cycle. -/
def toplessRegistry : Registry :=
  (Draft.empty.addSupertype .octetStream (.ofApplication "x-a")).freeze

/-- Types on one cycle specialize each other, and neither is more specific. -/
example : toplessRegistry.isSpecialization .octetStream (.ofApplication "x-a") = true ∧
    ¬ toplessRegistry.MoreSpecific .octetStream (.ofApplication "x-a") ∧
    ¬ toplessRegistry.MoreSpecific (.ofApplication "x-a") .octetStream := by
  decide

/-- A detector that tells the same type of every document. -/
def telling (t : MediaType) : Detector := .leaf baseClass (.fixed t)

/-- What some such detectors tell: two types on the cycle, a kind of picture, and a type above it. -/
def toldTypes : List MediaType :=
  [.ofApplication "x-a", .octetStream, ⟨"image", "svg+xml", []⟩, .applicationXml]

/-- The picture is kept, although the guess went around the cycle before. -/
theorem composite_most_specific_topless :
    (∀ d ∈ toldTypes.map telling, ∃ a, d.answer none .empty = .ok a) ∧
      (composite compositeClass toplessRegistry (toldTypes.map telling)).answer none .empty
        = .ok ⟨"image", "svg+xml", []⟩ ∧
      toplessRegistry.isSpecialization .octetStream .octetStream = true ∧
      ∀ a ∈ toldTypes, ¬ toplessRegistry.MoreSpecific a ⟨"image", "svg+xml", []⟩ := by
  have htold : ∀ a, (telling a).answer none .empty = .ok a := fun _ => rfl
  have hanswers : ∀ d ∈ toldTypes.map telling, ∃ a, d.answer none .empty = .ok a := by
    intro d hd
    obtain ⟨a, -, rfl⟩ := List.mem_map.mp hd
    exact ⟨a, htold a⟩
  have hpicture : (composite compositeClass toplessRegistry (toldTypes.map telling)).answer none
      .empty = .ok ⟨"image", "svg+xml", []⟩ :=
    answer_composite_eq_ok_iff.mpr ⟨toldTypes, rfl, by decide⟩
  obtain ⟨t, ht, -, -, hmost⟩ := composite_most_specific compositeClass toplessRegistry hanswers
  rw [hpicture, Except.ok.injEq] at ht
  refine ⟨hanswers, hpicture, by decide, fun a ha => ?_⟩
  rw [ht]
  exact hmost (telling a) (List.mem_map_of_mem ha) a (htold a)

end Detector

end MediaGraph
