import MediaGraph.Detector.Packaged
import MediaGraph.Proofs.Detector.MostSpecific
import MediaGraph.Repository.Packaged

namespace MediaGraph

/-!
# How far detectors look

The packaged detectors look at a document only by peeking: each of them asks for some number of
bytes, and a composite for the numbers that its children ask for.  So a detector tells the same of
two documents that go on alike as far as it looks, and it fails only where a peek fails.

* `Look.Alike` — a look that finds and reports the same on two streams.
* `Stream.peek_eq_error_iff` — when a peek fails, and how.
* `Detector.Packaged`, `Detector.lengths` — trees of packaged detectors; the numbers of bytes that
  they ask for.
* `Detector.exists_answer_iff`, `Detector.failure_of_answer` — when such a tree fails, and how.
* `Detector.alike_detect` — two documents that it cannot tell apart.
* `Detector.detect_only_looks` — what detection keeps, and what it depends on.
-/

/-! ### Peeking at two streams -/

namespace Look

variable {α β : Type} {x : Look α} {s s' : Option Stream}

/-- Whether a look finds and reports the same on two streams. -/
def Alike (x : Look α) (s s' : Option Stream) : Prop := (x.run s).1 = (x.run s').1

theorem alike_pure (a : α) : (pure a : Look α).Alike s s' := rfl

theorem alike_report (level : Level) (text : String) : (report level text).Alike s s' := rfl

/-- Looks that hand on the stream and find the same on two streams do so one after another. -/
theorem Alike.bind {f : α → Look β} (hx : x.Alike s s') (hkeeps : x.Keeps)
    (hf : ∀ a, (f a).Alike s s') : (x >>= f).Alike s s' := by
  show ((andThen x f).run s).1 = ((andThen x f).run s').1
  have hfound : (x.run s).1 = (x.run s').1 := hx
  have hleft : (x.run s).2 = s := hkeeps s
  have hright : (x.run s').2 = s' := hkeeps s'
  unfold andThen
  dsimp only
  rw [hleft, hright, ← hfound]
  cases (x.run s).1.result with
  | error e => rfl
  | ok a =>
    have hnext : ((f a).run s).1 = ((f a).run s').1 := hf a
    dsimp only
    rw [hnext]

/-- A look that is alike on two streams has one result for both. -/
theorem Alike.result_eq (h : x.Alike s s') : x.result s = x.result s' :=
  congrArg Traced.result h

end Look

namespace Stream

variable {s s' : Stream} {length : Int} {f : Failure}

/-- A peek fails on a stream that cannot go back, and for a length that cannot be one. -/
theorem peek_eq_error_iff :
    (s.peek length).1 = .error f ↔
      s.seekable = false ∧ f = .invalidValue .unseekableStream ∨
        s.seekable = true ∧ isMeasure length = false ∧ f = .outOfRange := by
  unfold peek take
  cases s.seekable <;> cases isMeasure length <;> simp [eq_comm]

/-- A stream that was made able to go back can do so. -/
theorem seekable_ensureSeekable (s : Stream) : s.ensureSeekable.seekable = true := by
  unfold ensureSeekable
  split
  · assumption
  · rfl

/-- A peek succeeds on a stream that can go back, for every possible length. -/
theorem peek_of_isMeasure (hs : s.seekable = true) (hlength : isMeasure length = true) :
    (s.peek length).1 = .ok (s.remaining.take (s.requested length)) := by
  unfold peek take read
  simp [hs, hlength]

/-- A peek of at most `n` bytes finds the same on streams whose next `n` bytes are the same. -/
theorem peek_eq_of_take {n : Nat} (hs : s.seekable = true) (hs' : s'.seekable = true)
    (h : s.remaining.take n = s'.remaining.take n) (hzero : 0 ≤ length) (hn : length ≤ n) :
    (s.peek length).1 = (s'.peek length).1 := by
  have hshort : ∀ bytes : Bytes, bytes.take length.toNat = (bytes.take n).take length.toNat := by
    intro bytes
    rw [List.take_take, Nat.min_eq_left (by omega)]
  have hrequested : ∀ s : Stream, s.requested length = length.toNat := by
    intro s
    rw [requested, if_neg (by omega)]
  unfold peek take read
  simp only [hs, hs', Bool.not_true, Bool.false_eq_true, if_false, hrequested]
  rw [hshort s.remaining, h, ← hshort]
  split <;> rfl

end Stream

/-- Peeking at most `n` bytes ahead is alike on streams whose next `n` bytes are the same. -/
theorem Look.alike_peek {s s' : Stream} {n : Nat} {length : Int} (hs : s.seekable = true)
    (hs' : s'.seekable = true) (h : s.remaining.take n = s'.remaining.take n)
    (hzero : 0 ≤ length) (hn : length ≤ n) : (Look.peek length).Alike (some s) (some s') := by
  show Traced.ofExcept (s.peek length).1 = Traced.ofExcept (s'.peek length).1
  rw [Stream.peek_eq_of_take hs hs' h hzero hn]

/-! ### Trees of packaged detectors -/

/-- Whether a leaf is packaged, and not an implementation's own. -/
def Sense.Packaged : Sense → Prop
  | .custom _ => False
  | _ => True

/-- The numbers of bytes that a leaf asks for. -/
def Sense.lengths : Sense → List Int
  | .emptiness => [1]
  | .textual window => [window]
  | _ => []

namespace Detector

/-- The trees of packaged detectors, over any repositories. -/
inductive Packaged : Detector → Prop where
  | leaf {cls sense} (known : sense.Packaged) : Packaged (.leaf cls sense)
  | repository {cls rules} : Packaged (.repository cls rules)
  | composite {cls registry children} (held : ∀ child ∈ children, Packaged child) :
      Packaged (.composite cls registry children)

mutual

/-- The numbers of bytes that a detector asks for. -/
def lengths : Detector → List Int
  | .leaf _ sense => sense.lengths
  | .repository .. => [Repository.magicWindow]
  | .composite _ _ children => lengthsOfAll children

/-- The numbers of bytes that some detectors ask for. -/
def lengthsOfAll : List Detector → List Int
  | [] => []
  | d :: ds => d.lengths ++ lengthsOfAll ds

end

theorem lengthsOfAll_eq (ds : List Detector) : lengthsOfAll ds = ds.flatMap lengths := by
  induction ds with
  | nil => rfl
  | cons d ds ih => rw [lengthsOfAll, ih, List.flatMap_cons]

/-- A composite asks for what its children ask for. -/
theorem mem_lengths_composite {cls : ClassRef} {registry : Registry} {children : List Detector}
    {n : Int} :
    n ∈ (composite cls registry children).lengths ↔ ∃ child ∈ children, n ∈ child.lengths := by
  rw [lengths, lengthsOfAll_eq, List.mem_flatMap]

end Detector

/-! ### Documents that cannot be told apart -/

section

variable {s s' : Stream} {m : Metadata}

/-- A leaf that is packaged tells the same of streams on which its peeks are alike. -/
theorem Sense.alike_detect {sense : Sense} (known : sense.Packaged)
    (h : ∀ n ∈ sense.lengths, (Look.peek n).Alike (some s) (some s')) :
    (sense.detect m).Alike (some s) (some s') := by
  cases sense with
  | emptiness =>
    refine (h 1 (List.mem_singleton.mpr rfl)).bind (Look.keeps_peek 1) fun head => ?_
    have hstream : Look.hasStream.Alike (some s) (some s') := rfl
    exact hstream.bind Look.keeps_hasStream fun _ => Look.alike_pure _
  | declared => exact Look.alike_pure _
  | textual window =>
    have hpeek := h window (List.mem_singleton.mpr rfl)
    exact hpeek.bind (Look.keeps_peek window) fun _ => Look.alike_pure _
  | custom answer => exact known.elim

/-- A repository tells the same of streams on which its peek is alike. -/
theorem Repository.alike_detect (r : Repository)
    (h : (Look.peek magicWindow).Alike (some s) (some s')) :
    (r.detect m).Alike (some s) (some s') :=
  h.bind (Look.keeps_peek _) fun _ =>
    (Look.alike_report _ _).bind (Look.keeps_report _ _) fun _ => Look.alike_pure _

namespace Detector

variable {d : Detector}

/-- Detectors that each tell the same of two streams refine a guess in the same way. -/
theorem alike_detectAll {registry : Registry} {ds : List Detector} {guess : MediaType}
    (h : ∀ d ∈ ds, (d.detect m).Alike (some s) (some s')) :
    (detectAll m registry guess ds).Alike (some s) (some s') := by
  induction ds generalizing guess with
  | nil =>
    rw [detectAll]
    exact Look.alike_pure guess
  | cons d ds ih =>
    obtain ⟨hd, hds⟩ := List.forall_mem_cons.mp h
    rw [detectAll]
    exact hd.bind (keeps_detect m d) fun _ => ih hds

/-- **A tree of packaged detectors tells the same** of two streams on which all of its peeks are
    alike. -/
theorem alike_detect (known : d.Packaged)
    (h : ∀ n ∈ d.lengths, (Look.peek n).Alike (some s) (some s')) :
    (d.detect m).Alike (some s) (some s') := by
  -- Induction on the tree: a composite asks for all that its children ask for.
  induction known with
  | leaf known =>
    rw [detect]
    exact Sense.alike_detect known h
  | repository =>
    rw [detect]
    exact Repository.alike_detect _ (h _ (List.mem_singleton.mpr rfl))
  | @composite cls registry children _ ih =>
    rw [detect]
    have hall : (detectAll m registry .octetStream children).Alike (some s) (some s') :=
      alike_detectAll fun child hchild => ih child hchild fun n hn =>
        h n (mem_lengths_composite.mpr ⟨child, hchild, hn⟩)
    exact hall.bind (keeps_detectAll m registry _ children) fun _ =>
      (Look.alike_report _ _).bind (Look.keeps_report _ _) fun _ => Look.alike_pure _

end Detector

end

/-! ### When detection fails -/

/-- A step that always succeeds leaves a failure to the look in front of it. -/
theorem Look.result_bind_eq_error_iff {α β : Type} {x : Look α} {next : α → Look β}
    {s : Option Stream} {f : Failure} (hkeeps : x.Keeps)
    (hnext : ∀ a, ∃ b, (next a).result s = .ok b) :
    (x >>= next).result s = .error f ↔ x.result s = .error f := by
  rw [hkeeps.result_bind, bind_eq_error]
  refine or_iff_left ?_
  rintro ⟨a, -, hfails⟩
  obtain ⟨b, hb⟩ := hnext a
  rw [hb] at hfails
  cases hfails

/-- What a peek at a stream finds is what peeking finds. -/
theorem Look.result_peek (s : Stream) (length : Int) :
    (Look.peek length).result (some s) = (s.peek length).1 := rfl

section

variable {s : Option Stream} {m : Metadata} {f : Failure}

/-- A leaf that is packaged fails where its peek does. -/
theorem Sense.result_detect_eq_error_iff {sense : Sense} (known : sense.Packaged) :
    (sense.detect m).result s = .error f ↔
      ∃ n ∈ sense.lengths, (Look.peek n).result s = .error f := by
  have hone : ∀ n, (∃ k ∈ [n], (Look.peek k).result s = .error f) ↔
      (Look.peek n).result s = .error f := by
    intro n
    simp only [List.mem_singleton, exists_eq_left]
  cases sense with
  | emptiness =>
    rw [Sense.lengths, hone]
    exact Look.result_bind_eq_error_iff (Look.keeps_peek 1) fun head => ⟨_, rfl⟩
  | declared => simp [Sense.detect, Sense.lengths]
  | textual window =>
    rw [Sense.lengths, hone]
    exact Look.result_bind_eq_error_iff (Look.keeps_peek window) fun head => ⟨_, rfl⟩
  | custom answer => exact known.elim

/-- A repository fails where its peek does. -/
theorem Repository.result_detect_eq_error_iff (r : Repository) :
    (r.detect m).result s = .error f ↔ (Look.peek magicWindow).result s = .error f :=
  Look.result_bind_eq_error_iff (Look.keeps_peek _) fun _ => ⟨_, rfl⟩

namespace Detector

variable {d : Detector}

/-- Detectors that are asked one after another fail as one of them does. -/
theorem exists_child_of_detectAll {registry : Registry} {ds : List Detector} {guess : MediaType}
    (h : (detectAll m registry guess ds).result s = .error f) :
    ∃ child ∈ ds, child.answer s m = .error f := by
  induction ds generalizing guess with
  | nil =>
    rw [detectAll] at h
    cases h
  | cons d ds ih =>
    -- The first detector fails, or hands the stream on to the others as it was.
    rw [detectAll, (keeps_detect m d).result_bind, bind_eq_error] at h
    rcases h with hd | ⟨a, -, hds⟩
    · exact ⟨d, List.mem_cons_self, hd⟩
    · obtain ⟨child, hchild, hfails⟩ := ih hds
      exact ⟨child, List.mem_cons_of_mem d hchild, hfails⟩

/-- A composite fails as one of its children does. -/
theorem exists_child_of_answer_composite {cls : ClassRef} {registry : Registry}
    {children : List Detector} (h : (composite cls registry children).answer s m = .error f) :
    ∃ child ∈ children, child.answer s m = .error f := by
  rw [answer, detect, Look.result_bind_eq_error_iff (keeps_detectAll m registry _ children)
    fun _ => ⟨_, rfl⟩] at h
  exact exists_child_of_detectAll h

/-- **Detection fails only where a peek fails**, in a tree of packaged detectors. -/
theorem exists_peek_of_answer (known : d.Packaged) (h : d.answer s m = .error f) :
    ∃ n ∈ d.lengths, (Look.peek n).result s = .error f := by
  induction known with
  | leaf known =>
    rw [answer, detect] at h
    exact (Sense.result_detect_eq_error_iff known).mp h
  | repository =>
    rw [answer, detect] at h
    exact ⟨_, List.mem_singleton.mpr rfl, (Repository.result_detect_eq_error_iff _).mp h⟩
  | composite _ ih =>
    obtain ⟨child, hchild, hfails⟩ := exists_child_of_answer_composite h
    obtain ⟨n, hn, hpeek⟩ := ih child hchild hfails
    exact ⟨n, mem_lengths_composite.mpr ⟨child, hchild, hn⟩, hpeek⟩

/-- Where detection succeeds, every peek does: a peek that fails makes the leaf fail that asks for
    it, and with it every composite above. -/
theorem peek_of_answer {t : MediaType} {n : Int} (known : d.Packaged) (h : d.answer s m = .ok t)
    (hn : n ∈ d.lengths) : ∃ bytes, (Look.peek n).result s = .ok bytes := by
  induction known generalizing t with
  | leaf known =>
    rw [answer, detect] at h
    refine exists_ok_of_ne_error fun f hpeek => ?_
    rw [(Sense.result_detect_eq_error_iff known).mpr ⟨n, hn, hpeek⟩] at h
    cases h
  | repository =>
    rw [answer, detect] at h
    obtain rfl : n = Repository.magicWindow := List.mem_singleton.mp hn
    refine exists_ok_of_ne_error fun f hpeek => ?_
    rw [(Repository.result_detect_eq_error_iff _).mpr hpeek] at h
    cases h
  | composite _ ih =>
    -- A composite has an answer only where each of its children has one.
    obtain ⟨answers, hanswers, -⟩ := answer_composite_eq_ok_iff.mp h
    obtain ⟨child, hchild, hn⟩ := mem_lengths_composite.mp hn
    obtain ⟨a, ha⟩ := exists_answers_iff.mp ⟨answers, hanswers⟩ child hchild
    exact ih child hchild ha hn

/-- **Detection succeeds exactly where every peek does**, in a tree of packaged detectors. -/
theorem exists_answer_iff (known : d.Packaged) :
    (∃ t, d.answer s m = .ok t) ↔
      ∀ n ∈ d.lengths, ∃ bytes, (Look.peek n).result s = .ok bytes := by
  constructor
  · rintro ⟨t, ht⟩ n hn
    exact peek_of_answer known ht hn
  · intro h
    refine exists_ok_of_ne_error fun f hanswer => ?_
    obtain ⟨n, hn, hpeek⟩ := exists_peek_of_answer known hanswer
    obtain ⟨bytes, hbytes⟩ := h n hn
    rw [hbytes] at hpeek
    cases hpeek

/-- **How detection fails**, in a tree of packaged detectors: on a stream that cannot go back, or
    where a detector asks for a number of bytes that cannot be a length. -/
theorem failure_of_answer (known : d.Packaged) (h : d.answer s m = .error f) :
    ∃ stream, s = some stream ∧
      (stream.seekable = false ∧ f = .invalidValue .unseekableStream ∨
        stream.seekable = true ∧ f = .outOfRange ∧
          ∃ n ∈ d.lengths, Stream.isMeasure n = false) := by
  obtain ⟨n, hn, hpeek⟩ := exists_peek_of_answer known h
  cases s with
  | none => cases hpeek
  | some stream =>
    rw [Look.result_peek, Stream.peek_eq_error_iff] at hpeek
    refine ⟨stream, rfl, hpeek.imp_right ?_⟩
    rintro ⟨hs, hmeasure, hf⟩
    exact ⟨hs, hf, n, hn, hmeasure⟩

end Detector

end

/-! ### What detection keeps, and what it depends on -/

/-- A number of bytes up to 4096 can be a length. -/
theorem Stream.isMeasure_of_le {n : Int} (hzero : 0 ≤ n) (hn : n ≤ 4096) :
    Stream.isMeasure n = true := by
  unfold Stream.isMeasure Stream.limit
  simp only [Bool.and_eq_true, decide_eq_true_eq]
  omega

namespace Detector

/-- **Detection only looks.**  Let `d` be a tree of packaged detectors, over any repositories, in
    which no detector asks for more than 4096 bytes.  It hands on every stream as it was, position
    included, also where it fails.  It fails only on a stream that cannot go back, and says so.  Of
    two streams that can go back and whose next 4096 bytes are the same it tells the same type, and
    reports the same. -/
theorem detect_only_looks (d : Detector) (m : Metadata) (known : d.Packaged)
    (hlengths : ∀ n ∈ d.lengths, 0 ≤ n ∧ n ≤ 4096) :
    (∀ s, ((d.detect m).run s).2 = s) ∧
    (∀ s f, d.answer s m = .error f →
      f = .invalidValue .unseekableStream ∧ ∃ stream, s = some stream ∧ stream.seekable = false) ∧
    ∀ s s' : Stream, s.seekable = true → s'.seekable = true →
      s.remaining.take 4096 = s'.remaining.take 4096 →
      ((d.detect m).run (some s)).1 = ((d.detect m).run (some s')).1 ∧
        ∃ t, d.answer (some s) m = .ok t ∧ d.answer (some s') m = .ok t := by
  refine ⟨keeps_detect m d, ?_, ?_⟩
  · intro s f h
    obtain ⟨stream, rfl, ⟨hs, hf⟩ | ⟨-, -, n, hn, hmeasure⟩⟩ := failure_of_answer known h
    · exact ⟨hf, stream, rfl, hs⟩
    · rw [Stream.isMeasure_of_le (hlengths n hn).1 (hlengths n hn).2] at hmeasure
      cases hmeasure
  · intro s s' hs hs' hahead
    have halike : (d.detect m).Alike (some s) (some s') := alike_detect known fun n hn =>
      Look.alike_peek hs hs' hahead (hlengths n hn).1 (hlengths n hn).2
    have hanswer : ∃ t, d.answer (some s) m = .ok t := by
      refine (exists_answer_iff known).mpr fun n hn => ?_
      have hmeasure : Stream.isMeasure n = true :=
        Stream.isMeasure_of_le (hlengths n hn).1 (hlengths n hn).2
      exact ⟨_, Stream.peek_of_isMeasure hs hmeasure⟩
    obtain ⟨t, ht⟩ := hanswer
    have ht' : d.answer (some s') m = .ok t := by
      rw [answer, ← halike.result_eq]
      exact ht
    exact ⟨halike, t, ht, ht'⟩

/-- A composite of all packaged detectors, with another composite inside. -/
def nestedDetector : Detector :=
  .composite defaultClass Repository.Packaged.repository.registry
    [.repository repositoryClass Repository.Packaged.repository,
     .leaf zeroSizeClass .emptiness,
     .composite compositeClass .empty
       [.leaf typeClass .declared, .leaf textClass (.textual 4096), .leaf textClass (.textual 0)]]

/-- 4096 equal bytes and one more, which is looked at by no detector. -/
def longStream (last : UInt8) : Stream := .ofBytes (List.replicate 4096 0x41 ++ [last])

/-- The nested detectors tell the same of long streams with different last bytes, hand on a stream
    behind its end, and refuse one that cannot go back. -/
theorem detect_only_looks_nested :
    nestedDetector.Packaged ∧ (∀ n ∈ nestedDetector.lengths, 0 ≤ n ∧ n ≤ 4096) ∧
    longStream 0 ≠ longStream 1 ∧
    (∃ t, nestedDetector.answer (some (longStream 0)) .empty = .ok t ∧
      nestedDetector.answer (some (longStream 1)) .empty = .ok t) ∧
    ((nestedDetector.detect .empty).run (some ⟨[0x41], 7, true⟩)).2 = some ⟨[0x41], 7, true⟩ ∧
    nestedDetector.answer (some ⟨[0x41], 0, false⟩) .empty
      = .error (.invalidValue .unseekableStream) := by
  have hknown : nestedDetector.Packaged := by
    have hinner : ∀ d ∈ [Detector.leaf typeClass .declared, .leaf textClass (.textual 4096),
        .leaf textClass (.textual 0)], d.Packaged := by
      simp only [List.forall_mem_cons]
      exact ⟨.leaf trivial, .leaf trivial, .leaf trivial, nofun⟩
    refine .composite ?_
    simp only [List.forall_mem_cons]
    exact ⟨.repository, .leaf trivial, .composite hinner, nofun⟩
  have hlengths : ∀ n ∈ nestedDetector.lengths, 0 ≤ n ∧ n ≤ 4096 := by decide
  have hdifferent : longStream 0 ≠ longStream 1 := by
    intro h
    have hlast : [(0 : UInt8)] = [1] := List.append_cancel_left (congrArg Stream.bytes h)
    exact absurd hlast (by decide)
  have hfirst : ∀ last, (longStream last).remaining.take 4096 = List.replicate 4096 0x41 :=
    fun _ => List.take_left' List.length_replicate
  have hahead : (longStream 0).remaining.take 4096 = (longStream 1).remaining.take 4096 := by
    rw [hfirst, hfirst]
  have hunseekable : ∀ t, nestedDetector.answer (some ⟨[0x41], 0, false⟩) .empty ≠ .ok t := nofun
  obtain ⟨hkeeps, hfails, hagree⟩ := detect_only_looks nestedDetector .empty hknown hlengths
  refine ⟨hknown, hlengths, hdifferent, (hagree _ _ rfl rfl hahead).2, hkeeps _, ?_⟩
  cases h : nestedDetector.answer (some ⟨[0x41], 0, false⟩) .empty with
  | ok t => exact absurd h (hunseekable t)
  | error f => rw [(hfails _ f h).1]

end Detector

end MediaGraph
