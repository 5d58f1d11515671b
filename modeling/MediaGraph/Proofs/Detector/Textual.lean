import MediaGraph.Proofs.Detector.Window
import MediaGraph.Proofs.Text.Utf8

namespace MediaGraph

open Text.Utf8 (Valid Stuck Unfinished firstFault?)

/-!
# What passes for text

The detector of texts asks for the first bytes, as many as its window holds.  They pass for text if
there are some, none of them is zero, few of them are control characters, and a first fault in the
encoding comes no earlier than three bytes before their end.  A character that is cut at the end of
the window makes no earlier fault, so a cut never hides a text.  But other faults in the last three
bytes pass as well, although no text goes on from there.

* `Clean` — what is asked of the bytes besides their encoding.
* `Detector.answer_textual_eq_ok_iff` — when the detector tells that a document is text.
* `Detector.answer_textual_of_valid` — what it tells of a text, wherever the window cuts it.
* `StrayEnd`, `Detector.begins_text_iff` — when bytes pass with which no text begins.
-/

/-! ### The bytes that are looked at -/

/-- The bytes that a request for `length` bytes finds. -/
def Stream.ahead (s : Stream) (length : Int) : Bytes := s.remaining.take (s.requested length)

/-- A byte below the space that is none of tabulator, line feed, form feed, carriage return and
    escape. -/
def OddControl (b : UInt8) : Prop := b < 0x20 ∧ b ∉ [0x09, 0x0A, 0x0C, 0x0D, 0x1B]

instance : DecidablePred OddControl := fun b =>
  inferInstanceAs (Decidable (b < 0x20 ∧ b ∉ [0x09, 0x0A, 0x0C, 0x0D, 0x1B]))

/-- Whether there are bytes, none of them zero and at most a tenth of them odd control
    characters. -/
structure Clean (head : Bytes) : Prop where
  nonempty : head ≠ []
  nonzero : 0 ∉ head
  controls : 10 * head.countP (fun b => OddControl b) ≤ head.length

variable {head : Bytes} {s : Stream} {m : Metadata} {cls : ClassRef} {window : Int}

namespace Sense

theorem oddControls_eq (head : Bytes) : oddControls head = head.countP (fun b => OddControl b) := by
  rw [oddControls, List.countP_eq_length_filter]
  congr 2
  funext b
  simp [OddControl, textControls]

/-- The first fault comes late, if at all, where all but three bytes are a text. -/
theorem late_fault_iff :
    (∀ start, firstFault? head = some start → head.length ≤ start + 3) ↔
      ∃ text rest, head = text ++ rest ∧ Valid text ∧ rest.length ≤ 3 := by
  constructor
  · intro h
    cases hfault : firstFault? head with
    | none =>
      have hvalid := Text.Utf8.firstFault?_eq_none_iff.mp hfault
      exact ⟨head, [], (List.append_nil head).symm, hvalid, Nat.zero_le 3⟩
    | some start =>
      have hlate := h start hfault
      obtain ⟨text, rest, rfl, htext, rfl, -⟩ := Text.Utf8.firstFault?_eq_some_iff.mp hfault
      rw [List.length_append] at hlate
      exact ⟨text, rest, rfl, htext, by omega⟩
  · rintro ⟨text, rest, rfl, htext, hrest⟩ start hstart
    rw [Text.Utf8.firstFault?_append htext, Option.map_eq_some_iff] at hstart
    obtain ⟨n, -, rfl⟩ := hstart
    rw [List.length_append]
    omega

/-- **Bytes pass for text** if they are clean and all but the last three of them are a text. -/
theorem looksTextual_iff :
    looksTextual head = true ↔
      Clean head ∧ ∃ text rest, head = text ++ rest ∧ Valid text ∧ rest.length ≤ 3 := by
  have hclean : Clean head ↔ (head ≠ [] ∧ 0 ∉ head) ∧ oddControls head * 10 ≤ head.length := by
    rw [oddControls_eq, Nat.mul_comm]
    exact ⟨fun h => ⟨⟨h.nonempty, h.nonzero⟩, h.controls⟩, fun h => ⟨h.1.1, h.1.2, h.2⟩⟩
  rw [← late_fault_iff, hclean, looksTextual]
  cases firstFault? head <;> simp

end Sense

namespace Detector

/-- What the detector of texts tells of a stream is what the bytes tell that its peek finds. -/
theorem answer_textual (cls : ClassRef) (window : Int) (s : Stream) (m : Metadata) :
    (leaf cls (.textual window)).answer (some s) m
      = (s.peek window).1.map fun head =>
          if Sense.looksTextual head then .textPlain else .octetStream := by
  rw [answer, detect]
  change (Look.peek window >>= fun head => pure _).result (some s) = _
  rw [(Look.keeps_peek window).result_bind, Look.result_peek]
  cases (s.peek window).1 <;> rfl

/-- Where the window can be a length and the stream can go back, the bytes ahead are looked at. -/
theorem answer_textual_of_isMeasure (hs : s.seekable = true)
    (hwindow : Stream.isMeasure window = true) :
    (leaf cls (.textual window)).answer (some s) m
      = .ok (if Sense.looksTextual (s.ahead window) then .textPlain else .octetStream) := by
  rw [answer_textual, Stream.peek_of_isMeasure hs hwindow]
  rfl

/-- **A document is told to be text** where the stream can go back, the window can be a length, and
    the bytes ahead pass for text. -/
theorem answer_textual_eq_ok_iff :
    (leaf cls (.textual window)).answer (some s) m = .ok .textPlain ↔
      s.seekable = true ∧ Stream.isMeasure window = true ∧ Clean (s.ahead window) ∧
        ∃ text rest, s.ahead window = text ++ rest ∧ Valid text ∧ rest.length ≤ 3 := by
  rw [← Sense.looksTextual_iff]
  by_cases hpeek : s.seekable = true ∧ Stream.isMeasure window = true
  · rw [answer_textual_of_isMeasure hpeek.1 hpeek.2]
    cases Sense.looksTextual (s.ahead window) <;>
      simp [hpeek, MediaType.textPlain, MediaType.octetStream]
  · rw [answer_textual]
    obtain ⟨f, hf⟩ : ∃ f, (s.peek window).1 = .error f := by
      simp only [Stream.peek_eq_error_iff]
      cases hs : s.seekable <;> simp_all
    rw [hf, ← and_assoc]
    simp [hpeek, Except.map]

/-! ### Texts that the window cuts -/

/-- A positive number is a length up to the greatest one. -/
theorem isMeasure_iff_le_limit (hwindow : 1 ≤ window) :
    Stream.isMeasure window = true ↔ window ≤ Stream.limit := by
  unfold Stream.isMeasure Stream.limit
  simp only [Bool.and_eq_true, decide_eq_true_eq]
  omega

/-- Wherever a text is cut, all but the last three bytes in front of the cut are a text. -/
theorem exists_text_of_valid {bytes : Bytes} (h : Valid bytes) (n : Nat) :
    ∃ text rest, bytes.take n = text ++ rest ∧ Valid text ∧ rest.length ≤ 3 := by
  have hgoes : ∃ more, Valid (bytes.take n ++ more) :=
    ⟨bytes.drop n, by rwa [List.take_append_drop]⟩
  obtain ⟨text, rest, hcut, htext, hrest⟩ := Text.Utf8.exists_valid_append_iff.mp hgoes
  exact ⟨text, rest, hcut, htext, hrest.length_le⟩

/-- **A cut never hides a text.**  Of a stream that can go back and whose remaining bytes are those
    of a text, and for a window that can be a length, the detector tells that it is text exactly
    where the bytes in the window are clean, and otherwise that nothing is known.  It refuses a
    stream that cannot go back, and a window beyond the greatest length. -/
theorem answer_textual_of_valid (cls : ClassRef) (m : Metadata) (hwindow : 1 ≤ window)
    (hvalid : Valid s.remaining) :
    (s.seekable = true → window ≤ Stream.limit →
      ((leaf cls (.textual window)).answer (some s) m = .ok .textPlain ↔
        Clean (s.remaining.take window.toNat)) ∧
      ((leaf cls (.textual window)).answer (some s) m = .ok .octetStream ↔
        ¬ Clean (s.remaining.take window.toNat))) ∧
    (s.seekable = false →
      (leaf cls (.textual window)).answer (some s) m = .error (.invalidValue .unseekableStream)) ∧
    (s.seekable = true → Stream.limit < window →
      (leaf cls (.textual window)).answer (some s) m = .error .outOfRange) := by
  have hahead : s.ahead window = s.remaining.take window.toNat := by
    rw [Stream.ahead, Stream.requested, if_neg (by omega)]
  refine ⟨fun hs hlimit => ?_, fun hs => ?_, fun hs hlimit => ?_⟩
  · have hmeasure := (isMeasure_iff_le_limit hwindow).mpr hlimit
    -- The cut leaves a text and an unfinished character, which is no more than three bytes long.
    have hlooks : Sense.looksTextual (s.ahead window) = true ↔
        Clean (s.remaining.take window.toNat) := by
      rw [Sense.looksTextual_iff, hahead]
      exact and_iff_left (exists_text_of_valid hvalid _)
    rw [answer_textual_of_isMeasure hs hmeasure, ← hlooks]
    cases Sense.looksTextual (s.ahead window) <;>
      simp [MediaType.textPlain, MediaType.octetStream]
  · rw [answer_textual, Stream.peek_eq_error_iff.mpr (.inl ⟨hs, rfl⟩)]
    rfl
  · have hmeasure : Stream.isMeasure window = false := by
      rw [Bool.eq_false_iff, ne_eq, isMeasure_iff_le_limit hwindow]
      omega
    rw [answer_textual, Stream.peek_eq_error_iff.mpr (.inr ⟨hs, hmeasure, rfl⟩)]
    rfl

/-- Nine letters and a letter of two bytes. -/
def accentedStream : Stream :=
  .ofBytes [0x61, 0x61, 0x61, 0x61, 0x61, 0x61, 0x61, 0x61, 0x61, 0xC3, 0xA9]

/-- The bytes of the stream are those of a text. -/
theorem valid_accentedStream : Valid accentedStream.remaining :=
  ⟨"aaaaaaaaaé", by decide +kernel⟩

/-- A window of ten bytes ends inside the last letter, and the document is told to be text. -/
theorem answer_textual_of_valid_accented :
    (1 : Int) ≤ 10 ∧ Valid accentedStream.remaining ∧
    (accentedStream.remaining.take 10).getLast? = some 0xC3 ∧
    (leaf textClass (.textual 10)).answer (some accentedStream) .empty = .ok .textPlain := by
  have hclean : Clean (accentedStream.remaining.take 10) :=
    ⟨by decide, by decide, by decide⟩
  have hten : (1 : Int) ≤ 10 := by decide
  refine ⟨hten, valid_accentedStream, by decide, ?_⟩
  exact ((answer_textual_of_valid textClass .empty hten valid_accentedStream).1 rfl
    (by decide)).1.mpr hclean

/-- A stream of one letter that cannot go back is refused, and for a window beyond the greatest
    length so is one that can, although in both cases the letter is clean. -/
theorem answer_textual_refused :
    Valid [0x61] ∧ Clean ([0x61].take 10) ∧
    (leaf textClass (.textual 10)).answer (some ⟨[0x61], 0, false⟩) .empty
      = .error (.invalidValue .unseekableStream) ∧
    ¬ ((leaf textClass (.textual 10)).answer (some ⟨[0x61], 0, false⟩) .empty = .ok .textPlain ↔
      Clean ([0x61].take 10)) ∧
    (leaf textClass (.textual 9223372036854775808)).answer (some (.ofBytes [0x61])) .empty
      = .error .outOfRange := by
  have hclean : Clean ([0x61].take 10) := ⟨by decide, by decide, by decide⟩
  have hrefused : (leaf textClass (.textual 10)).answer (some ⟨[0x61], 0, false⟩) .empty
      = .error (.invalidValue .unseekableStream) := rfl
  refine ⟨⟨"a", by decide +kernel⟩, hclean, hrefused, fun h => ?_, rfl⟩
  have htext := h.mpr hclean
  rw [hrefused] at htext
  cases htext

/-! ### Bytes with which no text begins -/

/-- Whether some bytes are a text and one to three bytes that neither begin with a character nor are
    the beginning of one. -/
def StrayEnd (head : Bytes) : Prop :=
  ∃ text stray, head = text ++ stray ∧ Valid text ∧ stray.length ≤ 3 ∧ Stuck stray ∧
    ¬ Unfinished stray

/-- No text begins with bytes that have a stray end. -/
theorem StrayEnd.not_valid {more : Bytes} (h : StrayEnd head) : ¬ Valid (head ++ more) := by
  obtain ⟨text, stray, rfl, htext, -, hstuck, hstray⟩ := h
  intro hvalid
  obtain ⟨text', part, hcut, htext', hpart⟩ :=
    Text.Utf8.exists_valid_append_iff.mp ⟨more, hvalid⟩
  have hsame : stray = part := hstuck.unique hcut htext htext' hpart.stuck
  exact hstray (hsame ▸ hpart)

/-- Where all but the last three bytes are a text, some text begins with them unless they have a
    stray end. -/
theorem exists_valid_append_iff_not_strayEnd
    (h : ∃ text rest, head = text ++ rest ∧ Valid text ∧ rest.length ≤ 3) :
    (∃ more, Valid (head ++ more)) ↔ ¬ StrayEnd head := by
  constructor
  · rintro ⟨more, hmore⟩ hstray
    exact hstray.not_valid hmore
  · intro hstray
    obtain ⟨text, rest, rfl, htext, hrest⟩ := Text.Utf8.exists_stuck head
    have hlength : rest.length ≤ 3 := by
      by_cases hempty : rest = []
      · rw [hempty]
        exact Nat.zero_le 3
      · have hlate := Sense.late_fault_iff.mpr h text.length
          (Text.Utf8.firstFault?_eq_some_iff.mpr ⟨text, rest, rfl, htext, rfl, hempty, hrest⟩)
        rw [List.length_append] at hlate
        omega
    have hpart : Unfinished rest := by
      by_contra hpart
      exact hstray ⟨text, rest, rfl, htext, hlength, hrest, hpart⟩
    exact Text.Utf8.exists_valid_append_iff.mpr ⟨text, rest, rfl, htext, hpart⟩

/-- **When bytes pass with which no text begins.**  For every window and every stream: where the
    detector tells that a document is text, some text begins with the bytes that it looked at,
    unless these are clean bytes with a stray end, and then the detector tells that they are text
    although none does.  That a text begins with them says that they are a text and perhaps an
    unfinished character.  Without a stream nothing is told to be text. -/
theorem begins_text_iff (cls : ClassRef) (window : Int) (m : Metadata) :
    (∀ s : Stream,
      ((leaf cls (.textual window)).answer (some s) m = .ok .textPlain →
          ∃ more, Valid (s.ahead window ++ more)) ↔
        ¬ (s.seekable = true ∧ Stream.isMeasure window = true ∧ Clean (s.ahead window) ∧
          StrayEnd (s.ahead window))) ∧
    (∀ s : Stream, (∃ more, Valid (s.ahead window ++ more)) ↔
      ∃ text part, s.ahead window = text ++ part ∧ Valid text ∧ Unfinished part) ∧
    (leaf cls (.textual window)).answer none m = .ok .octetStream := by
  refine ⟨fun s => ?_, fun s => Text.Utf8.exists_valid_append_iff, rfl⟩
  rw [answer_textual_eq_ok_iff]
  constructor
  · rintro h ⟨hs, hwindow, hclean, hstray⟩
    have htext : ∃ text rest, s.ahead window = text ++ rest ∧ Valid text ∧ rest.length ≤ 3 := by
      obtain ⟨text, stray, hcut, htext, hlength, -⟩ := hstray
      exact ⟨text, stray, hcut, htext, hlength⟩
    obtain ⟨more, hmore⟩ := h ⟨hs, hwindow, hclean, htext⟩
    exact hstray.not_valid hmore
  · rintro h ⟨hs, hwindow, hclean, htext⟩
    rw [exists_valid_append_iff_not_strayEnd htext]
    exact fun hstray => h ⟨hs, hwindow, hclean, hstray⟩

/-- Three letters and a byte that stands in no text pass for text. -/
theorem answer_textual_stray :
    (leaf textClass (.textual 512)).answer (some (.ofBytes [0x61, 0x62, 0x63, 0xFF])) .empty
      = .ok .textPlain ∧
    (Stream.ofBytes [0x61, 0x62, 0x63, 0xFF]).ahead 512 = [0x61, 0x62, 0x63, 0xFF] ∧
    ∀ more, ¬ Valid ([0x61, 0x62, 0x63, 0xFF] ++ more) := by
  have hletters : Valid [0x61, 0x62, 0x63] := ⟨"abc", by decide +kernel⟩
  have hclean : Clean [0x61, 0x62, 0x63, 0xFF] := ⟨by decide, by decide, by decide⟩
  refine ⟨answer_textual_eq_ok_iff.mpr ⟨rfl, rfl, hclean, _, [0xFF], rfl, hletters, by decide⟩, rfl,
    fun more hvalid => ?_⟩
  have hfault : firstFault? ([0x61, 0x62, 0x63] ++ 0xFF :: more) = none :=
    Text.Utf8.firstFault?_eq_none_iff.mpr hvalid
  have hstep : Text.Utf8.step 0xFF more = .fault 0 := rfl
  rw [Text.Utf8.firstFault?_append hletters, firstFault?, hstep] at hfault
  cases hfault

end Detector

end MediaGraph
