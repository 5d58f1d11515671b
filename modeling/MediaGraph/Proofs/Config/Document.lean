import MediaGraph.Config.Document
import MediaGraph.Proofs.Traced

namespace MediaGraph.Config.Document

/-!
# Failures of documents

Ill-formed markup is a problem of the configuration.  A text fails in no other way; bytes can also
declare an encoding that they cannot be read in.

* `not_escapes_ofText` — nothing escapes from reading a text.
* `EncodingFault` — a declared encoding that is looked up and fails, or is of no use.
* `fault_of_ofBytes` — bytes are not read for a fault of their encoding or of their markup.
* `escapes_ofBytes` — what escapes from reading bytes.
-/

/-- A failure to find out the characters of a document that is no fault of its markup: the declared
    encoding has to be looked up, and that fails, or more than one byte stands for a character. -/
inductive EncodingFault (codecs : Codecs) (bytes : Bytes) : Failure → Prop
  | codec {name : String} {f : Failure} (hname : Xml.foreignEncoding? bytes = some name)
      (hfails : codecs.decode name Xml.allBytes = .error f) : EncodingFault codecs bytes f
  | multiByte {name : String} {table : List Char}
      (hname : Xml.foreignEncoding? bytes = some name)
      (htable : codecs.decode name Xml.allBytes = .ok table) (hlength : table.length ≠ 256) :
      EncodingFault codecs bytes (.invalidValue .multiByteEncoding)

variable {codecs : Codecs} {bytes : Bytes} {name : String} {f : Failure}

/-- A fault of the encoding comes from outside. -/
theorem EncodingFault.isForeign (h : EncodingFault codecs bytes f) : f.isForeign = true := by
  cases h with
  | codec _ hfails => exact codecs.foreign _ _ _ hfails
  | multiByte => rfl

/-! ### Texts -/

/-- A failure that is a fault of the markup. -/
def IsMarkupFault (f : Failure) : Prop := f = .malformedMarkup

/-- Characters that are not read as markup have a fault in it. -/
theorem failsOnly_ofChars (cs : List Char) :
    FailsOnly IsMarkupFault ((Xml.ofChars cs).mapError Xml.Fault.toFailure) := by
  cases Xml.ofChars cs with
  | ok root => exact failsOnly_ok
  | error fault =>
    cases fault
    exact failsOnly_error rfl

/-- **Nothing escapes from reading a text.** -/
theorem not_escapes_ofText (text source : String) : ¬ Escapes f (ofText text source) := by
  intro h
  obtain ⟨g, hg, rfl, hf⟩ := escapes_mapError.mp h
  have hmarkup : g = .malformedMarkup := failsOnly_ofChars _ g hg
  rw [hmarkup] at hf
  cases hf

/-! ### Encodings that are known -/

theorem failsOnly_faultless (cs : List (Option Char)) :
    FailsOnly IsMarkupFault (Xml.faultless cs) := by
  unfold Xml.faultless
  split
  · exact failsOnly_ok
  · exact failsOnly_error rfl

theorem failsOnly_decodeUtf8 (bytes : Bytes) : FailsOnly IsMarkupFault (Xml.decodeUtf8 bytes) := by
  unfold Xml.decodeUtf8
  split
  · exact failsOnly_error rfl
  · exact failsOnly_ok

theorem failsOnly_decodeKnown (width : Xml.Width) (name : String) (bytes : Bytes) :
    FailsOnly IsMarkupFault (Xml.decodeKnown width name bytes) := by
  unfold Xml.decodeKnown
  split
  · exact failsOnly_decodeUtf8 bytes
  · exact failsOnly_ok
  · exact failsOnly_faultless _
  · exact failsOnly_faultless _
  · exact failsOnly_faultless _
  · exact failsOnly_faultless _
  · exact failsOnly_error rfl

/-! ### Encodings that are looked up -/

/-- A table of characters is missing for a fault of the codec, for its length, or for what it does
    to markup. -/
theorem byteTable_eq_error_iff :
    Xml.byteTable codecs name = .error f ↔
      codecs.decode name Xml.allBytes = .error f ∨
        ∃ table, codecs.decode name Xml.allBytes = .ok table ∧
          (table.length ≠ 256 ∧ f = .invalidValue .multiByteEncoding ∨
            table.length = 256 ∧ Xml.fitsMarkup table = false ∧ f = .malformedMarkup) := by
  unfold Xml.byteTable
  rw [bind_eq_error]
  refine or_congr_right (exists_congr fun table => and_congr_right fun _ => ?_)
  by_cases hlength : table.length = 256
  · cases hfits : Xml.fitsMarkup table <;> simp [hlength, pure, Except.pure, @eq_comm _ _ f]
  · simp [hlength, @eq_comm _ _ f]

/-- A document without an encoding that is looked up fails for its markup only. -/
theorem failsOnly_decodeDocument (hname : Xml.foreignEncoding? bytes = none) :
    FailsOnly IsMarkupFault (Xml.decodeDocument codecs bytes) := by
  unfold Xml.foreignEncoding? at hname
  unfold Xml.decodeDocument
  dsimp only at hname ⊢
  split
  · exact failsOnly_decodeKnown _ _ _
  · next name length hdeclared =>
    have hknown : Xml.isKnown name = true := by simpa [hdeclared] using hname
    rw [if_pos hknown]
    exact failsOnly_decodeKnown _ _ _

/-- One with such an encoding needs its table first, and then fails for its markup only. -/
theorem exists_decodeDocument_eq_bind (codecs : Codecs)
    (hname : Xml.foreignEncoding? bytes = some name) :
    ∃ rest : List Char → Except Failure (List Char),
      Xml.decodeDocument codecs bytes = Xml.byteTable codecs name >>= rest ∧
        ∀ table, FailsOnly IsMarkupFault (rest table) := by
  unfold Xml.foreignEncoding? at hname
  unfold Xml.decodeDocument
  dsimp only at hname ⊢
  split
  · next hdeclared => simp [hdeclared] at hname
  · next declared length hdeclared =>
    obtain ⟨rfl, hforeign⟩ : declared = name ∧ Xml.isKnown name = false := by
      simpa [hdeclared, Option.filter_eq_some_iff] using hname
    rw [hforeign]
    exact ⟨_, rfl, fun table => failsOnly_bind (failsOnly_faultless _) fun _ => failsOnly_ok⟩

/-! ### Documents -/

/-- The characters of a document are missing for a fault of its encoding or of its markup. -/
theorem fault_of_decodeDocument (h : Xml.decodeDocument codecs bytes = .error f) :
    f = .malformedMarkup ∨ EncodingFault codecs bytes f := by
  cases hname : Xml.foreignEncoding? bytes with
  | none => exact .inl (failsOnly_decodeDocument hname f h)
  | some name =>
    obtain ⟨rest, hbind, hrest⟩ := exists_decodeDocument_eq_bind codecs hname
    rw [hbind, bind_eq_error, byteTable_eq_error_iff] at h
    rcases h with (hfails | ⟨table, htable, ⟨hlength, rfl⟩ | ⟨-, -, rfl⟩⟩) | ⟨table, -, h⟩
    · exact .inr (.codec hname hfails)
    · exact .inr (.multiByte hname htable hlength)
    · exact .inl rfl
    · exact .inl (hrest table f h)

/-- A fault of the encoding is met before the markup is looked at. -/
theorem EncodingFault.decodeDocument_eq (h : EncodingFault codecs bytes f) :
    Xml.decodeDocument codecs bytes = .error f := by
  cases h with
  | codec hname hfails =>
    obtain ⟨rest, hbind, -⟩ := exists_decodeDocument_eq_bind codecs hname
    rw [hbind, bind_eq_error, byteTable_eq_error_iff]
    exact .inl (.inl hfails)
  | multiByte hname htable hlength =>
    obtain ⟨rest, hbind, -⟩ := exists_decodeDocument_eq_bind codecs hname
    rw [hbind, bind_eq_error, byteTable_eq_error_iff]
    exact .inl (.inr ⟨_, htable, .inl ⟨hlength, rfl⟩⟩)

/-- The element of a document is missing for a fault of its encoding or of its markup. -/
theorem fault_of_ofBytes (h : Xml.ofBytes codecs bytes = .error f) :
    f = .malformedMarkup ∨ EncodingFault codecs bytes f := by
  have hread : (Xml.decodeDocument codecs bytes >>= fun cs =>
      (Xml.ofChars cs).mapError Xml.Fault.toFailure) = .error f := h
  rcases bind_eq_error.mp hread with hdecode | ⟨cs, -, hchars⟩
  · exact fault_of_decodeDocument hdecode
  · exact .inl (failsOnly_ofChars cs f hchars)

/-- Markup is not looked at when the characters are missing for a fault of the encoding. -/
theorem EncodingFault.ofBytes_eq (h : EncodingFault codecs bytes f) :
    Xml.ofBytes codecs bytes = .error f := by
  show (Xml.decodeDocument codecs bytes >>= _) = _
  rw [h.decodeDocument_eq]
  rfl

/-- A failure that comes from outside is handed on as it is. -/
theorem ofMarkup_of_isForeign (hf : f.isForeign = true) (source : String) :
    ofMarkup source f = f := by
  cases f <;> first | rfl | cases hf

/-- **What escapes from reading bytes** is a fault of the encoding. -/
theorem escapes_ofBytes (codecs : Codecs) (bytes : Bytes) (source : String) :
    Escapes f (ofBytes codecs bytes source) ↔ EncodingFault codecs bytes f := by
  unfold ofBytes
  rw [escapes_mapError]
  constructor
  · rintro ⟨g, hg, rfl, hf⟩
    rcases fault_of_ofBytes hg with rfl | hfault
    · cases hf
    · rw [ofMarkup_of_isForeign hfault.isForeign]
      exact hfault
  · intro h
    exact ⟨f, h.ofBytes_eq, ofMarkup_of_isForeign h.isForeign source,
      Failure.isConfiguration_of_isForeign h.isForeign⟩

end MediaGraph.Config.Document
