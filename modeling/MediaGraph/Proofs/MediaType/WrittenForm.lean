import MediaGraph.Proofs.MediaType.Grammar

namespace MediaGraph.MediaType

/-!
# The written form of a type that was read

A type can be spelled in many ways, and is written in one.  What is read of a text is in normal form,
its names are tokens, and none of its values holds a semicolon, since the text was cut at all of
them.  So it is read again from its written form, and the written form stands for the type.

* `isToken_lower` — a token in lower case is a token.
* `wellNamed_of_read`, `semicolon_not_mem_of_read` — what is known of a type that was read.
* `exists_read_iff` — the types that some text spells.
* `render_normal_form` — reading and writing of types that were read.
-/

variable {t : MediaType} {text name type subtype : String} {pieces : List (List Char)}
  {p : String × String} {pairs : List (String × String)}

/-! ### Names in lower case -/

theorem isTokenChar_toLower {c : Char} (hc : isTokenChar c = true) :
    isTokenChar c.toLower = true := by
  have letters : ∀ c : Char, c.toNat < 0x80 → isTokenChar c = true →
      isTokenChar c.toLower = true := Text.forall_ascii (by decide)
  have hascii : c.toNat < 0x80 := by
    have := isTokenChar_bounds hc
    omega
  exact letters c hascii hc

theorem isTokenStart_toLower {c : Char} (hc : isTokenStart c = true) :
    isTokenStart c.toLower = true := by
  have letters : ∀ c : Char, c.toNat < 0x80 → isTokenStart c = true →
      isTokenStart c.toLower = true := Text.forall_ascii (by decide)
  have htoken : isTokenChar c = true := by
    rw [isTokenChar, Bool.or_eq_true]
    exact .inl hc
  have hascii : c.toNat < 0x80 := by
    have := isTokenChar_bounds htoken
    omega
  exact letters c hascii hc

/-- A token in lower case is a token. -/
theorem isToken_lower (h : isToken name.toList = true) : isToken (Text.lower name).toList = true := by
  have hascii : ∀ c ∈ name.toList, c.toNat < 0x80 := by
    intro c hc
    have := isTokenChar_bounds (tokenChars_of_isToken h c hc)
    omega
  rw [Text.lower, String.toList_ofList, Text.lowerChars_of_ascii hascii]
  cases hname : name.toList with
  | nil =>
    rw [hname] at h
    cases h
  | cons c cs =>
    rw [hname, isToken, Bool.and_eq_true, List.all_eq_true] at h
    rw [List.map_cons, isToken, Bool.and_eq_true, List.all_eq_true]
    refine ⟨isTokenStart_toLower h.1, fun d hd => ?_⟩
    obtain ⟨c', hc', rfl⟩ := List.mem_map.mp hd
    exact isTokenChar_toLower (h.2 c' hc')

/-! ### What is read -/

/-- A value stands in one of the pieces. -/
theorem SpellsParameters.exists_subset (h : SpellsParameters pieces pairs) (hp : p ∈ pairs) :
    ∃ piece ∈ pieces, p.2.toList ⊆ piece := by
  induction h with
  | nil => cases hp
  | blank _ _ ih =>
    obtain ⟨piece, hpiece, hsubset⟩ := ih hp
    exact ⟨piece, List.mem_cons_of_mem _ hpiece, hsubset⟩
  | parameter hq _ ih =>
    rcases List.mem_cons.mp hp with rfl | hp
    · obtain ⟨left, right, written, rfl, -, hpadded, hvalue⟩ := hq
      refine ⟨_, List.mem_cons_self, fun c hc => ?_⟩
      have hright : c ∈ right := hpadded.subset (hvalue.subset hc)
      exact List.mem_append_right _ (List.mem_cons_of_mem _ hright)
    · obtain ⟨piece, hpiece, hsubset⟩ := ih hp
      exact ⟨piece, List.mem_cons_of_mem _ hpiece, hsubset⟩

/-- What is read is in normal form. -/
theorem normal_of_read (h : read text = .ok t) : t.Normal := by
  obtain ⟨type, subtype, pairs, -, rfl⟩ := read_eq_ok_iff_spells.mp h
  exact normal_of type subtype pairs

/-- A parameter that is read was given by the text, its name in some case. -/
theorem exists_given_of_mem (h : ∀ q ∈ pairs, isToken q.1.toList = true)
    (hp : p ∈ normalParameters pairs) : ∃ q ∈ pairs, Text.lower q.1 = p.1 ∧ q.2 = p.2 := by
  obtain ⟨before, written, after, rfl, hname, -⟩ := (mem_normalParameters_iff_lastGiven h).mp hp
  exact ⟨(written, p.2), by simp, hname, rfl⟩

/-- The names of what is read are tokens. -/
theorem wellNamed_of_read (h : read text = .ok t) : t.WellNamed := by
  obtain ⟨type, subtype, pairs, hspells, rfl⟩ := read_eq_ok_iff_spells.mp h
  obtain ⟨head, pieces, -, ⟨left, right, -, hleft, hright⟩, hparameters⟩ := hspells
  have hnames : ∀ q ∈ pairs, isToken q.1.toList = true := fun q => hparameters.isToken
  constructor
  · rw [of, normalName_of_isToken hleft.1]
    exact isToken_lower hleft.1
  · rw [of, normalName_of_isToken hright.1]
    exact isToken_lower hright.1
  · intro p hp
    obtain ⟨q, hq, hname, -⟩ := exists_given_of_mem hnames hp
    rw [← hname]
    exact isToken_lower (hnames q hq)

/-- No value of what is read holds a semicolon. -/
theorem semicolon_not_mem_of_read (h : read text = .ok t) : ∀ p ∈ t.parameters, ';' ∉ p.2.toList := by
  obtain ⟨type, subtype, pairs, hspells, rfl⟩ := read_eq_ok_iff_spells.mp h
  obtain ⟨head, pieces, hcut, -, hparameters⟩ := hspells
  intro p hp hsemicolon
  obtain ⟨q, hq, -, hvalue⟩ := exists_given_of_mem (fun q => hparameters.isToken) hp
  obtain ⟨piece, hpiece, hsubset⟩ := hparameters.exists_subset hq
  rw [← hvalue] at hsemicolon
  exact hcut.apart piece (List.mem_cons_of_mem _ hpiece) (hsubset hsemicolon)

/-- **The types that some text spells** are those in normal form with tokens for names and no
    semicolon in a value. -/
theorem exists_read_iff :
    (∃ text, read text = .ok t) ↔
      t.Normal ∧ t.WellNamed ∧ ∀ p ∈ t.parameters, ';' ∉ p.2.toList := by
  constructor
  · rintro ⟨text, h⟩
    exact ⟨normal_of_read h, wellNamed_of_read h, semicolon_not_mem_of_read h⟩
  · rintro ⟨hnormal, hnamed, hvalues⟩
    exact ⟨t.render, hnamed.read_render hnormal hvalues⟩

/-- What was read is read again from its written form. -/
theorem read_render_of_read (h : read text = .ok t) : read t.render = .ok t := by
  obtain ⟨hnormal, hnamed, hvalues⟩ := exists_read_iff.mp ⟨text, h⟩
  exact hnamed.read_render hnormal hvalues

/-- **The written form is a normal form.**  A type that was read is read again from its written form,
    and two types that were read are written in the same way only when they are the same. -/
theorem render_normal_form {text₁ text₂ : String} {t₁ t₂ : MediaType} (h₁ : read text₁ = .ok t₁)
    (h₂ : read text₂ = .ok t₂) :
    read t₁.render = .ok t₁ ∧ (t₁.render = t₂.render ↔ t₁ = t₂) := by
  have hagain₁ := read_render_of_read h₁
  have hagain₂ := read_render_of_read h₂
  refine ⟨hagain₁, fun hrender => ?_, fun h => h ▸ rfl⟩
  rw [hrender, hagain₂, Except.ok.injEq] at hagain₁
  exact hagain₁.symm

/-- The text with blanks that is used above, and another one that spells the same type. -/
theorem render_normal_form_spaced :
    ∃ t, read spaced = .ok t ∧ read "TEXT/plain;charset=latin1;A=\"x\\\\ \\\"yz\"" = .ok t ∧
      read t.render = .ok t ∧ t.render = "text/plain; a=\"x\\\\ \\\"yz\"; charset=latin1" := by
  have h₁ : read spaced = .ok ⟨"text", "plain", [("a", "x\\ \"yz"), ("charset", "latin1")]⟩ := by
    decide +kernel
  have h₂ : read "TEXT/plain;charset=latin1;A=\"x\\\\ \\\"yz\""
      = .ok ⟨"text", "plain", [("a", "x\\ \"yz"), ("charset", "latin1")]⟩ := by
    decide +kernel
  obtain ⟨hagain, -⟩ := render_normal_form h₁ h₂
  exact ⟨_, h₁, h₂, hagain, by decide +kernel⟩

end MediaGraph.MediaType
