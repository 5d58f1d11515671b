import Mathlib.Data.List.Induction
import MediaGraph.MediaType.Reader
import MediaGraph.Proofs.MediaType.Normal

namespace MediaGraph.MediaType

/-!
# Reading what was written

A media type is written with its values quoted where that is needed, and read by cutting the text at
its semicolons first.  So a written type is read again as long as no value holds a semicolon, which
no quoting hides.

* `readQuoted?_escape` — escaping is undone by reading.
* `readParameter?_piece` — a parameter is read from the piece that it was written as.
* `splitChars_written` — the pieces of a written type.
* `read_render_iff` — which types are read again, and what is reported of the others.
* `read_render_semicolon` — a type that is not read again.
-/

variable {t : MediaType} {value cs ds : List Char} {c d : Char}

/-! ### Tokens -/

theorem isTokenChar_bounds (hc : isTokenChar c = true) : 32 < c.toNat ∧ c.toNat < 127 := by
  -- Letters and digits are told by their code points, which are compared as numbers then.
  change (((decide (c.val ≥ 65 ∧ c.val ≤ 90) || (decide (c.val ≥ 97) && decide (c.val ≤ 122))) ||
    (decide (c.val ≥ 48) && decide (c.val ≤ 57))) || "!#$&^_.+-".toList.contains c) = true at hc
  simp only [Bool.or_eq_true, Bool.and_eq_true, decide_eq_true_eq, List.contains_iff_mem] at hc
  change (((65 ≤ c.toNat ∧ c.toNat ≤ 90) ∨ (97 ≤ c.toNat ∧ c.toNat ≤ 122)) ∨
    (48 ≤ c.toNat ∧ c.toNat ≤ 57)) ∨ c ∈ "!#$&^_.+-".toList at hc
  have marks : ("!#$&^_.+-".toList.all fun d => decide (32 < d.toNat ∧ d.toNat < 127)) = true := by
    decide
  rcases hc with ((hc | hc) | hc) | hc
  · omega
  · omega
  · omega
  · exact of_decide_eq_true (List.all_eq_true.mp marks c hc)

theorem isBlank_eq_false_of_isTokenChar (hc : isTokenChar c = true) : Text.isBlank c = false := by
  have hbounds := isTokenChar_bounds hc
  rw [← Bool.not_eq_true, Text.isBlank_iff]
  have apart : ∀ range ∈ Text.blankRanges, range.2 ≤ 32 ∨ 127 ≤ range.1 := by decide
  rintro ⟨range, hrange, hin⟩
  have := apart range hrange
  omega

theorem not_mem_of_tokenChars (hcs : ∀ c ∈ cs, isTokenChar c = true) (hd : isTokenChar d = false) :
    d ∉ cs := by
  intro hmem
  rw [hcs d hmem] at hd
  cases hd

theorem tokenChars_of_isToken (h : isToken cs = true) : ∀ c ∈ cs, isTokenChar c = true := by
  cases cs with
  | nil => simp
  | cons c cs =>
    rw [isToken, Bool.and_eq_true, List.all_eq_true] at h
    have hc : isTokenChar c = true := by
      rw [isTokenChar, Bool.or_eq_true]
      exact .inl h.1
    simpa [hc] using h.2

theorem trimmed_of_tokenChars (h : ∀ c ∈ cs, isTokenChar c = true) : Text.Trimmed cs where
  head c hc := isBlank_eq_false_of_isTokenChar (h c (List.mem_of_mem_head? hc))
  last c hc := isBlank_eq_false_of_isTokenChar (h c (List.mem_of_getLast? hc))

/-- A token is read as it is. -/
theorem readToken?_of_isToken (h : isToken cs = true) : readToken? cs = some (String.ofList cs) := by
  rw [readToken?, Text.trimChars_eq_self (trimmed_of_tokenChars (tokenChars_of_isToken h)), if_pos h]

/-- A token is read behind a space. -/
theorem readToken?_space (h : isToken cs = true) :
    readToken? (' ' :: cs) = some (String.ofList cs) := by
  rw [← readToken?_of_isToken h, readToken?, readToken?,
    Text.trimChars_cons_of_isBlank (by decide : Text.isBlank ' ' = true)]

/-! ### Values -/

/-- **Escaping is undone by reading**, whatever comes behind what was escaped. -/
theorem readQuoted?_escape (value rest : List Char) :
    readQuoted? (value.flatMap escapeChar ++ rest) = (readQuoted? rest).map (value ++ ·) := by
  induction value with
  | nil =>
    rw [List.flatMap_nil, List.nil_append]
    cases readQuoted? rest <;> rfl
  | cons c value ih =>
    rw [List.flatMap_cons, List.append_assoc, escapeChar]
    split
    · rename_i hc
      have hline : c ≠ '\n' := by rcases hc with rfl | rfl <;> decide
      rw [List.cons_append, List.singleton_append, readQuoted?, if_neg hline, ih, Option.map_map]
      rfl
    · rename_i hc
      rw [not_or] at hc
      -- Neither the end of the value nor an escape is read here, so the character stands for itself.
      rw [List.singleton_append, readQuoted?, if_neg (not_or.mpr hc), ih, Option.map_map]
      · rfl
      · exact fun hquote _ => hc.1 hquote
      · exact fun _ _ hback _ => hc.2 hback

/-- A value is read up to the closing quote. -/
theorem readQuoted?_closed (value : List Char) :
    readQuoted? (value.flatMap escapeChar ++ ['"']) = some value := by
  rw [readQuoted?_escape, readQuoted?, Option.map_some, List.append_nil]

/-- Without the closing quote nothing is read. -/
theorem readQuoted?_unclosed (value : List Char) :
    readQuoted? (value.flatMap escapeChar) = none := by
  rw [← List.append_nil (value.flatMap escapeChar), readQuoted?_escape, readQuoted?, Option.map_none]

/-- Escaping keeps the blanks at the end apart from what is escaped. -/
theorem trimEnd_escape (value : List Char) :
    Text.trimEnd (value.flatMap escapeChar) = (Text.trimEnd value).flatMap escapeChar := by
  induction value using List.reverseRecOn with
  | nil => rfl
  | append_singleton value c ih =>
    rw [List.flatMap_append, List.flatMap_singleton]
    by_cases hc : Text.isBlank c = true
    · have hplain : escapeChar c = [c] := by
        rw [escapeChar, if_neg]
        rintro (rfl | rfl) <;> exact absurd hc (by decide)
      rw [hplain, Text.trimEnd_append_of_isBlank hc, Text.trimEnd_append_of_isBlank hc, ih]
    · rw [Bool.not_eq_true] at hc
      have hlast : ∃ front, escapeChar c = front ++ [c] := by
        rw [escapeChar]
        split
        · exact ⟨['\\'], rfl⟩
        · exact ⟨[], rfl⟩
      obtain ⟨front, hfront⟩ := hlast
      rw [hfront, ← List.append_assoc, Text.trimEnd_append_of_not_isBlank hc,
        Text.trimEnd_append_of_not_isBlank hc, List.flatMap_append, List.flatMap_singleton, hfront,
        List.append_assoc]

/-- **A written value is read again.** -/
theorem readValue?_writeValue (value : List Char) :
    readValue? (Text.trimChars (writeValue value)) = some value := by
  rw [writeValue]
  split
  · -- A token is written as it is, and none of its characters ends an unquoted value.
    rename_i hplain
    rw [Bool.and_eq_true, Bool.not_eq_true', List.isEmpty_eq_false_iff, List.all_eq_true] at hplain
    obtain ⟨hne, hall⟩ := hplain
    rw [Text.trimChars_eq_self (trimmed_of_tokenChars hall), readValue?]
    · rw [if_pos]
      rw [List.all_eq_true]
      intro c hc
      have hblank := isBlank_eq_false_of_isTokenChar (hall c hc)
      have hsemicolon : c ≠ ';' := fun h => not_mem_of_tokenChars hall (by decide) (h ▸ hc)
      have hquote : c ≠ '"' := fun h => not_mem_of_tokenChars hall (by decide) (h ▸ hc)
      simp [hblank, hsemicolon, hquote]
    · exact hne
    · rintro rest rfl
      exact not_mem_of_tokenChars hall (by decide) List.mem_cons_self
  · have hquote : Text.isBlank '"' = false := by decide
    rw [List.cons_append, Text.trimChars_cons_of_not_isBlank hquote,
      Text.trimEnd_append_of_not_isBlank hquote, readValue?, readQuoted?_closed]

/-- A value that was cut off is not read. -/
theorem readValue?_cut (value : List Char) :
    readValue? (Text.trimChars ('"' :: value.flatMap escapeChar)) = none := by
  rw [Text.trimChars_cons_of_not_isBlank (by decide), trimEnd_escape, readValue?,
    readQuoted?_unclosed]

/-- Escaping writes a semicolon for a semicolon only. -/
theorem semicolon_mem_escape (h : ';' ∈ value.flatMap escapeChar) : ';' ∈ value := by
  obtain ⟨c, hc, h⟩ := List.mem_flatMap.mp h
  rw [escapeChar] at h
  split at h
  · rename_i hescaped
    rcases hescaped with rfl | rfl <;> exact absurd h (by decide)
  · exact List.mem_singleton.mp h ▸ hc

/-- A value without semicolons is written without any. -/
theorem semicolon_not_mem_writeValue (hvalue : ';' ∉ value) : ';' ∉ writeValue value := by
  rw [writeValue]
  split
  · exact hvalue
  · have hescaped : ';' ∉ value.flatMap escapeChar := fun h => hvalue (semicolon_mem_escape h)
    simp [hescaped]

/-! ### Pieces -/

/-- The piece that a parameter is written as, between the semicolons. -/
def piece (p : String × String) : List Char := ' ' :: p.1.toList ++ '=' :: writeValue p.2.toList

/-- What stands between the semicolons where the value of the parameter `name` is cut off behind
    `start`. -/
def cutPiece (name : String) (start : List Char) : List Char :=
  ' ' :: name.toList ++ '=' :: '"' :: start.flatMap escapeChar

theorem writeParameter_eq (p : String × String) : writeParameter p = ';' :: piece p := rfl

/-- Whether type, subtype and the names of the parameters are tokens. -/
structure WellNamed (t : MediaType) : Prop where
  type : isToken t.type.toList = true
  subtype : isToken t.subtype.toList = true
  names : ∀ p ∈ t.parameters, isToken p.1.toList = true

variable {pairs : List (String × String)} {p : String × String}

theorem readParameter?_of_name {name : String} (hname : isToken name.toList = true)
    (right : List Char) :
    readParameter? (' ' :: name.toList ++ '=' :: right)
      = (readValue? (Text.trimChars right)).map fun value => (name, String.ofList value) := by
  have hname' := readToken?_space hname
  have hequals : '=' ∉ ' ' :: name.toList := by
    rw [List.mem_cons, not_or]
    exact ⟨by decide, not_mem_of_tokenChars (tokenChars_of_isToken hname) (by decide)⟩
  rw [readParameter?, Text.cutFirst?_append hequals]
  simp only [Option.bind_eq_bind, Option.bind_some, hname', String.ofList_toList]
  cases readValue? (Text.trimChars right) <;> rfl

/-- **A parameter is read from the piece that it was written as.** -/
theorem readParameter?_piece (hname : isToken p.1.toList = true) :
    readParameter? (piece p) = some p := by
  rw [piece, readParameter?_of_name hname, readValue?_writeValue, Option.map_some,
    String.ofList_toList]

/-- Nothing is read from the piece of a parameter whose value was cut off. -/
theorem readParameter?_cutPiece {name : String} (hname : isToken name.toList = true)
    (start : List Char) : readParameter? (cutPiece name start) = none := by
  rw [cutPiece, readParameter?_of_name hname, readValue?_cut, Option.map_none]

theorem piece_not_isAllBlank (front back : List Char) :
    (front ++ '=' :: back).all Text.isBlank = false := by
  rw [← Bool.not_eq_true, List.all_eq_true]
  intro h
  exact absurd (h '=' (by simp)) (by decide)

/-- The parameters of written pieces are read, and then those of the pieces that follow. -/
theorem readParameters_append (hnames : ∀ p ∈ pairs, isToken p.1.toList = true) (shown : String)
    (pieces : List (List Char)) :
    readParameters shown (pairs.map piece ++ pieces)
      = (readParameters shown pieces).map (pairs ++ ·) := by
  induction pairs with
  | nil =>
    rw [List.map_nil, List.nil_append]
    cases readParameters shown pieces <;> rfl
  | cons p pairs ih =>
    have hp : readParameter? (piece p) = some p := readParameter?_piece (hnames p List.mem_cons_self)
    have hblank : (piece p).all Text.isBlank = false := piece_not_isAllBlank _ _
    rw [List.map_cons, List.cons_append, readParameters, hblank, if_neg Bool.false_ne_true, hp]
    simp only [ih fun q hq => hnames q (List.mem_cons_of_mem _ hq)]
    cases readParameters shown pieces <;> rfl

/-- A piece of a parameter whose value was cut off is reported. -/
theorem readParameters_cutPiece {name : String} (hname : isToken name.toList = true)
    (start : List Char) (shown : String) (pieces : List (List Char)) :
    readParameters shown (cutPiece name start :: pieces)
      = .error (.parameter shown
          (Text.quoted (String.ofList (Text.trimChars (cutPiece name start))))) := by
  have hblank : (cutPiece name start).all Text.isBlank = false := piece_not_isAllBlank _ _
  rw [readParameters, hblank, if_neg Bool.false_ne_true, readParameter?_cutPiece hname]

/-! ### The pieces of a written type -/

/-- A parameter is written without a semicolon behind the first one when its value holds none. -/
theorem semicolon_not_mem_piece (hname : isToken p.1.toList = true) (hvalue : ';' ∉ p.2.toList) :
    ';' ∉ piece p := by
  have hname : ';' ∉ p.1.toList := not_mem_of_tokenChars (tokenChars_of_isToken hname) (by decide)
  have hvalue : ';' ∉ writeValue p.2.toList := semicolon_not_mem_writeValue hvalue
  simp [piece, hname, hvalue]

/-- Where a value holds a semicolon, its parameter is cut off there. -/
theorem writeParameter_cut {name val : String} {start rest : List Char}
    (hval : val.toList = start ++ ';' :: rest) :
    writeParameter (name, val)
      = ';' :: (cutPiece name start ++ ';' :: (rest.flatMap escapeChar ++ ['"'])) := by
  have hquoted : writeValue val.toList = '"' :: val.toList.flatMap escapeChar ++ ['"'] := by
    rw [writeValue, if_neg]
    rw [Bool.and_eq_true, List.all_eq_true]
    rintro ⟨-, hall⟩
    exact absurd (hall ';' (by simp [hval])) (by decide)
  rw [writeParameter_eq, piece, hquoted, hval, cutPiece]
  simp [escapeChar]

/-- Parameters without semicolons in their values are one piece each, in front of the pieces of
    what follows. -/
theorem splitChars_written {rest : List Char} {pieces : List (List Char)}
    (hnames : ∀ p ∈ pairs, isToken p.1.toList = true) (hvalues : ∀ p ∈ pairs, ';' ∉ p.2.toList)
    (hrest : ∀ front, ';' ∉ front → Text.splitChars ';' (front ++ rest) = front :: pieces)
    (hcs : ';' ∉ cs) :
    Text.splitChars ';' (cs ++ (pairs.flatMap writeParameter ++ rest))
      = cs :: (pairs.map piece ++ pieces) := by
  induction pairs generalizing cs with
  | nil => exact hrest cs hcs
  | cons p pairs ih =>
    have hp : ';' ∉ piece p :=
      semicolon_not_mem_piece (hnames p List.mem_cons_self) (hvalues p List.mem_cons_self)
    rw [List.flatMap_cons, writeParameter_eq, List.cons_append, List.cons_append, List.append_assoc,
      Text.splitChars_append hcs,
      ih (fun q hq => hnames q (List.mem_cons_of_mem _ hq))
        (fun q hq => hvalues q (List.mem_cons_of_mem _ hq)) hp]
    rfl

/-- Type and subtype, as they stand in front of the parameters. -/
def header (t : MediaType) : List Char := t.type.toList ++ '/' :: t.subtype.toList

theorem write_eq (t : MediaType) : t.write = t.header ++ t.parameters.flatMap writeParameter := rfl

/-! ### Reading a written type -/

/-- A type is read piece by piece. -/
theorem read_eq_of_splitChars {text type subtype : String} {head : List Char}
    {pieces : List (List Char)} (hsplit : Text.splitChars ';' text.toList = head :: pieces)
    (hhead : readNames? head = some (type, subtype)) :
    read text = (readParameters (Text.quoted text) pieces).map fun parameters =>
      of type subtype parameters := by
  rw [read, hsplit]
  dsimp only
  rw [hhead]

namespace WellNamed

theorem readNames?_header (h : t.WellNamed) : readNames? t.header = some (t.type, t.subtype) := by
  have hslash : '/' ∉ t.type.toList :=
    not_mem_of_tokenChars (tokenChars_of_isToken h.type) (by decide)
  rw [readNames?, header, Text.cutFirst?_append hslash]
  simp only [Option.bind_eq_bind, Option.bind_some, readToken?_of_isToken h.type,
    readToken?_of_isToken h.subtype, String.ofList_toList]
  rfl

theorem semicolon_not_mem_header (h : t.WellNamed) : ';' ∉ t.header := by
  have htype : ';' ∉ t.type.toList :=
    not_mem_of_tokenChars (tokenChars_of_isToken h.type) (by decide)
  have hsubtype : ';' ∉ t.subtype.toList :=
    not_mem_of_tokenChars (tokenChars_of_isToken h.subtype) (by decide)
  simp [header, htype, hsubtype]

/-- **A type without semicolons in its values is read again.** -/
theorem read_render (h : t.WellNamed) (ht : t.Normal)
    (hvalues : ∀ p ∈ t.parameters, ';' ∉ p.2.toList) : read t.render = .ok t := by
  have hsplit : Text.splitChars ';' t.render.toList = t.header :: (t.parameters.map piece ++ []) := by
    rw [render, String.toList_ofList, write_eq, ← List.append_nil (t.parameters.flatMap _)]
    refine splitChars_written h.names hvalues ?_ h.semicolon_not_mem_header
    intro front hfront
    rw [List.append_nil, Text.splitChars_of_not_mem hfront]
  rw [read_eq_of_splitChars hsplit h.readNames?_header, readParameters_append h.names]
  simp only [readParameters, Except.map, List.append_nil]
  rw [ht.of_eq]

/-- **A semicolon is reported.**  Of a type with a semicolon in a value, the first such parameter is
    reported, up to its first semicolon. -/
theorem read_render_cut (h : t.WellNamed) {good more : List (String × String)} {name val : String}
    {start rest : List Char} (hparameters : t.parameters = good ++ (name, val) :: more)
    (hgood : ∀ p ∈ good, ';' ∉ p.2.toList) (hval : val.toList = start ++ ';' :: rest)
    (hstart : ';' ∉ start) :
    read t.render = .error (.parameter (Text.quoted t.render)
      (Text.quoted (String.ofList (Text.trimChars (cutPiece name start))))) := by
  have hnames := h.names
  rw [hparameters] at hnames
  have hname : isToken name.toList = true := hnames (name, val) (by simp)
  have hnames : ∀ p ∈ good, isToken p.1.toList = true := fun p hp => hnames p (by simp [hp])
  -- The first semicolon behind the good parameters is the one in the value.
  have hcut : ';' ∉ cutPiece name start := by
    have hname : ';' ∉ name.toList := not_mem_of_tokenChars (tokenChars_of_isToken hname) (by decide)
    have hescaped : ';' ∉ start.flatMap escapeChar := fun hmem => hstart (semicolon_mem_escape hmem)
    simp [cutPiece, hname, hescaped]
  obtain ⟨pieces, hsplit⟩ : ∃ pieces, Text.splitChars ';' t.render.toList
      = t.header :: (good.map piece ++ cutPiece name start :: pieces) := by
    refine ⟨Text.splitChars ';'
      (rest.flatMap escapeChar ++ ['"'] ++ more.flatMap writeParameter), ?_⟩
    rw [render, String.toList_ofList, write_eq, hparameters, List.flatMap_append, List.flatMap_cons,
      writeParameter_cut hval]
    refine splitChars_written hnames hgood ?_ h.semicolon_not_mem_header
    intro front hfront
    rw [List.cons_append, Text.splitChars_append hfront, List.append_assoc, List.cons_append,
      Text.splitChars_append hcut]
  rw [read_eq_of_splitChars hsplit h.readNames?_header, readParameters_append hnames,
    readParameters_cutPiece hname]
  rfl

end WellNamed

/-- **Reading what was written.**  A media type in normal form, whose type, subtype and parameter
    names are tokens, is read again from its written form exactly when no value of a parameter holds
    a semicolon, whatever else the values hold.  Where one does, the text is cut in the middle of
    the first such value, and what is left of that parameter is reported. -/
theorem read_render_iff (hnormal : t.Normal) (hnamed : t.WellNamed) :
    (read t.render = .ok t ↔ ∀ p ∈ t.parameters, ';' ∉ p.2.toList) ∧
    ∀ good name val more start rest, t.parameters = good ++ (name, val) :: more →
      (∀ p ∈ good, ';' ∉ p.2.toList) → val.toList = start ++ ';' :: rest → ';' ∉ start →
      read t.render = .error (.parameter (Text.quoted t.render)
        (Text.quoted (String.ofList (Text.trimChars (cutPiece name start))))) := by
  have hcut : ∀ good name val more start rest, t.parameters = good ++ (name, val) :: more →
      (∀ p ∈ good, ';' ∉ p.2.toList) → val.toList = start ++ ';' :: rest → ';' ∉ start →
      read t.render = .error (.parameter (Text.quoted t.render)
        (Text.quoted (String.ofList (Text.trimChars (cutPiece name start))))) :=
    fun _ _ _ _ _ _ => hnamed.read_render_cut
  refine ⟨⟨fun hread => ?_, hnamed.read_render hnormal⟩, hcut⟩
  -- The first parameter with a semicolon, up to the first one, would be reported.
  by_contra hvalues
  obtain ⟨p, hp⟩ : ∃ p, t.parameters.find? (fun p => decide (';' ∈ p.2.toList)) = some p := by
    rw [← Option.isSome_iff_exists, List.find?_isSome]
    simpa using hvalues
  obtain ⟨hsemicolon, good, more, hparameters, hgood⟩ := List.find?_eq_some_iff_append.mp hp
  obtain ⟨start, rest, hval, hstart⟩ :=
    List.eq_append_cons_of_mem (of_decide_eq_true hsemicolon)
  have herror := hcut good p.1 p.2 more start rest hparameters (by simpa using hgood) hval hstart
  rw [hread] at herror
  cases herror

/-- A type whose values hold quotes, backslashes, blanks, a line end and nothing at all. -/
def awkward : MediaType :=
  of "Text" "Plain" [("b", "a \\\"b\\\n"), ("A", ""), ("c", "x=y/z, "), ("d", "utf-8")]

/-- A type with a semicolon in a value. -/
def divided : MediaType := of "text" "plain" [("name", "a;b"), ("charset", "utf-8")]

/-- The first of these types is read again from its written form, of the second one the parameter
    with the semicolon is reported. -/
theorem read_render_awkward :
    (awkward.Normal ∧ awkward.WellNamed ∧ (∀ p ∈ awkward.parameters, ';' ∉ p.2.toList) ∧
      read awkward.render = .ok awkward) ∧
    divided.Normal ∧ divided.WellNamed ∧
      read divided.render
        = .error (.parameter "'text/plain; charset=utf-8; name=\"a;b\"'" "'name=\"a'") := by
  have hnormal : awkward.Normal := normal_of _ _ _
  have hnamed : awkward.WellNamed := ⟨by decide, by decide, by decide⟩
  have hvalues : ∀ p ∈ awkward.parameters, ';' ∉ p.2.toList := by decide
  have hnormal' : divided.Normal := normal_of _ _ _
  have hnamed' : divided.WellNamed := ⟨by decide, by decide, by decide⟩
  have hread := (read_render_iff hnormal' hnamed').2 [("charset", "utf-8")] "name" "a;b" [] ['a']
    ['b'] (by decide) (by decide) (by decide) (by decide)
  refine ⟨⟨hnormal, hnamed, hvalues, (read_render_iff hnormal hnamed).1.mpr hvalues⟩,
    hnormal', hnamed', hread.trans ?_⟩
  decide

/-- A type with a semicolon in the value of a parameter is written between quotes and not read
    again. -/
theorem read_render_semicolon :
    ¬ ∀ t : MediaType, t.Normal → t.WellNamed → read t.render = .ok t := by
  intro h
  have hread := h divided (normal_of _ _ _) ⟨by decide, by decide, by decide⟩
  exact absurd hread (by decide)

end MediaGraph.MediaType
