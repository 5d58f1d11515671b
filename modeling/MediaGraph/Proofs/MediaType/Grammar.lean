import Mathlib.Data.List.Sort
import MediaGraph.Proofs.MediaType.RoundTrip

namespace MediaGraph.MediaType

/-!
# What a text spells

Which texts are media types, and which types they are, is told here by rules for their parts, apart
from how they are read.  A text is cut at every semicolon, one between quotes included.  The first
piece is a pair of tokens; every other piece is blank, or a token with a value.

* `SpellsToken`, `SpellsNames`, `Unquotes`, `SpellsValue`, `SpellsParameter`, `SpellsParameters` —
  the rules.
* `Spells`, `Misspells` — what a whole text spells, and what is wrong with one that spells nothing.
* `readToken?_eq_some_iff` and its neighbours — each part is read as its rule says.
* `read_eq_ok_iff_spells`, `read_eq_error_iff_misspells` — and so is the whole text.
* `read_grammar` — what is read of a text, and when.
-/

variable {t : MediaType} {text name type subtype shown : String} {c : Char}
  {cs inner value piece head : List Char} {pieces : List (List Char)} {p : String × String}
  {pairs : List (String × String)} {problem : Problem}

/-! ### The rules -/

/-- A token, with blanks around it. -/
def SpellsToken (cs : List Char) (name : String) : Prop :=
  isToken name.toList = true ∧ Text.Padded name.toList cs

/-- Two tokens with a slash between them. -/
def SpellsNames (piece : List Char) (type subtype : String) : Prop :=
  ∃ left right, piece = left ++ '/' :: right ∧ SpellsToken left type ∧ SpellsToken right subtype

/-- What stands between two quotes, and the value that it stands for.  A backslash makes the next
    character stand for itself, be it a quote, another backslash or any other character but a line
    end; a quote or a backslash that nothing makes stand for itself is not allowed. -/
inductive Unquotes : List Char → List Char → Prop
  | nil : Unquotes [] []
  | plain {c : Char} {inner value : List Char} (hquote : c ≠ '"') (hback : c ≠ '\\')
      (rest : Unquotes inner value) : Unquotes (c :: inner) (c :: value)
  | escaped {c : Char} {inner value : List Char} (hline : c ≠ '\n') (rest : Unquotes inner value) :
      Unquotes ('\\' :: c :: inner) (c :: value)

/-- A value: some characters, none of which is a blank, a semicolon or a quote, or a quoted text. -/
inductive SpellsValue : List Char → List Char → Prop
  | run {cs : List Char} (hne : cs ≠ [])
      (hcs : ∀ c ∈ cs, Text.isBlank c = false ∧ c ≠ ';' ∧ c ≠ '"') : SpellsValue cs cs
  | quoted {inner value : List Char} (h : Unquotes inner value) :
      SpellsValue ('"' :: (inner ++ ['"'])) value

/-- A token and a value with an equals sign between them, and blanks around the two. -/
def SpellsParameter (piece : List Char) (p : String × String) : Prop :=
  ∃ left right written, piece = left ++ '=' :: right ∧ SpellsToken left p.1 ∧
    Text.Padded written right ∧ SpellsValue written p.2.toList

/-- Whether a piece consists of blanks, if of anything. -/
def Blank (piece : List Char) : Prop := ∀ c ∈ piece, Text.isBlank c = true

/-- Pieces that are parameters, and blank ones among them. -/
inductive SpellsParameters : List (List Char) → List (String × String) → Prop
  | nil : SpellsParameters [] []
  | blank {piece : List Char} {pieces : List (List Char)} {pairs : List (String × String)}
      (hblank : Blank piece) (rest : SpellsParameters pieces pairs) :
      SpellsParameters (piece :: pieces) pairs
  | parameter {piece : List Char} {pieces : List (List Char)} {p : String × String}
      {pairs : List (String × String)} (h : SpellsParameter piece p)
      (rest : SpellsParameters pieces pairs) : SpellsParameters (piece :: pieces) (p :: pairs)

/-- Whether a text consists of these pieces with a semicolon between any two of them, and of no
    further semicolons. -/
structure Cut (text : String) (head : List Char) (pieces : List (List Char)) : Prop where
  joined : [';'].intercalate (head :: pieces) = text.toList
  apart : ∀ piece ∈ head :: pieces, ';' ∉ piece

/-- Whether a text spells these names and, in this order, these parameters. -/
def Spells (text type subtype : String) (pairs : List (String × String)) : Prop :=
  ∃ head pieces, Cut text head pieces ∧ SpellsNames head type subtype ∧
    SpellsParameters pieces pairs

/-- What is wrong with a text: its first piece, or else the first of the others that is neither
    blank nor a parameter. -/
inductive Misspells (text : String) : Problem → Prop
  | name {head : List Char} {pieces : List (List Char)} (cut : Cut text head pieces)
      (names : ∀ type subtype, ¬ SpellsNames head type subtype) :
      Misspells text (.name (Text.quoted text))
  | parameter {head piece : List Char} {before after : List (List Char)} {type subtype : String}
      {pairs : List (String × String)} (cut : Cut text head (before ++ piece :: after))
      (names : SpellsNames head type subtype) (front : SpellsParameters before pairs)
      (hblank : ¬ Blank piece) (unspelled : ∀ p, ¬ SpellsParameter piece p) :
      Misspells text (.parameter (Text.quoted text)
        (Text.quoted (String.ofList (Text.trimChars piece))))

/-- Whether this is the value that a name has last among some parameters, in whatever case the name
    is written there. -/
def LastGiven (pairs : List (String × String)) (name value : String) : Prop :=
  ∃ before written after, pairs = before ++ (written, value) :: after ∧
    Text.lower written = name ∧ ∀ p ∈ after, Text.lower p.1 ≠ name

/-! ### Tokens -/

theorem readToken?_eq_some_iff : readToken? cs = some name ↔ SpellsToken cs name := by
  unfold readToken? SpellsToken
  constructor
  · intro h
    dsimp only at h
    split at h
    · rename_i htoken
      rw [Option.some.injEq] at h
      rw [← h, String.toList_ofList]
      exact ⟨htoken, Text.padded_trimChars cs⟩
    · cases h
  · rintro ⟨htoken, hpadded⟩
    have htrimmed : Text.Trimmed name.toList := trimmed_of_tokenChars (tokenChars_of_isToken htoken)
    rw [hpadded.trimChars_eq htrimmed]
    simp [htoken]

/-- What is neither a blank nor a character of tokens does not stand where a token is spelled. -/
theorem SpellsToken.not_mem (h : SpellsToken cs name) (hblank : Text.isBlank c = false)
    (hc : isTokenChar c = false) : c ∉ cs := by
  intro hmem
  rcases h.2.isBlank_or_mem hmem with hmem | hmem
  · rw [hblank] at hmem
    cases hmem
  · exact not_mem_of_tokenChars (tokenChars_of_isToken h.1) hc hmem

theorem readNames?_eq_some_iff :
    readNames? piece = some (type, subtype) ↔ SpellsNames piece type subtype := by
  constructor
  · intro h
    unfold readNames? at h
    simp only [Option.bind_eq_bind, Option.bind_eq_some_iff] at h
    obtain ⟨⟨left, right⟩, hcut, first, hfirst, second, hsecond, ⟨⟩⟩ := h
    obtain ⟨hpiece, -⟩ := Text.cutFirst?_eq_some_iff.mp hcut
    exact ⟨left, right, hpiece, readToken?_eq_some_iff.mp hfirst,
      readToken?_eq_some_iff.mp hsecond⟩
  · rintro ⟨left, right, rfl, htype, hsubtype⟩
    -- No token holds a slash, so the piece is cut where the rule says.
    have hslash : '/' ∉ left := htype.not_mem (by decide) (by decide)
    have hleft := readToken?_eq_some_iff.mpr htype
    have hright := readToken?_eq_some_iff.mpr hsubtype
    rw [readNames?, Text.cutFirst?_append hslash]
    simp only [Option.bind_eq_bind, Option.bind_some, hleft, hright]
    rfl

/-! ### Values -/

/-- What the rule for quoted texts allows is read. -/
theorem Unquotes.readQuoted? (h : Unquotes inner value) :
    readQuoted? (inner ++ ['"']) = some value := by
  induction h with
  | nil => rfl
  | plain hquote hback _ ih =>
    -- The character neither closes the text nor escapes the next one.
    rw [List.cons_append, MediaType.readQuoted?, if_neg (not_or.mpr ⟨hquote, hback⟩), ih]
    · rfl
    · exact fun h _ => hquote h
    · exact fun _ _ h _ => hback h
  | escaped hline _ ih =>
    rw [List.cons_append, List.cons_append, MediaType.readQuoted?, if_neg hline, ih]
    rfl

/-- What is read keeps to the rule for quoted texts. -/
theorem unquotes_of_readQuoted? (h : readQuoted? cs = some value) :
    ∃ inner, cs = inner ++ ['"'] ∧ Unquotes inner value := by
  fun_induction readQuoted? cs generalizing value with
  | case1 => cases h
  | case2 =>
    cases h
    exact ⟨[], rfl, .nil⟩
  | case3 => cases h
  | case4 c rest hline ih =>
    obtain ⟨value, hrest, rfl⟩ := Option.map_eq_some_iff.mp h
    obtain ⟨inner, rfl, hinner⟩ := ih hrest
    exact ⟨'\\' :: c :: inner, rfl, .escaped hline hinner⟩
  | case5 => cases h
  | case6 c rest _ _ hplain ih =>
    obtain ⟨hquote, hback⟩ := not_or.mp hplain
    obtain ⟨value, hrest, rfl⟩ := Option.map_eq_some_iff.mp h
    obtain ⟨inner, rfl, hinner⟩ := ih hrest
    exact ⟨c :: inner, rfl, .plain hquote hback hinner⟩

theorem readQuoted?_eq_some_iff :
    readQuoted? cs = some value ↔ ∃ inner, cs = inner ++ ['"'] ∧ Unquotes inner value := by
  refine ⟨unquotes_of_readQuoted?, ?_⟩
  rintro ⟨inner, rfl, h⟩
  exact h.readQuoted?

theorem readValue?_eq_some_iff : readValue? cs = some value ↔ SpellsValue cs value := by
  constructor
  · intro h
    unfold readValue? at h
    split at h
    · cases h
    · obtain ⟨inner, rfl, hinner⟩ := readQuoted?_eq_some_iff.mp h
      exact .quoted hinner
    · rename_i hne _
      split at h
      · rename_i hall
        rw [Option.some.injEq] at h
        subst h
        refine .run hne fun c hc => ?_
        have hc := List.all_eq_true.mp hall c hc
        simpa [and_assoc] using hc
      · cases h
  · intro h
    cases h with
    | run hne hcs =>
      have hall : (cs.all fun c => !Text.isBlank c && c ≠ ';' && c ≠ '"') = true := by
        rw [List.all_eq_true]
        intro c hc
        obtain ⟨hblank, hsemicolon, hquote⟩ := hcs c hc
        simp [hblank, hsemicolon, hquote]
      rw [readValue?, if_pos hall]
      · exact hne
      · rintro rest rfl
        exact (hcs '"' List.mem_cons_self).2.2 rfl
    | quoted h =>
      rw [readValue?, h.readQuoted?]

/-- Neither a run nor a quoted text has a blank at an end. -/
theorem SpellsValue.trimmed (h : SpellsValue cs value) : Text.Trimmed cs := by
  cases h with
  | run hne hcs =>
    exact ⟨fun c hc => (hcs c (List.mem_of_mem_head? hc)).1,
      fun c hc => (hcs c (List.mem_of_getLast? hc)).1⟩
  | quoted h =>
    have hquote : Text.isBlank '"' = false := by decide
    constructor
    · simpa using hquote
    · rw [← List.cons_append, List.getLast?_concat]
      simpa using hquote

/-- Escapes only add characters. -/
theorem Unquotes.subset (h : Unquotes inner value) : value ⊆ inner := by
  induction h with
  | nil => exact List.Subset.refl []
  | plain _ _ _ ih => exact List.cons_subset_cons _ ih
  | escaped _ _ ih => exact List.subset_cons_of_subset _ (List.cons_subset_cons _ ih)

/-- A value is written in the characters of the text that spells it. -/
theorem SpellsValue.subset (h : SpellsValue cs value) : value ⊆ cs := by
  cases h with
  | run => exact List.Subset.refl cs
  | quoted h =>
    intro c hc
    exact List.mem_cons_of_mem _ (List.mem_append_left _ (h.subset hc))

/-! ### Parameters -/

theorem readParameter?_eq_some_iff : readParameter? piece = some p ↔ SpellsParameter piece p := by
  constructor
  · intro h
    unfold readParameter? at h
    simp only [Option.bind_eq_bind, Option.bind_eq_some_iff] at h
    obtain ⟨⟨left, right⟩, hcut, name, hname, value, hvalue, ⟨⟩⟩ := h
    obtain ⟨hpiece, -⟩ := Text.cutFirst?_eq_some_iff.mp hcut
    refine ⟨left, right, Text.trimChars right, hpiece, readToken?_eq_some_iff.mp hname,
      Text.padded_trimChars right, ?_⟩
    rw [String.toList_ofList]
    exact readValue?_eq_some_iff.mp hvalue
  · rintro ⟨left, right, written, rfl, hname, hpadded, hvalue⟩
    -- No token holds an equals sign, so the piece is cut where the rule says.
    have hequals : '=' ∉ left := hname.not_mem (by decide) (by decide)
    have hleft := readToken?_eq_some_iff.mpr hname
    have hright := readValue?_eq_some_iff.mpr hvalue
    rw [readParameter?, Text.cutFirst?_append hequals]
    simp only [Option.bind_eq_bind, Option.bind_some, hleft, hpadded.trimChars_eq hvalue.trimmed,
      hright, String.ofList_toList]
    rfl

/-- A parameter is not blank, since an equals sign stands in it. -/
theorem SpellsParameter.not_blank (h : SpellsParameter piece p) : ¬ Blank piece := by
  obtain ⟨left, right, written, rfl, -⟩ := h
  intro hblank
  exact absurd (hblank '=' (by simp)) (by decide)

theorem all_isBlank_iff : piece.all Text.isBlank = true ↔ Blank piece := List.all_eq_true

theorem readParameters_eq_ok_iff :
    readParameters shown pieces = .ok pairs ↔ SpellsParameters pieces pairs := by
  constructor
  · intro h
    induction pieces generalizing pairs with
    | nil =>
      cases h
      exact .nil
    | cons piece pieces ih =>
      rw [readParameters] at h
      split at h
      · rename_i hblank
        exact .blank (all_isBlank_iff.mp hblank) (ih h)
      · split at h
        · cases h
        · rename_i p hp
          cases hrest : readParameters shown pieces with
          | error problem =>
            rw [hrest] at h
            cases h
          | ok rest =>
            rw [hrest] at h
            cases h
            exact .parameter (readParameter?_eq_some_iff.mp hp) (ih hrest)
  · intro h
    induction h with
    | nil => rfl
    | blank hblank _ ih => rw [readParameters, if_pos (all_isBlank_iff.mpr hblank), ih]
    | parameter hp _ ih =>
      rw [readParameters, if_neg fun hall => hp.not_blank (all_isBlank_iff.mp hall),
        readParameter?_eq_some_iff.mpr hp, ih]
      rfl

/-- What is reported of pieces that are not all blank or parameters is the first one that is
    neither. -/
theorem readParameters_eq_error_iff :
    readParameters shown pieces = .error problem ↔
      ∃ before piece after pairs, pieces = before ++ piece :: after ∧
        SpellsParameters before pairs ∧ ¬ Blank piece ∧ (∀ p, ¬ SpellsParameter piece p) ∧
        problem = .parameter shown (Text.quoted (String.ofList (Text.trimChars piece))) := by
  constructor
  · intro h
    induction pieces with
    | nil => cases h
    | cons piece pieces ih =>
      rw [readParameters] at h
      split at h
      · rename_i hblank
        obtain ⟨before, bad, after, pairs, rfl, hbefore, hbad⟩ := ih h
        exact ⟨piece :: before, bad, after, pairs, rfl,
          .blank (all_isBlank_iff.mp hblank) hbefore, hbad⟩
      · rename_i hblank
        split at h
        · rename_i hnone
          cases h
          refine ⟨[], piece, pieces, [], rfl, .nil, fun h => hblank (all_isBlank_iff.mpr h), ?_, rfl⟩
          intro p hp
          rw [readParameter?_eq_some_iff.mpr hp] at hnone
          cases hnone
        · rename_i p hp
          cases hrest : readParameters shown pieces with
          | ok rest =>
            rw [hrest] at h
            cases h
          | error problem =>
            rw [hrest] at h ih
            cases h
            obtain ⟨before, bad, after, pairs, rfl, hbefore, hbad⟩ := ih rfl
            exact ⟨piece :: before, bad, after, p :: pairs, rfl,
              .parameter (readParameter?_eq_some_iff.mp hp) hbefore, hbad⟩
  · rintro ⟨before, piece, after, pairs, rfl, hbefore, hblank, hnone, rfl⟩
    induction hbefore with
    | nil =>
      have hnone : readParameter? piece = none := by
        rw [Option.eq_none_iff_forall_ne_some]
        exact fun p hp => hnone p (readParameter?_eq_some_iff.mp hp)
      rw [List.nil_append, readParameters, if_neg fun hall => hblank (all_isBlank_iff.mp hall),
        hnone]
    | blank hfront _ ih =>
      rw [List.cons_append, readParameters, if_pos (all_isBlank_iff.mpr hfront), ih]
    | parameter hp _ ih =>
      rw [List.cons_append, readParameters,
        if_neg fun hall => hp.not_blank (all_isBlank_iff.mp hall),
        readParameter?_eq_some_iff.mpr hp, ih]
      rfl

/-! ### Whole texts -/

theorem cut_iff : Cut text head pieces ↔ Text.splitChars ';' text.toList = head :: pieces := by
  rw [Text.splitChars_eq_iff]
  exact ⟨fun h => ⟨List.cons_ne_nil _ _, h.joined, h.apart⟩, fun h => ⟨h.2.1, h.2.2⟩⟩

/-- Every text can be cut, and in one way. -/
theorem exists_cut (text : String) : ∃ head pieces, Cut text head pieces := by
  obtain ⟨head, pieces, h⟩ :=
    List.exists_cons_of_ne_nil (Text.splitChars_ne_nil ';' text.toList)
  exact ⟨head, pieces, cut_iff.mpr h⟩

theorem Cut.unique {head' : List Char} {pieces' : List (List Char)} (h : Cut text head pieces)
    (h' : Cut text head' pieces') : head' = head ∧ pieces' = pieces := by
  have heq := (cut_iff.mp h').symm.trans (cut_iff.mp h)
  rwa [List.cons.injEq] at heq

/-- Without two names in front, this is reported and nothing else is looked at. -/
theorem Cut.read_eq_error (h : Cut text head pieces) (hhead : readNames? head = none) :
    read text = .error (.name (Text.quoted text)) := by
  rw [read, cut_iff.mp h]
  dsimp only
  rw [hhead]

/-- With two names in front, the parameters decide. -/
theorem Cut.read_eq (h : Cut text head pieces) (hhead : SpellsNames head type subtype) :
    read text = (readParameters (Text.quoted text) pieces).map fun parameters =>
      of type subtype parameters :=
  read_eq_of_splitChars (cut_iff.mp h) (readNames?_eq_some_iff.mpr hhead)

/-- **What is read is what the text spells**, brought into normal form. -/
theorem read_eq_ok_iff_spells :
    read text = .ok t ↔
      ∃ type subtype pairs, Spells text type subtype pairs ∧ t = of type subtype pairs := by
  constructor
  · intro h
    obtain ⟨head, pieces, hcut⟩ := exists_cut text
    cases hhead : readNames? head with
    | none =>
      rw [hcut.read_eq_error hhead] at h
      cases h
    | some names =>
      have hnames : SpellsNames head names.1 names.2 := readNames?_eq_some_iff.mp hhead
      rw [hcut.read_eq hnames] at h
      cases hparameters : readParameters (Text.quoted text) pieces with
      | error problem =>
        rw [hparameters] at h
        cases h
      | ok pairs =>
        rw [hparameters, Except.map, Except.ok.injEq] at h
        exact ⟨names.1, names.2, pairs,
          ⟨head, pieces, hcut, hnames, readParameters_eq_ok_iff.mp hparameters⟩, h.symm⟩
  · rintro ⟨type, subtype, pairs, ⟨head, pieces, hcut, hnames, hparameters⟩, rfl⟩
    rw [hcut.read_eq hnames, readParameters_eq_ok_iff.mpr hparameters]
    rfl

/-- **What is reported is what is wrong with the text.** -/
theorem read_eq_error_iff_misspells : read text = .error problem ↔ Misspells text problem := by
  constructor
  · intro h
    obtain ⟨head, pieces, hcut⟩ := exists_cut text
    cases hhead : readNames? head with
    | none =>
      rw [hcut.read_eq_error hhead] at h
      cases h
      refine .name hcut fun type subtype hnames => ?_
      rw [readNames?_eq_some_iff.mpr hnames] at hhead
      cases hhead
    | some names =>
      have hnames : SpellsNames head names.1 names.2 := readNames?_eq_some_iff.mp hhead
      rw [hcut.read_eq hnames] at h
      cases hparameters : readParameters (Text.quoted text) pieces with
      | ok pairs =>
        rw [hparameters] at h
        cases h
      | error problem =>
        rw [hparameters] at h
        cases h
        obtain ⟨before, piece, after, pairs, rfl, hbefore, hblank, hnone, rfl⟩ :=
          readParameters_eq_error_iff.mp hparameters
        exact .parameter hcut hnames hbefore hblank hnone
  · intro h
    cases h with
    | @name head _ hcut hnames =>
      apply hcut.read_eq_error
      rw [Option.eq_none_iff_forall_ne_some]
      exact fun names hhead => hnames names.1 names.2 (readNames?_eq_some_iff.mp hhead)
    | parameter hcut hnames hbefore hblank hnone =>
      rw [hcut.read_eq hnames, readParameters_eq_error_iff.mpr
        ⟨_, _, _, _, rfl, hbefore, hblank, hnone, rfl⟩]
      rfl

/-! ### Names in lower case -/

/-- The normal form of a token is its lower case, since no blank stands at its ends. -/
theorem normalName_of_isToken (h : isToken name.toList = true) :
    normalName name = Text.lower name := by
  have htrim : Text.trim name = name := by
    rw [Text.trim, Text.trimChars_eq_self (trimmed_of_tokenChars (tokenChars_of_isToken h)),
      String.ofList_toList]
  rw [normalName, htrim]

theorem SpellsParameters.isToken (h : SpellsParameters pieces pairs) (hp : p ∈ pairs) :
    isToken p.1.toList = true := by
  induction h with
  | nil => cases hp
  | blank _ _ ih => exact ih hp
  | parameter hq _ ih =>
    rcases List.mem_cons.mp hp with rfl | hp
    · obtain ⟨left, right, written, -, hname, -⟩ := hq
      exact hname.1
    · exact ih hp

/-- The normal form of parameters whose names are tokens holds the values that were given last. -/
theorem mem_normalParameters_iff_lastGiven (h : ∀ p ∈ pairs, isToken p.1.toList = true)
    {value : String} : (name, value) ∈ normalParameters pairs ↔ LastGiven pairs name value := by
  rw [mem_normalParameters_iff]
  constructor
  · rintro ⟨before, written, after, rfl, hname, hafter⟩
    have hwritten : isToken written.toList = true := h (written, value) (by simp)
    refine ⟨before, written, after, rfl, by rw [← normalName_of_isToken hwritten, hname], ?_⟩
    intro p hp
    rw [← normalName_of_isToken (h p (by simp [hp]))]
    exact hafter p hp
  · rintro ⟨before, written, after, rfl, hname, hafter⟩
    have hwritten : isToken written.toList = true := h (written, value) (by simp)
    refine ⟨before, written, after, rfl, by rw [normalName_of_isToken hwritten, hname], ?_⟩
    intro p hp
    rw [normalName_of_isToken (h p (by simp [hp]))]
    exact hafter p hp

/-- Parameters that are ordered by name are the same when they hold the same pairs. -/
theorem OrderedByName.eq_of_mem_iff {pairs' : List (String × String)} (h : OrderedByName pairs)
    (h' : OrderedByName pairs') (hmem : ∀ p, p ∈ pairs ↔ p ∈ pairs') : pairs = pairs' := by
  have hirrefl : Std.Irrefl fun p q : String × String => p.1 < q.1 :=
    ⟨fun p => String.lt_irrefl p.1⟩
  have hantisymm : Std.Antisymm fun p q : String × String => p.1 < q.1 :=
    ⟨fun p q hpq hqp => absurd hqp (String.lt_asymm hpq)⟩
  exact List.Pairwise.eq_of_mem_iff h h' hmem

/-- What is built from what a text spells, told by its parts. -/
theorem eq_of_iff (htype : isToken type.toList = true) (hsubtype : isToken subtype.toList = true)
    (hpairs : ∀ p ∈ pairs, isToken p.1.toList = true) :
    t = of type subtype pairs ↔
      t.type = Text.lower type ∧ t.subtype = Text.lower subtype ∧ OrderedByName t.parameters ∧
        ∀ name value, (name, value) ∈ t.parameters ↔ LastGiven pairs name value := by
  rw [of, normalName_of_isToken htype, normalName_of_isToken hsubtype]
  constructor
  · rintro rfl
    exact ⟨rfl, rfl, ordered_normalParameters pairs,
      fun _ _ => mem_normalParameters_iff_lastGiven hpairs⟩
  · rintro ⟨hfirst, hsecond, hordered, hmem⟩
    have hparameters : t.parameters = normalParameters pairs := by
      refine hordered.eq_of_mem_iff (ordered_normalParameters pairs) fun p => ?_
      rw [hmem p.1 p.2, ← mem_normalParameters_iff_lastGiven hpairs]
    rw [← hfirst, ← hsecond, ← hparameters]

/-! ### Reading -/

/-- **What is read of a text, and when.**  A text is read exactly when it spells a media type.  What
    is read has the two names in lower case, and parameters ordered by name: one for each name in
    lower case, with the value that the text gives it last.  Otherwise it is reported which part of
    the text spells nothing: its first piece, or the first of the others. -/
theorem read_grammar (text : String) :
    ((∃ t, read text = .ok t) ↔ ∃ type subtype pairs, Spells text type subtype pairs) ∧
    (∀ type subtype pairs, Spells text type subtype pairs → ∀ t,
      read text = .ok t ↔
        t.type = Text.lower type ∧ t.subtype = Text.lower subtype ∧ OrderedByName t.parameters ∧
          ∀ name value, (name, value) ∈ t.parameters ↔ LastGiven pairs name value) ∧
    ∀ problem, read text = .error problem ↔ Misspells text problem := by
  refine ⟨⟨?_, ?_⟩, ?_, fun problem => read_eq_error_iff_misspells⟩
  · rintro ⟨t, ht⟩
    obtain ⟨type, subtype, pairs, hspells, -⟩ := read_eq_ok_iff_spells.mp ht
    exact ⟨type, subtype, pairs, hspells⟩
  · rintro ⟨type, subtype, pairs, hspells⟩
    exact ⟨of type subtype pairs, read_eq_ok_iff_spells.mpr ⟨type, subtype, pairs, hspells, rfl⟩⟩
  · intro type subtype pairs hspells t
    have hread : read text = .ok (of type subtype pairs) :=
      read_eq_ok_iff_spells.mpr ⟨type, subtype, pairs, hspells, rfl⟩
    obtain ⟨head, pieces, -, ⟨left, right, -, hleft, hright⟩, hparameters⟩ := hspells
    rw [hread, Except.ok.injEq, eq_comm]
    exact eq_of_iff hleft.1 hright.1 fun p => hparameters.isToken

/-- A text with blanks, a piece without anything, escapes between quotes, and a name given twice. -/
def spaced : String := " Text / Plain ;CHARSET=utf-8;; a = \"x\\\\ \\\"y\\z\" ;charset=latin1\n"

/-- What stands between the semicolons of this text, the first piece aside. -/
def spacedPieces : List (List Char) :=
  ["CHARSET=utf-8".toList, [], " a = \"x\\\\ \\\"y\\z\" ".toList, "charset=latin1\n".toList]

/-- The parameters of this text, in the order in which it gives them. -/
def spacedPairs : List (String × String) :=
  [("CHARSET", "utf-8"), ("a", "x\\ \"yz"), ("charset", "latin1")]

/-- This text spells a type, and it is read with its names in lower case, its quoted value without
    the escapes, and the later value of the name that is given twice. -/
theorem read_grammar_spaced :
    Spells spaced "Text" "Plain" spacedPairs ∧
    ∃ t, read spaced = .ok t ∧ t.type = "text" ∧ t.subtype = "plain" ∧
      OrderedByName t.parameters ∧ ("a", "x\\ \"yz") ∈ t.parameters ∧
      ("charset", "latin1") ∈ t.parameters := by
  have hcut : Cut spaced " Text / Plain ".toList spacedPieces := cut_iff.mpr (by decide)
  have hnames : SpellsNames " Text / Plain ".toList "Text" "Plain" :=
    readNames?_eq_some_iff.mp (by decide)
  have hpieces : readParameters "" spacedPieces = .ok spacedPairs := by decide
  have hparameters : SpellsParameters spacedPieces spacedPairs :=
    readParameters_eq_ok_iff.mp hpieces
  have hspells : Spells spaced "Text" "Plain" spacedPairs := ⟨_, _, hcut, hnames, hparameters⟩
  obtain ⟨hreads, hread, -⟩ := read_grammar spaced
  obtain ⟨t, ht⟩ := hreads.mpr ⟨_, _, _, hspells⟩
  obtain ⟨htype, hsubtype, hordered, hmem⟩ := (hread _ _ _ hspells t).mp ht
  refine ⟨hspells, t, ht, htype.trans (by decide), hsubtype.trans (by decide), hordered, ?_, ?_⟩
  · exact (hmem _ _).mpr ⟨[("CHARSET", "utf-8")], "a", [("charset", "latin1")], rfl, by decide,
      by decide⟩
  · exact (hmem _ _).mpr ⟨[("CHARSET", "utf-8"), ("a", "x\\ \"yz")], "charset", [], rfl, by decide,
      by decide⟩

/-- A line end behind a backslash is not read. -/
example : read "text/plain; a=b; c=\"x\\\ny\""
    = .error (.parameter "'text/plain; a=b; c=\"x\\\\\\ny\"'" "'c=\"x\\\\\\ny\"'") := by
  decide

end MediaGraph.MediaType
