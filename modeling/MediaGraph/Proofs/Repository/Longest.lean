import MediaGraph.Proofs.Text.Glob
import MediaGraph.Repository.Detection

namespace MediaGraph

/-!
# The longest rule wins

A repository goes through its signatures, or its name patterns, in the order of its types.  Of those
that fit it takes the longest, of equally long ones the first, and an empty one is never taken.  A
name is reduced to what stands behind the last separator, in lower case.

* `Text.exists_afterLast_eq` — what stands around the last separator.
* `Repository.FirstLongest` — the first of the longest rules that fit.
* `Repository.heaviest_weighed_eq_some_iff`, `Repository.heaviest_weighed_eq_none_iff` — what the
  running maximum ends at.
* `Repository.signatures`, `Repository.patterns` — the rules, in the order of their types.
* `Repository.LastPart` — the last part of a path.
* `Repository.longest_rule_wins` — detection by leading bytes and by name.
-/

/-- What stands behind the last separator begins the text or follows a separator. -/
theorem Text.exists_afterLast_eq (sep : Char) (cs : List Char) :
    ∃ front, cs = front ++ afterLast sep cs ∧ (front = [] ∨ front.getLast? = some sep) := by
  rw [afterLast, cutLast?]
  cases hcut : cutFirst? sep cs.reverse with
  | none => exact ⟨[], rfl, .inl rfl⟩
  | some parts =>
    obtain ⟨back, front⟩ := parts
    have hcs : cs = front.reverse ++ [sep] ++ back.reverse := by
      rw [← List.reverse_reverse cs, (cutFirst?_eq_some_iff.mp hcut).1]
      simp
    exact ⟨front.reverse ++ [sep], hcs, .inr List.getLast?_concat⟩

namespace Repository

/-! ### The first of the longest -/

section

variable {α β : Type}

/-- Whether a type is that of the first of the longest rules that fit: the rules in front of it that
    fit are shorter, and those behind it are no longer. -/
def FirstLongest (rules : List (List α × β)) (Fits : List α → Prop) (t : β) : Prop :=
  ∃ before part after, rules = before ++ (part, t) :: after ∧ Fits part ∧ part ≠ [] ∧
    (∀ rule ∈ before, Fits rule.1 → rule.1.length < part.length) ∧
    ∀ rule ∈ after, Fits rule.1 → rule.1.length ≤ part.length

/-- The rules that fit, each with its length. -/
def weighed (rules : List (List α × β)) (fits : List α → Bool) : List (Nat × β) :=
  (rules.filter fun rule => fits rule.1).map fun rule => (rule.1.length, rule.2)

variable {rules before after : List (List α × β)} {fits : List α → Bool} {best : Option β}
  {weight : Nat} {part : List α} {t : β}

theorem weighed_cons_of_pos (h : fits part = true) :
    weighed ((part, t) :: rules) fits = (part.length, t) :: weighed rules fits := by
  rw [weighed, List.filter_cons, if_pos h, List.map_cons, weighed]

theorem weighed_cons_of_neg (h : ¬ fits part = true) :
    weighed ((part, t) :: rules) fits = weighed rules fits := by
  rw [weighed, List.filter_cons, if_neg h, weighed]

/-- A rule that is no longer than the best one so far changes nothing. -/
theorem heaviest_weighed_cons_of_le (h : fits part = true → part.length ≤ weight) :
    heaviest best weight (weighed ((part, t) :: rules) fits)
      = heaviest best weight (weighed rules fits) := by
  by_cases hfits : fits part = true
  · rw [weighed_cons_of_pos hfits, heaviest, if_neg (Nat.not_lt.mpr (h hfits))]
  · rw [weighed_cons_of_neg hfits]

/-- A rule that is longer than the best one so far becomes the best one. -/
theorem heaviest_weighed_cons_of_lt (hfits : fits part = true) (h : weight < part.length) :
    heaviest best weight (weighed ((part, t) :: rules) fits)
      = heaviest (some t) part.length (weighed rules fits) := by
  rw [weighed_cons_of_pos hfits, heaviest, if_pos h]

/-- The best rule stays where no other is longer. -/
theorem heaviest_weighed_of_le
    (h : ∀ rule ∈ rules, fits rule.1 = true → rule.1.length ≤ weight) :
    heaviest best weight (weighed rules fits) = best := by
  induction rules with
  | nil => rfl
  | cons rule rules ih =>
    obtain ⟨hrule, hrules⟩ := List.forall_mem_cons.mp h
    rw [heaviest_weighed_cons_of_le hrule, ih hrules]

/-- The first of the longest rules becomes the best one, however short the best one was before. -/
theorem heaviest_weighed_of_longest (hfits : fits part = true) (hweight : weight < part.length)
    (hbefore : ∀ rule ∈ before, fits rule.1 = true → rule.1.length < part.length)
    (hafter : ∀ rule ∈ after, fits rule.1 = true → rule.1.length ≤ part.length) :
    heaviest best weight (weighed (before ++ (part, t) :: after) fits) = some t := by
  -- Along what stands in front, in which the best one stays shorter than the longest.
  induction before generalizing best weight with
  | nil =>
    rw [List.nil_append, heaviest_weighed_cons_of_lt hfits hweight, heaviest_weighed_of_le hafter]
  | cons rule before ih =>
    obtain ⟨hrule, hrules⟩ := List.forall_mem_cons.mp hbefore
    rw [List.cons_append]
    by_cases hlonger : fits rule.1 = true ∧ weight < rule.1.length
    · rw [heaviest_weighed_cons_of_lt hlonger.1 hlonger.2]
      exact ih (hrule hlonger.1) hrules
    · rw [heaviest_weighed_cons_of_le fun h => Nat.not_lt.mp fun hlt => hlonger ⟨h, hlt⟩]
      exact ih hweight hrules

/-- No rule that fits is longer than a bound, or one of those that are is the first of the
    longest. -/
theorem longest_or_le (rules : List (List α × β)) (fits : List α → Bool) (weight : Nat) :
    (∀ rule ∈ rules, fits rule.1 = true → rule.1.length ≤ weight) ∨
      ∃ before part t after, rules = before ++ (part, t) :: after ∧ fits part = true ∧
        weight < part.length ∧
        (∀ rule ∈ before, fits rule.1 = true → rule.1.length < part.length) ∧
        ∀ rule ∈ after, fits rule.1 = true → rule.1.length ≤ part.length := by
  induction rules generalizing weight with
  | nil => exact .inl (List.forall_mem_nil _)
  | cons rule rules ih =>
    obtain ⟨part, t⟩ := rule
    by_cases hlonger : fits part = true ∧ weight < part.length
    · -- The rest is compared with this rule.
      obtain ⟨hfits, hweight⟩ := hlonger
      right
      rcases ih part.length with hle | ⟨before, longer, u, after, rfl, hlonger, hlt, hbefore, hafter⟩
      · exact ⟨[], part, t, rules, rfl, hfits, hweight, List.forall_mem_nil _, hle⟩
      · refine ⟨(part, t) :: before, longer, u, after, rfl, hlonger, hweight.trans hlt, ?_, hafter⟩
        exact List.forall_mem_cons.mpr ⟨fun _ => hlt, hbefore⟩
    · -- The rest is compared with the bound as it was.
      have hle : fits part = true → part.length ≤ weight :=
        fun h => Nat.not_lt.mp fun hlt => hlonger ⟨h, hlt⟩
      rcases ih weight with hrest | ⟨before, longer, u, after, rfl, hfits, hlt, hbefore, hafter⟩
      · exact .inl (List.forall_mem_cons.mpr ⟨hle, hrest⟩)
      · refine .inr ⟨(part, t) :: before, longer, u, after, rfl, hfits, hlt, ?_, hafter⟩
        exact List.forall_mem_cons.mpr ⟨fun h => (hle h).trans_lt hlt, hbefore⟩

/-- **The running maximum ends at** the first of the longest rules that fit. -/
theorem heaviest_weighed_eq_some_iff :
    heaviest none 0 (weighed rules fits) = some t ↔
      FirstLongest rules (fun part => fits part = true) t := by
  constructor
  · intro h
    rcases longest_or_le rules fits 0 with
      hle | ⟨before, part, u, after, rfl, hfits, hlt, hbefore, hafter⟩
    · rw [heaviest_weighed_of_le hle] at h
      cases h
    · rw [heaviest_weighed_of_longest hfits hlt hbefore hafter] at h
      cases h
      exact ⟨before, part, after, rfl, hfits, List.ne_nil_of_length_pos hlt, hbefore, hafter⟩
  · rintro ⟨before, part, after, rfl, hfits, hne, hbefore, hafter⟩
    exact heaviest_weighed_of_longest hfits (List.length_pos_iff.mpr hne) hbefore hafter

/-- It ends nowhere where only empty rules fit. -/
theorem heaviest_weighed_eq_none_iff :
    heaviest none 0 (weighed rules fits) = none ↔
      ∀ rule ∈ rules, fits rule.1 = true → rule.1 = [] := by
  constructor
  · intro h
    rcases longest_or_le rules fits 0 with
      hle | ⟨before, part, u, after, rfl, hfits, hlt, hbefore, hafter⟩
    · intro rule hrule hfits
      exact List.eq_nil_of_length_eq_zero (Nat.le_zero.mp (hle rule hrule hfits))
    · rw [heaviest_weighed_of_longest hfits hlt hbefore hafter] at h
      cases h
  · intro h
    refine heaviest_weighed_of_le fun rule hrule hfits => ?_
    rw [h rule hrule hfits]
    exact Nat.le_refl 0

end

/-! ### The rules of a repository -/

/-- The signatures of a repository with their types, in the order of the types. -/
def signatures (r : Repository) : List (Bytes × MediaType) :=
  r.rules.values.flatMap fun rule => rule.magic.map fun sig => (sig, rule.mediaType)

/-- The name patterns of a repository with their types, in the order of the types. -/
def patterns (r : Repository) : List (List Char × MediaType) :=
  r.rules.values.flatMap fun rule => rule.globs.map fun glob => (glob.toList, rule.mediaType)

/-- The types with a fitting signature are those of the fitting signatures. -/
theorem magicCandidates_eq (r : Repository) (head : Bytes) :
    r.magicCandidates head = weighed r.signatures fun sig => sig.isPrefixOf head := by
  unfold magicCandidates weighed signatures
  simp only [List.filter_flatMap, List.map_flatMap, List.filter_map, List.map_map,
    Function.comp_def]

/-- The types with a matching pattern are those of the matching patterns. -/
theorem nameCandidates_eq (r : Repository) (base : String) :
    r.nameCandidates base
      = weighed r.patterns fun glob =>
          Text.globMatches (String.ofList (Text.lowerChars glob)) base := by
  unfold nameCandidates weighed patterns
  simp only [List.filter_flatMap, List.map_flatMap, List.filter_map, List.map_map,
    Function.comp_def, Text.lower, String.length_toList]

/-! ### The last part of a path -/

/-- Whether some characters are the last part of a path: they hold no separator, and what stands in
    front of them ends in one, if there is anything. -/
structure LastPart (path last : List Char) : Prop where
  front : ∃ front, path = front ++ last ∧
    (front = [] ∨ front.getLast? = some '/' ∨ front.getLast? = some '\\')
  slash : '/' ∉ last
  backslash : '\\' ∉ last

/-- Nothing can be put in front of a last part. -/
theorem LastPart.eq_nil_of_append {path last more : List Char} (h : LastPart path last)
    (hmore : LastPart path (more ++ last)) : more = [] := by
  obtain ⟨front, hpath, hfront⟩ := h.front
  obtain ⟨front', hpath', -⟩ := hmore.front
  have hsame : front = front' ++ more := by
    rw [hpath, ← List.append_assoc] at hpath'
    exact List.append_cancel_right hpath'
  by_contra hne
  have hend : front.getLast? = more.getLast? := by
    rw [hsame, List.getLast?_append, List.getLast?_eq_some_getLast hne, Option.some_or]
  -- The last separator would stand in what is put in front.
  rcases hfront with rfl | hslash | hbackslash
  · exact hne (List.append_eq_nil_iff.mp hsame.symm).2
  · rw [hend] at hslash
    exact hmore.slash (List.mem_append_left _ (List.mem_of_getLast? hslash))
  · rw [hend] at hbackslash
    exact hmore.backslash (List.mem_append_left _ (List.mem_of_getLast? hbackslash))

/-- A path has one last part. -/
theorem LastPart.unique {path last last' : List Char} (h : LastPart path last)
    (h' : LastPart path last') : last = last' := by
  obtain ⟨front, hpath, -⟩ := h.front
  obtain ⟨front', hpath', -⟩ := h'.front
  rcases List.append_eq_append_iff.mp (hpath.symm.trans hpath') with
    ⟨more, -, hmore⟩ | ⟨more, -, hmore⟩
  · subst hmore
    rw [h'.eq_nil_of_append h, List.nil_append]
  · subst hmore
    rw [h.eq_nil_of_append h', List.nil_append]

/-- **A path has a last part**, and its lower case is what names are matched by. -/
theorem exists_lastPart (name : String) :
    ∃ last, LastPart name.toList last ∧ baseName name = String.ofList (Text.lowerChars last) := by
  -- A backslash counts as a slash: where the slashes are put in, the path is cut at the same place.
  obtain ⟨front, hcut, hfront⟩ :=
    Text.exists_afterLast_eq '/' (Text.replaceChar '\\' '/' name.toList)
  have hnoslash := Text.not_mem_afterLast '/' (Text.replaceChar '\\' '/' name.toList)
  obtain ⟨before, last, hname, rfl, hlast⟩ := List.map_eq_append_iff.mp hcut
  rw [← hlast] at hnoslash
  have hbackslash : '\\' ∉ last := fun hmem =>
    hnoslash (List.mem_map.mpr ⟨'\\', hmem, rfl⟩)
  have hslash : '/' ∉ last := fun hmem => hnoslash (List.mem_map.mpr ⟨'/', hmem, rfl⟩)
  have hsame : Text.replaceChar '\\' '/' last = last := Text.replaceChar_eq_self hbackslash
  refine ⟨last, ⟨⟨before, hname, ?_⟩, hslash, hbackslash⟩, ?_⟩
  · refine hfront.imp List.map_eq_nil_iff.mp fun hend => ?_
    rw [List.getLast?_map, Option.map_eq_some_iff] at hend
    obtain ⟨c, hc, hcslash⟩ := hend
    -- What became a slash was a backslash or was a slash before.
    split at hcslash
    · rename_i hback
      rw [hc, hback]
      exact .inr rfl
    · rw [hc, hcslash]
      exact .inl rfl
  · rw [baseName, Text.lower, String.toList_ofList, ← hlast]
    exact congrArg (fun cs => String.ofList (Text.lowerChars cs)) hsame

/-! ### Which rule wins -/

/-- **The longest rule wins**, of equally long ones the first.  By leading bytes there is no answer
    exactly where no signature but an empty one is in front of them, and otherwise the answer is the
    type of the first of the longest signatures that are.  By name there is none exactly where the
    last part of the path is empty in lower case, or matches no pattern in lower case but an empty
    one, and otherwise the answer is the type of the first of the longest patterns that it
    matches. -/
theorem longest_rule_wins (r : Repository) (head : Bytes) (name : String) :
    (r.byMagic? head = none ↔ ∀ rule ∈ r.signatures, rule.1 <+: head → rule.1 = []) ∧
    (∀ t, r.byMagic? head = some t ↔ FirstLongest r.signatures (· <+: head) t) ∧
    ∃ last, (∀ part, LastPart name.toList part ↔ part = last) ∧
      (r.byName? name = none ↔ Text.lowerChars last = [] ∨
        ∀ rule ∈ r.patterns,
          Text.GlobMatches (Text.lowerChars rule.1) (Text.lowerChars last) → rule.1 = []) ∧
      ∀ t, r.byName? name = some t ↔ Text.lowerChars last ≠ [] ∧
        FirstLongest r.patterns
          (fun glob => Text.GlobMatches (Text.lowerChars glob) (Text.lowerChars last)) t := by
  refine ⟨?_, ?_, ?_⟩
  · rw [byMagic?, magicCandidates_eq, heaviest_weighed_eq_none_iff]
    simp only [List.isPrefixOf_iff_prefix]
  · intro t
    rw [byMagic?, magicCandidates_eq, heaviest_weighed_eq_some_iff]
    simp only [List.isPrefixOf_iff_prefix]
  · obtain ⟨last, hlast, hbase⟩ := exists_lastPart name
    have hempty : (baseName name).isEmpty = true ↔ Text.lowerChars last = [] := by
      rw [hbase, String.isEmpty_iff, String.ofList_eq_empty_iff]
    have hfits : ∀ glob, Text.globMatches (String.ofList (Text.lowerChars glob)) (baseName name)
        = true ↔ Text.GlobMatches (Text.lowerChars glob) (Text.lowerChars last) := by
      intro glob
      rw [hbase, Text.globMatches_iff, String.toList_ofList, String.toList_ofList]
    have hname : r.byName? name = if (baseName name).isEmpty then none
        else heaviest none 0 (r.nameCandidates (baseName name)) := rfl
    rw [hname, nameCandidates_eq]
    have hunique : ∀ part, LastPart name.toList part ↔ part = last := by
      intro part
      constructor
      · intro hpart
        exact hpart.unique hlast
      · rintro rfl
        exact hlast
    refine ⟨last, hunique, ?_, fun t => ?_⟩
    · rw [ite_eq_left_iff, heaviest_weighed_eq_none_iff, hempty, ← or_iff_not_imp_left]
      simp only [hfits]
    · rw [ite_eq_iff, heaviest_weighed_eq_some_iff, hempty]
      simp only [hfits, reduceCtorEq, and_false, false_or, ne_eq]

end Repository

end MediaGraph
