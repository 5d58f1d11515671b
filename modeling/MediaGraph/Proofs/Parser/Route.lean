import MediaGraph.Proofs.Parser.Lookup

namespace MediaGraph.Parser

/-!
# The way of a document

A document passes composites and decorators until a leaf takes it.  A route lists the composites
that it passes, from the outside in, and says where it ends:

* `Route` — the routes of a document at a parser.
* `exists_route` — there is one for every document and every parser.
* `Route.parse_eq` — what comes of a document is what its route ends with.
-/

/-- A composite that a document passes: the classes that it leaves out, and whether it hands the
    document to its fallback. -/
structure Hop where
  excluded : List ClassRef
  viaFallback : Bool
  deriving Repr, DecidableEq

/-- Where the way of a document ends. -/
inductive Finish where
  /-- At a leaf, which is given this stream and this metadata. -/
  | leaf (cls : ClassRef) (job : Job) (s : Option Stream) (m : Metadata)
  /-- At a composite that fails to detect a type. -/
  | undetected (f : Failure) (m : Metadata)

/-- What comes of a document where its way ends, with the metadata afterwards. -/
def Finish.outcome : Finish → Except Failure Content × Metadata
  | .leaf _ job s m => job.run (s.map Stream.remaining) m
  | .undetected f m => (.error f, m)

/-- The composites that a document passes on its way from a parser to where the way ends. -/
inductive Route : Option Stream → Metadata → Parser → List Hop → Finish → Prop where
  | leaf {s m cls job} : Route s m (.leaf cls job) [] (.leaf cls job s m)
  | decorator {s m cls effect inner hops finish} (rest : Route s m inner hops finish) :
      Route s m (.decorator cls effect inner) hops finish
  | bundle {s m cls registry children fallback inner hops finish}
      (rest : Route s m inner hops finish) :
      Route s m (.bundle cls registry children fallback inner) hops finish
  | undetected {s m cls detector registry children excluded fallback f}
      (prepared : (prepare detector s m).result = .error f) :
      Route s m (.composite cls detector registry children excluded fallback) [] (.undetected f m)
  | child {s m cls detector registry children excluded fallback s' m' i child hops finish}
      (prepared : (prepare detector s m).result = .ok (s', m'))
      (chosen : chooseFor registry children m' = some i) (found : children[i]? = some child)
      (rest : Route s' m' child hops finish) :
      Route s m (.composite cls detector registry children excluded fallback)
        (⟨excluded, false⟩ :: hops) finish
  | fallback {s m cls detector registry children excluded fallback s' m' hops finish}
      (prepared : (prepare detector s m).result = .ok (s', m'))
      (unclaimed : chooseFor registry children m' = none)
      (rest : Route s' m' fallback hops finish) :
      Route s m (.composite cls detector registry children excluded fallback)
        (⟨excluded, true⟩ :: hops) finish

/-! ### Every document has a route -/

/-- The child that a composite chooses is there. -/
theorem getElem?_of_chooseFor {registry : Registry} {children : List Parser} {m : Metadata}
    {i : Nat} (h : chooseFor registry children m = some i) : ∃ child, children[i]? = some child :=
  getElem?_of_choose h

/-- **Every document gets somewhere.**  Its way leads to a leaf, or ends where a type cannot be
    detected. -/
theorem exists_route (p : Parser) (s : Option Stream) (m : Metadata) :
    ∃ hops finish, Route s m p hops finish := by
  match p with
  | .leaf cls job => exact ⟨_, _, .leaf⟩
  | .decorator _ _ inner =>
    obtain ⟨hops, finish, rest⟩ := exists_route inner s m
    exact ⟨hops, finish, .decorator rest⟩
  | .bundle _ _ _ _ inner =>
    obtain ⟨hops, finish, rest⟩ := exists_route inner s m
    exact ⟨hops, finish, .bundle rest⟩
  | .composite cls detector registry children excluded fallback =>
    cases hp : (prepare detector s m).result with
    | error f => exact ⟨_, _, .undetected hp⟩
    | ok prepared =>
      cases hc : chooseFor registry children prepared.2 with
      | none =>
        obtain ⟨hops, finish, rest⟩ := exists_route fallback prepared.1 prepared.2
        exact ⟨_, finish, .fallback hp hc rest⟩
      | some i =>
        obtain ⟨child, hchild⟩ := getElem?_of_chooseFor hc
        have hlt : sizeOf child < sizeOf children :=
          List.sizeOf_lt_of_mem (List.mem_of_getElem? hchild)
        obtain ⟨hops, finish, rest⟩ := exists_route child prepared.1 prepared.2
        exact ⟨_, finish, .child hp hc hchild rest⟩
termination_by sizeOf p
decreasing_by
  all_goals simp_wf
  all_goals omega

/-! ### The route decides what comes of the document -/

/-- Handing a document to the parser of a number is handing it to the parser there. -/
theorem parseNth_eq_map (s : Option Stream) (m : Metadata) (ps : List Parser) (i : Nat) :
    parseNth s m ps i = (ps[i]?).map (parse s m) := by
  induction ps generalizing i with
  | nil => rfl
  | cons p ps ih =>
    cases i with
    | zero => rfl
    | succ i => rw [parseNth, ih, List.getElem?_cons_succ]

/-- What comes of a document, without what is reported. -/
def Parsed.outcome (x : Parsed) : Except Failure Content × Metadata :=
  (x.content.result, x.metadata)

/-- What comes of a document at a parser is what comes of it where its way ends. -/
theorem Route.parse_eq {s : Option Stream} {m : Metadata} {p : Parser} {hops : List Hop}
    {finish : Finish} (h : Route s m p hops finish) :
    Parsed.outcome (parse s m p) = finish.outcome := by
  induction h with
  | leaf => rfl
  | decorator _ ih => rwa [parse]
  | bundle _ ih => rwa [parse]
  | undetected prepared => simp only [parse, prepared, Parsed.outcome, Finish.outcome]
  | child prepared chosen found _ ih =>
    simp only [parse, prepared, chosen, parseNth_eq_map, found, Option.map_some]
    exact ih
  | fallback prepared unclaimed _ ih =>
    simp only [parse, prepared, unclaimed]
    exact ih

end MediaGraph.Parser
