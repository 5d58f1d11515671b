import MediaGraph.Config.Capability

namespace MediaGraph.Config

/-!
# Loading a tree of elements

The items directly below the one container element are loaded in document order.  An item that
holds others is given every item at any depth below it, so an item below two such items is loaded
for each of them.

* `checkItem` — an item names a class that resolves and may be declared.
* `loadItem` — the instance of an item; `loadNodes` — the instances of all items in some content.
* `loadOverall` — the one instance of a family.
-/

variable {ι : Type}

/-! ### Classes -/

/-- A failure to find a class, as a problem of the configuration. -/
def ofResolving (item name : String) (f : Failure) : Failure :=
  match f with
  | .unknownService .. => .configuration (.classUnknown item name) (some f)
  | .unavailableService .. => .configuration (.classUnusable item name) (some f)
  | other => other

/-- The class behind a name in an item. -/
def resolveClass (w : World) (services : ServiceTable) (family : Family) (name : String) :
    Traced Implementation :=
  (services.classFor w.modules family name).mapFailure (ofResolving family.label name)

/-- A failure to build an instance, as a problem of the configuration. -/
def ofBuilding (item name : String) (f : Failure) : Failure :=
  match f with
  | .configuration .. => f
  | other => .configuration (.classUnbuildable item name) (some other)

/-- Checks that an item names a class that resolves and may be declared. -/
def checkItem (c : Capability ι) (w : World) (services : ServiceTable) (e : Xml.Element) :
    Traced Unit := do
  let name ← Traced.ofExcept e.className
  let i ← resolveClass w services c.family name
  Traced.ofExcept (c.checkAllowed i name)

/-- Checks some items, up to the first that fails. -/
def checkItems (c : Capability ι) (w : World) (services : ServiceTable) :
    List Xml.Element → Traced Unit
  | [] => return ()
  | e :: es => do
    checkItem c w services e
    checkItems c w services es

/-- The classes that some elements exclude. -/
def exclusions (w : World) (services : ServiceTable) (family : Family) :
    List Xml.Element → Traced (List ClassRef)
  | [] => return []
  | e :: es => do
    let name ← Traced.ofExcept e.className
    let i ← resolveClass w services family name
    return i.cls :: (← exclusions w services family es)

/-! ### Instances -/

/-- Builds an instance: by a shape where children are given and the class advertises one that is
    usable, else without arguments. -/
def buildItem (c : Capability ι) (i : Implementation) (name : String)
    (parts : Option (List ι × List ClassRef)) : Traced ι := do
  let built ←
    match parts with
    | some (children, excluded) =>
      (c.construct? i children excluded).mapFailure (ofBuilding c.itemTag name)
    | none => pure none
  match built with
  | some instance_ => return instance_
  | none => (c.instantiate i).mapFailure (ofBuilding c.itemTag name)

/-- The instance of an item, where `below` stands for the instances of the items below it; they
    are taken only for a class that holds others. -/
def loadWith (c : Capability ι) (w : World) (services : ServiceTable) (below : Traced (List ι))
    (e : Xml.Element) : Traced ι := do
  let name ← Traced.ofExcept e.className
  let i ← resolveClass w services c.family name
  Traced.ofExcept (c.checkAllowed i name)
  Traced.report .debug s!"Loading {c.itemTag} {name}"
  checkItems c w services (e.descendants c.itemTag)
  let built ←
    if c.isCompositeClass i then do
      let children ← below
      let excluded ← exclusions w services c.family (e.descendants c.excludeTag)
      buildItem c i name (some (children, excluded))
    else buildItem c i name none
  c.decorate built e

mutual

/-- The instances of all items in a piece of content, the piece itself first. -/
def loadNode (c : Capability ι) (w : World) (services : ServiceTable) :
    Xml.Node → Traced (List ι)
  | .text _ => return []
  | .element tag attributes content =>
    let below := loadNodes c w services content
    if tag = c.itemTag then do
      let first ← loadWith c w services below ⟨tag, attributes, content⟩
      return first :: (← below)
    else below

/-- The instances of all items in some content, at any depth, in document order. -/
def loadNodes (c : Capability ι) (w : World) (services : ServiceTable) :
    List Xml.Node → Traced (List ι)
  | [] => return []
  | n :: ns => do
    let first ← loadNode c w services n
    return first ++ (← loadNodes c w services ns)

end

/-- The instance of an item. -/
def loadItem (c : Capability ι) (w : World) (services : ServiceTable) (e : Xml.Element) :
    Traced ι :=
  loadWith c w services (loadNodes c w services e.content) e

/-- The instances of some items. -/
def loadItems (c : Capability ι) (w : World) (services : ServiceTable) :
    List Xml.Element → Traced (List ι)
  | [] => return []
  | e :: es => do
    let first ← loadItem c w services e
    return first :: (← loadItems c w services es)

/-! ### The whole family -/

/-- The items directly below the container element, of which there is at most one. -/
def topLevelItems (c : Capability ι) (root : Xml.Element) : Except Failure (List Xml.Element) :=
  match root.descendants c.containerTag with
  | [] => .ok []
  | [container] => .ok (container.children c.itemTag)
  | _ => .error (.configuration (.containerRepeated c.containerTag) none)

/-- The instance that stands for some instances: a single one that already holds others itself,
    else a composite of them all. -/
def combine (c : Capability ι) (instances : List ι) : Traced ι :=
  match instances with
  | [one] => if c.isComposite one then return one else c.createComposite [one]
  | many => c.createComposite many

/-- The one instance of a family that a document describes. -/
def loadOverall (c : Capability ι) (w : World) (services : ServiceTable) (root : Xml.Element) :
    Traced ι := do
  match ← Traced.ofExcept (topLevelItems c root) with
  | [] =>
    Traced.report .debug s!"No <{c.itemTag}> declared; using the default"
    c.createDefault
  | items => combine c (← loadItems c w services items)

end MediaGraph.Config
