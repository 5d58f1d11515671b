import MediaGraph.Service.Implementation

namespace MediaGraph

/-!
# Modules

What a service table names is looked up in modules.  A module is found by its dotted path, through
packages only; inside it, a dotted name leads through members.  What the modules hold besides
classes, and what is found in classes, is left open.

* `ModuleTable.resolve` — what a target names.
-/

/-- What a module holds under a name. -/
inductive Member where
  | implementation (i : Implementation)
  | submodule (path : String)
  /-- Anything else, with what is found in it under further names. -/
  | value (inside : String → Option Member)

/-- A module. -/
structure Module where
  path : String
  isPackage : Bool
  /-- The failure of a definition, with which running the module ends. -/
  fault : Option Failure
  members : List (String × Member)

/-- A module after it was run. -/
def Module.run (m : Module) : Except Failure Module :=
  match m.fault with
  | some f => .error f
  | none => .ok m

/-- All modules that can be found, and what is found in the classes of the families. -/
structure ModuleTable where
  listed : List Module
  inClass : Implementation → String → Option Member

namespace ModuleTable

/-- The module of a path. -/
def find? (modules : ModuleTable) (path : String) : Option Module :=
  modules.listed.find? fun m => m.path == path

/-- Imports a module: all packages on the way must be there, and are run first. -/
def importPath (modules : ModuleTable) (walked : List String) :
    List String → Except Failure Module
  | [] => .error .missingModule
  | part :: rest =>
    let here := walked ++ [part]
    match modules.find? (Text.joinWith "." here) with
    | none => .error .missingModule
    | some m => do
      let m ← m.run
      match rest with
      | [] => .ok m
      | _ :: _ => if m.isPackage then importPath modules here rest else .error .missingModule

/-- The module of a name; names that start with a dot are not accepted. -/
def importModule (modules : ModuleTable) (name : String) : Except Failure Module :=
  if name.isEmpty then .error (.invalidValue .emptyModuleName)
  else if name.toList.head? = some '.' then .error .wrongType
  else importPath modules [] (Text.splitAt '.' name)

/-! ### Names inside modules and classes -/

/-- What was found, or the failure to find anything. -/
def found : Option Member → Except Failure Member
  | some member => .ok member
  | none => .error .missingAttribute

/-- What a member holds under a name. -/
def attributeOf (modules : ModuleTable) (name : String) : Member → Except Failure Member
  | .submodule path => found ((modules.find? path).bind (·.members.lookup name))
  | .implementation i => found (modules.inClass i name)
  | .value inside => found (inside name)

/-- Follows names from a member. -/
def follow (modules : ModuleTable) : Member → List String → Except Failure Member
  | member, [] => .ok member
  | member, name :: rest => do
    let next ← attributeOf modules name member
    follow modules next rest

/-- The parts of a target: a module and the names inside it.  They are separated by a colon; where
    nothing follows one, by the last dot of the whole target. -/
def splitTarget (target : String) : String × List String :=
  let cs := target.toList
  let (path, names) :=
    match Text.cutFirst? ':' cs with
    | some (path, name :: names) => (path, name :: names)
    | _ => (Text.cutLast? '.' cs).getD ([], cs)
  (String.ofList path, (Text.splitChars '.' names).map String.ofList)

/-- What a target names. -/
def resolve (modules : ModuleTable) (target : String) : Except Failure Member := do
  let (path, names) := splitTarget target
  let m ← modules.importModule path
  match names with
  | [] => .error .missingAttribute
  | name :: rest =>
    let first ← found (m.members.lookup name)
    follow modules first rest

end ModuleTable

end MediaGraph
