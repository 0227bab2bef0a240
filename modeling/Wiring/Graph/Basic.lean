/-
  Wiring.Graph.Basic

  The declarations that one build sees, module by module, and looking them up.
-/

import Wiring.Failure

namespace Wiring

/-- A module: the one that is compiled, or a library it references. -/
structure CodeModule where
  name : String
  /-- The module opts in to be scanned as part of other builds. -/
  participates : Bool := false
  types : List Declaration := []
deriving DecidableEq

/-- Everything that one build sees. -/
structure Graph where
  /-- The name of the module that is compiled. -/
  current : String
  modules : List CodeModule
deriving DecidableEq

namespace Graph

/-- Whether a module is the one that is compiled. -/
def isCurrent (g : Graph) (moduleName : String) : Bool := g.current == moduleName

/-- The first module of a name. -/
def module? (g : Graph) (name : String) : Option CodeModule := g.modules.find? (·.name == name)

/-- The modules whose types are planned: the current one and those that participate. -/
def scanned (g : Graph) : List CodeModule :=
  g.modules.filter fun m => g.isCurrent m.name || m.participates

/-- The referenced modules that participate, by name. -/
def participating (g : Graph) : List CodeModule :=
  (g.modules.filter fun m => !g.isCurrent m.name && m.participates).sortBy (compareOn (·.name))

/-- The referenced modules that do not participate, by name. -/
def silent (g : Graph) : List CodeModule :=
  (g.modules.filter fun m => !g.isCurrent m.name && !m.participates).sortBy (compareOn (·.name))

/-- Every declaration, in the order of the modules. -/
def types (g : Graph) : List Declaration := g.modules.flatMap (·.types)

/-! ## Looking up a name -/

/-- The first declaration of a name, the current module searched first. -/
def find? (g : Graph) (name : String) : Option Declaration :=
  ((g.module? g.current).bind fun m => m.types.find? (·.name == name)).or
    (g.types.find? (·.name == name))

/-- The entry of a name while the declarations are entered one by one: the first declaration is
    kept, unless a later one says that it belongs to the current module. -/
def enter (g : Graph) (name : String) (entry : Option Declaration) (d : Declaration) :
    Option Declaration :=
  if d.name == name then
    match entry with
    | none => some d
    | some kept => if g.isCurrent d.moduleName then some d else some kept
  else entry

/-- The entry of a name when all declarations have been entered. -/
def lookup (g : Graph) (name : String) : Option Declaration :=
  g.types.foldl (g.enter name) none

/-- The declaration that a reference names. -/
def resolve (g : Graph) (ref : TypeRef) : Option Declaration := g.lookup ref.name

/-- The names of the interfaces whose implementations are plugins. -/
def pluginContracts (g : Graph) : List String :=
  ((g.types.filter fun d => d.kind == .interface && d.markers.contains .pluginContract).map
    (·.name)).sortDistinct compare

/-! ## Well-formedness -/

/-- The first fault among the types of a module, `seen` being the names of those before. -/
def checkTypes (m : CodeModule) (seen : List String) : List Declaration → Except Failure Unit
  | [] => .ok ()
  | d :: rest =>
    if d.moduleName != m.name then .error (.moduleMismatch d.name m.name d.moduleName)
    else if seen.contains d.name then .error (.duplicateType m.name d.name)
    else checkTypes m (d.name :: seen) rest

/-- The first fault among the modules, `seen` being the names of those before. -/
def checkModules (seen : List String) : List CodeModule → Except Failure Unit
  | [] => .ok ()
  | m :: rest =>
    if seen.contains m.name then .error (.duplicateModule m.name)
    else
      match checkTypes m [] m.types with
      | .error failure => .error failure
      | .ok () => checkModules (m.name :: seen) rest

/-- Checks what the planning relies on: names are unique, every type is listed under its module,
    and the current module is there. -/
def validate (g : Graph) : Except Failure Unit :=
  match checkModules [] g.modules with
  | .error failure => .error failure
  | .ok () =>
    if g.modules.any (·.name == g.current) then .ok () else .error (.unknownModule g.current)

end Graph
end Wiring
