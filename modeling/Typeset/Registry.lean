import Typeset.Outcome
import Typeset.Text.Quoted
import Typeset.Text.Split

/-!
# Named objects

Collaborators are named by references such as `package.module:attribute`. A
registry holds the modules that can be named, and every attribute of a reference
leads from an object to one of its members.

An object that makes instances is not used itself: what is loaded for a role is a
new instance of it.
-/

namespace Typeset

/-- An object that a reference can name. -/
inductive NamedObject where
  | text (value : String)
  /-- A function; the refusal is what is said when it is called with nothing. -/
  | function (name refusal : String)
  /-- An object that makes instances. -/
  | maker (name : String) (members : List (String × NamedObject))
  | instanceOf (maker : String)

namespace NamedObject

/-- The member that holds the name of an object. -/
def nameMember : String := "__name__"

def member? (object : NamedObject) (key : String) : Option NamedObject :=
  match object with
  | maker name members =>
      if key = nameMember then some (text name) else (members.find? (·.1 == key)).map (·.2)
  | function name _ => if key = nameMember then some (text name) else none
  | _ => none

def describe : NamedObject → String
  | text value => value
  | function _ _ => "instance of function"
  | maker name _ => s!"class {name}"
  | instanceOf name => s!"instance of {name}"

/-- What is used in place of an object: a new instance when it makes instances. -/
def instantiate : NamedObject → Except Fault NamedObject
  | maker name _ => .ok (instanceOf name)
  | function _ refusal => .error (.invalidKind refusal)
  | object => .ok object

end NamedObject

structure NamedModule where
  name : String
  /-- Whether other modules may lie below this one. -/
  isPackage : Bool
  members : List (String × NamedObject)

abbrev Registry := List NamedModule

namespace Registry

def missing (name : String) : Fault :=
  .missingModule s!"No module named {Text.quoted name}"

/-- The fault of a name that starts with the name of a module that is no package. -/
def notPackage (name parent : String) : Fault :=
  .missingModule s!"No module named {Text.quoted name}; {Text.quoted parent} is not a package"

/-- The module that the parts of a name lead to; the last part comes first. -/
def findModule (registry : Registry) : List String → Except Fault NamedModule
  | [] => .error (missing "")
  | last :: before =>
      let name := ".".intercalate (before.reverse ++ [last])
      match registry.find? (·.name == name) with
      | some found => .ok found
      | none =>
          if before = [] then .error (missing name)
          else
            match findModule registry before with
            | .error fault => .error fault
            | .ok parent =>
                .error (if parent.isPackage then missing name else notPackage name parent.name)

def moduleNamed (registry : Registry) (name : String) : Except Fault NamedModule :=
  if name.toList.head? = some '.' then
    .error (.invalidKind <|
      "the 'package' argument is required to perform a relative import for " ++ Text.quoted name)
  else registry.findModule (Text.pieces (· == '.') name).reverse

/-- What is said of a text that is no reference. -/
def malformedMessage (reference : String) : String :=
  s!"Invalid object reference '{reference}' (expected 'module.path:attribute')"

/-- The object that the keys of a path lead to in a module. -/
def follow (found : NamedModule) (path : String) : Option NamedObject :=
  match Text.pieces (· == '.') path with
  | [] => none
  | first :: keys =>
      let start :=
        if first = NamedObject.nameMember then some (.text found.name)
        else (found.members.find? (·.1 == first)).map (·.2)
      keys.foldl (fun object key => object.bind (·.member? key)) start

def load (registry : Registry) (reference : String) : Except Fault NamedObject :=
  match Text.splitFirst? ':' reference.toList with
  | some (name@(_ :: _), path@(_ :: _)) => do
      let name := String.ofList name
      let path := String.ofList path
      match follow (← registry.moduleNamed name) path with
      | some object => return object
      | none => throw (.invalidValue s!"'{name}' has no attribute '{path}'")
  | _ => .error (.invalidValue (malformedMessage reference))

end Registry

/-- The roles that collaborators have in a session. -/
inductive Role where
  | compiler
  | renderer
  | serializer
  deriving DecidableEq

namespace Role

def name : Role → String
  | compiler => "compiler"
  | renderer => "renderer"
  | serializer => "serializer"

def parse? (word : String) : Option Role :=
  [compiler, renderer, serializer].find? (·.name == word)

/-- The setting that names the collaborator of a role. -/
def setting : Role → String
  | compiler => "FOLIO_COMPILER"
  | renderer => "FOLIO_RENDERER"
  | serializer => "FOLIO_SERIALIZER"

/-- What is said when no collaborator is named for a role. -/
def missingMessage (role : Role) : String :=
  s!"No {role.name} configured. Pass one explicitly or set {role.setting}='module.path:attribute'"

/--
The collaborator of a role, named by a reference or else by a setting. An empty
reference names none, and then the setting does not count either.
-/
def load (role : Role) (registry : Registry) (setting? : String → Option String)
    (reference : Option String) : Except Fault NamedObject :=
  match reference <|> setting? role.setting with
  | none | some "" => .error (.invalidValue role.missingMessage)
  | some reference => do (← registry.load reference).instantiate

end Role

end Typeset
