import Typeset.LineMarkup.Output
import Typeset.Registry

/-!
# Names of the markup's engine

The references under which the compiler, the renderer and the serializer of the
line markup are loaded, and what a loaded object can do.
-/

namespace Typeset.LineMarkup

def compilerName : String := "ToyCompiler"

def rendererName : String := "ToyRenderer"

def serializerName : String := "ToySerializer"

/-- A function of an object, which needs the given arguments. -/
def method (owner name arguments : String) : String × NamedObject :=
  (name, .function name
    s!"{owner}.{name}() missing {arguments}")

def engineModule : NamedModule where
  name := "toy_engine"
  isPackage := false
  members :=
    [(compilerName, .maker compilerName
        [method compilerName "compile" "2 required positional arguments: 'self' and 'world'"]),
     (rendererName, .maker rendererName
        [method rendererName "render_svg" "2 required positional arguments: 'self' and 'page'"]),
     (serializerName, .maker serializerName
        [method serializerName "pdf"
           "3 required positional arguments: 'self', 'document', and 'options'",
         method serializerName "html" "2 required positional arguments: 'self' and 'document'"])]

def isInstance (name : String) : NamedObject → Bool
  | .instanceOf maker => maker == name
  | _ => false

def compilerOf (object : NamedObject) : Compiler Page Unit :=
  if isInstance compilerName object then compiler else .unavailable .unfit

def rendererOf (object : NamedObject) : Renderer Page :=
  if isInstance rendererName object then renderer else .unavailable .unfit

def serializerOf (object : NamedObject) : Serializer Page :=
  if isInstance serializerName object then serializer [] else .unavailable .unfit

/--
The modules that can be named by everyone: the engine, and the program itself for its version.
-/
def registry : Registry :=
  [engineModule, ⟨"folio", true, [("__version__", .text "0.1.0")]⟩]

end Typeset.LineMarkup
