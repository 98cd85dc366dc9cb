import Typeset.CommandLine.Arguments
import Typeset.Number.Integer
import Typeset.Session.Basic

/-!
# Commands

What the program can be asked to do: to check a document, to render one of its
pages, to export it as PDF or HTML, or to list font families. Everything but the
existence of the document is settled by the arguments alone.
-/

namespace Typeset.CommandLine

structure DocumentOptions where
  document : String
  root : Option HostPath
  fontPaths : List HostPath
  ignoreSystemFonts : Bool
  inputs : List String
  compiler : Option String
  verbose : Bool

inductive Action where
  | check
  | svg (page : Int) (output : Option HostPath) (renderer : Option String)
  | pdf (options : PdfOptions) (output : Option HostPath) (serializer : Option String)
  | html (output : Option HostPath) (serializer : Option String)

/-- What the program is asked to do. -/
inductive Command where
  | help
  | fonts (paths : List HostPath) (ignoreSystemFonts : Bool)
  | document (options : DocumentOptions) (action : Action)

/-- A command, and the directory below which it keeps a log. -/
structure Invocation where
  logDirectory : Option HostPath
  command : Command

def Action.name : Action → String
  | check => "compile"
  | svg _ _ _ => "svg"
  | pdf _ _ _ => "pdf"
  | html _ _ => "html"

/-! ## Rules -/

def valued (key : String) (otherNames : List String) : OptionRule :=
  ⟨key, otherNames, true⟩

def switch (key : String) (otherNames : List String) : OptionRule :=
  ⟨key, otherNames, false⟩

def helpRule : OptionRule :=
  switch "--help" []

/-- The options that stand before a command. -/
def mainRules : List OptionRule :=
  [valued "--log-dir" [], switch "--log" [], helpRule]

def fontRules : List OptionRule :=
  [valued "--font-path" [], switch "--ignore-system-fonts" []]

def documentRules : List OptionRule :=
  fontRules ++
    [valued "--root" ["-r"], valued "--input" [], valued "--compiler" [],
     switch "--verbose" ["-v"], helpRule]

def outputRule : OptionRule :=
  valued "--output" ["-o"]

def rulesOf? (command : String) : Option (List OptionRule) :=
  match command with
  | "compile" => some documentRules
  | "svg" =>
      some (valued "--page" ["-p"] :: outputRule :: valued "--renderer" [] :: documentRules)
  | "pdf" =>
      some (valued "--pages" [] :: valued "--standard" [] :: valued "--document-id" [] ::
        outputRule :: valued "--serializer" [] :: documentRules)
  | "html" => some (outputRule :: valued "--serializer" [] :: documentRules)
  | "fonts" => some (helpRule :: fontRules)
  | _ => none

/-! ## Reading -/

/-- The page that a text names with plain digits; pages are counted from zero. -/
def pageOf? (text : String) : Option Int := do
  let page ← Number.integer? text
  if 0 ≤ page ∧ text.toList.all (·.toNat < 0x80) then some page else none

/-- The page that is rendered when an option names one, or none does. -/
def readPage (text : Option String) : Except Misuse Int :=
  match text with
  | none => .ok 0
  | some text =>
      match pageOf? text with
      | some page => .ok page
      | none => .error (.invalidValue "--page" text)

def pathOf? (arguments : Arguments) (key : String) : Option HostPath :=
  (arguments.value? key).map HostPath.parse

def fontPathsOf (arguments : Arguments) : List HostPath :=
  (arguments.values "--font-path").map HostPath.parse

def pdfOptionsOf (arguments : Arguments) : PdfOptions where
  pages := arguments.value? "--pages"
  standards := (arguments.values "--standard").map StandardRequest.named
  documentId := arguments.value? "--document-id"

/-- What a command does with its document. -/
def readAction (command : String) (arguments : Arguments) : Except Misuse Action := do
  let output := pathOf? arguments "--output"
  match command with
  | "svg" =>
      let page ← readPage (arguments.value? "--page")
      return .svg page output (arguments.value? "--renderer")
  | "pdf" => return .pdf (pdfOptionsOf arguments) output (arguments.value? "--serializer")
  | "html" => return .html output (arguments.value? "--serializer")
  | _ => return .check

/-- The options that all commands on documents have, for the given document. -/
def documentOptionsOf (document : String) (arguments : Arguments) : DocumentOptions where
  document := document
  root := pathOf? arguments "--root"
  fontPaths := fontPathsOf arguments
  ignoreSystemFonts := arguments.has "--ignore-system-fonts"
  inputs := arguments.values "--input"
  compiler := arguments.value? "--compiler"
  verbose := arguments.has "--verbose"

/-- The command of a name with its own arguments. -/
def readCommand (name : String) (rest : List String) : Except Misuse Command :=
  match rulesOf? name with
  | none => .error (.unknownCommand name)
  | some rules => do
      let arguments ← Arguments.read rules true rest
      if arguments.has helpRule.key then return .help
      match name, arguments.others with
      | "fonts", [] =>
          return .fonts (fontPathsOf arguments) (arguments.has "--ignore-system-fonts")
      | "fonts", extra :: _ => throw (.extraArgument extra)
      | _, [] => throw .missingDocument
      | _, [document] =>
          return .document (documentOptionsOf document arguments) (← readAction name arguments)
      | _, _ :: extra :: _ => throw (.extraArgument extra)

/-- The directory below which logs are kept when no other is named. -/
def standardLogDirectory : HostPath :=
  .parse "outs/logs"

/-- Where a log is kept, if at all. -/
def logDirectoryOf (arguments : Arguments) : Option HostPath :=
  match pathOf? arguments "--log-dir" with
  | some path => some path
  | none => if arguments.has "--log" then some standardLogDirectory else none

/-- What the arguments of the program ask for. -/
def Invocation.read (arguments : List String) : Except Misuse Invocation := do
  let arguments ← Arguments.read mainRules false arguments
  if arguments.has helpRule.key then return ⟨none, .help⟩
  match arguments.others with
  | [] => return ⟨none, .help⟩
  | name :: rest => return ⟨logDirectoryOf arguments, ← readCommand name rest⟩

end Typeset.CommandLine
