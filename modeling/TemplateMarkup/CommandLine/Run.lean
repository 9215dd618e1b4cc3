import TemplateMarkup.CommandLine.Arguments
import TemplateMarkup.Settings

namespace TemplateMarkup.CommandLine

-- What a run of the program leaves behind.
structure Outcome where
  exitCode : Nat
  output : String
  -- The faults that are reported on the error stream, in order.
  faults : List Fault
  -- How many files failed a check, as the last line of the error stream.
  summary : Option String
  colored : Bool

namespace Outcome

-- The codes that a plain error stream shows. Colors break them up.
def plainCodes (outcome : Outcome) : List String :=
  if outcome.colored then [] else outcome.faults.map Fault.code

end Outcome

-- The ways in which text can be set off on a terminal.
inductive Style where
  | bold
  | green
  | red
  deriving DecidableEq, Repr

def Style.codes : Style → Nat × Nat
  | .bold => (1, 0)
  | .green => (32, 39)
  | .red => (31, 39)

def styled (colored : Bool) (style : Style) (text : String) : String :=
  if colored then s!"\x1b[{style.codes.1}m{text}\x1b[{style.codes.2}m" else text

def line (text : String) : String :=
  text ++ "\n"

def tokenLines (tokens : Array Token) : String :=
  String.join (tokens.toList.map fun token => line ("  " ++ token.describe))

def overrideLines (entry : String × Array Token) : String :=
  line s!"override {entry.1}:" ++ tokenLines entry.2

-- A template for a human reader.
def listing (colored : Bool) (template : Template) : String :=
  let ids := template.ids.ids
  let idText := if ids.isEmpty then "(none)" else String.intercalate ", " ids
  let extendsText := if template.isExtension then "yes" else "no"
  let overrides := match template.overrides with
    | some table => String.join (table.toList.map overrideLines)
    | none => ""
  line (styled colored .bold template.resource) ++ line "tokens:" ++ tokenLines template.tokens ++
    line s!"component ids: {idText}" ++ line s!"extends: {extendsText}" ++ overrides

def shown (colored : Bool) (format : OutputFormat) (template : Template) : String :=
  match format with
  | .text => listing colored template
  | .json => line template.toJson.prettyText

def parseOutcome (files : FileSystem) (profile : Profile) (colored : Bool) (file : String)
    (format : OutputFormat) (keepSpace : Bool) : Outcome :=
  let profile := if keepSpace then { profile with compress := false } else profile
  match profile.parseFile files file with
  | .ok template => ⟨0, shown colored format template, [], none, colored⟩
  | .error fault => ⟨2, "", [fault], none, colored⟩

-- The line of a file that is in order, or the fault in it.
def checkFile (files : FileSystem) (profile : Profile) (colored : Bool) (file : String) :
    Except Fault String :=
  match profile.parseFile files file with
  | .ok _ => .ok (line (styled colored .green "ok" ++ " " ++ file))
  | .error fault => .error fault

def okLine? : Except Fault String → Option String
  | .ok text => some text
  | .error _ => none

def fault? : Except Fault String → Option Fault
  | .ok _ => none
  | .error fault => some fault

def checkOutcome (files : FileSystem) (profile : Profile) (colored : Bool) (names : List String) :
    Outcome :=
  let results := names.map (checkFile files profile colored)
  let faults := results.filterMap fault?
  let output := String.join (results.filterMap okLine?)
  if faults.isEmpty then
    ⟨0, output, [], none, colored⟩
  else
    let label := styled colored .red "error:"
    ⟨1, output, faults,
      some s!"{label} {faults.length} of {names.length} template(s) failed to parse", colored⟩

def commandOutcome (files : FileSystem) (colored : Bool) (root : String) (command : Command) :
    Outcome :=
  match Profile.load files root with
  | .error fault => ⟨2, "", [fault], none, colored⟩
  | .ok profile =>
    match command with
    | .parse file format keepSpace => parseOutcome files profile colored file format keepSpace
    | .check names => checkOutcome files profile colored names

def Invocation.root (invocation : Invocation) : String :=
  invocation.path.getD "."

def usage : String :=
  String.join (["Inspect and validate component templates.", "",
    "Usage: tml [OPTIONS] [COMMAND]", "",
    "Commands:",
    "  parse <FILE> [--format text|json] [--preserve-whitespace]",
    "  check <FILES>...", "",
    "Options:",
    "  -p, --path <PATH>  Path to the project root directory, where `tml.toml` is looked up",
    "  -v, --verbose      Enable verbose output",
    "      --no-color     Disable colored output",
    "  -h, --help         Print help",
    "  -V, --version      Print version"].map line)

def versionText : String :=
  line "tml 0.3.0"

-- Runs the program. Colors are used where the surroundings want them and no option forbids it.
def run (files : FileSystem) (wantsColor : Bool) (arguments : List String) : Outcome :=
  match request arguments with
  | .help => ⟨0, usage, [], none, false⟩
  | .version => ⟨0, versionText, [], none, false⟩
  | .misuse => ⟨2, "", [], none, false⟩
  | .invoke invocation =>
    let colored := wantsColor && !invocation.noColor
    match invocation.command with
    | none => ⟨1, "", [], none, colored⟩
    | some command => commandOutcome files colored invocation.root command

end TemplateMarkup.CommandLine
