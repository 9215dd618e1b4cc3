import TemplateMarkup.Profile
import TemplateMarkup.Toml.Document

namespace TemplateMarkup

-- Further public identifiers, each with the one file it has.
abbrev Resources :=
  Std.ExtTreeMap String String

-- What the settings file of a project says. All paths are relative to the project.
structure Settings where
  compress : Bool
  -- A directory with the standard definitions, to be used instead of the bundled texts.
  dtdDirectory : Option String
  resourceTable : Resources
  deriving DecidableEq, Repr

namespace Settings

-- The resources in the order of their identifiers.
def resources (settings : Settings) : List (String × String) :=
  settings.resourceTable.toList

-- The settings of a project that says nothing.
def standard : Settings :=
  ⟨true, none, ∅⟩

-- Where the settings may be kept. The first file that is there counts.
def fileNames : List String :=
  ["tml.toml", ".tml.toml", ".config/tml.toml"]

def findFile (files : FileSystem) (root : String) : Option String :=
  (fileNames.map (Path.join root)).find? files.isFile

def readPath : Toml.Value → Option String
  | .string path => some path
  | _ => none

def readResource (entry : String × Toml.Value) : Option (String × String) :=
  (readPath entry.2).map (entry.1, ·)

-- A date counts as a table that holds its text under this name.
def dateKey : String :=
  "$__toml_private_datetime"

def readResources (value : Toml.Value) : Option Resources :=
  match value with
  | .table _ entries => (entries.mapM readResource).map fun found => Std.ExtTreeMap.ofList found
  | .datetime date => some {(dateKey, date.text)}
  | _ => none

-- An entry that may be missing, but must be right if it is there.
def readEntry {α : Type} (entry : Option Toml.Value) (read : Toml.Value → Option α)
    (missing : α) : Option α :=
  match entry with
  | some value => read value
  | none => some missing

-- Settings that are not known are passed over, but have to be readable.
def unknownReadable (known : List String) (entries : Toml.Entries) : Bool :=
  entries.all fun entry => known.contains entry.1 || entry.2.isReadable

-- The part on external definitions. It may be a table, or a list that begins with its entries
-- in order. A date counts as a table in which nothing is known.
def readEntities (value : Toml.Value) : Option (Option String × Resources) :=
  let entries := match value with
    | .table _ entries =>
      if unknownReadable ["dtd_dir", "resources"] entries then
        some (Toml.Value.find? entries "dtd_dir", Toml.Value.find? entries "resources")
      else none
    | .array items => some (items[0]?, items[1]?)
    | .tables items => some (items[0]?, items[1]?)
    | .datetime _ => some (none, none)
    | _ => none
  match entries with
  | none => none
  | some (directory, resources) => do
    let directory ← readEntry directory (fun value => (readPath value).map some) none
    let resources ← readEntry resources readResources ∅
    some (directory, resources)

def readSwitch : Toml.Value → Option Bool
  | .boolean value => some value
  | _ => none

def ofToml (entries : Toml.Entries) : Option Settings := do
  let compress ← readEntry (Toml.Value.find? entries "compress_whitespace") readSwitch true
  let (directory, resources) ←
    readEntry (Toml.Value.find? entries "entities") readEntities (none, ∅)
  if unknownReadable ["compress_whitespace", "entities"] entries then
    some ⟨compress, directory, resources⟩
  else none

def ofText (text : String) : Except Fault Settings :=
  match Toml.parse text with
  | none => .error (.invalidSettings "malformed TOML")
  | some entries =>
    match ofToml entries with
    | none => .error (.invalidSettings "a value of the wrong type")
    | some settings => .ok settings

-- The settings of the project at `root`, or nothing where it has none.
def load (files : FileSystem) (root : String) : Except Fault (Option Settings) :=
  match findFile files root with
  | none => .ok none
  | some path =>
    match files.readText path with
    | .error failure => .error (.unreadable failure)
    | .ok text => (ofText text).map some

-- The standard identifiers, overridden by the resources of the project.
def catalog (settings : Settings) (root : String) : Catalog :=
  let standard := match settings.dtdDirectory with
    | some directory => Catalog.inDirectory (Path.join root directory)
    | none => Catalog.bundled
  settings.resources.foldl (fun catalog entry => catalog.addFile entry.1 (Path.join root entry.2))
    standard

end Settings

namespace Profile

def ofSettings (root : String) (settings : Option Settings) : Profile :=
  match settings with
  | some settings => ⟨settings.compress, settings.catalog root⟩
  | none => standard

-- The profile of the project at `root`.
def load (files : FileSystem) (root : String) : Except Fault Profile :=
  (Settings.load files root).map (ofSettings root)

end Profile

end TemplateMarkup
