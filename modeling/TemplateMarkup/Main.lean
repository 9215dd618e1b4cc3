import TemplateMarkup.CommandLine.Run

namespace TemplateMarkup.CommandLine

-- Reads a path of the actual file system.
def readActual (path : String) : IO (Except ReadFailure ByteArray) := do
  try
    return .ok (← IO.FS.readBinFile path)
  catch failure =>
    match failure with
    | .noFileOrDirectory .. => return .error .notFound
    | .inappropriateType .. => return .error .directory
    | other => return .error (.other (toString other))

-- A file system that knows the paths that have been read.
def known (entries : List (String × Except ReadFailure ByteArray)) : FileSystem :=
  fun path =>
    match entries.find? (·.1 == path) with
    | some entry => entry.2
    | none => .error .notFound

def readPaths (paths : List String) : IO (List (String × Except ReadFailure ByteArray)) :=
  paths.mapM fun path => return (path, ← readActual path)

-- The files that settings name.
def settingsPaths (root : String) (settings : Settings) : List String :=
  let standard := match settings.dtdDirectory with
    | some directory =>
      Catalog.standards.map fun s => Path.join (Path.join root directory) s.fileName
    | none => []
  standard ++ settings.resources.map fun entry => Path.join root entry.2

def commandPaths : Command → List String
  | .parse file _ _ => [file]
  | .check files => files

-- The files that a run can ask for: settings first, then templates and definitions.
def gather (invocation : Invocation) : IO FileSystem := do
  let root := invocation.root
  let first ← readPaths (Settings.fileNames.map (Path.join root))
  let named := match Settings.load (known first) root with
    | .ok (some settings) => settingsPaths root settings
    | _ => []
  let second ← readPaths (named ++ (invocation.command.map commandPaths).getD [])
  return known (first ++ second)

-- A fault as it is reported on the error stream.
def report (fault : Fault) : String :=
  let help := match fault.help? with
    | some help => line ("  help: " ++ help)
    | none => ""
  line fault.code ++ line "" ++ line ("  x " ++ fault.message) ++ help

def errorText (request : Request) (outcome : Outcome) : String :=
  let note := match request with
    | .misuse => usage
    | .invoke ⟨_, _, _, none⟩ => line "No subcommand specified. Run `tml --help` for usage."
    | _ => ""
  let summary := match outcome.summary with
    | some text => line text
    | none => ""
  note ++ String.join (outcome.faults.map report) ++ summary

def perform (arguments : List String) : IO UInt32 := do
  let request := request arguments
  let files ← match request with
    | .invoke invocation => gather invocation
    | _ => pure (known [])
  let wantsColor := (← IO.getEnv "NO_COLOR").isNone
  let outcome := run files wantsColor arguments
  IO.print outcome.output
  IO.eprint (errorText request outcome)
  return UInt32.ofNat outcome.exitCode

end TemplateMarkup.CommandLine

def main (arguments : List String) : IO UInt32 :=
  TemplateMarkup.CommandLine.perform arguments
