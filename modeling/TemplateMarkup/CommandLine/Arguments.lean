namespace TemplateMarkup.CommandLine

-- How a parsed template is shown.
inductive OutputFormat where
  | text
  | json
  deriving DecidableEq, Repr

inductive Command where
  | parse (file : String) (format : OutputFormat) (keepSpace : Bool)
  | check (files : List String)
  deriving DecidableEq, Repr

-- What a command line asks for.
structure Invocation where
  path : Option String
  verbose : Bool
  noColor : Bool
  command : Option Command
  deriving DecidableEq, Repr

-- What becomes of a command line.
inductive Request where
  | invoke (invocation : Invocation)
  | help
  | version
  | misuse
  deriving DecidableEq, Repr

-- The options that every command takes. None may be given twice in one place.
structure SharedOptions where
  path : Option String := none
  verbose : Bool := false
  noColor : Bool := false
  deriving DecidableEq, Repr

-- The options behind the name of a command win over those before it.
def SharedOptions.over (inner outer : SharedOptions) : SharedOptions where
  path := inner.path.or outer.path
  verbose := inner.verbose || outer.verbose
  noColor := inner.noColor || outer.noColor

-- The commands by name, and the place before any of them.
inductive Level where
  | top
  | parse
  | check
  deriving DecidableEq, Repr

-- What has been read at a level.
structure Progress where
  shared : SharedOptions := {}
  format : Option OutputFormat := none
  keepSpace : Bool := false
  files : List String := []
  deriving DecidableEq, Repr

-- The options that take a value.
inductive ValueOption where
  | path
  | format
  deriving DecidableEq, Repr

-- What an argument can be besides a plain word.
inductive Flag where
  | value (option : ValueOption)
  | verbose
  | noColor
  | keepSpace
  | help
  | version
  deriving DecidableEq, Repr

def longFlag? (level : Level) (name : String) : Option Flag :=
  if name == "path" then some (.value .path)
  else if name == "verbose" then some .verbose
  else if name == "no-color" then some .noColor
  else if name == "help" then some .help
  else if name == "version" && level = .top then some .version
  else if name == "format" && level = .parse then some (.value .format)
  else if name == "preserve-whitespace" && level = .parse then some .keepSpace
  else none

def shortFlag? (level : Level) (c : Char) : Option Flag :=
  if c = 'p' then some (.value .path)
  else if c = 'v' then some .verbose
  else if c = 'h' then some .help
  else if c = 'V' && level = .top then some .version
  else none

-- Why the reading of arguments stops early.
inductive Halt where
  | help
  | version
  | misuse
  deriving DecidableEq, Repr

def readFormat : String → Option OutputFormat
  | "text" => some .text
  | "json" => some .json
  | _ => none

-- Stores the value of an option. A path must not be empty.
def setValue (progress : Progress) (option : ValueOption) (value : String) :
    Except Halt Progress :=
  match option with
  | .path =>
    if progress.shared.path.isSome || value.isEmpty then .error .misuse
    else .ok { progress with shared := { progress.shared with path := some value } }
  | .format =>
    match progress.format, readFormat value with
    | none, some format => .ok { progress with format := some format }
    | _, _ => .error .misuse

def setFlag (progress : Progress) (flag : Flag) : Except Halt Progress :=
  match flag with
  | .verbose =>
    if progress.shared.verbose then .error .misuse
    else .ok { progress with shared := { progress.shared with verbose := true } }
  | .noColor =>
    if progress.shared.noColor then .error .misuse
    else .ok { progress with shared := { progress.shared with noColor := true } }
  | .keepSpace =>
    if progress.keepSpace then .error .misuse else .ok { progress with keepSpace := true }
  | .help => .error .help
  | .version => .error .version
  | .value _ => .error .misuse

-- A plain word behind the name of a command names a file.
def addFile (level : Level) (progress : Progress) (file : String) : Except Halt Progress :=
  if file.isEmpty then .error .misuse
  else if level = .check || progress.files.isEmpty then
    .ok { progress with files := progress.files ++ [file] }
  else .error .misuse

-- The shape of an argument.
inductive Shape where
  | word
  -- Everything behind it is a plain word.
  | divider
  | long (name : String) (value : Option String)
  | short (letters : List Char)
  deriving DecidableEq, Repr

def shape (argument : String) : Shape :=
  match argument.toList with
  | ['-', '-'] => .divider
  | '-' :: '-' :: body =>
    let value := match body.dropWhile (· != '=') with
      | _ :: value => some (String.ofList value)
      | [] => none
    .long (String.ofList (body.takeWhile (· != '='))) value
  | '-' :: c :: letters => .short (c :: letters)
  | _ => .word

-- A cluster of letters sets flags. The first letter that takes a value takes it from the rest of
-- the cluster, or else from the next argument.
def readLetters (level : Level) (progress : Progress) :
    List Char → Except Halt (Progress × Option ValueOption)
  | [] => .ok (progress, none)
  | c :: rest =>
    match shortFlag? level c with
    | none => .error .misuse
    | some (.value option) =>
      match rest with
      | [] => .ok (progress, some option)
      | '=' :: value => (setValue progress option (String.ofList value)).map (·, none)
      | value => (setValue progress option (String.ofList value)).map (·, none)
    | some flag =>
      match setFlag progress flag with
      | .ok progress => readLetters level progress rest
      | .error halt => .error halt

-- Takes in an argument with dashes. The option that still waits for its value comes back, too.
def readDashed (level : Level) (progress : Progress) :
    Shape → Except Halt (Progress × Option ValueOption)
  | .long name value =>
    match longFlag? level name, value with
    | some (.value option), some value => (setValue progress option value).map (·, none)
    | some (.value option), none => .ok (progress, some option)
    | some flag, none => (setFlag progress flag).map (·, none)
    | _, _ => .error .misuse
  | .short letters => readLetters level progress letters
  | _ => .error .misuse

-- Reads the arguments behind the name of a command. `waiting` is an option whose value is the
-- next argument.
def readCommand (level : Level) (progress : Progress) (waiting : Option ValueOption) :
    List String → Except Halt Progress
  | [] => if waiting.isSome then .error .misuse else .ok progress
  | argument :: rest =>
    match shape argument, waiting with
    | .word, some option =>
      match setValue progress option argument with
      | .ok progress => readCommand level progress none rest
      | .error halt => .error halt
    | .word, none =>
      match addFile level progress argument with
      | .ok progress => readCommand level progress none rest
      | .error halt => .error halt
    | .divider, none => rest.foldlM (addFile level) progress
    | _, some _ => .error .misuse
    | dashed, none =>
      match readDashed level progress dashed with
      | .ok (progress, waiting) => readCommand level progress waiting rest
      | .error halt => .error halt

-- A command with what has been read of it.
def finishCommand (level : Level) (progress : Progress) : Except Halt Command :=
  match level, progress.files with
  | .parse, [file] => .ok (.parse file (progress.format.getD .text) progress.keepSpace)
  | .check, file :: files => .ok (.check (file :: files))
  | _, _ => .error .misuse

def invocation (shared : SharedOptions) (command : Option Command) : Invocation :=
  ⟨shared.path, shared.verbose, shared.noColor, command⟩

def runCommand (level : Level) (outer : Progress) (rest : List String) :
    Except Halt Invocation :=
  match readCommand level {} none rest with
  | .error halt => .error halt
  | .ok progress =>
    match finishCommand level progress with
    | .error halt => .error halt
    | .ok command => .ok (invocation (progress.shared.over outer.shared) (some command))

-- Help is given on the whole program or on one command, which is named last.
def readHelp : List String → Halt
  | [] => .help
  | [command] => if ["parse", "check", "help"].contains command then .help else .misuse
  | _ => .misuse

-- Reads the arguments up to the name of a command.
def readTop (progress : Progress) (waiting : Option ValueOption) :
    List String → Except Halt Invocation
  | [] => if waiting.isSome then .error .misuse else .ok (invocation progress.shared none)
  | argument :: rest =>
    match shape argument, waiting with
    | .word, some option =>
      match setValue progress option argument with
      | .ok progress => readTop progress none rest
      | .error halt => .error halt
    | .word, none =>
      if argument == "parse" then runCommand .parse progress rest
      else if argument == "check" then runCommand .check progress rest
      else if argument == "help" then .error (readHelp rest)
      else .error .misuse
    | .divider, none =>
      if rest.isEmpty then .ok (invocation progress.shared none) else .error .misuse
    | _, some _ => .error .misuse
    | dashed, none =>
      match readDashed .top progress dashed with
      | .ok (progress, waiting) => readTop progress waiting rest
      | .error halt => .error halt

def request (arguments : List String) : Request :=
  match readTop {} none arguments with
  | .ok invocation => .invoke invocation
  | .error .help => .help
  | .error .version => .version
  | .error .misuse => .misuse

end TemplateMarkup.CommandLine
