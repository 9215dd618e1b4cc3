import TemplateMarkup.Assembly.Element

namespace TemplateMarkup

namespace Action

-- Where it does not count an element is passed over, or only its end is awaited. Otherwise it
-- comes behind the text before it, which is settled even if the element is refused after that.
def elementStart (uri : Option String) (name : String) (attributes : List Attribute)
    (location : Location) : Action Unit := do
  let assembly ← get
  if assembly.phase = .over || assembly.inDoctype then
    pure ()
  else if assembly.inRemoved then
    modify (·.push .removed assembly.compressing false)
  else
    match assembly.placementFault? uri name with
    | some rule => throw (.misplaced rule location)
    | none =>
      modify (·.settled)
      openByRole uri name attributes location

-- Text joins the text that is pending.
def characters (text : String) (location : Location) : Action Unit := do
  let assembly ← get
  if assembly.isIdle then
    pure ()
  else
    ensure (!assembly.inBody) (.misplaced .contentInsideBody location)
    let pending := assembly.pending.getD ⟨"", location⟩
    set { assembly with pending := some { pending with text := pending.text ++ text } }

end Action

namespace Assembly

def elementEnd (assembly : Assembly) (location : Location) : Assembly :=
  if assembly.phase = .over || assembly.inDoctype then assembly
  else assembly.settled.closeElement location

def comment (assembly : Assembly) (text : String) (location : Location) : Assembly :=
  if assembly.isIdle then assembly
  else assembly.settled.emitOne (.comment (Text.trimmed text)) location

def cdataStart (assembly : Assembly) (location : Location) : Assembly :=
  if assembly.isIdle then assembly
  else { assembly.settled with pending := some ⟨"", location⟩ }

-- All text since the start of the section becomes one token as it is.
def cdataEnd (assembly : Assembly) (location : Location) : Assembly :=
  if assembly.isIdle then
    assembly
  else
    let pending := assembly.pending.getD ⟨"", location⟩
    { assembly.emitOne (.cdata pending.text) pending.location with pending := none }

-- A document type counts wherever it stands.
def doctypeStart (assembly : Assembly) (name : String) (publicId systemId : Option String)
    (location : Location) : Assembly :=
  { assembly.emitOne (.doctype name publicId systemId) location with inDoctype := true }

-- A binding that the output does not show: of no namespace, or of one that the template
-- language uses up.
def isHiddenBinding (uri : String) : Bool :=
  Text.isBlank uri || Naming.isTemplateUri uri || uri == Naming.parameterUri ||
    (Naming.libraryPath? uri).isSome

def binding (assembly : Assembly) (label uri : String) (location : Location) : Assembly :=
  if assembly.isIdle || isHiddenBinding uri then assembly
  else { assembly with bindings := assembly.bindings ++ #[⟨.binding uri label, location⟩] }

-- Takes in one event.
def step (assembly : Assembly) (placed : PlacedEvent) : Reaction :=
  let location := assembly.place placed.line
  match placed.event with
  | .documentStart => .accepted assembly
  | .documentEnd => .accepted assembly
  | .elementStart uri name attributes =>
    (Action.elementStart uri name attributes location).react assembly
  | .elementEnd _ _ => .accepted (assembly.elementEnd location)
  | .text content => (Action.characters content location).react assembly
  | .comment content => .accepted (assembly.comment content location)
  | .cdataStart => .accepted (assembly.cdataStart location)
  | .cdataEnd => .accepted (assembly.cdataEnd location)
  | .doctypeStart name publicId systemId =>
    .accepted (assembly.doctypeStart name publicId systemId location)
  | .doctypeEnd => .accepted { assembly with inDoctype := false }
  | .binding label uri => .accepted (assembly.binding label uri location)

-- Takes in events up to the first one that is refused.
def feed (assembly : Assembly) : List PlacedEvent → Except Fault Assembly
  | [] => .ok assembly
  | placed :: rest =>
    let reaction := assembly.step placed
    match reaction.fault with
    | some fault => .error fault
    | none => reaction.next.feed rest

-- Takes in all events, refused ones too.
def after (assembly : Assembly) (events : List PlacedEvent) : Assembly :=
  events.foldl (fun assembly placed => (assembly.step placed).next) assembly

end Assembly

end TemplateMarkup
