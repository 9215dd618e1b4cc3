import TemplateMarkup.Profile
import TemplateMarkup.Proofs.Assembly.Element
import TemplateMarkup.Proofs.Region.History

namespace TemplateMarkup

namespace Assembly

-- Behind the content element and inside a document type no tag counts.
def isDeaf (assembly : Assembly) : Bool :=
  assembly.phase == .over || assembly.inDoctype

-- The token of a construct that is told by one attribute.
def labelTokens (form : String → TokenForm) (key name : String) (attributes : List Attribute)
    (location : Location) : Array Token :=
  match requiredAttribute name key location attributes with
  | .ok value => #[⟨form value, location⟩]
  | .error _ => #[]

-- The tokens that the start of an element pushes.
def openingTokens (assembly : Assembly) (uri : Option String) (name : String)
    (attributes : List Attribute) (location : Location) : Array Token :=
  let role := ElementRole.ofName uri name
  match role.output? name with
  | some (element, componentType) =>
    match (Component.ofType componentType).readAll location attributes with
    | .ok component => startTokens component uri element assembly.bindings location
    | .error _ => #[]
  | none =>
    match role with
    | .blockParameter => #[⟨.parameter name, location⟩]
    | .directive .body => #[⟨.body, location⟩]
    | .directive .block => labelTokens .block "id" name attributes location
    | .directive .parameter => labelTokens .parameter "name" name attributes location
    | .directive .extensionPoint => labelTokens .extensionPoint "id" name attributes location
    | _ => #[]

-- The id of an element that takes the tokens inside it for an override.
def regionId? (uri : Option String) (name : String) (attributes : List Attribute)
    (location : Location) : Option String :=
  match ElementRole.ofName uri name with
  | .directive .extensionPoint | .directive .replace =>
    (requiredAttribute name "id" location attributes).toOption
  | _ => none

def closingTokens (assembly : Assembly) (location : Location) : Array Token :=
  match assembly.scopes with
  | scope :: _ => if scope.kind = .element then #[⟨.endElement, location⟩] else #[]
  | [] => #[]

-- The tokens that an event pushes, those of the text that was pending in front of its own.
def pushed (assembly : Assembly) (placed : PlacedEvent) : Array Token :=
  let location := assembly.place placed.line
  match placed.event with
  | .elementStart uri name attributes =>
    if assembly.isIdle then #[]
    else assembly.settlement ++ assembly.openingTokens uri name attributes location
  | .elementEnd _ _ =>
    if assembly.isDeaf then #[] else assembly.settlement ++ assembly.closingTokens location
  | .comment content =>
    if assembly.isIdle then #[]
    else assembly.settlement ++ #[⟨.comment (Text.trimmed content), location⟩]
  | .cdataStart => if assembly.isIdle then #[] else assembly.settlement
  | .cdataEnd =>
    if assembly.isIdle then #[]
    else
      let pending := assembly.pending.getD ⟨"", location⟩
      #[⟨.cdata pending.text, pending.location⟩]
  | .doctypeStart name publicId systemId => #[⟨.doctype name publicId systemId, location⟩]
  | _ => #[]

-- The id of the region that an event opens.
def region? (assembly : Assembly) (placed : PlacedEvent) : Option String :=
  match placed.event with
  | .elementStart uri name attributes =>
    if assembly.isIdle then none
    else regionId? uri name attributes (assembly.place placed.line)
  | _ => none

-- Whether an event opens a content element.
def startsContent (assembly : Assembly) (placed : PlacedEvent) : Bool :=
  match placed.event with
  | .elementStart uri name _ =>
    !assembly.isIdle && ElementRole.ofName uri name == .directive .content
  | _ => false

def opensContent (assembly : Assembly) : List PlacedEvent → Bool
  | [] => false
  | placed :: rest => assembly.startsContent placed || (assembly.step placed).next.opensContent rest

-- Tokens are pushed before a region takes the place of the one around it, or gives it back.
def record (assembly : Assembly) (placed : PlacedEvent) (history : History) : History :=
  let pushes := history.push (assembly.pushed placed)
  match placed.event with
  | .elementStart .. => if assembly.isDeaf then pushes else pushes.enter (assembly.region? placed)
  | .elementEnd .. => if assembly.isDeaf then pushes else pushes.leave
  | _ => pushes

-- The history of a run. Text that is left at its end is pushed then.
def recordAll (assembly : Assembly) (history : History) : List PlacedEvent → History
  | [] => history.push assembly.settlement
  | placed :: rest => (assembly.step placed).next.recordAll (assembly.record placed history) rest

end Assembly

-- The history of assembling a template.
def EventStream.history (stream : EventStream) (resource : String) (compress : Bool) : History :=
  (Assembly.start resource compress).recordAll History.empty stream.events

end TemplateMarkup
