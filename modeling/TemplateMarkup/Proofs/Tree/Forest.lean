import TemplateMarkup.Assembly.Step

namespace TemplateMarkup

-- A label that an element binds to a namespace.
structure LabelDeclaration where
  line : Option Nat
  label : String
  uri : String
  deriving DecidableEq, Repr

structure StartTag where
  declarations : List LabelDeclaration
  line : Option Nat
  uri : Option String
  name : String
  attributes : List Attribute
  deriving DecidableEq, Repr

-- The nodes of a document, each in front of its later siblings.
inductive Forest where
  | nil
  | element (tag : StartTag) (children : Forest) (endLine : Option Nat) (rest : Forest)
  | text (line : Option Nat) (content : String) (rest : Forest)
  | comment (line : Option Nat) (content : String) (rest : Forest)
  | cdata (startLine textLine endLine : Option Nat) (content : String) (rest : Forest)
  deriving DecidableEq, Repr

namespace LabelDeclaration

def placed (declaration : LabelDeclaration) : PlacedEvent :=
  ⟨declaration.line, .binding declaration.label declaration.uri⟩

-- The token of a declaration that the output shows.
def token? (resource : String) (declaration : LabelDeclaration) : Option Token :=
  if Assembly.isHiddenBinding declaration.uri then none
  else some ⟨.binding declaration.uri declaration.label, ⟨resource, declaration.line⟩⟩

end LabelDeclaration

namespace StartTag

def role (tag : StartTag) : ElementRole :=
  ElementRole.ofName tag.uri tag.name

def location (resource : String) (tag : StartTag) : Location :=
  ⟨resource, tag.line⟩

def bindingTokens (resource : String) (tag : StartTag) : Array Token :=
  (tag.declarations.filterMap (·.token? resource)).toArray

-- Output elements may declare any labels. Other elements have no start token behind which the
-- labels could stand.
def isPlain (tag : StartTag) : Bool :=
  match tag.role with
  | .plain | .component _ => true
  | .directive .content | .directive .extend | .directive .replace | .directive .container => false
  | _ => tag.declarations.all fun declaration => Assembly.isHiddenBinding declaration.uri

end StartTag

namespace Forest

-- The events of a walk through the nodes.
def events : Forest → List PlacedEvent
  | .nil => []
  | .element tag children endLine rest =>
    tag.declarations.map (·.placed) ++ ⟨tag.line, .elementStart tag.uri tag.name tag.attributes⟩ ::
      (children.events ++ ⟨endLine, .elementEnd tag.uri tag.name⟩ :: rest.events)
  | .text line content rest => ⟨line, .text content⟩ :: rest.events
  | .comment line content rest => ⟨line, .comment content⟩ :: rest.events
  | .cdata startLine textLine endLine content rest =>
    ⟨startLine, .cdataStart⟩ :: ⟨textLine, .text content⟩ :: ⟨endLine, .cdataEnd⟩ :: rest.events

-- No element outside removed ones is a root construct or a content element, and labels are
-- declared where the output can show them.
def isPlain : Forest → Bool
  | .nil => true
  | .element tag children _ rest =>
    tag.isPlain && (tag.role == .directive .remove || children.isPlain) && rest.isPlain
  | .text _ _ rest => rest.isPlain
  | .comment _ _ rest => rest.isPlain
  | .cdata _ _ _ _ rest => rest.isPlain

-- The text of the text nodes that the siblings begin with.
def leadingText : Forest → String
  | .text _ content rest => content ++ rest.leadingText
  | _ => ""

end Forest

end TemplateMarkup
