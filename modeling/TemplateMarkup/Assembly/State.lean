import TemplateMarkup.Directive
import TemplateMarkup.Event
import TemplateMarkup.Fault
import TemplateMarkup.Template
import TemplateMarkup.Text.Placeholder

namespace TemplateMarkup

-- What an open element does with the tokens inside it.
inductive ScopeKind where
  -- An element, component, block or parameter of the output, which its end closes.
  | element
  | body
  | remove
  -- An element somewhere inside a removed one.
  | removed
  | content
  -- The tokens go to the override of this id. The sequence outside is kept until the end.
  | extensionPoint (id : String) (saved : Array Token)
  | extend
  | replace (id : String) (saved : Array Token)
  | container
  deriving DecidableEq, Repr

namespace ScopeKind

def isExtensionPoint : ScopeKind → Bool
  | .extensionPoint .. => true
  | _ => false

def isReplace : ScopeKind → Bool
  | .replace .. => true
  | _ => false

end ScopeKind

-- An open element.
structure Scope where
  -- Whether white space in the text of the element is compressed.
  compress : Bool
  -- Whether block parameters may stand directly in the element.
  isComponent : Bool
  kind : ScopeKind
  deriving DecidableEq, Repr

-- A template has at most one content element, and what comes behind it is ignored.
inductive ContentPhase where
  | outside
  | inside
  | over
  deriving DecidableEq, Repr

-- Character data that is not yet a token, and where it began.
structure PendingText where
  text : String
  location : Location
  deriving DecidableEq, Repr

-- A template in the making.
structure Assembly where
  resource : String
  -- Whether white space is compressed where no element says otherwise.
  compressDefault : Bool
  -- The sequence that takes the tokens at present.
  tokens : Array Token
  overrides : Option (IdTable (Array Token))
  ids : IdTable Location
  isExtension : Bool
  -- The open elements, innermost first.
  scopes : List Scope
  phase : ContentPhase
  inDoctype : Bool
  -- Namespace bindings that wait for the next start token.
  bindings : Array Token
  pending : Option PendingText

namespace Assembly

-- An assembly that has seen no event.
def start (resource : String) (compress : Bool) : Assembly where
  resource := resource
  compressDefault := compress
  tokens := #[]
  overrides := none
  ids := IdTable.empty
  isExtension := false
  scopes := []
  phase := .outside
  inDoctype := false
  bindings := #[]
  pending := none

def place (assembly : Assembly) (line : Option Nat) : Location :=
  ⟨assembly.resource, line⟩

def inRemoved (assembly : Assembly) : Bool :=
  match assembly.scopes with
  | scope :: _ => scope.kind == .remove || scope.kind == .removed
  | [] => false

-- Inside a document type, behind the content element and in removed elements nothing counts.
def isIdle (assembly : Assembly) : Bool :=
  assembly.inDoctype || assembly.phase == .over || assembly.inRemoved

def inBody (assembly : Assembly) : Bool :=
  match assembly.scopes with
  | scope :: _ => scope.kind == .body
  | [] => false

def inReplacement (assembly : Assembly) : Bool :=
  assembly.scopes.any (·.kind.isReplace)

def inExtensionPoint (assembly : Assembly) : Bool :=
  assembly.scopes.any (·.kind.isExtensionPoint)

def isDirectlyInExtend (assembly : Assembly) : Bool :=
  match assembly.scopes with
  | scope :: _ => scope.kind == .extend
  | [] => false

def inComponent (assembly : Assembly) : Bool :=
  match assembly.scopes with
  | scope :: _ => scope.isComponent
  | [] => false

-- The white space setting of the innermost open element.
def compressing (assembly : Assembly) : Bool :=
  match assembly.scopes with
  | scope :: _ => scope.compress
  | [] => assembly.compressDefault

def hasContent (assembly : Assembly) : Bool :=
  assembly.tokens.any fun token => !token.isDoctype

def push (assembly : Assembly) (kind : ScopeKind) (compress isComponent : Bool) : Assembly :=
  { assembly with scopes := ⟨compress, isComponent, kind⟩ :: assembly.scopes }

-- Opens an element that leaves no start token. It is a component as far as the element around
-- it is one.
def pushBare (assembly : Assembly) (kind : ScopeKind) (compress : Bool) : Assembly :=
  assembly.push kind compress assembly.inComponent

def emit (assembly : Assembly) (tokens : Array Token) : Assembly :=
  { assembly with tokens := assembly.tokens ++ tokens }

def emitOne (assembly : Assembly) (form : TokenForm) (location : Location) : Assembly :=
  assembly.emit #[⟨form, location⟩]

-- Stores the tokens of an override, replacing those of the same id.
def setOverride (assembly : Assembly) (id : String) (tokens : Array Token) : Assembly :=
  { assembly with overrides := some ((assembly.overrides.getD IdTable.empty).insert id tokens) }

def fragmentForm : Text.Fragment → TokenForm
  | .literal text => .text text
  | .expansion expression => .expansion expression

-- The tokens of a run of character data, all at the place where the run began.
def splitText (location : Location) (text : String) : Array Token :=
  ((Text.Fragment.split text).map fun fragment => ⟨fragmentForm fragment, location⟩).toArray

-- The tokens of pending text. Text that compression leaves blank has none.
def textTokens (compress : Bool) (pending : PendingText) : Array Token :=
  if compress then
    let text := Text.compress pending.text
    if Text.isBlank text then #[] else splitText pending.location text
  else
    splitText pending.location pending.text

-- Turns pending text into tokens.
def settled (assembly : Assembly) : Assembly :=
  match assembly.pending with
  | none => assembly
  | some pending =>
    { assembly.emit (textTokens assembly.compressing pending) with pending := none }

-- The template as it stands when no more events come.
def template (assembly : Assembly) : Template :=
  let settled := assembly.settled
  { resource := settled.resource
    tokens := settled.tokens
    ids := settled.ids
    isExtension := settled.isExtension
    overrides := settled.overrides }

end Assembly

end TemplateMarkup
