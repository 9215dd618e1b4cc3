import TemplateMarkup.Proofs.Assembly.Element
import TemplateMarkup.Proofs.Tree.Forest

namespace TemplateMarkup

namespace Reading

-- What a node takes from the elements around it.
structure Setting where
  compress : Bool
  isComponent : Bool
  inExtensionPoint : Bool
  deriving DecidableEq, Repr

-- What a reading collects besides tokens, in the order of the document.
structure Tables where
  ids : IdTable Location
  overrides : Option (IdTable (Array Token))

namespace Tables

def empty : Tables :=
  ⟨IdTable.empty, none⟩

def register (tables : Tables) (id : Option String) (location : Location) : Except Fault Tables :=
  match id with
  | none => .ok tables
  | some id =>
    match tables.ids.get? id with
    | some first => .error (.duplicateId id first location)
    | none => .ok { tables with ids := tables.ids.insert id location }

def setOverride (tables : Tables) (id : String) (tokens : Array Token) : Tables :=
  { tables with overrides := some ((tables.overrides.getD IdTable.empty).insert id tokens) }

end Tables

-- The tokens of some nodes, and the tables behind them.
structure Passage where
  tokens : Array Token
  tables : Tables

-- What an element is by its tag.
inductive Head where
  | removed
  | body
  | extensionPoint (id : String)
  -- An element of the output with the tokens that open it.
  | output (start : Array Token) (isComponent : Bool) (tables : Tables)

end Reading

open Reading

namespace StartTag

-- An element of the output. Its id must be new.
def outputHead (resource : String) (tables : Tables) (tag : StartTag)
    (element componentType : Option String) : Except Fault Head := do
  let location := tag.location resource
  let component ← (Component.ofType componentType).readAll location tag.attributes
  if component.mixins.isSome && !component.isComponent then
    throw (.mixinsWithoutIdentity element location)
  let tables ← tables.register component.id location
  return .output
    (Assembly.startTokens component tag.uri element (tag.bindingTokens resource) location)
    component.isComponent tables

-- A block or a parameter, which one token opens.
def slotHead (resource : String) (tables : Tables) (tag : StartTag) (form : TokenForm) : Head :=
  .output #[⟨form, tag.location resource⟩] false tables

-- Reads a tag. Root constructs and content elements are not read.
def head (resource : String) (setting : Setting) (tables : Tables) (tag : StartTag) :
    Except Fault Head :=
  let location := tag.location resource
  match tag.role with
  | .plain => tag.outputHead resource tables (some tag.name) none
  | .component componentType => tag.outputHead resource tables none (some componentType)
  | .blockParameter =>
    if setting.isComponent then
      match tag.attributes with
      | [] => .ok (tag.slotHead resource tables (.parameter tag.name))
      | attr :: _ => .error (.unsupportedAttribute tag.name attr.name none location)
    else
      .error (.misplaced .parameterOutsideComponent location)
  | .strayLibrary uri => .error (.invalidLibraryPath uri location)
  | .directive .body => .ok .body
  | .directive .block => do
    let id ← Assembly.requiredAttribute tag.name "id" location tag.attributes
    if Naming.isIdentifier id then return tag.slotHead resource tables (.block id)
    else throw (.invalidId .block id location)
  | .directive .parameter => do
    let label ← Assembly.requiredAttribute tag.name "name" location tag.attributes
    if setting.isComponent then return tag.slotHead resource tables (.parameter label)
    else throw (.misplaced .parameterOutsideComponent location)
  | .directive .extensionPoint => do
    let id ← Assembly.requiredAttribute tag.name "id" location tag.attributes
    if setting.inExtensionPoint then throw (.misplaced .nestedExtensionPoint location)
    else return .extensionPoint id
  | .directive _ => .ok .removed

-- Reads an element whose content is read by `body` in a body and by `inside` elsewhere.
def read (resource : String) (setting : Setting) (tables : Tables) (tag : StartTag)
    (endLine : Option Nat) (body : Except Fault (Array Token))
    (inside : Setting → Tables → Except Fault Passage) : Except Fault Passage := do
  let location := tag.location resource
  let compress := (Attribute.compression? tag.attributes).getD setting.compress
  match ← tag.head resource setting tables with
  | .removed => return ⟨#[], tables⟩
  | .body => return ⟨#[⟨.body, location⟩] ++ (← body), tables⟩
  | .extensionPoint id =>
    let content ← inside ⟨compress, setting.isComponent, true⟩ (tables.setOverride id #[])
    return ⟨#[⟨.extensionPoint id, location⟩], content.tables.setOverride id content.tokens⟩
  | .output start isComponent tables =>
    let content ← inside ⟨compress, isComponent, setting.inExtensionPoint⟩ tables
    return ⟨start ++ content.tokens ++ #[⟨.endElement, ⟨resource, endLine⟩⟩], content.tables⟩

end StartTag

namespace Forest

-- Reads the nodes in a body, where nothing but comments may stand.
def readBody (resource : String) : Forest → Except Fault (Array Token)
  | .nil => return #[]
  | .comment line content rest =>
    return #[⟨.comment (Text.trimmed content), ⟨resource, line⟩⟩] ++ (← rest.readBody resource)
  | .element tag _ _ _ => throw (.misplaced .contentInsideBody (tag.location resource))
  | .text line _ _ => throw (.misplaced .contentInsideBody ⟨resource, line⟩)
  | .cdata _ textLine _ _ _ => throw (.misplaced .contentInsideBody ⟨resource, textLine⟩)

-- Reads nodes in document order. Neighbouring text nodes form one run, which comes in at the
-- first of them; `inRun` tells that the run before these nodes goes on in them.
def read (resource : String) (setting : Setting) (tables : Tables) (inRun : Bool) :
    Forest → Except Fault Passage
  | .nil => return ⟨#[], tables⟩
  | .text line content rest => do
    let run := if inRun then #[] else
      Assembly.textTokens setting.compress ⟨content ++ rest.leadingText, ⟨resource, line⟩⟩
    let more ← rest.read resource setting tables true
    return ⟨run ++ more.tokens, more.tables⟩
  | .comment line content rest => do
    let more ← rest.read resource setting tables false
    return ⟨#[⟨.comment (Text.trimmed content), ⟨resource, line⟩⟩] ++ more.tokens, more.tables⟩
  | .cdata startLine _ _ content rest => do
    let more ← rest.read resource setting tables false
    return ⟨#[⟨.cdata content, ⟨resource, startLine⟩⟩] ++ more.tokens, more.tables⟩
  | .element tag children endLine rest => do
    let own ← tag.read resource setting tables endLine (children.readBody resource)
      fun setting tables => children.read resource setting tables false
    let more ← rest.read resource setting own.tables false
    return ⟨own.tokens ++ more.tokens, more.tables⟩

-- The template of a document.
def reading (resource : String) (compress : Bool) (forest : Forest) : Except Fault Template := do
  let passage ← forest.read resource ⟨compress, false, false⟩ Tables.empty false
  return ⟨resource, passage.tokens, passage.tables.ids, false, passage.tables.overrides⟩

end Forest

end TemplateMarkup
