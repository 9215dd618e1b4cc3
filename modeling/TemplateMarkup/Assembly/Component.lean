import TemplateMarkup.Assembly.Action

namespace TemplateMarkup

namespace Attribute

-- The attribute that sets how white space is treated.
def isSpaceSetting (attr : Attribute) : Bool :=
  attr.uri == some Naming.xmlUri && attr.name == "space"

-- Whether an element asks for compressed white space, if it says anything about it.
def compression? (attributes : List Attribute) : Option Bool :=
  (attributes.find? isSpaceSetting).map fun attr => attr.value != "preserve"

def isReserved (attr : Attribute) : Bool :=
  match attr.uri with
  | some uri => Naming.isTemplateUri uri
  | none => false

end Attribute

-- What the attributes of an element say about it.
structure Component where
  id : Option String
  componentType : Option String
  mixins : Option String
  -- The attributes that stay attributes.
  passed : Array Token

namespace Component

-- An element before its attributes are read, with the type that its name gives it.
def ofType (componentType : Option String) : Component :=
  ⟨none, componentType, none, #[]⟩

def isComponent (component : Component) : Bool :=
  component.id.isSome || component.componentType.isSome

-- How an attribute bears on the element that carries it.
inductive AttributeRole where
  | ignored
  | id
  | componentType
  | mixins
  | passed
  deriving DecidableEq, Repr

-- A type counts only as long as the element has none.
def role (hasType : Bool) (attr : Attribute) : AttributeRole :=
  if Text.isBlank attr.name || attr.isSpaceSetting then .ignored
  else if !attr.isReserved then .passed
  else if Text.sameWord attr.name "id" then .id
  else if !hasType && Text.sameWord attr.name "type" then .componentType
  else if Text.sameWord attr.name "mixins" then .mixins
  else .passed

-- Reads one more attribute. A blank id, type or list of mixins counts as none.
def read (location : Location) (component : Component) (attr : Attribute) :
    Except Fault Component :=
  match role component.componentType.isSome attr with
  | .ignored => .ok component
  | .id =>
    match Text.unlessBlank attr.value with
    | none => .ok { component with id := none }
    | some id =>
      if Naming.isIdentifier id then .ok { component with id := some id }
      else .error (.invalidId .component id location)
  | .componentType => .ok { component with componentType := Text.unlessBlank attr.value }
  | .mixins => .ok { component with mixins := Text.unlessBlank attr.value }
  | .passed =>
    .ok { component with
      passed := component.passed ++ #[⟨.attribute attr.uri attr.name attr.value, location⟩] }

def readAll (location : Location) (component : Component) (attributes : List Attribute) :
    Except Fault Component :=
  attributes.foldlM (read location) component

-- The token that opens the element.
def startForm (component : Component) (uri element : Option String) : TokenForm :=
  if component.isComponent then
    .startComponent element component.id component.componentType component.mixins
  else
    .startElement uri element

end Component

namespace Action

-- Notes the id of a component, unless another component has it.
def register (id : Option String) (location : Location) : Action Unit :=
  match id with
  | none => pure ()
  | some id => do
    match (← get).ids.get? id with
    | some first => throw (.duplicateId id first location)
    | none => modify fun assembly => { assembly with ids := assembly.ids.insert id location }

-- Opens an element of the output. The bindings that wait come between its start token and its
-- attributes.
def openOutput (uri element componentType : Option String) (attributes : List Attribute)
    (compress : Bool) (location : Location) : Action Unit := do
  let component ← ofExcept ((Component.ofType componentType).readAll location attributes)
  ensure (component.mixins.isNone || component.isComponent) (.mixinsWithoutIdentity element location)
  register component.id location
  modify (·.emitOne (component.startForm uri element) location)
  let bindings ← takeBindings
  modify (·.emit (bindings ++ component.passed))
  modify (·.push .element compress component.isComponent)

end Action

end TemplateMarkup
