import TemplateMarkup.Assembly.Component

namespace TemplateMarkup

namespace Assembly

-- The value of the one attribute that a construct takes. The white space setting may stand
-- beside it, and of several the last one counts.
def onlyAttribute (element key : String) (location : Location) (found : Option String) :
    List Attribute → Except Fault (Option String)
  | [] => .ok found
  | attr :: rest =>
    if attr.isSpaceSetting then
      onlyAttribute element key location found rest
    else if Text.sameWord attr.name key then
      onlyAttribute element key location (some attr.value) rest
    else
      .error (.unsupportedAttribute element attr.name (some key) location)

-- The same attribute where it has to be there and must not be blank.
def requiredAttribute (element key : String) (location : Location) (attributes : List Attribute) :
    Except Fault String :=
  match onlyAttribute element key location none attributes with
  | .error fault => .error fault
  | .ok found =>
    match found.bind Text.unlessBlank with
    | some value => .ok value
    | none => .error (.missingAttribute element key location)

end Assembly

namespace Action

open Assembly (requiredAttribute)

-- Opens a construct of the template language.
def openDirective (directive : Directive) (name : String) (attributes : List Attribute)
    (compress : Bool) (location : Location) : Action Unit := do
  match directive with
  | .remove => modify (·.push .remove compress false)
  | .content =>
    ensure ((← get).phase != .inside) (.misplaced .nestedContent location)
    modify fun assembly => { assembly with phase := .inside, tokens := #[], ids := IdTable.empty }
    modify (·.pushBare .content compress)
  | .extensionPoint =>
    let id ← ofExcept (requiredAttribute name "id" location attributes)
    ensure (!(← get).inExtensionPoint) (.misplaced .nestedExtensionPoint location)
    modify (·.emitOne (.extensionPoint id) location)
    modify (·.setOverride id #[])
    let saved ← takeTokens
    modify (·.pushBare (.extensionPoint id saved) compress)
  | .extend =>
    ensure (!(← get).hasContent) (.misplaced (.mustBeRoot name) location)
    modify fun assembly => { assembly with isExtension := true }
    modify (·.pushBare .extend compress)
  | .replace =>
    let assembly ← get
    ensure (assembly.isExtension && assembly.isDirectlyInExtend && !assembly.hasContent)
      (.misplaced .replaceOutsideExtend location)
    let id ← ofExcept (requiredAttribute name "id" location attributes)
    modify (·.setOverride id #[])
    let saved ← takeTokens
    modify (·.pushBare (.replace id saved) compress)
  | .body =>
    modify (·.emitOne .body location)
    modify (·.pushBare .body compress)
  | .block =>
    let id ← ofExcept (requiredAttribute name "id" location attributes)
    ensure (Naming.isIdentifier id) (.invalidId .block id location)
    modify (·.emitOne (.block id) location)
    modify (·.push .element compress false)
  | .parameter =>
    let label ← ofExcept (requiredAttribute name "name" location attributes)
    ensure (← get).inComponent (.misplaced .parameterOutsideComponent location)
    modify (·.emitOne (.parameter label) location)
    modify (·.push .element compress false)
  | .container =>
    ensure (!(← get).hasContent) (.misplaced (.mustBeRoot name) location)
    modify (·.pushBare .container compress)

-- Opens an element of the parameter namespace, which takes no attributes at all.
def openBlockParameter (name : String) (attributes : List Attribute) (compress : Bool)
    (location : Location) : Action Unit := do
  ensure (← get).inComponent (.misplaced .parameterOutsideComponent location)
  match attributes with
  | attr :: _ => throw (.unsupportedAttribute name attr.name none location)
  | [] =>
    modify (·.emitOne (.parameter name) location)
    modify (·.push .element compress false)

-- Opens an element where no text is pending.
def openByRole (uri : Option String) (name : String) (attributes : List Attribute)
    (location : Location) : Action Unit := do
  let compress := (Attribute.compression? attributes).getD (← get).compressing
  match ElementRole.ofName uri name with
  | .plain => openOutput uri (some name) none attributes compress location
  | .component componentType =>
    openOutput uri none (some componentType) attributes compress location
  | .directive found => openDirective found name attributes compress location
  | .blockParameter => openBlockParameter name attributes compress location
  | .strayLibrary uri => throw (.invalidLibraryPath uri location)

end Action

namespace Assembly

-- The rule by which an element may not stand where it does, whatever it is in itself.
def placementFault? (assembly : Assembly) (uri : Option String) (name : String) :
    Option PlacementRule :=
  if assembly.inBody then
    some .contentInsideBody
  else if assembly.isExtension && !assembly.inReplacement &&
      !(uri.any Naming.isTemplateUri && Text.sameWord name "replace") then
    some .extendChildNotReplace
  else
    none

-- Closes the innermost open element, if there is one. Redirected tokens become an override, and
-- the sequence outside goes on.
def closeElement (assembly : Assembly) (location : Location) : Assembly :=
  match assembly.scopes with
  | [] => assembly
  | scope :: outer =>
    let left := { assembly with scopes := outer }
    match scope.kind with
    | .element => left.emitOne .endElement location
    | .content => { left with phase := .over }
    | .extensionPoint id saved => { left with tokens := saved }.setOverride id left.tokens
    | .replace id saved => { left with tokens := saved }.setOverride id left.tokens
    | .body | .remove | .removed | .extend | .container => left

end Assembly

end TemplateMarkup
