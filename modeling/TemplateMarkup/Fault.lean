import TemplateMarkup.Location
import TemplateMarkup.Markup.Malformation

namespace TemplateMarkup

-- The rules on where the constructs of the template language may stand.
inductive PlacementRule where
  -- Elements or text inside `<body>`.
  | contentInsideBody
  -- Anything but `<replace>` directly in `<extend>`.
  | extendChildNotReplace
  -- A construct that has to be the root element.
  | mustBeRoot (name : String)
  | nestedContent
  | nestedExtensionPoint
  -- A `<replace>` away from `<extend>` or behind other content.
  | replaceOutsideExtend
  -- A block parameter that is not directly within a component.
  | parameterOutsideComponent
  deriving DecidableEq, Repr

namespace PlacementRule

def message : PlacementRule → String
  | .contentInsideBody => "content inside a <body> element is not allowed"
  | .extendChildNotReplace => "child element of <extend> must be <replace>"
  | .mustBeRoot name => s!"element <{name}> is only valid as the root element of a template"
  | .nestedContent =>
    "the <content> element may not be nested within another <content> element"
  | .nestedExtensionPoint =>
    "the <extension-point> element may not be nested within another <extension-point> element"
  | .replaceOutsideExtend =>
    "the <replace> element may only appear directly within an extend element"
  | .parameterOutsideComponent =>
    "block parameters are only allowed directly within component elements"

end PlacementRule

-- The two sorts of ids that have to be identifiers.
inductive IdKind where
  | component
  | block
  deriving DecidableEq, Repr

namespace IdKind

def name : IdKind → String
  | .component => "component"
  | .block => "block"

end IdKind

-- Why a template, or the settings it is read with, cannot be used.
inductive Fault where
  | unreadable (failure : ReadFailure)
  | misplaced (rule : PlacementRule) (location : Location)
  | missingAttribute (element name : String) (location : Location)
  | invalidId (kind : IdKind) (id : String) (location : Location)
  | invalidLibraryPath (uri : String) (location : Location)
  -- An attribute name is allowed where the element takes exactly one attribute.
  | unsupportedAttribute (element name : String) (allowed : Option String)
      (location : Location)
  | mixinsWithoutIdentity (element : Option String) (location : Location)
  | duplicateId (id : String) (first location : Location)
  -- The location is that of the declaration that asks for the resource.
  | unreachableResource (publicId path : String) (failure : ReadFailure)
      (location : Option Location)
  | malformed (cause : Malformation) (location : Location)
  | invalidSettings (detail : String)
  deriving DecidableEq, Repr

namespace Fault

-- The place that is to blame, as far as it is known.
def location? : Fault → Option Location
  | .unreadable _ => none
  | .misplaced _ location => some location
  | .missingAttribute _ _ location => some location
  | .invalidId _ _ location => some location
  | .invalidLibraryPath _ location => some location
  | .unsupportedAttribute _ _ _ location => some location
  | .mixinsWithoutIdentity _ location => some location
  | .duplicateId _ _ location => some location
  | .unreachableResource _ _ _ location => location
  | .malformed _ location => some location
  | .invalidSettings _ => none

-- The code under which diagnostics report the fault.
def code : Fault → String
  | .unreadable _ => "tml::io_error"
  | .misplaced .. => "tml::grammar_violation"
  | .missingAttribute .. => "tml::missing_required_attribute"
  | .invalidId .. => "tml::invalid_identifier"
  | .invalidLibraryPath .. => "tml::invalid_namespace_path"
  | .unsupportedAttribute .. => "tml::unsupported_attribute"
  | .mixinsWithoutIdentity .. => "tml::mixins_without_identity"
  | .duplicateId .. => "tml::duplicate_component_id"
  | .unreachableResource .. => "tml::resource_access"
  | .malformed .. => "tml::parse"
  | .invalidSettings _ => "tml::config_parse"

-- Advice on mending the fault, where there is any.
def help? : Fault → Option String
  | .invalidId .. =>
    some "ids must start with a letter and contain only letters, digits and underscores"
  | .invalidLibraryPath .. =>
    some "use `tapestry-library:` followed by slash separated identifiers, e.g. `tapestry-library:core/forms`"
  | .mixinsWithoutIdentity .. => some "add a `t:id` or `t:type` attribute, or remove `t:mixins`"
  | .duplicateId .. =>
    some "component ids are case-insensitive and must be unique within a template"
  | .unreachableResource .. => some "check the `[entities]` section of tml.toml"
  | .invalidSettings _ =>
    some "check that tml.toml is valid TOML with an optional [entities] section"
  | _ => none

-- A text with the place behind it in parentheses.
def located (text : String) (location : Location) : String :=
  text ++ " (" ++ location.describe ++ ")"

def message : Fault → String
  | .unreadable failure => failure.message
  | .misplaced rule location => located rule.message location
  | .missingAttribute element name location =>
    located s!"the <{element}> element must have a `{name}` attribute" location
  | .invalidId kind id location => located s!"{kind.name} id `{id}` is not valid" location
  | .invalidLibraryPath uri location =>
    located s!"the path portion of library namespace URI `{uri}` is not valid" location
  | .unsupportedAttribute element name (some allowed) location =>
    located (s!"element <{element}> does not support an attribute named `{name}`; " ++
      s!"the only allowed attribute name is `{allowed}`") location
  | .unsupportedAttribute element name none location =>
    s!"element <{element}> does not allow attributes, found `{name}` ({location.describe})"
  | .mixinsWithoutIdentity element location =>
    let name := element.getD "?"
    located (s!"element <{name}> has `mixins` but neither `id` nor `type`, " ++
      "so it is not a component") location
  | .duplicateId id first location =>
    located s!"component id `{id}` is already used at {first.describe}" location
  | .unreachableResource publicId path failure _ =>
    s!"unable to open resource `{path}` for public id `{publicId}`: {failure.message}"
  | .malformed cause location =>
    s!"failure parsing template {location.resource}: {cause.message}"
  | .invalidSettings detail => s!"failed to parse config file: {detail}"

end Fault

end TemplateMarkup
