import TemplateMarkup.IdTable
import TemplateMarkup.Token

namespace TemplateMarkup

-- The parsed form of one template.
structure Template where
  resource : String
  -- The main sequence.
  tokens : Array Token
  -- The ids of the components, each with the place where it was declared.
  ids : IdTable Location
  -- Whether the template extends another one.
  isExtension : Bool
  -- The sequences that belong to extension points and replacements, if there are any.
  overrides : Option (IdTable (Array Token))

namespace Template

-- A template with nothing to show.
def isBlank (template : Template) : Bool :=
  template.tokens.all Token.isDoctype && template.overrides.isNone

def override? (template : Template) (id : String) : Option (Array Token) :=
  template.overrides.bind (·.get? id)

def sequenceToJson (tokens : Array Token) : Json :=
  .array (tokens.toList.map Token.toJson)

-- The overrides are left out where there are none.
def toJson (template : Template) : Json :=
  let overrides := match template.overrides with
    | some table => [("overrides", table.toJson sequenceToJson)]
    | none => []
  .object ([("resource", .string template.resource),
    ("tokens", sequenceToJson template.tokens),
    ("componentIds", template.ids.toJson Location.toJson),
    ("extension", .bool template.isExtension)] ++ overrides)

end Template

end TemplateMarkup
