import TemplateMarkup.Naming

namespace TemplateMarkup

-- The constructs of the template language that are elements of its namespaces.
inductive Directive where
  | remove
  | content
  | extensionPoint
  | extend
  | replace
  | body
  | block
  | parameter
  | container
  deriving DecidableEq, Repr

namespace Directive

-- The constructs of both template namespaces.
def shared? (name : String) : Option Directive :=
  if Text.sameWord name "body" then some .body
  else if Text.sameWord name "block" then some .block
  else if Text.sameWord name "parameter" then some .parameter
  else if Text.sameWord name "container" then some .container
  else none

-- The constructs that only the second template namespace has.
def added? (name : String) : Option Directive :=
  if Text.sameWord name "remove" then some .remove
  else if Text.sameWord name "content" then some .content
  else if Text.sameWord name "extension-point" then some .extensionPoint
  else if Text.sameWord name "extend" then some .extend
  else if Text.sameWord name "replace" then some .replace
  else none

def find? (uri name : String) : Option Directive :=
  if uri == Naming.templateUri51 then (added? name).or (shared? name)
  else if uri == Naming.templateUri50 then shared? name
  else none

end Directive

-- What an element means by its name alone.
inductive ElementRole where
  -- An element of the output, unless its attributes make it a component.
  | plain
  | directive (directive : Directive)
  -- A component whose type is given by the name.
  | component (componentType : String)
  | blockParameter
  -- An element of a component library whose path is malformed.
  | strayLibrary (uri : String)
  deriving DecidableEq, Repr

namespace ElementRole

-- Dots in the name of a component stand for the slashes of its type.
def dotsToSlashes (name : String) : String :=
  name.map fun c => if c = '.' then '/' else c

def ofName (uri : Option String) (name : String) : ElementRole :=
  match uri with
  | none => .plain
  | some uri =>
    match Directive.find? uri name with
    | some found => .directive found
    | none =>
      if Naming.isTemplateUri uri then
        .component (dotsToSlashes name)
      else if uri == Naming.parameterUri then
        .blockParameter
      else
        match Naming.libraryPath? uri with
        | some path =>
          if Naming.isLibraryPath path then .component (path ++ "/" ++ name)
          else .strayLibrary uri
        | none => .plain

end ElementRole

end TemplateMarkup
