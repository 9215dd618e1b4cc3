import TemplateMarkup.Text.Blank

namespace TemplateMarkup

-- The namespaces and the shapes of names that the template language reserves.
namespace Naming

def xmlUri : String :=
  "http://www.w3.org/XML/1998/namespace"

def xmlnsUri : String :=
  "http://www.w3.org/2000/xmlns/"

-- The first version of the template namespace.
def templateUri50 : String :=
  "http://tapestry.apache.org/schema/tapestry_5_0_0.xsd"

-- The second version, which adds inheritance between templates.
def templateUri51 : String :=
  "http://tapestry.apache.org/schema/tapestry_5_1_0.xsd"

-- Elements of this namespace are block parameters named by the element.
def parameterUri : String :=
  "tapestry:parameter"

-- What comes behind these words in a namespace is the path of a component library.
def librarySchema : String :=
  "tapestry-library:"

def isTemplateUri (uri : String) : Bool :=
  uri == templateUri50 || uri == templateUri51

-- The library path that a namespace names.
def libraryPath? (uri : String) : Option String :=
  let schema := librarySchema.toList
  if schema.isPrefixOf uri.toList then
    some (String.ofList (uri.toList.drop schema.length))
  else
    none

def isWordChar (c : Char) : Bool :=
  c.isAlphanum || c = '_'

-- An ASCII letter, then ASCII letters, digits and underscores.
def isIdentifierChars : List Char → Bool
  | [] => false
  | c :: rest => c.isAlpha && rest.all isWordChar

def isIdentifier (name : String) : Bool :=
  isIdentifierChars name.toList

-- One or more identifiers with slashes between them.
def isLibraryPath (path : String) : Bool :=
  (Text.segments '/' path.toList).all isIdentifierChars

end Naming

end TemplateMarkup
