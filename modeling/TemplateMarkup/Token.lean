import TemplateMarkup.Location
import TemplateMarkup.Text.Quoted

namespace TemplateMarkup

-- What a token stands for. The tokens of a template form a flat sequence in which an end
-- closes the nearest open start, component, block or parameter.
inductive TokenForm where
  | startElement (uri name : Option String)
  -- The element name is absent where the name itself is the component type.
  | startComponent (element id componentType mixins : Option String)
  | endElement
  | attribute (uri : Option String) (name value : String)
  | text (text : String)
  -- The expression of a placeholder, uninterpreted.
  | expansion (expression : String)
  | comment (comment : String)
  | cdata (content : String)
  | doctype (name : String) (publicId systemId : Option String)
  | binding (uri label : String)
  -- The place for the content of a caller.
  | body
  | block (id : String)
  | parameter (name : String)
  -- A place whose content an extending template can replace.
  | extensionPoint (id : String)
  deriving DecidableEq, Repr

structure Token where
  form : TokenForm
  location : Location
  deriving DecidableEq, Repr

namespace TokenForm

-- The name of the kind of token.
def label : TokenForm → String
  | .startElement .. => "startElement"
  | .startComponent .. => "startComponent"
  | .endElement => "endElement"
  | .attribute .. => "attribute"
  | .text _ => "text"
  | .expansion _ => "expansion"
  | .comment _ => "comment"
  | .cdata _ => "cdata"
  | .doctype .. => "dtd"
  | .binding .. => "defineNamespacePrefix"
  | .body => "body"
  | .block _ => "block"
  | .parameter _ => "parameter"
  | .extensionPoint _ => "extensionPoint"

-- The parts of a token other than its kind and its place, in the order of its JSON form.
def members : TokenForm → List (String × Json)
  | .startElement uri name =>
    [("namespace", Json.ofString? uri), ("name", Json.ofString? name)]
  | .startComponent element id componentType mixins =>
    [("elementName", Json.ofString? element), ("id", Json.ofString? id),
      ("componentType", Json.ofString? componentType), ("mixins", Json.ofString? mixins)]
  | .endElement => []
  | .attribute uri name value =>
    [("namespace", Json.ofString? uri), ("name", .string name), ("value", .string value)]
  | .text content => [("text", .string content)]
  | .expansion expression => [("expression", .string expression)]
  | .comment content => [("comment", .string content)]
  | .cdata content => [("content", .string content)]
  | .doctype name publicId systemId =>
    [("name", .string name), ("publicId", Json.ofString? publicId),
      ("systemId", Json.ofString? systemId)]
  | .binding uri label => [("namespace", .string uri), ("prefix", .string label)]
  | .body => []
  | .block id => [("id", .string id)]
  | .parameter name => [("name", .string name)]
  | .extensionPoint id => [("id", .string id)]

-- A name behind its namespace in braces. An empty namespace is left out.
def qualified (uri : Option String) (name : String) : String :=
  match uri with
  | some uri => if uri.isEmpty then name else "\x7b" ++ uri ++ "\x7d" ++ name
  | none => name

-- A labelled part that is shown only where it is present.
def shown (label : String) (part : Option String) (close : String) : String :=
  match part with
  | some part => label ++ part ++ close
  | none => ""

-- One line for a reader.
def describe : TokenForm → String
  | .startElement uri name => "start " ++ qualified uri (name.getD "-")
  | .startComponent element id componentType mixins =>
    "component" ++ shown " <" element ">" ++ shown " id=" id "" ++ shown " type=" componentType "" ++
      shown " mixins=" mixins ""
  | .endElement => "end"
  | .attribute uri name value => "attribute " ++ qualified uri name ++ "=" ++ Text.quoted value
  | .text content => "text " ++ Text.quoted content
  | .expansion expression => "expansion $\x7b" ++ expression ++ "\x7d"
  | .comment content => "comment " ++ Text.quoted content
  | .cdata content => "cdata " ++ Text.quoted content
  | .doctype name publicId systemId =>
    "dtd " ++ name ++ shown " public=" (publicId.map Text.quoted) "" ++
      shown " system=" (systemId.map Text.quoted) ""
  | .binding uri label =>
    if label.isEmpty then "xmlns=" ++ Text.quoted uri
    else "xmlns:" ++ label ++ "=" ++ Text.quoted uri
  | .body => "body"
  | .block id => "block " ++ id
  | .parameter name => "parameter " ++ name
  | .extensionPoint id => "extension-point " ++ id

-- A document type declaration may stand before everything else without counting as content.
def isDoctype : TokenForm → Bool
  | .doctype .. => true
  | _ => false

end TokenForm

namespace Token

def describe (token : Token) : String :=
  token.form.describe

def isDoctype (token : Token) : Bool :=
  token.form.isDoctype

def toJson (token : Token) : Json :=
  .object ([("type", .string token.form.label)] ++ token.form.members ++
    [("location", token.location.toJson)])

end Token

end TemplateMarkup
