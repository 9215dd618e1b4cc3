namespace TemplateMarkup

-- An attribute with its namespace, if it has one.
structure Attribute where
  uri : Option String
  name : String
  value : String
  deriving DecidableEq, Repr

-- One step of a walk through a marked-up document. The namespace bindings of an element come
-- before its start, and character data of a CDATA section comes as text between its marks.
inductive Event where
  | documentStart
  | documentEnd
  | elementStart (uri : Option String) (name : String) (attributes : List Attribute)
  | elementEnd (uri : Option String) (name : String)
  | text (text : String)
  | comment (text : String)
  | cdataStart
  | cdataEnd
  | doctypeStart (name : String) (publicId systemId : Option String)
  | doctypeEnd
  | binding (label uri : String)
  deriving DecidableEq, Repr

-- An event and the line on which it begins, if that is known.
structure PlacedEvent where
  line : Option Nat
  event : Event
  deriving DecidableEq, Repr

end TemplateMarkup
