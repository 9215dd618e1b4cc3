import TemplateMarkup.Dtd.Doctype

namespace TemplateMarkup.Dtd

-- What a parameter entity stands for.
inductive ParameterEntity where
  | text (value : String)
  | external (publicId : Option String)
  deriving DecidableEq, Repr

-- What a document type definition says about entities.
inductive Declaration where
  -- A general entity with its value as written.
  | general (name value : String)
  | parameter (name : String) (entity : ParameterEntity)
  -- A parameter entity that is referred to between declarations.
  | reference (name : String)
  deriving DecidableEq, Repr

-- What has been read of an entity declaration.
structure EntityParts where
  isParameter : Bool := false
  name : Option String := none
  value : Option String := none
  isExternal : Bool := false
  publicId : Option String := none
  deriving DecidableEq, Repr

namespace EntityParts

-- The declaration that the parts make up. Without a name, and for a general entity kept
-- elsewhere, there is none.
def declared (parts : EntityParts) : List Declaration :=
  match parts.name, parts.isParameter, parts.isExternal, parts.value with
  | none, _, _, _ => []
  | some name, true, false, some value => [.parameter name (.text value)]
  | some name, true, _, _ => [.parameter name (.external parts.publicId)]
  | some name, false, false, some value => [.general name value]
  | some _, false, _, _ => []

-- Adds a lexeme that neither ends the declaration nor announces a public identifier.
def add (parts : EntityParts) (lexeme : Lexeme) : EntityParts :=
  match lexeme with
  | .percent => if parts.name.isNone then { parts with isParameter := true } else parts
  | .name text => if parts.name.isNone then { parts with name := some text } else parts
  | .systemWord => { parts with isExternal := true }
  | .literal text =>
    if !parts.isExternal && parts.value.isNone then { parts with value := some text } else parts
  | _ => parts

end EntityParts

-- Where a reader of lexemes stands.
inductive Mode where
  | between
  | inEntity (parts : EntityParts)
  -- The next lexeme should be the public identifier.
  | atPublicId (parts : EntityParts)
  | inDeclaration
  -- In a conditional section inside `outer` others.
  | inConditional (outer : Nat)
  deriving DecidableEq, Repr

-- The declarations that count. Those in conditional sections do not.
def declarationsFrom : Mode → List Lexeme → List Declaration
  | .inEntity parts, [] => parts.declared
  | .atPublicId parts, [] => { parts with publicId := none }.declared
  | _, [] => []
  | .between, lexeme :: more =>
    match lexeme with
    | .entity => declarationsFrom (.inEntity {}) more
    | .declaration => declarationsFrom .inDeclaration more
    | .conditionalStart => declarationsFrom (.inConditional 0) more
    | .reference name => .reference name :: declarationsFrom .between more
    | _ => declarationsFrom .between more
  | .inEntity parts, lexeme :: more =>
    match lexeme with
    | .close => parts.declared ++ declarationsFrom .between more
    | .publicWord => declarationsFrom (.atPublicId { parts with isExternal := true }) more
    | _ => declarationsFrom (.inEntity (parts.add lexeme)) more
  | .atPublicId parts, lexeme :: more =>
    declarationsFrom (.inEntity { parts with publicId := Doctype.literal? lexeme }) more
  | .inDeclaration, lexeme :: more =>
    match lexeme with
    | .close => declarationsFrom .between more
    | _ => declarationsFrom .inDeclaration more
  | .inConditional outer, lexeme :: more =>
    match lexeme, outer with
    | .conditionalStart, _ => declarationsFrom (.inConditional (outer + 1)) more
    | .conditionalEnd, 0 => declarationsFrom .between more
    | .conditionalEnd, outer + 1 => declarationsFrom (.inConditional outer) more
    | _, _ => declarationsFrom (.inConditional outer) more

def declarations (text : String) : List Declaration :=
  declarationsFrom .between (lexemes text)

end TemplateMarkup.Dtd
