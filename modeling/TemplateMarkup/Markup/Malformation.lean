import TemplateMarkup.Files.ReadFailure

namespace TemplateMarkup

-- What can be wrong with a numeric character reference.
inductive CharReferenceFault where
  | signed
  | empty
  | invalidDigit
  | tooLarge
  | forbidden (code : Nat)
  | notScalar (code : Nat)
  deriving DecidableEq, Repr

namespace CharReferenceFault

def message : CharReferenceFault → String
  | .signed => "unexpected number sign"
  | .empty => "cannot parse integer from empty string"
  | .invalidDigit => "invalid digit found in string"
  | .tooLarge => "number too large to fit in target type"
  | .forbidden code => s!"0x{code} character is not permitted in XML"
  | .notScalar code => s!"`{code}` is not a valid codepoint"

end CharReferenceFault

-- What can be wrong with a reference. Positions count bytes of the text that holds it.
inductive ReferenceFault where
  | unterminated (start stop : Nat)
  | unknownEntity (start stop : Nat) (name : String)
  | character (fault : CharReferenceFault)
  deriving DecidableEq, Repr

namespace ReferenceFault

def message : ReferenceFault → String
  | .unterminated start stop =>
    s!"Error while escaping character at range {start}..{stop}: Cannot find ';' after '&'"
  | .unknownEntity start stop name => s!"at {start}..{stop}: unrecognized entity `{name}`"
  | .character fault => s!"invalid character reference: {fault.message}"

end ReferenceFault

-- What can be wrong with an attribute. Positions count bytes from the name of the element.
inductive AttributeFault where
  | expectedEquals (position : Nat)
  | duplicate (position previous : Nat)
  | expectedValue (position : Nat)
  | unquotedValue (position : Nat)
  | unclosedQuote (position : Nat) (quote : Char)
  deriving DecidableEq, Repr

namespace AttributeFault

def message : AttributeFault → String
  | .expectedEquals position =>
    s!"position {position}: attribute key must be directly followed by `=` or space"
  | .duplicate position previous =>
    s!"position {position}: duplicated attribute, previous declaration at position {previous}"
  | .expectedValue position =>
    s!"position {position}: `=` must be followed by an attribute value"
  | .unquotedValue position =>
    s!"position {position}: attribute value must be enclosed in `\"` or `'`"
  | .unclosedQuote position quote =>
    s!"position {position}: missing closing quote `{quote}` in attribute value"

end AttributeFault

-- What can be wrong with the namespace bindings of an element.
inductive BindingFault where
  | xmlRebound (uri : String)
  | xmlnsRebound (uri : String)
  | boundToXml (label : String)
  | boundToXmlns (label : String)
  deriving DecidableEq, Repr

namespace BindingFault

def hexDigit (n : Nat) : List Char :=
  (Nat.toDigits 16 n).map Char.toUpper

-- One byte of a quoted byte string: printable ASCII as it is, but for the quote.
def showByte (byte : UInt8) : List Char :=
  let n := byte.toNat
  if n = 34 then ['\\', '"']
  else if 32 ≤ n ∧ n ≤ 126 then [Char.ofNat n]
  else ['0', 'x'] ++ hexDigit n

def showBytes (text : String) : String :=
  String.ofList (['"'] ++ text.toUTF8.data.toList.flatMap showByte ++ ['"'])

def message : BindingFault → String
  | .xmlRebound uri => s!"the namespace prefix 'xml' cannot be bound to '{showBytes uri}'"
  | .xmlnsRebound uri => s!"the namespace prefix 'xmlns' cannot be bound to '{showBytes uri}'"
  | .boundToXml label =>
    s!"the namespace prefix '{showBytes label}' cannot be bound to 'http://www.w3.org/XML/1998/namespace'"
  | .boundToXmlns label =>
    s!"the namespace prefix '{showBytes label}' cannot be bound to 'http://www.w3.org/2000/xmlns/'"

end BindingFault

-- Why a document cannot be read as markup.
inductive Malformation where
  | unknownMarkup
  | unclosedInstruction
  | unclosedComment
  | unclosedDoctype
  | unclosedCdata
  | unclosedTag
  | missingDoctypeName
  | unmatchedEnd (name : String)
  | mismatchedEnd (expected found : String)
  | unboundLabel (label : String)
  | binding (fault : BindingFault)
  | attribute (fault : AttributeFault)
  | reference (fault : ReferenceFault)
  | unreadable (failure : ReadFailure)
  deriving DecidableEq, Repr

namespace Malformation

def message : Malformation → String
  | .unknownMarkup => "syntax error: unknown or missed symbol in markup"
  | .unclosedInstruction =>
    "syntax error: processing instruction or xml declaration not closed: `?>` not found before end of input"
  | .unclosedComment => "syntax error: comment not closed: `-->` not found before end of input"
  | .unclosedDoctype => "syntax error: DOCTYPE not closed: `>` not found before end of input"
  | .unclosedCdata => "syntax error: CDATA not closed: `]]>` not found before end of input"
  | .unclosedTag => "syntax error: tag not closed: `>` not found before end of input"
  | .missingDoctypeName =>
    "ill-formed document: `<!DOCTYPE>` declaration does not contain a name of a document type"
  | .unmatchedEnd name =>
    s!"ill-formed document: close tag `</{name}>` does not match any open tag"
  | .mismatchedEnd expected found =>
    s!"ill-formed document: expected `</{expected}>`, but `</{found}>` was found"
  | .unboundLabel label => s!"the namespace prefix `{label}` is not bound"
  | .binding fault => fault.message
  | .attribute fault => fault.message
  | .reference fault => fault.message
  | .unreadable failure => failure.message

end Malformation

end TemplateMarkup
