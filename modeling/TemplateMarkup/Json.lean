namespace TemplateMarkup

-- A JSON document. Members keep the order in which they are written.
inductive Json where
  | null
  | bool (value : Bool)
  | number (value : Int)
  | string (value : String)
  | array (items : List Json)
  | object (members : List (String × Json))

namespace Json

def ofNat? : Option Nat → Json
  | some n => .number n
  | none => .null

def ofString? : Option String → Json
  | some s => .string s
  | none => .null

-- Four hexadecimal digits, as many as a control character needs.
def hexDigits (n : Nat) : List Char :=
  let digits := Nat.toDigits 16 n
  List.replicate (4 - digits.length) '0' ++ digits

-- Only the quote, the backslash and the controls below the space are escaped.
def escapeChar (c : Char) : List Char :=
  if c = '"' || c = '\\' then ['\\', c]
  else if c = '\x08' then ['\\', 'b']
  else if c = '\x0c' then ['\\', 'f']
  else if c = '\n' then ['\\', 'n']
  else if c = '\r' then ['\\', 'r']
  else if c = '\t' then ['\\', 't']
  else if c.toNat < 0x20 then ['\\', 'u'] ++ hexDigits c.toNat
  else [c]

def renderString (s : String) : List Char :=
  ['"'] ++ s.toList.flatMap escapeChar ++ ['"']

def renderNumber (n : Int) : List Char :=
  match n with
  | .ofNat n => Nat.toDigits 10 n
  | .negSucc n => '-' :: Nat.toDigits 10 (n + 1)

def renderBool (b : Bool) : List Char :=
  if b then ['t', 'r', 'u', 'e'] else ['f', 'a', 'l', 's', 'e']

def renderNull : List Char :=
  ['n', 'u', 'l', 'l']

-- A new line at some depth, two spaces to each level.
def newLine (depth : Nat) : List Char :=
  '\n' :: List.replicate (2 * depth) ' '

mutual

-- No blanks and no line breaks between the parts.
def compact : Json → List Char
  | .null => renderNull
  | .bool b => renderBool b
  | .number n => renderNumber n
  | .string s => renderString s
  | .array items => ['['] ++ compactItems items ++ [']']
  | .object members => ['\x7b'] ++ compactMembers members ++ ['\x7d']

def compactItems : List Json → List Char
  | [] => []
  | [item] => compact item
  | item :: rest => compact item ++ [','] ++ compactItems rest

def compactMembers : List (String × Json) → List Char
  | [] => []
  | [(key, value)] => renderString key ++ [':'] ++ compact value
  | (key, value) :: rest => renderString key ++ [':'] ++ compact value ++ [','] ++ compactMembers rest

end

mutual

-- Every item and member on a line of its own, one level deeper than its container. An empty
-- container stays on its line.
def pretty (depth : Nat) : Json → List Char
  | .null => renderNull
  | .bool b => renderBool b
  | .number n => renderNumber n
  | .string s => renderString s
  | .array [] => ['[', ']']
  | .array items => ['['] ++ prettyItems (depth + 1) items ++ newLine depth ++ [']']
  | .object [] => ['\x7b', '\x7d']
  | .object members => ['\x7b'] ++ prettyMembers (depth + 1) members ++ newLine depth ++ ['\x7d']

def prettyItems (depth : Nat) : List Json → List Char
  | [] => []
  | [item] => newLine depth ++ pretty depth item
  | item :: rest => newLine depth ++ pretty depth item ++ [','] ++ prettyItems depth rest

def prettyMembers (depth : Nat) : List (String × Json) → List Char
  | [] => []
  | [(key, value)] => newLine depth ++ renderString key ++ [':', ' '] ++ pretty depth value
  | (key, value) :: rest =>
    newLine depth ++ renderString key ++ [':', ' '] ++ pretty depth value ++ [','] ++
      prettyMembers depth rest

end

def compactText (json : Json) : String :=
  String.ofList (compact json)

def prettyText (json : Json) : String :=
  String.ofList (pretty 0 json)

end Json

end TemplateMarkup
