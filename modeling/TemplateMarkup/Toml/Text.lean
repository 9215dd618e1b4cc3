import TemplateMarkup.Text.Blank

namespace TemplateMarkup.Toml

-- A reader takes something off the front of a text, or finds the text to be wrong.
abbrev Reader (α : Type) := List Char → Option (α × List Char)

def isInlineSpace (c : Char) : Bool :=
  c = ' ' || c = '\t'

-- Control characters other than the tab stand nowhere.
def isAllowed (c : Char) : Bool :=
  c = '\t' || (0x20 ≤ c.toNat && c.toNat != 0x7F)

def skipInline (text : List Char) : List Char :=
  text.dropWhile isInlineSpace

-- Takes a line end off the front.
def lineEnd? : List Char → Option (List Char)
  | '\n' :: rest => some rest
  | '\r' :: '\n' :: rest => some rest
  | _ => none

-- Skips a comment, if there is one.
def skipComment : Reader Unit
  | '#' :: rest =>
    let rest := rest.dropWhile isAllowed
    match rest with
    | [] => some ((), [])
    | _ => (lineEnd? rest).map fun _ => ((), rest)
  | text => some ((), text)

-- Skips white space, line ends and comments.
def skipLayout : Nat → Reader Unit
  | 0, _ => none
  | fuel + 1, text =>
    let text := skipInline text
    match lineEnd? text with
    | some rest => skipLayout fuel rest
    | none =>
      match text with
      | '#' :: _ =>
        match skipComment text with
        | some (_, rest) => skipLayout fuel rest
        | none => none
      | _ => some ((), text)

def hexValue? (c : Char) : Option Nat :=
  if '0' ≤ c ∧ c ≤ '9' then some (c.toNat - '0'.toNat)
  else if 'a' ≤ c ∧ c ≤ 'f' then some (c.toNat - 'a'.toNat + 10)
  else if 'A' ≤ c ∧ c ≤ 'F' then some (c.toNat - 'A'.toNat + 10)
  else none

-- The character with a hexadecimal code.
def codeChar? (digits : List Char) : Option Char := do
  let values ← digits.mapM hexValue?
  let code := values.foldl (fun code d => code * 16 + d) 0
  if code.isValidChar then some (Char.ofNat code) else none

-- The escape behind a backslash.
def readEscape : Reader Char
  | 'b' :: rest => some ('\x08', rest)
  | 't' :: rest => some ('\t', rest)
  | 'n' :: rest => some ('\n', rest)
  | 'f' :: rest => some ('\x0c', rest)
  | 'r' :: rest => some ('\r', rest)
  | '"' :: rest => some ('"', rest)
  | '\\' :: rest => some ('\\', rest)
  | 'e' :: rest => some ('\x1b', rest)
  | 'x' :: rest =>
    if rest.length < 2 then none else (codeChar? (rest.take 2)).map (·, rest.drop 2)
  | 'u' :: rest =>
    if rest.length < 4 then none else (codeChar? (rest.take 4)).map (·, rest.drop 4)
  | 'U' :: rest =>
    if rest.length < 8 then none else (codeChar? (rest.take 8)).map (·, rest.drop 8)
  | _ => none

-- The rest of a string in double quotes. `read` holds what has come, nearest first.
def readBasic : Nat → (read : List Char) → Reader String
  | 0, _, _ => none
  | _, _, [] => none
  | fuel + 1, read, c :: rest =>
    if c = '"' then some (String.ofList read.reverse, rest)
    else if c = '\\' then
      match readEscape rest with
      | some (d, rest) => readBasic fuel (d :: read) rest
      | none => none
    else if isAllowed c then readBasic fuel (c :: read) rest
    else none

-- The rest of a string in single quotes.
def readLiteral (text : List Char) : Option (String × List Char) :=
  let inside := text.takeWhile (· != '\'')
  match text.dropWhile (· != '\'') with
  | [] => none
  | _ :: rest => if inside.all isAllowed then some (String.ofList inside, rest) else none

-- The end of a string over several lines: three quotes, with up to two before them that belong
-- to the string.
def closeMultiline? (quote : Char) (text : List Char) : Option (List Char × List Char) :=
  let quotes := (text.take 5).takeWhile (· == quote)
  if quotes.length < 3 then none
  else some (quotes.drop 3, text.drop quotes.length)

-- Skips white space and line ends.
def skipBlank : List Char → List Char
  | [] => []
  | '\r' :: '\n' :: rest => skipBlank rest
  | c :: rest => if isInlineSpace c || c = '\n' then skipBlank rest else c :: rest

-- A backslash before a line end swallows all white space up to the next character.
def continuation? (text : List Char) : Option (List Char) :=
  (lineEnd? (skipInline text)).map skipBlank

-- The rest of a string over several lines. Escapes count only in the sort with double quotes,
-- and line ends stay as they are written.
def readMultiline (quote : Char) : Nat → (read : List Char) → Reader String
  | 0, _, _ => none
  | _, _, [] => none
  | fuel + 1, read, c :: rest =>
    match closeMultiline? quote (c :: rest) with
    | some (more, rest) => some (String.ofList (read.reverse ++ more), rest)
    | none =>
      match c, rest with
      | '\r', '\n' :: rest => readMultiline quote fuel ('\n' :: '\r' :: read) rest
      | '\n', rest => readMultiline quote fuel ('\n' :: read) rest
      | c, rest =>
        if c = '\\' && quote = '"' then
          match continuation? rest with
          | some rest => readMultiline quote fuel read rest
          | none =>
            match readEscape rest with
            | some (d, rest) => readMultiline quote fuel (d :: read) rest
            | none => none
        else if isAllowed c then readMultiline quote fuel (c :: read) rest
        else none

-- A line end right behind the opening quotes is not part of the string.
def dropFirstLineEnd (text : List Char) : List Char :=
  (lineEnd? text).getD text

-- A string of any sort.
def readString (text : List Char) : Option (String × List Char) :=
  match text with
  | '"' :: '"' :: '"' :: rest => readMultiline '"' (rest.length + 1) [] (dropFirstLineEnd rest)
  | '\'' :: '\'' :: '\'' :: rest =>
    readMultiline '\'' (rest.length + 1) [] (dropFirstLineEnd rest)
  | '"' :: rest => readBasic (rest.length + 1) [] rest
  | '\'' :: rest => readLiteral rest
  | _ => none

def isBareKeyChar (c : Char) : Bool :=
  c.isAlphanum || c = '_' || c = '-'

-- One part of a key: bare, or a string on one line.
def readKeyPart (text : List Char) : Option (String × List Char) :=
  match text with
  | '"' :: rest => readBasic (rest.length + 1) [] rest
  | '\'' :: rest => readLiteral rest
  | _ =>
    match text.takeWhile isBareKeyChar with
    | [] => none
    | key => some (String.ofList key, text.dropWhile isBareKeyChar)

-- A key: parts with dots between them.
def readKey : Nat → Reader (List String)
  | 0, _ => none
  | fuel + 1, text => do
    let (part, rest) ← readKeyPart text
    match skipInline rest with
    | '.' :: rest => do
      let (parts, rest) ← readKey fuel (skipInline rest)
      some (part :: parts, rest)
    | rest => some ([part], rest)

end TemplateMarkup.Toml
