namespace TemplateMarkup.Text

-- The characters of the Unicode property White_Space.
def isSpace (c : Char) : Bool :=
  let n := c.toNat
  (9 ≤ n && n ≤ 13) || n == 0x20 || n == 0x85 || n == 0xA0 || n == 0x1680 ||
    (0x2000 ≤ n && n ≤ 0x200A) || n == 0x2028 || n == 0x2029 || n == 0x202F || n == 0x205F ||
    n == 0x3000

-- A text is blank when it is empty or holds white space only.
def isBlank (text : String) : Bool :=
  text.toList.all isSpace

-- Drops the characters of a class from both ends.
def stripBoth (isEdge : Char → Bool) (cs : List Char) : List Char :=
  ((cs.dropWhile isEdge).reverse.dropWhile isEdge).reverse

-- A text without the white space at its ends.
def trimmed (text : String) : String :=
  String.ofList (stripBoth isSpace text.toList)

-- An optional text that is blank counts as absent.
def unlessBlank (text : String) : Option String :=
  if isBlank text then none else some text

-- Two words that differ at most in the case of ASCII letters.
def sameWord (a b : String) : Bool :=
  a.toList.map Char.toLower == b.toList.map Char.toLower

-- The texts between the separators, at least one.
def segments (separator : Char) : List Char → List (List Char)
  | [] => [[]]
  | c :: rest =>
    if c = separator then
      [] :: segments separator rest
    else
      match segments separator rest with
      | [] => [[c]]
      | segment :: others => (c :: segment) :: others

end TemplateMarkup.Text
