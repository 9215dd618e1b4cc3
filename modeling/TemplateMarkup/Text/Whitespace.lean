namespace TemplateMarkup.Text

-- White space that moves along a line: space, tab and form feed.
def isInline (c : Char) : Bool :=
  c = ' ' || c = '\t' || c = '\x0c'

def isLineEnd (c : Char) : Bool :=
  c = '\r' || c = '\n'

-- White space that may follow a line end: the above and the vertical tab.
def isLayout (c : Char) : Bool :=
  isInline c || isLineEnd c || c = '\x0b'

-- The white space read so far at some place of a text: none, some within a line, or some
-- with a line end in it.
inductive Gap where
  | none
  | inline
  | lineEnd
  deriving DecidableEq, Repr

-- Compresses a text in which `gap` is still to be settled. A line end is written at once and
-- swallows the white space after it; inline white space waits, since a line end swallows it.
def compressFrom : Gap → List Char → List Char
  | .inline, [] => [' ']
  | _, [] => []
  | gap, c :: rest =>
    if gap = .lineEnd && isLayout c then
      compressFrom .lineEnd rest
    else if isLineEnd c then
      '\n' :: compressFrom .lineEnd rest
    else if isInline c then
      compressFrom .inline rest
    else if gap = .inline then
      ' ' :: c :: compressFrom .none rest
    else
      c :: compressFrom .none rest

-- Every line end shrinks, with the white space around it, to one line feed, and every other
-- run of inline white space to one space.
def compress (text : String) : String :=
  String.ofList (compressFrom .none text.toList)

end TemplateMarkup.Text
