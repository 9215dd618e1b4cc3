import TemplateMarkup.Text.VisibleData

namespace TemplateMarkup.Text

-- A character can stand in quoted text as it is when it has a glyph of its own.
def isVisible (c : Char) : Bool :=
  if c.toNat < 128 then
    0x20 ≤ c.toNat && c.toNat < 0x7F
  else
    !graphemeExtendPoints.contains c && !unprintablePoints.contains c

-- How one character is written between double quotes.
def quotedChar (c : Char) : List Char :=
  if c = '\x00' then ['\\', '0']
  else if c = '\t' then ['\\', 't']
  else if c = '\r' then ['\\', 'r']
  else if c = '\n' then ['\\', 'n']
  else if c = '\\' || c = '"' then ['\\', c]
  else if isVisible c then [c]
  else ['\\', 'u', '\x7b'] ++ Nat.toDigits 16 c.toNat ++ ['\x7d']

-- A text in double quotes, with everything escaped that would not show as itself.
def quoted (text : String) : String :=
  String.ofList (['"'] ++ text.toList.flatMap quotedChar ++ ['"'])

end TemplateMarkup.Text
