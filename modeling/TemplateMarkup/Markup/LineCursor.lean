namespace TemplateMarkup.Markup

-- Counts lines of a text as a reader moves on in it.
structure LineCursor where
  bytes : Array UInt8
  -- How far the line feeds have been counted, and the line there.
  counted : Nat
  line : Nat

namespace LineCursor

def ofText (text : String) : LineCursor :=
  ⟨text.toUTF8.data, 0, 1⟩

-- Moves on to a position. One that lies behind the end counts as the end, and one before the
-- counted part leaves the cursor where it is. `between` cuts out the bytes that are passed.
def moveToM {m : Type → Type} [Monad m] (between : Array UInt8 → Nat → Nat → m (Array UInt8))
    (cursor : LineCursor) (position : Nat) : m LineCursor :=
  let position := min position cursor.bytes.size
  if position ≤ cursor.counted then
    return cursor
  else do
    let passed ← between cursor.bytes cursor.counted position
    return { cursor with counted := position, line := cursor.line + passed.count 10 }

def moveTo (cursor : LineCursor) (position : Nat) : LineCursor :=
  moveToM (m := Id) (fun bytes start stop => bytes.extract start stop) cursor position

end LineCursor

end TemplateMarkup.Markup
