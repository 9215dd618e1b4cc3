import TemplateMarkup.Toml.Datetime

namespace TemplateMarkup.Toml

-- How a table has come about, which decides who may add to it.
inductive TableKind where
  -- By a header of its own.
  | explicit
  -- On the way to the table of a header.
  | superTable
  -- On the way to the last part of a dotted key.
  | dotted
  -- Between braces, where it is complete.
  | inline
  deriving DecidableEq, Repr

-- A value of a TOML document.
inductive Value where
  | string (text : String)
  | integer (number : Int)
  -- Of a float nothing is kept but whether it is too large for double precision.
  | float (overflows : Bool)
  | boolean (value : Bool)
  | datetime (value : Datetime)
  | array (items : List Value)
  -- The tables of all headers in double brackets with one name, in order.
  | tables (items : List Value)
  | table (kind : TableKind) (entries : List (String × Value))

namespace Value

def emptyTable (kind : TableKind) : Value :=
  .table kind []

-- The entry of a table.
def find? (entries : List (String × Value)) (key : String) : Option Value :=
  (entries.find? (·.1 == key)).map Prod.snd

-- Puts a value in the place of the one that a key has, or at the end.
def put (entries : List (String × Value)) (key : String) (value : Value) :
    List (String × Value) :=
  if entries.any (·.1 == key) then
    entries.map fun entry => if entry.1 == key then (key, value) else entry
  else
    entries ++ [(key, value)]

-- Integers reach as far as 128 bits do.
def isInteger128 (number : Int) : Bool :=
  -(Int.pow 2 127) ≤ number && number < Int.pow 2 128

mutual

-- A document may hold numbers that are too large, as long as nobody looks at them.
def isReadable : Value → Bool
  | .integer number => isInteger128 number
  | .float overflows => !overflows
  | .array items => itemsReadable items
  | .tables items => itemsReadable items
  | .table _ entries => entriesReadable entries
  | .string _ | .boolean _ | .datetime _ => true

def itemsReadable : List Value → Bool
  | [] => true
  | item :: rest => item.isReadable && itemsReadable rest

def entriesReadable : List (String × Value) → Bool
  | [] => true
  | (_, value) :: rest => value.isReadable && entriesReadable rest

end

end Value

end TemplateMarkup.Toml
