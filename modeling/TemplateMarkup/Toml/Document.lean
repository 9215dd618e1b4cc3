import TemplateMarkup.Toml.Scalar

namespace TemplateMarkup.Toml

abbrev Entries := List (String × Value)

-- Changes the table that a path leads to. Tables that are missing on the way are made, and of
-- the tables under a name in double brackets the last one is meant. A dotted key must not lead
-- into a table with a header, and takes over a table that was only on the way to one. Nothing
-- leads into what is complete.
def changeAt (made : TableKind) (change : TableKind → Entries → Option Entries) :
    List String → TableKind → Entries → Option Entries
  | [], kind, entries => change kind entries
  | key :: path, _, entries =>
    match Value.find? entries key with
    | none =>
      (changeAt made change path made []).map fun inner =>
        Value.put entries key (.table made inner)
    | some (.table kind inner) =>
      if kind = .inline || (made = .dotted && kind = .explicit) then
        none
      else
        let kind := if made = .dotted then .dotted else kind
        (changeAt made change path kind inner).map fun inner =>
          Value.put entries key (.table kind inner)
    | some (.tables items) =>
      match items.getLast? with
      | some (.table kind inner) =>
        (changeAt made change path kind inner).map fun inner =>
          Value.put entries key (.tables (items.dropLast ++ [.table kind inner]))
      | _ => none
    | some _ => none

-- Enters a value under a key that must be new. Behind dots the table has to have come about by
-- dotted keys, too.
def enter (path : List String) (key : String) (value : Value) (kind : TableKind)
    (entries : Entries) : Option Entries :=
  let place := fun (kind : TableKind) (entries : Entries) =>
    if !path.isEmpty && kind != .dotted then none
    else if (Value.find? entries key).isSome then none
    else some (entries ++ [(key, value)])
  changeAt .dotted place path kind entries

-- Opens the table of a header, which must not have been opened before.
def openTable (key : String) (_ : TableKind) (entries : Entries) : Option Entries :=
  match Value.find? entries key with
  | none => some (entries ++ [(key, .emptyTable .explicit)])
  | some (.table .superTable inner) => some (Value.put entries key (.table .explicit inner))
  | some _ => none

-- Opens one more table under a name in double brackets.
def openTableItem (key : String) (_ : TableKind) (entries : Entries) : Option Entries :=
  match Value.find? entries key with
  | none => some (entries ++ [(key, .tables [.emptyTable .explicit])])
  | some (.tables items) =>
    some (Value.put entries key (.tables (items ++ [.emptyTable .explicit])))
  | some _ => none

-- A key with its value.
structure Pair where
  path : List String
  key : String
  value : Value

def enterPair (kind : TableKind) (entries : Entries) (pair : Pair) : Option Entries :=
  enter pair.path pair.key pair.value kind entries

-- How many parts a key may have, and how deep brackets and braces may be nested.
def maxDepth : Nat :=
  80

-- Splits a key into the way to its table and its last part.
def splitKey (parts : List String) : Option (List String × String) :=
  if maxDepth < parts.length then none else parts.getLast?.map (parts.dropLast, ·)

mutual

-- Reads a value in which `room` more brackets or braces may be nested.
def readValue : Nat → (room : Nat) → Reader Value
  | 0, _, _ => none
  | fuel + 1, room, text =>
    match text, room with
    | '[' :: rest, room + 1 => readItems fuel room [] rest
    | '\x7b' :: rest, room + 1 => readPairs fuel room [] rest
    | '"' :: _, _ | '\'' :: _, _ => (readString text).map fun found => (.string found.1, found.2)
    | _, _ =>
      let (word, rest) := readWord text
      (scalar? word).map (·, rest)

-- The rest of an array. A comma may stand behind the last item.
def readItems : Nat → (room : Nat) → List Value → Reader Value
  | 0, _, _, _ => none
  | fuel + 1, room, items, text => do
    let (_, rest) ← skipLayout (text.length + 1) text
    match rest with
    | ']' :: rest => some (.array items, rest)
    | _ => do
      let (item, rest) ← readValue fuel room rest
      let (_, rest) ← skipLayout (rest.length + 1) rest
      match rest with
      | ',' :: rest => readItems fuel room (items ++ [item]) rest
      | ']' :: rest => some (.array (items ++ [item]), rest)
      | _ => none

-- The rest of a table between braces. A comma may stand behind the last entry.
def readPairs : Nat → (room : Nat) → Entries → Reader Value
  | 0, _, _, _ => none
  | fuel + 1, room, entries, text => do
    let (_, rest) ← skipLayout (text.length + 1) text
    match rest with
    | '\x7d' :: rest => some (.table .inline entries, rest)
    | _ => do
      let (parts, rest) ← readKey (rest.length + 1) rest
      let (path, key) ← splitKey parts
      let (_, rest) ← skipLayout (rest.length + 1) rest
      match rest with
      | '=' :: rest => do
        let (_, rest) ← skipLayout (rest.length + 1) rest
        let (value, rest) ← readValue fuel room rest
        let entries ← enterPair .explicit entries ⟨path, key, value⟩
        let (_, rest) ← skipLayout (rest.length + 1) rest
        match rest with
        | ',' :: rest => readPairs fuel room entries rest
        | '\x7d' :: rest => some (.table .inline entries, rest)
        | _ => none
      | _ => none

end

-- A line of a document.
inductive Statement where
  | table (path : List String) (key : String)
  | tableItem (path : List String) (key : String)
  | pair (pair : Pair)

-- Nothing but a comment may stand behind a statement on its line.
def endLine (text : List Char) : Option (List Char) := do
  let (_, rest) ← skipComment (skipInline text)
  if rest.isEmpty then some [] else lineEnd? rest

def readHeader (text : List Char) : Option (List String × String × List Char) := do
  let (parts, rest) ← readKey (text.length + 1) (skipInline text)
  let (path, key) ← splitKey parts
  some (path, key, rest)

def readStatement (text : List Char) : Option (Statement × List Char) :=
  match text with
  | '[' :: '[' :: rest => do
    let (path, key, rest) ← readHeader rest
    match rest with
    | ']' :: ']' :: rest => some (.tableItem path key, ← endLine rest)
    | _ => none
  | '[' :: rest => do
    let (path, key, rest) ← readHeader rest
    match rest with
    | ']' :: rest => some (.table path key, ← endLine rest)
    | _ => none
  | _ => do
    let (path, key, rest) ← readHeader text
    match rest with
    | '=' :: rest => do
      let (value, rest) ← readValue (3 * rest.length + 3) maxDepth (skipInline rest)
      some (.pair ⟨path, key, value⟩, ← endLine rest)
    | _ => none

def readStatements : Nat → List Char → Option (List Statement)
  | 0, _ => none
  | fuel + 1, text => do
    let (_, rest) ← skipLayout (text.length + 1) text
    if rest.isEmpty then
      some []
    else
      let (statement, rest) ← readStatement rest
      (readStatements fuel rest).map (statement :: ·)

-- A document in the making: its entries, and the way to the table that takes the next pairs.
structure Draft where
  entries : Entries
  current : List String

def Draft.add (draft : Draft) (statement : Statement) : Option Draft :=
  match statement with
  | .table path key =>
    (changeAt .superTable (openTable key) path .explicit draft.entries).map
      (⟨·, path ++ [key]⟩)
  | .tableItem path key =>
    (changeAt .superTable (openTableItem key) path .explicit draft.entries).map
      (⟨·, path ++ [key]⟩)
  | .pair pair =>
    (changeAt .superTable (fun kind entries => enterPair kind entries pair) draft.current
      .explicit draft.entries).map (⟨·, draft.current⟩)

def dropMark : List Char → List Char
  | c :: rest => if c = '\uFEFF' then rest else c :: rest
  | [] => []

-- The entries of a document, unless it is malformed.
def parse (text : String) : Option Entries := do
  let text := dropMark text.toList
  let statements ← readStatements (text.length + 1) text
  let draft ← statements.foldlM Draft.add ⟨[], []⟩
  some draft.entries

end TemplateMarkup.Toml
