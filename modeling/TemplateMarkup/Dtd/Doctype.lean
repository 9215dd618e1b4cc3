import TemplateMarkup.Dtd.Lexeme

namespace TemplateMarkup

-- The parts of a document type declaration.
structure Doctype where
  name : String
  publicId : Option String
  systemId : Option String
  -- The declarations inside the brackets.
  subset : Option String
  deriving DecidableEq, Repr

namespace Doctype

def literal? : Dtd.Lexeme → Option String
  | .literal text => some text
  | _ => none

-- What stands before the last closing bracket, or everything where there is none.
def beforeLastBracket (text : List Char) : List Char :=
  match text.reverse.dropWhile (· != ']') with
  | [] => text
  | _ :: before => before.reverse

-- How the texts of a declaration are cut out of it, lexeme by lexeme.
structure Cutter (m : Type → Type) (α : Type) where
  lexeme : α → Dtd.Lexeme
  name : α → String → m String
  -- An identifier, unless the lexeme is no literal.
  identifier : α → m (Option String)
  -- What stands behind an opening bracket.
  subset : α → m String

section Reading

variable {m : Type → Type} [Monad m] {α : Type}

-- Adds what the next lexemes say. An identifier that is no literal is absent, but takes its
-- lexeme all the same.
def readM (cutter : Cutter m α) (doctype : Doctype) : List α → m Doctype
  | [] => return doctype
  | item :: more =>
    match cutter.lexeme item with
    | .name text =>
      if doctype.name = "" then do
        let name ← cutter.name item text
        readM cutter { doctype with name := name } more
      else readM cutter doctype more
    | .publicWord =>
      match more with
      | [] => return { doctype with publicId := none, systemId := none }
      | [first] => do
        let publicId ← cutter.identifier first
        return { doctype with publicId := publicId, systemId := none }
      | first :: second :: later => do
        let publicId ← cutter.identifier first
        let systemId ← cutter.identifier second
        readM cutter { doctype with publicId := publicId, systemId := systemId } later
    | .systemWord =>
      match more with
      | [] => return { doctype with systemId := none }
      | first :: later => do
        let systemId ← cutter.identifier first
        readM cutter { doctype with systemId := systemId } later
    | .openBracket => do
      let subset ← cutter.subset item
      return { doctype with subset := some subset }
    | _ => readM cutter doctype more

end Reading

-- Everything is there already.
def Cutter.plain : Cutter Id Dtd.Cut where
  lexeme := Dtd.Cut.lexeme
  name _ text := text
  identifier piece := literal? piece.lexeme
  subset piece := String.ofList (beforeLastBracket piece.rest)

def read (doctype : Doctype) (pieces : List Dtd.Cut) : Doctype :=
  readM Cutter.plain doctype pieces

theorem read_nil (doctype : Doctype) : doctype.read [] = doctype :=
  rfl

theorem read_name (doctype : Doctype) (text : String) (rest : List Char) (more : List Dtd.Cut) :
    doctype.read (⟨.name text, rest⟩ :: more) =
      if doctype.name = "" then read { doctype with name := text } more else read doctype more :=
  rfl

theorem read_openBracket (doctype : Doctype) (rest : List Char) (more : List Dtd.Cut) :
    doctype.read (⟨.openBracket, rest⟩ :: more) =
      { doctype with subset := some (String.ofList (beforeLastBracket rest)) } :=
  rfl

-- Reads what stands between the keyword and the end of a declaration.
def ofText (content : String) : Doctype :=
  read ⟨"", none, none, none⟩ (Dtd.cuts content.toList)

end Doctype

end TemplateMarkup
