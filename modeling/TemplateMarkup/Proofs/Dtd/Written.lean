import Mathlib.Data.List.Infix
import TemplateMarkup.Dtd.Declaration

namespace TemplateMarkup.Dtd

-- White space that keeps what stands around it apart.
structure Gap where
  text : List Char
  nonempty : text ≠ []
  blank : ∀ c ∈ text, isBlankChar c = true

-- Characters that are read together. The names of documents are words, and so are the keywords
-- and the punctuation of declarations.
structure Word where
  text : String
  nonempty : text ≠ ""
  nameChars : ∀ c ∈ text.toList, isNameChar c = true

-- A word that does not announce an external identifier.
structure Name extends Word where
  not_public : text ≠ "PUBLIC"
  not_system : text ≠ "SYSTEM"

-- A text between quotes of a kind that does not come in it.
structure Quotation where
  quote : Char
  text : String
  isQuote : quote = '"' ∨ quote = '\''
  closed : quote ∉ text.toList

def Gap.space : Gap :=
  ⟨[' '], by decide, List.all_eq_true.mp rfl⟩

namespace Quotation

def single (text : String) (h : '\'' ∉ text.toList) : Quotation :=
  ⟨'\'', text, .inr rfl, h⟩

def double (text : String) (h : '"' ∉ text.toList) : Quotation :=
  ⟨'"', text, .inl rfl, h⟩

end Quotation

namespace Word

def publicId : Word :=
  ⟨"PUBLIC", by decide, List.all_eq_true.mp rfl⟩

def systemId : Word :=
  ⟨"SYSTEM", by decide, List.all_eq_true.mp rfl⟩

-- Announces the format of an entity that is no text.
def dataFormat : Word :=
  ⟨"NDATA", by decide, List.all_eq_true.mp rfl⟩

end Word

-- What stands between the keyword of a declaration and its end.
inductive Part where
  | gap (space : Gap)
  | word (text : Word)
  | literal (text : Quotation)
  | percent (behind : Gap)

namespace Part

def written : Part → List Char
  | .gap space => space.text
  | .word text => text.text.toList
  | .literal text => text.quote :: (text.text.toList ++ [text.quote])
  | .percent behind => '%' :: behind.text

def lexeme? : Part → Option Lexeme
  | .gap _ => none
  | .word text => some (wordLexeme text.text.toList)
  | .literal text => some (.literal text.text)
  | .percent _ => some .percent

-- No word stands directly behind another, with which it would be one word.
def areApart : List Part → Bool
  | .word _ :: .word _ :: _ => false
  | _ :: more => areApart more
  | [] => true

-- A gap that may be left out.
def optional (space : Option Gap) : List Part :=
  space.toList.map .gap

end Part

-- Where an entity is kept that a document does not hold itself.
inductive ExternalId where
  | ofSystem (before : Gap) (systemId : Quotation)
  | ofPublic (before : Gap) (publicId : Quotation) (between : Gap) (systemId : Quotation)

namespace ExternalId

def parts : ExternalId → List Part
  | .ofSystem before systemId => [.word .systemId, .gap before, .literal systemId]
  | .ofPublic before publicId between systemId =>
    [.word .publicId, .gap before, .literal publicId, .gap between, .literal systemId]

def publicId? : ExternalId → Option String
  | .ofSystem _ _ => none
  | .ofPublic _ publicId _ _ => some publicId.text

end ExternalId

-- The format of an entity that is no text, by the name of its declaration.
structure FormatMark where
  before : Gap
  between : Gap
  name : Word

def FormatMark.parts (mark : FormatMark) : List Part :=
  [.gap mark.before, .word .dataFormat, .gap mark.between, .word mark.name]

-- A general entity with its value.
structure InternalDeclaration where
  beforeName : Gap
  name : Name
  beforeValue : Gap
  value : Quotation
  beforeEnd : Option Gap

def InternalDeclaration.parts (entity : InternalDeclaration) : List Part :=
  [.gap entity.beforeName, .word entity.name.toWord, .gap entity.beforeValue,
    .literal entity.value] ++ Part.optional entity.beforeEnd

-- A general entity that is kept elsewhere.
structure ExternalDeclaration where
  beforeName : Gap
  name : Name
  beforeId : Gap
  id : ExternalId
  mark : Option FormatMark
  beforeEnd : Option Gap

def ExternalDeclaration.parts (entity : ExternalDeclaration) : List Part :=
  [.gap entity.beforeName, .word entity.name.toWord, .gap entity.beforeId] ++ entity.id.parts ++
    entity.mark.toList.flatMap FormatMark.parts ++ Part.optional entity.beforeEnd

-- What a declaration of a parameter entity gives it.
inductive ParameterContent where
  | inside (value : Quotation)
  | outside (id : ExternalId)

namespace ParameterContent

def parts : ParameterContent → List Part
  | .inside value => [.literal value]
  | .outside id => id.parts

def entity : ParameterContent → ParameterEntity
  | .inside value => .text value.text
  | .outside id => .external id.publicId?

end ParameterContent

structure ParameterDeclaration where
  beforePercent : Gap
  behindPercent : Gap
  name : Name
  beforeContent : Gap
  content : ParameterContent
  beforeEnd : Option Gap

def ParameterDeclaration.parts (entity : ParameterDeclaration) : List Part :=
  [.gap entity.beforePercent, .percent entity.behindPercent, .word entity.name.toWord,
    .gap entity.beforeContent] ++ entity.content.parts ++ Part.optional entity.beforeEnd

inductive OtherKeyword where
  | element
  | attributeList
  | format
  deriving DecidableEq, Repr

def OtherKeyword.text : OtherKeyword → List Char
  | .element => ['E', 'L', 'E', 'M', 'E', 'N', 'T']
  | .attributeList => ['A', 'T', 'T', 'L', 'I', 'S', 'T']
  | .format => ['N', 'O', 'T', 'A', 'T', 'I', 'O', 'N']

-- A declaration that is not about entities. Anything may be in the literals of its content.
structure OtherDeclaration where
  keyword : OtherKeyword
  beforeContent : Gap
  content : List Part
  apart : Part.areApart content = true

def OtherDeclaration.parts (declaration : OtherDeclaration) : List Part :=
  .gap declaration.beforeContent :: declaration.content

-- The text of a comment. Two hyphens neither come in it nor come about at its end.
structure Comment where
  text : List Char
  wellFormed : ¬['-', '-'] <:+: text ++ ['-']

-- The text of a processing instruction, up to the first end mark.
structure Instruction where
  text : List Char
  wellFormed : ¬['?', '>'] <:+: text

-- What a document type definition consists of between its conditional sections.
inductive Item where
  | gap (space : Gap)
  | internal (entity : InternalDeclaration)
  | external (entity : ExternalDeclaration)
  | parameter (entity : ParameterDeclaration)
  | other (declaration : OtherDeclaration)
  | comment (content : Comment)
  | instruction (content : Instruction)

-- A declaration as it is written.
def writeDeclaration (keyword : List Char) (parts : List Part) : List Char :=
  '<' :: '!' :: (keyword ++ (parts.flatMap Part.written ++ ['>']))

def entityKeyword : List Char :=
  ['E', 'N', 'T', 'I', 'T', 'Y']

namespace Item

def written : Item → List Char
  | .gap space => space.text
  | .internal entity => writeDeclaration entityKeyword entity.parts
  | .external entity => writeDeclaration entityKeyword entity.parts
  | .parameter entity => writeDeclaration entityKeyword entity.parts
  | .other declaration => writeDeclaration declaration.keyword.text declaration.parts
  | .comment content => '<' :: '!' :: '-' :: '-' :: (content.text ++ ['-', '-', '>'])
  | .instruction content => '<' :: '?' :: (content.text ++ ['?', '>'])

-- What an item declares about entities that are held in the document type definition.
def declared : Item → List Declaration
  | .internal entity => [.general entity.name.text entity.value.text]
  | .parameter entity => [.parameter entity.name.text entity.content.entity]
  | _ => []

-- The format of the entity that an item declares.
def format? : Item → Option String
  | .external entity => entity.mark.map (·.name.text)
  | _ => none

end Item

-- The beginning of a conditional section.
structure SectionHead where
  beforeKeyword : Option Gap
  keyword : Word
  behindKeyword : Option Gap

def SectionHead.parts (head : SectionHead) : List Part :=
  Part.optional head.beforeKeyword ++ .word head.keyword :: Part.optional head.behindKeyword

-- A document type definition. Conditional sections have definitions of their own inside.
inductive Definition where
  | nil
  | item (first : Item) (rest : Definition)
  | conditional (head : SectionHead) (inside rest : Definition)

namespace Definition

def written : Definition → List Char
  | .nil => []
  | .item first rest => first.written ++ rest.written
  | .conditional head inside rest =>
    '<' :: '!' :: '[' :: (head.parts.flatMap Part.written ++ '[' ::
      (inside.written ++ ']' :: ']' :: '>' :: rest.written))

-- The items outside of all conditional sections.
def outside : Definition → List Item
  | .nil => []
  | .item first rest => first :: rest.outside
  | .conditional _ _ rest => rest.outside

-- What a definition declares. Nothing in a conditional section counts.
def declared (definition : Definition) : List Declaration :=
  definition.outside.flatMap Item.declared

end Definition

end TemplateMarkup.Dtd
