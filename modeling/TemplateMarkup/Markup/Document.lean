import TemplateMarkup.Dtd.Doctype
import TemplateMarkup.Entities
import TemplateMarkup.EventStream
import TemplateMarkup.Markup.Binding
import TemplateMarkup.Markup.LineCursor

namespace TemplateMarkup.Markup

open Reference (byteCount)

-- What a reader of markup is told about its surroundings.
structure Surroundings where
  resource : String
  -- Gives the text of an external definition.
  fetch : String → Except Fault (Option String)

-- An element whose end tag is still to come.
structure OpenElement where
  rawName : List Char
  uri : Option String
  name : String
  -- The namespace bindings in force inside the element.
  bindings : List Binding
  deriving DecidableEq, Repr

-- How far the reading of a document has come.
structure Reading where
  position : Nat
  cursor : LineCursor
  -- The open elements, innermost first.
  openElements : List OpenElement
  entities : Entities

namespace Reading

def ofText (text : String) : Reading where
  position := 0
  cursor := LineCursor.ofText text
  openElements := []
  entities := Entities.empty

-- The bindings in force.
def bindings (reading : Reading) : List Binding :=
  match reading.openElements with
  | element :: _ => element.bindings
  | [] => standardBindings

end Reading

def malformed (around : Surroundings) (line : Nat) (cause : Malformation) : Fault :=
  .malformed cause ⟨around.resource, some line⟩

-- What the attributes of a start tag come to: bindings as events of their own, and the others.
structure TagReading where
  bindings : List PlacedEvent
  attributes : List Attribute

-- Reads one attribute behind those read before.
def readAttribute (entities : Entities) (bindings : List Binding) (line : Nat)
    (tag : TagReading) (raw : RawAttribute) : Except Malformation TagReading :=
  match Reference.expand entities.get? (String.ofList (normalizeValue raw.value)) with
  | .error fault => .error (.reference fault)
  | .ok value =>
    match bindingKey raw.key with
    | .default =>
      .ok { tag with bindings := tag.bindings ++ [⟨some line, .binding "" value⟩] }
    | .label label =>
      .ok { tag with bindings := tag.bindings ++ [⟨some line, .binding label value⟩] }
    | .none =>
      match resolveAttribute bindings raw.key with
      | .error cause => .error cause
      | .ok (uri, name) => .ok { tag with attributes := tag.attributes ++ [⟨uri, name, value⟩] }

-- Reads the attributes of a start tag. One that is malformed counts only when all before it
-- could be read.
def readAttributes (entities : Entities) (bindings : List Binding) (line : Nat)
    (content : List Char) : Except Malformation TagReading :=
  let found := tagAttributes true content
  match found.1.foldlM (readAttribute entities bindings line) ⟨[], []⟩ with
  | .error cause => .error cause
  | .ok tag =>
    match found.2 with
    | some fault => .error (.attribute fault)
    | none => .ok tag

-- The events of one piece of markup, and the reading behind it.
abbrev PieceResult := Except Fault (List PlacedEvent × Reading)

-- A start tag on the line `line`, whose end is on the line `lineAfter`. Wrong bindings are
-- noticed at the end of the tag, all else where it begins.
def readStartTag (around : Surroundings) (reading : Reading) (line lineAfter : Nat)
    (content : List Char) (isEmpty : Bool) : PieceResult :=
  match addBindings reading.bindings (tagAttributes false content).1 with
  | .error fault => .error (malformed around lineAfter (.binding fault))
  | .ok bindings =>
    match resolveElement bindings (tagName content) with
    | .error cause => .error (malformed around line cause)
    | .ok (uri, name) =>
      match readAttributes reading.entities bindings line content with
      | .error cause => .error (malformed around line cause)
      | .ok tag =>
        let start := tag.bindings ++ [⟨some line, .elementStart uri name tag.attributes⟩]
        if isEmpty then
          .ok (start ++ [⟨some lineAfter, .elementEnd uri name⟩], reading)
        else
          .ok (start, { reading with
            openElements := ⟨tagName content, uri, name, bindings⟩ :: reading.openElements })

-- An end tag, which has to repeat the name of the innermost open element.
def readEndTag (around : Surroundings) (reading : Reading) (line lineAfter : Nat)
    (name : List Char) : PieceResult :=
  match reading.openElements with
  | [] => .error (malformed around lineAfter (.unmatchedEnd (String.ofList name)))
  | element :: outer =>
    if element.rawName = name then
      .ok ([⟨some line, .elementEnd element.uri element.name⟩],
        { reading with openElements := outer })
    else
      .error (malformed around lineAfter
        (.mismatchedEnd (String.ofList element.rawName) (String.ofList name)))

-- A resource that cannot be reached is blamed on the declaration that asks for it.
def blame (location : Location) (fault : Fault) : Fault :=
  match fault with
  | .unreachableResource publicId path failure none =>
    .unreachableResource publicId path failure (some location)
  | fault => fault

def readText (around : Surroundings) (reading : Reading) (line : Nat) (raw : List Char) :
    PieceResult :=
  match Reference.expand reading.entities.get? (String.ofList raw) with
  | .error fault => .error (malformed around line (.reference fault))
  | .ok text => .ok (if text.isEmpty then [] else [⟨some line, .text text⟩], reading)

-- A document type, after what it declares has been taken in.
def doctypeEvents (around : Surroundings) (reading : Reading) (line : Nat) (doctype : Doctype)
    (taken : Entities.Intake) : PieceResult :=
  match taken.fault with
  | some fault => .error (blame ⟨around.resource, some line⟩ fault)
  | none =>
    .ok ([⟨some line, .doctypeStart doctype.name doctype.publicId doctype.systemId⟩,
      ⟨some line, .doctypeEnd⟩], { reading with entities := taken.entities })

-- A byte order mark at the very beginning is no markup, and positions do not count it.
def dropMark : List Char → List Char
  | c :: rest => if c = '\uFEFF' then rest else c :: rest
  | [] => []

-- How a reader cuts up what it reads.
structure Cutter (m : Type → Type) where
  declarations : String → m (List Dtd.Declaration)
  doctype : String → m Doctype
  moveTo : LineCursor → Nat → m LineCursor

section Cutting

variable {m : Type → Type} [Monad m] (cutter : Cutter m)

-- Goes on with the definition that a document type names, if there is no fault so far.
def takeNamedM (fetch : String → Except Fault (Option String)) (inner : Entities.Intake)
    (publicId : Option String) : m Entities.Intake :=
  match inner.fault, publicId with
  | none, some publicId => do
    let answer ← Entities.consultM cutter.declarations fetch inner.entities publicId
    return answer.intake
  | _, _ => return inner

-- Takes in what a document type declares: first the declarations in it, then those of the
-- definition that it names.
def takeDoctypeM (fetch : String → Except Fault (Option String)) (entities : Entities)
    (doctype : Doctype) : m Entities.Intake := do
  let inner ← doctype.subset.elim (pure ⟨none, entities⟩)
    (Entities.takeInM cutter.declarations fetch entities)
  takeNamedM cutter fetch inner doctype.publicId

def readDoctypeM (around : Surroundings) (reading : Reading) (line : Nat) (content : List Char) :
    m PieceResult := do
  let doctype ← cutter.doctype (String.ofList content)
  let taken ← takeDoctypeM cutter around.fetch reading.entities doctype
  return doctypeEvents around reading line doctype taken

-- Reads one chunk. The reading stands at its beginning before and at its end afterwards.
def readChunkM (around : Surroundings) (reading : Reading) (chunk : Chunk) : m PieceResult := do
  let cursor ← cutter.moveTo reading.cursor reading.position
  let stop := reading.position + byteCount chunk.raw
  let line := cursor.line
  let after ← cutter.moveTo cursor stop
  match chunk.piece with
  | .error cause => return .error (malformed around after.line cause)
  | .ok piece =>
    let moved := { reading with position := stop, cursor := cursor }
    match piece with
    | .text raw => return readText around moved line raw
    | .startTag content isEmpty => return readStartTag around moved line after.line content isEmpty
    | .endTag name => return readEndTag around moved line after.line name
    | .comment text => return .ok ([⟨some line, .comment (String.ofList text)⟩], moved)
    | .cdata text =>
      return .ok ([⟨some line, .cdataStart⟩, ⟨some line, .text (String.ofList text)⟩,
        ⟨some line, .cdataEnd⟩], moved)
    | .doctype content => readDoctypeM cutter around moved line content
    | .instruction => return .ok ([], moved)

-- Reads chunks up to the end or to the first fault.
def readChunksM (around : Surroundings) : List Chunk → Reading → m EventStream
  | [], reading => do
    let cursor ← cutter.moveTo reading.cursor reading.position
    return ⟨[⟨some cursor.line, .documentEnd⟩], none⟩
  | chunk :: more, reading => do
    match ← readChunkM cutter around reading chunk with
    | .error fault => return .failing fault (fault.location?.bind Location.line)
    | .ok (events, reading) =>
      let stream ← readChunksM around more reading
      return stream.prepend events

-- The events of a document.
def eventsM (around : Surroundings) (text : String) : m EventStream := do
  let stream ← readChunksM cutter around (chunks (dropMark text.toList)) (Reading.ofText text)
  return stream.prepend [⟨some 1, .documentStart⟩]

end Cutting

-- Cutting up that cannot go wrong.
def Cutter.plain : Cutter Id :=
  ⟨Dtd.declarations, Doctype.ofText, LineCursor.moveTo⟩

def takeDoctype (fetch : String → Except Fault (Option String)) (entities : Entities)
    (doctype : Doctype) : Entities.Intake :=
  takeDoctypeM .plain fetch entities doctype

def readDoctype (around : Surroundings) (reading : Reading) (line : Nat) (content : List Char) :
    PieceResult :=
  readDoctypeM .plain around reading line content

def readChunk (around : Surroundings) (reading : Reading) (chunk : Chunk) : PieceResult :=
  readChunkM .plain around reading chunk

def readChunks (around : Surroundings) (found : List Chunk) (reading : Reading) : EventStream :=
  readChunksM .plain around found reading

theorem readChunks_nil (around : Surroundings) (reading : Reading) :
    readChunks around [] reading =
      ⟨[⟨some (reading.cursor.moveTo reading.position).line, .documentEnd⟩], none⟩ :=
  rfl

theorem readChunks_cons (around : Surroundings) (chunk : Chunk) (more : List Chunk)
    (reading : Reading) :
    readChunks around (chunk :: more) reading =
      match readChunk around reading chunk with
      | .error fault => .failing fault (fault.location?.bind Location.line)
      | .ok (events, reading) => (readChunks around more reading).prepend events :=
  rfl

def events (around : Surroundings) (text : String) : EventStream :=
  eventsM .plain around text

theorem events_eq (around : Surroundings) (text : String) :
    events around text =
      (readChunks around (chunks (dropMark text.toList)) (Reading.ofText text)).prepend
        [⟨some 1, .documentStart⟩] :=
  rfl

end TemplateMarkup.Markup
