import Mathlib.Data.List.Forall2
import TemplateMarkup.Markup.Document

namespace TemplateMarkup.Markup

-- The namespace and the local name of an element.
abbrev ElementName := Option String × String

-- Events that lead from some open elements to others, innermost first. An end closes the
-- innermost element under its own name, bindings come only before a start, and the marks of CDATA
-- sections and document types come only around what belongs to them.
inductive Nested : List ElementName → List Event → List ElementName → Prop
  | nil (opened : List ElementName) : Nested opened [] opened
  | text {opened left : List ElementName} {rest : List Event} (text : String)
      (h : Nested opened rest left) : Nested opened (.text text :: rest) left
  | comment {opened left : List ElementName} {rest : List Event} (text : String)
      (h : Nested opened rest left) : Nested opened (.comment text :: rest) left
  | cdata {opened left : List ElementName} {rest : List Event} (text : String)
      (h : Nested opened rest left) :
      Nested opened (.cdataStart :: .text text :: .cdataEnd :: rest) left
  | doctype {opened left : List ElementName} {rest : List Event} (name : String)
      (publicId systemId : Option String) (h : Nested opened rest left) :
      Nested opened (.doctypeStart name publicId systemId :: .doctypeEnd :: rest) left
  | start {opened left : List ElementName} {rest : List Event} (bindings : List (String × String))
      (uri : Option String) (name : String) (attributes : List Attribute)
      (h : Nested ((uri, name) :: opened) rest left) :
      Nested opened (bindings.map (fun binding => .binding binding.1 binding.2) ++
        .elementStart uri name attributes :: rest) left
  | finish {opened left : List ElementName} {rest : List Event} (uri : Option String)
      (name : String) (h : Nested opened rest left) :
      Nested ((uri, name) :: opened) (.elementEnd uri name :: rest) left

namespace Nested

theorem append {opened middle left : List ElementName} {first second : List Event}
    (h : Nested opened first middle) (hs : Nested middle second left) :
    Nested opened (first ++ second) left := by
  induction h with
  | nil => exact hs
  | text text _ ih => exact .text text (ih hs)
  | comment text _ ih => exact .comment text (ih hs)
  | cdata text _ ih => exact .cdata text (ih hs)
  | doctype name publicId systemId _ ih => exact .doctype name publicId systemId (ih hs)
  | start bindings uri name attributes _ ih =>
      rw [List.append_assoc, List.cons_append]
      exact .start bindings uri name attributes (ih hs)
  | finish uri name _ ih => exact .finish uri name (ih hs)

end Nested

def isStart : Event → Bool
  | .elementStart .. => true
  | _ => false

def isEnd : Event → Bool
  | .elementEnd .. => true
  | _ => false

private theorem countP_bindings (bindings : List (String × String)) (p : Event → Bool)
    (hp : ∀ label uri, p (.binding label uri) = false) :
    (bindings.map fun binding => Event.binding binding.1 binding.2).countP p = 0 := by
  simp [List.countP_eq_zero, hp]

-- Every element that is opened is closed or stays open.
theorem Nested.count_starts {opened left : List ElementName} {events : List Event}
    (h : Nested opened events left) :
    events.countP isStart + opened.length = events.countP isEnd + left.length := by
  induction h with
  | nil => rfl
  | text _ _ ih | comment _ _ ih | cdata _ _ ih | doctype _ _ _ _ ih =>
      simpa [List.countP_cons, isStart, isEnd] using ih
  | start bindings uri name attributes _ ih =>
      have hs := countP_bindings bindings isStart fun _ _ => rfl
      have he := countP_bindings bindings isEnd fun _ _ => rfl
      simp only [List.countP_append, hs, he, List.countP_cons, isStart, isEnd, List.length_cons,
        if_true, Bool.false_eq_true, if_false] at ih ⊢
      omega
  | finish uri name _ ih =>
      simp only [List.countP_cons, isStart, isEnd, List.length_cons, if_true, Bool.false_eq_true,
        if_false]
      omega

-- The label that an attribute declares.
def declaredLabel? (raw : RawAttribute) : Option String :=
  match bindingKey raw.key with
  | .none => none
  | .default => some ""
  | .label label => some label

-- The labels that a start tag declares, in the order of its attributes.
def declaredLabels (content : List Char) : List String :=
  (tagAttributes true content).1.filterMap declaredLabel?

-- The name of a start tag without its label.
def localName (content : List Char) : String :=
  String.ofList (splitName (tagName content)).2

-- The events that a piece of a document can have. A start tag has a binding for each label that it
-- declares, and these stand directly before its own start.
inductive Yields : Piece → List Event → Prop
  | text (raw : List Char) (text : String) : Yields (.text raw) [.text text]
  | emptyText (raw : List Char) : Yields (.text raw) []
  | startTag (content : List Char) (bindings : List (String × String)) (uri : Option String)
      (attributes : List Attribute)
      (hlabels : bindings.map Prod.fst = declaredLabels content) :
      Yields (.startTag content false)
        (bindings.map (fun binding => .binding binding.1 binding.2) ++
          [.elementStart uri (localName content) attributes])
  | emptyTag (content : List Char) (bindings : List (String × String)) (uri : Option String)
      (attributes : List Attribute)
      (hlabels : bindings.map Prod.fst = declaredLabels content) :
      Yields (.startTag content true)
        (bindings.map (fun binding => .binding binding.1 binding.2) ++
          [.elementStart uri (localName content) attributes,
            .elementEnd uri (localName content)])
  | endTag (rawName : List Char) (uri : Option String) (name : String) :
      Yields (.endTag rawName) [.elementEnd uri name]
  | comment (text : List Char) : Yields (.comment text) [.comment (String.ofList text)]
  | cdata (text : List Char) :
      Yields (.cdata text) [.cdataStart, .text (String.ofList text), .cdataEnd]
  | doctype (content : List Char) (name : String) (publicId systemId : Option String) :
      Yields (.doctype content) [.doctypeStart name publicId systemId, .doctypeEnd]
  | instruction : Yields .instruction []

def Piece.isOpenTag : Piece → Bool
  | .startTag _ isEmpty => !isEmpty
  | _ => false

def Piece.isEndTag : Piece → Bool
  | .endTag _ => true
  | _ => false

-- The pieces of a text up to the first stretch that is none.
def pieces (text : String) : List Piece :=
  (chunks (dropMark text.toList)).filterMap (·.piece.toOption)

-- A piece opens an element for good or closes one exactly where it is such a tag.
theorem Yields.count_starts {piece : Piece} {events : List Event} (h : Yields piece events) :
    events.countP isStart + [piece].countP Piece.isEndTag =
      events.countP isEnd + [piece].countP Piece.isOpenTag := by
  cases h with
  | startTag content bindings uri attributes hlabels
  | emptyTag content bindings uri attributes hlabels =>
      have hs := countP_bindings bindings isStart fun _ _ => rfl
      have he := countP_bindings bindings isEnd fun _ _ => rfl
      simp [List.countP_append, List.countP_cons, hs, he, isStart, isEnd, Piece.isOpenTag,
        Piece.isEndTag]
  | _ => simp [isStart, isEnd, Piece.isOpenTag, Piece.isEndTag]

theorem count_starts_flatten {found : List Piece} {groups : List (List Event)}
    (h : List.Forall₂ Yields found groups) :
    groups.flatten.countP isStart + found.countP Piece.isEndTag =
      groups.flatten.countP isEnd + found.countP Piece.isOpenTag := by
  induction h with
  | nil => rfl
  | @cons piece group found groups hy _ ih =>
      have hc := hy.count_starts
      simp only [List.countP_cons, List.countP_nil, List.flatten_cons, List.countP_append] at hc ⊢
      omega

-- One attribute leaves a binding where it declares a label.
theorem readAttribute_bindings {entities : Entities} {bindings : List Binding} {line : Nat}
    {raw : RawAttribute} {before after : TagReading}
    (h : readAttribute entities bindings line before raw = .ok after) :
    ∃ value, after.bindings.map (·.event) = before.bindings.map (·.event) ++
      (declaredLabel? raw).toList.map fun label => .binding label value := by
  unfold readAttribute at h
  unfold declaredLabel?
  split at h
  · cases h
  · rename_i value _
    refine ⟨value, ?_⟩
    split at h
    · rename_i hkey
      cases h
      simp [hkey]
    · rename_i label hkey
      cases h
      simp [hkey]
    · rename_i hkey
      split at h
      · cases h
      · cases h
        simp [hkey]

theorem foldlM_readAttribute_bindings {entities : Entities} {bindings : List Binding} {line : Nat}
    {raws : List RawAttribute} {before after : TagReading}
    (h : raws.foldlM (readAttribute entities bindings line) before = .ok after) :
    ∃ declared : List (String × String), declared.map Prod.fst = raws.filterMap declaredLabel? ∧
      after.bindings.map (·.event) = before.bindings.map (·.event) ++
        declared.map fun binding => .binding binding.1 binding.2 := by
  induction raws generalizing before with
  | nil => cases h; exact ⟨[], rfl, by simp⟩
  | cons raw rest ih =>
      rw [List.foldlM_cons] at h
      cases hread : readAttribute entities bindings line before raw with
      | error fault => rw [hread] at h; cases h
      | ok middle =>
          rw [hread] at h
          obtain ⟨value, hfirst⟩ := readAttribute_bindings hread
          obtain ⟨declared, hlabels, hrest⟩ := ih h
          refine ⟨(declaredLabel? raw).toList.map (·, value) ++ declared, ?_, ?_⟩
          · cases hlabel : declaredLabel? raw <;> simp [hlabel, hlabels]
          · rw [hrest, hfirst]
            simp

theorem readAttributes_bindings {entities : Entities} {bindings : List Binding} {line : Nat}
    {content : List Char} {tag : TagReading}
    (h : readAttributes entities bindings line content = .ok tag) :
    ∃ declared : List (String × String), declared.map Prod.fst = declaredLabels content ∧
      tag.bindings.map (·.event) = declared.map fun binding => .binding binding.1 binding.2 := by
  unfold readAttributes at h
  dsimp only at h
  split at h
  · cases h
  · rename_i found hfold
    split at h
    · cases h
    · cases h
      exact foldlM_readAttribute_bindings hfold

theorem resolveElement_name {bindings : List Binding} {content : List Char} {uri : Option String}
    {name : String} (h : resolveElement bindings (tagName content) = .ok (uri, name)) :
    name = localName content := by
  unfold resolveElement at h
  unfold localName
  split at h
  · rename_i hsplit
    cases h
    rw [hsplit]
  · rename_i hsplit
    split at h
    · cases h
      rw [hsplit]
    · cases h

-- The names of the elements that are open in a reading.
def Reading.names (reading : Reading) : List ElementName :=
  reading.openElements.map fun element => (element.uri, element.name)

-- What the events of one piece do.
structure Reads (opened : List ElementName) (piece : Piece) (events : List PlacedEvent)
    (left : List ElementName) : Prop where
  yields : Yields piece (events.map (·.event))
  nested : Nested opened (events.map (·.event)) left

-- A start tag that can be read comes to its bindings, its start and, where it is empty, an end of
-- its own. Otherwise it leaves its element open.
theorem exists_of_readStartTag {around : Surroundings} {reading next : Reading}
    {line lineAfter : Nat} {content : List Char} {isEmpty : Bool} {events : List PlacedEvent}
    (h : readStartTag around reading line lineAfter content isEmpty = .ok (events, next)) :
    ∃ bindings tag uri name,
      addBindings reading.bindings (tagAttributes false content).1 = .ok bindings ∧
      resolveElement bindings (tagName content) = .ok (uri, name) ∧
      readAttributes reading.entities bindings line content = .ok tag ∧
      events = tag.bindings ++ ⟨some line, .elementStart uri name tag.attributes⟩ ::
        (if isEmpty then [⟨some lineAfter, .elementEnd uri name⟩] else []) ∧
      next = if isEmpty then reading else { reading with
        openElements := ⟨tagName content, uri, name, bindings⟩ :: reading.openElements } := by
  unfold readStartTag at h
  split at h
  · cases h
  · rename_i bindings hbindings
    split at h
    · cases h
    · rename_i uri name hname
      split at h
      · cases h
      · rename_i tag htag
        refine ⟨bindings, tag, uri, name, hbindings, hname, htag, ?_⟩
        cases isEmpty with
        | true => cases h; exact ⟨List.append_assoc _ _ _, rfl⟩
        | false => cases h; exact ⟨rfl, rfl⟩

theorem readStartTag_ok {around : Surroundings} {reading next : Reading} {line lineAfter : Nat}
    {content : List Char} {isEmpty : Bool} {events : List PlacedEvent}
    (h : readStartTag around reading line lineAfter content isEmpty = .ok (events, next)) :
    Reads reading.names (.startTag content isEmpty) events next.names := by
  obtain ⟨bindings, tag, uri, name, -, hname, htag, rfl, rfl⟩ := exists_of_readStartTag h
  obtain ⟨declared, hlabels, hbindings⟩ := readAttributes_bindings htag
  cases resolveElement_name hname
  cases isEmpty with
  | true =>
      constructor
      · simpa [hbindings] using .emptyTag content declared uri tag.attributes hlabels
      · simpa [hbindings] using
          Nested.start declared uri (localName content) tag.attributes
            (.finish uri (localName content) (.nil reading.names))
  | false =>
      constructor
      · simpa [hbindings] using .startTag content declared uri tag.attributes hlabels
      · simpa [hbindings, Reading.names] using
          Nested.start declared uri (localName content) tag.attributes
            (.nil ((uri, localName content) :: reading.names))

theorem readEndTag_ok {around : Surroundings} {reading next : Reading} {line lineAfter : Nat}
    {rawName : List Char} {events : List PlacedEvent}
    (h : readEndTag around reading line lineAfter rawName = .ok (events, next)) :
    Reads reading.names (.endTag rawName) events next.names := by
  unfold readEndTag at h
  split at h
  · cases h
  · rename_i element outer hopen
    split at h
    · cases h
      refine ⟨.endTag rawName element.uri element.name, ?_⟩
      simpa [Reading.names, hopen] using Nested.finish element.uri element.name (.nil _)
    · cases h

theorem exists_of_readDoctype {around : Surroundings} {reading next : Reading} {line : Nat}
    {content : List Char} {events : List PlacedEvent}
    (h : readDoctype around reading line content = .ok (events, next)) :
    ∃ doctype : Doctype,
      events = [⟨some line, .doctypeStart doctype.name doctype.publicId doctype.systemId⟩,
        ⟨some line, .doctypeEnd⟩] ∧
      next = { reading with
        entities := (takeDoctype around.fetch reading.entities doctype).entities } := by
  unfold readDoctype readDoctypeM doctypeEvents at h
  dsimp only [bind, pure, Cutter.plain] at h
  split at h
  · cases h
  · cases h
    exact ⟨_, rfl, rfl⟩

theorem readDoctype_ok {around : Surroundings} {reading next : Reading} {line : Nat}
    {content : List Char} {events : List PlacedEvent}
    (h : readDoctype around reading line content = .ok (events, next)) :
    Reads reading.names (.doctype content) events next.names := by
  obtain ⟨doctype, rfl, rfl⟩ := exists_of_readDoctype h
  exact ⟨.doctype content _ _ _, .doctype _ _ _ (.nil _)⟩

theorem readText_ok {around : Surroundings} {reading next : Reading} {line : Nat}
    {raw : List Char} {events : List PlacedEvent}
    (h : readText around reading line raw = .ok (events, next)) :
    Reads reading.names (.text raw) events next.names := by
  unfold readText at h
  split at h
  · cases h
  · rename_i text _
    cases h
    split
    · exact ⟨.emptyText raw, .nil _⟩
    · exact ⟨.text raw text, .text text (.nil _)⟩

theorem readChunk_ok {around : Surroundings} {reading next : Reading} {chunk : Chunk}
    {events : List PlacedEvent} (h : readChunk around reading chunk = .ok (events, next)) :
    ∃ piece, chunk.piece = .ok piece ∧ Reads reading.names piece events next.names := by
  unfold readChunk readChunkM at h
  dsimp only [bind, pure, Cutter.plain] at h
  split at h
  · cases h
  · rename_i piece hpiece
    refine ⟨piece, hpiece, ?_⟩
    cases piece with
    | text raw => have hr := readText_ok h; exact hr
    | startTag content isEmpty => have hr := readStartTag_ok h; exact hr
    | endTag rawName => have hr := readEndTag_ok h; exact hr
    | comment text => cases h; exact ⟨.comment text, .comment _ (.nil _)⟩
    | cdata text => cases h; exact ⟨.cdata text, .cdata _ (.nil _)⟩
    | doctype content => have hr := readDoctype_ok h; exact hr
    | instruction => cases h; exact ⟨.instruction, .nil _⟩

theorem readChunks_ok (around : Surroundings) (found : List Chunk) (reading : Reading)
    (h : (readChunks around found reading).failure = none) :
    ∃ groups left, (readChunks around found reading).events.map (·.event) =
        groups.flatten ++ [.documentEnd] ∧
      List.Forall₂ Yields (found.filterMap (·.piece.toOption)) groups ∧
      Nested reading.names groups.flatten left := by
  induction found generalizing reading with
  | nil => exact ⟨[], reading.names, rfl, .nil, .nil _⟩
  | cons chunk more ih =>
      rw [readChunks_cons] at h ⊢
      cases hread : readChunk around reading chunk with
      | error fault => rw [hread] at h; cases h
      | ok result =>
          obtain ⟨events, next⟩ := result
          rw [hread] at h
          obtain ⟨piece, hpiece, hreads⟩ := readChunk_ok hread
          obtain ⟨groups, left, hevents, hyields, hnested⟩ := ih next h
          refine ⟨events.map (·.event) :: groups, left, ?_, ?_, ?_⟩
          · simp [EventStream.prepend, hevents]
          · simp only [List.filterMap_cons, hpiece, Except.toOption]
            exact .cons hreads.yields hyields
          · simpa using hreads.nested.append hnested

-- A document that is read to its end comes as one body between the marks of the document, piece
-- by piece, with ends only of the innermost open element. No element is left open exactly where
-- the text has as many end tags as start tags that are not empty: the end of the text closes
-- nothing.
theorem events_nested {around : Surroundings} {text : String}
    (h : (events around text).failure = none) :
    ∃ groups : List (List Event),
      (events around text).events.map (·.event) =
        .documentStart :: (groups.flatten ++ [.documentEnd]) ∧
      List.Forall₂ Yields (pieces text) groups ∧
      (∃ left, Nested [] groups.flatten left) ∧
      (Nested [] groups.flatten [] ↔
        (pieces text).countP Piece.isOpenTag = (pieces text).countP Piece.isEndTag) := by
  obtain ⟨groups, left, hevents, hyields, hnested⟩ :=
    readChunks_ok around (chunks (dropMark text.toList)) (Reading.ofText text) h
  refine ⟨groups, ?_, hyields, ⟨left, hnested⟩, ?_⟩
  · simp [events_eq, EventStream.prepend, hevents]
  · have hc := count_starts_flatten hyields
    change groups.flatten.countP isStart + (pieces text).countP Piece.isEndTag =
      groups.flatten.countP isEnd + (pieces text).countP Piece.isOpenTag at hc
    constructor
    · intro hn
      have hs := hn.count_starts
      omega
    · intro he
      have hs := hnested.count_starts
      have hl : left.length = 0 := by
        simp only [Reading.names, Reading.ofText, List.map_nil, List.length_nil] at hs
        omega
      rw [List.length_eq_zero_iff.mp hl] at hnested
      exact hnested

theorem events_nested_closed :
    let stream := events ⟨"T.tml", fun _ => .ok none⟩ "<a xmlns='u'><b/><![CDATA[x]]></a>"
    stream.failure = none ∧ ∃ groups : List (List Event),
      stream.events.map (·.event) = .documentStart :: (groups.flatten ++ [.documentEnd]) ∧
      List.Forall₂ Yields (pieces "<a xmlns='u'><b/><![CDATA[x]]></a>") groups ∧
      (∃ left, Nested [] groups.flatten left) ∧
      (Nested [] groups.flatten [] ↔
        (pieces "<a xmlns='u'><b/><![CDATA[x]]></a>").countP Piece.isOpenTag =
          (pieces "<a xmlns='u'><b/><![CDATA[x]]></a>").countP Piece.isEndTag) :=
  have h : (events ⟨"T.tml", fun _ => .ok none⟩
      "<a xmlns='u'><b/><![CDATA[x]]></a>").failure = none := by decide +kernel
  ⟨h, events_nested h⟩

-- A document that stops inside an element is read without a fault, and the element stays open.
theorem events_unclosed :
    (events ⟨"T.tml", fun _ => .ok none⟩ "<p>").failure = none ∧
      (events ⟨"T.tml", fun _ => .ok none⟩ "<p>").events.map (·.event) =
        [.documentStart, .elementStart none "p" [], .documentEnd] ∧
      ¬Nested [] [.elementStart none "p" []] [] := by
  refine ⟨by decide +kernel, by decide +kernel, fun hn => ?_⟩
  have hs := hn.count_starts
  simp [isStart, isEnd] at hs

end TemplateMarkup.Markup
