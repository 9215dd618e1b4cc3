import TemplateMarkup.Proofs.Markup.WrittenTag
import TemplateMarkup.Proofs.Tree.Forest

namespace TemplateMarkup

open Markup

-- A start tag that can be written without declaring a namespace.
structure StartTag.IsWritable (tag : StartTag) : Prop where
  declarations : tag.declarations = []
  uri : tag.uri = none
  name : IsWord tag.name.toList
  attributes : ∀ attr ∈ tag.attributes, IsBare attr
  distinct : (tag.attributes.map (·.name)).Nodup

namespace Forest

-- The nodes as a text. Where `short` is set, an element without children is written as one tag.
def written (short : Bool) : Forest → List Char
  | .nil => []
  | .element tag children _ rest =>
    (if short = true ∧ children = .nil then writeEmptyTag tag.name tag.attributes
      else writeStartTag tag.name tag.attributes ++ children.written short ++
        writeEndTag tag.name) ++ rest.written short
  | .text _ content rest => content.toList.flatMap (escape textEscapes) ++ rest.written short
  | .comment _ content rest => writeComment content.toList ++ rest.written short
  | .cdata _ _ _ content rest => writeCdata content.toList ++ rest.written short

-- The nodes that can be told apart again in what is written. Comments are allowed more than they
-- are in documents, where they may not have two hyphens together or one at their end.
def IsWritable : Forest → Prop
  | .nil => True
  | .element tag children _ rest => tag.IsWritable ∧ children.IsWritable ∧ rest.IsWritable
  | .text _ content rest => content ≠ "" ∧ rest.leadingText = "" ∧ rest.IsWritable
  | .comment _ content rest => ¬['-', '-', '>'] <:+: content.toList ∧ rest.IsWritable
  | .cdata _ _ _ content rest => ¬[']', ']', '>'] <:+: content.toList ∧ rest.IsWritable

end Forest

theorem StartTag.IsWritable.closesQuotes {tag : StartTag} (h : tag.IsWritable) :
    (writeTag tag.name tag.attributes).foldlM stopsUnquoted none = some none :=
  foldlM_stopsUnquoted_writeTag h.name fun attr hattr => (h.attributes attr hattr).name

namespace Markup

-- The reading behind a stretch, before its events are looked at.
def Reading.moved (reading : Reading) (raw : List Char) : Reading :=
  { reading with
    position := reading.position + Reference.byteCount raw
    cursor := reading.cursor.moveTo reading.position }

-- A reader with the elements `opened` goes over what is written, gives the events `given` and has
-- the elements `left` open then. What stands behind counts, as text goes on into it.
def ReadsTo (opened : List OpenElement) (written : List Char) (given : List Event)
    (left : List OpenElement) (behind : List Char) : Prop :=
  ∀ around reading, reading.openElements = opened → ∃ placed next,
    next.openElements = left ∧ placed.map (·.event) = given ∧
      readChunks around (chunks (written ++ behind)) reading =
        (readChunks around (chunks behind) next).prepend placed

theorem readText_escaped {content : String} (hne : content ≠ "") (around : Surroundings)
    (reading : Reading) (line : Nat) :
    readText around reading line (content.toList.flatMap (escape textEscapes)) =
      .ok ([⟨some line, .text content⟩], reading) := by
  simp only [readText, areTakenBack_text.expand_flatMap]
  rw [if_neg (by simpa using hne)]

theorem readEndTag_innermost (around : Surroundings) (reading : Reading) {element : OpenElement}
    {outer : List OpenElement} (h : reading.openElements = element :: outer)
    (line lineAfter : Nat) :
    readEndTag around reading line lineAfter element.rawName =
      .ok ([⟨some line, .elementEnd element.uri element.name⟩],
        { reading with openElements := outer }) := by
  simp only [readEndTag, h, if_true]

namespace ReadsTo

variable {opened middle left : List OpenElement} {first second behind : List Char}

theorem nil : ReadsTo opened [] [] opened behind := by
  intro around reading hopened
  exact ⟨[], reading, hopened, rfl, rfl⟩

theorem append {firstGiven secondGiven : List Event}
    (h : ReadsTo opened first firstGiven middle (second ++ behind))
    (hs : ReadsTo middle second secondGiven left behind) :
    ReadsTo opened (first ++ second) (firstGiven ++ secondGiven) left behind := by
  intro around reading hopened
  obtain ⟨placed, next, hmiddle, hplaced, hread⟩ := h around reading hopened
  obtain ⟨more, last, hleft, hmore, hrest⟩ := hs around next hmiddle
  refine ⟨placed ++ more, last, hleft, by rw [List.map_append, hplaced, hmore], ?_⟩
  rw [List.append_assoc, hread, hrest]
  simp [EventStream.prepend]

-- What one piece is read as.
theorem of_cutsTo {written : List Char} {piece : Piece} {given : List Event}
    (hcut : CutsTo written piece behind)
    (hread : ∀ around reading raw, reading.openElements = opened → ∃ placed next,
      readChunk around reading ⟨raw, .ok piece, behind⟩ = .ok (placed, next) ∧
        next.openElements = left ∧ placed.map (·.event) = given) :
    ReadsTo opened written given left behind := by
  intro around reading hopened
  obtain ⟨raw, hchunks⟩ := hcut
  obtain ⟨placed, next, hpiece, hleft, hplaced⟩ := hread around reading raw hopened
  refine ⟨placed, next, hleft, hplaced, ?_⟩
  simp only [hchunks, readChunks_cons, hpiece]

theorem text {content : String} (hne : content ≠ "") (hbehind : ∀ c ∈ behind.head?, c = '<') :
    ReadsTo opened (content.toList.flatMap (escape textEscapes)) [.text content] opened behind := by
  have hlt : '<' ∉ content.toList.flatMap (escape textEscapes) :=
    notMem_flatMap_escape (by decide) (by decide) content.toList
  have hwritten : content.toList.flatMap (escape textEscapes) ≠ [] := by
    obtain ⟨c, hc⟩ := List.exists_mem_of_ne_nil content.toList (by simpa using hne)
    intro hnil
    exact escape_ne_nil textEscapes c (List.flatMap_eq_nil_iff.mp hnil c hc)
  refine of_cutsTo (cutsTo_text hwritten hlt hbehind) fun around reading raw hopened => ?_
  exact ⟨_, _, readText_escaped hne around _ _, hopened, rfl⟩

theorem comment {content : String} (h : ¬['-', '-', '>'] <:+: content.toList) :
    ReadsTo opened (writeComment content.toList) [.comment content] opened behind := by
  refine of_cutsTo (cutsTo_comment h behind) fun around reading raw hopened => ?_
  exact ⟨_, _, rfl, hopened, by rw [String.ofList_toList]; rfl⟩

theorem cdata {content : String} (h : ¬[']', ']', '>'] <:+: content.toList) :
    ReadsTo opened (writeCdata content.toList) [.cdataStart, .text content, .cdataEnd] opened
      behind := by
  refine of_cutsTo (cutsTo_cdata h behind) fun around reading raw hopened => ?_
  exact ⟨_, _, rfl, hopened, by rw [String.ofList_toList]; rfl⟩

theorem endTag {name : String} (hname : IsWord name.toList) :
    ReadsTo (⟨name.toList, none, name, standardBindings⟩ :: opened)
      (writeEndTag name) [.elementEnd none name] opened behind := by
  refine of_cutsTo (cutsTo_endTag hname behind) fun around reading raw hopened => ?_
  have hread := readEndTag_innermost around (reading.moved raw) hopened
  exact ⟨_, _, hread _ _, rfl, rfl⟩

section Tags

variable {tag : StartTag}

theorem bindings_of_openElements {reading : Reading} (h : reading.openElements = opened)
    (hopened : ∀ element ∈ opened.head?, element.bindings = standardBindings) :
    reading.bindings = standardBindings := by
  rw [Reading.bindings, h]
  cases opened with
  | nil => rfl
  | cons element outer => exact hopened element rfl

theorem emptyTag (htag : tag.IsWritable)
    (hopened : ∀ element ∈ opened.head?, element.bindings = standardBindings) :
    ReadsTo opened (writeEmptyTag tag.name tag.attributes)
      [.elementStart none tag.name tag.attributes, .elementEnd none tag.name] opened behind := by
  have hcut := cutsTo_emptyTag (writeTag_first htag.name tag.attributes) htag.closesQuotes behind
  refine of_cutsTo hcut fun around reading raw hreading => ?_
  have hread := readStartTag_writeTag htag.name htag.attributes htag.distinct around
    (reading.moved raw) (bindings_of_openElements hreading hopened)
  exact ⟨_, _, (hread _ _).1, hreading, rfl⟩

theorem startTag (htag : tag.IsWritable)
    (hopened : ∀ element ∈ opened.head?, element.bindings = standardBindings) :
    ReadsTo opened (writeStartTag tag.name tag.attributes)
      [.elementStart none tag.name tag.attributes]
      (⟨tag.name.toList, none, tag.name, standardBindings⟩ :: opened) behind := by
  have hcut := cutsTo_startTag (writeTag_first htag.name tag.attributes) htag.closesQuotes
    (getLast?_writeTag htag.name tag.attributes) behind
  refine of_cutsTo hcut fun around reading raw hreading => ?_
  have hread := readStartTag_writeTag htag.name htag.attributes htag.distinct around
    (reading.moved raw) (bindings_of_openElements hreading hopened)
  exact ⟨_, _, (hread _ _).2, congrArg (_ :: ·) hreading, rfl⟩

end Tags

end ReadsTo

-- What is written for nodes that do not begin with text begins with a tag, or it is nothing.
theorem head_written {short : Bool} {forest : Forest} (behind : List Char)
    (h : forest.IsWritable) (htext : forest.leadingText = "")
    (hbehind : ∀ c ∈ behind.head?, c = '<') :
    ∀ c ∈ (forest.written short ++ behind).head?, c = '<' := by
  cases forest with
  | nil => exact hbehind
  | element tag children endLine rest =>
      rw [Forest.written]
      split <;> (rintro c ⟨⟩; rfl)
  | text line content rest =>
      rw [Forest.leadingText, String.append_eq_empty_iff] at htext
      exact absurd htext.1 h.1
  | comment line content rest =>
      rintro c ⟨⟩
      rfl
  | cdata startLine textLine endLine content rest =>
      rintro c ⟨⟩
      rfl

theorem dropMark_eq_self {text : List Char} (h : ∀ c ∈ text.head?, c = '<') :
    dropMark text = text := by
  cases text with
  | nil => rfl
  | cons c rest =>
      cases h c rfl
      rfl

-- Nodes are read back, one by one, and all their elements are closed again.
theorem readsTo_written (short : Bool) {forest : Forest} (h : forest.IsWritable)
    (opened : List OpenElement) (behind : List Char)
    (hopened : ∀ element ∈ opened.head?, element.bindings = standardBindings)
    (hbehind : ∀ c ∈ behind.head?, c = '<') :
    ReadsTo opened (forest.written short) (forest.events.map (·.event)) opened behind := by
  induction forest generalizing opened behind with
  | nil => exact .nil
  | element tag children endLine rest ihChildren ihRest =>
      obtain ⟨htag, hchildren, hrest⟩ := h
      have hafter := ihRest hrest opened behind hopened hbehind
      rw [Forest.written, Forest.events]
      split
      · rename_i hempty
        rw [hempty.2]
        simpa [Forest.events, htag.declarations, htag.uri] using
          (ReadsTo.emptyTag htag hopened).append hafter
      · have hinside := ihChildren hchildren
          (⟨tag.name.toList, none, tag.name, standardBindings⟩ :: opened)
          (writeEndTag tag.name ++ (rest.written short ++ behind))
          (by rintro element ⟨⟩; rfl) (by rintro c ⟨⟩; rfl)
        have hwhole := ((ReadsTo.startTag htag hopened).append hinside).append
          (ReadsTo.endTag htag.name)
        simpa [htag.declarations, htag.uri] using hwhole.append hafter
  | text line content rest ih =>
      obtain ⟨hne, htext, hrest⟩ := h
      exact (ReadsTo.text hne (head_written behind hrest htext hbehind)).append
        (ih hrest opened behind hopened hbehind)
  | comment line content rest ih =>
      exact (ReadsTo.comment h.1).append (ih h.2 opened behind hopened hbehind)
  | cdata startLine textLine endLine content rest ih =>
      exact (ReadsTo.cdata h.1).append (ih h.2 opened behind hopened hbehind)

-- A document that is written and read again is the same, whatever definitions the reader can
-- reach and whether or not elements without children are written as one tag.
theorem events_written (around : Surroundings) (short : Bool) {tag : StartTag} {children : Forest}
    {endLine : Option Nat} (h : (Forest.element tag children endLine .nil).IsWritable) :
    let root := Forest.element tag children endLine .nil
    let stream := events around (String.ofList (root.written short))
    stream.failure = none ∧
      stream.events.map (·.event) =
        .documentStart :: (root.events.map (·.event) ++ [.documentEnd]) := by
  intro root stream
  obtain ⟨placed, next, -, hplaced, hread⟩ :=
    readsTo_written short h [] [] (by rintro element ⟨⟩) (by rintro c ⟨⟩) around
      (Reading.ofText (String.ofList (root.written short))) rfl
  have hmark : dropMark (String.ofList (root.written short)).toList = root.written short ++ [] := by
    rw [String.toList_ofList, List.append_nil]
    exact dropMark_eq_self (by simpa using head_written [] h rfl (by rintro c ⟨⟩))
  have hstream : stream = ((readChunks around (chunks []) next).prepend placed).prepend
      [⟨some 1, .documentStart⟩] := by
    rw [← hread, ← hmark]
    rfl
  rw [hstream, chunks]
  refine ⟨rfl, ?_⟩
  simp [EventStream.prepend, readChunks_nil, hplaced, root]

theorem events_written_page :
    let root := Forest.element ⟨[], none, none, "a", [⟨none, "x", "\"<\t>&'/"⟩]⟩
      (.text none "&lt; ]]>\r\n" (.comment none "->" (.cdata none none none "<&]"
        (.element ⟨[], none, none, "b", []⟩ .nil none .nil)))) none .nil
    let stream := events ⟨"T.tml", fun _ => .ok none⟩ (String.ofList (root.written true))
    root.IsWritable ∧ stream.failure = none ∧
      stream.events.map (·.event) =
        .documentStart :: (root.events.map (·.event) ++ [.documentEnd]) := by
  have hinner : StartTag.IsWritable ⟨[], none, none, "b", []⟩ :=
    ⟨rfl, rfl, ⟨by decide, List.all_eq_true.mp rfl⟩, fun attr h => (by cases h), .nil⟩
  have hattr : IsBare ⟨none, "x", "\"<\t>&'/"⟩ :=
    ⟨rfl, ⟨by decide, List.all_eq_true.mp rfl⟩, by decide⟩
  have houter : StartTag.IsWritable ⟨[], none, none, "a", [⟨none, "x", "\"<\t>&'/"⟩]⟩ :=
    ⟨rfl, rfl, ⟨by decide, List.all_eq_true.mp rfl⟩,
      fun attr h => List.mem_singleton.mp h ▸ hattr, by decide⟩
  intro root stream
  have h : root.IsWritable :=
    ⟨houter, ⟨by decide, rfl, by decide, by decide, hinner, trivial, trivial⟩, trivial⟩
  exact ⟨h, events_written _ true h⟩

end Markup

end TemplateMarkup
