import TemplateMarkup.Proofs.Markup.Nesting
import TemplateMarkup.Proofs.Markup.Values

namespace TemplateMarkup.Markup

variable {entities : Entities} {bindings : List Binding} {line : Nat} {around : Surroundings}

section Tags

variable {raw : RawAttribute} {raws : List RawAttribute} {tag next : TagReading}
  {content : List Char} {cause : Malformation}

def RawAttribute.isDeclaration (raw : RawAttribute) : Bool :=
  bindingKey raw.key ≠ .none

-- A value is what an attribute says, and it says nothing else.
def IsValueOf (entities : Entities) (raw : RawAttribute) (value : String) : Prop :=
  ∀ text, Says entities.get? raw.value text ↔ text = value.toList

theorem isValueOf_iff (hwords : entities.Worded) {value : String} :
    IsValueOf entities raw value ↔
      Reference.expand entities.get? (String.ofList (normalizeValue raw.value)) = .ok value := by
  constructor
  · intro h
    exact (expand_normalizeValue_iff hwords).mpr ((h value.toList).mpr rfl)
  · intro h text
    rw [← String.toList_ofList (l := text), ← expand_normalizeValue_iff hwords, h,
      Except.ok.injEq, String.toList_inj]
    exact eq_comm

-- The attributes of a tag are reported with their names and values in the order in which they are
-- written, those that declare namespaces as bindings of their own.
structure Reports (entities : Entities) (bindings : List Binding) (raws : List RawAttribute)
    (tag : TagReading) : Prop where
  declarations : List.Forall₂
    (fun raw placed => ∃ label uri, placed.event = .binding label uri ∧ IsValueOf entities raw uri)
    (raws.filter (·.isDeclaration)) tag.bindings
  attributes : List.Forall₂
    (fun raw attr => resolveAttribute bindings raw.key = .ok (attr.uri, attr.name) ∧
      IsValueOf entities raw attr.value)
    (raws.filter (!·.isDeclaration)) tag.attributes

theorem Reports.read (hwords : entities.Worded) (h : Reports entities bindings raws tag)
    (hread : readAttribute entities bindings line tag raw = .ok next) :
    Reports entities bindings (raws ++ [raw]) next := by
  unfold readAttribute at hread
  cases hvalue : Reference.expand entities.get? (String.ofList (normalizeValue raw.value)) with
  | error fault => rw [hvalue] at hread; cases hread
  | ok value =>
      rw [hvalue] at hread
      have hmeant := (isValueOf_iff hwords).mpr hvalue
      have hbinding : ∀ label, raw.isDeclaration = true →
          Reports entities bindings (raws ++ [raw])
            { tag with bindings := tag.bindings ++ [⟨some line, .binding label value⟩] } := by
        intro label hdeclares
        constructor
        · rw [List.filter_append, List.filter_singleton, hdeclares]
          exact List.rel_append h.declarations (.cons ⟨label, value, rfl, hmeant⟩ .nil)
        · rw [List.filter_append, List.filter_singleton, hdeclares]
          simpa using h.attributes
      cases hkey : bindingKey raw.key with
      | default =>
          rw [hkey] at hread
          cases hread
          exact hbinding "" (by simp [RawAttribute.isDeclaration, hkey])
      | label label =>
          rw [hkey] at hread
          cases hread
          exact hbinding label (by simp [RawAttribute.isDeclaration, hkey])
      | none =>
          have hdeclares : raw.isDeclaration = false := by simp [RawAttribute.isDeclaration, hkey]
          rw [hkey] at hread
          dsimp only at hread
          split at hread
          · cases hread
          · rename_i hname
            cases hread
            constructor
            · rw [List.filter_append, List.filter_singleton, hdeclares]
              simpa using h.declarations
            · rw [List.filter_append, List.filter_singleton, hdeclares]
              exact List.rel_append h.attributes (.cons ⟨hname, hmeant⟩ .nil)

theorem Reports.readAll {earlier : List RawAttribute} (hwords : entities.Worded)
    (h : Reports entities bindings earlier tag)
    (hread : raws.foldlM (readAttribute entities bindings line) tag = .ok next) :
    Reports entities bindings (earlier ++ raws) next := by
  induction raws generalizing earlier tag with
  | nil =>
      cases hread
      rwa [List.append_nil]
  | cons raw rest ih =>
      rw [List.foldlM_cons] at hread
      cases hfirst : readAttribute entities bindings line tag raw with
      | error cause => rw [hfirst] at hread; cases hread
      | ok middle =>
          rw [hfirst] at hread
          have hrest := ih (h.read hwords hfirst) hread
          rwa [List.append_assoc] at hrest

theorem reports_readAttributes (hwords : entities.Worded)
    (h : readAttributes entities bindings line content = .ok tag) :
    Reports entities bindings (tagAttributes true content).1 tag := by
  unfold readAttributes at h
  dsimp only at h
  split at h
  · cases h
  · rename_i found hfold
    split at h
    · cases h
    · cases h
      have hnone : Reports entities bindings [] ⟨[], []⟩ := ⟨.nil, .nil⟩
      exact hnone.readAll hwords hfold

-- What is wrong with a single attribute: its value says nothing, or the label of its name is not
-- bound.
inductive AttributeFails (entities : Entities) (bindings : List Binding) (raw : RawAttribute) :
    Malformation → Prop
  | value {fault : ReferenceFault} (h : ∀ text, ¬ Says entities.get? raw.value text) :
      AttributeFails entities bindings raw (.reference fault)
  | name {cause : Malformation} (hplain : raw.isDeclaration = false)
      (h : resolveAttribute bindings raw.key = .error cause) :
      AttributeFails entities bindings raw cause

theorem attributeFails_of_readAttribute (hwords : entities.Worded)
    (h : readAttribute entities bindings line tag raw = .error cause) :
    AttributeFails entities bindings raw cause := by
  unfold readAttribute at h
  cases hvalue : Reference.expand entities.get? (String.ofList (normalizeValue raw.value)) with
  | error fault =>
      rw [hvalue] at h
      cases h
      refine .value fun text hsays => ?_
      rw [← String.toList_ofList (l := text), ← expand_normalizeValue_iff hwords, hvalue] at hsays
      cases hsays
  | ok value =>
      rw [hvalue] at h
      dsimp only at h
      split at h
      · cases h
      · cases h
      · rename_i hkey
        split at h
        · rename_i hname
          cases h
          exact .name (by simp [RawAttribute.isDeclaration, hkey]) hname
        · cases h

theorem exists_attributeFails (hwords : entities.Worded)
    (h : raws.foldlM (readAttribute entities bindings line) tag = .error cause) :
    ∃ raw ∈ raws, AttributeFails entities bindings raw cause := by
  induction raws generalizing tag with
  | nil => cases h
  | cons raw rest ih =>
      rw [List.foldlM_cons] at h
      cases hfirst : readAttribute entities bindings line tag raw with
      | error found =>
          rw [hfirst] at h
          cases h
          exact ⟨raw, List.mem_cons_self, attributeFails_of_readAttribute hwords hfirst⟩
      | ok middle =>
          rw [hfirst] at h
          obtain ⟨other, hm, hfails⟩ := ih h
          exact ⟨other, List.mem_cons_of_mem raw hm, hfails⟩

-- What can be wrong with a start tag, where `outer` are the bindings around it: a binding that is
-- not allowed, a label of its name that is not bound, one of its attributes, or what stands behind
-- the last one of them.
inductive TagFails (entities : Entities) (outer : List Binding) (content : List Char) :
    Malformation → Prop
  | binding {fault : BindingFault}
      (h : addBindings outer (tagAttributes false content).1 = .error fault) :
      TagFails entities outer content (.binding fault)
  | name {bindings : List Binding} {cause : Malformation}
      (hbindings : addBindings outer (tagAttributes false content).1 = .ok bindings)
      (h : resolveElement bindings (tagName content) = .error cause) :
      TagFails entities outer content cause
  | attribute {bindings : List Binding} {raw : RawAttribute} {cause : Malformation}
      (hbindings : addBindings outer (tagAttributes false content).1 = .ok bindings)
      (hmem : raw ∈ (tagAttributes true content).1)
      (h : AttributeFails entities bindings raw cause) : TagFails entities outer content cause
  | behind {fault : AttributeFault} (h : (tagAttributes true content).2 = some fault) :
      TagFails entities outer content (.attribute fault)

theorem tagFails_of_readStartTag {reading : Reading} {lineAfter : Nat} {isEmpty : Bool}
    {fault : Fault}
    (h : readStartTag around reading line lineAfter content isEmpty = .error fault)
    (hwords : reading.entities.Worded) :
    ∃ found cause, fault = malformed around found cause ∧
      TagFails reading.entities reading.bindings content cause := by
  unfold readStartTag at h
  split at h
  · rename_i hbindings
    cases h
    exact ⟨lineAfter, _, rfl, .binding hbindings⟩
  · rename_i bindings hbindings
    split at h
    · rename_i hname
      cases h
      exact ⟨line, _, rfl, .name hbindings hname⟩
    · split at h
      · rename_i cause hread
        cases h
        refine ⟨line, cause, rfl, ?_⟩
        unfold readAttributes at hread
        dsimp only at hread
        split at hread
        · rename_i hfold
          cases hread
          obtain ⟨raw, hmem, hfails⟩ := exists_attributeFails hwords hfold
          exact .attribute hbindings hmem hfails
        · split at hread
          · rename_i hbehind
            cases hread
            exact .behind hbehind
          · cases hread
      · dsimp only at h
        split at h <;> cases h

end Tags

section Document

variable {reading next : Reading} {chunk : Chunk} {own : List PlacedEvent} {fault : Fault}

-- Chunks read one after the other, with all their events.
def readInTurn (around : Surroundings) : List Chunk → Reading → PieceResult
  | [], reading => .ok ([], reading)
  | chunk :: more, reading =>
    match readChunk around reading chunk with
    | .error fault => .error fault
    | .ok (own, next) => (readInTurn around more next).map fun result => (own ++ result.1, result.2)

theorem exists_of_readInTurn {more : List Chunk}
    (h : readInTurn around (chunk :: more) reading = .ok (own, next)) :
    ∃ first middle later, readChunk around reading chunk = .ok (first, middle) ∧
      readInTurn around more middle = .ok (later, next) ∧ own = first ++ later := by
  rw [readInTurn] at h
  split at h
  · cases h
  · rename_i first middle hfirst
    cases hlater : readInTurn around more middle with
    | error fault => rw [hlater] at h; cases h
    | ok result =>
        rw [hlater] at h
        cases h
        exact ⟨first, middle, result.1, hfirst, hlater, rfl⟩

theorem readChunks_append {front : List Chunk}
    (h : readInTurn around front reading = .ok (own, next)) (rest : List Chunk) :
    readChunks around (front ++ rest) reading = (readChunks around rest next).prepend own := by
  induction front generalizing reading own with
  | nil => cases h; rfl
  | cons chunk more ih =>
      obtain ⟨first, middle, later, hfirst, hlater, rfl⟩ := exists_of_readInTurn h
      rw [List.cons_append, readChunks_cons, hfirst]
      dsimp only
      rw [ih hlater]
      simp [EventStream.prepend]

theorem worded_readChunk (hwords : reading.entities.Worded)
    (h : readChunk around reading chunk = .ok (own, next)) : next.entities.Worded := by
  unfold readChunk readChunkM at h
  dsimp only [bind, pure, Cutter.plain] at h
  split at h
  · cases h
  · split at h
    · unfold readText at h
      split at h
      · cases h
      · cases h; exact hwords
    · obtain ⟨-, -, -, -, -, -, -, -, rfl⟩ := exists_of_readStartTag h
      split <;> exact hwords
    · unfold readEndTag at h
      split at h
      · cases h
      · split at h
        · cases h; exact hwords
        · cases h
    · cases h; exact hwords
    · cases h; exact hwords
    · obtain ⟨doctype, -, rfl⟩ := exists_of_readDoctype h
      exact hwords.takeDoctype doctype
    · cases h; exact hwords

theorem worded_readInTurn {front : List Chunk} (hwords : reading.entities.Worded)
    (h : readInTurn around front reading = .ok (own, next)) : next.entities.Worded := by
  induction front generalizing reading own with
  | nil => cases h; exact hwords
  | cons chunk more ih =>
      obtain ⟨first, middle, later, hfirst, hlater, -⟩ := exists_of_readInTurn h
      exact ih (worded_readChunk hwords hfirst) hlater

theorem reports_readChunk {content : List Char} {isEmpty : Bool} (hwords : reading.entities.Worded)
    (htag : chunk.piece = .ok (.startTag content isEmpty))
    (h : readChunk around reading chunk = .ok (own, next)) :
    ∃ bindings tag uri name line lineAfter,
      addBindings reading.bindings (tagAttributes false content).1 = .ok bindings ∧
      resolveElement bindings (tagName content) = .ok (uri, name) ∧
      own = tag.bindings ++ ⟨some line, .elementStart uri name tag.attributes⟩ ::
        (if isEmpty then [⟨some lineAfter, .elementEnd uri name⟩] else []) ∧
      Reports reading.entities bindings (tagAttributes true content).1 tag := by
  unfold readChunk readChunkM at h
  rw [htag] at h
  obtain ⟨bindings, tag, uri, name, hbindings, hname, hread, hown, -⟩ := exists_of_readStartTag h
  exact ⟨bindings, tag, uri, name, _, _, hbindings, hname, hown,
    reports_readAttributes hwords hread⟩

theorem tagFails_of_readChunk {content : List Char} {isEmpty : Bool}
    (hwords : reading.entities.Worded) (htag : chunk.piece = .ok (.startTag content isEmpty))
    (h : readChunk around reading chunk = .error fault) :
    ∃ line cause, fault = malformed around line cause ∧
      TagFails reading.entities reading.bindings content cause := by
  unfold readChunk readChunkM at h
  rw [htag] at h
  have hfails := tagFails_of_readStartTag h hwords
  exact hfails

-- Of every start tag that reading comes to, each attribute is reported with what its stretches and
-- references say, in the order in which the attributes are written. If reading ends at the tag, a
-- binding, a name, a value that says nothing or what stands behind the attributes is at fault.
theorem events_values (around : Surroundings) (text : String) {front more : List Chunk}
    {chunk : Chunk} {content : List Char} {isEmpty : Bool}
    (hchunks : chunks (dropMark text.toList) = front ++ chunk :: more)
    (htag : chunk.piece = .ok (.startTag content isEmpty))
    {before : List PlacedEvent} {reading : Reading}
    (hfront : readInTurn around front (Reading.ofText text) = .ok (before, reading)) :
    let raws := (tagAttributes true content).1
    let stream := events around text
    (∃ bindings tag uri name line lineAfter later,
      addBindings reading.bindings (tagAttributes false content).1 = .ok bindings ∧
      resolveElement bindings (tagName content) = .ok (uri, name) ∧
      stream.events = ⟨some 1, .documentStart⟩ :: before ++
        (tag.bindings ++ ⟨some line, .elementStart uri name tag.attributes⟩ ::
          (if isEmpty then [⟨some lineAfter, .elementEnd uri name⟩] else [])) ++ later ∧
      Reports reading.entities bindings raws tag) ∨
    ∃ line cause, TagFails reading.entities reading.bindings content cause ∧
      stream.events = ⟨some 1, .documentStart⟩ :: before ∧
      stream.failure = some ⟨malformed around line cause, some line⟩ := by
  intro raws stream
  have hwords := worded_readInTurn Entities.worded_empty hfront
  have hstream : stream = ((readChunks around (chunk :: more) reading).prepend before).prepend
      [⟨some 1, .documentStart⟩] := by
    simp only [stream, events_eq, hchunks, readChunks_append hfront]
  rw [readChunks_cons] at hstream
  cases hread : readChunk around reading chunk with
  | error fault =>
      rw [hread] at hstream
      obtain ⟨line, cause, rfl, hfails⟩ := tagFails_of_readChunk hwords htag hread
      refine .inr ⟨line, cause, hfails, ?_, ?_⟩
      · rw [hstream]
        simp [EventStream.prepend, EventStream.failing]
      · rw [hstream]
        rfl
  | ok result =>
      obtain ⟨own, next⟩ := result
      rw [hread] at hstream
      obtain ⟨bindings, tag, uri, name, line, lineAfter, hbindings, hname, rfl, hreports⟩ :=
        reports_readChunk hwords htag hread
      refine .inl ⟨bindings, tag, uri, name, line, lineAfter,
        (readChunks around more next).events, hbindings, hname, ?_, hreports⟩
      rw [hstream]
      simp [EventStream.prepend]

-- White space of all kinds next to references that stand for white space, in an attribute and in
-- what declares a namespace.
def brokenTag : String :=
  "p xmlns='a\r\nb' title='x\r\n\ty&#9;\r&gap;\n&lt;'"

def brokenValues : String :=
  "<!DOCTYPE p [<!ENTITY gap '&#13;&#10;'>]><" ++ brokenTag ++ "/>"

theorem events_values_broken :
    let around : Surroundings := ⟨"T.tml", fun _ => .ok none⟩
    let found := chunks (dropMark brokenValues.toList)
    ∃ chunk before reading,
      found = found.take 1 ++ [chunk] ∧
      chunk.piece = .ok (.startTag brokenTag.toList true) ∧
      readInTurn around (found.take 1) (Reading.ofText brokenValues) = .ok (before, reading) ∧
      (∃ bindings tag uri name line lineAfter later,
        addBindings reading.bindings (tagAttributes false brokenTag.toList).1 = .ok bindings ∧
        resolveElement bindings (tagName brokenTag.toList) = .ok (uri, name) ∧
        (events around brokenValues).events = ⟨some 1, .documentStart⟩ :: before ++
          (tag.bindings ++ [⟨some line, .elementStart uri name tag.attributes⟩,
            ⟨some lineAfter, .elementEnd uri name⟩]) ++ later ∧
        Reports reading.entities bindings (tagAttributes true brokenTag.toList).1 tag) ∧
      (events around brokenValues).events.map (·.event) =
        [.documentStart, .doctypeStart "p" none none, .doctypeEnd, .binding "" "a b",
          .elementStart (some "a\r\nb") "p" [⟨none, "title", "x  y\t \r\n <"⟩],
          .elementEnd (some "a\r\nb") "p", .documentEnd] := by
  intro around found
  have hpieces : (found.drop 1).map (·.piece.toOption) =
      [some (.startTag brokenTag.toList true)] := by decide +kernel
  obtain ⟨chunk, hdrop, hpiece⟩ : ∃ chunk, found.drop 1 = [chunk] ∧
      chunk.piece.toOption = some (.startTag brokenTag.toList true) := by
    obtain ⟨chunk, rest, hdrop, hpiece, hrest⟩ := List.map_eq_cons_iff.mp hpieces
    rw [List.map_eq_nil_iff.mp hrest] at hdrop
    exact ⟨chunk, hdrop, hpiece⟩
  have hchunks : found = found.take 1 ++ [chunk] := by
    rw [← hdrop, List.take_append_drop]
  have htag : chunk.piece = .ok (.startTag brokenTag.toList true) := by
    cases hresult : chunk.piece with
    | error cause => rw [hresult] at hpiece; cases hpiece
    | ok piece => rw [hresult] at hpiece; cases hpiece; rfl
  have hread : (readInTurn around (found.take 1) (Reading.ofText brokenValues)).toBool = true := by
    decide +kernel
  cases hfront : readInTurn around (found.take 1) (Reading.ofText brokenValues) with
  | error fault => rw [hfront] at hread; cases hread
  | ok result =>
      obtain ⟨before, reading⟩ := result
      refine ⟨chunk, before, reading, hchunks, htag, rfl, ?_, by decide +kernel⟩
      rcases events_values around brokenValues hchunks htag hfront with
        hreported | ⟨line, cause, -, -, hfailure⟩
      · exact hreported
      · have hnone : (events around brokenValues).failure = none := by decide +kernel
        rw [hnone] at hfailure
        cases hfailure

end Document

end TemplateMarkup.Markup
