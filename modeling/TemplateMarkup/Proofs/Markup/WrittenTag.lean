import Mathlib.Data.List.Forall2
import TemplateMarkup.Markup.Document
import TemplateMarkup.Proofs.Markup.Cut

namespace TemplateMarkup.Markup

open Reference (byteCount)

def escapeValue (value : String) : List Char :=
  value.toList.flatMap (escape valueEscapes)

def writeAttribute (attr : Attribute) : List Char :=
  ' ' :: (attr.name.toList ++ '=' :: '"' :: (escapeValue attr.value ++ ['"']))

-- What a start tag has between its brackets.
def writeTag (name : String) (attributes : List Attribute) : List Char :=
  name.toList ++ attributes.flatMap writeAttribute

def writeStartTag (name : String) (attributes : List Attribute) : List Char :=
  '<' :: writeTag name attributes ++ ['>']

def writeEmptyTag (name : String) (attributes : List Attribute) : List Char :=
  '<' :: (writeTag name attributes ++ ['/']) ++ ['>']

def writeEndTag (name : String) : List Char :=
  '<' :: ('/' :: name.toList) ++ ['>']

theorem quote_notMem_escapeValue (value : String) : '"' ∉ escapeValue value :=
  notMem_flatMap_escape (by decide) (by decide) value.toList

section Quotes

theorem foldlM_stopsUnquoted_writeAttribute {attr : Attribute} (hname : IsWord attr.name.toList) :
    (writeAttribute attr).foldlM stopsUnquoted none = some none := by
  have hvalue := foldlM_stopsUnquoted_inside (quote_notMem_escapeValue attr.value)
  have hquoted : ('"' :: (escapeValue attr.value ++ ['"'])).foldlM stopsUnquoted none =
      some none := by
    change (escapeValue attr.value ++ ['"']).foldlM stopsUnquoted (some '"') = some none
    rw [List.foldlM_append, hvalue]
    rfl
  change (attr.name.toList ++ _).foldlM stopsUnquoted none = some none
  rw [List.foldlM_append, hname.foldlM_stopsUnquoted]
  exact hquoted

-- A written tag leaves no quote open.
theorem foldlM_stopsUnquoted_writeTag {name : String} {attributes : List Attribute}
    (hname : IsWord name.toList) (hnames : ∀ attr ∈ attributes, IsWord attr.name.toList) :
    (writeTag name attributes).foldlM stopsUnquoted none = some none := by
  have hattributes : (attributes.flatMap writeAttribute).foldlM stopsUnquoted none = some none := by
    induction attributes with
    | nil => rfl
    | cons attr attributes ih =>
        have hattr := foldlM_stopsUnquoted_writeAttribute (hnames attr List.mem_cons_self)
        rw [List.flatMap_cons, List.foldlM_append, hattr]
        exact ih fun other hmem => hnames other (List.mem_cons_of_mem attr hmem)
  rw [writeTag, List.foldlM_append, hname.foldlM_stopsUnquoted]
  exact hattributes

theorem getLast?_writeTag {name : String} (hname : IsWord name.toList)
    (attributes : List Attribute) : (writeTag name attributes).getLast? ≠ some '/' := by
  rcases List.eq_nil_or_concat attributes with rfl | ⟨front, attr, rfl⟩
  · intro hlast
    rw [writeTag, List.flatMap_nil, List.append_nil] at hlast
    exact hname.notMem (by rfl) (List.mem_of_getLast? hlast)
  · have hwritten : writeTag name (front ++ [attr]) = name.toList ++ front.flatMap writeAttribute ++
        ' ' :: (attr.name.toList ++ '=' :: '"' :: escapeValue attr.value) ++ ['"'] := by
      simp [writeTag, writeAttribute]
    rw [List.concat_eq_append, hwritten, List.getLast?_concat]
    decide

end Quotes

theorem writeTag_first {name : String} (hname : IsWord name.toList) (attributes : List Attribute) :
    ∃ c more, writeTag name attributes = c :: more ∧ c.isAlpha = true := by
  obtain ⟨c, more, hshape⟩ := List.exists_cons_of_ne_nil hname.nonempty
  refine ⟨c, more ++ attributes.flatMap writeAttribute, ?_, hname.letters c (by simp [hshape])⟩
  rw [writeTag, hshape, List.cons_append]

-- The name goes up to the first attribute.
theorem tagName_writeTag {name : String} (hname : IsWord name.toList)
    (attributes : List Attribute) :
    tagName (writeTag name attributes) = name.toList ∧
      (writeTag name attributes).dropWhile (!isMarkupSpace ·) =
        attributes.flatMap writeAttribute := by
  refine takeWhile_dropWhile_append _ _
    (fun c hc => by rw [hname.not_isMarkupSpace hc, Bool.not_false]) fun c hc => ?_
  cases attributes with
  | nil => cases hc
  | cons attr attributes =>
      cases hc
      rfl

section Attributes

-- What is read of a written attribute.
structure IsWritten (raw : RawAttribute) (attr : Attribute) : Prop where
  key : raw.key = attr.name.toList
  value : raw.value = escapeValue attr.value

theorem cutValue_written (total : Nat) (key : List Char) (start position : Nat) (value : String)
    (rest : List Char) :
    cutValue total key start position ('"' :: (escapeValue value ++ '"' :: rest)) =
      .ok ⟨⟨key, start, escapeValue value⟩, position + byteCount (escapeValue value) + 2,
        rest⟩ := by
  have hvalue := bne_of_notMem (quote_notMem_escapeValue value)
  obtain ⟨htake, hdrop⟩ := takeWhile_dropWhile_append _ ('"' :: rest) hvalue (by
    rintro c ⟨⟩
    rfl)
  have hspace : ('"' :: (escapeValue value ++ '"' :: rest)).dropWhile isMarkupSpace =
      '"' :: (escapeValue value ++ '"' :: rest) := rfl
  simp only [cutValue, hspace, htake, hdrop]
  rfl

theorem cutAttribute_written {attr : Attribute} (hname : IsWord attr.name.toList)
    {seen : List RawAttribute} (hseen : ∀ raw ∈ seen, raw.key ≠ attr.name.toList)
    (total position : Nat) (rest : List Char) :
    ∃ raw next, IsWritten raw attr ∧
      cutAttribute total seen position (writeAttribute attr ++ rest) =
        some (.ok ⟨raw, next, rest⟩) := by
  obtain ⟨first, more, hshape⟩ := List.exists_cons_of_ne_nil hname.nonempty
  have hfirst : isMarkupSpace first = false := hname.not_isMarkupSpace (by simp [hshape])
  have hmore : ∀ c ∈ more, isKeyChar c = true := by
    intro c hc
    have hmem : c ∈ attr.name.toList := by simp [hshape, hc]
    simp [isKeyChar, hname.not_isMarkupSpace hmem, hname.ne hmem (d := '=') rfl]
  obtain ⟨htake, hdrop⟩ := takeWhile_dropWhile_append more
    ('=' :: '"' :: (escapeValue attr.value ++ '"' :: rest)) hmore (by
      rintro c ⟨⟩
      rfl)
  have hwritten : writeAttribute attr ++ rest =
      [' '] ++ (first :: (more ++ '=' :: '"' :: (escapeValue attr.value ++ '"' :: rest))) := by
    simp [writeAttribute, hshape]
  obtain ⟨-, hspace⟩ := takeWhile_dropWhile_append (p := isMarkupSpace) [' ']
    (first :: (more ++ '=' :: '"' :: (escapeValue attr.value ++ '"' :: rest)))
    (List.forall_mem_singleton.mpr rfl) (by
      rintro c ⟨⟩
      exact hfirst)
  have hequals : ('=' :: '"' :: (escapeValue attr.value ++ '"' :: rest)).dropWhile isMarkupSpace =
      '=' :: '"' :: (escapeValue attr.value ++ '"' :: rest) := rfl
  have hunseen : earlier? seen (first :: more) = none := by
    rw [earlier?, ← hshape, Option.map_eq_none_iff, List.find?_eq_none]
    intro raw hraw
    simpa using hseen raw hraw
  unfold cutAttribute
  rw [hwritten]
  simp only [hspace, htake, hdrop, hequals, hunseen, cutValue_written]
  exact ⟨_, _, ⟨hshape.symm, rfl⟩, rfl⟩

theorem cutAttributes_written {attributes : List Attribute}
    (hnames : ∀ attr ∈ attributes, IsWord attr.name.toList)
    (hdistinct : (attributes.map (·.name)).Nodup) (total : Nat) (unique : Bool)
    {seen : List RawAttribute}
    (hseen : ∀ raw ∈ seen, ∀ attr ∈ attributes, raw.key ≠ attr.name.toList) (position : Nat) :
    ∃ raws, List.Forall₂ IsWritten raws attributes ∧
      cutAttributes total unique seen position (attributes.flatMap writeAttribute) =
        (raws, none) := by
  induction attributes generalizing seen position with
  | nil =>
    refine ⟨[], .nil, ?_⟩
    rw [cutAttributes]
    rfl
  | cons attr attributes ih =>
      rw [List.map_cons, List.nodup_cons] at hdistinct
      obtain ⟨raw, next, hraw, hcut⟩ := cutAttribute_written (hnames attr List.mem_cons_self)
        (fun raw hraw => hseen raw hraw attr List.mem_cons_self) total position
        (attributes.flatMap writeAttribute)
      have hlater : ∀ other ∈ attributes, raw.key ≠ other.name.toList := by
        intro other hother hkey
        rw [hraw.key, String.toList_inj] at hkey
        exact hdistinct.1 (hkey ▸ List.mem_map_of_mem hother)
      have hseen' : ∀ before ∈ (if unique then seen ++ [raw] else []), ∀ other ∈ attributes,
          before.key ≠ other.name.toList := by
        intro before hbefore other hother
        split at hbefore
        · rcases List.mem_append.mp hbefore with hold | hnew
          · exact hseen before hold other (List.mem_cons_of_mem attr hother)
          · rw [List.mem_singleton.mp hnew]
            exact hlater other hother
        · cases hbefore
      obtain ⟨raws, hraws, hmore⟩ :=
        ih (fun other hother => hnames other (List.mem_cons_of_mem attr hother)) hdistinct.2
          hseen' next
      refine ⟨raw :: raws, .cons hraw hraws, ?_⟩
      rw [List.flatMap_cons, cutAttributes]
      split
      · rename_i hnone
        rw [hcut] at hnone
        cases hnone
      · rename_i hfault
        rw [hcut] at hfault
        cases hfault
      · rename_i found hfound
        rw [hcut] at hfound
        cases hfound
        dsimp only
        rw [hmore]

-- All attributes of a written tag are found, each under its own name.
theorem tagAttributes_writeTag {name : String} {attributes : List Attribute}
    (hname : IsWord name.toList) (hnames : ∀ attr ∈ attributes, IsWord attr.name.toList)
    (hdistinct : (attributes.map (·.name)).Nodup) (unique : Bool) :
    ∃ raws, List.Forall₂ IsWritten raws attributes ∧
      tagAttributes unique (writeTag name attributes) = (raws, none) := by
  rw [tagAttributes, (tagName_writeTag hname attributes).2]
  exact cutAttributes_written hnames hdistinct _ unique (fun raw hraw => by cases hraw) _

end Attributes

section Reading

-- An attribute that has no namespace and declares none.
structure IsBare (attr : Attribute) : Prop where
  uri : attr.uri = none
  name : IsWord attr.name.toList
  notBinding : attr.name ≠ "xmlns"

theorem splitName_word {name : List Char} (hname : IsWord name) :
    splitName name = (none, name) := by
  have hcolon : ∀ c ∈ name, (c != ':') = true := fun c hc => by simpa using hname.ne hc rfl
  obtain ⟨-, hdrop⟩ := takeWhile_dropWhile_append name [] hcolon (by rintro c ⟨⟩)
  rw [List.append_nil] at hdrop
  rw [splitName, hdrop]

theorem bindingKey_word {name : List Char} (hname : IsWord name)
    (hbinding : name ≠ ['x', 'm', 'l', 'n', 's']) : bindingKey name = .none := by
  unfold bindingKey
  split
  · rename_i hprefix
    obtain ⟨label, rfl⟩ := List.isPrefixOf_iff_prefix.mp hprefix
    cases label with
    | nil => exact absurd (List.append_nil _) hbinding
    | cons c label =>
        have hc : c ≠ ':' := hname.ne (by simp) rfl
        simp [hc]
  · rfl

theorem IsBare.bindingKey_written {raw : RawAttribute} {attr : Attribute} (hattr : IsBare attr)
    (hraw : IsWritten raw attr) : bindingKey raw.key = .none := by
  rw [hraw.key]
  refine bindingKey_word hattr.name fun hxmlns => hattr.notBinding ?_
  rw [← String.ofList_toList (s := attr.name), hxmlns]

theorem addBindings_written {raws : List RawAttribute} {attributes : List Attribute}
    (hraws : List.Forall₂ IsWritten raws attributes) (hbare : ∀ attr ∈ attributes, IsBare attr)
    (bindings : List Binding) : addBindings bindings raws = .ok bindings := by
  induction hraws with
  | nil => rfl
  | @cons raw attr raws attributes hraw _ ih =>
      have hkey := (hbare attr List.mem_cons_self).bindingKey_written hraw
      have hadd : addBinding bindings raw = .ok bindings := by simp only [addBinding, hkey]
      rw [addBindings, List.foldlM_cons, hadd]
      exact ih fun other hother => hbare other (List.mem_cons_of_mem attr hother)

theorem readAttribute_written {raw : RawAttribute} {attr : Attribute} (hraw : IsWritten raw attr)
    (hattr : IsBare attr) (entities : Entities) (bindings : List Binding) (line : Nat)
    (tag : TagReading) :
    readAttribute entities bindings line tag raw =
      .ok { tag with attributes := tag.attributes ++ [attr] } := by
  have hvalue : Reference.expand entities.get? (String.ofList (normalizeValue raw.value)) =
      .ok attr.value := by
    rw [hraw.value, escapeValue, normalizeValue_escaped]
    exact areTakenBack_value.expand_flatMap attr.value
  have hresolve : resolveAttribute bindings raw.key = .ok (none, attr.name) := by
    rw [resolveAttribute, hraw.key, splitName_word hattr.name]
    simp
  have hback : (⟨none, attr.name, attr.value⟩ : Attribute) = attr := by rw [← hattr.uri]
  simp only [readAttribute, hvalue, hattr.bindingKey_written hraw, hresolve, hback]

theorem foldlM_readAttribute_written {raws : List RawAttribute} {attributes : List Attribute}
    (hraws : List.Forall₂ IsWritten raws attributes) (hbare : ∀ attr ∈ attributes, IsBare attr)
    (entities : Entities) (bindings : List Binding) (line : Nat) (tag : TagReading) :
    raws.foldlM (readAttribute entities bindings line) tag =
      .ok { tag with attributes := tag.attributes ++ attributes } := by
  induction hraws generalizing tag with
  | nil => simp [pure, Except.pure]
  | @cons raw attr raws attributes hraw _ ih =>
      rw [List.foldlM_cons, readAttribute_written hraw (hbare attr List.mem_cons_self)]
      have hrest := ih (fun other hother => hbare other (List.mem_cons_of_mem attr hother))
        { tag with attributes := tag.attributes ++ [attr] }
      rw [List.append_assoc, List.singleton_append] at hrest
      exact hrest

-- Reading a written tag gives its name and attributes back, and nothing is bound.
theorem readStartTag_writeTag {name : String} {attributes : List Attribute}
    (hname : IsWord name.toList) (hbare : ∀ attr ∈ attributes, IsBare attr)
    (hdistinct : (attributes.map (·.name)).Nodup) (around : Surroundings) (reading : Reading)
    (hbindings : reading.bindings = standardBindings) (line lineAfter : Nat) :
    readStartTag around reading line lineAfter (writeTag name attributes) true =
        .ok ([⟨some line, .elementStart none name attributes⟩,
          ⟨some lineAfter, .elementEnd none name⟩], reading) ∧
      readStartTag around reading line lineAfter (writeTag name attributes) false =
        .ok ([⟨some line, .elementStart none name attributes⟩], { reading with
          openElements := ⟨name.toList, none, name, standardBindings⟩ :: reading.openElements }) := by
  have hnames : ∀ attr ∈ attributes, IsWord attr.name.toList := fun attr h => (hbare attr h).name
  obtain ⟨raws, hraws, hfound⟩ := tagAttributes_writeTag hname hnames hdistinct false
  obtain ⟨unique, hunique, hfoundUnique⟩ := tagAttributes_writeTag hname hnames hdistinct true
  have hresolve : resolveElement standardBindings name.toList = .ok (none, name) := by
    rw [resolveElement, splitName_word hname]
    simp only [String.ofList_toList]
    rfl
  have hattributes : readAttributes reading.entities standardBindings line
      (writeTag name attributes) = .ok ⟨[], attributes⟩ := by
    simp only [readAttributes, hfoundUnique, foldlM_readAttribute_written hunique hbare,
      List.nil_append]
  simp only [readStartTag, hbindings, hfound, addBindings_written hraws hbare,
    (tagName_writeTag hname attributes).1, hresolve, hattributes]
  exact ⟨rfl, rfl⟩

end Reading

end TemplateMarkup.Markup
