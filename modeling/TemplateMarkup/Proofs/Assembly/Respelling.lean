import TemplateMarkup.Proofs.Assembly.Attributes
import TemplateMarkup.Profile

namespace TemplateMarkup

-- A word in small letters, as far as they are ASCII.
def Text.smallLetters (name : String) : String :=
  String.ofList (name.toList.map Char.toLower)

-- A rule with the name in it in small letters.
def PlacementRule.folded : PlacementRule → PlacementRule
  | .mustBeRoot name => .mustBeRoot (Text.smallLetters name)
  | rule => rule

-- A fault with the names of elements and attributes in it in small letters. All else about it
-- stays as it is.
def Fault.folded : Fault → Fault
  | .misplaced rule location => .misplaced rule.folded location
  | .missingAttribute element name location =>
    .missingAttribute (Text.smallLetters element) name location
  | .unsupportedAttribute element name allowed location =>
    .unsupportedAttribute (Text.smallLetters element) (Text.smallLetters name) allowed location
  | fault => fault

-- The same value, or faults that differ in the case of names at most.
inductive SameFolded {α : Type} : Except Fault α → Except Fault α → Prop
  | ok (value : α) : SameFolded (.ok value) (.ok value)
  | error {fault other : Fault} (h : other.folded = fault.folded) :
      SameFolded (.error fault) (.error other)

theorem SameFolded.refl {α : Type} (result : Except Fault α) : SameFolded result result := by
  cases result with
  | ok value => exact .ok value
  | error fault => exact .error rfl

theorem SameFolded.bind {α β : Type} {first second : Except Fault α} (h : SameFolded first second)
    {next after : α → Except Fault β} (hnext : ∀ value, SameFolded (next value) (after value)) :
    SameFolded (first >>= next) (second >>= after) := by
  cases h with
  | ok value => exact hnext value
  | error h => exact .error h

theorem SameFolded.mapError_eq {α : Type} {first second : Except Fault α}
    (h : SameFolded first second) :
    second.mapError Fault.folded = first.mapError Fault.folded := by
  cases h with
  | ok value => rfl
  | error h => exact congrArg Except.error h

-- Whether an element is a construct that takes one attribute.
def ElementRole.takesOneAttribute : ElementRole → Bool
  | .directive .extensionPoint | .directive .replace | .directive .block
  | .directive .parameter => true
  | _ => false

-- Whether a namespace is of the template language or of a component library.
def Naming.isComponentUri (uri : String) : Bool :=
  isTemplateUri uri || (libraryPath? uri).isSome

namespace Attribute

-- Whether the case of an attribute's name does not matter on an element: that of the attribute
-- that a construct takes, of an id or mixins of the template language, and of its type where the
-- element is of neither the template language nor a library and carries only one.
def isCaseless (uri : Option String) (name : String) (attributes : List Attribute)
    (attr : Attribute) : Bool :=
  ((ElementRole.ofName uri name).takesOneAttribute &&
      (Text.sameWord attr.name "id" || Text.sameWord attr.name "name")) ||
    attr.isNamed "id" || attr.isNamed "mixins" ||
    (attr.isNamed "type" && !uri.any Naming.isComponentUri &&
      attributes.countP (isNamed "type") == 1)

-- The same attribute, with a name that may differ in case where that does not matter.
structure Respelled (caseless : Bool) (attr other : Attribute) : Prop where
  uri : other.uri = attr.uri
  name : other.name = attr.name ∨ caseless = true ∧ Text.sameWord attr.name other.name = true
  value : other.value = attr.value

end Attribute

-- The names of constructs are the same in any case.
def RespelledName (uri : Option String) (name other : String) : Prop :=
  other = name ∨
    (∃ directive, ElementRole.ofName uri name = .directive directive) ∧
      Text.sameWord name other = true

-- The same event, in any spelling that does not matter.
inductive Event.Respelled : Event → Event → Prop
  | same (event : Event) : Respelled event event
  | elementStart (uri : Option String) {name other : String} {attributes others : List Attribute}
      (hname : RespelledName uri name other)
      (hattributes : List.Forall₂
        (fun attr twin => attr.Respelled (attr.isCaseless uri name attributes) twin)
        attributes others) :
      Respelled (.elementStart uri name attributes) (.elementStart uri other others)
  | elementEnd (uri : Option String) {name other : String} (hname : RespelledName uri name other) :
      Respelled (.elementEnd uri name) (.elementEnd uri other)

structure PlacedEvent.Respelled (placed other : PlacedEvent) : Prop where
  line : other.line = placed.line
  event : placed.event.Respelled other.event

namespace Text

variable {name other : String}

theorem smallLetters_eq (h : sameWord name other = true) :
    smallLetters other = smallLetters name := by
  simp only [sameWord, beq_iff_eq] at h
  rw [smallLetters, smallLetters, h]

theorem sameWord_refl (name : String) : sameWord name name = true := by
  simp [sameWord]

end Text

theorem RespelledName.sameWord {uri : Option String} {name other : String}
    (h : RespelledName uri name other) : Text.sameWord name other = true := by
  rcases h with rfl | ⟨-, hword⟩
  · exact Text.sameWord_refl _
  · exact hword

theorem Directive.find?_congr {name other : String} (h : Text.sameWord name other = true)
    (uri : String) : find? uri other = find? uri name := by
  simp only [find?, added?, shared?, Text.sameWord_congr h]

-- A construct stays the same construct, and other elements keep their names.
theorem RespelledName.ofName_eq {uri : Option String} {name other : String}
    (h : RespelledName uri name other) :
    ElementRole.ofName uri other = ElementRole.ofName uri name := by
  rcases h with rfl | ⟨⟨directive, hrole⟩, hword⟩
  · rfl
  · cases uri with
    | none => cases hrole
    | some uri =>
        have hfind := Directive.find?_congr hword uri
        simp only [ElementRole.ofName] at hrole ⊢
        rw [hfind]
        cases hfound : Directive.find? uri name with
        | some found => rfl
        | none =>
            rw [hfound] at hrole
            dsimp only at hrole
            repeat' split at hrole
            all_goals cases hrole

theorem ElementRole.isComponentUri_of_component {uri : Option String} {name componentType : String}
    (h : ofName uri name = .component componentType) : uri.any Naming.isComponentUri = true := by
  cases uri with
  | none => cases h
  | some uri =>
      simp only [ofName] at h
      simp only [Option.any_some, Naming.isComponentUri, Bool.or_eq_true]
      split at h
      · cases h
      · split at h
        · rename_i htemplate
          exact .inl htemplate
        · split at h
          · cases h
          · split at h
            · rename_i path hpath
              exact .inr (by simp [hpath])
            · cases h

theorem Attribute.isSpaceSetting_eq_false {attr : Attribute} {key : String}
    (h : Text.sameWord attr.name key = true) (hkey : Text.sameWord key "space" = false) :
    attr.isSpaceSetting = false := by
  have hname : attr.name ≠ "space" := by
    intro he
    have hword := Text.sameWord_eq_false h hkey
    rw [he, Text.sameWord_refl] at hword
    cases hword
  simp [isSpaceSetting, hname]

namespace Attribute.Respelled

variable {caseless : Bool} {attr other : Attribute}

theorem sameWord (h : attr.Respelled caseless other) :
    Text.sameWord attr.name other.name = true := by
  rcases h.name with he | ⟨-, hword⟩
  · rw [he]
    exact Text.sameWord_refl _
  · exact hword

theorem isReserved (h : attr.Respelled caseless other) : other.isReserved = attr.isReserved := by
  rw [Attribute.isReserved, Attribute.isReserved, h.uri]

theorem isNamed (h : attr.Respelled caseless other) (key : String) :
    other.isNamed key = attr.isNamed key := by
  rw [Attribute.isNamed, Attribute.isNamed, h.isReserved, Text.sameWord_congr h.sameWord]

end Attribute.Respelled

theorem Attribute.exists_of_isCaseless {uri : Option String} {name : String}
    {attributes : List Attribute} {attr : Attribute}
    (h : attr.isCaseless uri name attributes = true) :
    ∃ key, Text.sameWord attr.name key = true ∧ Text.sameWord key "space" = false := by
  simp only [isCaseless, isNamed, Bool.or_eq_true, Bool.and_eq_true] at h
  rcases h with ((⟨-, hid | hname⟩ | hid) | hmixins) | ⟨⟨htype, -⟩, -⟩
  · exact ⟨"id", hid, by decide⟩
  · exact ⟨"name", hname, by decide⟩
  · exact ⟨"id", hid.2, by decide⟩
  · exact ⟨"mixins", hmixins.2, by decide⟩
  · exact ⟨"type", htype.2, by decide⟩

section Attributes

variable {uri : Option String} {name other : String} {all attributes others : List Attribute}

theorem Attribute.Respelled.isSpaceSetting {attr twin : Attribute}
    (h : attr.Respelled (attr.isCaseless uri name all) twin) :
    twin.isSpaceSetting = attr.isSpaceSetting := by
  rcases h.name with he | ⟨hcaseless, hword⟩
  · simp [Attribute.isSpaceSetting, he, h.uri]
  · obtain ⟨key, hkey, hspace⟩ := Attribute.exists_of_isCaseless hcaseless
    have htwin : Text.sameWord twin.name key = true := by
      rwa [← Text.sameWord_congr hword]
    rw [Attribute.isSpaceSetting_eq_false hkey hspace,
      Attribute.isSpaceSetting_eq_false htwin hspace]

theorem compression?_respelled
    (h : List.Forall₂ (fun attr twin => attr.Respelled (attr.isCaseless uri name all) twin)
      attributes others) :
    Attribute.compression? others = Attribute.compression? attributes := by
  induction h with
  | nil => rfl
  | @cons attr twin rest others hattr hrest ih =>
      simp only [Attribute.compression?, List.find?_cons, hattr.isSpaceSetting] at ih ⊢
      cases attr.isSpaceSetting with
      | true => simp [hattr.value]
      | false => exact ih

namespace Component

open Attribute

variable {attr twin : Attribute} {location : Location} {component : Component}

theorem role_respelled (h : attr.Respelled (attr.isCaseless uri name all) twin) (hasType : Bool) :
    role hasType twin = role hasType attr := by
  simp only [role, ← Text.isBlank_congr h.sameWord, h.isSpaceSetting, h.isReserved,
    Text.sameWord_congr h.sameWord]

-- Outside of constructs a type may be respelled only where there is one at most.
theorem type_of_isCaseless (hslot : (ElementRole.ofName uri name).takesOneAttribute = false)
    (htype : attr.isNamed "type" = true) (h : attr.isCaseless uri name all = true) :
    uri.any Naming.isComponentUri = false ∧ all.countP (isNamed "type") = 1 := by
  have hid := isNamed_eq_false htype (show Text.sameWord _ "id" = false by decide)
  have hmixins := isNamed_eq_false htype (show Text.sameWord _ "mixins" = false by decide)
  simpa [isCaseless, hslot, hid, hmixins, htype] using h

-- An attribute that may be respelled is not passed on.
theorem role_ne_passed (hslot : (ElementRole.ofName uri name).takesOneAttribute = false)
    (h : attr.isCaseless uri name all = true) {hasType : Bool}
    (hfree : attr.isNamed "type" = true → hasType = false) : role hasType attr ≠ .passed := by
  simp only [isCaseless, hslot, Bool.false_and, Bool.false_or, Bool.or_eq_true,
    Bool.and_eq_true] at h
  rcases h with (hid | hmixins) | ⟨⟨htype, -⟩, -⟩
  · simp [role_of_id hid]
  · simp [role_of_mixins hmixins]
  · simp [role_of_type htype, hfree htype]

theorem readAll_respelled (hslot : (ElementRole.ofName uri name).takesOneAttribute = false)
    (h : List.Forall₂ (fun attr twin => attr.Respelled (attr.isCaseless uri name all) twin)
      attributes others)
    (hfree : ∀ attr ∈ attributes, attr.isNamed "type" = true →
      attr.isCaseless uri name all = true →
        component.componentType = none ∧ attributes.countP (isNamed "type") ≤ 1) :
    component.readAll location others = component.readAll location attributes := by
  induction h generalizing component with
  | nil => rfl
  | @cons attr twin rest others hattr hrest ih =>
      have hname : role component.componentType.isSome attr = .passed → twin.name = attr.name := by
        intro hpassed
        rcases hattr.name with he | ⟨hcaseless, -⟩
        · exact he
        · refine absurd hpassed (role_ne_passed hslot hcaseless fun htype => ?_)
          simp [(hfree attr (List.mem_cons_self ..) htype hcaseless).1]
      have hread : component.read location twin = component.read location attr := by
        rw [read, read, role_respelled hattr, hattr.value, hattr.uri]
        cases hrole : role component.componentType.isSome attr with
        | passed => rw [hname hrole]
        | _ => rfl
      rw [readAll_cons, readAll_cons, hread]
      cases hnext : component.read location attr with
      | error fault => rfl
      | ok next =>
          refine ih fun other hm htype hcaseless => ?_
          obtain ⟨hnone, hone⟩ := hfree other (List.mem_cons_of_mem attr hm) htype hcaseless
          have hcount : 0 < rest.countP (isNamed "type") :=
            List.countP_pos_iff.mpr ⟨other, hm, htype⟩
          have hfirst : attr.isNamed "type" = false := by
            rw [Bool.eq_false_iff]
            intro hattr
            rw [List.countP_cons_of_pos hattr] at hone
            omega
          rw [List.countP_cons_of_neg (by simp [hfirst])] at hone
          have hrole : role component.componentType.isSome attr ≠ .componentType := by
            simp [role_eq_componentType_iff, hfirst]
          exact ⟨(componentType_of_read hrole hnext).trans hnone, hone⟩

end Component

namespace Assembly

-- A construct finds the same attribute in either spelling, or faults that differ in case only.
theorem onlyAttribute_respelled (hname : Text.sameWord name other = true)
    (h : List.Forall₂ (fun attr twin => attr.Respelled (attr.isCaseless uri name all) twin)
      attributes others) (key : String) (location : Location) (found : Option String) :
    SameFolded (onlyAttribute name key location found attributes)
      (onlyAttribute other key location found others) := by
  induction h generalizing found with
  | nil => exact .ok found
  | @cons attr twin rest others hattr hrest ih =>
      have hkey := Text.sameWord_congr hattr.sameWord key
      rw [onlyAttribute, onlyAttribute, hattr.isSpaceSetting, hattr.value, ← hkey]
      split
      · exact ih found
      · split
        · exact ih (some attr.value)
        · refine .error ?_
          rw [Fault.folded, Fault.folded, Text.smallLetters_eq hname,
            Text.smallLetters_eq hattr.sameWord]

theorem requiredAttribute_respelled (hname : Text.sameWord name other = true)
    (h : List.Forall₂ (fun attr twin => attr.Respelled (attr.isCaseless uri name all) twin)
      attributes others) (key : String) (location : Location) :
    SameFolded (requiredAttribute name key location attributes)
      (requiredAttribute other key location others) := by
  have hfound := onlyAttribute_respelled hname h key location none
  rw [requiredAttribute, requiredAttribute]
  generalize onlyAttribute name key location none attributes = first at hfound ⊢
  generalize onlyAttribute other key location none others = second at hfound ⊢
  cases hfound with
  | error h => exact .error h
  | ok found =>
      dsimp only
      cases found.bind Text.unlessBlank with
      | some value => exact .ok value
      | none =>
          refine .error ?_
          rw [Fault.folded, Fault.folded, Text.smallLetters_eq hname]

theorem openDirective_respelled (assembly : Assembly) (directive : Directive)
    (hname : Text.sameWord name other = true)
    (h : List.Forall₂ (fun attr twin => attr.Respelled (attr.isCaseless uri name all) twin)
      attributes others) (compress : Bool) (location : Location) :
    SameFolded (assembly.openDirective directive name attributes compress location)
      (assembly.openDirective directive other others compress location) := by
  have hrequired := fun key => requiredAttribute_respelled hname h key location
  -- A rule about the root names the element, and all others are about places alone.
  have hroot : (Fault.misplaced (.mustBeRoot other) location).folded =
      (Fault.misplaced (.mustBeRoot name) location).folded := by
    rw [Fault.folded, Fault.folded, PlacementRule.folded, PlacementRule.folded,
      Text.smallLetters_eq hname]
  cases directive with
  | remove | body => exact .ok _
  | content =>
      simp only [openDirective_eq]
      split
      · exact .error rfl
      · exact .ok _
  | extend | container =>
      simp only [openDirective_eq]
      split
      · exact .error hroot
      · exact .ok _
  | extensionPoint =>
      rw [openDirective_eq, openDirective_eq]
      refine (hrequired "id").bind fun id => ?_
      split
      · exact .error rfl
      · exact .ok _
  | replace =>
      simp only [openDirective_eq]
      split
      · exact .error rfl
      · exact (hrequired "id").bind fun id => .ok _
  | block =>
      rw [openDirective_eq, openDirective_eq]
      refine (hrequired "id").bind fun id => ?_
      split
      · exact .ok _
      · exact .error rfl
  | parameter =>
      rw [openDirective_eq, openDirective_eq]
      refine (hrequired "name").bind fun label => ?_
      split
      · exact .ok _
      · exact .error rfl

theorem openByRole_respelled (assembly : Assembly) (hname : RespelledName uri name other)
    (h : List.Forall₂ (fun attr twin => attr.Respelled (attr.isCaseless uri name attributes) twin)
      attributes others) (location : Location) :
    SameFolded (assembly.openByRole uri name attributes location)
      (assembly.openByRole uri other others location) := by
  have hsame : (∀ directive, ElementRole.ofName uri name ≠ .directive directive) →
      other = name := by
    intro hplain
    rcases hname with he | ⟨⟨directive, hrole⟩, -⟩
    · exact he
    · exact absurd hrole (hplain directive)
  have houtput : ∀ element componentType compress,
      (ElementRole.ofName uri name).takesOneAttribute = false →
      (uri.any Naming.isComponentUri = false → componentType = none) →
        assembly.openOutput uri element componentType others compress location =
          assembly.openOutput uri element componentType attributes compress location := by
    intro element componentType compress hslot hfree
    rw [openOutput_eq_bind, openOutput_eq_bind]
    rw [Component.readAll_respelled hslot h]
    intro attr hm htype hcaseless
    obtain ⟨huri, hone⟩ := Component.type_of_isCaseless hslot htype hcaseless
    exact ⟨hfree huri, Nat.le_of_eq hone⟩
  simp only [openByRole_eq, hname.ofName_eq, compression?_respelled h]
  cases hrole : ElementRole.ofName uri name with
  | plain =>
      rw [hsame (by simp [hrole]), houtput _ _ _ (by rw [hrole]; rfl) fun _ => rfl]
      exact .refl _
  | component componentType =>
      have huri := ElementRole.isComponentUri_of_component hrole
      dsimp only
      rw [houtput none (some componentType) _ (by rw [hrole]; rfl) (by simp [huri])]
      exact .refl _
  | directive found => exact assembly.openDirective_respelled found hname.sameWord h _ location
  | blockParameter =>
      rw [hsame (by simp [hrole])]
      simp only [openBlockParameter_eq]
      split
      · exact .error rfl
      · cases h with
        | nil => exact .ok _
        | cons hattr hrest =>
            refine .error ?_
            rw [Fault.folded, Fault.folded, Text.smallLetters_eq hattr.sameWord]
  | strayLibrary uri => exact .error rfl

end Assembly

end Attributes

namespace Assembly

theorem placementFault?_congr (assembly : Assembly) {name other : String}
    (h : Text.sameWord name other = true) (uri : Option String) :
    assembly.placementFault? uri other = assembly.placementFault? uri name := by
  simp only [placementFault?, Text.sameWord_congr h]

-- An event leads to the same assembly in either spelling, refused or not, and is refused for faults
-- that differ in case only.
theorem step_respelled (assembly : Assembly) {placed other : PlacedEvent}
    (h : placed.Respelled other) :
    (assembly.step other).fault.map Fault.folded = (assembly.step placed).fault.map Fault.folded ∧
      (assembly.step other).next = (assembly.step placed).next := by
  obtain ⟨line, event⟩ := placed
  obtain ⟨otherLine, twin⟩ := other
  obtain ⟨rfl, hevent⟩ := h
  cases hevent with
  | same event => exact ⟨rfl, rfl⟩
  | elementEnd uri hname => exact ⟨rfl, rfl⟩
  | @elementStart uri name other attributes others hname hattributes =>
      simp only [step, react_elementStart]
      generalize assembly.place _ = location
      cases hidle : assembly.isIdle with
      | true =>
          rw [elementStart_of_isIdle hidle uri uri other name others attributes]
          exact ⟨rfl, rfl⟩
      | false =>
          have hother := assembly.placementFault?_congr hname.sameWord uri
          cases hplace : assembly.placementFault? uri name with
          | some rule =>
              rw [elementStart_of_misplaced hidle hplace,
                elementStart_of_misplaced hidle (hother.trans hplace)]
              exact ⟨rfl, rfl⟩
          | none =>
              rw [elementStart_of_placed hidle hplace,
                elementStart_of_placed hidle (hother.trans hplace)]
              have hopened := assembly.settled.openByRole_respelled hname hattributes location
              generalize assembly.settled.openByRole uri name attributes location = first
                at hopened ⊢
              generalize assembly.settled.openByRole uri other others location = second
                at hopened ⊢
              cases hopened with
              | ok next => exact ⟨rfl, rfl⟩
              | error hfolded => exact ⟨congrArg some hfolded, rfl⟩

-- Events that are spelled in another way are refused for faults that differ in case only, or lead
-- to the same assembly.
theorem feed_respelled (assembly : Assembly) {events others : List PlacedEvent}
    (h : List.Forall₂ PlacedEvent.Respelled events others) :
    SameFolded (assembly.feed events) (assembly.feed others) := by
  induction h generalizing assembly with
  | nil => exact .ok assembly
  | @cons placed other events others hplaced hrest ih =>
      obtain ⟨hfault, hnext⟩ := assembly.step_respelled hplaced
      cases hfirst : (assembly.step placed).fault with
      | some fault =>
          rw [hfirst] at hfault
          obtain ⟨twin, hsecond, hfolded⟩ := Option.map_eq_some_iff.mp hfault
          rw [feed_of_fault hfirst, feed_of_fault hsecond]
          exact .error hfolded
      | none =>
          rw [hfirst] at hfault
          have hsecond : (assembly.step other).fault = none := Option.map_eq_none_iff.mp hfault
          rw [feed_of_no_fault hfirst, feed_of_no_fault hsecond, hnext]
          exact ih _

end Assembly

-- The case of names that the template language reserves makes no difference, whichever of them are
-- respelled: to the template, or to the fault but for the case of names in it.
theorem EventStream.assemble_respelled {events others : List PlacedEvent}
    (h : List.Forall₂ PlacedEvent.Respelled events others) (failure : Option StreamFailure)
    (resource : String) (compress : Bool) :
    ((EventStream.mk others failure).assemble resource compress).mapError Fault.folded =
      ((EventStream.mk events failure).assemble resource compress).mapError Fault.folded := by
  have hfeed := (Assembly.start resource compress).feed_respelled h
  refine SameFolded.mapError_eq ?_
  simp only [assemble]
  generalize (Assembly.start resource compress).feed events = first at hfeed ⊢
  generalize (Assembly.start resource compress).feed others = second at hfeed ⊢
  cases hfeed with
  | ok final => exact .refl _
  | error hfolded => exact .error hfolded

-- Constructs and attributes of the template language in small letters, and in other spellings.
def smallSpelling : List PlacedEvent := [
  ⟨some 1, .elementStart (some Naming.templateUri51) "extension-point" [⟨none, "id", "a"⟩]⟩,
  ⟨some 2, .elementStart none "p" [⟨some Naming.templateUri51, "id", "x"⟩,
    ⟨some Naming.templateUri50, "type", "Grid"⟩, ⟨some Naming.templateUri50, "mixins", "Zebra"⟩]⟩,
  ⟨some 2, .elementStart (some Naming.templateUri50) "parameter" [⟨none, "name", "row"⟩]⟩,
  ⟨some 2, .elementEnd (some Naming.templateUri50) "parameter"⟩,
  ⟨some 2, .elementEnd none "p"⟩,
  ⟨some 3, .elementEnd (some Naming.templateUri51) "extension-point"⟩]

def mixedSpelling : List PlacedEvent := [
  ⟨some 1, .elementStart (some Naming.templateUri51) "Extension-Point" [⟨none, "ID", "a"⟩]⟩,
  ⟨some 2, .elementStart none "p" [⟨some Naming.templateUri51, "Id", "x"⟩,
    ⟨some Naming.templateUri50, "TYPE", "Grid"⟩, ⟨some Naming.templateUri50, "mixIns", "Zebra"⟩]⟩,
  ⟨some 2, .elementStart (some Naming.templateUri50) "PARAMETER" [⟨none, "nAme", "row"⟩]⟩,
  ⟨some 2, .elementEnd (some Naming.templateUri50) "Parameter"⟩,
  ⟨some 2, .elementEnd none "p"⟩,
  ⟨some 3, .elementEnd (some Naming.templateUri51) "EXTENSION-point"⟩]

theorem EventStream.assemble_mixedSpelling :
    List.Forall₂ PlacedEvent.Respelled smallSpelling mixedSpelling ∧
      ((EventStream.mk mixedSpelling none).assemble "T.tml" true).mapError Fault.folded =
        ((EventStream.mk smallSpelling none).assemble "T.tml" true).mapError Fault.folded := by
  have hspelled : List.Forall₂ PlacedEvent.Respelled smallSpelling mixedSpelling := by
    refine .cons ⟨rfl, .elementStart _ (.inr ⟨⟨.extensionPoint, by decide⟩, by decide⟩)
      (.cons ⟨rfl, .inr ⟨by decide, by decide⟩, rfl⟩ .nil)⟩ ?_
    refine .cons ⟨rfl, .elementStart _ (.inl rfl)
      (.cons ⟨rfl, .inr ⟨by decide, by decide⟩, rfl⟩
        (.cons ⟨rfl, .inr ⟨by decide, by decide⟩, rfl⟩
          (.cons ⟨rfl, .inr ⟨by decide, by decide⟩, rfl⟩ .nil)))⟩ ?_
    refine .cons ⟨rfl, .elementStart _ (.inr ⟨⟨.parameter, by decide⟩, by decide⟩)
      (.cons ⟨rfl, .inr ⟨by decide, by decide⟩, rfl⟩ .nil)⟩ ?_
    refine .cons ⟨rfl, .elementEnd _ (.inr ⟨⟨.parameter, by decide⟩, by decide⟩)⟩ ?_
    refine .cons ⟨rfl, .same _⟩ ?_
    exact .cons ⟨rfl, .elementEnd _ (.inr ⟨⟨.extensionPoint, by decide⟩, by decide⟩)⟩ .nil
  exact ⟨hspelled, assemble_respelled hspelled none "T.tml" true⟩

end TemplateMarkup
