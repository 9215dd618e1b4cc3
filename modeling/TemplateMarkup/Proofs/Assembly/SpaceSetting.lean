import TemplateMarkup.Proofs.Assembly.Attributes
import TemplateMarkup.Proofs.Assembly.Reach

namespace TemplateMarkup

variable {front back : List Attribute} {setting : Attribute}

namespace Attribute

theorem compression?_of_none {attributes : List Attribute}
    (hnone : ∀ attr ∈ attributes, attr.isSpaceSetting = false) :
    compression? attributes = none := by
  have hfind : attributes.find? isSpaceSetting = none :=
    List.find?_eq_none.mpr fun attr hm => by simp [hnone attr hm]
  rw [compression?, hfind]
  rfl

theorem compression?_of_inserted (hsetting : setting.isSpaceSetting = true)
    (hnone : ∀ attr ∈ front ++ back, attr.isSpaceSetting = false) :
    compression? (front ++ setting :: back) = some (setting.value != "preserve") := by
  have hfront : front.find? isSpaceSetting = none :=
    List.find?_eq_none.mpr fun attr hm => by simp [hnone attr (List.mem_append_left back hm)]
  rw [compression?, List.find?_append, hfront, List.find?_cons_of_pos hsetting]
  rfl

end Attribute

-- A white space setting says nothing about the component.
theorem Component.readAll_inserted (component : Component) (location : Location)
    (hsetting : setting.isSpaceSetting = true) :
    component.readAll location (front ++ setting :: back) =
      component.readAll location (front ++ back) := by
  have hread : ∀ found : Component, found.read location setting = .ok found := by
    intro found
    simp [read, role, hsetting]
  rw [readAll, readAll, List.foldlM_append, List.foldlM_append]
  cases front.foldlM (read location) component with
  | error fault => rfl
  | ok found =>
      show (setting :: back).foldlM (read location) found = back.foldlM (read location) found
      rw [List.foldlM_cons, hread]
      rfl

namespace Assembly

variable {assembly : Assembly} {location : Location}

theorem onlyAttribute_inserted (element key : String) (location : Location)
    (found : Option String) (hsetting : setting.isSpaceSetting = true) :
    onlyAttribute element key location found (front ++ setting :: back) =
      onlyAttribute element key location found (front ++ back) := by
  induction front generalizing found with
  | nil => rw [List.nil_append, onlyAttribute, if_pos hsetting, List.nil_append]
  | cons attr rest ih => simp only [List.cons_append, onlyAttribute, ih]

theorem requiredAttribute_inserted (element key : String) (location : Location)
    (hsetting : setting.isSpaceSetting = true) :
    requiredAttribute element key location (front ++ setting :: back) =
      requiredAttribute element key location (front ++ back) := by
  rw [requiredAttribute, requiredAttribute,
    onlyAttribute_inserted element key location none hsetting]

-- The assembly with another white space setting for the innermost open element.
def withCompression (assembly : Assembly) (compress : Bool) : Assembly :=
  match assembly.scopes with
  | [] => assembly
  | scope :: outer => { assembly with scopes := { scope with compress := compress } :: outer }

-- The setting that an element is opened with goes to its scope and nowhere else.
theorem openRead_withCompression (assembly : Assembly) (uri element : Option String)
    (component : Component) (compress other : Bool) (location : Location) :
    assembly.openRead uri element component other location =
      (assembly.openRead uri element component compress location).map
        (·.withCompression other) := by
  simp only [openRead]
  split
  · rfl
  · cases assembly.register component.id location <;> rfl

theorem openDirective_withCompression (assembly : Assembly) (directive : Directive)
    (name : String) (attributes : List Attribute) (compress other : Bool) (location : Location) :
    assembly.openDirective directive name attributes other location =
      (assembly.openDirective directive name attributes compress location).map
        (·.withCompression other) := by
  cases directive with
  | remove | body => rfl
  | content | extend | container =>
      simp only [openDirective_eq]
      split <;> rfl
  | extensionPoint =>
      simp only [openDirective_eq]
      cases requiredAttribute name "id" location attributes with
      | error fault => rfl
      | ok id =>
          simp only [bind, Except.bind]
          split <;> rfl
  | replace =>
      simp only [openDirective_eq]
      split
      · rfl
      · cases requiredAttribute name "id" location attributes <;> rfl
  | block =>
      simp only [openDirective_eq]
      cases requiredAttribute name "id" location attributes with
      | error fault => rfl
      | ok id =>
          simp only [bind, Except.bind]
          split <;> rfl
  | parameter =>
      simp only [openDirective_eq]
      cases requiredAttribute name "name" location attributes with
      | error fault => rfl
      | ok label =>
          simp only [bind, Except.bind]
          split <;> rfl

-- Block parameters take no attribute in front, this one included. All other elements do.
theorem openByRole_inserted (assembly : Assembly) (hsetting : setting.isSpaceSetting = true)
    (hnone : ∀ attr ∈ front ++ back, attr.isSpaceSetting = false) (uri : Option String)
    (name : String) (location : Location)
    (hslot : ElementRole.ofName uri name = .blockParameter → assembly.inComponent = true →
      front ≠ []) :
    assembly.openByRole uri name (front ++ setting :: back) location =
      (assembly.openByRole uri name (front ++ back) location).map
        (·.withCompression (setting.value != "preserve")) := by
  have hplain : Attribute.compression? (front ++ back) = none :=
    Attribute.compression?_of_none hnone
  have hspaced := Attribute.compression?_of_inserted hsetting hnone
  have houtput : ∀ element componentType,
      assembly.openOutput uri element componentType (front ++ setting :: back)
          (setting.value != "preserve") location =
        (assembly.openOutput uri element componentType (front ++ back) assembly.compressing
          location).map (·.withCompression (setting.value != "preserve")) := by
    intro element componentType
    rw [openOutput_eq_bind, openOutput_eq_bind, Component.readAll_inserted _ _ hsetting]
    cases (Component.ofType componentType).readAll location (front ++ back) with
    | error fault => rfl
    | ok component => exact assembly.openRead_withCompression uri element component _ _ location
  simp only [openByRole_eq, hplain, hspaced, Option.getD_some, Option.getD_none]
  cases hrole : ElementRole.ofName uri name with
  | plain => exact houtput (some name) none
  | component componentType => exact houtput none (some componentType)
  | directive found =>
      dsimp only
      rw [assembly.openDirective_congr found (setting.value != "preserve") fun key =>
        requiredAttribute_inserted name key location hsetting]
      exact assembly.openDirective_withCompression found name _ _ _ location
  | blockParameter =>
      simp only [openBlockParameter_eq]
      cases hinside : assembly.inComponent with
      | false => rfl
      | true =>
          cases hfront : front with
          | nil => exact absurd hfront (hslot hrole hinside)
          | cons attr rest => rfl
  | strayLibrary uri => rfl

-- Whether an element is a block parameter that may stand at its place.
def admitsBlockParameter (assembly : Assembly) (uri : Option String) (name : String) : Bool :=
  !assembly.isIdle && (assembly.placementFault? uri name).isNone &&
    ElementRole.ofName uri name == .blockParameter && assembly.inComponent

-- A white space setting may stand anywhere among the attributes of an element that has none yet.
-- Whether the element is accepted does not depend on it, and neither does anything behind the
-- element but the setting of the scope that it opens. Only a block parameter of its own namespace,
-- which takes no attributes, is refused for a setting that comes first.
theorem step_spaced (hsetting : setting.isSpaceSetting = true)
    (hnone : ∀ attr ∈ front ++ back, attr.isSpaceSetting = false) (assembly : Assembly)
    (line : Option Nat) (uri : Option String) (name : String) :
    let plain := assembly.step ⟨line, .elementStart uri name (front ++ back)⟩
    let spaced := assembly.step ⟨line, .elementStart uri name (front ++ setting :: back)⟩
    if assembly.admitsBlockParameter uri name && front.isEmpty then
      spaced = .refused (.unsupportedAttribute name setting.name none (assembly.place line))
        assembly.settled
    else
      spaced.fault = plain.fault ∧
        spaced.next =
          if plain.fault.isNone && !assembly.isIdle then
            plain.next.withCompression (setting.value != "preserve")
          else plain.next := by
  intro plain spaced
  cases hidle : assembly.isIdle with
  | true =>
      have hsame : spaced = plain := elementStart_of_isIdle hidle uri uri name name _ _ _
      simp [admitsBlockParameter, hidle, hsame]
  | false =>
      cases hplace : assembly.placementFault? uri name with
      | some rule =>
          have hplain : plain = _ := elementStart_of_misplaced hidle hplace _ _
          have hspaced : spaced = _ := elementStart_of_misplaced hidle hplace _ _
          simp [hplain, hspaced, admitsBlockParameter, hplace, Reaction.refused]
      | none =>
          have hplain : plain = _ := elementStart_of_placed hidle hplace _ _
          have hspaced : spaced = _ := elementStart_of_placed hidle hplace _ _
          have hadmits : assembly.admitsBlockParameter uri name =
              (ElementRole.ofName uri name == .blockParameter && assembly.settled.inComponent) := by
            simp [admitsBlockParameter, hidle, hplace, inComponent]
          split
          · rename_i hfirst
            simp only [hadmits, Bool.and_eq_true, beq_iff_eq, List.isEmpty_iff] at hfirst
            obtain ⟨⟨hrole, hinside⟩, rfl⟩ := hfirst
            rw [hspaced]
            simp [openByRole_eq, hrole, openBlockParameter_eq, hinside]
          · rename_i hlater
            have hslot : ElementRole.ofName uri name = .blockParameter →
                assembly.settled.inComponent = true → front ≠ [] := by
              rintro hrole hinside rfl
              simp [hadmits, hrole, hinside] at hlater
            rw [assembly.settled.openByRole_inserted hsetting hnone uri name _ hslot] at hspaced
            rw [hspaced, hplain]
            cases assembly.settled.openByRole uri name (front ++ back) (assembly.place line) with
            | error fault => exact ⟨rfl, rfl⟩
            | ok next => exact ⟨rfl, rfl⟩

-- The start of a component and text inside it.
def conditionEvents : List PlacedEvent := [
  ⟨some 1, .elementStart (some Naming.templateUri51) "if" [⟨none, "test", "user"⟩]⟩,
  ⟨some 1, .text " a "⟩]

def preserving : Attribute :=
  ⟨some Naming.xmlUri, "space", "preserve"⟩

theorem step_spaced_block :
    let inside := (start "T.tml" true).after conditionEvents
    let id : Attribute := ⟨none, "id", "a"⟩
    preserving.isSpaceSetting = true ∧
      (∀ attr ∈ [id] ++ [], attr.isSpaceSetting = false) ∧
      let plain := inside.step ⟨some 2, .elementStart (some Naming.templateUri51) "block" [id]⟩
      let spaced := inside.step
        ⟨some 2, .elementStart (some Naming.templateUri51) "block" [id, preserving]⟩
      spaced.fault = plain.fault ∧ spaced.next = plain.next.withCompression false := by
  intro inside id
  have hnone : ∀ attr ∈ [id] ++ [], attr.isSpaceSetting = false := by decide
  have hsetting : preserving.isSpaceSetting = true := rfl
  have hspaced := step_spaced hsetting hnone inside (some 2) (some Naming.templateUri51) "block"
  have haccepted : ((inside.step ⟨some 2, .elementStart (some Naming.templateUri51) "block"
      ([id] ++ [])⟩).fault.isNone && !inside.isIdle) = true := by decide +kernel
  dsimp only at hspaced
  rw [if_neg (by decide +kernel), haccepted, if_pos rfl] at hspaced
  exact ⟨hsetting, hnone, hspaced⟩

-- A block parameter of its own namespace takes no white space setting.
theorem not_spaced_blockParameter :
    ¬ ∀ (assembly : Assembly) (line : Option Nat) (uri : Option String) (name : String)
        (front back : List Attribute) (setting : Attribute), assembly.Reachable →
      setting.isSpaceSetting = true → (∀ attr ∈ front ++ back, attr.isSpaceSetting = false) →
      (assembly.step ⟨line, .elementStart uri name (front ++ setting :: back)⟩).fault =
        (assembly.step ⟨line, .elementStart uri name (front ++ back)⟩).fault := by
  intro hall
  have hsame := hall ((start "T.tml" true).after conditionEvents) (some 2)
    (some Naming.parameterUri) "else" [] [] preserving ⟨"T.tml", true, conditionEvents, rfl⟩ rfl
    (by simp)
  revert hsame
  decide +kernel

end Assembly

end TemplateMarkup
