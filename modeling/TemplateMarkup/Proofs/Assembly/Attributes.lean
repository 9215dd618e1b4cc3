import TemplateMarkup.Proofs.Assembly.Extend

namespace TemplateMarkup

namespace Text

variable {name other : String}

theorem sameWord_congr (h : sameWord name other = true) (word : String) :
    sameWord name word = sameWord other word := by
  simp only [sameWord, beq_iff_eq] at h ⊢
  rw [h]

theorem isSpace_toLower (c : Char) : isSpace c.toLower = isSpace c := by
  have hletter : ∀ d : Char, 65 ≤ d.toNat → d.toNat ≤ 122 → isSpace d = false := by
    intro d hlow hhigh
    simp [isSpace]
    omega
  unfold Char.toLower
  split
  · rename_i hupper
    have hlow : 65 ≤ c.toNat := hupper.1
    have hhigh : c.toNat ≤ 90 := hupper.2
    have hval : (c.val + ('a'.val - 'A'.val)).toNat = c.toNat + 32 := by
      rw [UInt32.toNat_add, Nat.mod_eq_of_lt]
      · rfl
      · exact Nat.lt_of_le_of_lt (Nat.add_le_add_right hhigh 32) (by decide)
    rw [hletter c hlow (by omega)]
    refine hletter _ ?_ ?_
    · exact Nat.le_trans (Nat.le_add_right_of_le hlow) (Nat.le_of_eq hval.symm)
    · exact Nat.le_trans (Nat.le_of_eq hval) (Nat.add_le_add_right hhigh 32)
  · rfl

theorem isBlank_congr (h : sameWord name other = true) : isBlank name = isBlank other := by
  have hlower : ∀ text : String, isBlank text = (text.toList.map Char.toLower).all isSpace := by
    intro text
    rw [List.all_map, isBlank]
    exact congrArg _ (funext fun c => (isSpace_toLower c).symm)
  simp only [sameWord, beq_iff_eq] at h
  rw [hlower, hlower, h]

end Text

namespace Attribute

variable {attr : Attribute} {key : String}

-- Whether an attribute is of the template language and has a certain name.
def isNamed (key : String) (attr : Attribute) : Bool :=
  attr.isReserved && Text.sameWord attr.name key

theorem isNamed_eq_false (h : attr.isNamed key = true) {other : String}
    (hwords : Text.sameWord key other = false) : attr.isNamed other = false := by
  rw [isNamed, Bool.and_eq_true] at h
  rw [isNamed, Text.sameWord_eq_false h.2 hwords, Bool.and_false]

theorem isSpaceSetting_of_isReserved (h : attr.isReserved = true) :
    attr.isSpaceSetting = false := by
  unfold isReserved at h
  split at h
  · rename_i uri huri
    have hne : uri ≠ Naming.xmlUri := by
      rintro rfl
      exact absurd h (by decide)
    simp [isSpaceSetting, huri, hne]
  · cases h

end Attribute

namespace Component

open Attribute

variable {attr : Attribute} {location : Location} {component : Component} {hasType : Bool}

theorem role_of_reserved {key : String} (h : attr.isNamed key = true)
    (hblank : Text.isBlank key = false) :
    role hasType attr =
      if Text.sameWord key "id" then .id
      else if !hasType && Text.sameWord key "type" then .componentType
      else if Text.sameWord key "mixins" then .mixins
      else .passed := by
  rw [isNamed, Bool.and_eq_true] at h
  have hname : Text.isBlank attr.name = false := (Text.isBlank_congr h.2).trans hblank
  simp [role, hname, isSpaceSetting_of_isReserved h.1, h.1, Text.sameWord_congr h.2]

theorem role_of_id (h : attr.isNamed "id" = true) : role hasType attr = .id := by
  rw [role_of_reserved h (by decide), if_pos (by decide)]

theorem role_of_mixins (h : attr.isNamed "mixins" = true) : role hasType attr = .mixins := by
  rw [role_of_reserved h (by decide)]
  cases hasType <;> decide

theorem role_of_type (h : attr.isNamed "type" = true) :
    role hasType attr = if hasType then .passed else .componentType := by
  rw [role_of_reserved h (by decide)]
  cases hasType <;> decide

-- All other attributes are passed on or ignored, whether the element has a type or not.
theorem role_of_other (hid : attr.isNamed "id" = false) (htype : attr.isNamed "type" = false)
    (hmixins : attr.isNamed "mixins" = false) :
    role hasType attr =
      if Text.isBlank attr.name || attr.isSpaceSetting then .ignored else .passed := by
  cases hreserved : attr.isReserved with
  | false => simp [role, hreserved]
  | true =>
      simp only [isNamed, hreserved, Bool.true_and] at hid htype hmixins
      simp [role, hreserved, hid, htype, hmixins]

-- Only the name `type` means something else once the element has a type.
theorem role_eq_role (htype : attr.isNamed "type" = false) (other : Bool) :
    role hasType attr = role other attr := by
  cases hid : attr.isNamed "id" with
  | true => rw [role_of_id hid, role_of_id hid]
  | false =>
      cases hmixins : attr.isNamed "mixins" with
      | true => rw [role_of_mixins hmixins, role_of_mixins hmixins]
      | false => rw [role_of_other hid htype hmixins, role_of_other hid htype hmixins]

-- An attribute gives the element a type under one name only, and while it has none.
theorem role_eq_componentType_iff :
    role hasType attr = .componentType ↔ hasType = false ∧ attr.isNamed "type" = true := by
  cases htype : attr.isNamed "type" with
  | true => cases hasType <;> simp [role_of_type htype]
  | false =>
      cases hid : attr.isNamed "id" with
      | true => simp [role_of_id hid]
      | false =>
          cases hmixins : attr.isNamed "mixins" with
          | true => simp [role_of_mixins hmixins]
          | false =>
              rw [role_of_other hid htype hmixins]
              split <;> simp

-- No attribute but a type changes the type of the element.
theorem componentType_of_read {next : Component}
    (hrole : role component.componentType.isSome attr ≠ .componentType)
    (h : component.read location attr = .ok next) :
    next.componentType = component.componentType := by
  unfold read at h
  split at h
  · cases h; rfl
  · split at h
    · cases h; rfl
    · split at h
      · cases h; rfl
      · cases h
  · contradiction
  · cases h; rfl
  · cases h; rfl

theorem readAll_cons (rest : List Attribute) :
    component.readAll location (attr :: rest) =
      (component.read location attr).bind fun next => next.readAll location rest := by
  rw [readAll, List.foldlM_cons]
  rfl

end Component

namespace Assembly

-- Opens an element of the output whose attributes have been read.
def openRead (assembly : Assembly) (uri element : Option String) (component : Component)
    (compress : Bool) (location : Location) : Except Fault Assembly :=
  if component.mixins.isSome && !component.isComponent then
    .error (.mixinsWithoutIdentity element location)
  else
    (assembly.register component.id location).map fun noted =>
      { noted with
        tokens := noted.tokens ++ startTokens component uri element noted.bindings location
        scopes := ⟨compress, component.isComponent, .element⟩ :: noted.scopes
        bindings := #[] }

theorem openOutput_eq_bind (assembly : Assembly) (uri element componentType : Option String)
    (attributes : List Attribute) (compress : Bool) (location : Location) :
    assembly.openOutput uri element componentType attributes compress location =
      ((Component.ofType componentType).readAll location attributes).bind fun component =>
        assembly.openRead uri element component compress location := by
  simp only [openOutput_eq, openRead]
  cases (Component.ofType componentType).readAll location attributes with
  | error fault => rfl
  | ok component =>
      dsimp only [Except.bind]
      split
      · rfl
      · cases assembly.register component.id location <;> rfl

-- A construct sees no more of its attributes than the one that it requires.
theorem openDirective_congr (assembly : Assembly) (directive : Directive) {name : String}
    {attributes others : List Attribute} (compress : Bool) {location : Location}
    (h : ∀ key, requiredAttribute name key location attributes =
      requiredAttribute name key location others) :
    assembly.openDirective directive name attributes compress location =
      assembly.openDirective directive name others compress location := by
  cases directive <;> simp only [openDirective_eq, h]

end Assembly

end TemplateMarkup
