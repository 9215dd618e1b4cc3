import TemplateMarkup.Proofs.Assembly.Attributes

namespace TemplateMarkup

namespace Attribute

variable {attr : Attribute} {key : String}

-- The attribute of the template language that has a certain name.
def named? (key : String) (attributes : List Attribute) : Option Attribute :=
  attributes.find? (isNamed key)

theorem named?_cons (attr : Attribute) (rest : List Attribute) :
    named? key (attr :: rest) = (named? key [attr]).or (named? key rest) := by
  simp only [named?, List.find?_cons, List.find?_nil]
  cases attr.isNamed key <;> rfl

theorem named?_singleton (key : String) (attr : Attribute) :
    named? key [attr] = if attr.isNamed key then some attr else none := by
  simp only [named?, List.find?_cons, List.find?_nil]
  cases attr.isNamed key <;> rfl

-- No name of the template language is there twice, and neither is the white space setting.
structure Distinct (attributes : List Attribute) : Prop where
  id : attributes.countP (isNamed "id") ≤ 1
  componentType : attributes.countP (isNamed "type") ≤ 1
  mixins : attributes.countP (isNamed "mixins") ≤ 1
  spaceSetting : attributes.countP isSpaceSetting ≤ 1

theorem Distinct.rest {rest : List Attribute} (h : Distinct (attr :: rest)) : Distinct rest where
  id := Nat.le_trans (List.sublist_cons_self attr rest).countP_le h.id
  componentType := Nat.le_trans (List.sublist_cons_self attr rest).countP_le h.componentType
  mixins := Nat.le_trans (List.sublist_cons_self attr rest).countP_le h.mixins
  spaceSetting := Nat.le_trans (List.sublist_cons_self attr rest).countP_le h.spaceSetting

theorem named?_eq_none_or {rest : List Attribute}
    (hone : (attr :: rest).countP (isNamed key) ≤ 1) :
    named? key [attr] = none ∨ named? key rest = none := by
  rw [named?_singleton]
  cases hattr : attr.isNamed key with
  | false => exact .inl rfl
  | true =>
      rw [List.countP_cons_of_pos hattr] at hone
      have hzero : rest.countP (isNamed key) = 0 := by omega
      exact .inr (List.find?_eq_none.mpr (List.countP_eq_zero.mp hzero))

-- Of attributes with at most one of a sort it does not matter where that one stands.
theorem find?_perm {attributes others : List Attribute} {p : Attribute → Bool}
    (hperm : attributes.Perm others) (hone : attributes.countP p ≤ 1) :
    attributes.find? p = others.find? p := by
  have hfiltered : (attributes.filter p).Perm (others.filter p) := hperm.filter p
  rw [List.countP_eq_length_filter] at hone
  rw [← List.head?_filter, ← List.head?_filter]
  generalize attributes.filter p = found at hfiltered hone ⊢
  match found with
  | [] => rw [hfiltered.nil_eq]
  | [attr] => rw [List.singleton_perm.mp hfiltered]
  | attr :: next :: rest => simp at hone

end Attribute

namespace Component

open Attribute

variable {attr : Attribute} {location : Location} {component : Component} {hasType : Bool}

-- The tokens of the attributes that are passed on.
def passedTokens (hasType : Bool) (location : Location) (attributes : List Attribute) :
    Array Token :=
  ((attributes.filter fun attr => role hasType attr = .passed).map fun attr =>
    ⟨.attribute attr.uri attr.name attr.value, location⟩).toArray

theorem passedTokens_cons (attr : Attribute) (rest : List Attribute) :
    passedTokens hasType location (attr :: rest) =
      passedTokens hasType location [attr] ++ passedTokens hasType location rest := by
  rw [passedTokens, ← List.singleton_append, List.filter_append, List.map_append,
    ← List.append_toArray]
  rfl

-- Without an attribute called `type` it does not matter whether the element has one.
theorem passedTokens_congr {attributes : List Attribute}
    (h : named? "type" attributes = none) (other : Bool) :
    passedTokens hasType location attributes = passedTokens other location attributes := by
  have hroles : ∀ attr ∈ attributes,
      (role hasType attr = .passed) = (role other attr = .passed) := by
    intro attr hm
    have htype := List.find?_eq_none.mp h attr hm
    rw [role_eq_role (by simpa using htype) other]
  simp only [passedTokens]
  rw [List.filter_congr fun attr hm => decide_eq_decide.mpr (hroles attr hm).to_iff]

-- What is wrong with the id that the attributes give.
def idFault? (location : Location) (attributes : List Attribute) : Option Fault :=
  (named? "id" attributes).bind fun attr =>
    (Text.unlessBlank attr.value).bind fun id =>
      if Naming.isIdentifier id then none else some (.invalidId .component id location)

-- An element with what its attributes say about it, each on its own.
def told (component : Component) (location : Location) (attributes : List Attribute) :
    Component where
  id := (named? "id" attributes).elim component.id fun attr => Text.unlessBlank attr.value
  componentType := component.componentType.or
    ((named? "type" attributes).bind fun attr => Text.unlessBlank attr.value)
  mixins := (named? "mixins" attributes).elim component.mixins fun attr =>
    Text.unlessBlank attr.value
  passed := component.passed ++
    passedTokens component.componentType.isSome location attributes

-- An id that is no identifier is the only thing that an attribute is refused for.
theorem read_eq (component : Component) (location : Location) (attr : Attribute) :
    component.read location attr =
      match idFault? location [attr] with
      | some fault => .error fault
      | none => .ok (component.told location [attr]) := by
  obtain ⟨id, componentType, mixins, passed⟩ := component
  simp only [read, idFault?, told, passedTokens, named?_singleton]
  cases hid : attr.isNamed "id" with
  | true =>
      have htype := isNamed_eq_false hid (show Text.sameWord _ "type" = false by decide)
      have hmixins := isNamed_eq_false hid (show Text.sameWord _ "mixins" = false by decide)
      cases hvalue : Text.unlessBlank attr.value with
      | none => simp [role_of_id hid, htype, hmixins, hvalue]
      | some id =>
          cases hvalid : Naming.isIdentifier id <;>
            simp [role_of_id hid, htype, hmixins, hvalue, hvalid]
  | false =>
      cases htype : attr.isNamed "type" with
      | true =>
          have hmixins := isNamed_eq_false htype (show Text.sameWord _ "mixins" = false by decide)
          cases componentType <;> simp [role_of_type htype, hmixins]
      | false =>
          cases hmixins : attr.isNamed "mixins" with
          | true => simp [role_of_mixins hmixins]
          | false =>
              cases hignored : Text.isBlank attr.name || attr.isSpaceSetting <;>
                simp [role_of_other hid htype hmixins, hignored]

theorem idFault?_cons {attr : Attribute} {rest : List Attribute}
    (hone : (attr :: rest).countP (isNamed "id") ≤ 1) :
    idFault? location (attr :: rest) =
      (idFault? location [attr]).or (idFault? location rest) := by
  rw [idFault?, named?_cons, idFault?, idFault?]
  rcases named?_eq_none_or hone with hattr | hrest
  · simp [hattr]
  · simp [hrest]

-- What attributes say can be taken in one after the other.
theorem told_cons {attr : Attribute} {rest : List Attribute} (h : Distinct (attr :: rest)) :
    (component.told location [attr]).told location rest =
      component.told location (attr :: rest) := by
  simp only [told, mk.injEq]
  rw [named?_cons attr rest, named?_cons attr rest, named?_cons attr rest,
    passedTokens_cons attr rest]
  refine ⟨?_, ?_, ?_, ?_⟩
  · rcases named?_eq_none_or h.id with hattr | hrest
    · simp [hattr]
    · simp [hrest]
  · rcases named?_eq_none_or h.componentType with hattr | hrest
    · simp [hattr]
    · simp [hrest]
  · rcases named?_eq_none_or h.mixins with hattr | hrest
    · simp [hattr]
    · simp [hrest]
  · rw [Array.append_assoc]
    congr 2
    rcases named?_eq_none_or h.componentType with hattr | hrest
    · simp [hattr]
    · exact passedTokens_congr hrest _

-- Where no name is there twice, all that reading does is to look up each name.
theorem readAll_eq {attributes : List Attribute} (h : Distinct attributes) :
    component.readAll location attributes =
      match idFault? location attributes with
      | some fault => .error fault
      | none => .ok (component.told location attributes) := by
  induction attributes generalizing component with
  | nil => simp [readAll, idFault?, named?, told, passedTokens, pure, Except.pure]
  | cons attr rest ih =>
      rw [readAll_cons, read_eq, idFault?_cons h.id]
      cases idFault? location [attr] with
      | some fault => rfl
      | none => rw [Option.none_or, ← told_cons h]; exact ih h.rest

end Component

namespace Attribute

variable {attributes others : List Attribute}

theorem Distinct.perm (h : Distinct attributes) (hperm : attributes.Perm others) :
    Distinct others where
  id := Nat.le_trans (Nat.le_of_eq (hperm.symm.countP_eq _)) h.id
  componentType := Nat.le_trans (Nat.le_of_eq (hperm.symm.countP_eq _)) h.componentType
  mixins := Nat.le_trans (Nat.le_of_eq (hperm.symm.countP_eq _)) h.mixins
  spaceSetting := Nat.le_trans (Nat.le_of_eq (hperm.symm.countP_eq _)) h.spaceSetting

theorem compression?_perm (h : Distinct attributes) (hperm : attributes.Perm others) :
    compression? others = compression? attributes := by
  rw [compression?, compression?, find?_perm hperm h.spaceSetting]

end Attribute

namespace Component

variable {attributes others : List Attribute} {location : Location}

theorem idFault?_perm (h : Attribute.Distinct attributes) (hperm : attributes.Perm others) :
    idFault? location others = idFault? location attributes := by
  rw [idFault?, idFault?, Attribute.named?, Attribute.named?, Attribute.find?_perm hperm h.id]

-- The order of the attributes shows in those that are passed on alone.
theorem told_perm (component : Component) (h : Attribute.Distinct attributes)
    (hperm : attributes.Perm others) :
    { component.told location others with passed := #[] } =
      { component.told location attributes with passed := #[] } := by
  simp only [told, Attribute.named?, Attribute.find?_perm hperm h.id,
    Attribute.find?_perm hperm h.componentType, Attribute.find?_perm hperm h.mixins]

end Component

-- Whether an element is a component or becomes one by its attributes. The constructs of the
-- template language and block parameters never are.
def ElementRole.mayBeComponent : ElementRole → Bool
  | .plain | .component _ | .strayLibrary _ => true
  | .directive _ | .blockParameter => false

-- Whether an element has a component type by its name.
def ElementRole.namesType : ElementRole → Bool
  | .component _ => true
  | _ => false

namespace Assembly

variable {attributes others : List Attribute} {location : Location} {hasType : Bool}

-- The attributes that are passed on stand behind all else that the start of an element leaves.
theorem openRead_passed (assembly : Assembly) (uri element : Option String)
    (component : Component) (compress : Bool) (location : Location) :
    assembly.openRead uri element component compress location =
      (assembly.openRead uri element { component with passed := #[] } compress location).map
        fun next => next.emit component.passed := by
  let unpassed := { component with passed := #[] }
  by_cases hlost : (component.mixins.isSome && !component.isComponent) = true
  · have hunpassed : assembly.openRead uri element unpassed compress location =
        .error (.mixinsWithoutIdentity element location) := if_pos hlost
    rw [hunpassed, openRead, if_pos hlost]
    rfl
  · have hunpassed : assembly.openRead uri element unpassed compress location =
        (assembly.register component.id location).map _ := if_neg hlost
    rw [hunpassed, openRead, if_neg hlost]
    cases assembly.register component.id location with
    | error fault => rfl
    | ok noted =>
        have hform : unpassed.startForm uri element = component.startForm uri element := rfl
        have hpart : unpassed.isComponent = component.isComponent := rfl
        have hpassed : unpassed.passed ++ component.passed = component.passed := Array.empty_append
        simp only [Except.map, emit, startTokens, Array.append_assoc, hform, hpart, hpassed]

-- Opens an element of the output without the attributes that are passed on.
def openUnpassed (assembly : Assembly) (uri element componentType : Option String)
    (attributes : List Attribute) (compress : Bool) (location : Location) :
    Except Fault Assembly :=
  match Component.idFault? location attributes with
  | some fault => .error fault
  | none =>
    assembly.openRead uri element
      { (Component.ofType componentType).told location attributes with passed := #[] }
      compress location

theorem openOutput_eq_map (assembly : Assembly) (h : Attribute.Distinct attributes)
    (uri element componentType : Option String) (compress : Bool) (location : Location) :
    assembly.openOutput uri element componentType attributes compress location =
      (assembly.openUnpassed uri element componentType attributes compress location).map
        fun next =>
          next.emit (Component.passedTokens componentType.isSome location attributes) := by
  have hpassed : ((Component.ofType componentType).told location attributes).passed =
      Component.passedTokens componentType.isSome location attributes := Array.empty_append
  rw [openOutput_eq_bind, Component.readAll_eq h, openUnpassed]
  cases Component.idFault? location attributes with
  | some fault => rfl
  | none => rw [Except.bind, openRead_passed, hpassed]

theorem openUnpassed_perm (assembly : Assembly) (h : Attribute.Distinct attributes)
    (hperm : attributes.Perm others) (uri element componentType : Option String)
    (compress : Bool) (location : Location) :
    assembly.openUnpassed uri element componentType others compress location =
      assembly.openUnpassed uri element componentType attributes compress location := by
  rw [openUnpassed, openUnpassed, Component.idFault?_perm h hperm, Component.told_perm _ h hperm]

-- Elements that may be components come to the same in either order, but for the tokens of the
-- attributes that are passed on, which each order leaves behind the rest.
theorem openByRole_reordered (assembly : Assembly) (h : Attribute.Distinct attributes)
    (hperm : attributes.Perm others) {uri : Option String} {name : String}
    (hrole : (ElementRole.ofName uri name).mayBeComponent = true) (location : Location) :
    ∃ result : Except Fault Assembly,
      ∀ order ∈ [attributes, others], assembly.openByRole uri name order location =
        result.map fun next => next.emit
          (Component.passedTokens (ElementRole.ofName uri name).namesType location order) := by
  have hcompress := Attribute.compression?_perm h hperm
  let compress := (Attribute.compression? attributes).getD assembly.compressing
  have hopened : ∀ element componentType, ∀ order ∈ [attributes, others],
      assembly.openOutput uri element componentType order
        ((Attribute.compression? order).getD assembly.compressing) location =
      (assembly.openUnpassed uri element componentType attributes compress location).map
        fun next => next.emit (Component.passedTokens componentType.isSome location order) := by
    intro element componentType order hm
    simp only [List.mem_cons, List.not_mem_nil, or_false] at hm
    rcases hm with rfl | rfl
    · exact assembly.openOutput_eq_map h uri element componentType compress location
    · rw [assembly.openOutput_eq_map (h.perm hperm), assembly.openUnpassed_perm h hperm, hcompress]
  simp only [openByRole_eq]
  cases hname : ElementRole.ofName uri name with
  | plain => exact ⟨_, hopened (some name) none⟩
  | component componentType => exact ⟨_, hopened none (some componentType)⟩
  | strayLibrary uri => exact ⟨.error (.invalidLibraryPath uri location), fun _ _ => rfl⟩
  | directive | blockParameter => rw [hname] at hrole; cases hrole

-- Attributes stand in any order, as long as no name of the template language and no white space
-- setting is there twice. At any place an element that may be a component is refused for the same
-- fault, or leads to the same assembly but for the attribute tokens, which stand at the end in the
-- order of their attributes.
theorem step_reordered (h : Attribute.Distinct attributes) (hperm : attributes.Perm others)
    {uri : Option String} {name : String}
    (hrole : (ElementRole.ofName uri name).mayBeComponent = true) (assembly : Assembly)
    (line : Option Nat) :
    let first := assembly.step ⟨line, .elementStart uri name attributes⟩
    let second := assembly.step ⟨line, .elementStart uri name others⟩
    let shown := fun order : List Attribute =>
      if first.fault.isNone && !assembly.isIdle then
        Component.passedTokens (ElementRole.ofName uri name).namesType (assembly.place line) order
      else #[]
    second.fault = first.fault ∧
      ∃ front, first.next.tokens = front ++ shown attributes ∧
        second.next = { first.next with tokens := front ++ shown others } := by
  intro first second shown
  -- Where nothing is opened there are no tokens to tell the orders apart.
  have halike : second = first → (first.fault.isNone && !assembly.isIdle) = false →
      second.fault = first.fault ∧ ∃ front, first.next.tokens = front ++ shown attributes ∧
        second.next = { first.next with tokens := front ++ shown others } := by
    intro hsame hnone
    rw [hsame]
    exact ⟨rfl, first.next.tokens, by simp [shown, hnone], by simp [shown, hnone]⟩
  cases hidle : assembly.isIdle with
  | true =>
      exact halike (elementStart_of_isIdle hidle uri uri name name _ _ _) (by simp [hidle])
  | false =>
      cases hplace : assembly.placementFault? uri name with
      | some rule =>
          have hfirst : first = .refused _ _ := elementStart_of_misplaced hidle hplace _ _
          have hsecond : second = .refused _ _ := elementStart_of_misplaced hidle hplace _ _
          exact halike (hsecond.trans hfirst.symm) (by rw [hfirst]; rfl)
      | none =>
          obtain ⟨result, hresult⟩ := assembly.settled.openByRole_reordered h hperm hrole
            (assembly.place line)
          have hfirst : first = _ := elementStart_of_placed hidle hplace _ _
          have hsecond : second = _ := elementStart_of_placed hidle hplace _ _
          rw [hresult attributes (by simp)] at hfirst
          rw [hresult others (by simp)] at hsecond
          cases result with
          | error fault =>
              replace hfirst : first = .refused fault _ := hfirst
              exact halike (hsecond.trans hfirst.symm) (by rw [hfirst]; rfl)
          | ok opened =>
              replace hfirst : first = .accepted (opened.emit _) := hfirst
              replace hsecond : second = .accepted (opened.emit _) := hsecond
              have hshown : (first.fault.isNone && !assembly.isIdle) = true := by
                rw [hfirst, hidle]
                rfl
              simp only [shown, hshown, if_true]
              rw [hfirst, hsecond]
              exact ⟨rfl, opened.tokens, rfl, rfl⟩

-- Attributes of all kinds, with names of the template language in both its namespaces.
def mixedAttributes : List Attribute := [
  ⟨none, "class", "wide"⟩, ⟨some Naming.templateUri51, "ID", "grid"⟩,
  ⟨some Naming.templateUri50, "rows", "3"⟩, ⟨some Naming.templateUri50, "Type", "Grid"⟩,
  ⟨some Naming.xmlUri, "space", "preserve"⟩, ⟨some Naming.templateUri51, "mixins", "Zebra"⟩]

theorem step_reordered_backwards :
    Attribute.Distinct mixedAttributes ∧ mixedAttributes.Perm mixedAttributes.reverse ∧
      (ElementRole.ofName none "table").mayBeComponent = true ∧
      let first := (start "T.tml" true).step ⟨some 2, .elementStart none "table" mixedAttributes⟩
      let second := (start "T.tml" true).step
        ⟨some 2, .elementStart none "table" mixedAttributes.reverse⟩
      let shown := fun order : List Attribute =>
        if first.fault.isNone && !(start "T.tml" true).isIdle then
          Component.passedTokens (ElementRole.ofName none "table").namesType
            ((start "T.tml" true).place (some 2)) order
        else #[]
      second.fault = first.fault ∧
        ∃ front, first.next.tokens = front ++ shown mixedAttributes ∧
          second.next = { first.next with tokens := front ++ shown mixedAttributes.reverse } := by
  have hdistinct : Attribute.Distinct mixedAttributes := by constructor <;> decide
  have hperm : mixedAttributes.Perm mixedAttributes.reverse := (List.reverse_perm _).symm
  exact ⟨hdistinct, hperm, rfl, step_reordered hdistinct hperm rfl _ _⟩

end Assembly

end TemplateMarkup
