import TemplateMarkup.Assembly.Step

namespace TemplateMarkup

namespace Action

variable {α β : Type} {action : Action α}

-- What an action comes to, whatever it leaves behind where it is refused.
def outcome (action : Action Unit) (assembly : Assembly) : Except Fault Assembly :=
  match action.run assembly with
  | .ok _ next => .ok next
  | .error fault _ => .error fault

-- An action that changes nothing before it is refused.
def Careful (action : Action α) : Prop :=
  ∀ assembly fault left, action.run assembly = .error fault left → left = assembly

-- An action that changes nothing at all.
def OnlyLooks (action : Action α) : Prop :=
  ∀ assembly,
    (∃ found, action.run assembly = .ok found assembly) ∨
      ∃ fault, action.run assembly = .error fault assembly

-- An action that is never refused.
def Succeeds (action : Action α) : Prop :=
  ∀ assembly, ∃ found next, action.run assembly = .ok found next

section Sequences

theorem OnlyLooks.careful (h : action.OnlyLooks) : action.Careful := by
  intro assembly fault left hrun
  rcases h assembly with ⟨found, hlooks⟩ | ⟨other, hlooks⟩
  · rw [hlooks] at hrun
    cases hrun
  · rw [hlooks] at hrun
    cases hrun
    rfl

theorem Succeeds.careful (h : action.Succeeds) : action.Careful := by
  intro assembly fault left hrun
  obtain ⟨found, next, hsucceeds⟩ := h assembly
  rw [hsucceeds] at hrun
  cases hrun

theorem Succeeds.bind {next : α → Action β} (h : action.Succeeds)
    (hnext : ∀ found, (next found).Succeeds) : (action >>= next).Succeeds := by
  intro assembly
  obtain ⟨found, middle, hrun⟩ := h assembly
  obtain ⟨value, last, hlast⟩ := hnext found middle
  refine ⟨value, last, ?_⟩
  rw [EStateM.run_bind, hrun]
  exact hlast

-- Looking comes before anything that may be refused, and changes come after it.
theorem OnlyLooks.bind_careful {next : α → Action β} (h : action.OnlyLooks)
    (hnext : ∀ found, (next found).Careful) : (action >>= next).Careful := by
  intro assembly fault left hrun
  rw [EStateM.run_bind] at hrun
  rcases h assembly with ⟨found, hlooks⟩ | ⟨other, hlooks⟩
  · rw [hlooks] at hrun
    exact hnext found assembly fault left hrun
  · rw [hlooks] at hrun
    cases hrun
    rfl

theorem Careful.bind_succeeds {next : α → Action β} (h : action.Careful)
    (hnext : ∀ found, (next found).Succeeds) : (action >>= next).Careful := by
  intro assembly fault left hrun
  rw [EStateM.run_bind] at hrun
  cases hfirst : action.run assembly with
  | ok found middle =>
      obtain ⟨value, last, hlast⟩ := hnext found middle
      simp only [hfirst, hlast] at hrun
      cases hrun
  | error other middle =>
      rw [hfirst] at hrun
      cases hrun
      exact h assembly fault left hfirst

end Sequences

section Steps

theorem onlyLooks_get : (get : Action Assembly).OnlyLooks :=
  fun assembly => .inl ⟨assembly, rfl⟩

theorem onlyLooks_throw (fault : Fault) : (throw fault : Action α).OnlyLooks :=
  fun _ => .inr ⟨fault, rfl⟩

theorem onlyLooks_ensure (condition : Bool) (fault : Fault) :
    (ensure condition fault).OnlyLooks := by
  intro assembly
  cases condition with
  | true => exact .inl ⟨(), rfl⟩
  | false => exact .inr ⟨fault, rfl⟩

theorem onlyLooks_ofExcept (value : Except Fault α) : (ofExcept value).OnlyLooks := by
  intro assembly
  cases value with
  | ok found => exact .inl ⟨found, rfl⟩
  | error fault => exact .inr ⟨fault, rfl⟩

theorem succeeds_modify (change : Assembly → Assembly) :
    (modify change : Action Unit).Succeeds :=
  fun assembly => ⟨(), change assembly, rfl⟩

theorem succeeds_takeTokens : takeTokens.Succeeds :=
  fun assembly => ⟨assembly.tokens, { assembly with tokens := #[] }, rfl⟩

theorem succeeds_takeBindings : takeBindings.Succeeds :=
  fun assembly => ⟨assembly.bindings, { assembly with bindings := #[] }, rfl⟩

end Steps

section Openers

theorem careful_register (id : Option String) (location : Location) :
    (register id location).Careful := by
  cases id with
  | none => exact Succeeds.careful fun assembly => ⟨(), assembly, rfl⟩
  | some id =>
      refine onlyLooks_get.bind_careful fun assembly => ?_
      cases assembly.ids.get? id with
      | some first => exact (onlyLooks_throw _).careful
      | none => exact (succeeds_modify _).careful

theorem careful_openOutput (uri element componentType : Option String)
    (attributes : List Attribute) (compress : Bool) (location : Location) :
    (openOutput uri element componentType attributes compress location).Careful := by
  refine (onlyLooks_ofExcept _).bind_careful fun component => ?_
  refine (onlyLooks_ensure _ _).bind_careful fun _ => ?_
  refine (careful_register component.id location).bind_succeeds fun _ => ?_
  refine (succeeds_modify _).bind fun _ => ?_
  refine succeeds_takeBindings.bind fun bindings => ?_
  exact (succeeds_modify _).bind fun _ => succeeds_modify _

theorem careful_openDirective (directive : Directive) (name : String)
    (attributes : List Attribute) (compress : Bool) (location : Location) :
    (openDirective directive name attributes compress location).Careful := by
  cases directive with
  | remove => exact (succeeds_modify _).careful
  | content =>
      refine onlyLooks_get.bind_careful fun assembly => ?_
      refine (onlyLooks_ensure _ _).bind_careful fun _ => ?_
      exact ((succeeds_modify _).bind fun _ => succeeds_modify _).careful
  | extensionPoint =>
      refine (onlyLooks_ofExcept _).bind_careful fun id => ?_
      refine onlyLooks_get.bind_careful fun assembly => ?_
      refine (onlyLooks_ensure _ _).bind_careful fun _ => ?_
      refine ((succeeds_modify _).bind fun _ => ?_).careful
      refine (succeeds_modify _).bind fun _ => ?_
      exact succeeds_takeTokens.bind fun saved => succeeds_modify _
  | extend =>
      refine onlyLooks_get.bind_careful fun assembly => ?_
      refine (onlyLooks_ensure _ _).bind_careful fun _ => ?_
      exact ((succeeds_modify _).bind fun _ => succeeds_modify _).careful
  | replace =>
      refine onlyLooks_get.bind_careful fun assembly => ?_
      refine (onlyLooks_ensure _ _).bind_careful fun _ => ?_
      refine (onlyLooks_ofExcept _).bind_careful fun id => ?_
      refine ((succeeds_modify _).bind fun _ => ?_).careful
      exact succeeds_takeTokens.bind fun saved => succeeds_modify _
  | body => exact ((succeeds_modify _).bind fun _ => succeeds_modify _).careful
  | block =>
      refine (onlyLooks_ofExcept _).bind_careful fun id => ?_
      refine (onlyLooks_ensure _ _).bind_careful fun _ => ?_
      exact ((succeeds_modify _).bind fun _ => succeeds_modify _).careful
  | parameter =>
      refine (onlyLooks_ofExcept _).bind_careful fun label => ?_
      refine onlyLooks_get.bind_careful fun assembly => ?_
      refine (onlyLooks_ensure _ _).bind_careful fun _ => ?_
      exact ((succeeds_modify _).bind fun _ => succeeds_modify _).careful
  | container =>
      refine onlyLooks_get.bind_careful fun assembly => ?_
      exact (onlyLooks_ensure _ _).bind_careful fun _ => (succeeds_modify _).careful

theorem careful_openBlockParameter (name : String) (attributes : List Attribute)
    (compress : Bool) (location : Location) :
    (openBlockParameter name attributes compress location).Careful := by
  refine onlyLooks_get.bind_careful fun assembly => ?_
  refine (onlyLooks_ensure _ _).bind_careful fun _ => ?_
  cases attributes with
  | nil => exact ((succeeds_modify _).bind fun _ => succeeds_modify _).careful
  | cons attr rest => exact (onlyLooks_throw _).careful

-- Whatever an element is refused for, nothing has been done for it by then.
theorem careful_openByRole (uri : Option String) (name : String) (attributes : List Attribute)
    (location : Location) : (openByRole uri name attributes location).Careful := by
  refine onlyLooks_get.bind_careful fun assembly => ?_
  cases ElementRole.ofName uri name with
  | plain => exact careful_openOutput _ _ _ _ _ _
  | component componentType => exact careful_openOutput _ _ _ _ _ _
  | directive found => exact careful_openDirective _ _ _ _ _
  | blockParameter => exact careful_openBlockParameter _ _ _ _
  | strayLibrary uri => exact (onlyLooks_throw _).careful

end Openers

theorem Careful.react_eq {action : Action Unit} (h : action.Careful) (assembly : Assembly) :
    action.react assembly = match action.outcome assembly with
      | .ok next => .accepted next
      | .error fault => .refused fault assembly := by
  unfold react outcome
  cases hrun : action.run assembly with
  | ok _ next => rfl
  | error fault left => rw [h assembly fault left hrun]

section Outcomes

variable {assembly : Assembly}

theorem outcome_bind_get (next : Assembly → Action Unit) :
    (get >>= next).outcome assembly = (next assembly).outcome assembly :=
  rfl

theorem react_bind_get (next : Assembly → Action Unit) :
    (get >>= next).react assembly = (next assembly).react assembly :=
  rfl

theorem outcome_bind_ensure (condition : Bool) (fault : Fault) (rest : Unit → Action Unit) :
    (ensure condition fault >>= rest).outcome assembly =
      if condition then (rest ()).outcome assembly else .error fault := by
  cases condition <;> rfl

theorem outcome_bind_ofExcept (value : Except Fault α) (next : α → Action Unit) :
    (ofExcept value >>= next).outcome assembly =
      value.bind fun found => (next found).outcome assembly := by
  cases value <;> rfl

theorem outcome_bind (first : Action Unit) (rest : Unit → Action Unit) :
    (first >>= rest).outcome assembly =
      (first.outcome assembly).bind fun middle => (rest ()).outcome middle := by
  unfold outcome
  rw [EStateM.run_bind]
  cases first.run assembly <;> rfl

end Outcomes

end Action

namespace Assembly

-- What the openers come to.

def register (assembly : Assembly) (id : Option String) (location : Location) :
    Except Fault Assembly :=
  (Action.register id location).outcome assembly

def openOutput (assembly : Assembly) (uri element componentType : Option String)
    (attributes : List Attribute) (compress : Bool) (location : Location) :
    Except Fault Assembly :=
  (Action.openOutput uri element componentType attributes compress location).outcome assembly

def openDirective (assembly : Assembly) (directive : Directive) (name : String)
    (attributes : List Attribute) (compress : Bool) (location : Location) :
    Except Fault Assembly :=
  (Action.openDirective directive name attributes compress location).outcome assembly

def openBlockParameter (assembly : Assembly) (name : String) (attributes : List Attribute)
    (compress : Bool) (location : Location) : Except Fault Assembly :=
  (Action.openBlockParameter name attributes compress location).outcome assembly

def openByRole (assembly : Assembly) (uri : Option String) (name : String)
    (attributes : List Attribute) (location : Location) : Except Fault Assembly :=
  (Action.openByRole uri name attributes location).outcome assembly

def elementStart (assembly : Assembly) (uri : Option String) (name : String)
    (attributes : List Attribute) (location : Location) : Reaction :=
  (Action.elementStart uri name attributes location).react assembly

def characters (assembly : Assembly) (text : String) (location : Location) : Reaction :=
  (Action.characters text location).react assembly

theorem react_elementStart (assembly : Assembly) (uri : Option String) (name : String)
    (attributes : List Attribute) (location : Location) :
    (Action.elementStart uri name attributes location).react assembly =
      assembly.elementStart uri name attributes location :=
  rfl

theorem react_characters (assembly : Assembly) (text : String) (location : Location) :
    (Action.characters text location).react assembly = assembly.characters text location :=
  rfl

theorem register_eq (assembly : Assembly) (id : Option String) (location : Location) :
    assembly.register id location = match id with
      | none => .ok assembly
      | some id =>
        match assembly.ids.get? id with
        | some first => .error (.duplicateId id first location)
        | none => .ok { assembly with ids := assembly.ids.insert id location } := by
  cases id with
  | none => rfl
  | some id =>
      unfold register Action.register
      rw [Action.outcome_bind_get]
      dsimp only
      cases assembly.ids.get? id <;> rfl

theorem openOutput_eq (assembly : Assembly) (uri element componentType : Option String)
    (attributes : List Attribute) (compress : Bool) (location : Location) :
    assembly.openOutput uri element componentType attributes compress location =
      match (Component.ofType componentType).readAll location attributes with
      | .error fault => .error fault
      | .ok component =>
        if component.mixins.isSome && !component.isComponent then
          .error (.mixinsWithoutIdentity element location)
        else
          match assembly.register component.id location with
          | .error fault => .error fault
          | .ok assembly =>
            let tokens := #[⟨component.startForm uri element, location⟩] ++ assembly.bindings ++
              component.passed
            .ok { (assembly.emit tokens).push .element compress component.isComponent with
              bindings := #[] } := by
  unfold openOutput Action.openOutput register
  rw [Action.outcome_bind_ofExcept]
  cases (Component.ofType componentType).readAll location attributes with
  | error fault => rfl
  | ok component =>
      dsimp only [Except.bind]
      rw [Action.outcome_bind_ensure, Action.outcome_bind]
      have hmixins : (component.mixins.isNone || component.isComponent) =
          !(component.mixins.isSome && !component.isComponent) := by
        cases component.mixins <;> simp
      rw [hmixins]
      cases component.mixins.isSome && !component.isComponent with
      | true => rfl
      | false =>
          cases hregister : (Action.register component.id location).outcome assembly with
          | error fault => rfl
          | ok named =>
              change Except.ok _ = Except.ok _
              simp only [emit, emitOne, push, Array.append_assoc]

theorem openDirective_eq (assembly : Assembly) (directive : Directive) (name : String)
    (attributes : List Attribute) (compress : Bool) (location : Location) :
    assembly.openDirective directive name attributes compress location =
      match directive with
      | .remove => .ok (assembly.push .remove compress false)
      | .content =>
        if assembly.phase = .inside then
          .error (.misplaced .nestedContent location)
        else
          .ok ({ assembly with phase := .inside, tokens := #[], ids := IdTable.empty }.pushBare
            .content compress)
      | .extensionPoint => do
        let id ← requiredAttribute name "id" location attributes
        if assembly.inExtensionPoint then
          .error (.misplaced .nestedExtensionPoint location)
        else
          let marked := (assembly.emitOne (.extensionPoint id) location).setOverride id #[]
          .ok ({ marked with tokens := #[] }.pushBare
            (.extensionPoint id marked.tokens) compress)
      | .extend =>
        if assembly.hasContent then
          .error (.misplaced (.mustBeRoot name) location)
        else
          .ok ({ assembly with isExtension := true }.pushBare .extend compress)
      | .replace =>
        if !assembly.isExtension || !assembly.isDirectlyInExtend || assembly.hasContent then
          .error (.misplaced .replaceOutsideExtend location)
        else do
          let id ← requiredAttribute name "id" location attributes
          .ok ({ assembly.setOverride id #[] with tokens := #[] }.pushBare
            (.replace id assembly.tokens) compress)
      | .body => .ok ((assembly.emitOne .body location).pushBare .body compress)
      | .block => do
        let id ← requiredAttribute name "id" location attributes
        if Naming.isIdentifier id then
          .ok ((assembly.emitOne (.block id) location).push .element compress false)
        else
          .error (.invalidId .block id location)
      | .parameter => do
        let label ← requiredAttribute name "name" location attributes
        if assembly.inComponent then
          .ok ((assembly.emitOne (.parameter label) location).push .element compress false)
        else
          .error (.misplaced .parameterOutsideComponent location)
      | .container =>
        if assembly.hasContent then
          .error (.misplaced (.mustBeRoot name) location)
        else
          .ok (assembly.pushBare .container compress) := by
  unfold openDirective Action.openDirective
  cases directive with
  | remove => rfl
  | content =>
      dsimp only
      rw [Action.outcome_bind_get, Action.outcome_bind_ensure]
      cases assembly.phase <;> rfl
  | extensionPoint =>
      dsimp only
      rw [Action.outcome_bind_ofExcept]
      cases requiredAttribute name "id" location attributes with
      | error fault => rfl
      | ok id =>
          dsimp only [Except.bind]
          rw [Action.outcome_bind_get, Action.outcome_bind_ensure]
          cases assembly.inExtensionPoint <;> rfl
  | extend =>
      dsimp only
      rw [Action.outcome_bind_get, Action.outcome_bind_ensure]
      cases assembly.hasContent <;> rfl
  | replace =>
      dsimp only
      rw [Action.outcome_bind_get, Action.outcome_bind_ensure, Action.outcome_bind_ofExcept]
      cases assembly.isExtension <;> cases assembly.isDirectlyInExtend <;>
        cases assembly.hasContent <;> cases requiredAttribute name "id" location attributes <;> rfl
  | body => rfl
  | block =>
      dsimp only
      rw [Action.outcome_bind_ofExcept]
      cases requiredAttribute name "id" location attributes with
      | error fault => rfl
      | ok id =>
          dsimp only [Except.bind]
          rw [Action.outcome_bind_ensure]
          rfl
  | parameter =>
      dsimp only
      rw [Action.outcome_bind_ofExcept]
      cases requiredAttribute name "name" location attributes with
      | error fault => rfl
      | ok label =>
          dsimp only [Except.bind]
          rw [Action.outcome_bind_get, Action.outcome_bind_ensure]
          rfl
  | container =>
      dsimp only
      rw [Action.outcome_bind_get, Action.outcome_bind_ensure]
      cases assembly.hasContent <;> rfl

theorem openBlockParameter_eq (assembly : Assembly) (name : String)
    (attributes : List Attribute) (compress : Bool) (location : Location) :
    assembly.openBlockParameter name attributes compress location =
      if !assembly.inComponent then
        .error (.misplaced .parameterOutsideComponent location)
      else
        match attributes with
        | attr :: _ => .error (.unsupportedAttribute name attr.name none location)
        | [] =>
          .ok ((assembly.emitOne (.parameter name) location).push .element compress false) := by
  unfold openBlockParameter Action.openBlockParameter
  rw [Action.outcome_bind_get, Action.outcome_bind_ensure]
  cases assembly.inComponent with
  | false => rfl
  | true => cases attributes <;> rfl

theorem openByRole_eq (assembly : Assembly) (uri : Option String) (name : String)
    (attributes : List Attribute) (location : Location) :
    assembly.openByRole uri name attributes location =
      let compress := (Attribute.compression? attributes).getD assembly.compressing
      match ElementRole.ofName uri name with
      | .plain => assembly.openOutput uri (some name) none attributes compress location
      | .component componentType =>
        assembly.openOutput uri none (some componentType) attributes compress location
      | .directive found => assembly.openDirective found name attributes compress location
      | .blockParameter => assembly.openBlockParameter name attributes compress location
      | .strayLibrary uri => .error (.invalidLibraryPath uri location) := by
  unfold openByRole Action.openByRole
  rw [Action.outcome_bind_get]
  cases ElementRole.ofName uri name <;> rfl

-- An element that is refused leaves nothing behind but the text before it.
theorem elementStart_eq (assembly : Assembly) (uri : Option String) (name : String)
    (attributes : List Attribute) (location : Location) :
    assembly.elementStart uri name attributes location =
      if assembly.phase = .over || assembly.inDoctype then
        .accepted assembly
      else if assembly.inRemoved then
        .accepted (assembly.push .removed assembly.compressing false)
      else
        match assembly.placementFault? uri name with
        | some rule => .refused (.misplaced rule location) assembly
        | none =>
          match assembly.settled.openByRole uri name attributes location with
          | .ok next => .accepted next
          | .error fault => .refused fault assembly.settled := by
  unfold elementStart Action.elementStart
  rw [Action.react_bind_get]
  by_cases hover : (assembly.phase = .over || assembly.inDoctype) = true
  · rw [if_pos hover, if_pos hover]
    rfl
  · rw [if_neg hover, if_neg hover]
    cases assembly.inRemoved with
    | true => rfl
    | false =>
        cases assembly.placementFault? uri name with
        | some rule => rfl
        | none =>
            exact (Action.careful_openByRole uri name attributes location).react_eq
              assembly.settled

theorem characters_eq (assembly : Assembly) (text : String) (location : Location) :
    assembly.characters text location =
      if assembly.isIdle then
        .accepted assembly
      else if assembly.inBody then
        .refused (.misplaced .contentInsideBody location) assembly
      else
        let pending := assembly.pending.getD ⟨"", location⟩
        .accepted { assembly with
          pending := some { pending with text := pending.text ++ text } } := by
  unfold characters Action.characters
  rw [Action.react_bind_get]
  cases assembly.isIdle with
  | true => rfl
  | false => cases assembly.inBody <;> rfl

end Assembly

end TemplateMarkup
