import TemplateMarkup.Profile
import TemplateMarkup.Proofs.Assembly.Attributes

namespace TemplateMarkup

-- The names that only the second template namespace reserves.
def Directive.addedNames : List String :=
  ["remove", "content", "extension-point", "extend", "replace"]

-- The second template namespace in place of the first one.
def Naming.upgraded (uri : String) : String :=
  if uri == templateUri50 then templateUri51 else uri

def Attribute.upgraded (attr : Attribute) : Attribute :=
  { attr with uri := attr.uri.map Naming.upgraded }

namespace Event

def upgraded : Event → Event
  | .elementStart uri name attributes =>
    .elementStart (uri.map Naming.upgraded) name (attributes.map Attribute.upgraded)
  | .elementEnd uri name => .elementEnd (uri.map Naming.upgraded) name
  | .binding label uri => .binding label (Naming.upgraded uri)
  | event => event

-- Whether an event begins an element of the template language under a name that the first
-- version does not reserve.
def startsAdded : Event → Bool
  | .elementStart (some uri) name _ =>
    Naming.isTemplateUri uri && Directive.addedNames.any (Text.sameWord name)
  | _ => false

end Event

def PlacedEvent.upgraded (placed : PlacedEvent) : PlacedEvent :=
  { placed with event := placed.event.upgraded }

def EventStream.upgraded (stream : EventStream) : EventStream :=
  { stream with events := stream.events.map PlacedEvent.upgraded }

-- No token but those of attributes shows a template namespace.
def TokenForm.upgraded : TokenForm → TokenForm
  | .attribute uri name value => .attribute (uri.map Naming.upgraded) name value
  | form => form

def Token.upgraded (token : Token) : Token :=
  { token with form := token.form.upgraded }

def Template.upgraded (template : Template) : Template :=
  { template with
    tokens := template.tokens.map Token.upgraded
    overrides := template.overrides.map (IdTable.map (Array.map Token.upgraded)) }

def Component.upgraded (component : Component) : Component :=
  { component with passed := component.passed.map Token.upgraded }

def ScopeKind.upgraded : ScopeKind → ScopeKind
  | .extensionPoint id saved => .extensionPoint id (saved.map Token.upgraded)
  | .replace id saved => .replace id (saved.map Token.upgraded)
  | kind => kind

def Scope.upgraded (scope : Scope) : Scope :=
  { scope with kind := scope.kind.upgraded }

namespace Assembly

-- The same assembly with all its sequences upgraded. Bindings that wait are no attributes, and go
-- along so that nothing has to be known about them.
def upgraded (assembly : Assembly) : Assembly :=
  { assembly with
    tokens := assembly.tokens.map Token.upgraded
    overrides := assembly.overrides.map (IdTable.map (Array.map Token.upgraded))
    scopes := assembly.scopes.map Scope.upgraded
    bindings := assembly.bindings.map Token.upgraded }

def Reaction.upgraded (reaction : Reaction) : Reaction :=
  { reaction with next := reaction.next.upgraded }

end Assembly

-- The constructs of the second namespace alone are those of the added names.
theorem Directive.added?_eq_none {name : String}
    (h : addedNames.any (Text.sameWord name) = false) : added? name = none := by
  simp only [addedNames, List.any_cons, List.any_nil, Bool.or_false, Bool.or_eq_false_iff] at h
  simp [added?, h]

namespace Naming

variable {uri : String}

theorem upgraded_of_not_template (h : isTemplateUri uri = false) : upgraded uri = uri := by
  simp only [isTemplateUri, Bool.or_eq_false_iff] at h
  simp [upgraded, h.1]

@[simp] theorem isTemplateUri_upgraded (uri : String) :
    isTemplateUri (upgraded uri) = isTemplateUri uri := by
  unfold upgraded
  split
  · rename_i hfirst
    rw [beq_iff_eq.mp hfirst]
    decide
  · rfl

end Naming

theorem Directive.find?_upgraded {name : String} (h : added? name = none) (uri : String) :
    find? (Naming.upgraded uri) name = find? uri name := by
  unfold Naming.upgraded
  split
  · rename_i hfirst
    have hnew : (uri == Naming.templateUri51) = false := by
      rw [beq_iff_eq.mp hfirst]
      decide
    rw [find?, find?, if_pos (beq_self_eq_true _), h, Option.none_or, hnew,
      if_neg Bool.false_ne_true, if_pos hfirst]
  · rfl

-- Under names that both versions know, or neither, an element means the same in both.
theorem ElementRole.ofName_upgraded {uri : Option String} {name : String}
    {attributes : List Attribute}
    (h : (Event.elementStart uri name attributes).startsAdded = false) :
    ofName (uri.map Naming.upgraded) name = ofName uri name := by
  cases uri with
  | none => rfl
  | some uri =>
      cases htemplate : Naming.isTemplateUri uri with
      | false => rw [Option.map_some, Naming.upgraded_of_not_template htemplate]
      | true =>
          have hadded : Directive.added? name = none := by
            refine Directive.added?_eq_none ?_
            simpa [Event.startsAdded, htemplate] using h
          simp only [Option.map_some, ofName, Directive.find?_upgraded hadded,
            Naming.isTemplateUri_upgraded, htemplate, if_true]

-- Under the other names the versions differ.
example : ElementRole.ofName (some Naming.templateUri50) "remove" ≠
    ElementRole.ofName (some Naming.templateUri51) "remove" := by
  decide

-- Elements of the template namespaces never show their namespace.
theorem ElementRole.uri_of_plain {uri : Option String} {name : String}
    (h : ofName uri name = .plain) : uri.map Naming.upgraded = uri := by
  cases uri with
  | none => rfl
  | some uri =>
      have hplain : Naming.isTemplateUri uri = false := by
        simp only [ofName] at h
        split at h
        · cases h
        · split at h
          · cases h
          · rename_i hother
            exact Bool.eq_false_iff.mpr hother
      rw [Option.map_some, Naming.upgraded_of_not_template hplain]

namespace Attribute

@[simp] theorem isReserved_upgraded (attr : Attribute) :
    attr.upgraded.isReserved = attr.isReserved := by
  obtain ⟨uri, name, value⟩ := attr
  cases uri with
  | none => rfl
  | some uri => exact Naming.isTemplateUri_upgraded uri

@[simp] theorem isSpaceSetting_upgraded (attr : Attribute) :
    attr.upgraded.isSpaceSetting = attr.isSpaceSetting := by
  cases hreserved : attr.isReserved with
  | true =>
      rw [isSpaceSetting_of_isReserved hreserved,
        isSpaceSetting_of_isReserved (attr.isReserved_upgraded.trans hreserved)]
  | false =>
      obtain ⟨uri, name, value⟩ := attr
      cases uri with
      | none => rfl
      | some uri => simp [upgraded, Naming.upgraded_of_not_template hreserved]

theorem compression?_upgraded (attributes : List Attribute) :
    compression? (attributes.map upgraded) = compression? attributes := by
  have hsame : isSpaceSetting ∘ upgraded = isSpaceSetting := funext isSpaceSetting_upgraded
  rw [compression?, compression?, List.find?_map, hsame, Option.map_map]
  rfl

end Attribute

namespace Component

theorem role_upgraded (hasType : Bool) (attr : Attribute) :
    role hasType attr.upgraded = role hasType attr := by
  simp only [role, Attribute.isSpaceSetting_upgraded, Attribute.isReserved_upgraded]
  rfl

theorem read_upgraded (location : Location) (component : Component) (attr : Attribute) :
    component.upgraded.read location attr.upgraded =
      (component.read location attr).map upgraded := by
  have hvalue : attr.upgraded.value = attr.value := rfl
  have htype : component.upgraded.componentType = component.componentType := rfl
  rw [read, read, role_upgraded, htype, hvalue]
  cases role component.componentType.isSome attr with
  | ignored | componentType | mixins => rfl
  | id =>
      dsimp only
      cases Text.unlessBlank attr.value with
      | none => rfl
      | some id =>
          dsimp only
          split <;> rfl
  | passed => simp [Except.map, upgraded, Token.upgraded, TokenForm.upgraded, Attribute.upgraded]

theorem readAll_upgraded (location : Location) (component : Component)
    (attributes : List Attribute) :
    component.upgraded.readAll location (attributes.map Attribute.upgraded) =
      (component.readAll location attributes).map upgraded := by
  induction attributes generalizing component with
  | nil => rfl
  | cons attr rest ih =>
      rw [List.map_cons, readAll_cons, readAll_cons, read_upgraded]
      cases component.read location attr with
      | error fault => rfl
      | ok next => exact ih next

-- An element that has a type by its name keeps it.
theorem componentType_of_readAll {location : Location} {attributes : List Attribute}
    {component found : Component} (htype : component.componentType.isSome = true)
    (h : component.readAll location attributes = .ok found) :
    found.componentType = component.componentType := by
  induction attributes generalizing component with
  | nil => cases h; rfl
  | cons attr rest ih =>
      rw [readAll_cons] at h
      cases hread : component.read location attr with
      | error fault => rw [hread] at h; cases h
      | ok next =>
          rw [hread] at h
          have hkept : next.componentType = component.componentType :=
            componentType_of_read (by simp [htype, role_eq_componentType_iff]) hread
          exact (ih (hkept ▸ htype) h).trans hkept

end Component

namespace Assembly

theorem onlyAttribute_upgraded (element key : String) (location : Location)
    (found : Option String) (attributes : List Attribute) :
    onlyAttribute element key location found (attributes.map Attribute.upgraded) =
      onlyAttribute element key location found attributes := by
  induction attributes generalizing found with
  | nil => rfl
  | cons attr rest ih =>
      simp only [List.map_cons, onlyAttribute, Attribute.isSpaceSetting_upgraded, ih]
      rfl

theorem requiredAttribute_upgraded (element key : String) (location : Location)
    (attributes : List Attribute) :
    requiredAttribute element key location (attributes.map Attribute.upgraded) =
      requiredAttribute element key location attributes := by
  rw [requiredAttribute, requiredAttribute, onlyAttribute_upgraded]

end Assembly

@[simp] theorem TokenForm.isDoctype_upgraded (form : TokenForm) :
    form.upgraded.isDoctype = form.isDoctype := by
  cases form <;> rfl

@[simp] theorem Component.startForm_upgraded (component : Component) (uri element : Option String) :
    (component.startForm uri element).upgraded = component.startForm uri element := by
  unfold startForm
  split <;> rfl

-- Character data has no attributes.
theorem Assembly.textTokens_upgraded (compress : Bool) (pending : PendingText) :
    (textTokens compress pending).map Token.upgraded = textTokens compress pending := by
  have hfragment : ∀ (location : Location) (text : String),
      (splitText location text).map Token.upgraded = splitText location text := by
    intro location text
    simp only [splitText, List.map_toArray, List.map_map]
    congr 2
    funext fragment
    cases fragment <;> rfl
  simp only [textTokens]
  split
  · split
    · exact Array.map_empty
    · exact hfragment _ _
  · exact hfragment _ _

namespace ScopeKind

@[simp] theorem isReplace_upgraded (kind : ScopeKind) :
    kind.upgraded.isReplace = kind.isReplace := by
  cases kind <;> rfl

@[simp] theorem isExtensionPoint_upgraded (kind : ScopeKind) :
    kind.upgraded.isExtensionPoint = kind.isExtensionPoint := by
  cases kind <;> rfl

theorem beq_upgraded (kind : ScopeKind) {asked : ScopeKind} (h : asked.region? = none) :
    (kind.upgraded == asked) = (kind == asked) := by
  cases kind with
  | extensionPoint | replace => cases asked <;> first | rfl | cases h
  | _ => rfl

end ScopeKind

namespace Assembly

section Questions

variable (assembly : Assembly)

@[simp] theorem inRemoved_upgraded : assembly.upgraded.inRemoved = assembly.inRemoved := by
  simp only [inRemoved, upgraded]
  cases assembly.scopes with
  | nil => rfl
  | cons scope outer =>
      simp only [List.map_cons, Scope.upgraded,
        scope.kind.beq_upgraded (show ScopeKind.remove.region? = none from rfl),
        scope.kind.beq_upgraded (show ScopeKind.removed.region? = none from rfl)]

@[simp] theorem inBody_upgraded : assembly.upgraded.inBody = assembly.inBody := by
  simp only [inBody, upgraded]
  cases assembly.scopes with
  | nil => rfl
  | cons scope outer => exact scope.kind.beq_upgraded rfl

@[simp] theorem isDirectlyInExtend_upgraded :
    assembly.upgraded.isDirectlyInExtend = assembly.isDirectlyInExtend := by
  simp only [isDirectlyInExtend, upgraded]
  cases assembly.scopes with
  | nil => rfl
  | cons scope outer => exact scope.kind.beq_upgraded rfl

@[simp] theorem inComponent_upgraded : assembly.upgraded.inComponent = assembly.inComponent := by
  simp only [inComponent, upgraded]
  cases assembly.scopes <;> rfl

@[simp] theorem compressing_upgraded : assembly.upgraded.compressing = assembly.compressing := by
  simp only [compressing, upgraded]
  cases assembly.scopes <;> rfl

@[simp] theorem inReplacement_upgraded :
    assembly.upgraded.inReplacement = assembly.inReplacement := by
  simp [inReplacement, upgraded, List.any_map, Function.comp_def, Scope.upgraded]

@[simp] theorem inExtensionPoint_upgraded :
    assembly.upgraded.inExtensionPoint = assembly.inExtensionPoint := by
  simp [inExtensionPoint, upgraded, List.any_map, Function.comp_def, Scope.upgraded]

@[simp] theorem hasContent_upgraded : assembly.upgraded.hasContent = assembly.hasContent := by
  simp [hasContent, upgraded, Token.isDoctype, Token.upgraded]

@[simp] theorem isIdle_upgraded : assembly.upgraded.isIdle = assembly.isIdle := by
  simp only [isIdle, inRemoved_upgraded]
  rfl

theorem placementFault?_upgraded (uri : Option String) (name : String) :
    assembly.upgraded.placementFault? (uri.map Naming.upgraded) name =
      assembly.placementFault? uri name := by
  have hextension : assembly.upgraded.isExtension = assembly.isExtension := rfl
  simp only [placementFault?, inBody_upgraded, inReplacement_upgraded, hextension, Option.any_map,
    Naming.isTemplateUri_upgraded]

end Questions

section Changes

variable (assembly : Assembly)

theorem upgraded_emit (tokens : Array Token) :
    (assembly.emit tokens).upgraded = assembly.upgraded.emit (tokens.map Token.upgraded) := by
  simp [emit, upgraded]

theorem upgraded_push (kind : ScopeKind) (compress isComponent : Bool) :
    (assembly.push kind compress isComponent).upgraded =
      assembly.upgraded.push kind.upgraded compress isComponent := by
  simp [push, upgraded, Scope.upgraded]

theorem upgraded_pushBare (kind : ScopeKind) (compress : Bool) :
    (assembly.pushBare kind compress).upgraded =
      assembly.upgraded.pushBare kind.upgraded compress := by
  rw [pushBare, upgraded_push, pushBare, inComponent_upgraded]

theorem upgraded_emitOne {form : TokenForm} (hform : form.upgraded = form)
    (location : Location) :
    (assembly.emitOne form location).upgraded = assembly.upgraded.emitOne form location := by
  simp [emitOne, upgraded_emit, Token.upgraded, hform]

theorem upgraded_setOverride (id : String) (tokens : Array Token) :
    (assembly.setOverride id tokens).upgraded =
      assembly.upgraded.setOverride id (tokens.map Token.upgraded) := by
  have htable : (assembly.overrides.getD IdTable.empty).map (Array.map Token.upgraded) =
      assembly.upgraded.overrides.getD IdTable.empty := by
    simp only [upgraded]
    cases assembly.overrides with
    | none => exact IdTable.map_empty _
    | some table => rfl
  rw [setOverride, setOverride, ← htable, ← IdTable.map_insert]
  rfl

theorem upgraded_openRegion (id : String) (kind : ScopeKind) (compress : Bool) :
    ({ assembly.setOverride id #[] with tokens := #[] }.pushBare kind compress).upgraded =
      { assembly.upgraded.setOverride id #[] with tokens := #[] }.pushBare kind.upgraded
        compress := by
  have hempty := assembly.upgraded_setOverride id #[]
  rw [Array.map_empty] at hempty
  rw [upgraded_pushBare, ← hempty]
  simp [upgraded]

theorem upgraded_settled : assembly.settled.upgraded = assembly.upgraded.settled := by
  have hpending : assembly.upgraded.pending = assembly.pending := rfl
  have hsettlement : assembly.upgraded.settlement = assembly.settlement.map Token.upgraded := by
    rw [settlement, settlement, hpending, compressing_upgraded]
    cases assembly.pending with
    | none => exact Array.map_empty.symm
    | some pending => exact (textTokens_upgraded _ _).symm
  rw [settled_eq, settled_eq, hsettlement]
  simp [upgraded]

theorem upgraded_register (id : Option String) (location : Location) :
    assembly.upgraded.register id location = (assembly.register id location).map upgraded := by
  have hids : assembly.upgraded.ids = assembly.ids := rfl
  cases id with
  | none => rfl
  | some id =>
      simp only [register_eq, hids]
      cases assembly.ids.get? id <;> rfl

end Changes

section Elements

variable (assembly : Assembly) (compress : Bool) (location : Location)

-- A component does not show the namespace of its element.
theorem openRead_of_isComponent {component : Component} (h : component.isComponent = true)
    (uri other element : Option String) :
    assembly.openRead uri element component compress location =
      assembly.openRead other element component compress location := by
  simp only [openRead, startTokens, Component.startForm, if_pos h]

theorem startTokens_upgraded (component : Component) (uri element : Option String)
    (bindings : Array Token) :
    (startTokens component uri element bindings location).map Token.upgraded =
      startTokens component.upgraded uri element (bindings.map Token.upgraded) location := by
  have hform : component.upgraded.startForm uri element = component.startForm uri element := rfl
  rw [startTokens, startTokens, Array.map_append, Array.map_append, hform]
  simp [Token.upgraded, Component.upgraded]

theorem openRead_upgraded (uri element : Option String) (component : Component) :
    assembly.upgraded.openRead uri element component.upgraded compress location =
      (assembly.openRead uri element component compress location).map upgraded := by
  have hmixins : component.upgraded.mixins = component.mixins := rfl
  have hpart : component.upgraded.isComponent = component.isComponent := rfl
  have hid : component.upgraded.id = component.id := rfl
  simp only [openRead, hmixins, hpart, hid, upgraded_register]
  split
  · rfl
  · cases assembly.register component.id location with
    | error fault => rfl
    | ok noted =>
        simp [Except.map, upgraded, startTokens_upgraded, Scope.upgraded, ScopeKind.upgraded]

theorem openOutput_upgraded (uri element componentType : Option String)
    (attributes : List Attribute) :
    assembly.upgraded.openOutput uri element componentType (attributes.map Attribute.upgraded)
        compress location =
      (assembly.openOutput uri element componentType attributes compress location).map
        upgraded := by
  have hstart : (Component.ofType componentType).upgraded = Component.ofType componentType := by
    simp [Component.upgraded, Component.ofType]
  rw [openOutput_eq_bind, openOutput_eq_bind, ← hstart, Component.readAll_upgraded, hstart]
  cases (Component.ofType componentType).readAll location attributes with
  | error fault => rfl
  | ok component => exact assembly.openRead_upgraded compress location uri element component

theorem openOutput_of_type (componentType : String) (uri other element : Option String)
    (attributes : List Attribute) :
    assembly.openOutput uri element (some componentType) attributes compress location =
      assembly.openOutput other element (some componentType) attributes compress location := by
  rw [openOutput_eq_bind, openOutput_eq_bind]
  cases hread : (Component.ofType (some componentType)).readAll location attributes with
  | error fault => rfl
  | ok component =>
      have htype : component.componentType = some componentType :=
        Component.componentType_of_readAll rfl hread
      exact assembly.openRead_of_isComponent compress location
        (by simp [Component.isComponent, htype]) uri other element

theorem openDirective_upgraded (directive : Directive) (name : String)
    (attributes : List Attribute) :
    assembly.upgraded.openDirective directive name (attributes.map Attribute.upgraded) compress
        location =
      (assembly.openDirective directive name attributes compress location).map upgraded := by
  rw [assembly.upgraded.openDirective_congr directive compress fun key =>
    requiredAttribute_upgraded name key location attributes]
  have hrequired : ∀ key (next after : String → Except Fault Assembly),
      (∀ id, after id = (next id).map upgraded) →
      requiredAttribute name key location attributes >>= after =
        (requiredAttribute name key location attributes >>= next).map upgraded := by
    intro key next after hnext
    cases requiredAttribute name key location attributes with
    | error fault => rfl
    | ok id => exact hnext id
  have hextension : assembly.upgraded.isExtension = assembly.isExtension := rfl
  have hphase : assembly.upgraded.phase = assembly.phase := rfl
  have hopen : ∀ (form : TokenForm), form.upgraded = form →
      (assembly.upgraded.emitOne form location).push .element compress false =
        ((assembly.emitOne form location).push .element compress false).upgraded := by
    intro form hform
    rw [upgraded_push, assembly.upgraded_emitOne hform]
    rfl
  cases directive with
  | remove => exact congrArg Except.ok (assembly.upgraded_push .remove compress false).symm
  | content =>
      simp only [openDirective_eq, hphase]
      split
      · rfl
      · have hemptied :
            { assembly with phase := .inside, tokens := #[], ids := IdTable.empty }.upgraded =
              { assembly.upgraded with phase := .inside, tokens := #[], ids := IdTable.empty } := by
          simp [upgraded]
        rw [← hemptied]
        exact congrArg Except.ok (upgraded_pushBare _ .content compress).symm
  | extensionPoint =>
      rw [openDirective_eq, openDirective_eq]
      refine hrequired "id" _ _ fun id => ?_
      rw [inExtensionPoint_upgraded]
      split
      · rfl
      · have hpoint : (TokenForm.extensionPoint id).upgraded = .extensionPoint id := rfl
        have hmarked := assembly.upgraded_emitOne hpoint location
        rw [← hmarked]
        exact congrArg Except.ok (upgraded_openRegion _ id (.extensionPoint id _) compress).symm
  | extend =>
      simp only [openDirective_eq, hasContent_upgraded]
      split
      · rfl
      · have hextended : { assembly with isExtension := true }.upgraded =
            { assembly.upgraded with isExtension := true } := rfl
        rw [← hextended]
        exact congrArg Except.ok (upgraded_pushBare _ .extend compress).symm
  | replace =>
      simp only [openDirective_eq, hextension, isDirectlyInExtend_upgraded, hasContent_upgraded]
      split
      · rfl
      · refine hrequired "id" _ _ fun id => congrArg Except.ok ?_
        exact (assembly.upgraded_openRegion id (.replace id assembly.tokens) compress).symm
  | body =>
      refine congrArg Except.ok ?_
      rw [upgraded_pushBare, assembly.upgraded_emitOne rfl]
      rfl
  | block =>
      rw [openDirective_eq, openDirective_eq]
      refine hrequired "id" _ _ fun id => ?_
      split
      · exact congrArg Except.ok (hopen (.block id) rfl)
      · rfl
  | parameter =>
      rw [openDirective_eq, openDirective_eq]
      refine hrequired "name" _ _ fun label => ?_
      rw [inComponent_upgraded]
      split
      · exact congrArg Except.ok (hopen (.parameter label) rfl)
      · rfl
  | container =>
      simp only [openDirective_eq, hasContent_upgraded]
      split
      · rfl
      · exact congrArg Except.ok (assembly.upgraded_pushBare .container compress).symm

theorem openBlockParameter_upgraded (name : String) (attributes : List Attribute) :
    assembly.upgraded.openBlockParameter name (attributes.map Attribute.upgraded) compress
        location =
      (assembly.openBlockParameter name attributes compress location).map upgraded := by
  simp only [openBlockParameter_eq, inComponent_upgraded]
  split
  · rfl
  · cases attributes with
    | cons attr rest => rfl
    | nil =>
        refine congrArg Except.ok ?_
        rw [upgraded_push, assembly.upgraded_emitOne rfl]
        rfl

theorem openByRole_upgraded (uri : Option String) (name : String) (attributes : List Attribute)
    (h : (Event.elementStart uri name attributes).startsAdded = false) :
    assembly.upgraded.openByRole (uri.map Naming.upgraded) name
        (attributes.map Attribute.upgraded) location =
      (assembly.openByRole uri name attributes location).map upgraded := by
  simp only [openByRole_eq, ElementRole.ofName_upgraded h, Attribute.compression?_upgraded,
    compressing_upgraded]
  cases hrole : ElementRole.ofName uri name with
  | plain =>
      rw [ElementRole.uri_of_plain hrole]
      exact assembly.openOutput_upgraded _ location uri (some name) none attributes
  | component componentType =>
      dsimp only
      rw [assembly.upgraded.openOutput_of_type _ location componentType _ uri]
      exact assembly.openOutput_upgraded _ location uri none (some componentType) attributes
  | directive found => exact assembly.openDirective_upgraded _ location found name attributes
  | blockParameter => exact assembly.openBlockParameter_upgraded _ location name attributes
  | strayLibrary uri => rfl

theorem upgraded_closeElement :
    (assembly.closeElement location).upgraded = assembly.upgraded.closeElement location := by
  cases hscopes : assembly.scopes with
  | nil =>
      have hnone : assembly.upgraded.scopes = [] := by simp [upgraded, hscopes]
      simp only [closeElement, hscopes, hnone]
  | cons scope outer =>
      obtain ⟨setting, isComponent, kind⟩ := scope
      have hclosed : assembly.upgraded.scopes =
          ⟨setting, isComponent, kind.upgraded⟩ :: outer.map Scope.upgraded := by
        simp [upgraded, hscopes, Scope.upgraded]
      simp only [closeElement, hscopes, hclosed]
      cases kind with
      | element => exact upgraded_emitOne _ rfl location
      | extensionPoint id saved | replace id saved => exact upgraded_setOverride _ id _
      | content | body | remove | removed | extend | container => rfl

end Elements

theorem upgraded_template (assembly : Assembly) :
    assembly.template.upgraded = assembly.upgraded.template := by
  simp only [template, ← upgraded_settled]
  rfl

theorem elementStart_upgraded (assembly : Assembly) (uri : Option String) (name : String)
    (attributes : List Attribute) (location : Location)
    (h : (Event.elementStart uri name attributes).startsAdded = false) :
    assembly.upgraded.elementStart (uri.map Naming.upgraded) name
        (attributes.map Attribute.upgraded) location =
      (assembly.elementStart uri name attributes location).upgraded := by
  have hphase : assembly.upgraded.phase = assembly.phase := rfl
  have hdoctype : assembly.upgraded.inDoctype = assembly.inDoctype := rfl
  simp only [elementStart_eq, hphase, hdoctype, inRemoved_upgraded, compressing_upgraded,
    placementFault?_upgraded, ← upgraded_settled, assembly.settled.openByRole_upgraded location uri
      name attributes h]
  split
  · rfl
  · split
    · exact congrArg Reaction.accepted (assembly.upgraded_push .removed _ false).symm
    · cases assembly.placementFault? uri name with
      | some rule => rfl
      | none => cases assembly.settled.openByRole uri name attributes location <;> rfl

section Events

variable (assembly : Assembly) (location : Location)

theorem elementEnd_upgraded :
    assembly.upgraded.elementEnd location = (assembly.elementEnd location).upgraded := by
  have hphase : assembly.upgraded.phase = assembly.phase := rfl
  have hdoctype : assembly.upgraded.inDoctype = assembly.inDoctype := rfl
  rw [elementEnd, elementEnd, hphase, hdoctype, ← upgraded_settled, ← upgraded_closeElement]
  split <;> rfl

theorem characters_upgraded (text : String) :
    assembly.upgraded.characters text location =
      (assembly.characters text location).upgraded := by
  simp only [characters_eq, isIdle_upgraded, inBody_upgraded]
  split
  · rfl
  · split <;> rfl

theorem comment_upgraded (text : String) :
    assembly.upgraded.comment text location = (assembly.comment text location).upgraded := by
  rw [comment, comment, isIdle_upgraded, ← upgraded_settled, ← upgraded_emitOne _ rfl]
  split <;> rfl

theorem cdataStart_upgraded :
    assembly.upgraded.cdataStart location = (assembly.cdataStart location).upgraded := by
  rw [cdataStart, cdataStart, isIdle_upgraded, ← upgraded_settled]
  split <;> rfl

theorem cdataEnd_upgraded :
    assembly.upgraded.cdataEnd location = (assembly.cdataEnd location).upgraded := by
  have hpending : assembly.upgraded.pending = assembly.pending := rfl
  have hemit := fun text place =>
    assembly.upgraded_emitOne (show (TokenForm.cdata text).upgraded = .cdata text from rfl) place
  simp only [cdataEnd, isIdle_upgraded, hpending, ← hemit]
  split <;> rfl

theorem doctypeStart_upgraded (name : String) (publicId systemId : Option String) :
    assembly.upgraded.doctypeStart name publicId systemId location =
      (assembly.doctypeStart name publicId systemId location).upgraded := by
  rw [doctypeStart, doctypeStart, ← upgraded_emitOne _ rfl]
  rfl

-- Bindings of the template namespaces are hidden in both, and all others stay.
theorem binding_upgraded (label uri : String) :
    assembly.upgraded.binding label (Naming.upgraded uri) location =
      (assembly.binding label uri location).upgraded := by
  cases htemplate : Naming.isTemplateUri uri with
  | true => simp [binding, isHiddenBinding, htemplate]
  | false =>
      rw [Naming.upgraded_of_not_template htemplate, binding, binding, isIdle_upgraded]
      split
      · rfl
      · simp [upgraded, Token.upgraded, TokenForm.upgraded]

end Events

-- An event in the second namespace leads to the same assembly with its sequences in the second
-- namespace, and is refused for the same fault.
theorem step_upgraded (assembly : Assembly) {placed : PlacedEvent}
    (h : placed.event.startsAdded = false) :
    assembly.upgraded.step placed.upgraded = (assembly.step placed).upgraded := by
  obtain ⟨line, event⟩ := placed
  cases event with
  | documentStart | documentEnd | doctypeEnd => rfl
  | elementStart uri name attributes => exact assembly.elementStart_upgraded uri name attributes _ h
  | elementEnd uri name => exact congrArg Reaction.accepted (assembly.elementEnd_upgraded _)
  | text content => exact assembly.characters_upgraded _ content
  | comment content => exact congrArg Reaction.accepted (assembly.comment_upgraded _ content)
  | cdataStart => exact congrArg Reaction.accepted (assembly.cdataStart_upgraded _)
  | cdataEnd => exact congrArg Reaction.accepted (assembly.cdataEnd_upgraded _)
  | doctypeStart name publicId systemId =>
      exact congrArg Reaction.accepted (assembly.doctypeStart_upgraded _ name publicId systemId)
  | binding label uri => exact congrArg Reaction.accepted (assembly.binding_upgraded _ label uri)

theorem feed_upgraded (assembly : Assembly) {events : List PlacedEvent}
    (h : ∀ placed ∈ events, placed.event.startsAdded = false) :
    assembly.upgraded.feed (events.map PlacedEvent.upgraded) =
      (assembly.feed events).map upgraded := by
  induction events generalizing assembly with
  | nil => rfl
  | cons placed rest ih =>
      have hstep := assembly.step_upgraded (h placed (List.mem_cons_self ..))
      simp only [List.map_cons, feed, hstep, Reaction.upgraded]
      cases (assembly.step placed).fault with
      | some fault => rfl
      | none => exact ih _ fun other hm => h other (List.mem_cons_of_mem placed hm)

end Assembly

-- Both template namespaces mean the same, as long as no element has a name that only the second
-- one reserves. Events that use the second namespace for the first one are refused for the same
-- fault, or come to the same template but for the namespaces of attribute tokens.
theorem EventStream.assemble_upgraded (stream : EventStream)
    (h : ∀ placed ∈ stream.events, placed.event.startsAdded = false) (resource : String)
    (compress : Bool) :
    stream.upgraded.assemble resource compress =
      (stream.assemble resource compress).map Template.upgraded := by
  have hstart : (Assembly.start resource compress).upgraded = Assembly.start resource compress := by
    simp [Assembly.upgraded, Assembly.start]
  have hfeed := (Assembly.start resource compress).feed_upgraded h
  rw [hstart] at hfeed
  have hfailure : stream.upgraded.failure = stream.failure := rfl
  simp only [assemble, hfailure]
  rw [show stream.upgraded.events = stream.events.map PlacedEvent.upgraded from rfl, hfeed]
  cases (Assembly.start resource compress).feed stream.events with
  | error fault => rfl
  | ok final =>
      cases stream.failure with
      | some failure => rfl
      | none => exact congrArg Except.ok final.upgraded_template.symm

-- The first template namespace on an element, on attributes that are read and passed on, and in a
-- binding.
def firstVersion : EventStream where
  events := [
    ⟨some 1, .binding "t" Naming.templateUri50⟩,
    ⟨some 1, .elementStart (some Naming.templateUri50) "if" [
      ⟨some Naming.templateUri50, "id", "a"⟩, ⟨some Naming.templateUri50, "rows", "3"⟩]⟩,
    ⟨some 1, .text "x"⟩,
    ⟨some 1, .elementEnd (some Naming.templateUri50) "if"⟩]
  failure := none

theorem EventStream.assemble_firstVersion :
    (∀ placed ∈ firstVersion.events, placed.event.startsAdded = false) ∧
      firstVersion.upgraded.assemble "T.tml" true =
        (firstVersion.assemble "T.tml" true).map Template.upgraded := by
  have hshared : ∀ placed ∈ firstVersion.events, placed.event.startsAdded = false := by decide
  exact ⟨hshared, firstVersion.assemble_upgraded hshared "T.tml" true⟩

end TemplateMarkup
