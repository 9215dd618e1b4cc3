import TemplateMarkup.Proofs.Assembly.Outcome
import TemplateMarkup.Proofs.IdTable

namespace TemplateMarkup

private theorem bind_ok {α β : Type} {value : Except Fault α} {next : α → Except Fault β}
    {result : β} (h : value >>= next = .ok result) :
    ∃ found, value = .ok found ∧ next found = .ok result := by
  cases value with
  | error fault => cases h
  | ok found => exact ⟨found, rfl, h⟩

-- The name that the start token of an output element shows and the component type that its own
-- name gives it, where the role makes it an output element.
def ElementRole.output? (name : String) : ElementRole → Option (Option String × Option String)
  | .plain => some (some name, none)
  | .component componentType => some (none, some componentType)
  | _ => none

-- Attributes that are passed on are attribute tokens at the place of their element.
theorem Component.mem_passed {location : Location} {component found : Component}
    {attributes : List Attribute} (h : component.readAll location attributes = .ok found)
    {token : Token} (hm : token ∈ found.passed) :
    token ∈ component.passed ∨ ∃ uri name value, token = ⟨.attribute uri name value, location⟩ := by
  induction attributes generalizing component with
  | nil => cases h; exact .inl hm
  | cons attr rest ih =>
      rw [readAll, List.foldlM_cons] at h
      obtain ⟨next, hread, h⟩ := bind_ok h
      rcases ih h with hn | hn
      · unfold read at hread
        split at hread
        · cases hread; exact .inl hn
        · split at hread
          · cases hread; exact .inl hn
          · split at hread
            · cases hread; exact .inl hn
            · cases hread
        · cases hread; exact .inl hn
        · cases hread; exact .inl hn
        · cases hread
          rcases Array.mem_append.mp hn with hn | hn
          · exact .inl hn
          · exact .inr ⟨_, _, _, Array.mem_singleton.mp hn⟩
      · exact .inr hn

namespace ScopeKind

-- The id of a region that takes the tokens inside it for an override, and the tokens outside.
def region? : ScopeKind → Option (String × Array Token)
  | .extensionPoint id saved => some (id, saved)
  | .replace id saved => some (id, saved)
  | _ => none

-- The elements whose end only leaves them.
def isBare : ScopeKind → Bool
  | .body | .remove | .removed | .extend | .container => true
  | _ => false

theorem region?_of_isBare {kind : ScopeKind} (h : kind.isBare = true) : kind.region? = none := by
  cases kind <;> first | rfl | cases h

theorem ne_of_isBare {kind : ScopeKind} (h : kind.isBare = true) :
    kind ≠ .element ∧ kind ≠ .content := by
  constructor <;> rintro rfl <;> cases h

theorem ne_of_region? {kind : ScopeKind} {region : String × Array Token}
    (h : kind.region? = some region) : kind ≠ .element ∧ kind ≠ .content := by
  constructor <;> rintro rfl <;> cases h

end ScopeKind

namespace Assembly

-- The tokens that pending text turns into.
def settlement (assembly : Assembly) : Array Token :=
  match assembly.pending with
  | none => #[]
  | some pending => textTokens assembly.compressing pending

theorem settled_eq (assembly : Assembly) :
    assembly.settled =
      { assembly with tokens := assembly.tokens ++ assembly.settlement, pending := none } := by
  cases assembly with
  | mk resource compressDefault tokens overrides ids isExtension scopes phase inDoctype bindings
      pending =>
    cases pending with
    | none => simp [settled, settlement]
    | some pending => rfl

@[simp] theorem settled_scopes (assembly : Assembly) :
    assembly.settled.scopes = assembly.scopes := by
  rw [settled_eq]

@[simp] theorem settled_phase (assembly : Assembly) :
    assembly.settled.phase = assembly.phase := by
  rw [settled_eq]

@[simp] theorem settled_inDoctype (assembly : Assembly) :
    assembly.settled.inDoctype = assembly.inDoctype := by
  rw [settled_eq]

@[simp] theorem settled_bindings (assembly : Assembly) :
    assembly.settled.bindings = assembly.bindings := by
  rw [settled_eq]

@[simp] theorem settled_overrides (assembly : Assembly) :
    assembly.settled.overrides = assembly.overrides := by
  rw [settled_eq]

@[simp] theorem settled_tokens (assembly : Assembly) :
    assembly.settled.tokens = assembly.tokens ++ assembly.settlement := by
  rw [settled_eq]

@[simp] theorem settled_pending (assembly : Assembly) : assembly.settled.pending = none := by
  rw [settled_eq]

theorem settled_of_none {assembly : Assembly} (hpending : assembly.pending = none) :
    assembly.settled = assembly := by
  simp only [settled, hpending]

@[simp] theorem settled_resource (assembly : Assembly) :
    assembly.settled.resource = assembly.resource := by
  rw [settled_eq]

@[simp] theorem settled_compressing (assembly : Assembly) :
    assembly.settled.compressing = assembly.compressing := by
  rw [settled_eq]
  rfl

@[simp] theorem settled_inComponent (assembly : Assembly) :
    assembly.settled.inComponent = assembly.inComponent := by
  rw [settled_eq]
  rfl

theorem settled_settled (assembly : Assembly) : assembly.settled.settled = assembly.settled :=
  settled_of_none (settled_pending assembly)

theorem template_settled (assembly : Assembly) :
    assembly.settled.template = assembly.template := by
  simp only [template, settled_settled]

-- A property that the innermost open element has tells that there is one.
theorem exists_head {scopes : List Scope} {f : Scope → Bool}
    (h : (match scopes with | scope :: _ => f scope | [] => false) = true) :
    ∃ around ∈ scopes.head?, f around = true := by
  cases scopes with
  | nil => cases h
  | cons scope outer => exact ⟨scope, rfl, h⟩

-- What holds of all overrides holds with one more of which it holds.
theorem forall_override_setOverride {P : Array Token → Prop} {assembly : Assembly} {id : String}
    {tokens : Array Token}
    (h : ∀ table, assembly.overrides = some table → ∀ entry ∈ table.toList, P entry.2)
    (htokens : P tokens) : ∀ table, (assembly.setOverride id tokens).overrides = some table →
      ∀ entry ∈ table.toList, P entry.2 := by
  intro table htable entry hm
  cases htable
  rcases IdTable.mem_toList_insert hm with hm | hm
  · cases hoverrides : assembly.overrides with
    | none => simp [hoverrides] at hm
    | some found => exact h found hoverrides entry (by simpa [hoverrides] using hm)
  · rw [hm]
    exact htokens

-- Pending text turns into text and expansions, all at the place where it began.
theorem mem_settlement {assembly : Assembly} {token : Token}
    (h : token ∈ assembly.settlement) :
    ∃ pending fragment, assembly.pending = some pending ∧
      token = ⟨fragmentForm fragment, pending.location⟩ := by
  unfold settlement at h
  split at h
  · exact absurd h (Array.not_mem_empty _)
  · rename_i pending hpending
    have hsplit : ∀ text, token ∈ splitText pending.location text →
        ∃ fragment, token = ⟨fragmentForm fragment, pending.location⟩ := by
      intro text hm
      obtain ⟨fragment, -, rfl⟩ := List.mem_map.mp (List.mem_toArray.mp hm)
      exact ⟨fragment, rfl⟩
    have hfragment : ∃ fragment, token = ⟨fragmentForm fragment, pending.location⟩ := by
      unfold textTokens at h
      dsimp only at h
      split at h
      · split at h
        · exact absurd h (Array.not_mem_empty _)
        · exact hsplit _ h
      · exact hsplit _ h
    obtain ⟨fragment, rfl⟩ := hfragment
    exact ⟨pending, fragment, hpending, rfl⟩

-- The tokens from the start of an output element to its last attribute. The bindings that wait
-- stand behind the start.
def startTokens (component : Component) (uri element : Option String) (bindings : Array Token)
    (location : Location) : Array Token :=
  #[⟨component.startForm uri element, location⟩] ++ bindings ++ component.passed

-- What an accepted element makes of an assembly without pending text, with one case for each
-- kind of element.
inductive Opening (assembly : Assembly) (uri : Option String) (name : String)
    (attributes : List Attribute) (compress : Bool) (location : Location) : Assembly → Prop
  | output (element componentType : Option String) (component : Component)
      (ids : IdTable Location)
      (hrole : (ElementRole.ofName uri name).output? name = some (element, componentType))
      (hread : (Component.ofType componentType).readAll location attributes = .ok component)
      (hids : assembly.register component.id location = .ok { assembly with ids := ids }) :
      Opening assembly uri name attributes compress location
        { assembly with
          ids := ids
          tokens := assembly.tokens ++
            startTokens component uri element assembly.bindings location
          scopes := ⟨compress, component.isComponent, .element⟩ :: assembly.scopes
          bindings := #[] }
  | remove (hrole : ElementRole.ofName uri name = .directive .remove) :
      Opening assembly uri name attributes compress location
        (assembly.push .remove compress false)
  | content (hrole : ElementRole.ofName uri name = .directive .content)
      (hphase : assembly.phase ≠ .inside) :
      Opening assembly uri name attributes compress location
        ({ assembly with phase := .inside, tokens := #[], ids := IdTable.empty }.pushBare
          .content compress)
  | extensionPoint (id : String)
      (hrole : ElementRole.ofName uri name = .directive .extensionPoint)
      (hid : requiredAttribute name "id" location attributes = .ok id)
      (hnested : assembly.inExtensionPoint = false) :
      Opening assembly uri name attributes compress location
        ({ assembly.setOverride id #[] with tokens := #[] }.pushBare
          (.extensionPoint id (assembly.tokens ++ #[(⟨.extensionPoint id, location⟩ : Token)]))
          compress)
  | extend (hrole : ElementRole.ofName uri name = .directive .extend)
      (hroot : assembly.hasContent = false) :
      Opening assembly uri name attributes compress location
        ({ assembly with isExtension := true }.pushBare .extend compress)
  | replace (id : String) (hrole : ElementRole.ofName uri name = .directive .replace)
      (hid : requiredAttribute name "id" location attributes = .ok id)
      (hextension : assembly.isExtension = true) (hinside : assembly.isDirectlyInExtend = true)
      (hfirst : assembly.hasContent = false) :
      Opening assembly uri name attributes compress location
        ({ assembly.setOverride id #[] with tokens := #[] }.pushBare
          (.replace id assembly.tokens) compress)
  | body (hrole : ElementRole.ofName uri name = .directive .body) :
      Opening assembly uri name attributes compress location
        ((assembly.emitOne .body location).pushBare .body compress)
  | block (id : String) (hrole : ElementRole.ofName uri name = .directive .block)
      (hid : requiredAttribute name "id" location attributes = .ok id)
      (hvalid : Naming.isIdentifier id = true) :
      Opening assembly uri name attributes compress location
        ((assembly.emitOne (.block id) location).push .element compress false)
  | parameter (label : String) (hrole : ElementRole.ofName uri name = .directive .parameter)
      (hlabel : requiredAttribute name "name" location attributes = .ok label)
      (hinside : assembly.inComponent = true) :
      Opening assembly uri name attributes compress location
        ((assembly.emitOne (.parameter label) location).push .element compress false)
  | blockParameter (hrole : ElementRole.ofName uri name = .blockParameter)
      (hbare : attributes = []) (hinside : assembly.inComponent = true) :
      Opening assembly uri name attributes compress location
        ((assembly.emitOne (.parameter name) location).push .element compress false)
  | container (hrole : ElementRole.ofName uri name = .directive .container)
      (hroot : assembly.hasContent = false) :
      Opening assembly uri name attributes compress location
        (assembly.pushBare .container compress)

theorem register_ok {assembly next : Assembly} {id : Option String} {location : Location}
    (h : assembly.register id location = .ok next) :
    next = { assembly with ids := next.ids } := by
  rw [register_eq] at h
  split at h
  · cases h; rfl
  · split at h
    · cases h
    · cases h; rfl

theorem opening_of_openOutput {assembly next : Assembly} {uri element componentType : Option String}
    {name : String} {attributes : List Attribute} {compress : Bool} {location : Location}
    (hrole : (ElementRole.ofName uri name).output? name = some (element, componentType))
    (h : assembly.openOutput uri element componentType attributes compress location = .ok next) :
    Opening assembly uri name attributes compress location next := by
  rw [openOutput_eq] at h
  split at h
  · cases h
  · rename_i component hread
    split at h
    · cases h
    · split at h
      · cases h
      · rename_i registered hids
        have he := register_ok hids
        cases h
        rw [he] at hids ⊢
        exact .output element componentType component registered.ids hrole hread hids

theorem opening_of_openDirective {assembly next : Assembly} {directive : Directive}
    {uri : Option String} {name : String} {attributes : List Attribute} {compress : Bool}
    {location : Location} (hrole : ElementRole.ofName uri name = .directive directive)
    (h : assembly.openDirective directive name attributes compress location = .ok next) :
    Opening assembly uri name attributes compress location next := by
  cases directive with
  | remove => cases h; exact .remove hrole
  | content =>
      simp only [openDirective_eq] at h
      split at h
      · cases h
      · rename_i hphase
        cases h
        exact .content hrole hphase
  | extensionPoint =>
      rw [openDirective_eq] at h
      obtain ⟨id, hid, h⟩ := bind_ok h
      split at h
      · cases h
      · rename_i hnested
        cases h
        exact .extensionPoint id hrole hid (by simpa using hnested)
  | extend =>
      simp only [openDirective_eq] at h
      split at h
      · cases h
      · rename_i hroot
        cases h
        exact .extend hrole (by simpa using hroot)
  | replace =>
      simp only [openDirective_eq] at h
      split at h
      · cases h
      · rename_i hplace
        obtain ⟨id, hid, h⟩ := bind_ok h
        cases h
        simp only [Bool.or_eq_true, Bool.not_eq_true', not_or, Bool.not_eq_false,
          Bool.not_eq_true] at hplace
        exact .replace id hrole hid hplace.1.1 hplace.1.2 hplace.2
  | body => cases h; exact .body hrole
  | block =>
      rw [openDirective_eq] at h
      obtain ⟨id, hid, h⟩ := bind_ok h
      split at h
      · rename_i hvalid
        cases h
        exact .block id hrole hid hvalid
      · cases h
  | parameter =>
      rw [openDirective_eq] at h
      obtain ⟨label, hlabel, h⟩ := bind_ok h
      split at h
      · rename_i hinside
        cases h
        exact .parameter label hrole hlabel hinside
      · cases h
  | container =>
      simp only [openDirective_eq] at h
      split at h
      · cases h
      · rename_i hroot
        cases h
        exact .container hrole (by simpa using hroot)

-- Every accepted element is one of the cases.
theorem opening_of_openByRole {assembly next : Assembly} {uri : Option String} {name : String}
    {attributes : List Attribute} {location : Location}
    (h : assembly.openByRole uri name attributes location = .ok next) :
    Opening assembly uri name attributes
      ((Attribute.compression? attributes).getD assembly.compressing) location next := by
  simp only [openByRole_eq] at h
  cases hrole : ElementRole.ofName uri name with
  | plain =>
      rw [hrole] at h
      exact opening_of_openOutput (by rw [hrole]; rfl) h
  | component componentType =>
      rw [hrole] at h
      exact opening_of_openOutput (by rw [hrole]; rfl) h
  | directive found =>
      rw [hrole] at h
      exact opening_of_openDirective hrole h
  | blockParameter =>
      rw [hrole] at h
      simp only [openBlockParameter_eq] at h
      split at h
      · cases h
      · rename_i hinside
        split at h
        · cases h
        · cases h
          exact .blockParameter hrole rfl (by simpa using hinside)
  | strayLibrary => rw [hrole] at h; cases h

-- What the end of an element makes of an assembly without pending text.
inductive Closing (assembly : Assembly) (location : Location) : Assembly → Prop
  | stray (hscopes : assembly.scopes = []) : Closing assembly location assembly
  | element (compress isComponent : Bool) (outer : List Scope)
      (hscopes : assembly.scopes = ⟨compress, isComponent, .element⟩ :: outer) :
      Closing assembly location
        ({ assembly with scopes := outer }.emitOne .endElement location)
  | content (compress isComponent : Bool) (outer : List Scope)
      (hscopes : assembly.scopes = ⟨compress, isComponent, .content⟩ :: outer) :
      Closing assembly location { assembly with scopes := outer, phase := .over }
  | region (scope : Scope) (outer : List Scope) (id : String) (saved : Array Token)
      (hscopes : assembly.scopes = scope :: outer) (hkind : scope.kind.region? = some (id, saved)) :
      Closing assembly location
        ({ assembly with scopes := outer, tokens := saved }.setOverride id assembly.tokens)
  | bare (scope : Scope) (outer : List Scope) (hscopes : assembly.scopes = scope :: outer)
      (hkind : scope.kind.isBare = true) :
      Closing assembly location { assembly with scopes := outer }

theorem closing_closeElement (assembly : Assembly) (location : Location) :
    Closing assembly location (assembly.closeElement location) := by
  unfold closeElement
  split
  · rename_i hscopes
    exact .stray hscopes
  · rename_i scope outer hscopes
    obtain ⟨compress, isComponent, kind⟩ := scope
    cases kind with
    | element => exact .element compress isComponent outer hscopes
    | content => exact .content compress isComponent outer hscopes
    | extensionPoint id saved => exact .region _ outer id saved hscopes rfl
    | replace id saved => exact .region _ outer id saved hscopes rfl
    | body | remove | removed | extend | container => exact .bare _ outer hscopes rfl

end Assembly

end TemplateMarkup
