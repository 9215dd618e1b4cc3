import Mathlib.Data.Option.Basic
import TemplateMarkup.Proofs.Assembly.Element

namespace TemplateMarkup

-- Whether a token is of the markup itself and no document type or comment.
def TokenForm.isSubstance : TokenForm → Bool
  | .doctype .. | .comment _ => false
  | _ => true

namespace Assembly

-- Two innermost elements that differ at most in their white space settings and in what regions
-- have put aside.
structure HeadLike (scope other : Scope) : Prop where
  isComponent : scope.isComponent = other.isComponent
  kind : ∀ asked : ScopeKind, asked.region? = none → (scope.kind == asked) = (other.kind == asked)

-- Two assemblies in which an event finds the same, except for the sequence so far and for the
-- white space setting.
structure Alike (first second : Assembly) : Prop where
  resource : first.resource = second.resource
  ids : first.ids = second.ids
  isExtension : first.isExtension = second.isExtension
  phase : first.phase = second.phase
  inDoctype : first.inDoctype = second.inDoctype
  bindings : first.bindings = second.bindings
  head : Option.Rel HeadLike first.scopes.head? second.scopes.head?
  inReplacement : first.inReplacement = second.inReplacement
  inExtensionPoint : first.inExtensionPoint = second.inExtensionPoint

variable {first second : Assembly}

theorem place_congr (h : first.resource = second.resource) (line : Option Nat) :
    first.place line = second.place line := by
  simp only [place, h]

namespace Alike

variable (h : first.Alike second)

include h

theorem heads : (first.scopes = [] ∧ second.scopes = []) ∨
    ∃ scope outer other rest, first.scopes = scope :: outer ∧ second.scopes = other :: rest ∧
      HeadLike scope other := by
  have hhead := h.head
  rcases hfirst : first.scopes with _ | ⟨scope, outer⟩ <;>
    rcases hsecond : second.scopes with _ | ⟨other, rest⟩ <;> rw [hfirst, hsecond] at hhead
  · exact .inl ⟨rfl, rfl⟩
  · cases hhead
  · cases hhead
  · cases hhead with
    | some hlike => exact .inr ⟨scope, outer, other, rest, rfl, rfl, hlike⟩

theorem inRemoved : first.inRemoved = second.inRemoved := by
  obtain ⟨hf, hs⟩ | ⟨scope, outer, other, rest, hf, hs, hhead⟩ := h.heads
  · simp only [Assembly.inRemoved, hf, hs]
  · simp only [Assembly.inRemoved, hf, hs, hhead.kind .remove rfl, hhead.kind .removed rfl]

theorem inBody : first.inBody = second.inBody := by
  obtain ⟨hf, hs⟩ | ⟨scope, outer, other, rest, hf, hs, hhead⟩ := h.heads
  · simp only [Assembly.inBody, hf, hs]
  · simp only [Assembly.inBody, hf, hs, hhead.kind .body rfl]

theorem isDirectlyInExtend : first.isDirectlyInExtend = second.isDirectlyInExtend := by
  obtain ⟨hf, hs⟩ | ⟨scope, outer, other, rest, hf, hs, hhead⟩ := h.heads
  · simp only [Assembly.isDirectlyInExtend, hf, hs]
  · simp only [Assembly.isDirectlyInExtend, hf, hs, hhead.kind .extend rfl]

theorem inComponent : first.inComponent = second.inComponent := by
  obtain ⟨hf, hs⟩ | ⟨scope, outer, other, rest, hf, hs, hhead⟩ := h.heads
  · simp only [Assembly.inComponent, hf, hs]
  · simp only [Assembly.inComponent, hf, hs, hhead.isComponent]

theorem isIdle : first.isIdle = second.isIdle := by
  simp only [Assembly.isIdle, h.inDoctype, h.phase, h.inRemoved]

theorem placementFault? (uri : Option String) (name : String) :
    first.placementFault? uri name = second.placementFault? uri name := by
  simp only [Assembly.placementFault?, h.inBody, h.inReplacement, h.isExtension]

end Alike

-- Both are refused for the same fault, or both go on in the same relation.
inductive Agree (holds : Assembly → Assembly → Prop) :
    Except Fault Assembly → Except Fault Assembly → Prop
  | error (fault : Fault) : Agree holds (.error fault) (.error fault)
  | ok {first second : Assembly} (h : holds first second) : Agree holds (.ok first) (.ok second)

-- A relation of two runs under which events find the same in both, and which every single change
-- keeps that the start of an element makes.
structure Bond where
  Holds : Assembly → Assembly → Prop
  settings : Bool → Bool → Prop
  same : ∀ compress, settings compress compress
  alike : ∀ {first second}, Holds first second → first.Alike second
  compressing : ∀ {first second}, Holds first second →
    settings first.compressing second.compressing
  register : ∀ {first second}, Holds first second → ∀ ids,
    Holds { first with ids := ids } { second with ids := ids }
  extend : ∀ {first second}, Holds first second →
    Holds { first with isExtension := true } { second with isExtension := true }
  attach : ∀ {first second}, Holds first second →
    Holds { first with bindings := #[] } { second with bindings := #[] }
  emit : ∀ {first second}, Holds first second → ∀ {more : Array Token},
    more.any (·.form.isSubstance) = true → Holds (first.emit more) (second.emit more)
  push : ∀ {first second}, Holds first second → ∀ {kind : ScopeKind}, kind.region? = none →
    kind ≠ .content → ∀ {compress setting}, settings compress setting → ∀ isComponent,
    Holds (first.push kind compress isComponent) (second.push kind setting isComponent)
  enter : ∀ {first second}, Holds first second → first.phase ≠ .inside →
    ∀ {compress setting}, settings compress setting →
    Holds ({ first with phase := .inside, tokens := #[], ids := IdTable.empty }.pushBare
        .content compress)
      ({ second with phase := .inside, tokens := #[], ids := IdTable.empty }.pushBare
        .content setting)
  redirect : ∀ {first second}, Holds first second → ∀ {id} {region : Array Token → ScopeKind},
    region = .extensionPoint id ∨ region = .replace id →
    ∀ {compress setting}, settings compress setting →
    Holds ({ first.setOverride id #[] with tokens := #[] }.pushBare (region first.tokens) compress)
      ({ second.setOverride id #[] with tokens := #[] }.pushBare (region second.tokens) setting)

-- Whether an element may begin only where the sequence has no content.
def needsVacancy (assembly : Assembly) (role : ElementRole) : Bool :=
  match role with
  | .directive .extend | .directive .container => true
  | .directive .replace => assembly.isExtension && assembly.isDirectlyInExtend
  | _ => false

namespace Bond

variable {bond : Bond} (h : bond.Holds first second)

include h

theorem emitOne {form : TokenForm} (hform : form.isSubstance = true) (location : Location) :
    bond.Holds (first.emitOne form location) (second.emitOne form location) :=
  bond.emit h (by simp [hform])

theorem pushBare {kind : ScopeKind} (hregion : kind.region? = none) (hkind : kind ≠ .content)
    {compress setting : Bool} (hsettings : bond.settings compress setting) :
    bond.Holds (first.pushBare kind compress) (second.pushBare kind setting) := by
  simp only [Assembly.pushBare, (bond.alike h).inComponent]
  exact bond.push h hregion hkind hsettings _

theorem agree_register (id : Option String) (location : Location) :
    Agree bond.Holds (first.register id location) (second.register id location) := by
  cases id with
  | none => exact .ok h
  | some id =>
      simp only [register_eq, ← (bond.alike h).ids]
      cases first.ids.get? id with
      | some known => exact .error _
      | none => exact .ok (bond.register h _)

theorem agree_openOutput (uri element componentType : Option String)
    (attributes : List Attribute) {compress setting : Bool}
    (hsettings : bond.settings compress setting) (location : Location) :
    Agree bond.Holds (first.openOutput uri element componentType attributes compress location)
      (second.openOutput uri element componentType attributes setting location) := by
  simp only [openOutput_eq]
  cases (Component.ofType componentType).readAll location attributes with
  | error fault => exact .error fault
  | ok component =>
      dsimp only
      split
      · exact .error _
      · have hboth := agree_register h component.id location
        generalize first.register component.id location = registered at hboth ⊢
        generalize second.register component.id location = other at hboth ⊢
        cases hboth with
        | error fault => exact .error fault
        | ok hnoted =>
            dsimp only
            rw [(bond.alike hnoted).bindings]
            have hstart : (component.startForm uri element).isSubstance = true := by
              unfold Component.startForm
              split <;> rfl
            refine .ok (bond.attach (bond.push (bond.emit hnoted ?_) rfl (by simp) hsettings _))
            rw [Array.any_append, Array.any_append]
            simp [hstart]

theorem agree_openDirective (directive : Directive) (name : String) (attributes : List Attribute)
    {compress setting : Bool} (hsettings : bond.settings compress setting) (location : Location)
    (hcontent : first.needsVacancy (.directive directive) = true →
      first.hasContent = second.hasContent) :
    Agree bond.Holds (first.openDirective directive name attributes compress location)
      (second.openDirective directive name attributes setting location) := by
  cases directive with
  | remove => exact .ok (bond.push h rfl (by simp) hsettings false)
  | content =>
      simp only [openDirective_eq, ← (bond.alike h).phase]
      split
      · exact .error _
      · rename_i hphase
        exact .ok (bond.enter h hphase hsettings)
  | extensionPoint =>
      simp only [openDirective_eq, ← (bond.alike h).inExtensionPoint]
      cases requiredAttribute name "id" location attributes with
      | error fault => exact .error fault
      | ok id =>
          simp only [bind, Except.bind]
          split
          · exact .error _
          · have hform : (TokenForm.extensionPoint id).isSubstance = true := rfl
            exact .ok (bond.redirect (emitOne h hform location) (.inl rfl) hsettings)
  | extend =>
      simp only [openDirective_eq, hcontent rfl]
      split
      · exact .error _
      · exact .ok (pushBare (bond.extend h) rfl (by simp) hsettings)
  | replace =>
      simp only [needsVacancy, Bool.and_eq_true] at hcontent
      simp only [openDirective_eq]
      have hrefused : (!first.isExtension || !first.isDirectlyInExtend || first.hasContent) =
          (!second.isExtension || !second.isDirectlyInExtend || second.hasContent) := by
        rw [← (bond.alike h).isExtension, ← (bond.alike h).isDirectlyInExtend]
        cases hextension : first.isExtension with
        | false => rfl
        | true =>
            cases hinside : first.isDirectlyInExtend with
            | false => rfl
            | true => simp [hcontent ⟨hextension, hinside⟩]
      rw [hrefused]
      split
      · exact .error _
      · cases requiredAttribute name "id" location attributes with
        | error fault => exact .error fault
        | ok id => exact .ok (bond.redirect h (.inr rfl) hsettings)
  | body => exact .ok (pushBare (emitOne h rfl location) rfl (by simp) hsettings)
  | block =>
      simp only [openDirective_eq]
      cases requiredAttribute name "id" location attributes with
      | error fault => exact .error fault
      | ok id =>
          simp only [bind, Except.bind]
          split
          · exact .ok (bond.push (emitOne h rfl location) rfl (by simp) hsettings false)
          · exact .error _
  | parameter =>
      simp only [openDirective_eq, ← (bond.alike h).inComponent]
      cases requiredAttribute name "name" location attributes with
      | error fault => exact .error fault
      | ok label =>
          simp only [bind, Except.bind]
          split
          · exact .ok (bond.push (emitOne h rfl location) rfl (by simp) hsettings false)
          · exact .error _
  | container =>
      simp only [openDirective_eq, hcontent rfl]
      split
      · exact .error _
      · exact .ok (pushBare h rfl (by simp) hsettings)

theorem agree_openBlockParameter (name : String) (attributes : List Attribute)
    {compress setting : Bool} (hsettings : bond.settings compress setting) (location : Location) :
    Agree bond.Holds (first.openBlockParameter name attributes compress location)
      (second.openBlockParameter name attributes setting location) := by
  simp only [openBlockParameter_eq, ← (bond.alike h).inComponent]
  split
  · exact .error _
  · cases attributes with
    | nil => exact .ok (bond.push (emitOne h rfl location) rfl (by simp) hsettings false)
    | cons attr rest => exact .error _

-- An element is refused in both or opens in both, if one that looks back at the sequence finds the
-- same there.
theorem agree_openByRole (uri : Option String) (name : String) (attributes : List Attribute)
    (location : Location)
    (hcontent : first.needsVacancy (ElementRole.ofName uri name) = true →
      first.hasContent = second.hasContent) :
    Agree bond.Holds (first.openByRole uri name attributes location)
      (second.openByRole uri name attributes location) := by
  have hsettings : bond.settings
      ((Attribute.compression? attributes).getD first.compressing)
      ((Attribute.compression? attributes).getD second.compressing) := by
    cases Attribute.compression? attributes with
    | none => exact bond.compressing h
    | some compress => exact bond.same compress
  simp only [openByRole_eq]
  cases hrole : ElementRole.ofName uri name with
  | plain => exact agree_openOutput h _ _ _ _ hsettings _
  | component componentType => exact agree_openOutput h _ _ _ _ hsettings _
  | directive found =>
      rw [hrole] at hcontent
      exact agree_openDirective h _ _ _ hsettings _ hcontent
  | blockParameter => exact agree_openBlockParameter h _ _ hsettings _
  | strayLibrary uri => exact .error _

end Bond

end Assembly

end TemplateMarkup
