import TemplateMarkup.Proofs.Assembly.Bond
import TemplateMarkup.Proofs.Assembly.OpenElements

namespace TemplateMarkup

namespace Assembly

-- The same elements are open inside the content element. Outside of it only the questions whether
-- a replacement and whether an extension point is open have the same answer.
inductive SameInside : List Scope → List Scope → Prop
  | content (scope : Scope) (outer others : List Scope) (hkind : scope.kind = .content)
      (hreplace : outer.any (·.kind.isReplace) = others.any (·.kind.isReplace))
      (hpoint : outer.any (·.kind.isExtensionPoint) = others.any (·.kind.isExtensionPoint)) :
      SameInside (scope :: outer) (scope :: others)
  | inner (scope : Scope) {outer others : List Scope} (hkind : scope.kind ≠ .content)
      (houter : SameInside outer others) : SameInside (scope :: outer) (scope :: others)

-- Two assemblies that have met the same events since the content element began. Behind it the
-- open elements do not matter any more.
structure Parallel (first second : Assembly) : Prop where
  resource : first.resource = second.resource
  tokens : first.tokens = second.tokens
  ids : first.ids = second.ids
  isExtension : first.isExtension = second.isExtension
  phase : first.phase = second.phase
  entered : first.phase ≠ .outside
  inDoctype : first.inDoctype = second.inDoctype
  bindings : first.bindings = second.bindings
  pending : first.pending = second.pending
  scopes : first.phase ≠ .over → SameInside first.scopes second.scopes
  quiet : first.phase = .over → first.pending = none

variable {first second : Assembly}

theorem SameInside.head {scopes others : List Scope} (h : SameInside scopes others) :
    ∃ scope outer rest, scopes = scope :: outer ∧ others = scope :: rest := by
  cases h with
  | content scope outer others => exact ⟨scope, outer, others, rfl, rfl⟩
  | inner scope => exact ⟨scope, _, _, rfl, rfl⟩

theorem SameInside.any_isReplace {scopes others : List Scope} (h : SameInside scopes others) :
    scopes.any (·.kind.isReplace) = others.any (·.kind.isReplace) := by
  induction h with
  | content scope outer others hkind hreplace hpoint => simp [hreplace]
  | inner scope hkind houter ih => simp [ih]

theorem SameInside.any_isExtensionPoint {scopes others : List Scope}
    (h : SameInside scopes others) :
    scopes.any (·.kind.isExtensionPoint) = others.any (·.kind.isExtensionPoint) := by
  induction h with
  | content scope outer others hkind hreplace hpoint => simp [hpoint]
  | inner scope hkind houter ih => simp [ih]

namespace Parallel

section Counting

variable (h : first.Parallel second) (hphase : first.phase ≠ .over)

include h hphase

theorem compressing : first.compressing = second.compressing := by
  obtain ⟨scope, outer, rest, hfirst, hsecond⟩ := (h.scopes hphase).head
  simp only [Assembly.compressing, hfirst, hsecond]

theorem alike : first.Alike second where
  resource := h.resource
  ids := h.ids
  isExtension := h.isExtension
  phase := h.phase
  inDoctype := h.inDoctype
  bindings := h.bindings
  head := by
    obtain ⟨scope, outer, rest, hfirst, hsecond⟩ := (h.scopes hphase).head
    rw [hfirst, hsecond]
    exact .some ⟨rfl, fun _ _ => rfl⟩
  inReplacement := (h.scopes hphase).any_isReplace
  inExtensionPoint := (h.scopes hphase).any_isExtensionPoint

end Counting

theorem isIdle (h : first.Parallel second) : first.isIdle = second.isIdle := by
  by_cases hphase : first.phase = .over
  · simp [Assembly.isIdle, ← h.phase, hphase]
  · exact (h.alike hphase).isIdle

theorem hasContent (h : first.Parallel second) : first.hasContent = second.hasContent := by
  simp only [Assembly.hasContent, h.tokens]

theorem settled (h : first.Parallel second) : first.settled.Parallel second.settled := by
  by_cases hphase : first.phase = .over
  · rw [settled_of_none (h.quiet hphase), settled_of_none (h.pending ▸ h.quiet hphase)]
    exact h
  · have hsettlement : first.settlement = second.settlement := by
      simp only [settlement, h.pending, h.compressing hphase]
    rw [settled_eq, settled_eq]
    exact { h with
      tokens := by simp only [h.tokens, hsettlement]
      pending := rfl
      quiet := fun _ => rfl }

theorem emit (h : first.Parallel second) (tokens : Array Token) :
    (first.emit tokens).Parallel (second.emit tokens) :=
  { h with tokens := by simp only [Assembly.emit, h.tokens] }

theorem setOverride (h : first.Parallel second) (id other : String) (tokens more : Array Token) :
    (first.setOverride id tokens).Parallel (second.setOverride other more) :=
  { h with }

theorem push (h : first.Parallel second) {kind : ScopeKind} (hkind : kind ≠ .content)
    (compress isComponent : Bool) :
    (first.push kind compress isComponent).Parallel (second.push kind compress isComponent) :=
  { h with scopes := fun hphase => .inner _ hkind (h.scopes hphase) }

-- Tokens that are put aside are the same in both.
theorem redirect (h : first.Parallel second) (hphase : first.phase ≠ .over) (id : String)
    {region : Array Token → ScopeKind} (hregion : region second.tokens ≠ .content)
    (compress : Bool) :
    ({ first.setOverride id #[] with tokens := #[] }.pushBare
        (region first.tokens) compress).Parallel
      ({ second.setOverride id #[] with tokens := #[] }.pushBare
        (region second.tokens) compress) := by
  have hemptied : Parallel { first.setOverride id #[] with tokens := #[] }
      { second.setOverride id #[] with tokens := #[] } := { h with tokens := rfl }
  rw [h.tokens]
  simp only [pushBare, (hemptied.alike hphase).inComponent]
  exact hemptied.push hregion compress _

-- An element that begins inside the content element finds the same in both, and no second content
-- element is let in.
def bond : Bond where
  Holds first second := first.Parallel second ∧ first.phase ≠ .over
  settings := (· = ·)
  same _ := rfl
  alike h := h.1.alike h.2
  compressing h := h.1.compressing h.2
  register h _ := ⟨{ h.1 with ids := rfl }, h.2⟩
  extend h := ⟨{ h.1 with isExtension := rfl }, h.2⟩
  attach h := ⟨{ h.1 with bindings := rfl }, h.2⟩
  emit h more _ := ⟨h.1.emit more, h.2⟩
  push h _ _ hkind _ _ hsettings isComponent := by
    subst hsettings
    exact ⟨h.1.push hkind _ isComponent, h.2⟩
  enter {first _} h hinside _ _ _ := by
    have hentered := h.1.entered
    have hover := h.2
    cases hphase : first.phase <;> simp_all
  redirect h id region hregion _ _ hsettings := by
    subst hsettings
    refine ⟨h.1.redirect h.2 id ?_ _, h.2⟩
    rcases hregion with rfl | rfl <;> simp

theorem closeElement (h : first.Parallel second) (hphase : first.phase ≠ .over)
    (hpending : first.pending = none) (location : Location) :
    (first.closeElement location).Parallel (second.closeElement location) := by
  have hinside := h.scopes hphase
  generalize hfirst : first.scopes = scopes at hinside
  generalize hsecond : second.scopes = others at hinside
  cases hinside with
  | content scope outer others hkind hreplace hpoint =>
      simp only [Assembly.closeElement, hfirst, hsecond, hkind]
      exact { h with
        phase := rfl
        entered := by simp
        scopes := fun hp => absurd rfl hp
        quiet := fun _ => hpending }
  | @inner scope outer others hkind houter =>
      have hleft : Parallel { first with scopes := outer } { second with scopes := others } :=
        { h with scopes := fun _ => houter }
      simp only [Assembly.closeElement, hfirst, hsecond]
      cases hscope : scope.kind with
      | element => exact hleft.emit _
      | content => exact absurd hscope hkind
      | extensionPoint id saved | replace id saved =>
          have hback : Parallel { first with scopes := outer, tokens := saved }
              { second with scopes := others, tokens := saved } := { hleft with tokens := rfl }
          exact hback.setOverride id id _ _
      | body | remove | removed | extend | container => exact hleft

-- One event has the same result in both, and they go on in parallel.
theorem step (h : first.Parallel second) (placed : PlacedEvent) :
    (first.step placed).fault = (second.step placed).fault ∧
      (first.step placed).next.Parallel (second.step placed).next := by
  obtain ⟨line, event⟩ := placed
  have hcounts : first.isIdle = false → first.phase ≠ .over := by
    intro hidle hover
    simp [Assembly.isIdle, hover] at hidle
  simp only [Assembly.step, ← place_congr h.resource]
  generalize first.place line = location
  cases event with
  | documentStart | documentEnd => exact ⟨rfl, h⟩
  | elementStart uri name attributes =>
      simp only [react_elementStart, elementStart_eq, ← h.phase, ← h.inDoctype]
      split
      · exact ⟨rfl, h⟩
      · rename_i hover
        have hphase : first.phase ≠ .over := by
          intro he
          simp [he] at hover
        rw [← (h.alike hphase).inRemoved, ← (h.alike hphase).placementFault?,
          ← h.compressing hphase]
        split
        · exact ⟨rfl, h.push (by simp) _ _⟩
        · split
          · exact ⟨rfl, h⟩
          · have hheld : bond.Holds first.settled second.settled :=
              ⟨h.settled, by simpa using hphase⟩
            have hboth := Bond.agree_openByRole hheld uri name attributes location fun _ =>
              h.settled.hasContent
            generalize first.settled.openByRole uri name attributes location = opened at hboth ⊢
            generalize second.settled.openByRole uri name attributes location = other at hboth ⊢
            cases hboth with
            | error fault => exact ⟨rfl, h.settled⟩
            | ok hopened => exact ⟨rfl, hopened.1⟩
  | elementEnd uri name =>
      simp only [elementEnd, ← h.phase, ← h.inDoctype]
      split
      · exact ⟨rfl, h⟩
      · rename_i hover
        have hphase : first.settled.phase ≠ .over := by
          intro he
          rw [settled_phase] at he
          simp [he] at hover
        exact ⟨rfl, h.settled.closeElement hphase (settled_pending _) location⟩
  | text content =>
      simp only [react_characters, characters_eq, ← h.isIdle]
      split
      · exact ⟨rfl, h⟩
      · rename_i hidle
        have hphase := hcounts (by simpa using hidle)
        rw [← (h.alike hphase).inBody, ← h.pending]
        split
        · exact ⟨rfl, h⟩
        · exact ⟨rfl, { h with pending := rfl, quiet := fun hp => absurd hp hphase }⟩
  | comment content =>
      simp only [comment, ← h.isIdle]
      split
      · exact ⟨rfl, h⟩
      · exact ⟨rfl, h.settled.emit _⟩
  | cdataStart =>
      simp only [cdataStart, ← h.isIdle]
      split
      · exact ⟨rfl, h⟩
      · rename_i hidle
        have hphase : first.settled.phase ≠ .over := by
          rw [settled_phase]
          exact hcounts (by simpa using hidle)
        exact ⟨rfl, { h.settled with pending := rfl, quiet := fun hp => absurd hp hphase }⟩
  | cdataEnd =>
      simp only [cdataEnd, ← h.isIdle, ← h.pending]
      split
      · exact ⟨rfl, h⟩
      · exact ⟨rfl, { h.emit _ with pending := rfl, quiet := fun _ => rfl }⟩
  | doctypeStart name publicId systemId => exact ⟨rfl, { h.emit _ with inDoctype := rfl }⟩
  | doctypeEnd => exact ⟨rfl, { h with inDoctype := rfl }⟩
  | binding label uri =>
      simp only [binding, ← h.isIdle, ← h.bindings]
      split
      · exact ⟨rfl, h⟩
      · exact ⟨rfl, { h with bindings := rfl }⟩

end Parallel

-- The results of events, each of which is taken in whether those before it were refused or not.
def faults (assembly : Assembly) : List PlacedEvent → List (Option Fault)
  | [] => []
  | placed :: rest => (assembly.step placed).fault :: (assembly.step placed).next.faults rest

theorem Parallel.after (h : first.Parallel second) (events : List PlacedEvent) :
    first.faults events = second.faults events ∧
      (first.after events).Parallel (second.after events) := by
  induction events generalizing first second with
  | nil => exact ⟨rfl, h⟩
  | cons placed rest ih =>
      obtain ⟨hfault, hnext⟩ := h.step placed
      obtain ⟨hfaults, hafter⟩ := ih hnext
      exact ⟨by rw [faults, faults, hfault, hfaults], hafter⟩

-- What a content element takes over from the place where it stands.
structure SharesPlace (first second : Assembly) : Prop where
  resource : first.resource = second.resource
  compressing : first.compressing = second.compressing
  inComponent : first.inComponent = second.inComponent
  bindings : first.bindings = second.bindings
  isExtension : first.isExtension = second.isExtension
  inReplacement : first.inReplacement = second.inReplacement
  inExtensionPoint : first.inExtensionPoint = second.inExtensionPoint

-- The start of a content element drops the tokens and the ids so far.
def contentOpened (assembly : Assembly) (compress : Bool) : Assembly :=
  { assembly.settled with phase := .inside, tokens := #[], ids := IdTable.empty }.pushBare
    .content compress

theorem next_of_content {assembly : Assembly} {line : Option Nat} {uri : Option String}
    {name : String} {attributes : List Attribute}
    (hcontent : ElementRole.ofName uri name = .directive .content)
    (hphase : assembly.phase = .outside) (hidle : assembly.isIdle = false)
    (h : (assembly.step ⟨line, .elementStart uri name attributes⟩).fault = none) :
    (assembly.step ⟨line, .elementStart uri name attributes⟩).next =
      assembly.contentOpened ((Attribute.compression? attributes).getD assembly.compressing) := by
  simp only [isIdle, Bool.or_eq_false_iff] at hidle
  cases hplace : assembly.placementFault? uri name with
  | some rule =>
      simp [step, react_elementStart, elementStart_eq, hphase, hidle, hplace, Reaction.refused] at h
  | none =>
      simp [step, react_elementStart, elementStart_eq, hphase, hidle, hplace, openByRole_eq,
        hcontent, openDirective_eq, contentOpened, Reaction.accepted]

theorem inDoctype_of_not_isIdle {assembly : Assembly} (h : assembly.isIdle = false) :
    assembly.inDoctype = false := by
  simp only [isIdle, Bool.or_eq_false_iff] at h
  exact h.1.1

theorem SharesPlace.parallel (h : first.SharesPlace second) (hfirst : first.isIdle = false)
    (hsecond : second.isIdle = false) (compress : Bool) :
    (first.contentOpened compress).Parallel (second.contentOpened compress) where
  resource := by simp [contentOpened, pushBare, push, h.resource]
  tokens := rfl
  ids := rfl
  isExtension := by simp [contentOpened, pushBare, push, settled_eq, h.isExtension]
  phase := rfl
  entered := by simp [contentOpened, pushBare, push]
  inDoctype := by
    simp [contentOpened, pushBare, push, inDoctype_of_not_isIdle hfirst,
      inDoctype_of_not_isIdle hsecond]
  bindings := by simp [contentOpened, pushBare, push, h.bindings]
  pending := by simp [contentOpened, pushBare, push]
  scopes _ := by
    have hcomponent : first.settled.inComponent = second.settled.inComponent := by
      rw [settled_inComponent, settled_inComponent, h.inComponent]
    have hinside : SameInside
        (⟨compress, first.settled.inComponent, .content⟩ :: first.settled.scopes)
        (⟨compress, second.settled.inComponent, .content⟩ :: second.settled.scopes) := by
      rw [hcomponent, settled_scopes, settled_scopes]
      exact .content _ _ _ rfl h.inReplacement h.inExtensionPoint
    exact hinside
  quiet hover := by simp [contentOpened, pushBare, push] at hover

-- A content element is isolated from what came before it. Where two assemblies share what the
-- element takes over from its place, events inside and behind it have the same results, and the
-- templates have the same main sequence and the same ids, whatever else the assemblies have met.
-- The events need not be balanced, since behind the end of the content element none of them
-- closes anything.
theorem content_isolated {line : Option Nat} {uri other : Option String} {name label : String}
    {attributes : List Attribute} (events : List PlacedEvent)
    (hcontent : ElementRole.ofName uri name = .directive .content)
    (hother : ElementRole.ofName other label = .directive .content)
    (hfirst : first.phase = .outside ∧ first.isIdle = false)
    (hsecond : second.phase = .outside ∧ second.isIdle = false)
    (hshared : first.SharesPlace second)
    (hfirstStart : (first.step ⟨line, .elementStart uri name attributes⟩).fault = none)
    (hsecondStart : (second.step ⟨line, .elementStart other label attributes⟩).fault = none) :
    let inFirst := (first.step ⟨line, .elementStart uri name attributes⟩).next
    let inSecond := (second.step ⟨line, .elementStart other label attributes⟩).next
    inFirst.faults events = inSecond.faults events ∧
      (inFirst.after events).template.tokens = (inSecond.after events).template.tokens ∧
      (inFirst.after events).template.ids = (inSecond.after events).template.ids := by
  intro inFirst inSecond
  have hstart : inFirst.Parallel inSecond := by
    simp only [inFirst, inSecond]
    rw [next_of_content hcontent hfirst.1 hfirst.2 hfirstStart,
      next_of_content hother hsecond.1 hsecond.2 hsecondStart, hshared.compressing]
    exact hshared.parallel hfirst.2 hsecond.2 _
  obtain ⟨hfaults, hafter⟩ := hstart.after events
  exact ⟨hfaults, hafter.settled.tokens, hafter.settled.ids⟩

-- An assembly that has met a component, an override and text that is still pending.
def busyPlace : Assembly :=
  (start "T.tml" true).after [
    ⟨some 1, .elementStart none "div" [⟨some Naming.templateUri51, "id", "x"⟩]⟩,
    ⟨some 1, .elementEnd none "div"⟩,
    ⟨some 2, .elementStart (some Naming.templateUri51) "extension-point" [⟨none, "id", "a"⟩]⟩,
    ⟨some 2, .elementEnd (some Naming.templateUri51) "extension-point"⟩, ⟨some 3, .text "y"⟩]

-- A component of the same id in the content element, and what comes behind it.
def contentEvents : List PlacedEvent := [
  ⟨some 4, .elementStart none "p" [⟨some Naming.templateUri51, "id", "x"⟩]⟩,
  ⟨some 4, .text "z"⟩, ⟨some 4, .elementEnd none "p"⟩,
  ⟨some 5, .elementEnd (some Naming.templateUri51) "content"⟩]

theorem content_isolated_from_busyPlace :
    let inFirst := ((start "T.tml" true).step
      ⟨some 4, .elementStart (some Naming.templateUri51) "content" []⟩).next
    let inSecond := (busyPlace.step
      ⟨some 4, .elementStart (some Naming.templateUri51) "Content" []⟩).next
    inFirst.faults contentEvents = inSecond.faults contentEvents ∧
      (inFirst.after contentEvents).template.tokens =
        (inSecond.after contentEvents).template.tokens ∧
      (inFirst.after contentEvents).template.ids = (inSecond.after contentEvents).template.ids :=
  content_isolated contentEvents (by decide +kernel) (by decide +kernel)
    (by decide +kernel) (by decide +kernel)
    ⟨by decide +kernel, by decide +kernel, by decide +kernel, by decide +kernel,
      by decide +kernel, by decide +kernel, by decide +kernel⟩
    (by decide +kernel) (by decide +kernel)

end Assembly

end TemplateMarkup
