import TemplateMarkup.Proofs.Assembly.Balance
import TemplateMarkup.Proofs.Region.Recording
import TemplateMarkup.Proofs.Token.Unclosed

namespace TemplateMarkup

open Token (IsSlot Slotted slotted_nil unclosed unclosed_append_flat unclosed_concat_close
  unclosed_concat_open)

theorem Component.isComponent_startForm (component : Component) (uri element : Option String) :
    (component.startForm uri element).isComponent = component.isComponent := by
  unfold startForm
  split
  · rename_i hcomponent
    exact hcomponent.symm
  · rename_i hplain
    exact (Bool.eq_false_iff.mpr hplain).symm

theorem Component.isParameter_startForm (component : Component) (uri element : Option String) :
    (component.startForm uri element).isParameter = false := by
  unfold startForm
  split <;> rfl

namespace Assembly

-- Whether the tokens inside of open elements go to an override.
def redirects (scopes : List Scope) : Bool :=
  scopes.any fun scope => scope.kind.region?.isSome

-- The open elements match the tokens that the active sequence leaves open, and so do those
-- around a region the sequence that it keeps. An element that opens no token is a component only
-- inside of one. With the content element a sequence begins that is free.
inductive Mirrors (free : Bool) : List Scope → List Token → Prop
  | ground : Mirrors free [] []
  | element {scope : Scope} {outer : List Scope} {token : Token} {opened : List Token}
      (hkind : scope.kind = .element) (hsame : token.isComponent = scope.isComponent)
      (houter : Mirrors free outer opened) : Mirrors free (scope :: outer) (token :: opened)
  | bare {scope : Scope} {outer : List Scope} {opened : List Token}
      (hkind : scope.kind.isBare = true)
      (hinside : scope.isComponent = true → ∃ around ∈ outer.head?, around.isComponent = true)
      (houter : Mirrors free outer opened) : Mirrors free (scope :: outer) opened
  | content {scope : Scope} {outer : List Scope} (hkind : scope.kind = .content)
      (hfree : free = true) : Mirrors free (scope :: outer) []
  | region {scope : Scope} {outer : List Scope} {id : String} {saved : Array Token}
      (hkind : scope.kind.region? = some (id, saved))
      (houter : Mirrors free outer (unclosed saved.toList))
      (hsaved : Slotted (free || redirects outer) saved.toList) :
      Mirrors free (scope :: outer) []

-- Parameters stand where they may, in the active sequence, those that regions keep and the
-- overrides. Once the content element is over, what is open counts no more.
structure Slots (free : Bool) (assembly : Assembly) : Prop where
  mirrors : assembly.phase ≠ .over →
    Mirrors free assembly.scopes (unclosed assembly.tokens.toList)
  active : Slotted (free || redirects assembly.scopes) assembly.tokens.toList
  finished : assembly.phase = .over → free = true
  overrides : ∀ table, assembly.overrides = some table →
    ∀ entry ∈ table.toList, Slotted true entry.2.toList

variable {free : Bool} {assembly next : Assembly} {scope : Scope} {outer : List Scope}
  {opened : List Token} {location : Location}

section Mirrors

theorem redirects_cons (h : scope.kind.region? = none) :
    redirects (scope :: outer) = redirects outer := by
  simp [redirects, h]

theorem redirects_region {id : String} {saved : Array Token}
    (h : scope.kind.region? = some (id, saved)) : redirects (scope :: outer) = true := by
  simp [redirects, h]

theorem Mirrors.of_element (h : Mirrors free (scope :: outer) opened)
    (hkind : scope.kind = .element) : Mirrors free outer opened.tail := by
  cases h with
  | element _ _ houter => exact houter
  | bare hbare => exact absurd hkind (ScopeKind.ne_of_isBare hbare).1
  | content hcontent => rw [hkind] at hcontent; cases hcontent
  | region hregion => exact absurd hkind (ScopeKind.ne_of_region? hregion).1

theorem Mirrors.of_bare (h : Mirrors free (scope :: outer) opened)
    (hkind : scope.kind.isBare = true) : Mirrors free outer opened := by
  cases h with
  | element helement => exact absurd helement (ScopeKind.ne_of_isBare hkind).1
  | bare _ _ houter => exact houter
  | content hcontent => exact absurd hcontent (ScopeKind.ne_of_isBare hkind).2
  | region hregion => rw [ScopeKind.region?_of_isBare hkind] at hregion; cases hregion

theorem Mirrors.of_content (h : Mirrors free (scope :: outer) opened)
    (hkind : scope.kind = .content) : free = true := by
  cases h with
  | element helement => rw [hkind] at helement; cases helement
  | bare hbare => exact absurd hkind (ScopeKind.ne_of_isBare hbare).2
  | content _ hfree => exact hfree
  | region hregion => exact absurd hkind (ScopeKind.ne_of_region? hregion).2

theorem Mirrors.of_region {id : String} {saved : Array Token}
    (h : Mirrors free (scope :: outer) opened) (hkind : scope.kind.region? = some (id, saved)) :
    Mirrors free outer (unclosed saved.toList) ∧
      Slotted (free || redirects outer) saved.toList := by
  cases h with
  | element helement => exact absurd helement (ScopeKind.ne_of_region? hkind).1
  | bare hbare => rw [ScopeKind.region?_of_isBare hbare] at hkind; cases hkind
  | content hcontent => exact absurd hcontent (ScopeKind.ne_of_region? hkind).2
  | region hregion houter hsaved =>
      rw [hkind] at hregion
      cases hregion
      exact ⟨houter, hsaved⟩

-- Directly inside of a component the sequence has a component open, or nothing. Then the
-- component is outside of the content element or of a region.
theorem Mirrors.isSlot {scopes : List Scope} (h : Mirrors free scopes opened)
    (hinside : ∃ around ∈ scopes.head?, around.isComponent = true) :
    IsSlot (free || redirects scopes) opened := by
  induction h with
  | ground => simp at hinside
  | element hkind hsame houter =>
      refine ⟨?_, nofun⟩
      rintro token ⟨⟩
      obtain ⟨scope, ⟨⟩, hcomponent⟩ := hinside
      exact hsame.trans hcomponent
  | bare hkind hbare houter ih =>
      obtain ⟨scope, ⟨⟩, hcomponent⟩ := hinside
      rw [redirects_cons (ScopeKind.region?_of_isBare hkind)]
      exact ih (hbare hcomponent)
  | content hkind hfree => exact ⟨nofun, fun _ => by rw [hfree, Bool.true_or]⟩
  | region hkind houter hsaved =>
      exact ⟨nofun, fun _ => by rw [redirects_region hkind, Bool.or_true]⟩

end Mirrors

theorem exists_head_of_inComponent (h : assembly.inComponent = true) :
    ∃ around ∈ assembly.scopes.head?, around.isComponent = true :=
  exists_head (f := Scope.isComponent) h

-- Flat tokens change nothing.
theorem Slots.of_flat {more : Array Token} (h : Slots free assembly)
    (hflat : ∀ token ∈ more.toList, token.isFlat = true)
    (htokens : next.tokens = assembly.tokens ++ more) (hscopes : next.scopes = assembly.scopes)
    (hphase : next.phase = assembly.phase) (hoverrides : next.overrides = assembly.overrides) :
    Slots free next where
  mirrors hp := by
    rw [htokens, hscopes, Array.toList_append, unclosed_append_flat hflat]
    exact h.mirrors (hphase ▸ hp)
  active := by
    rw [htokens, hscopes, Array.toList_append]
    exact h.active.append_flat hflat
  finished hp := h.finished (hphase ▸ hp)
  overrides := hoverrides ▸ h.overrides

theorem Slots.settled (h : Slots free assembly) : Slots free assembly.settled :=
  h.of_flat assembly.settlement_isFlat (settled_tokens _) (settled_scopes _) (settled_phase _)
    (settled_overrides _)

theorem Slots.setOverride (h : Slots free assembly) {id : String} {tokens : Array Token}
    (htokens : Slotted true tokens.toList) : Slots free (assembly.setOverride id tokens) where
  mirrors := h.mirrors
  active := h.active
  finished := h.finished
  overrides :=
    forall_override_setOverride (P := fun tokens => Slotted true tokens.toList) h.overrides htokens

-- An element that opens a token is a component as far as the token is one.
theorem Slots.openElement {form : TokenForm} {compress isComponent : Bool}
    (h : Slots free assembly) (hphase : assembly.phase ≠ .over) (hopens : form.opens = true)
    (hsame : form.isComponent = isComponent)
    (hinside : form.isParameter = true → assembly.inComponent = true) :
    Slots free ((assembly.emitOne form location).push .element compress isComponent) where
  mirrors _ := by
    have htokens : unclosed ((assembly.emitOne form location).tokens.toList) =
        ⟨form, location⟩ :: unclosed assembly.tokens.toList := by
      rw [emitOne, emit, Array.toList_append]
      exact unclosed_concat_open hopens
    rw [Assembly.push, htokens]
    exact .element rfl hsame (h.mirrors hphase)
  active := by
    rw [Assembly.push, redirects_cons rfl, emitOne, emit, Array.toList_append]
    exact h.active.concat fun hparameter =>
      (h.mirrors hphase).isSlot (exists_head_of_inComponent (hinside hparameter))
  finished hp := absurd hp hphase
  overrides := h.overrides

-- An element that opens no token is a component only where it stands in one.
theorem Slots.push {kind : ScopeKind} {compress isComponent : Bool} (h : Slots free assembly)
    (hphase : assembly.phase ≠ .over) (hkind : kind.isBare = true)
    (hinside : isComponent = true → assembly.inComponent = true) :
    Slots free (assembly.push kind compress isComponent) where
  mirrors _ :=
    .bare hkind (fun hcomponent => exists_head_of_inComponent (hinside hcomponent))
      (h.mirrors hphase)
  active := by
    rw [Assembly.push, redirects_cons (ScopeKind.region?_of_isBare hkind)]
    exact h.active
  finished hp := absurd hp hphase
  overrides := h.overrides

-- A region puts the active sequence aside and starts an empty one.
theorem Slots.openRegion {id : String} {kind : ScopeKind} {compress : Bool}
    (h : Slots free assembly) (hphase : assembly.phase ≠ .over)
    (hkind : kind.region? = some (id, assembly.tokens)) :
    Slots free ({ assembly.setOverride id #[] with tokens := #[] }.pushBare kind compress) where
  mirrors _ := .region hkind (h.mirrors hphase) h.active
  active := slotted_nil _
  finished hp := absurd hp hphase
  overrides := (h.setOverride (slotted_nil true)).overrides

theorem Slots.opening {uri : Option String} {name : String} {attributes : List Attribute}
    {compress : Bool} (h : Slots free assembly)
    (hbindings : ∀ token ∈ assembly.bindings, token.isFlat = true)
    (hphase : assembly.phase ≠ .over)
    (hcontent : ElementRole.ofName uri name = .directive .content → free = true)
    (ho : Opening assembly uri name attributes compress location next) : Slots free next := by
  cases ho with
  | output element componentType component ids hrole hread hids =>
      have hinside : (component.startForm uri element).isParameter = true →
          assembly.inComponent = true := by
        rw [component.isParameter_startForm]
        rintro ⟨⟩
      have hstart : Slots free ((assembly.emitOne (component.startForm uri element) location).push
          .element compress component.isComponent) :=
        h.openElement hphase (component.opens_startForm uri element)
          (component.isComponent_startForm uri element) hinside
      refine hstart.of_flat (startTokens_isFlat hbindings hread) ?_ rfl rfl rfl
      simp [startTokens, Assembly.push, emitOne, emit]
  | remove => exact h.push hphase rfl (by rintro ⟨⟩)
  | content hrole hinside =>
      exact ⟨fun _ => .content rfl (hcontent hrole), slotted_nil _, (by rintro ⟨⟩), h.overrides⟩
  | extensionPoint id hrole hid hnested =>
      have hmark : Slots free (assembly.emitOne (.extensionPoint id) location) :=
        h.of_flat (by simp; rfl) rfl rfl rfl rfl
      exact hmark.openRegion hphase rfl
  | replace id hrole hid hextension hinside hfirst => exact h.openRegion hphase rfl
  | extend hrole hroot =>
      have hmarked : Slots free { assembly with isExtension := true } :=
        ⟨h.mirrors, h.active, h.finished, h.overrides⟩
      exact hmarked.push hphase rfl id
  | container => exact h.push hphase rfl id
  | body hrole =>
      have hmark : Slots free (assembly.emitOne .body location) :=
        h.of_flat (by simp; rfl) rfl rfl rfl rfl
      exact hmark.push hphase rfl id
  | block id hrole hid hvalid => exact h.openElement hphase rfl rfl (by rintro ⟨⟩)
  | parameter label hrole hlabel hinside => exact h.openElement hphase rfl rfl fun _ => hinside
  | blockParameter hrole hbare hinside => exact h.openElement hphase rfl rfl fun _ => hinside

theorem Slots.closing (h : Slots free assembly) (hphase : assembly.phase ≠ .over)
    (hc : Closing assembly location next) : Slots free next := by
  have hm := h.mirrors hphase
  have hactive := h.active
  cases hc with
  | stray hscopes => exact h
  | element compress isComponent outer hscopes =>
      rw [hscopes] at hm hactive
      have hlast : Slotted (free || redirects outer)
          (assembly.tokens.toList ++ [⟨.endElement, location⟩]) := hactive.concat nofun
      refine ⟨fun _ => ?_, by simpa [emitOne, emit] using hlast, fun hp => absurd hp hphase,
        h.overrides⟩
      have hclosed : unclosed (assembly.tokens.toList ++ [⟨.endElement, location⟩]) =
          (unclosed assembly.tokens.toList).tail := unclosed_concat_close rfl rfl
      simpa [emitOne, emit, hclosed] using hm.of_element rfl
  | content compress isComponent outer hscopes =>
      rw [hscopes] at hm
      have hfree := hm.of_content rfl
      exact ⟨fun hp => absurd rfl hp, hactive.imp fun _ => by rw [hfree, Bool.true_or],
        fun _ => hfree, h.overrides⟩
  | region scope outer id saved hscopes hkind =>
      rw [hscopes] at hm
      obtain ⟨houter, hsaved⟩ := hm.of_region hkind
      have hleft : Slots free { assembly with scopes := outer, tokens := saved } :=
        ⟨fun _ => houter, hsaved, fun hp => absurd hp hphase, h.overrides⟩
      exact hleft.setOverride (hactive.imp fun _ => rfl)
  | bare scope outer hscopes hkind =>
      rw [hscopes] at hm hactive
      rw [redirects_cons (ScopeKind.region?_of_isBare hkind)] at hactive
      exact ⟨fun _ => hm.of_bare hkind, hactive, fun hp => absurd hp hphase, h.overrides⟩

theorem Slots.move {placed : PlacedEvent} (h : Slots free assembly)
    (hbindings : ∀ token ∈ assembly.bindings, token.isFlat = true)
    (hcontent : assembly.startsContent placed = true → free = true)
    (hmove : Move assembly (assembly.place placed.line) placed.event next) : Slots free next := by
  obtain ⟨line, event⟩ := placed
  cases hmove with
  | pass event hmark htag hprose => exact h
  | bury uri name attributes hphase hdoctype hremoved =>
      exact h.push hphase rfl (by rintro ⟨⟩)
  | start uri name attributes next hphase hdoctype hremoved hplace hopening =>
      refine h.settled.opening (by simpa using hbindings) (by simpa using hphase) ?_ hopening
      intro hrole
      refine hcontent ?_
      simp [startsContent, isIdle_eq_false hphase hdoctype hremoved, hrole]
  | finish uri name next hphase hdoctype hclosing =>
      exact h.settled.closing (by simpa using hphase) hclosing
  | gather text pending hidle hbody => exact ⟨h.mirrors, h.active, h.finished, h.overrides⟩
  | comment text hidle => exact h.settled.of_flat (by simp; rfl) rfl rfl rfl rfl
  | cdataStart hidle =>
      have hs := h.settled
      exact ⟨hs.mirrors, hs.active, hs.finished, hs.overrides⟩
  | cdataEnd pending hidle hpending => exact h.of_flat (by simp; rfl) rfl rfl rfl rfl
  | doctypeStart name publicId systemId => exact h.of_flat (by simp; rfl) rfl rfl rfl rfl
  | doctypeEnd | bind => exact ⟨h.mirrors, h.active, h.finished, h.overrides⟩

theorem slots_start (free : Bool) (resource : String) (compress : Bool) :
    Slots free (start resource compress) :=
  ⟨fun _ => .ground, slotted_nil _, nofun, nofun⟩

theorem slots_of_feed {resource : String} {compress : Bool} {events : List PlacedEvent}
    {final : Assembly} (h : (start resource compress).feed events = .ok final) :
    Slots ((start resource compress).opensContent events) final := by
  have hrun := feed_induction (motive := fun reached rest => reached.Level ∧
    Slots ((start resource compress).opensContent events) reached ∧
      (reached.opensContent rest = true → (start resource compress).opensContent events = true))
    h ⟨level_start resource compress, slots_start _ resource compress, id⟩
  refine (hrun ?_).2.1
  rintro before placed rest ⟨hlevel, hslots, hfree⟩ hmove
  simp only [opensContent, Bool.or_eq_true] at hfree
  have hnext := hslots.move hlevel.bindings (fun hcontent => hfree (.inl hcontent)) hmove
  exact ⟨hlevel.move hmove, hnext, fun hrest => hfree (.inr hrest)⟩

end Assembly

namespace EventStream

-- In the main sequence and all overrides, parameters stand directly in components. Where a
-- component is not in the same sequence as its parameter, the sequence is an override or begins
-- inside of the content element.
theorem assemble_slotted {events : List PlacedEvent} {resource : String} {compress : Bool}
    {template : Template}
    (h : (EventStream.mk events none).assemble resource compress = .ok template)
    (hclosed : elementsClosed events = true) (hdoctypes : doctypesClosed false events = true) :
    Slotted ((Assembly.start resource compress).opensContent events) template.tokens.toList ∧
      ∀ table, template.overrides = some table →
        ∀ entry ∈ table.toList, Slotted true entry.2.toList := by
  obtain ⟨final, hfeed, rfl⟩ := assemble_ok h
  have hslots := (Assembly.slots_of_feed hfeed).settled
  refine ⟨?_, hslots.overrides⟩
  rcases Assembly.feed_closed hfeed hclosed hdoctypes with hover | hscopes
  · have hfree := hslots.finished ((Assembly.settled_phase final).trans hover)
    exact hslots.active.imp fun _ => hfree
  · have hactive := hslots.active
    rw [Assembly.settled_scopes, hscopes] at hactive
    exact hactive.imp fun hfree => (Bool.or_false _).symm.trans hfree

-- Parameters in components and in an extension point, with blocks in between, and a component
-- around the content element.
def parametersInside : List PlacedEvent := [
  ⟨some 1, .elementStart none "div" [⟨some Naming.templateUri51, "id", "a"⟩]⟩,
  ⟨some 2, .elementStart (some Naming.templateUri51) "content" []⟩,
  ⟨some 3, .elementStart (some Naming.parameterUri) "p" []⟩,
  ⟨some 3, .elementStart (some Naming.templateUri51) "block" [⟨none, "id", "b"⟩]⟩,
  ⟨some 3, .elementStart none "p" [⟨some Naming.templateUri51, "id", "c"⟩]⟩,
  ⟨some 4, .elementStart (some Naming.templateUri51) "extension-point" [⟨none, "id", "d"⟩]⟩,
  ⟨some 4, .elementStart (some Naming.templateUri51) "parameter" [⟨none, "name", "q"⟩]⟩,
  ⟨some 4, .elementEnd (some Naming.templateUri51) "parameter"⟩,
  ⟨some 4, .elementEnd (some Naming.templateUri51) "extension-point"⟩,
  ⟨some 5, .elementEnd none "p"⟩,
  ⟨some 5, .elementEnd (some Naming.templateUri51) "block"⟩,
  ⟨some 5, .elementEnd (some Naming.parameterUri) "p"⟩,
  ⟨some 6, .elementEnd (some Naming.templateUri51) "content"⟩,
  ⟨some 7, .elementEnd none "div"⟩]

theorem slotted_parametersInside :
    ∃ template, (EventStream.mk parametersInside none).assemble "T.tml" true = .ok template ∧
      elementsClosed parametersInside = true ∧ doctypesClosed false parametersInside = true ∧
      Slotted ((Assembly.start "T.tml" true).opensContent parametersInside)
        template.tokens.toList ∧
      ∀ table, template.overrides = some table →
        ∀ entry ∈ table.toList, Slotted true entry.2.toList := by
  obtain ⟨template, h⟩ := exists_template
    (show ((EventStream.mk parametersInside none).assemble "T.tml" true).toBool = true by
      decide +kernel)
  exact ⟨template, h, by decide, by decide, assemble_slotted h (by decide) (by decide)⟩

end EventStream

end TemplateMarkup
