import TemplateMarkup.Proofs.Assembly.OpenElements
import TemplateMarkup.Proofs.Token.Balance

namespace TemplateMarkup

open Token (Rises Balanced)

theorem Component.opens_startForm (component : Component) (uri element : Option String) :
    (component.startForm uri element).opens = true := by
  unfold startForm
  split <;> rfl

namespace Assembly

-- Behind the start token of an output element stand only flat tokens.
theorem startTokens_isFlat {componentType : Option String} {attributes : List Attribute}
    {component : Component} {bindings : Array Token} {location : Location}
    (hbindings : ∀ token ∈ bindings, token.isFlat = true)
    (hread : (Component.ofType componentType).readAll location attributes = .ok component) :
    ∀ token ∈ (bindings ++ component.passed).toList, token.isFlat = true := by
  intro token hm
  rcases Array.mem_append.mp (Array.mem_toList_iff.mp hm) with hm | hm
  · exact hbindings token hm
  · rcases Component.mem_passed hread hm with hp | hp
    · exact absurd hp (Array.not_mem_empty _)
    · obtain ⟨uri, name, value, rfl⟩ := hp
      rfl

-- The active sequence and the saved ones leave open what the elements of the output around them
-- will close. The count runs over the elements between the sequence and its region. What is
-- outside the content element never comes back.
def Levels : List Scope → List Token → Nat → Prop
  | [], tokens, left => Rises tokens left
  | scope :: outer, tokens, left =>
    match scope.kind with
    | .element => Levels outer tokens (left + 1)
    | .content => Rises tokens left
    | .extensionPoint _ saved => Rises tokens left ∧ Levels outer saved.toList 0
    | .replace _ saved => Rises tokens left ∧ Levels outer saved.toList 0
    | _ => Levels outer tokens left

structure Level (assembly : Assembly) : Prop where
  scopes : assembly.phase ≠ .over → Levels assembly.scopes assembly.tokens.toList 0
  finished : assembly.phase = .over → Rises assembly.tokens.toList 0
  overrides : ∀ table, assembly.overrides = some table →
    ∀ entry ∈ table.toList, Rises entry.2.toList 0
  bindings : ∀ token ∈ assembly.bindings, token.isFlat = true

-- A change of the active sequence that is right above any number of open elements is right in
-- every place.
theorem Levels.imp {scopes : List Scope} {tokens next : List Token} {left nextLeft : Nat}
    (h : Levels scopes tokens left)
    (hr : ∀ more, Rises tokens (left + more) → Rises next (nextLeft + more)) :
    Levels scopes next nextLeft := by
  induction scopes generalizing left nextLeft with
  | nil => exact hr 0 h
  | cons scope outer ih =>
      obtain ⟨compress, isComponent, kind⟩ := scope
      cases kind with
      | element =>
          have hinner : Levels outer tokens (left + 1) := h
          refine ih hinner fun more hm => ?_
          rw [Nat.add_right_comm, Nat.add_assoc] at hm ⊢
          exact hr (more + 1) hm
      | content => exact hr 0 h
      | extensionPoint id saved | replace id saved => exact ⟨hr 0 h.1, h.2⟩
      | body | remove | removed | extend | container =>
          have hinner : Levels outer tokens left := h
          exact ih hinner hr

theorem Levels.append_flat {scopes : List Scope} {tokens more : List Token} {left : Nat}
    (h : Levels scopes tokens left) (hflat : ∀ token ∈ more, token.isFlat = true) :
    Levels scopes (tokens ++ more) left :=
  h.imp fun _ hr => hr.append_flat hflat

theorem Levels.concat_open {scopes : List Scope} {tokens : List Token} {token : Token} {left : Nat}
    (h : Levels scopes tokens left) (ho : token.opens = true) :
    Levels scopes (tokens ++ [token]) (left + 1) :=
  h.imp fun more hr => by
    rw [Nat.add_right_comm]
    exact hr.concat_open ho

theorem settlement_isFlat (assembly : Assembly) :
    ∀ token ∈ assembly.settlement.toList, token.isFlat = true := by
  intro token hm
  obtain ⟨pending, fragment, -, rfl⟩ := mem_settlement (Array.mem_toList_iff.mp hm)
  cases fragment <;> rfl

-- Flat tokens at the end of the active sequence keep the levels.
theorem Level.of_flat {assembly next : Assembly} {more : Array Token} (h : assembly.Level)
    (hflat : ∀ token ∈ more.toList, token.isFlat = true)
    (htokens : next.tokens = assembly.tokens ++ more) (hscopes : next.scopes = assembly.scopes)
    (hphase : next.phase = assembly.phase) (hoverrides : next.overrides = assembly.overrides)
    (hbindings : ∀ token ∈ next.bindings, token.isFlat = true) : next.Level where
  scopes hp := by
    rw [htokens, hscopes, Array.toList_append]
    exact (h.scopes (hphase ▸ hp)).append_flat hflat
  finished hp := by
    rw [htokens, Array.toList_append]
    exact (h.finished (hphase ▸ hp)).append_flat hflat
  overrides := hoverrides ▸ h.overrides
  bindings := hbindings

theorem Level.settled {assembly : Assembly} (h : assembly.Level) : assembly.settled.Level :=
  h.of_flat assembly.settlement_isFlat (settled_tokens _) (settled_scopes _) (settled_phase _)
    (settled_overrides _) (settled_bindings assembly ▸ h.bindings)

theorem Level.setOverride {assembly : Assembly} (h : assembly.Level) {id : String}
    {tokens : Array Token} (hr : Rises tokens.toList 0) :
    (assembly.setOverride id tokens).Level where
  scopes := h.scopes
  finished := h.finished
  overrides :=
    forall_override_setOverride (P := fun tokens => Rises tokens.toList 0) h.overrides hr
  bindings := h.bindings

-- Blocks and parameters are opened by one token.
theorem Level.openSlot {assembly : Assembly} {form : TokenForm} {compress isComponent : Bool}
    {location : Location} (h : assembly.Level) (hphase : assembly.phase ≠ .over)
    (ho : form.opens = true) :
    ((assembly.emitOne form location).push .element compress isComponent).Level where
  scopes _ := by
    have hl : Levels assembly.scopes (assembly.tokens.toList ++ [⟨form, location⟩]) 1 :=
      (h.scopes hphase).concat_open ho
    simpa [push, emitOne, emit, Levels] using hl
  finished hp := absurd hp hphase
  overrides := h.overrides
  bindings := h.bindings

theorem Level.openOutput {assembly : Assembly} {uri element componentType : Option String}
    {attributes : List Attribute} {component : Component} {compress : Bool} {location : Location}
    {ids : IdTable Location} (h : assembly.Level) (hphase : assembly.phase ≠ .over)
    (hread : (Component.ofType componentType).readAll location attributes = .ok component) :
    Level { assembly with
      ids := ids
      tokens := assembly.tokens ++ startTokens component uri element assembly.bindings location
      scopes := ⟨compress, component.isComponent, .element⟩ :: assembly.scopes
      bindings := #[] } where
  scopes _ := by
    have hstart : Levels assembly.scopes
        (assembly.tokens.toList ++ [⟨component.startForm uri element, location⟩]) 1 :=
      (h.scopes hphase).concat_open (component.opens_startForm uri element)
    have hall := hstart.append_flat (startTokens_isFlat h.bindings hread)
    simpa [Levels, startTokens] using hall
  finished hp := absurd hp hphase
  overrides := h.overrides
  bindings := by simp

-- Opening a region puts the active sequence aside and starts an empty one.
theorem Level.openRegion {assembly : Assembly} {id : String} {saved : Array Token}
    {kind : ScopeKind} {compress : Bool} (h : assembly.Level) (hphase : assembly.phase ≠ .over)
    (hkind : kind.region? = some (id, saved)) (hsaved : Levels assembly.scopes saved.toList 0) :
    ({ assembly.setOverride id #[] with tokens := #[] }.pushBare kind compress).Level where
  scopes _ := by
    cases kind with
    | extensionPoint | replace => cases hkind; exact ⟨Token.rises_nil, hsaved⟩
    | _ => cases hkind
  finished hp := absurd hp hphase
  overrides := by
    have hset : (assembly.setOverride id #[]).Level := h.setOverride Token.rises_nil
    exact hset.overrides
  bindings := h.bindings

theorem Level.opening {assembly next : Assembly} {uri : Option String} {name : String}
    {attributes : List Attribute} {compress : Bool} {location : Location} (h : assembly.Level)
    (hphase : assembly.phase ≠ .over)
    (ho : Opening assembly uri name attributes compress location next) : next.Level := by
  have hs := h.scopes hphase
  cases ho with
  | output element componentType component ids hrole hread hids => exact h.openOutput hphase hread
  | content hrole hinside =>
      exact ⟨fun _ => Token.rises_nil, fun hp => (nomatch hp), h.overrides, h.bindings⟩
  | extensionPoint id hrole hid hnested =>
      exact h.openRegion hphase rfl (by simpa using hs.append_flat (by simp; rfl))
  | replace id hrole hid hextension hinside hfirst => exact h.openRegion hphase rfl hs
  | body hrole =>
      have hl : Levels assembly.scopes (assembly.tokens.toList ++ [⟨.body, location⟩]) 0 :=
        hs.append_flat (by simp; rfl)
      exact ⟨fun _ => by simpa [pushBare, push, emitOne, emit, Levels] using hl,
        fun hp => absurd hp hphase, h.overrides, h.bindings⟩
  | block id hrole hid hvalid => exact h.openSlot hphase rfl
  | parameter label hrole hlabel hinside => exact h.openSlot hphase rfl
  | blockParameter hrole hbare hinside => exact h.openSlot hphase rfl
  | remove | extend | container =>
      exact ⟨fun _ => hs, fun hp => absurd hp hphase, h.overrides, h.bindings⟩

theorem Level.closing {assembly next : Assembly} {location : Location} (h : assembly.Level)
    (hphase : assembly.phase ≠ .over) (hc : Closing assembly location next) : next.Level := by
  have hs := h.scopes hphase
  cases hc with
  | stray hscopes => exact h
  | element compress isComponent outer hscopes =>
      rw [hscopes] at hs
      refine ⟨fun _ => ?_, fun hp => absurd hp hphase, h.overrides, h.bindings⟩
      have hinner : Levels outer assembly.tokens.toList 1 := hs
      have hl : Levels outer (assembly.tokens.toList ++ [⟨.endElement, location⟩]) 0 :=
        hinner.imp fun more hr => by
          rw [Nat.add_comm] at hr
          rw [Nat.zero_add]
          exact hr.concat_close rfl rfl
      simpa [emitOne, emit] using hl
  | content compress isComponent outer hscopes =>
      rw [hscopes] at hs
      exact ⟨fun hp => absurd rfl hp, fun _ => hs, h.overrides, h.bindings⟩
  | region scope outer id saved hscopes hkind =>
      rw [hscopes] at hs
      obtain ⟨compress, isComponent, kind⟩ := scope
      have hsplit : Rises assembly.tokens.toList 0 ∧ Levels outer saved.toList 0 := by
        cases kind with
        | extensionPoint | replace => cases hkind; exact hs
        | _ => cases hkind
      have hn : Level { assembly with scopes := outer, tokens := saved } :=
        ⟨fun _ => hsplit.2, fun hp => absurd hp hphase, h.overrides, h.bindings⟩
      exact hn.setOverride hsplit.1
  | bare scope outer hscopes hkind =>
      rw [hscopes] at hs
      obtain ⟨compress, isComponent, kind⟩ := scope
      refine ⟨fun _ => ?_, fun hp => absurd hp hphase, h.overrides, h.bindings⟩
      cases kind with
      | body | remove | removed | extend | container => exact hs
      | _ => cases hkind

theorem Level.move {assembly next : Assembly} {placed : PlacedEvent} (h : assembly.Level)
    (hmove : Move assembly (assembly.place placed.line) placed.event next) : next.Level := by
  obtain ⟨line, event⟩ := placed
  cases hmove with
  | pass event hmark htag hprose => exact h
  | bury uri name attributes hphase hdoctype hremoved =>
      exact ⟨fun _ => h.scopes hphase, fun hp => absurd hp hphase, h.overrides, h.bindings⟩
  | start uri name attributes next hphase hdoctype hremoved hplace hopening =>
      exact h.settled.opening (by simpa using hphase) hopening
  | finish uri name next hphase hdoctype hclosing =>
      exact h.settled.closing (by simpa using hphase) hclosing
  | gather text pending hidle hbody => exact ⟨h.scopes, h.finished, h.overrides, h.bindings⟩
  | comment text hidle =>
      exact h.settled.of_flat (by simp; rfl) rfl rfl rfl rfl h.settled.bindings
  | cdataStart hidle =>
      have hs := h.settled
      exact ⟨hs.scopes, hs.finished, hs.overrides, hs.bindings⟩
  | cdataEnd pending hidle hpending =>
      exact h.of_flat (by simp; rfl) rfl rfl rfl rfl h.bindings
  | doctypeStart name publicId systemId =>
      exact h.of_flat (by simp; rfl) rfl rfl rfl rfl h.bindings
  | doctypeEnd => exact ⟨h.scopes, h.finished, h.overrides, h.bindings⟩
  | bind label uri hidle =>
      refine ⟨h.scopes, h.finished, h.overrides, fun token hm => ?_⟩
      rcases Array.mem_append.mp hm with hm | hm
      · exact h.bindings token hm
      · rw [Array.mem_singleton.mp hm]
        rfl

theorem level_start (resource : String) (compress : Bool) : (start resource compress).Level :=
  ⟨fun _ => Token.rises_nil, fun hp => (nomatch hp), fun _ ht => (nomatch ht), by simp [start]⟩

theorem level_of_feed {resource : String} {compress : Bool} {events : List PlacedEvent}
    {final : Assembly} (h : (start resource compress).feed events = .ok final) : final.Level :=
  feed_induction (motive := fun assembly _ => assembly.Level) h (level_start resource compress)
    fun _ _ _ hl hmove => hl.move hmove

end Assembly

namespace EventStream

-- The main sequence and all overrides of a template are balanced, wherever tokens have been
-- redirected, dropped or held back on the way.
theorem assemble_balanced {events : List PlacedEvent} {resource : String} {compress : Bool}
    {template : Template}
    (h : (EventStream.mk events none).assemble resource compress = .ok template)
    (hclosed : elementsClosed events = true) (hdoctypes : doctypesClosed false events = true) :
    Balanced template.tokens ∧
      ∀ table, template.overrides = some table → ∀ entry ∈ table.toList, Balanced entry.2 := by
  obtain ⟨final, hfeed, rfl⟩ := assemble_ok h
  have hl := (Assembly.level_of_feed hfeed).settled
  have hmain : Rises final.settled.tokens.toList 0 := by
    by_cases hphase : final.settled.phase = .over
    · exact hl.finished hphase
    · have hs := hl.scopes hphase
      rw [Assembly.settled_phase] at hphase
      rw [Assembly.settled_scopes,
        (Assembly.feed_closed hfeed hclosed hdoctypes).resolve_left hphase] at hs
      exact hs
  exact ⟨hmain.balanced, fun table ht entry he => (hl.overrides table ht entry he).balanced⟩

-- A content element inside an output element, with an extension point inside.
def contentInElement : List PlacedEvent := [
  ⟨some 1, .doctypeStart "html" none none⟩, ⟨some 1, .doctypeEnd⟩,
  ⟨some 2, .elementStart none "div" []⟩,
  ⟨some 2, .elementStart (some Naming.templateUri51) "content" []⟩,
  ⟨some 3, .elementStart (some Naming.templateUri51) "extension-point" [⟨none, "id", "a"⟩]⟩,
  ⟨some 3, .elementStart none "p" [⟨some Naming.templateUri51, "id", "b"⟩]⟩,
  ⟨some 3, .text "x"⟩, ⟨some 3, .elementEnd none "p"⟩,
  ⟨some 3, .elementEnd (some Naming.templateUri51) "extension-point"⟩,
  ⟨some 4, .elementEnd (some Naming.templateUri51) "content"⟩,
  ⟨some 5, .elementEnd none "div"⟩]

theorem balanced_contentInElement :
    ∃ template, (EventStream.mk contentInElement none).assemble "T.tml" true = .ok template ∧
      elementsClosed contentInElement = true ∧ doctypesClosed false contentInElement = true ∧
      Balanced template.tokens ∧
      ∀ table, template.overrides = some table → ∀ entry ∈ table.toList, Balanced entry.2 := by
  obtain ⟨template, h⟩ := exists_template
    (show ((EventStream.mk contentInElement none).assemble "T.tml" true).toBool = true by
      decide +kernel)
  exact ⟨template, h, by decide, by decide, assemble_balanced h (by decide) (by decide)⟩

end EventStream

end TemplateMarkup
