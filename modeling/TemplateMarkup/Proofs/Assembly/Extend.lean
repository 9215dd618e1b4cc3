import TemplateMarkup.Proofs.Assembly.OpenElements

namespace TemplateMarkup

theorem Text.sameWord_eq_false {name word other : String} (h : sameWord name word = true)
    (hwords : sameWord word other = false) : sameWord name other = false := by
  simp only [sameWord, beq_iff_eq, beq_eq_false_iff_ne] at h hwords ⊢
  rwa [h]

-- Elements that give the tokens inside them a sequence of their own.
def ScopeKind.renews : ScopeKind → Bool
  | .content | .extensionPoint .. | .replace .. => true
  | _ => false

namespace Event

def isElementStart : Event → Bool
  | .elementStart .. => true
  | _ => false

-- Whether an event begins an `<extend>`, which only the second template namespace has.
def isExtendStart : Event → Bool
  | .elementStart (some uri) name _ => uri == Naming.templateUri51 && Text.sameWord name "extend"
  | _ => false

-- Whether an event begins an element that leaves no token, a `<remove>` or a `<container>`.
def isBareStart : Event → Bool
  | .elementStart uri name _ =>
    ElementRole.ofName uri name == .directive .remove ||
      ElementRole.ofName uri name == .directive .container
  | _ => false

end Event

theorem Event.isDoctypeMark_of_isElementStart {event : Event} (h : event.isElementStart = true) :
    event.isDoctypeMark = false := by
  cases event <;> first | rfl | cases h

-- The start of the first element of a document.
def rootStart? (events : List PlacedEvent) : Option Event :=
  (events.map (·.event)).find? Event.isElementStart

def startsWithExtend (events : List PlacedEvent) : Bool :=
  (rootStart? events).any Event.isExtendStart

def startsBare (events : List PlacedEvent) : Bool :=
  (rootStart? events).any Event.isBareStart

theorem Event.isElementStart_of_isExtendStart {event : Event} (h : event.isExtendStart = true) :
    event.isElementStart = true := by
  cases event <;> first | rfl | cases h

theorem rootStart?_cons_of_start {placed : PlacedEvent} (rest : List PlacedEvent)
    (h : placed.event.isElementStart = true) : rootStart? (placed :: rest) = some placed.event := by
  simp [rootStart?, h]

theorem rootStart?_cons_of_other {placed : PlacedEvent} (rest : List PlacedEvent)
    (h : placed.event.isElementStart = false) : rootStart? (placed :: rest) = rootStart? rest := by
  simp [rootStart?, h]

theorem Directive.added?_eq_extend_iff (name : String) :
    added? name = some .extend ↔ Text.sameWord name "extend" = true := by
  unfold added?
  cases h : Text.sameWord name "extend" with
  | true =>
      have hremove := Text.sameWord_eq_false h (show Text.sameWord _ "remove" = false by decide)
      have hcontent := Text.sameWord_eq_false h (show Text.sameWord _ "content" = false by decide)
      have hpoint := Text.sameWord_eq_false h
        (show Text.sameWord _ "extension-point" = false by decide)
      simp [hremove, hcontent, hpoint]
  | false =>
      repeat' split
      all_goals simp_all

theorem Directive.shared?_ne_extend (name : String) : shared? name ≠ some .extend := by
  unfold shared?
  repeat' split
  all_goals simp

theorem Directive.find?_eq_extend_iff (uri name : String) :
    find? uri name = some .extend ↔
      uri = Naming.templateUri51 ∧ Text.sameWord name "extend" = true := by
  unfold find?
  split
  · rename_i huri
    have hadded := added?_eq_extend_iff name
    cases hfound : added? name with
    | none =>
        rw [hfound] at hadded
        simp [shared?_ne_extend, ← hadded]
    | some found =>
        rw [hfound] at hadded
        simp [beq_iff_eq.mp huri, ← hadded]
  · rename_i huri
    have hne : uri ≠ Naming.templateUri51 := by simpa using huri
    split <;> simp [shared?_ne_extend, hne]

theorem ElementRole.ofName_eq_extend_iff (uri : Option String) (name : String)
    (attributes : List Attribute) :
    ofName uri name = .directive .extend ↔
      (Event.elementStart uri name attributes).isExtendStart = true := by
  cases uri with
  | none => simp [ofName, Event.isExtendStart]
  | some uri =>
      have hfind := Directive.find?_eq_extend_iff uri name
      simp only [Event.isExtendStart, Bool.and_eq_true, beq_iff_eq, ← hfind, ofName]
      cases Directive.find? uri name with
      | some found => simp
      | none =>
          simp only [reduceCtorEq, iff_false]
          repeat' split
          all_goals simp

theorem startsWithExtend_of_startsBare {events : List PlacedEvent}
    (h : startsBare events = true) : startsWithExtend events = false := by
  unfold startsBare at h
  unfold startsWithExtend
  cases hroot : rootStart? events with
  | none => rfl
  | some event =>
      rw [hroot, Option.any_some] at h
      cases event with
      | elementStart uri name attributes =>
          rw [Option.any_some, Bool.eq_false_iff, ne_eq, ← ElementRole.ofName_eq_extend_iff]
          simp only [Event.isBareStart, Bool.or_eq_true, beq_iff_eq] at h
          rcases h with h | h <;> simp [h]
      | _ => cases h

namespace Assembly

-- Whether an event opens an `<extend>`. In removed elements and behind the content element nothing
-- is opened.
def opensExtend (assembly : Assembly) (placed : PlacedEvent) : Bool :=
  !assembly.isIdle && placed.event.isExtendStart

-- For each `<extend>` that events open, the elements that are open around it.
def extendScopes (assembly : Assembly) : List PlacedEvent → List (List Scope)
  | [] => []
  | placed :: rest =>
    (if assembly.opensExtend placed then [assembly.scopes] else []) ++
      (assembly.step placed).next.extendScopes rest

-- Outside of the content element and of the regions that are open, the sequence holds a token
-- that is no document type.
def Occupied : List Scope → Array Token → Prop
  | [], tokens => tokens.any (fun token => !token.isDoctype) = true
  | scope :: outer, tokens =>
    match scope.kind with
    | .content => True
    | .extensionPoint _ saved => Occupied outer saved
    | .replace _ saved => Occupied outer saved
    | _ => Occupied outer tokens

-- No element that begins now can be the root of the document.
def Rooted (assembly : Assembly) : Prop :=
  assembly.isExtension = true ∨ assembly.phase = .over ∨ Occupied assembly.scopes assembly.tokens

variable {assembly next : Assembly} {placed : PlacedEvent}

theorem Occupied.append {scopes : List Scope} {tokens : Array Token} (h : Occupied scopes tokens)
    (more : Array Token) : Occupied scopes (tokens ++ more) := by
  induction scopes generalizing tokens with
  | nil =>
      have hany : tokens.any (fun token => !token.isDoctype) = true := h
      simp [Occupied, hany]
  | cons scope outer ih =>
      obtain ⟨compress, isComponent, kind⟩ := scope
      cases kind with
      | content => trivial
      | extensionPoint | replace => exact h
      | element | body | remove | removed | extend | container =>
          have houter : Occupied outer tokens := h
          exact ih houter

theorem Occupied.any {scopes : List Scope} {tokens : Array Token} (h : Occupied scopes tokens)
    (hrenews : scopes.any (·.kind.renews) = false) :
    tokens.any (fun token => !token.isDoctype) = true := by
  induction scopes with
  | nil => exact h
  | cons scope outer ih =>
      obtain ⟨compress, isComponent, kind⟩ := scope
      simp only [List.any_cons, Bool.or_eq_false_iff] at hrenews
      cases kind with
      | content | extensionPoint | replace => cases hrenews.1
      | element | body | remove | removed | extend | container => exact ih h hrenews.2

theorem opensExtend_of_isIdle (h : assembly.isIdle = true) : assembly.opensExtend placed = false := by
  simp [opensExtend, h]

theorem settled_isExtension (assembly : Assembly) :
    assembly.settled.isExtension = assembly.isExtension := by
  rw [settled_eq]

theorem Opening.isExtension_eq {uri : Option String} {name : String} {attributes : List Attribute}
    {compress : Bool} {location : Location}
    (h : Opening assembly uri name attributes compress location next) :
    next.isExtension =
      (assembly.isExtension || (Event.elementStart uri name attributes).isExtendStart) := by
  have hiff := ElementRole.ofName_eq_extend_iff uri name attributes
  have hother : ElementRole.ofName uri name ≠ .directive .extend →
      (Event.elementStart uri name attributes).isExtendStart = false := fun hne =>
    Bool.eq_false_iff.mpr fun he => hne (hiff.mpr he)
  cases h with
  | extend hrole hroot => simp [pushBare, push, hiff.mp hrole]
  | output element componentType component ids hrole hread hids =>
      have hne : ElementRole.ofName uri name ≠ .directive .extend := by
        intro he
        rw [he] at hrole
        cases hrole
      rw [hother hne, Bool.or_false]
  | remove hrole | content hrole | extensionPoint _ hrole | replace _ hrole | body hrole
  | block _ hrole | parameter _ hrole | blockParameter hrole | container hrole =>
      rw [hother (by simp [hrole]), Bool.or_false]
      rfl

theorem Closing.isExtension_eq {location : Location} (h : Closing assembly location next) :
    next.isExtension = assembly.isExtension := by
  cases h <;> rfl

-- A template extends another one as soon as an `<extend>` has been opened.
theorem Move.isExtension_eq
    (h : Move assembly (assembly.place placed.line) placed.event next) :
    next.isExtension = (assembly.isExtension || assembly.opensExtend placed) := by
  obtain ⟨line, event⟩ := placed
  cases h with
  | pass event hmark htag hprose =>
      have hopens : assembly.opensExtend ⟨line, event⟩ = false := by
        cases event with
        | elementStart uri name attributes =>
            exact opensExtend_of_isIdle (isIdle_of_unheard (htag rfl))
        | _ => simp [opensExtend, Event.isExtendStart]
      rw [hopens, Bool.or_false]
  | bury uri name attributes hphase hdoctype hremoved =>
      rw [opensExtend_of_isIdle (isIdle_of_inRemoved hremoved), Bool.or_false]
      rfl
  | start uri name attributes next hphase hdoctype hremoved hplace hopening =>
      have hidle : assembly.isIdle = false := isIdle_eq_false hphase hdoctype hremoved
      rw [hopening.isExtension_eq, settled_isExtension, opensExtend, hidle, Bool.not_false,
        Bool.true_and]
  | finish uri name next hphase hdoctype hclosing =>
      rw [hclosing.isExtension_eq, settled_isExtension]
      simp [opensExtend, Event.isExtendStart]
  | gather | cdataEnd | doctypeStart | doctypeEnd | bind =>
      simp [opensExtend, Event.isExtendStart, emitOne, emit, Assembly.doctypeStart]
  | comment | cdataStart =>
      simp [opensExtend, Event.isExtendStart, emitOne, emit, settled_isExtension]

theorem Rooted.of_append {more : Array Token} (h : assembly.Rooted)
    (htokens : next.tokens = assembly.tokens ++ more) (hscopes : next.scopes = assembly.scopes)
    (hphase : next.phase = assembly.phase) (hextension : next.isExtension = assembly.isExtension) :
    next.Rooted := by
  rw [Rooted, htokens, hscopes, hphase, hextension]
  exact h.imp_right fun h => h.imp_right fun h => h.append more

theorem Rooted.settled (h : assembly.Rooted) : assembly.settled.Rooted :=
  h.of_append (settled_tokens _) (settled_scopes _) (settled_phase _) (settled_isExtension _)

theorem Occupied.opening {uri : Option String} {name : String} {attributes : List Attribute}
    {compress : Bool} {location : Location} (h : Occupied assembly.scopes assembly.tokens)
    (ho : Opening assembly uri name attributes compress location next) :
    Occupied next.scopes next.tokens := by
  cases ho with
  | output element componentType component ids hrole hread hids => exact h.append _
  | remove | extend | replace | container => exact h
  | content => trivial
  | extensionPoint | body | block | parameter | blockParameter => exact h.append _

theorem Occupied.closing {location : Location} (h : Occupied assembly.scopes assembly.tokens)
    (hc : Closing assembly location next) :
    next.phase = .over ∨ Occupied next.scopes next.tokens := by
  cases hc with
  | stray hscopes => exact .inr h
  | element compress isComponent outer hscopes =>
      rw [hscopes] at h
      have houter : Occupied outer assembly.tokens := h
      exact .inr (houter.append _)
  | content compress isComponent outer hscopes => exact .inl rfl
  | region scope outer id saved hscopes hkind =>
      rw [hscopes] at h
      obtain ⟨compress, isComponent, kind⟩ := scope
      cases kind with
      | extensionPoint | replace => cases hkind; exact .inr h
      | _ => cases hkind
  | bare scope outer hscopes hkind =>
      rw [hscopes] at h
      obtain ⟨compress, isComponent, kind⟩ := scope
      cases kind with
      | body | remove | removed | extend | container => exact .inr h
      | _ => cases hkind

-- An extending template stays one, and what is behind the content element stays there.
theorem Rooted.move (h : assembly.Rooted)
    (hmove : Move assembly (assembly.place placed.line) placed.event next) : next.Rooted := by
  by_cases hextension : assembly.isExtension = true
  · exact .inl (by rw [hmove.isExtension_eq, hextension, Bool.true_or])
  obtain ⟨line, event⟩ := placed
  cases hmove with
  | pass event hmark htag hprose => exact h
  | bury uri name attributes hphase hdoctype hremoved => exact h
  | start uri name attributes next hphase hdoctype hremoved hplace hopening =>
      have hoccupied := (h.settled.resolve_left (by rwa [settled_isExtension])).resolve_left
        (by rwa [settled_phase])
      exact .inr (.inr (hoccupied.opening hopening))
  | finish uri name next hphase hdoctype hclosing =>
      have hoccupied := (h.settled.resolve_left (by rwa [settled_isExtension])).resolve_left
        (by rwa [settled_phase])
      exact .inr (hoccupied.closing hclosing)
  | gather text pending hidle hbody => exact h
  | comment text hidle => exact h.settled.of_append rfl rfl rfl rfl
  | cdataStart hidle => exact h.settled
  | cdataEnd pending hidle hpending => exact h.of_append rfl rfl rfl rfl
  | doctypeStart name publicId systemId => exact h.of_append rfl rfl rfl rfl
  | doctypeEnd => exact h
  | bind label uri hidle => exact h

-- The children of an `<extend>` are replacements.
theorem inReplacement_of_placed {uri : Option String} {name : String}
    (hextension : assembly.isExtension = true) (hplace : assembly.placementFault? uri name = none)
    (hname : Text.sameWord name "replace" = false) : assembly.inReplacement = true := by
  unfold placementFault? at hplace
  split at hplace
  · cases hplace
  · split at hplace
    · cases hplace
    · rename_i hchild
      simpa [hextension, hname] using hchild

theorem renews_of_inReplacement (h : assembly.inReplacement = true) :
    assembly.scopes.any (·.kind.renews) = true := by
  obtain ⟨scope, hm, hreplace⟩ := List.any_eq_true.mp h
  refine List.any_eq_true.mpr ⟨scope, hm, ?_⟩
  cases hkind : scope.kind <;> rw [hkind] at hreplace <;> first | rfl | cases hreplace

-- An `<extend>` that is no root stands in the content element or in a region, where the active
-- sequence has begun anew.
theorem Rooted.renews_of_opensExtend (h : assembly.Rooted)
    (hmove : Move assembly (assembly.place placed.line) placed.event next)
    (hopens : assembly.opensExtend placed = true) :
    assembly.scopes.any (·.kind.renews) = true := by
  obtain ⟨line, event⟩ := placed
  simp only [opensExtend, Bool.and_eq_true, Bool.not_eq_true'] at hopens
  obtain ⟨hidle, hextend⟩ := hopens
  have hnever : assembly.isIdle ≠ true := by rw [hidle]; decide
  cases hmove with
  | pass event hmark htag hprose =>
      have htagged : event.isTag = true := by
        cases event <;> first | rfl | cases hextend
      exact absurd (isIdle_of_unheard (htag htagged)) hnever
  | bury uri name attributes hphase hdoctype hremoved =>
      exact absurd (isIdle_of_inRemoved hremoved) hnever
  | start uri name attributes next hphase hdoctype hremoved hplace hopening =>
      have hrole := (ElementRole.ofName_eq_extend_iff uri name attributes).mpr hextend
      have hroot : assembly.settled.hasContent = false := by
        cases hopening with
        | extend _ hroot => exact hroot
        | output element componentType component ids hout hread hids =>
            rw [hrole] at hout
            cases hout
        | _ => simp_all
      rcases h with hextension | hover | hoccupied
      · have hname : Text.sameWord name "extend" = true := by
          cases uri with
          | none => cases hextend
          | some uri =>
              simp only [Event.isExtendStart, Bool.and_eq_true] at hextend
              exact hextend.2
        exact renews_of_inReplacement
          (inReplacement_of_placed hextension hplace (Text.sameWord_eq_false hname (by decide)))
      · exact absurd hover hphase
      · cases hrenews : assembly.scopes.any (·.kind.renews) with
        | true => rfl
        | false =>
            have hcontent := (hoccupied.append assembly.settlement).any hrenews
            rw [← settled_tokens] at hcontent
            rw [hasContent, hcontent] at hroot
            cases hroot
  | _ => cases hextend

-- In a rooted assembly every `<extend>` that is opened is no root.
theorem Rooted.renews_of_feed {final : Assembly} {events : List PlacedEvent} (h : assembly.Rooted)
    (hfeed : assembly.feed events = .ok final) :
    ∀ scopes ∈ assembly.extendScopes events, scopes.any (·.kind.renews) = true := by
  induction events generalizing assembly with
  | nil => simp [extendScopes]
  | cons placed rest ih =>
      obtain ⟨hfault, hrest⟩ := accepted_of_feed hfeed
      have hmove := move_of_step hfault
      intro scopes hm
      rcases List.mem_append.mp hm with hm | hm
      · split at hm
        · rename_i hopens
          rw [List.mem_singleton.mp hm]
          exact h.renews_of_opensExtend hmove hopens
        · cases hm
      · exact ih (h.move hmove) hrest scopes hm

-- No element has begun yet.
structure Fresh (assembly : Assembly) : Prop where
  scopes : assembly.scopes = []
  phase : assembly.phase = .outside
  isExtension : assembly.isExtension = false

theorem fresh_start (resource : String) (compress : Bool) : (start resource compress).Fresh :=
  ⟨rfl, rfl, rfl⟩

theorem Fresh.settled (h : assembly.Fresh) : assembly.settled.Fresh :=
  ⟨(settled_scopes _).trans h.scopes, (settled_phase _).trans h.phase,
    (settled_isExtension _).trans h.isExtension⟩

theorem Fresh.isIdle (h : assembly.Fresh) (hdoctype : assembly.inDoctype = false) :
    assembly.isIdle = false := by
  simp [Assembly.isIdle, inRemoved, hdoctype, h.scopes, h.phase]

-- The start of the first element is not inside a document type.
theorem Fresh.isIdle_of_awaits {rest : List PlacedEvent} (h : assembly.Fresh)
    (hawaits : assembly.Awaits (placed :: rest)) (hstart : placed.event.isElementStart = true) :
    assembly.isIdle = false :=
  h.isIdle (doctypesClosed_of_not_isDoctypeMark hawaits.1
    (Event.isDoctypeMark_of_isElementStart hstart)).1

-- Ends without starts, text and the like come before the first element.
theorem Fresh.move (h : assembly.Fresh) (hstart : placed.event.isElementStart = false)
    (hmove : Move assembly (assembly.place placed.line) placed.event next) : next.Fresh := by
  obtain ⟨line, event⟩ := placed
  cases hmove with
  | pass event hmark htag hprose => exact h
  | bury | start => cases hstart
  | finish uri name next hphase hdoctype hclosing =>
      have hnext : next = assembly.settled := by
        have hscopes := h.settled.scopes
        cases hclosing <;> simp_all
      rw [hnext]
      exact h.settled
  | comment text hidle => exact ⟨h.settled.scopes, h.settled.phase, h.settled.isExtension⟩
  | cdataStart hidle => exact ⟨h.settled.scopes, h.settled.phase, h.settled.isExtension⟩
  | gather | cdataEnd | doctypeStart | doctypeEnd | bind =>
      exact ⟨h.scopes, h.phase, h.isExtension⟩

theorem occupied_of_mem {tokens : Array Token} (token : Token) (hm : token ∈ tokens)
    (hcontent : token.isDoctype = false) : Occupied [] tokens := by
  have hany : tokens.toList.any (fun token => !token.isDoctype) = true :=
    List.any_eq_true.mpr ⟨token, Array.mem_toList_iff.mpr hm, by simp [hcontent]⟩
  rwa [Array.any_toList] at hany

-- The first element leaves a token or changes the sequence, unless it is a bare one.
theorem Fresh.rooted_of_opening {uri : Option String} {name : String} {attributes : List Attribute}
    {compress : Bool} {location : Location} (h : assembly.Fresh)
    (hbare : (Event.elementStart uri name attributes).isBareStart = false)
    (ho : Opening assembly uri name attributes compress location next) : next.Rooted := by
  have hone : ∀ form : TokenForm, form.isDoctype = false →
      Occupied assembly.scopes (assembly.emitOne form location).tokens := by
    intro form hform
    rw [h.scopes]
    exact occupied_of_mem ⟨form, location⟩ (by simp [emitOne, emit]) hform
  simp only [Event.isBareStart, Bool.or_eq_false_iff, beq_eq_false_iff_ne] at hbare
  cases ho with
  | output element componentType component ids hrole hread hids =>
      have hform : (component.startForm uri element).isDoctype = false := by
        unfold Component.startForm
        split <;> rfl
      have hstart : Occupied assembly.scopes (assembly.tokens ++
          startTokens component uri element assembly.bindings location) := by
        rw [h.scopes]
        exact occupied_of_mem ⟨component.startForm uri element, location⟩ (by simp [startTokens])
          hform
      exact .inr (.inr hstart)
  | remove hrole => exact absurd hrole hbare.1
  | container hrole => exact absurd hrole hbare.2
  | content => exact .inr (.inr trivial)
  | extensionPoint id hrole hid hnested => exact .inr (.inr (hone (.extensionPoint id) rfl))
  | extend => exact .inl rfl
  | replace id hrole hid hextension => rw [h.isExtension] at hextension; cases hextension
  | body hrole => exact .inr (.inr (hone .body rfl))
  | block id hrole hid hvalid => exact .inr (.inr (hone (.block id) rfl))
  | parameter label hrole hlabel hinside => exact .inr (.inr (hone (.parameter label) rfl))
  | blockParameter hrole hattributes hinside => exact .inr (.inr (hone (.parameter name) rfl))

theorem Fresh.rooted_of_start (h : assembly.Fresh) (hidle : assembly.isIdle = false)
    (hstart : placed.event.isElementStart = true) (hbare : placed.event.isBareStart = false)
    (hmove : Move assembly (assembly.place placed.line) placed.event next) : next.Rooted := by
  have hnever : assembly.isIdle ≠ true := by rw [hidle]; decide
  obtain ⟨line, event⟩ := placed
  cases hmove with
  | pass event hmark htag hprose =>
      have htagged : event.isTag = true := by
        cases event <;> first | rfl | cases hstart
      exact absurd (isIdle_of_unheard (htag htagged)) hnever
  | bury uri name attributes hphase hdoctype hremoved =>
      exact absurd (isIdle_of_inRemoved hremoved) hnever
  | start uri name attributes next hphase hdoctype hremoved hplace hopening =>
      exact h.settled.rooted_of_opening hbare hopening
  | _ => cases hstart

-- Only the first element can be an `<extend>` that is not in the content element or in a region,
-- as long as no bare element is the first one.
theorem Fresh.extendScopes_eq {final : Assembly} {events : List PlacedEvent} (h : assembly.Fresh)
    (hawaits : assembly.Awaits events) (hfeed : assembly.feed events = .ok final)
    (hbare : startsBare events = false) :
    ∃ later, (∀ scopes ∈ later, scopes.any (·.kind.renews) = true) ∧
      assembly.extendScopes events = (if startsWithExtend events then [[]] else []) ++ later := by
  induction events generalizing assembly with
  | nil => exact ⟨[], by simp, rfl⟩
  | cons placed rest ih =>
      obtain ⟨hfault, hrest⟩ := accepted_of_feed hfeed
      have hmove := move_of_step hfault
      cases hstart : placed.event.isElementStart with
      | false =>
          have hopens : assembly.opensExtend placed = false := by
            cases hextend : placed.event.isExtendStart with
            | false => simp [opensExtend, hextend]
            | true =>
                rw [Event.isElementStart_of_isExtendStart hextend] at hstart
                cases hstart
          rw [startsBare, rootStart?_cons_of_other rest hstart] at hbare
          rw [extendScopes, startsWithExtend, rootStart?_cons_of_other rest hstart, hopens]
          exact ih (h.move hstart hmove) (awaits_of_move hawaits hmove) hrest hbare
      | true =>
          rw [startsBare, rootStart?_cons_of_start rest hstart] at hbare
          rw [extendScopes, startsWithExtend, rootStart?_cons_of_start rest hstart, h.scopes]
          have hidle := h.isIdle_of_awaits hawaits hstart
          have hopens : assembly.opensExtend placed = placed.event.isExtendStart := by
            rw [opensExtend, hidle, Bool.not_false, Bool.true_and]
          have hrooted : (assembly.step placed).next.Rooted :=
            h.rooted_of_start hidle hstart hbare hmove
          rw [hopens]
          exact ⟨_, hrooted.renews_of_feed hrest, rfl⟩

theorem isExtension_of_feed {final : Assembly} {events : List PlacedEvent}
    (hfeed : assembly.feed events = .ok final) :
    final.isExtension = true ↔
      assembly.isExtension = true ∨ assembly.extendScopes events ≠ [] := by
  induction events generalizing assembly with
  | nil => cases hfeed; simp [extendScopes]
  | cons placed rest ih =>
      obtain ⟨hfault, hrest⟩ := accepted_of_feed hfeed
      rw [ih hrest, (move_of_step hfault).isExtension_eq, extendScopes]
      cases assembly.opensExtend placed <;> simp

end Assembly

namespace EventStream

-- A template extends another one exactly when its root is an `<extend>`, which is the only one,
-- if no `<extend>` stands in the content element or in a region, and none comes after a bare first
-- element. Everywhere else an `<extend>` that is no root is refused.
theorem assemble_extend_iff {events : List PlacedEvent} {resource : String} {compress : Bool}
    {template : Template}
    (h : (EventStream.mk events none).assemble resource compress = .ok template)
    (hclosed : elementsClosed events = true) (hdoctypes : doctypesClosed false events = true) :
    ((∀ scopes ∈ (Assembly.start resource compress).extendScopes events,
        scopes.any (·.kind.renews) = false) ∧
      (startsBare events = true → (Assembly.start resource compress).extendScopes events = [])) ↔
    ((template.isExtension = true ↔ startsWithExtend events = true) ∧
      (startsWithExtend events = true →
        ((Assembly.start resource compress).extendScopes events).length = 1)) := by
  obtain ⟨final, hfeed, rfl⟩ := assemble_ok h
  have hextension : final.template.isExtension = true ↔
      (Assembly.start resource compress).extendScopes events ≠ [] := by
    change final.settled.isExtension = true ↔ _
    rw [Assembly.settled_isExtension, Assembly.isExtension_of_feed hfeed]
    exact or_iff_right (by simp [Assembly.start])
  rw [hextension]
  cases hbare : startsBare events with
  | true =>
      rw [startsWithExtend_of_startsBare hbare]
      generalize (Assembly.start resource compress).extendScopes events = found
      constructor
      · rintro ⟨-, hnone⟩
        simp [hnone]
      · rintro ⟨hnone, -⟩
        have hempty : found = [] := by simpa using hnone
        simp [hempty]
  | false =>
      obtain ⟨later, hlater, heq⟩ := (Assembly.fresh_start resource compress).extendScopes_eq
        (Assembly.awaits_of_closed hclosed hdoctypes) hfeed hbare
      rw [heq]
      have hplaces : (∀ scopes ∈ later, scopes.any (·.kind.renews) = false) ↔ later = [] := by
        constructor
        · intro hnone
          refine List.eq_nil_iff_forall_not_mem.mpr fun scopes hm => ?_
          have hrenews := hlater scopes hm
          rw [hnone scopes hm] at hrenews
          cases hrenews
        · rintro rfl
          simp
      simp only [List.any_eq_false, Bool.not_eq_true] at hplaces
      cases startsWithExtend events with
      | true => simp [hplaces]
      | false => simp [hplaces]

-- A document type and an `<extend>` with one replacement.
def extending : List PlacedEvent := [
  ⟨some 1, .doctypeStart "html" none none⟩, ⟨some 1, .doctypeEnd⟩,
  ⟨some 2, .elementStart (some Naming.templateUri51) "Extend" []⟩,
  ⟨some 3, .elementStart (some Naming.templateUri51) "replace" [⟨none, "id", "a"⟩]⟩,
  ⟨some 3, .elementStart none "p" []⟩, ⟨some 3, .elementEnd none "p"⟩,
  ⟨some 3, .elementEnd (some Naming.templateUri51) "replace"⟩,
  ⟨some 4, .elementEnd (some Naming.templateUri51) "Extend"⟩]

theorem extend_iff_extending :
    ∃ template, (EventStream.mk extending none).assemble "T.tml" true = .ok template ∧
      elementsClosed extending = true ∧ doctypesClosed false extending = true ∧
      (((∀ scopes ∈ (Assembly.start "T.tml" true).extendScopes extending,
          scopes.any (·.kind.renews) = false) ∧
        (startsBare extending = true →
          (Assembly.start "T.tml" true).extendScopes extending = [])) ↔
      ((template.isExtension = true ↔ startsWithExtend extending = true) ∧
        (startsWithExtend extending = true →
          ((Assembly.start "T.tml" true).extendScopes extending).length = 1))) := by
  obtain ⟨template, h⟩ := exists_template
    (show ((EventStream.mk extending none).assemble "T.tml" true).toBool = true by decide +kernel)
  exact ⟨template, h, by decide, by decide, assemble_extend_iff h (by decide) (by decide)⟩

-- An `<extend>` as the first element of an extension point.
def innerExtend : List PlacedEvent := [
  ⟨some 1, .elementStart (some Naming.templateUri51) "extension-point" [⟨none, "id", "a"⟩]⟩,
  ⟨some 1, .elementStart (some Naming.templateUri51) "extend" []⟩,
  ⟨some 1, .elementEnd (some Naming.templateUri51) "extend"⟩,
  ⟨some 1, .elementEnd (some Naming.templateUri51) "extension-point"⟩]

-- A template whose root is no `<extend>` may extend another one.
theorem extension_innerExtend :
    ¬ ∀ (events : List PlacedEvent) (resource : String) (compress : Bool) (template : Template),
      (EventStream.mk events none).assemble resource compress = .ok template →
      elementsClosed events = true → doctypesClosed false events = true →
      (template.isExtension = true ↔ startsWithExtend events = true) ∧
        (startsWithExtend events = true →
          ((Assembly.start resource compress).extendScopes events).length = 1) := by
  intro hall
  obtain ⟨template, h⟩ := exists_template
    (show ((EventStream.mk innerExtend none).assemble "T.tml" true).toBool = true by
      decide +kernel)
  have hroot := (hall innerExtend "T.tml" true template h (by decide) (by decide)).1
  have hextension : ((EventStream.mk innerExtend none).assemble "T.tml" true).toOption.map
      (·.isExtension) = some true := by
    decide +kernel
  rw [h, Except.toOption, Option.map_some, Option.some.injEq] at hextension
  exact absurd (hroot.mp hextension) (by decide)

end EventStream

end TemplateMarkup
