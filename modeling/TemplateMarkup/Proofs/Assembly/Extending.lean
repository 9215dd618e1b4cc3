import TemplateMarkup.Proofs.Assembly.Extend
import TemplateMarkup.Proofs.Assembly.Reach
import TemplateMarkup.Proofs.Region.Recording
import TemplateMarkup.Proofs.Text.Showing

namespace TemplateMarkup

namespace Event

-- Whether an event begins a `<replace>` of the first template namespace, where it is a component.
def isOldReplace : Event → Bool
  | .elementStart (some uri) name _ => uri == Naming.templateUri50 && Text.sameWord name "replace"
  | _ => false

-- Whether an event leaves a token where only replacements may begin.
def isLoose (compress : Bool) : Event → Bool
  | .text content => Assembly.shows compress content
  | .comment _ | .cdataEnd => true
  | event => event.isOldReplace

end Event

theorem Directive.added?_of_replace {name : String} (h : Text.sameWord name "replace" = true) :
    added? name = some .replace := by
  have hremove := Text.sameWord_eq_false h (show Text.sameWord _ "remove" = false by decide)
  have hcontent := Text.sameWord_eq_false h (show Text.sameWord _ "content" = false by decide)
  have hpoint := Text.sameWord_eq_false h
    (show Text.sameWord _ "extension-point" = false by decide)
  have hextend := Text.sameWord_eq_false h (show Text.sameWord _ "extend" = false by decide)
  simp [added?, h, hremove, hcontent, hpoint, hextend]

theorem Directive.shared?_of_replace {name : String} (h : Text.sameWord name "replace" = true) :
    shared? name = none := by
  have hbody := Text.sameWord_eq_false h (show Text.sameWord _ "body" = false by decide)
  have hblock := Text.sameWord_eq_false h (show Text.sameWord _ "block" = false by decide)
  have hparameter := Text.sameWord_eq_false h (show Text.sameWord _ "parameter" = false by decide)
  have hcontainer := Text.sameWord_eq_false h (show Text.sameWord _ "container" = false by decide)
  simp [shared?, hbody, hblock, hparameter, hcontainer]

-- The first template namespace has no replacements.
theorem ElementRole.ofName_of_isOldReplace {uri : Option String} {name : String}
    {attributes : List Attribute}
    (h : (Event.elementStart uri name attributes).isOldReplace = true) :
    ofName uri name = .component (dotsToSlashes name) := by
  cases uri with
  | none => cases h
  | some uri =>
      simp only [Event.isOldReplace, Bool.and_eq_true, beq_iff_eq] at h
      obtain ⟨rfl, hname⟩ := h
      have hother : (Naming.templateUri50 == Naming.templateUri51) = false := by decide
      simp [ofName, Directive.find?, hother, Directive.shared?_of_replace hname,
        Naming.isTemplateUri]

theorem ElementRole.ofName_of_replace {uri : Option String} {name : String}
    (attributes : List Attribute) (huri : uri.any Naming.isTemplateUri = true)
    (hname : Text.sameWord name "replace" = true) :
    ofName uri name = .directive .replace ∨
      (Event.elementStart uri name attributes).isOldReplace = true := by
  cases uri with
  | none => cases huri
  | some uri =>
      simp only [Option.any_some, Naming.isTemplateUri, Bool.or_eq_true, beq_iff_eq] at huri
      rcases huri with rfl | rfl
      · exact .inr (by simp [Event.isOldReplace, hname])
      · exact .inl (by simp [ofName, Directive.find?, Directive.added?_of_replace hname])

theorem Event.isLoose_of_quiet {event : Event} (compress : Bool) (htag : event.isTag = false)
    (hprose : event.isProse = false) : event.isLoose compress = false := by
  cases event <;> first | rfl | (cases htag; done) | cases hprose

namespace Assembly

-- Whether an event leaves a token outside of the content element and of all regions.
def strays (assembly : Assembly) (placed : PlacedEvent) : Bool :=
  !assembly.isIdle && !assembly.scopes.any (·.kind.renews) &&
    placed.event.isLoose assembly.compressing

def hasStrays (assembly : Assembly) : List PlacedEvent → Bool
  | [] => false
  | placed :: rest => assembly.strays placed || (assembly.step placed).next.hasStrays rest

-- Outside of the regions that are open, there is or will be a token that is no document type.
def Filled (assembly : Assembly) : Prop :=
  Occupied assembly.scopes assembly.settled.tokens

-- Output elements are open in regions only.
def Enclosed : List Scope → Prop
  | [] => True
  | scope :: outer =>
    (scope.kind = .element → outer.any (·.kind.renews) = true) ∧ Enclosed outer

-- No content element is open or over, and output elements outside of regions have left a token.
structure Plain (assembly : Assembly) : Prop where
  phase : assembly.phase = .outside
  scopes : ∀ scope ∈ assembly.scopes, scope.kind ≠ .content
  elements : assembly.Filled ∨ Enclosed assembly.scopes

variable {assembly next : Assembly} {placed : PlacedEvent}

-- In a region the active sequence does not matter.
theorem occupied_of_renews {scopes : List Scope} (h : scopes.any (·.kind.renews) = true)
    (tokens others : Array Token) : Occupied scopes tokens ↔ Occupied scopes others := by
  induction scopes with
  | nil => cases h
  | cons scope outer ih =>
      obtain ⟨compress, isComponent, kind⟩ := scope
      cases kind with
      | content | extensionPoint | replace => exact Iff.rfl
      | element | body | remove | removed | extend | container =>
          exact ih (by simpa [ScopeKind.renews] using h)

theorem occupied_iff_any {scopes : List Scope} (h : scopes.any (·.kind.renews) = false)
    (tokens : Array Token) :
    Occupied scopes tokens ↔ tokens.any (fun token => !token.isDoctype) = true := by
  refine ⟨fun ho => ho.any h, fun hany => ?_⟩
  induction scopes with
  | nil => exact hany
  | cons scope outer ih =>
      obtain ⟨compress, isComponent, kind⟩ := scope
      simp only [List.any_cons, Bool.or_eq_false_iff] at h
      cases kind with
      | content | extensionPoint | replace => cases h.1
      | element | body | remove | removed | extend | container => exact ih h.2

-- Where the open elements stay the same, tokens count outside of regions only.
theorem filled_iff_of_scopes {added : Bool} (hscopes : next.scopes = assembly.scopes)
    (hcontent : next.settled.hasContent = (assembly.settled.hasContent || added)) :
    next.Filled ↔
      assembly.Filled ∨ (!assembly.scopes.any (·.kind.renews) && added) = true := by
  rw [Filled, Filled, hscopes]
  cases hrenews : assembly.scopes.any (·.kind.renews) with
  | true => simpa using occupied_of_renews hrenews _ _
  | false =>
      simp only [occupied_iff_any hrenews, Bool.not_false, Bool.true_and]
      rw [← Bool.or_eq_true]
      exact iff_of_eq (congrArg (· = true) hcontent)

theorem strays_of_isIdle (h : assembly.isIdle = true) : assembly.strays placed = false := by
  simp [strays, h]

theorem strays_of_counting (h : assembly.isIdle = false) : assembly.strays placed =
    (!assembly.scopes.any (·.kind.renews) && placed.event.isLoose assembly.compressing) := by
  simp [strays, h]

theorem Plain.of_scopes (h : assembly.Plain) (hphase : next.phase = assembly.phase)
    (hscopes : next.scopes = assembly.scopes) (hfilled : assembly.Filled → next.Filled) :
    next.Plain where
  phase := hphase.trans h.phase
  scopes := hscopes ▸ h.scopes
  elements := h.elements.imp hfilled fun he => hscopes ▸ he

theorem filled_settled : assembly.settled.Filled ↔ assembly.Filled := by
  rw [Filled, Filled, settled_settled, settled_scopes]

theorem Plain.settled (h : assembly.Plain) : assembly.settled.Plain :=
  h.of_scopes (settled_phase _) (settled_scopes _) filled_settled.mpr

-- Outside of regions an extending template admits replacements only, and components that are
-- called so. Before that the `<extend>` itself begins.
theorem role_of_placed {uri : Option String} {name : String} {attributes : List Attribute}
    (hextends : assembly.isExtension = true ∨
      (Event.elementStart uri name attributes).isExtendStart = true)
    (hplace : assembly.placementFault? uri name = none)
    (hrenews : assembly.scopes.any (·.kind.renews) = false) :
    ElementRole.ofName uri name = .directive .extend ∨
      ElementRole.ofName uri name = .directive .replace ∨
      (Event.elementStart uri name attributes).isOldReplace = true := by
  rcases hextends with hextension | hextend
  · have houtside : assembly.inReplacement = false := by
      cases hinside : assembly.inReplacement with
      | false => rfl
      | true =>
          rw [renews_of_inReplacement hinside] at hrenews
          cases hrenews
    unfold placementFault? at hplace
    split at hplace
    · cases hplace
    · split at hplace
      · cases hplace
      · rename_i hchild
        simp only [hextension, houtside, Bool.not_false, Bool.true_and, Bool.not_eq_true,
          Bool.not_eq_false', Bool.and_eq_true] at hchild
        exact .inr (ElementRole.ofName_of_replace attributes hchild.1 hchild.2)
  · exact .inl ((ElementRole.ofName_eq_extend_iff uri name attributes).mpr hextend)

theorem Opening.scopes_of_role {uri : Option String} {name : String} {attributes : List Attribute}
    {compress : Bool} {location : Location}
    (ho : Opening assembly uri name attributes compress location next)
    (hcontent : ElementRole.ofName uri name ≠ .directive .content) :
    ∃ scope, next.scopes = scope :: assembly.scopes ∧ scope.kind ≠ .content ∧
      next.phase = assembly.phase := by
  cases ho with
  | content hrole => exact absurd hrole hcontent
  | output | remove | extensionPoint | extend | replace | body | block | parameter
  | blockParameter | container => exact ⟨_, rfl, by simp, rfl⟩

theorem occupied_cons {scope : Scope} (hkind : scope.kind ≠ .content) (outer : List Scope)
    (tokens : Array Token) :
    ∃ others, Occupied (scope :: outer) tokens ↔ Occupied outer others := by
  obtain ⟨compress, isComponent, kind⟩ := scope
  cases kind with
  | content => exact absurd rfl hkind
  | extensionPoint id saved | replace id saved => exact ⟨saved, Iff.rfl⟩
  | element | body | remove | removed | extend | container => exact ⟨tokens, Iff.rfl⟩

-- An output element that begins where the sequence is not filled begins in a region.
theorem Plain.enter {scope : Scope} (h : assembly.Plain)
    (hscopes : next.scopes = scope :: assembly.scopes) (hkind : scope.kind ≠ .content)
    (hinside : scope.kind = .element → assembly.scopes.any (·.kind.renews) = true)
    (hphase : next.phase = assembly.phase) (hfilled : assembly.Filled → next.Filled) :
    next.Plain where
  phase := hphase.trans h.phase
  scopes := by
    rw [hscopes]
    exact List.forall_mem_cons.mpr ⟨hkind, h.scopes⟩
  elements := by
    rw [hscopes]
    exact h.elements.imp hfilled fun he => ⟨hinside, he⟩

theorem Plain.leave {scope : Scope} (h : assembly.Plain)
    (hscopes : assembly.scopes = scope :: next.scopes) (hphase : next.phase = assembly.phase)
    (hfilled : assembly.Filled → next.Filled) : next.Plain where
  phase := hphase.trans h.phase
  scopes := fun other hm => h.scopes other (hscopes ▸ List.mem_cons_of_mem _ hm)
  elements := by
    have helements := h.elements
    rw [hscopes] at helements
    exact helements.imp hfilled fun he => he.2

-- Whatever begins in a region leaves the sequence outside alone.
theorem Plain.openInside {scope : Scope} (h : assembly.Plain)
    (hinside : assembly.scopes.any (·.kind.renews) = true)
    (hscopes : next.scopes = scope :: assembly.scopes) (hkind : scope.kind ≠ .content)
    (hphase : next.phase = assembly.phase) :
    next.Plain ∧ (next.Filled ↔ assembly.Filled) := by
  have hfilled : next.Filled ↔ assembly.Filled := by
    rw [Filled, Filled, hscopes]
    obtain ⟨others, hothers⟩ := occupied_cons hkind assembly.scopes next.settled.tokens
    exact hothers.trans (occupied_of_renews hinside _ _)
  exact ⟨h.enter hscopes hkind (fun _ => hinside) hphase hfilled.mpr, hfilled⟩

-- An `<extend>` or a replacement leaves what the sequence outside holds.
theorem Plain.openBare {scope : Scope} (h : assembly.Plain) (hpending : assembly.pending = none)
    (hnone : next.pending = none) (hscopes : next.scopes = scope :: assembly.scopes)
    (hkind : scope.kind ≠ .content) (helement : scope.kind ≠ .element)
    (hphase : next.phase = assembly.phase)
    (hoccupied : Occupied next.scopes next.tokens ↔ Occupied assembly.scopes assembly.tokens) :
    next.Plain ∧ (next.Filled ↔ assembly.Filled) := by
  have hfilled : next.Filled ↔ assembly.Filled := by
    rw [Filled, Filled, settled_of_none hnone, settled_of_none hpending]
    exact hoccupied
  exact ⟨h.enter hscopes hkind (fun he => absurd he helement) hphase hfilled.mpr, hfilled⟩

-- Outside of regions, an output element fills the sequence.
theorem filled_of_output {uri : Option String} {component : Component} {element : Option String}
    {location : Location} {scope : Scope} (hpending : next.pending = none)
    (houtside : assembly.scopes.any (·.kind.renews) = false)
    (htokens : next.tokens = assembly.tokens ++
      startTokens component uri element assembly.bindings location)
    (hscopes : next.scopes = scope :: assembly.scopes) (hkind : scope.kind = .element) :
    next.Filled := by
  have hstart : (component.startForm uri element).isDoctype = false := by
    unfold Component.startForm
    split <;> rfl
  have hrenews : next.scopes.any (·.kind.renews) = false := by
    rw [hscopes, List.any_cons, hkind, houtside]
    rfl
  rw [Filled, settled_of_none hpending, occupied_iff_any hrenews, htokens, Array.any_append,
    startTokens, Array.any_append, Array.any_append]
  simp [Token.isDoctype, hstart]

theorem isOldReplace_of_directive {uri : Option String} {name : String}
    {attributes : List Attribute} {directive : Directive}
    (h : ElementRole.ofName uri name = .directive directive) :
    (Event.elementStart uri name attributes).isOldReplace = false := by
  rw [Bool.eq_false_iff]
  intro hold
  rw [ElementRole.ofName_of_isOldReplace hold] at h
  cases h

-- Outside of regions, a component that is called like a replacement fills the sequence.
theorem Plain.openOutside {uri : Option String} {name : String} {attributes : List Attribute}
    {compress : Bool} {location : Location} (h : assembly.Plain)
    (hpending : assembly.pending = none)
    (houtside : assembly.scopes.any (·.kind.renews) = false)
    (hrole : ElementRole.ofName uri name = .directive .extend ∨
      ElementRole.ofName uri name = .directive .replace ∨
      (Event.elementStart uri name attributes).isOldReplace = true)
    (ho : Opening assembly uri name attributes compress location next) :
    next.Plain ∧ (next.Filled ↔ assembly.Filled ∨
      (Event.elementStart uri name attributes).isOldReplace = true) := by
  have hnone : next.pending = none := ho.pending_eq.trans hpending
  have hnever : ∀ role, ElementRole.ofName uri name = role → role ≠ .directive .extend →
      role ≠ .directive .replace → (∀ type, role ≠ .component type) → False := by
    rintro role rfl hextend hreplace hcomponent
    rcases hrole with he | he | he
    · exact hextend he
    · exact hreplace he
    · exact hcomponent _ (ElementRole.ofName_of_isOldReplace he)
  cases ho with
  | output element componentType component ids hout hread hids =>
      have hold : (Event.elementStart uri name attributes).isOldReplace = true := by
        rcases hrole with he | he | he
        · rw [he] at hout
          cases hout
        · rw [he] at hout
          cases hout
        · exact he
      have hfilled := filled_of_output hnone houtside rfl rfl rfl
      refine ⟨⟨h.phase, List.forall_mem_cons.mpr ⟨by simp, h.scopes⟩, .inl hfilled⟩, ?_⟩
      exact iff_of_true hfilled (.inr hold)
  | extend hr =>
      have hopen := h.openBare hpending hnone rfl (by simp) (by simp) rfl Iff.rfl
      simpa [isOldReplace_of_directive hr] using hopen
  | replace id hr =>
      have hopen := h.openBare hpending hnone rfl (by simp) (by simp) rfl Iff.rfl
      simpa [isOldReplace_of_directive hr] using hopen
  | remove hr | content hr | extensionPoint _ hr | body hr | block _ hr | parameter _ hr
  | blockParameter hr | container hr =>
      exact (hnever _ hr (by simp) (by simp) (by simp)).elim

-- The end of an output element leaves a token where its start has left one.
theorem Plain.occupied_outer {compress isComponent : Bool} {outer : List Scope} (h : assembly.Plain)
    (hpending : assembly.pending = none)
    (hscopes : assembly.scopes = ⟨compress, isComponent, .element⟩ :: outer) (more : Array Token) :
    Occupied outer (assembly.tokens ++ more) ↔ Occupied outer assembly.tokens := by
  cases hinside : outer.any (·.kind.renews) with
  | true => exact occupied_of_renews hinside _ _
  | false =>
      -- the element would not be open here if the sequence were not filled
      have hfilled : Occupied outer assembly.tokens := by
        rcases h.elements with hf | he
        · rwa [Filled, settled_of_none hpending, hscopes] at hf
        · rw [hscopes] at he
          have hrenews := he.1 rfl
          rw [hinside] at hrenews
          cases hrenews
      exact iff_of_true (hfilled.append _) hfilled

theorem Plain.closing {location : Location} (h : assembly.Plain)
    (hpending : assembly.pending = none) (hc : Closing assembly location next) :
    next.Plain ∧ (next.Filled ↔ assembly.Filled) := by
  have hnext : next.settled = next := settled_of_none (hc.pending_eq.trans hpending)
  have hself : assembly.settled = assembly := settled_of_none hpending
  cases hc with
  | stray hscopes => exact ⟨h, Iff.rfl⟩
  | element compress isComponent outer hscopes =>
      have hfilled : Filled ({ assembly with scopes := outer }.emitOne .endElement location) ↔
          assembly.Filled := by
        rw [Filled, Filled, hnext, hself, hscopes]
        exact h.occupied_outer hpending hscopes _
      exact ⟨h.leave hscopes rfl hfilled.mpr, hfilled⟩
  | content compress isComponent outer hscopes =>
      exact absurd rfl (h.scopes _ (by rw [hscopes]; exact List.mem_cons_self))
  | region scope outer id saved hscopes hkind =>
      have hfilled : Filled ({ assembly with scopes := outer, tokens := saved }.setOverride id
          assembly.tokens) ↔ assembly.Filled := by
        rw [Filled, Filled, hnext, hself, hscopes]
        obtain ⟨compress, isComponent, kind⟩ := scope
        cases kind with
        | extensionPoint | replace => cases hkind; exact Iff.rfl
        | _ => cases hkind
      exact ⟨h.leave hscopes rfl hfilled.mpr, hfilled⟩
  | bare scope outer hscopes hkind =>
      have hfilled : Filled { assembly with scopes := outer } ↔ assembly.Filled := by
        rw [Filled, Filled, hnext, hself, hscopes]
        obtain ⟨compress, isComponent, kind⟩ := scope
        cases kind with
        | body | remove | removed | extend | container => exact Iff.rfl
        | _ => cases hkind
      exact ⟨h.leave hscopes rfl hfilled.mpr, hfilled⟩

-- Where the open elements stay the same, an event fills the sequence exactly when it strays.
theorem Plain.stay (h : assembly.Plain) (added : Bool) (hphase : next.phase = assembly.phase)
    (hscopes : next.scopes = assembly.scopes)
    (hcontent : next.settled.hasContent = (assembly.settled.hasContent || added))
    (hstrays : assembly.strays placed = (!assembly.scopes.any (·.kind.renews) && added)) :
    next.Plain ∧ (next.Filled ↔ assembly.Filled ∨ assembly.strays placed = true) := by
  have hfilled := filled_iff_of_scopes hscopes hcontent
  rw [← hstrays] at hfilled
  exact ⟨h.of_scopes hphase hscopes fun hf => hfilled.mpr (.inl hf), hfilled⟩

theorem strays_of_quiet (hquiet : placed.event.isLoose assembly.compressing = false) :
    assembly.strays placed = false := by
  simp [strays, hquiet]

-- Before the `<extend>` and behind it, the sequence is filled by what strays and by nothing else.
theorem Plain.move (h : assembly.Plain)
    (hextends : placed.event.isElementStart = true →
      assembly.isExtension = true ∨ placed.event.isExtendStart = true)
    (hcontent : assembly.startsContent placed = false)
    (hmove : Move assembly (assembly.place placed.line) placed.event next) :
    next.Plain ∧ (next.Filled ↔ assembly.Filled ∨ assembly.strays placed = true) := by
  obtain ⟨line, event⟩ := placed
  have hquiet : ∀ {after : Assembly}, assembly.strays ⟨line, event⟩ = false →
      after.Plain ∧ (after.Filled ↔ assembly.Filled) →
      after.Plain ∧ (after.Filled ↔ assembly.Filled ∨ assembly.strays ⟨line, event⟩ = true) := by
    intro after hstrays hafter
    simpa [hstrays] using hafter
  cases hmove with
  | pass event hmark htag hprose =>
      refine hquiet ?_ ⟨h, Iff.rfl⟩
      cases htagged : event.isTag with
      | true => exact strays_of_isIdle (isIdle_of_unheard (htag htagged))
      | false =>
          cases hsaid : event.isProse with
          | true => exact strays_of_isIdle (hprose hsaid)
          | false => exact strays_of_quiet (Event.isLoose_of_quiet _ htagged hsaid)
  | bury uri name attributes hphase hdoctype hremoved =>
      refine hquiet (strays_of_isIdle (isIdle_of_inRemoved hremoved)) ?_
      have hfilled : (assembly.push .removed assembly.compressing false).Filled ↔
          assembly.Filled := by
        rw [Filled, Filled, settled_tokens, settled_tokens]
        exact Iff.rfl
      exact ⟨h.enter rfl (by simp) (by simp) rfl hfilled.mpr, hfilled⟩
  | start uri name attributes next hphase hdoctype hremoved hplace hopening =>
      have hidle := isIdle_eq_false hphase hdoctype hremoved
      have hrole : ElementRole.ofName uri name ≠ .directive .content := by
        simpa [startsContent, hidle] using hcontent
      have hpending : assembly.settled.pending = none := settled_pending assembly
      cases hinside : assembly.scopes.any (·.kind.renews) with
      | true =>
          obtain ⟨scope, hscopes, hkind, hsame⟩ := hopening.scopes_of_role hrole
          have hopen := h.settled.openInside (by rwa [settled_scopes]) hscopes hkind hsame
          rw [filled_settled] at hopen
          exact hquiet (by simp [strays, hinside]) hopen
      | false =>
          have hopen := h.settled.openOutside hpending (by rwa [settled_scopes])
            (role_of_placed (hextends rfl) hplace hinside) hopening
          rw [filled_settled] at hopen
          simpa [strays, hidle, hinside, Event.isLoose] using hopen
  | finish uri name next hphase hdoctype hclosing =>
      have hclosed := h.settled.closing (settled_pending assembly) hclosing
      rw [filled_settled] at hclosed
      exact hquiet (strays_of_quiet rfl) hclosed
  | gather text pending hidle hbody hpending =>
      refine h.stay (shows assembly.compressing text) rfl rfl ?_
        (strays_of_counting hidle)
      rw [hpending]
      exact any_settled_gathered isDoctype_fragment _ _ _
  | comment text hidle =>
      refine h.stay true (settled_phase _) (settled_scopes _) ?_
        (strays_of_counting hidle)
      rw [hasContent_settled]
      simp [hasContent, emitOne, emit, Token.isDoctype, TokenForm.isDoctype]
  | cdataStart hidle =>
      refine h.stay false (settled_phase _) (settled_scopes _) ?_
        (by rw [strays_of_quiet rfl, Bool.and_false])
      rw [hasContent_settled, pendingText, shows_empty]
      rfl
  | cdataEnd pending hidle hpending =>
      refine h.stay true rfl rfl ?_ (strays_of_counting hidle)
      rw [hasContent_settled]
      simp [hasContent, emitOne, emit, Token.isDoctype, TokenForm.isDoctype]
  | doctypeStart name publicId systemId =>
      refine h.stay false rfl rfl ?_
        (by rw [strays_of_quiet rfl, Bool.and_false])
      rw [hasContent_settled, hasContent_settled]
      simp [hasContent, Assembly.doctypeStart, emitOne, emit, Token.isDoctype,
        TokenForm.isDoctype, pendingText, compressing]
  | doctypeEnd =>
      refine h.stay false rfl rfl ?_ (by rw [strays_of_quiet rfl, Bool.and_false])
      rw [hasContent_settled, hasContent_settled, Bool.or_false]
      rfl
  | bind label uri hidle =>
      refine h.stay false rfl rfl ?_ (by rw [strays_of_quiet rfl, Bool.and_false])
      rw [hasContent_settled, hasContent_settled, Bool.or_false]
      rfl

-- The `<extend>` has been opened, or it is the next element.
def Extends (assembly : Assembly) (rest : List PlacedEvent) : Prop :=
  assembly.isExtension = true ∨ assembly.Fresh ∧ startsWithExtend rest = true

theorem Extends.at_start {rest : List PlacedEvent} (h : assembly.Extends (placed :: rest))
    (hstart : placed.event.isElementStart = true) :
    assembly.isExtension = true ∨ placed.event.isExtendStart = true := by
  refine h.imp_right fun hfresh => ?_
  have hroot := hfresh.2
  rwa [startsWithExtend, rootStart?_cons_of_start rest hstart] at hroot

theorem Extends.move {rest : List PlacedEvent} (h : assembly.Extends (placed :: rest))
    (hawaits : assembly.Awaits (placed :: rest))
    (hmove : Move assembly (assembly.place placed.line) placed.event next) : next.Extends rest := by
  rcases h with hextension | ⟨hfresh, hroot⟩
  · exact .inl (by rw [hmove.isExtension_eq, hextension, Bool.true_or])
  cases hstart : placed.event.isElementStart with
  | false =>
      rw [startsWithExtend, rootStart?_cons_of_other rest hstart] at hroot
      exact .inr ⟨hfresh.move hstart hmove, hroot⟩
  | true =>
      rw [startsWithExtend, rootStart?_cons_of_start rest hstart, Option.any_some] at hroot
      have hidle := hfresh.isIdle_of_awaits hawaits hstart
      exact .inl (by rw [hmove.isExtension_eq, opensExtend, hidle, hroot]; simp)

theorem Plain.feed {final : Assembly} {events : List PlacedEvent} (h : assembly.Plain)
    (hextends : assembly.Extends events) (hawaits : assembly.Awaits events)
    (hcontent : assembly.opensContent events = false) (hfeed : assembly.feed events = .ok final) :
    final.Plain ∧ (final.Filled ↔ assembly.Filled ∨ assembly.hasStrays events = true) := by
  induction events generalizing assembly with
  | nil => cases hfeed; simp [h, hasStrays]
  | cons placed rest ih =>
      obtain ⟨hfault, hrest⟩ := accepted_of_feed hfeed
      have hmove := move_of_step hfault
      simp only [opensContent, Bool.or_eq_false_iff] at hcontent
      obtain ⟨hplain, hfilled⟩ := h.move hextends.at_start hcontent.1 hmove
      obtain ⟨hfinal, hrun⟩ := ih hplain (hextends.move hawaits hmove)
        (awaits_of_move hawaits hmove) hcontent.2 hrest
      refine ⟨hfinal, ?_⟩
      rw [hrun, hfilled, hasStrays, Bool.or_eq_true, or_assoc]

theorem plain_start (resource : String) (compress : Bool) : (start resource compress).Plain :=
  ⟨rfl, by simp [start], .inr trivial⟩

theorem not_filled_start (resource : String) (compress : Bool) :
    ¬(start resource compress).Filled := by
  simp [Filled, Occupied, start, Assembly.settled]

end Assembly

namespace EventStream

-- The main sequence of a template whose root is an `<extend>` holds document types only exactly
-- when nothing strays: no text that shows, no comment, no character data section and no component
-- called `replace` outside of the replacements.
theorem assemble_vacant_iff {events : List PlacedEvent} {resource : String} {compress : Bool}
    {template : Template}
    (h : (EventStream.mk events none).assemble resource compress = .ok template)
    (hclosed : elementsClosed events = true) (hdoctypes : doctypesClosed false events = true)
    (hroot : startsWithExtend events = true)
    (hcontent : (Assembly.start resource compress).opensContent events = false) :
    (∀ token ∈ template.tokens, token.isDoctype = true) ↔
      (Assembly.start resource compress).hasStrays events = false := by
  obtain ⟨final, hfeed, rfl⟩ := assemble_ok h
  obtain ⟨hplain, hfilled⟩ := (Assembly.plain_start resource compress).feed
    (.inr ⟨Assembly.fresh_start resource compress, hroot⟩)
    (Assembly.awaits_of_closed hclosed hdoctypes) hcontent hfeed
  have hscopes : final.scopes = [] :=
    (Assembly.feed_closed hfeed hclosed hdoctypes).resolve_left (by rw [hplain.phase]; decide)
  have hvacant : (∀ token ∈ final.template.tokens, token.isDoctype = true) ↔ ¬final.Filled := by
    rw [Assembly.Filled, hscopes, Assembly.Occupied, Array.any_eq_true']
    simp only [Assembly.template, Bool.not_eq_true', not_exists, not_and, Bool.not_eq_false]
  rw [hvacant, hfilled, or_iff_right (Assembly.not_filled_start resource compress),
    Bool.not_eq_true]

-- An `<extend>` on lines of its own, with a replacement that holds text and a comment.
def indentedExtend : List PlacedEvent := [
  ⟨some 1, .doctypeStart "html" none none⟩, ⟨some 1, .doctypeEnd⟩, ⟨some 1, .text "\n"⟩,
  ⟨some 2, .elementStart (some Naming.templateUri51) "extend" []⟩, ⟨some 2, .text "\n  "⟩,
  ⟨some 3, .elementStart (some Naming.templateUri51) "replace" [⟨none, "id", "a"⟩]⟩,
  ⟨some 3, .text "text"⟩, ⟨some 3, .comment "comment"⟩,
  ⟨some 3, .elementEnd (some Naming.templateUri51) "replace"⟩, ⟨some 3, .text "\n"⟩,
  ⟨some 4, .elementEnd (some Naming.templateUri51) "extend"⟩, ⟨some 4, .text "\n"⟩]

theorem vacant_indentedExtend :
    ∃ template, (EventStream.mk indentedExtend none).assemble "T.tml" true = .ok template ∧
      elementsClosed indentedExtend = true ∧ doctypesClosed false indentedExtend = true ∧
      startsWithExtend indentedExtend = true ∧
      (Assembly.start "T.tml" true).opensContent indentedExtend = false ∧
      ((∀ token ∈ template.tokens, token.isDoctype = true) ↔
        (Assembly.start "T.tml" true).hasStrays indentedExtend = false) := by
  obtain ⟨template, h⟩ := exists_template
    (show ((EventStream.mk indentedExtend none).assemble "T.tml" true).toBool = true by
      decide +kernel)
  have hcontent : (Assembly.start "T.tml" true).opensContent indentedExtend = false := by
    decide +kernel
  exact ⟨template, h, by decide, by decide, by decide, hcontent,
    assemble_vacant_iff h (by decide) (by decide) (by decide) hcontent⟩

-- An `<extend>` with text in it.
def worded : List PlacedEvent := [
  ⟨some 1, .elementStart (some Naming.templateUri51) "extend" []⟩, ⟨some 1, .text "text"⟩,
  ⟨some 1, .elementEnd (some Naming.templateUri51) "extend"⟩]

-- Text may stand directly in an `<extend>`, and it is in the main sequence then.
theorem not_vacant_worded :
    ¬ ∀ (events : List PlacedEvent) (resource : String) (compress : Bool) (template : Template),
      (EventStream.mk events none).assemble resource compress = .ok template →
      elementsClosed events = true → doctypesClosed false events = true →
      startsWithExtend events = true →
      (Assembly.start resource compress).opensContent events = false →
      ∀ token ∈ template.tokens, token.isDoctype = true := by
  intro hall
  obtain ⟨template, h⟩ := exists_template
    (show ((EventStream.mk worded none).assemble "T.tml" true).toBool = true by decide +kernel)
  have hvacant := hall worded "T.tml" true template h (by decide) (by decide) (by decide)
    (by decide +kernel)
  have htokens : ((EventStream.mk worded none).assemble "T.tml" true).toOption.map (·.tokens) =
      some #[⟨.text "text", ⟨"T.tml", some 1⟩⟩] := by
    decide +kernel
  rw [h, Except.toOption, Option.map_some, Option.some.injEq] at htokens
  exact absurd (hvacant _ (htokens ▸ Array.mem_singleton.mpr rfl)) (by decide)

end EventStream

end TemplateMarkup
