import TemplateMarkup.Proofs.Assembly.Bond
import TemplateMarkup.Proofs.Assembly.Extend
import TemplateMarkup.Proofs.Assembly.Reach
import TemplateMarkup.Proofs.IdTable
import TemplateMarkup.Proofs.Text.Showing

namespace TemplateMarkup

def Event.isComment : Event → Bool
  | .comment _ => true
  | _ => false

namespace Assembly

-- In what two runs may differ: how far their sequences, their white space settings and their
-- pending texts are like each other.
structure Likeness where
  sequences : Array Token → Array Token → Prop
  settings : Bool → Bool → Prop
  texts : Option PendingText → Option PendingText → Prop
  empty : sequences #[] #[]
  append : ∀ tokens others more : Array Token, sequences tokens others →
    more.any (·.form.isSubstance) = true → sequences (tokens ++ more) (others ++ more)
  same : ∀ compress, settings compress compress
  unchanged : ∀ pending, texts pending pending

-- Open elements of the same kind. What regions have put aside is alike.
inductive KindLike (like : Likeness) : ScopeKind → ScopeKind → Prop
  | same (kind : ScopeKind) (hkind : kind.region? = none) : KindLike like kind kind
  | extensionPoint (id : String) {saved others : Array Token} (h : like.sequences saved others) :
      KindLike like (.extensionPoint id saved) (.extensionPoint id others)
  | replace (id : String) {saved others : Array Token} (h : like.sequences saved others) :
      KindLike like (.replace id saved) (.replace id others)

structure ScopeLike (like : Likeness) (scope other : Scope) : Prop where
  compress : like.settings scope.compress other.compress
  isComponent : scope.isComponent = other.isComponent
  kind : KindLike like scope.kind other.kind

-- Two assemblies that differ in their sequences and settings only. Pending text is left aside.
structure Abreast (like : Likeness) (first second : Assembly) : Prop where
  resource : first.resource = second.resource
  compressDefault : like.settings first.compressDefault second.compressDefault
  tokens : like.sequences first.tokens second.tokens
  overrides : Option.Rel (IdTable.Alike like.sequences) first.overrides second.overrides
  ids : first.ids = second.ids
  isExtension : first.isExtension = second.isExtension
  scopes : List.Forall₂ (ScopeLike like) first.scopes second.scopes
  phase : first.phase = second.phase
  inDoctype : first.inDoctype = second.inDoctype
  bindings : first.bindings = second.bindings

variable {like : Likeness} {first second : Assembly}

section Kinds

variable {kind other : ScopeKind}

theorem KindLike.isReplace (h : KindLike like kind other) : kind.isReplace = other.isReplace := by
  cases h <;> rfl

theorem KindLike.isExtensionPoint (h : KindLike like kind other) :
    kind.isExtensionPoint = other.isExtensionPoint := by
  cases h <;> rfl

theorem KindLike.beq (h : KindLike like kind other) {asked : ScopeKind}
    (hasked : asked.region? = none) : (kind == asked) = (other == asked) := by
  cases h with
  | same => rfl
  | extensionPoint | replace => cases asked <;> first | rfl | cases hasked

end Kinds

theorem ScopeLike.head {scope other : Scope} (h : ScopeLike like scope other) :
    HeadLike scope other :=
  ⟨h.isComponent, fun _ hasked => h.kind.beq hasked⟩

namespace Abreast

section Questions

variable (h : Abreast like first second)

include h

theorem heads : (first.scopes = [] ∧ second.scopes = []) ∨
    ∃ scope outer other rest, first.scopes = scope :: outer ∧ second.scopes = other :: rest ∧
      ScopeLike like scope other ∧ List.Forall₂ (ScopeLike like) outer rest := by
  have hscopes := h.scopes
  generalize first.scopes = scopes at hscopes ⊢
  generalize second.scopes = others at hscopes ⊢
  cases hscopes with
  | nil => exact .inl ⟨rfl, rfl⟩
  | cons hhead htail => exact .inr ⟨_, _, _, _, rfl, rfl, hhead, htail⟩

theorem compressing : like.settings first.compressing second.compressing := by
  obtain ⟨hf, hs⟩ | ⟨scope, outer, other, rest, hf, hs, hhead, -⟩ := h.heads
  · simpa only [Assembly.compressing, hf, hs] using h.compressDefault
  · simpa only [Assembly.compressing, hf, hs] using hhead.compress

theorem inReplacement : first.inReplacement = second.inReplacement := by
  have hscopes := h.scopes
  simp only [Assembly.inReplacement]
  generalize first.scopes = scopes at hscopes ⊢
  generalize second.scopes = others at hscopes ⊢
  induction hscopes with
  | nil => rfl
  | cons hhead htail ih => simp only [List.any_cons, hhead.kind.isReplace, ih]

theorem inExtensionPoint : first.inExtensionPoint = second.inExtensionPoint := by
  have hscopes := h.scopes
  simp only [Assembly.inExtensionPoint]
  generalize first.scopes = scopes at hscopes ⊢
  generalize second.scopes = others at hscopes ⊢
  induction hscopes with
  | nil => rfl
  | cons hhead htail ih => simp only [List.any_cons, hhead.kind.isExtensionPoint, ih]

theorem alike : first.Alike second where
  resource := h.resource
  ids := h.ids
  isExtension := h.isExtension
  phase := h.phase
  inDoctype := h.inDoctype
  bindings := h.bindings
  head := by
    obtain ⟨hf, hs⟩ | ⟨scope, outer, other, rest, hf, hs, hhead, -⟩ := h.heads
    · rw [hf, hs]
      exact .none
    · rw [hf, hs]
      exact .some hhead.head
  inReplacement := h.inReplacement
  inExtensionPoint := h.inExtensionPoint

end Questions

theorem emit (h : Abreast like first second) {more : Array Token}
    (hmore : more.any (·.form.isSubstance) = true) :
    Abreast like (first.emit more) (second.emit more) :=
  { h with tokens := like.append _ _ _ h.tokens hmore }

theorem setOverride (h : Abreast like first second) (id : String) {tokens others : Array Token}
    (htokens : like.sequences tokens others) :
    Abreast like (first.setOverride id tokens) (second.setOverride id others) := by
  have htables : (first.overrides.getD IdTable.empty).Alike like.sequences
      (second.overrides.getD IdTable.empty) := by
    have hoverrides := h.overrides
    generalize first.overrides = overrides at hoverrides ⊢
    generalize second.overrides = more at hoverrides ⊢
    cases hoverrides with
    | none => exact IdTable.alike_empty _
    | some htable => exact htable
  exact { h with overrides := .some (htables.insert id htokens) }

theorem push (h : Abreast like first second) {kind other : ScopeKind}
    (hkind : KindLike like kind other) {compress setting : Bool}
    (hsettings : like.settings compress setting) (isComponent : Bool) :
    Abreast like (first.push kind compress isComponent) (second.push other setting isComponent) :=
  { h with scopes := .cons ⟨hsettings, rfl, hkind⟩ h.scopes }

theorem redirect (h : Abreast like first second) (id : String) {kind other : ScopeKind}
    (hkind : KindLike like kind other) {compress setting : Bool}
    (hsettings : like.settings compress setting) :
    Abreast like ({ first.setOverride id #[] with tokens := #[] }.pushBare kind compress)
      ({ second.setOverride id #[] with tokens := #[] }.pushBare other setting) := by
  have hemptied : Abreast like { first.setOverride id #[] with tokens := #[] }
      { second.setOverride id #[] with tokens := #[] } :=
    { h.setOverride id like.empty with tokens := like.empty }
  simp only [pushBare, hemptied.alike.inComponent]
  exact hemptied.push hkind hsettings _

theorem enter (h : Abreast like first second) {compress setting : Bool}
    (hsettings : like.settings compress setting) :
    Abreast like
      ({ first with phase := .inside, tokens := #[], ids := IdTable.empty }.pushBare
        .content compress)
      ({ second with phase := .inside, tokens := #[], ids := IdTable.empty }.pushBare
        .content setting) := by
  have hemptied : Abreast like
      { first with phase := .inside, tokens := #[], ids := IdTable.empty }
      { second with phase := .inside, tokens := #[], ids := IdTable.empty } :=
    { h with phase := rfl, tokens := like.empty, ids := rfl }
  simp only [pushBare, hemptied.alike.inComponent]
  exact hemptied.push (.same .content rfl) hsettings _

theorem closeElement (h : Abreast like first second) (location : Location) :
    Abreast like (first.closeElement location) (second.closeElement location) := by
  obtain ⟨hf, hs⟩ | ⟨scope, outer, other, rest, hf, hs, hhead, htail⟩ := h.heads
  · simpa only [Assembly.closeElement, hf, hs] using h
  · have hleft : Abreast like { first with scopes := outer } { second with scopes := rest } :=
      { h with scopes := htail }
    simp only [Assembly.closeElement, hf, hs]
    obtain ⟨compress, isComponent, kind⟩ := scope
    obtain ⟨setting, isPart, twin⟩ := other
    cases hhead.kind with
    | same kind hkind =>
        cases kind with
        | element => exact hleft.emit (by simp [TokenForm.isSubstance])
        | content => exact { hleft with phase := rfl }
        | body | remove | removed | extend | container => exact hleft
        | extensionPoint | replace => cases hkind
    | extensionPoint id hsaved | replace id hsaved =>
        have hback : ∀ {saved others : Array Token}, like.sequences saved others →
            Abreast like { first with scopes := outer, tokens := saved }
              { second with scopes := rest, tokens := others } :=
          fun hsequences => { hleft with tokens := hsequences }
        exact (hback hsaved).setOverride id h.tokens

def bond (like : Likeness) : Bond where
  Holds := Abreast like
  settings := like.settings
  same := like.same
  alike h := h.alike
  compressing h := h.compressing
  register h _ := { h with ids := rfl }
  extend h := { h with isExtension := rfl }
  attach h := { h with bindings := rfl }
  emit h _ hmore := h.emit hmore
  push h kind hregion _ _ _ hsettings isComponent := h.push (.same kind hregion) hsettings _
  enter h _ _ _ hsettings := h.enter hsettings
  redirect h id region hregion _ _ hsettings := by
    rcases hregion with rfl | rfl
    · exact h.redirect id (.extensionPoint id h.tokens) hsettings
    · exact h.redirect id (.replace id h.tokens) hsettings

end Abreast

section Settled

variable (assembly : Assembly)

@[simp] theorem isIdle_settled : assembly.settled.isIdle = assembly.isIdle := by
  simp [isIdle, inRemoved]

@[simp] theorem inBody_settled : assembly.settled.inBody = assembly.inBody := by
  simp [inBody]

@[simp] theorem placementFault?_settled (uri : Option String) (name : String) :
    assembly.settled.placementFault? uri name = assembly.placementFault? uri name := by
  simp [placementFault?, inReplacement, settled_isExtension]

@[simp] theorem needsVacancy_settled (role : ElementRole) :
    assembly.settled.needsVacancy role = assembly.needsVacancy role := by
  simp [needsVacancy, isDirectlyInExtend, settled_isExtension]

-- Text inside a removed element settles as it did outside.
theorem settled_bury :
    (assembly.push .removed assembly.compressing false).settled =
      assembly.settled.push .removed assembly.compressing false := by
  rw [settled_eq, settled_eq]
  rfl

end Settled

-- Whether an event begins an element that looks back at the sequence so far.
def looksBack (assembly : Assembly) (placed : PlacedEvent) : Bool :=
  match placed.event with
  | .elementStart uri name _ =>
    !assembly.isIdle && (assembly.placementFault? uri name).isNone &&
      assembly.needsVacancy (ElementRole.ofName uri name)
  | _ => false

-- The sequences that elements look back at, up to the first event that is refused.
def reviewed (assembly : Assembly) : List PlacedEvent → List (Array Token)
  | [] => []
  | placed :: rest =>
    (if assembly.looksBack placed then [assembly.settled.tokens] else []) ++
      match (assembly.step placed).fault with
      | some _ => []
      | none => (assembly.step placed).next.reviewed rest

theorem reviewed_of_refused {assembly : Assembly} {placed : PlacedEvent} {fault : Fault}
    (hfault : (assembly.step placed).fault = some fault) (rest : List PlacedEvent) :
    assembly.reviewed (placed :: rest) =
      if assembly.looksBack placed then [assembly.settled.tokens] else [] := by
  rw [reviewed, hfault, List.append_nil]

theorem reviewed_of_accepted {assembly : Assembly} {placed : PlacedEvent}
    (hfault : (assembly.step placed).fault = none) (rest : List PlacedEvent) :
    assembly.reviewed (placed :: rest) =
      (if assembly.looksBack placed then [assembly.settled.tokens] else []) ++
        (assembly.step placed).next.reviewed rest := by
  rw [reviewed, hfault]

-- An element that looks back is refused where the sequence has content.
theorem hasContent_of_looksBack {assembly : Assembly} {placed : PlacedEvent}
    (hlooks : assembly.looksBack placed = true) (hfault : (assembly.step placed).fault = none) :
    assembly.settled.hasContent = false := by
  have hmove := move_of_step hfault
  generalize (assembly.step placed).next = next at hmove
  obtain ⟨line, event⟩ := placed
  cases event with
  | elementStart uri name attributes =>
      simp only [looksBack, Bool.and_eq_true, Bool.not_eq_true'] at hlooks
      obtain ⟨⟨hidle, -⟩, hvacancy⟩ := hlooks
      cases hmove with
      | pass event hmark htag hprose =>
          rw [isIdle_of_unheard (htag rfl)] at hidle
          cases hidle
      | bury uri name attributes hphase hdoctype hremoved =>
          rw [isIdle_of_inRemoved hremoved] at hidle
          cases hidle
      | start uri name attributes next hphase hdoctype hremoved hplace hopening =>
          cases hopening with
          | extend hrole hroot => exact hroot
          | container hrole hroot => exact hroot
          | replace id hrole hid hextension hinside hfirst => exact hfirst
          | output element componentType component ids hrole hread hids =>
              unfold needsVacancy at hvacancy
              split at hvacancy <;> simp_all [ElementRole.output?]
          | remove hrole | content hrole | extensionPoint _ hrole | body hrole | block _ hrole
          | parameter _ hrole | blockParameter hrole =>
              rw [hrole] at hvacancy
              cases hvacancy
  | _ => cases hlooks

-- Two assemblies that are abreast as soon as their pending text has settled.
structure InStep (like : Likeness) (first second : Assembly) : Prop where
  settled : Abreast like first.settled second.settled
  texts : like.texts first.pending second.pending

theorem Abreast.inStep (h : Abreast like first second) (hfirst : first.pending = none)
    (hsecond : second.pending = none) : InStep like first second := by
  refine ⟨?_, ?_⟩
  · rwa [settled_of_none hfirst, settled_of_none hsecond]
  · rw [hfirst, hsecond]
    exact like.unchanged none

theorem inStep_start {like : Likeness} (resource : String) {compress setting : Bool}
    (hsettings : like.settings compress setting) :
    InStep like (start resource compress) (start resource setting) := by
  refine Abreast.inStep ?_ rfl rfl
  exact {
    resource := rfl
    compressDefault := hsettings
    tokens := like.empty
    overrides := .none
    ids := rfl
    isExtension := rfl
    scopes := .nil
    phase := rfl
    inDoctype := rfl
    bindings := rfl }

-- One assembly is another one with other tokens and other pending text.
def Retexts (next assembly : Assembly) : Prop :=
  next = { assembly with tokens := next.tokens, pending := next.pending }

theorem retexts_settled (assembly : Assembly) : assembly.settled.Retexts assembly := by
  rw [Retexts, settled_eq]

theorem Retexts.replaced {next assembly : Assembly} (h : next.Retexts assembly)
    (tokens : Array Token) (pending : Option PendingText) :
    { next with tokens := tokens, pending := pending }.Retexts assembly := by
  rw [Retexts] at h ⊢
  rw [h]

theorem Retexts.settled_eq {next assembly : Assembly} (h : next.Retexts assembly) :
    next.settled = { assembly.settled with tokens := next.settled.tokens } := by
  rw [Assembly.settled_eq assembly, Assembly.settled_eq next]
  rw [Retexts] at h
  generalize next.tokens ++ next.settlement = tokens
  rw [h]

namespace InStep

section Questions

variable (h : InStep like first second)

include h

theorem isIdle : first.isIdle = second.isIdle := by
  simpa using h.settled.alike.isIdle

theorem inBody : first.inBody = second.inBody := by
  simpa using h.settled.alike.inBody

theorem resource : first.resource = second.resource := by
  simpa using h.settled.resource

theorem phase : first.phase = second.phase := by
  simpa using h.settled.phase

theorem inDoctype : first.inDoctype = second.inDoctype := by
  simpa using h.settled.inDoctype

theorem bindings : first.bindings = second.bindings := by
  simpa using h.settled.bindings

theorem compressing : like.settings first.compressing second.compressing := by
  simpa using h.settled.compressing

theorem placementFault? (uri : Option String) (name : String) :
    first.placementFault? uri name = second.placementFault? uri name := by
  simpa using h.settled.alike.placementFault? uri name

theorem inRemoved : first.inRemoved = second.inRemoved := by
  simpa [Assembly.inRemoved] using h.settled.alike.inRemoved

theorem looksBack (placed : PlacedEvent) : first.looksBack placed = second.looksBack placed := by
  have hextension : first.isExtension = second.isExtension := by
    simpa [settled_isExtension] using h.settled.isExtension
  have hinside : first.isDirectlyInExtend = second.isDirectlyInExtend := by
    simpa [Assembly.isDirectlyInExtend] using h.settled.alike.isDirectlyInExtend
  obtain ⟨line, event⟩ := placed
  cases event with
  | elementStart uri name attributes =>
      simp only [Assembly.looksBack, needsVacancy, h.isIdle, h.placementFault?, hextension, hinside]
  | _ => rfl

end Questions

theorem retext {next other : Assembly} (h : InStep like first second)
    (hnext : next.Retexts first) (hother : other.Retexts second)
    (htokens : like.sequences next.settled.tokens other.settled.tokens)
    (htexts : like.texts next.pending other.pending) : InStep like next other := by
  have hsettled : Abreast like { first.settled with tokens := next.settled.tokens }
      { second.settled with tokens := other.settled.tokens } :=
    { h.settled with tokens := htokens }
  rw [← hnext.settled_eq, ← hother.settled_eq] at hsettled
  exact ⟨hsettled, htexts⟩

theorem setDoctype (h : InStep like first second) (inside : Bool) :
    InStep like { first with inDoctype := inside } { second with inDoctype := inside } := by
  refine ⟨?_, h.texts⟩
  have hsettled := h.settled
  rw [settled_eq, settled_eq] at hsettled ⊢
  exact { hsettled with inDoctype := rfl }

theorem binding (h : InStep like first second) (label uri : String) (location : Location) :
    InStep like (first.binding label uri location) (second.binding label uri location) := by
  simp only [Assembly.binding, ← h.isIdle, ← h.bindings]
  split
  · exact h
  · refine ⟨?_, h.texts⟩
    have hsettled := h.settled
    rw [settled_eq, settled_eq] at hsettled ⊢
    exact { hsettled with bindings := rfl }

theorem elementStart (h : InStep like first second) (line : Option Nat) (uri : Option String)
    (name : String) (attributes : List Attribute) (location : Location)
    (hcontent : first.looksBack ⟨line, .elementStart uri name attributes⟩ = true →
      first.settled.hasContent = second.settled.hasContent) :
    (first.elementStart uri name attributes location).fault =
        (second.elementStart uri name attributes location).fault ∧
      InStep like (first.elementStart uri name attributes location).next
        (second.elementStart uri name attributes location).next := by
  simp only [Assembly.elementStart_eq, ← h.phase, ← h.inDoctype, ← h.inRemoved, ← h.placementFault?]
  split
  · exact ⟨rfl, h⟩
  · rename_i hheard
    simp only [Bool.or_eq_true, decide_eq_true_eq, not_or, Bool.not_eq_true] at hheard
    split
    · refine ⟨rfl, ?_, h.texts⟩
      simp only [Reaction.accepted, settled_bury]
      exact h.settled.push (.same .removed rfl) h.compressing false
    · rename_i hremoved
      have hidle := isIdle_eq_false hheard.1 hheard.2 (by simpa using hremoved)
      cases hplace : first.placementFault? uri name with
      | some rule => exact ⟨rfl, h⟩
      | none =>
          have hheld : (Abreast.bond like).Holds first.settled second.settled := h.settled
          have hboth := Bond.agree_openByRole hheld uri name attributes location fun hvacancy =>
            hcontent (by simpa [Assembly.looksBack, hidle, hplace] using hvacancy)
          dsimp only
          generalize hfirst : first.settled.openByRole uri name attributes location = opened
            at hboth ⊢
          generalize hsecond : second.settled.openByRole uri name attributes location = other
            at hboth ⊢
          cases hboth with
          | error fault =>
              exact ⟨rfl, h.settled.inStep (settled_pending _) (settled_pending _)⟩
          | ok hopened =>
              refine ⟨rfl, hopened.inStep ?_ ?_⟩
              · exact (opening_of_openByRole hfirst).pending_eq.trans (settled_pending _)
              · exact (opening_of_openByRole hsecond).pending_eq.trans (settled_pending _)

theorem elementEnd (h : InStep like first second) (location : Location) :
    InStep like (first.elementEnd location) (second.elementEnd location) := by
  simp only [Assembly.elementEnd, ← h.phase, ← h.inDoctype]
  split
  · exact h
  · refine (h.settled.closeElement location).inStep ?_ ?_
    · exact (closing_closeElement _ _).pending_eq.trans (settled_pending _)
    · exact (closing_closeElement _ _).pending_eq.trans (settled_pending _)

end InStep

-- The token of a character data section that ends.
def sectionToken (assembly : Assembly) (location : Location) : Token :=
  let pending := assembly.pending.getD ⟨"", location⟩
  ⟨.cdata pending.text, pending.location⟩

-- A likeness that text, character data sections and document types keep.
structure Likeness.Tracks (like : Likeness) : Prop where
  gather : ∀ {first second : Assembly}, InStep like first second → ∀ text location,
    like.sequences
        { first with pending := some (first.gathered text location) }.settled.tokens
        { second with pending := some (second.gathered text location) }.settled.tokens ∧
      like.texts (some (first.gathered text location)) (some (second.gathered text location))
  cdata : ∀ {first second : Assembly}, InStep like first second → ∀ location,
    like.sequences (first.tokens ++ #[first.sectionToken location])
      (second.tokens ++ #[second.sectionToken location])
  doctype : ∀ {first second : Assembly}, InStep like first second →
    ∀ token : Token, token.isDoctype = true →
      like.sequences (first.emit #[token]).settled.tokens (second.emit #[token]).settled.tokens

-- An event that is no comment has the same result in both, and they stay in step, if an element
-- that looks back finds the same in both.
theorem InStep.step (h : InStep like first second) (htracks : like.Tracks) (placed : PlacedEvent)
    (hcomment : placed.event.isComment = false)
    (hcontent : first.looksBack placed = true →
      first.settled.hasContent = second.settled.hasContent) :
    (first.step placed).fault = (second.step placed).fault ∧
      InStep like (first.step placed).next (second.step placed).next := by
  obtain ⟨line, event⟩ := placed
  simp only [Assembly.step, ← place_congr h.resource]
  generalize first.place line = location
  cases event with
  | documentStart | documentEnd => exact ⟨rfl, h⟩
  | elementStart uri name attributes =>
      exact h.elementStart line uri name attributes location hcontent
  | elementEnd uri name => exact ⟨rfl, h.elementEnd location⟩
  | text content =>
      simp only [react_characters, characters_eq, ← h.isIdle, ← h.inBody]
      split
      · exact ⟨rfl, h⟩
      · split
        · exact ⟨rfl, h⟩
        · obtain ⟨htokens, htexts⟩ := htracks.gather h content location
          exact ⟨rfl, h.retext rfl rfl htokens htexts⟩
  | comment content => cases hcomment
  | cdataStart =>
      simp only [cdataStart, ← h.isIdle]
      split
      · exact ⟨rfl, h⟩
      · refine ⟨rfl, h.retext ((retexts_settled first).replaced _ _)
          ((retexts_settled second).replaced _ _) ?_ (like.unchanged (some ⟨"", location⟩))⟩
        simpa only [Reaction.accepted, settled_tokens_begun] using h.settled.tokens
  | cdataEnd =>
      simp only [cdataEnd, ← h.isIdle]
      split
      · exact ⟨rfl, h⟩
      · exact ⟨rfl, h.retext rfl rfl (htracks.cdata h location) (like.unchanged none)⟩
  | doctypeStart name publicId systemId =>
      have hmarked : InStep like (first.emitOne (.doctype name publicId systemId) location)
          (second.emitOne (.doctype name publicId systemId) location) :=
        h.retext rfl rfl (htracks.doctype h ⟨.doctype name publicId systemId, location⟩ rfl) h.texts
      exact ⟨rfl, hmarked.setDoctype true⟩
  | doctypeEnd => exact ⟨rfl, h.setDoctype false⟩
  | binding label uri => exact ⟨rfl, h.binding label uri location⟩

end Assembly

end TemplateMarkup
