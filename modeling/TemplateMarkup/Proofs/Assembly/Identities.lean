import TemplateMarkup.Proofs.Assembly.Balance
import TemplateMarkup.Proofs.Region.Ledger

namespace TemplateMarkup

-- The id that a token gives a component, and where.
def Token.identity? (token : Token) : Option (String × Location) :=
  match token.form with
  | .startComponent _ (some id) _ _ => some (id, token.location)
  | _ => none

theorem Token.identity?_of_isFlat {token : Token} (h : token.isFlat = true) :
    token.identity? = none := by
  obtain ⟨form, location⟩ := token
  cases form <;> first | rfl | cases h

-- The ids of the components that tokens open.
def identities (tokens : Array Token) : List (String × Location) :=
  tokens.toList.filterMap Token.identity?

@[simp] theorem identities_empty : identities #[] = [] := rfl

theorem identities_append (first second : Array Token) :
    identities (first ++ second) = identities first ++ identities second := by
  simp [identities]

theorem identities_eq_nil {tokens : Array Token} (h : ∀ token ∈ tokens, token.identity? = none) :
    identities tokens = [] := by
  rw [identities, List.filterMap_eq_nil_iff]
  exact fun token hm => h token (Array.mem_toList_iff.mp hm)

-- The ids of all components of a template, in the main sequence and in the overrides.
def Template.identities (template : Template) : List (String × Location) :=
  TemplateMarkup.identities template.tokens ++
    (template.overrides.getD IdTable.empty).toList.flatMap fun entry =>
      TemplateMarkup.identities entry.2

-- Only the start of an output element may name a component.
theorem identities_startTokens {component : Component} {uri element componentType : Option String}
    {attributes : List Attribute} {location : Location} {bindings : Array Token}
    (hread : (Component.ofType componentType).readAll location attributes = .ok component)
    (hbindings : ∀ token ∈ bindings, token.isFlat = true) :
    identities (Assembly.startTokens component uri element bindings location) =
      (component.id.map fun id => (id, location)).toList := by
  have hpassed : ∀ token ∈ component.passed, token.identity? = none := by
    intro token hm
    rcases Component.mem_passed hread hm with hm | ⟨uri, name, value, rfl⟩
    · exact absurd hm (Array.not_mem_empty _)
    · rfl
  have hbound : ∀ token ∈ bindings, token.identity? = none := fun token hm =>
    Token.identity?_of_isFlat (hbindings token hm)
  rw [Assembly.startTokens, identities_append, identities_append, identities_eq_nil hbound,
    identities_eq_nil hpassed, List.append_nil, List.append_nil]
  cases hid : component.id with
  | none =>
      have hnone : Token.identity? ⟨component.startForm uri element, location⟩ = none := by
        unfold Component.startForm
        split <;> simp [Token.identity?, hid]
      simp [identities, hnone]
  | some id =>
      have hsome : Token.identity? ⟨component.startForm uri element, location⟩ =
          some (id, location) := by
        simp [Token.identity?, Component.startForm, Component.isComponent, hid]
      simp [identities, hsome]

namespace Assembly

variable {assembly next : Assembly} {known fresh : List (String × Location)}

-- The components in the sequences that open regions put aside. What is outside the content
-- element never comes back.
def savedIdentities : List Scope → List (String × Location)
  | [] => []
  | scope :: outer =>
    match scope.kind with
    | .content => []
    | .extensionPoint _ saved | .replace _ saved => identities saved ++ savedIdentities outer
    | _ => savedIdentities outer

def overrideIdentities (assembly : Assembly) : List (String × Location) :=
  assembly.overrideTable.toList.flatMap fun entry => identities entry.2

-- The components that the template may still show.
def heldIdentities (assembly : Assembly) : List (String × Location) :=
  identities assembly.tokens ++
    ((if assembly.phase = .over then [] else savedIdentities assembly.scopes) ++
      assembly.overrideIdentities)

-- The components are those that have been noted since the content element began, or that were in
-- overrides then.
def Noted (assembly : Assembly) (known : List (String × Location)) : Prop :=
  ∃ fresh, assembly.heldIdentities.Subperm (fresh ++ known) ∧ assembly.ids.Indexes fresh

theorem Noted.of_subperm (h : assembly.Noted known)
    (hheld : next.heldIdentities.Subperm assembly.heldIdentities) (hids : next.ids = assembly.ids) :
    next.Noted known := by
  obtain ⟨fresh, hsubperm, hindexes⟩ := h
  exact ⟨fresh, hheld.trans hsubperm, hids ▸ hindexes⟩

-- Tokens that name no component change nothing.
theorem Noted.of_unnamed {more : Array Token} (h : assembly.Noted known)
    (hunnamed : ∀ token ∈ more, token.identity? = none)
    (htokens : next.tokens = assembly.tokens ++ more)
    (hscopes : savedIdentities next.scopes = savedIdentities assembly.scopes)
    (hphase : next.phase = assembly.phase) (hoverrides : next.overrides = assembly.overrides)
    (hids : next.ids = assembly.ids) : next.Noted known := by
  refine h.of_subperm (List.Perm.of_eq ?_).subperm hids
  simp only [heldIdentities, overrideIdentities, overrideTable, htokens, hscopes, hphase,
    hoverrides, identities_append, identities_eq_nil hunnamed, List.append_nil]

theorem Noted.settled (h : assembly.Noted known) : assembly.settled.Noted known := by
  have hunnamed : ∀ token ∈ assembly.settlement, token.identity? = none := fun token hm =>
    Token.identity?_of_isFlat (assembly.settlement_isFlat token (Array.mem_toList_iff.mpr hm))
  exact h.of_unnamed hunnamed (settled_tokens _) (by rw [settled_scopes]) (settled_phase _)
    (settled_overrides _) (by rw [settled_eq])

theorem overrideIdentities_setOverride (assembly : Assembly) (id : String) (tokens : Array Token) :
    (assembly.setOverride id tokens).overrideIdentities.Subperm
      (identities tokens ++ assembly.overrideIdentities) := by
  rw [overrideIdentities, overrideTable_setOverride]
  exact IdTable.flatMap_insert_subperm identities assembly.overrideTable id tokens

-- An id is noted only if no other component has it.
theorem register_cases {id : Option String} {location : Location}
    (h : assembly.register id location = .ok next) :
    id = none ∧ next.ids = assembly.ids ∨
      ∃ name, id = some name ∧ assembly.ids.get? name = none ∧
        next.ids = assembly.ids.insert name location := by
  cases id with
  | none =>
      cases h
      exact .inl ⟨rfl, rfl⟩
  | some name =>
      simp only [register_eq] at h
      cases hget : assembly.ids.get? name with
      | some first => rw [hget] at h; cases h
      | none =>
          rw [hget] at h
          cases h
          exact .inr ⟨name, rfl, hget, rfl⟩

theorem Noted.openOutput {registered : Assembly} {component : Component}
    {uri element componentType : Option String} {attributes : List Attribute}
    {location : Location} (h : assembly.Noted known)
    (hbindings : ∀ token ∈ assembly.bindings, token.isFlat = true)
    (hread : (Component.ofType componentType).readAll location attributes = .ok component)
    (hids : assembly.register component.id location = .ok registered)
    (htokens : next.tokens = assembly.tokens ++
      startTokens component uri element assembly.bindings location)
    (hscopes : savedIdentities next.scopes = savedIdentities assembly.scopes)
    (hphase : next.phase = assembly.phase) (hoverrides : next.overrides = assembly.overrides)
    (hnext : next.ids = registered.ids) : next.Noted known := by
  obtain ⟨fresh, hsubperm, hindexes⟩ := h
  have hheld : next.heldIdentities.Perm
      ((component.id.map fun id => (id, location)).toList ++ assembly.heldIdentities) := by
    simp only [heldIdentities, overrideIdentities, overrideTable, htokens, hscopes, hphase,
      hoverrides, identities_append, identities_startTokens hread hbindings]
    rw [List.append_assoc]
    exact List.perm_append_comm_assoc _ _ _
  have hmore := hheld.subperm.trans ((List.subperm_append_left _).mpr hsubperm)
  rw [← List.append_assoc] at hmore
  refine ⟨_, hmore, ?_⟩
  rcases register_cases hids with ⟨hid, hsame⟩ | ⟨id, hid, hnew, hinserted⟩
  · rw [hid, hnext, hsame]
    exact hindexes
  · rw [hid, hnext, hinserted]
    exact hindexes.insert hnew location

-- Tokens that a region puts aside are still held.
theorem Noted.openRegion {id : String} (h : assembly.Noted known) (hphase : assembly.phase ≠ .over)
    (htokens : next.tokens = #[])
    (hscopes : savedIdentities next.scopes =
      identities assembly.tokens ++ savedIdentities assembly.scopes)
    (hsame : next.phase = assembly.phase)
    (hoverrides : next.overrides = (assembly.setOverride id #[]).overrides)
    (hids : next.ids = assembly.ids) : next.Noted known := by
  have hemptied : next.overrideIdentities.Subperm assembly.overrideIdentities := by
    rw [overrideIdentities, overrideTable, hoverrides]
    exact overrideIdentities_setOverride assembly id #[]
  refine h.of_subperm ?_ hids
  simp only [heldIdentities, hsame, if_neg hphase, htokens, hscopes, identities_empty,
    List.nil_append, List.append_assoc]
  exact (List.subperm_append_left _).mpr ((List.subperm_append_left _).mpr hemptied)

-- What was put aside comes back, and what the region took becomes an override.
theorem Noted.closeRegion {id : String} {saved : Array Token} (h : assembly.Noted known)
    (hphase : assembly.phase ≠ .over) (htokens : next.tokens = saved)
    (hscopes : savedIdentities assembly.scopes =
      identities saved ++ savedIdentities next.scopes)
    (hsame : next.phase = assembly.phase)
    (hoverrides : next.overrides = (assembly.setOverride id assembly.tokens).overrides)
    (hids : next.ids = assembly.ids) : next.Noted known := by
  have htaken : next.overrideIdentities.Subperm
      (identities assembly.tokens ++ assembly.overrideIdentities) := by
    rw [overrideIdentities, overrideTable, hoverrides]
    exact overrideIdentities_setOverride assembly id assembly.tokens
  refine h.of_subperm ?_ hids
  simp only [heldIdentities, hsame, if_neg hphase, htokens, hscopes, List.append_assoc]
  have hinner : (identities saved ++ (savedIdentities next.scopes ++
      next.overrideIdentities)).Subperm (identities saved ++ (savedIdentities next.scopes ++
        (identities assembly.tokens ++ assembly.overrideIdentities))) :=
    (List.subperm_append_left _).mpr ((List.subperm_append_left _).mpr htaken)
  have hmoved : (identities saved ++ (savedIdentities next.scopes ++
      (identities assembly.tokens ++ assembly.overrideIdentities))).Perm
        (identities assembly.tokens ++ (identities saved ++ (savedIdentities next.scopes ++
          assembly.overrideIdentities))) := by
    rw [← List.append_assoc, ← List.append_assoc (identities saved)]
    exact List.perm_append_comm_assoc _ _ _
  exact hinner.trans hmoved.subperm

theorem Noted.opening {uri : Option String} {name : String} {attributes : List Attribute}
    {compress : Bool} {location : Location} (h : assembly.Noted known)
    (hbindings : ∀ token ∈ assembly.bindings, token.isFlat = true)
    (hphase : assembly.phase ≠ .over)
    (hrole : ElementRole.ofName uri name ≠ .directive .content)
    (ho : Opening assembly uri name attributes compress location next) : next.Noted known := by
  cases ho with
  | output element componentType component ids hout hread hids =>
      exact h.openOutput hbindings hread hids rfl rfl rfl rfl rfl
  | content hcontent hinside => exact absurd hcontent hrole
  | extensionPoint id hdirective hid hnested =>
      have hmarked : identities (assembly.tokens ++ #[(⟨.extensionPoint id, location⟩ : Token)]) =
          identities assembly.tokens := by
        rw [identities_append]
        exact List.append_nil _
      refine h.openRegion hphase rfl ?_ rfl rfl rfl
      rw [← hmarked]
      rfl
  | replace id hdirective hid hextension hinside hfirst =>
      exact h.openRegion hphase rfl rfl rfl rfl rfl
  | remove | extend | container => exact h.of_subperm (List.Subperm.refl _) rfl
  | body hdirective => exact h.of_unnamed (by simp; rfl) rfl rfl rfl rfl rfl
  | block id hdirective hid hvalid => exact h.of_unnamed (by simp; rfl) rfl rfl rfl rfl rfl
  | parameter label hdirective hlabel hinside =>
      exact h.of_unnamed (by simp; rfl) rfl rfl rfl rfl rfl
  | blockParameter hdirective hbare hinside =>
      exact h.of_unnamed (by simp; rfl) rfl rfl rfl rfl rfl

theorem Noted.closing {location : Location} (h : assembly.Noted known)
    (hphase : assembly.phase ≠ .over) (hc : Closing assembly location next) : next.Noted known := by
  cases hc with
  | stray hscopes => exact h
  | element compress isComponent outer hscopes =>
      exact h.of_unnamed (by simp; rfl) rfl (by rw [hscopes]; rfl) rfl rfl rfl
  | content compress isComponent outer hscopes =>
      refine h.of_subperm (List.Perm.of_eq ?_).subperm rfl
      simp only [heldIdentities, if_neg hphase, hscopes, savedIdentities]
      rfl
  | region scope outer id saved hscopes hkind =>
      refine h.closeRegion hphase (rfl : _ = saved) ?_ rfl rfl rfl
      obtain ⟨compress, isComponent, kind⟩ := scope
      cases kind with
      | extensionPoint | replace => cases hkind; rw [hscopes]; rfl
      | _ => cases hkind
  | bare scope outer hscopes hkind =>
      have hnothing : ∀ token ∈ (#[] : Array Token), token.identity? = none := by simp
      refine h.of_unnamed hnothing (by simp) ?_ rfl rfl rfl
      obtain ⟨compress, isComponent, kind⟩ := scope
      cases kind with
      | body | remove | removed | extend | container => rw [hscopes]; rfl
      | _ => cases hkind

-- A content element begins with no components but those of the overrides.
theorem noted_of_content (assembly : Assembly) (compress : Bool) :
    ({ assembly with phase := .inside, tokens := #[], ids := IdTable.empty }.pushBare
      .content compress).Noted assembly.overrideIdentities :=
  ⟨[], List.Subperm.refl _, IdTable.indexes_nil _⟩

theorem startsContent_of_isIdle {placed : PlacedEvent} (h : assembly.isIdle = true) :
    assembly.startsContent placed = false := by
  unfold startsContent
  split
  · simp [h]
  · rfl

-- The components that are known from before the content element once an event is taken in.
def stranded (assembly : Assembly) (placed : PlacedEvent) (known : List (String × Location)) :
    List (String × Location) :=
  if assembly.startsContent placed then assembly.overrideIdentities else known

theorem Noted.start {line : Option Nat} {uri : Option String} {name : String}
    {attributes : List Attribute} {location : Location} (h : assembly.Noted known)
    (hlevel : assembly.Level) (hidle : assembly.isIdle = false)
    (ho : Opening assembly.settled uri name attributes
      ((Attribute.compression? attributes).getD assembly.settled.compressing) location next) :
    next.Noted (assembly.stranded ⟨line, .elementStart uri name attributes⟩ known) := by
  have hphase : assembly.settled.phase ≠ .over := by
    intro hover
    rw [settled_phase] at hover
    simp [isIdle, hover] at hidle
  by_cases hrole : ElementRole.ofName uri name = .directive .content
  · have hstarts : assembly.startsContent ⟨line, .elementStart uri name attributes⟩ = true := by
      simp [startsContent, hidle, hrole]
    have hsame : assembly.settled.overrideIdentities = assembly.overrideIdentities := by
      simp only [overrideIdentities, overrideTable, settled_overrides]
    rw [stranded, if_pos hstarts, ← hsame]
    cases ho with
    | content hcontent hinside => exact noted_of_content _ _
    | output element componentType component ids hout hread hids =>
        rw [hrole] at hout
        cases hout
    | _ => simp_all
  · have hstarts : assembly.startsContent ⟨line, .elementStart uri name attributes⟩ = false := by
      simp [startsContent, hrole]
    rw [stranded, hstarts]
    exact h.settled.opening (settled_bindings assembly ▸ hlevel.bindings) hphase hrole ho

theorem Noted.move {placed : PlacedEvent} (h : assembly.Noted known) (hlevel : assembly.Level)
    (hmove : Move assembly (assembly.place placed.line) placed.event next) :
    next.Noted (assembly.stranded placed known) := by
  obtain ⟨line, event⟩ := placed
  cases hmove with
  | pass event hmark htag hprose =>
      have hstarts : assembly.startsContent ⟨line, event⟩ = false := by
        cases event with
        | elementStart uri name attributes =>
            exact startsContent_of_isIdle (isIdle_of_unheard (htag rfl))
        | _ => rfl
      rw [stranded, hstarts]
      exact h
  | bury uri name attributes hphase hdoctype hremoved =>
      rw [stranded, startsContent_of_isIdle (isIdle_of_inRemoved hremoved)]
      exact h.of_subperm (List.Subperm.refl _) rfl
  | start uri name attributes next hphase hdoctype hremoved hplace hopening =>
      exact h.start hlevel (isIdle_eq_false hphase hdoctype hremoved) hopening
  | finish uri name next hphase hdoctype hclosing =>
      exact h.settled.closing (by simpa using hphase) hclosing
  | gather text pending hidle hbody => exact h
  | comment text hidle => exact h.settled.of_unnamed (by simp; rfl) rfl rfl rfl rfl rfl
  | cdataStart hidle => exact h.settled
  | cdataEnd pending hidle hpending => exact h.of_unnamed (by simp; rfl) rfl rfl rfl rfl rfl
  | doctypeStart name publicId systemId =>
      exact h.of_unnamed (by simp; rfl) rfl rfl rfl rfl rfl
  | doctypeEnd => exact h
  | bind label uri hidle => exact h

-- The components that overrides hold where a content element begins. The element starts a table
-- of ids that does not know them.
def strandedIdentities (assembly : Assembly) : List PlacedEvent → List (String × Location)
  | [] => []
  | placed :: rest =>
    assembly.stranded placed [] ++ (assembly.step placed).next.strandedIdentities rest

theorem noted_of_feed {resource : String} {compress : Bool} {events : List PlacedEvent}
    {final : Assembly} (h : (start resource compress).feed events = .ok final) :
    ∃ known, final.Noted known ∧
      known.Sublist ((start resource compress).strandedIdentities events) := by
  have hrun : final.Level ∧ ∃ known, final.Noted known ∧
      (known ++ final.strandedIdentities []).Sublist
        ((start resource compress).strandedIdentities events) := by
    refine feed_induction (motive := fun reached rest => reached.Level ∧ ∃ known,
      reached.Noted known ∧ (known ++ reached.strandedIdentities rest).Sublist
        ((start resource compress).strandedIdentities events)) h ?_ ?_
    · refine ⟨level_start resource compress, [], ⟨[], List.Subperm.refl _, ?_⟩, List.Sublist.refl _⟩
      exact IdTable.indexes_nil _
    · rintro before placed rest ⟨hlevel, known, hnoted, hall⟩ hmove
      refine ⟨hlevel.move hmove, _, hnoted.move hlevel hmove, List.Sublist.trans ?_ hall⟩
      rw [strandedIdentities, ← List.append_assoc]
      refine List.Sublist.append_right ?_ _
      unfold stranded
      split
      · exact List.sublist_append_right _ _
      · exact List.sublist_append_left _ _
  obtain ⟨-, known, hnoted, hall⟩ := hrun
  exact ⟨known, hnoted, (List.append_nil known) ▸ hall⟩

end Assembly

namespace EventStream

-- All components of a template but those that were stranded in overrides have ids of their own,
-- which the template's table knows with the places of the components.
theorem assemble_noted {events : List PlacedEvent} {resource : String} {compress : Bool}
    {template : Template}
    (h : (EventStream.mk events none).assemble resource compress = .ok template) :
    ∃ fresh, template.identities.Subperm
        (fresh ++ (Assembly.start resource compress).strandedIdentities events) ∧
      template.ids.Indexes fresh := by
  obtain ⟨final, hfeed, rfl⟩ := assemble_ok h
  obtain ⟨known, hnoted, hall⟩ := Assembly.noted_of_feed hfeed
  obtain ⟨fresh, hheld, hindexes⟩ := hnoted.settled
  refine ⟨fresh, List.Subperm.trans ?_ (hheld.trans ?_), hindexes⟩
  · exact ((List.sublist_append_right _ _).append_left _).subperm
  · exact (hall.append_left _).subperm

-- The ids of a template index all of its components, in the main sequence and in the overrides,
-- unless a content element begins while an override holds a component with an id.
theorem assemble_indexes {events : List PlacedEvent} {resource : String} {compress : Bool}
    {template : Template}
    (h : (EventStream.mk events none).assemble resource compress = .ok template)
    (hstranded : (Assembly.start resource compress).strandedIdentities events = []) :
    template.ids.Indexes template.identities := by
  obtain ⟨fresh, hsubperm, hindexes⟩ := assemble_noted h
  rw [hstranded, List.append_nil] at hsubperm
  exact hindexes.subperm hsubperm

-- A component that the content element drops, and one of the same id in an override inside.
def droppedComponent : List PlacedEvent := [
  ⟨some 1, .elementStart none "p" [⟨some Naming.templateUri51, "id", "x"⟩]⟩,
  ⟨some 1, .elementEnd none "p"⟩,
  ⟨some 2, .elementStart (some Naming.templateUri51) "content" []⟩,
  ⟨some 2, .elementStart (some Naming.templateUri51) "extension-point" [⟨none, "id", "a"⟩]⟩,
  ⟨some 3, .elementStart none "p" [⟨some Naming.templateUri51, "id", "X"⟩]⟩,
  ⟨some 3, .elementEnd none "p"⟩,
  ⟨some 4, .elementEnd (some Naming.templateUri51) "extension-point"⟩,
  ⟨some 4, .elementEnd (some Naming.templateUri51) "content"⟩]

theorem indexes_droppedComponent :
    ∃ template, (EventStream.mk droppedComponent none).assemble "T.tml" true = .ok template ∧
      (Assembly.start "T.tml" true).strandedIdentities droppedComponent = [] ∧
      template.ids.Indexes template.identities := by
  obtain ⟨template, h⟩ := exists_template
    (show ((EventStream.mk droppedComponent none).assemble "T.tml" true).toBool = true by
      decide +kernel)
  have hstranded : (Assembly.start "T.tml" true).strandedIdentities droppedComponent = [] := by
    decide +kernel
  exact ⟨template, h, hstranded, assemble_indexes h hstranded⟩

-- A component in an override, and one of the same id in the content element behind it.
def strandedComponent : List PlacedEvent := [
  ⟨some 1, .elementStart none "div" []⟩,
  ⟨some 1, .elementStart (some Naming.templateUri51) "extension-point" [⟨none, "id", "a"⟩]⟩,
  ⟨some 2, .elementStart none "p" [⟨some Naming.templateUri51, "id", "x"⟩]⟩,
  ⟨some 2, .elementEnd none "p"⟩,
  ⟨some 2, .elementEnd (some Naming.templateUri51) "extension-point"⟩,
  ⟨some 3, .elementStart (some Naming.templateUri51) "content" []⟩,
  ⟨some 3, .elementStart none "b" [⟨some Naming.templateUri51, "id", "X"⟩]⟩,
  ⟨some 3, .elementEnd none "b"⟩,
  ⟨some 3, .elementEnd (some Naming.templateUri51) "content"⟩,
  ⟨some 3, .elementEnd none "div"⟩]

-- Two components of a template may have one id, of which the table knows the second alone.
theorem not_indexes_strandedComponent :
    ¬ ∀ (events : List PlacedEvent) (resource : String) (compress : Bool) (template : Template),
      (EventStream.mk events none).assemble resource compress = .ok template →
      elementsClosed events = true → template.ids.Indexes template.identities := by
  intro hall
  obtain ⟨template, h⟩ := exists_template
    (show ((EventStream.mk strandedComponent none).assemble "T.tml" true).toBool = true by
      decide +kernel)
  have hindexes := hall strandedComponent "T.tml" true template h (by decide)
  have hidentities : ((EventStream.mk strandedComponent none).assemble "T.tml" true).toOption.map
      (·.identities) = some [("X", ⟨"T.tml", some 3⟩), ("x", ⟨"T.tml", some 2⟩)] := by
    decide +kernel
  rw [h, Except.toOption, Option.map_some, Option.some.injEq] at hidentities
  have hdistinct := hindexes.distinct
  rw [hidentities] at hdistinct
  exact (List.pairwise_cons.mp hdistinct).1 _ List.mem_cons_self (by decide +kernel)

end EventStream

end TemplateMarkup
