import TemplateMarkup.Proofs.Assembly.Extend
import TemplateMarkup.Proofs.Assembly.Refusal
import TemplateMarkup.Proofs.IdTable
import TemplateMarkup.Proofs.Text.Showing

namespace TemplateMarkup

-- Whether pending text may begin with an event.
def Event.startsText : Event → Bool
  | .text _ | .cdataStart => true
  | _ => false

namespace Assembly

variable {assembly next : Assembly} {location : Location} {placed : PlacedEvent} {scope : Scope}

-- Whether there is a table of overrides, and in it an entry for an id.
def hasOverride (assembly : Assembly) (id : String) : Bool :=
  assembly.overrides.any fun table => table.contains id

-- Where the text that is pending began.
def pendingPlace? (assembly : Assembly) : Option Location :=
  assembly.pending.map (·.location)

-- How the open elements stand inside each other. That all in a removed element is removed belongs
-- to `Muted`.
structure Legal (assembly : Assembly) : Prop extends assembly.Muted where
  -- Nothing is open inside a body.
  body : assembly.scopes.Pairwise fun _ outer => outer.kind ≠ .body
  removed : ∀ scope outer, scope :: outer <:+ assembly.scopes → scope.kind = .removed →
    ∃ around ∈ outer.head?, around.kind = .remove ∨ around.kind = .removed
  replace : ∀ scope outer, scope :: outer <:+ assembly.scopes → scope.kind.isReplace = true →
    ∃ around ∈ outer.head?, around.kind = .extend
  extensionPoint : assembly.scopes.countP (·.kind.isExtensionPoint) ≤ 1
  content : assembly.scopes.countP (·.kind == .content) ≤ 1
  inside : assembly.phase = .inside ↔ ∃ scope ∈ assembly.scopes, scope.kind = .content
  extension : ∀ scope ∈ assembly.scopes, scope.kind = .extend ∨ scope.kind.isReplace = true →
    assembly.isExtension = true
  override : ∀ scope ∈ assembly.scopes, ∀ id saved, scope.kind.region? = some (id, saved) →
    assembly.hasOverride id = true

-- What an assembly is like in front of an element that begins, and how that changes it.
structure Enters (assembly next : Assembly) (scope : Scope) : Prop where
  scopes : next.scopes = scope :: assembly.scopes
  body : assembly.inBody = false
  removed : scope.kind = .removed → assembly.inRemoved = true
  replace : scope.kind.isReplace = true → assembly.isDirectlyInExtend = true
  extensionPoint : scope.kind.isExtensionPoint = true → assembly.inExtensionPoint = false
  phase : if scope.kind = .content then assembly.phase = .outside ∧ next.phase = .inside
    else next.phase = assembly.phase
  extension : assembly.isExtension = true ∨ scope.kind = .extend ∨ scope.kind.isReplace = true →
    next.isExtension = true
  override : ∀ id, assembly.hasOverride id = true ∨
    (∃ saved, scope.kind.region? = some (id, saved)) → next.hasOverride id = true

-- The same for the end of an element.
structure Leaves (assembly next : Assembly) (scope : Scope) : Prop where
  scopes : assembly.scopes = scope :: next.scopes
  phase : next.phase = if scope.kind = .content then .over else assembly.phase
  extension : next.isExtension = assembly.isExtension
  override : ∀ id, assembly.hasOverride id = true → next.hasOverride id = true

section Tables

theorem hasOverride_setOverride (assembly : Assembly) (id : String) (tokens : Array Token)
    (other : String) :
    (assembly.setOverride id tokens).hasOverride other = true ↔
      Text.lowercase id = Text.lowercase other ∨ assembly.hasOverride other = true := by
  simp only [hasOverride, setOverride, Option.any_some, IdTable.contains_insert]
  cases assembly.overrides with
  | none => simp [IdTable.contains, IdTable.position?, IdTable.empty]
  | some table => simp

theorem hasOverride_congr (h : next.overrides = assembly.overrides) (id : String) :
    next.hasOverride id = assembly.hasOverride id := by
  rw [hasOverride, hasOverride, h]

end Tables

section Heads

theorem inBody_of_placed {uri : Option String} {name : String}
    (h : assembly.placementFault? uri name = none) : assembly.inBody = false := by
  unfold placementFault? at h
  split at h
  · cases h
  · rename_i hbody
    exact Bool.eq_false_iff.mpr hbody

theorem kind_ne_body (hbody : assembly.inBody = false)
    (hscopes : assembly.scopes.Pairwise fun _ outer => outer.kind ≠ .body) :
    ∀ scope ∈ assembly.scopes, scope.kind ≠ .body := by
  unfold inBody at hbody
  cases hs : assembly.scopes with
  | nil => simp
  | cons scope outer =>
      rw [hs] at hbody hscopes
      refine List.forall_mem_cons.mpr ⟨?_, (List.pairwise_cons.mp hscopes).1⟩
      simpa using hbody

theorem exists_head_of_inRemoved (h : assembly.inRemoved = true) :
    ∃ around ∈ assembly.scopes.head?, around.kind = .remove ∨ around.kind = .removed := by
  obtain ⟨around, hm, hkind⟩ :=
    exists_head (f := fun scope => scope.kind == .remove || scope.kind == .removed) h
  exact ⟨around, hm, by simpa using hkind⟩

theorem exists_head_of_isDirectlyInExtend (h : assembly.isDirectlyInExtend = true) :
    ∃ around ∈ assembly.scopes.head?, around.kind = .extend := by
  obtain ⟨around, hm, hkind⟩ := exists_head (f := fun scope => scope.kind == .extend) h
  exact ⟨around, hm, beq_iff_eq.mp hkind⟩

-- What is true of an element and those around it, for one more element.
theorem forall_suffix_cons {P : Scope → List Scope → Prop} {scopes : List Scope}
    (h : ∀ inner outer, inner :: outer <:+ scopes → P inner outer) (hnew : P scope scopes) :
    ∀ inner outer, inner :: outer <:+ scope :: scopes → P inner outer := by
  intro inner outer hsuffix
  rcases List.suffix_cons_iff.mp hsuffix with he | hsuffix
  · cases he
    exact hnew
  · exact h inner outer hsuffix

end Heads

section Opening

variable {uri : Option String} {name : String} {attributes : List Attribute} {compress : Bool}

theorem Opening.enters (hphase : assembly.phase ≠ .over) (hbody : assembly.inBody = false)
    (ho : Opening assembly uri name attributes compress location next) :
    ∃ scope, Enters assembly next scope := by
  cases ho with
  | output | remove | body | block | parameter | blockParameter | container =>
      refine ⟨_, rfl, hbody, nofun, nofun, nofun, rfl, ?_, ?_⟩
      · rintro (h | h | h) <;> first | exact h | cases h
      · rintro id (h | ⟨saved, h⟩) <;> first | exact h | cases h
  | content hrole hinside =>
      have houtside : assembly.phase = .outside := by
        cases h : assembly.phase <;> simp_all
      refine ⟨_, rfl, hbody, nofun, nofun, nofun, ⟨houtside, rfl⟩, ?_, ?_⟩
      · rintro (h | h | h) <;> first | exact h | cases h
      · rintro id (h | ⟨saved, h⟩) <;> first | exact h | cases h
  | extend hrole hroot =>
      refine ⟨_, rfl, hbody, nofun, nofun, nofun, rfl, fun _ => rfl, ?_⟩
      rintro id (h | ⟨saved, h⟩) <;> first | exact h | cases h
  | extensionPoint id hrole hid hnested =>
      refine ⟨_, rfl, hbody, nofun, nofun, fun _ => hnested, rfl, ?_, ?_⟩
      · rintro (h | h | h) <;> first | exact h | cases h
      · rintro other h
        refine (hasOverride_setOverride assembly id #[] other).mpr ?_
        rcases h with h | ⟨saved, h⟩
        · exact .inr h
        · cases h
          exact .inl rfl
  | replace id hrole hid hextension hinside hfirst =>
      refine ⟨_, rfl, hbody, nofun, fun _ => hinside, nofun, rfl, fun _ => hextension, ?_⟩
      rintro other h
      refine (hasOverride_setOverride assembly id #[] other).mpr ?_
      rcases h with h | ⟨saved, h⟩
      · exact .inr h
      · cases h
        exact .inl rfl

end Opening

theorem Closing.leaves (hc : Closing assembly location next) :
    next = assembly ∨ ∃ scope, Leaves assembly next scope := by
  cases hc with
  | stray hscopes => exact .inl rfl
  | element compress isComponent outer hscopes =>
      exact .inr ⟨_, hscopes, rfl, rfl, fun _ h => h⟩
  | content compress isComponent outer hscopes =>
      exact .inr ⟨_, hscopes, rfl, rfl, fun _ h => h⟩
  | region scope outer id saved hscopes hkind =>
      refine .inr ⟨_, hscopes, ?_, rfl, fun other h => ?_⟩
      · rw [if_neg (ScopeKind.ne_of_region? hkind).2]
        rfl
      · exact (hasOverride_setOverride _ id _ other).mpr (.inr h)
  | bare scope outer hscopes hkind =>
      refine .inr ⟨_, hscopes, ?_, rfl, fun _ h => h⟩
      rw [if_neg (ScopeKind.ne_of_isBare hkind).2]

theorem Legal.keep (h : assembly.Legal) (hmuted : next.Muted)
    (hscopes : next.scopes = assembly.scopes) (hphase : next.phase = assembly.phase)
    (hextension : next.isExtension = assembly.isExtension)
    (hoverrides : next.overrides = assembly.overrides) : next.Legal where
  toMuted := hmuted
  body := hscopes ▸ h.body
  removed := hscopes ▸ h.removed
  replace := hscopes ▸ h.replace
  extensionPoint := hscopes ▸ h.extensionPoint
  content := hscopes ▸ h.content
  inside := by rw [hscopes, hphase]; exact h.inside
  extension := by rw [hscopes, hextension]; exact h.extension
  override scope hm id saved hregion := by
    rw [hasOverride_congr hoverrides]
    exact h.override scope (hscopes ▸ hm) id saved hregion

theorem Legal.settled (h : assembly.Legal) : assembly.settled.Legal :=
  h.keep (h.toMuted.of_settled_text (settled_pending _) (settled_scopes _)) (settled_scopes _)
    (settled_phase _) (settled_isExtension _) (settled_overrides _)

theorem Legal.enter (h : assembly.Legal) (hmuted : next.Muted) (he : Enters assembly next scope) :
    next.Legal where
  toMuted := hmuted
  body := by
    rw [he.scopes]
    exact List.pairwise_cons.mpr ⟨kind_ne_body he.body h.body, h.body⟩
  removed := by
    rw [he.scopes]
    exact forall_suffix_cons h.removed fun hkind => exists_head_of_inRemoved (he.removed hkind)
  replace := by
    rw [he.scopes]
    exact forall_suffix_cons h.replace fun hkind =>
      exists_head_of_isDirectlyInExtend (he.replace hkind)
  extensionPoint := by
    rw [he.scopes, List.countP_cons]
    split
    · rename_i hkind
      have hnone := List.any_eq_false.mp (he.extensionPoint hkind)
      have hzero := List.countP_eq_zero.mpr hnone
      omega
    · exact h.extensionPoint
  content := by
    have hphase := he.phase
    rw [he.scopes, List.countP_cons]
    split
    · rename_i hkind
      rw [if_pos (beq_iff_eq.mp hkind)] at hphase
      have hnone : ∀ other ∈ assembly.scopes, ¬ (other.kind == .content) = true := by
        intro other hm hcontent
        have hinside := h.inside.mpr ⟨other, hm, beq_iff_eq.mp hcontent⟩
        rw [hphase.1] at hinside
        cases hinside
      have hzero := List.countP_eq_zero.mpr hnone
      omega
    · exact h.content
  inside := by
    have hphase := he.phase
    rw [he.scopes]
    split at hphase
    · rename_i hkind
      exact ⟨fun _ => ⟨scope, List.mem_cons_self, hkind⟩, fun _ => hphase.2⟩
    · rename_i hkind
      rw [hphase, h.inside, List.exists_mem_cons_iff]
      exact ⟨.inr, fun hex => hex.resolve_left hkind⟩
  extension other hm hkind := by
    rw [he.scopes] at hm
    rcases List.mem_cons.mp hm with rfl | hm
    · exact he.extension (.inr hkind)
    · exact he.extension (.inl (h.extension other hm hkind))
  override other hm id saved hregion := by
    rw [he.scopes] at hm
    rcases List.mem_cons.mp hm with rfl | hm
    · exact he.override id (.inr ⟨saved, hregion⟩)
    · exact he.override id (.inl (h.override other hm id saved hregion))

theorem Legal.leave (h : assembly.Legal) (hmuted : next.Muted) (hl : Leaves assembly next scope) :
    next.Legal where
  toMuted := hmuted
  body := by
    have hbody := h.body
    rw [hl.scopes] at hbody
    exact hbody.of_cons
  removed inner outer hsuffix :=
    h.removed inner outer (by rw [hl.scopes]; exact hsuffix.trans (List.suffix_cons _ _))
  replace inner outer hsuffix :=
    h.replace inner outer (by rw [hl.scopes]; exact hsuffix.trans (List.suffix_cons _ _))
  extensionPoint := by
    have hcount := h.extensionPoint
    rw [hl.scopes, List.countP_cons] at hcount
    omega
  content := by
    have hcount := h.content
    rw [hl.scopes, List.countP_cons] at hcount
    omega
  inside := by
    have hinside := h.inside
    rw [hl.scopes, List.exists_mem_cons_iff] at hinside
    rw [hl.phase]
    split
    · rename_i hkind
      have hcount := h.content
      rw [hl.scopes, List.countP_cons, if_pos (beq_iff_eq.mpr hkind)] at hcount
      have hnone := List.countP_eq_zero.mp (Nat.le_zero.mp (Nat.le_of_succ_le_succ hcount))
      refine ⟨nofun, ?_⟩
      rintro ⟨other, hm, hother⟩
      exact absurd (beq_iff_eq.mpr hother) (hnone other hm)
    · rename_i hkind
      rw [hinside]
      exact ⟨fun hex => hex.resolve_left hkind, .inr⟩
  extension other hm hkind := by
    rw [hl.extension]
    exact h.extension other (by rw [hl.scopes]; exact List.mem_cons_of_mem _ hm) hkind
  override other hm id saved hregion :=
    hl.override id
      (h.override other (by rw [hl.scopes]; exact List.mem_cons_of_mem _ hm) id saved hregion)

theorem Legal.move (h : assembly.Legal)
    (hmove : Move assembly (assembly.place placed.line) placed.event next) : next.Legal := by
  have hmuted := h.toMuted.move hmove
  obtain ⟨line, event⟩ := placed
  cases hmove with
  | bury uri name attributes hphase hdoctype hremoved =>
      have hbody : assembly.inBody = false := by
        cases hbody : assembly.inBody with
        | false => rfl
        | true =>
            rw [inRemoved_of_inBody hbody] at hremoved
            cases hremoved
      have he : Enters assembly (assembly.push .removed assembly.compressing false)
          ⟨assembly.compressing, false, .removed⟩ := by
        refine ⟨rfl, hbody, fun _ => hremoved, nofun, nofun, rfl, ?_, ?_⟩
        · rintro (hk | hk | hk) <;> first | exact hk | cases hk
        · rintro id (hk | ⟨saved, hk⟩) <;> first | exact hk | cases hk
      exact h.enter hmuted he
  | start uri name attributes next hphase hdoctype hremoved hplace hopening =>
      have hbody : assembly.settled.inBody = false := by
        rw [inBody, settled_scopes]
        exact inBody_of_placed hplace
      obtain ⟨scope, he⟩ := hopening.enters (by rwa [settled_phase]) hbody
      exact h.settled.enter hmuted he
  | finish uri name next hphase hdoctype hclosing =>
      rcases hclosing.leaves with rfl | ⟨scope, hl⟩
      · exact h.settled
      · exact h.settled.leave hmuted hl
  | comment | cdataStart => exact h.settled.keep hmuted rfl rfl rfl rfl
  | pass | gather | cdataEnd | doctypeStart | doctypeEnd | bind =>
      exact h.keep hmuted rfl rfl rfl rfl

theorem legal_start (resource : String) (compress : Bool) : (start resource compress).Legal where
  pending _ := rfl
  scopes := .nil
  body := .nil
  removed _ _ hsuffix := by cases List.suffix_nil.mp hsuffix
  replace _ _ hsuffix := by cases List.suffix_nil.mp hsuffix
  extensionPoint := Nat.zero_le 1
  content := Nat.zero_le 1
  inside := by simp [start]
  extension := by simp [start]
  override := by simp [start]

theorem legal_of_reachable (h : assembly.Reachable) : assembly.Legal :=
  h.induction legal_start (fun _ hb => hb.settled) fun _ _ hb hmove => hb.move hmove

-- Text that is pending behind an event was pending before, or begins with that event.
theorem pendingPlace?_step (assembly : Assembly) (placed : PlacedEvent)
    (h : (assembly.step placed).next.pendingPlace? = some location) :
    assembly.pendingPlace? = some location ∨
      placed.event.startsText = true ∧ location = assembly.place placed.line := by
  have hnone : ∀ {after : Assembly}, after.pending = none → after.pendingPlace? ≠ some location := by
    intro after hpending he
    rw [pendingPlace?, hpending] at he
    cases he
  by_cases hfault : (assembly.step placed).fault = none
  · have hmove := move_of_step hfault
    generalize (assembly.step placed).next = next at h hmove
    obtain ⟨line, event⟩ := placed
    cases hmove with
    | pass | bury | doctypeStart | doctypeEnd | bind => exact .inl h
    | start uri name attributes next hphase hdoctype hremoved hplace hopening =>
        exact absurd h (hnone (hopening.pending_eq.trans (settled_pending _)))
    | finish uri name next hphase hdoctype hclosing =>
        exact absurd h (hnone (hclosing.pending_eq.trans (settled_pending _)))
    | comment => exact absurd h (hnone (settled_pending _))
    | cdataEnd => exact absurd h (hnone rfl)
    | cdataStart hidle =>
        cases h
        exact .inr ⟨rfl, rfl⟩
    | gather text pending hidle hbody hpending =>
        cases h
        rw [hpending]
        cases hbefore : assembly.pending with
        | none => exact .inr ⟨rfl, by simp [gathered, hbefore]⟩
        | some before => exact .inl (by simp [pendingPlace?, gathered, hbefore])
  · rcases next_of_refused hfault with he | he
    · rw [he] at h
      exact .inl h
    · rw [he] at h
      exact absurd h (hnone (settled_pending _))

theorem pendingPlace?_after (assembly : Assembly) (events : List PlacedEvent)
    (h : (assembly.after events).pendingPlace? = some location) :
    assembly.pendingPlace? = some location ∨
      ∃ placed ∈ events, placed.event.startsText = true ∧
        location = ⟨assembly.resource, placed.line⟩ := by
  induction events generalizing assembly with
  | nil => exact .inl h
  | cons placed rest ih =>
      rcases ih (assembly.step placed).next h with hnext | ⟨other, hm, hstarts, hother⟩
      · rcases pendingPlace?_step assembly placed hnext with hbefore | ⟨hstarts, hplace⟩
        · exact .inl hbefore
        · exact .inr ⟨placed, List.mem_cons_self, hstarts, hplace⟩
      · rw [resource_step] at hother
        exact .inr ⟨other, List.mem_cons_of_mem _ hm, hstarts, hother⟩

-- Whatever events have come, in whatever order and some of them refused, the open elements stand
-- inside each other as they may, and pending text began at the place of one of the events.
theorem after_legal (resource : String) (compress : Bool) (events : List PlacedEvent) :
    let reached := (start resource compress).after events
    reached.Legal ∧
      (reached.phase = .over → ∀ scope ∈ reached.scopes, scope.kind ≠ .content) ∧
      (reached.pendingText ≠ "" → ∃ placed ∈ events, placed.event.startsText = true ∧
        reached.pendingPlace? = some ⟨resource, placed.line⟩) := by
  intro reached
  have hlegal : reached.Legal := legal_of_reachable ⟨resource, compress, events, rfl⟩
  refine ⟨hlegal, fun hover scope hm hkind => ?_, fun htext => ?_⟩
  · have hinside := hlegal.inside.mpr ⟨scope, hm, hkind⟩
    rw [hover] at hinside
    cases hinside
  · cases hpending : reached.pending with
    | none => simp [pendingText, hpending] at htext
    | some pending =>
        have hplace : reached.pendingPlace? = some pending.location := by
          rw [pendingPlace?, hpending, Option.map_some]
        rcases pendingPlace?_after _ events hplace with hbefore | ⟨placed, hm, hstarts, he⟩
        · cases hbefore
        · exact ⟨placed, hm, hstarts, hplace.trans (congrArg some he)⟩

end Assembly

end TemplateMarkup
