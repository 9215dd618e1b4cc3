import TemplateMarkup.Proofs.Assembly.Move
import TemplateMarkup.Proofs.IdTable
import TemplateMarkup.Proofs.Region.Recording

namespace TemplateMarkup

namespace History

-- The active sequence and the saved ones are what was pushed in the open regions and outside. The
-- marks of the open elements tell which of them are regions.
inductive Holds (history : History) : List Scope → List (Option Nat) → List Token → Prop
  | outside {tokens : List Token} (htokens : tokens = history.owned none) :
      Holds history [] [] tokens
  | plain {scope : Scope} {outer : List Scope} {marks : List (Option Nat)} {tokens : List Token}
      (hkind : scope.kind.region? = none) (hcontent : scope.kind ≠ .content)
      (houter : Holds history outer marks tokens) :
      Holds history (scope :: outer) (none :: marks) tokens
  | region {scope : Scope} {outer : List Scope} {region : Nat} {marks : List (Option Nat)}
      {tokens : List Token} {id : String} {saved : Array Token}
      (hkind : scope.kind.region? = some (id, saved))
      (hregion : history.regions[region]? = some id)
      (htokens : tokens = history.owned (some region))
      (houter : Holds history outer marks saved.toList) :
      Holds history (scope :: outer) (some region :: marks) tokens

variable {history next : History} {scopes : List Scope} {marks : List (Option Nat)}
  {tokens : List Token}

-- Only the regions that are open matter, and what stands outside of all.
theorem Holds.congr (h : history.Holds scopes marks tokens)
    (hnone : next.owned none = history.owned none)
    (hmarks : ∀ region ∈ marks.filterMap id,
      next.regions[region]? = history.regions[region]? ∧
        next.owned (some region) = history.owned (some region)) :
    next.Holds scopes marks tokens := by
  induction h with
  | outside htokens => exact .outside (htokens.trans hnone.symm)
  | plain hkind hcontent houter ih => exact .plain hkind hcontent (ih hmarks)
  | region hkind hregion htokens houter ih =>
      have hsame := hmarks _ List.mem_cons_self
      refine .region hkind (hsame.1.trans hregion) (htokens.trans hsame.2.symm) (ih ?_)
      exact fun other hm => hmarks other (List.mem_cons_of_mem _ hm)

-- Pushed tokens go to the innermost open region, or outside when none is open.
theorem Holds.push {more : List Token} (h : history.Holds scopes marks tokens)
    (hnodup : (marks.filterMap id).Nodup) (hregions : next.regions = history.regions)
    (howned : ∀ owner, next.owned owner =
      history.owned owner ++ if owner = (marks.filterMap id).head? then more else []) :
    next.Holds scopes marks (tokens ++ more) := by
  induction h with
  | outside htokens =>
      refine .outside ?_
      rw [howned, htokens]
      rfl
  | plain hkind hcontent houter ih => exact .plain hkind hcontent (ih hnodup howned)
  | @region scope outer region marks tokens id saved hkind hregion htokens houter ih =>
      obtain ⟨hfresh, -⟩ := List.nodup_cons.mp hnodup
      have hinner : ∀ owner, next.owned owner =
          history.owned owner ++ if owner = some region then more else [] := howned
      refine .region hkind (hregions ▸ hregion) ?_ (houter.congr ?_ ?_)
      · rw [hinner, htokens, if_pos rfl]
      · rw [hinner, if_neg (by simp), List.append_nil]
      · intro other hm
        have hne : some other ≠ some region := fun he => hfresh (Option.some.inj he ▸ hm)
        rw [hinner, if_neg hne, List.append_nil]
        exact ⟨by rw [hregions], rfl⟩

theorem Holds.kind_ne_content (h : history.Holds scopes marks tokens) {scope : Scope}
    (hm : scope ∈ scopes) : scope.kind ≠ .content := by
  induction h with
  | outside => cases hm
  | plain _ hcontent _ ih =>
      rcases List.mem_cons.mp hm with rfl | hm
      · exact hcontent
      · exact ih hm
  | region hkind _ _ _ ih =>
      rcases List.mem_cons.mp hm with rfl | hm
      · exact (ScopeKind.ne_of_region? hkind).2
      · exact ih hm

end History

namespace Assembly

def overrideTable (assembly : Assembly) : IdTable (Array Token) :=
  assembly.overrides.getD IdTable.empty

-- What the tables and the sequences of an assembly are by its history. The entry of an id counts
-- only while no region of that id is open, since each such region will write it again.
structure Recorded (assembly : Assembly) (history : History) : Prop where
  phase : assembly.phase = .outside
  sound : history.Sound
  holds : history.Holds assembly.scopes history.opened assembly.tokens.toList
  present : assembly.overrides.isSome = true ↔ history.regions ≠ []
  ids : assembly.overrideTable.ids = history.ids
  values : ∀ id, (∀ region ∈ history.openRegions, history.isNamed id region = false) →
    (assembly.overrideTable.get? id).map Array.toList = history.closedTokens? id

variable {assembly next : Assembly} {history : History}

theorem recorded_start (resource : String) (compress : Bool) :
    (start resource compress).Recorded History.empty where
  phase := rfl
  sound := History.sound_empty
  holds := .outside rfl
  present := by simp [start, History.empty]
  ids := rfl
  values id _ := by
    rw [overrideTable, start, Option.getD_none, IdTable.get?_empty]
    rfl

theorem Recorded.push (h : assembly.Recorded history) (more : Array Token)
    (htokens : next.tokens = assembly.tokens ++ more) (hscopes : next.scopes = assembly.scopes)
    (hphase : next.phase = assembly.phase) (hoverrides : next.overrides = assembly.overrides) :
    next.Recorded (history.push more) where
  phase := hphase.trans h.phase
  sound := h.sound.push more
  holds := by
    rw [hscopes, htokens, Array.toList_append]
    exact h.holds.push h.sound.opened rfl (history.owned_push more)
  present := hoverrides ▸ h.present
  ids := by
    rw [overrideTable, hoverrides]
    exact h.ids
  values id hid := by
    rw [overrideTable, hoverrides, h.sound.closedTokens?_push]
    exact h.values id hid

-- An element that takes no tokens begins.
theorem Recorded.enter_plain {scope : Scope} (h : assembly.Recorded history)
    (hkind : scope.kind.region? = none) (hcontent : scope.kind ≠ .content)
    (htokens : next.tokens = assembly.tokens) (hscopes : next.scopes = scope :: assembly.scopes)
    (hphase : next.phase = assembly.phase) (hoverrides : next.overrides = assembly.overrides) :
    next.Recorded (history.enter none) where
  phase := hphase.trans h.phase
  sound := h.sound.enter none
  holds := by
    have hsame : (history.enter none).Holds assembly.scopes history.opened assembly.tokens.toList :=
      h.holds.congr rfl fun _ _ => ⟨rfl, rfl⟩
    rw [hscopes, htokens]
    exact .plain hkind hcontent hsame
  present := hoverrides ▸ h.present
  ids := by
    rw [overrideTable, hoverrides]
    exact h.ids
  values id hid := by
    rw [overrideTable, hoverrides]
    exact h.values id hid

theorem overrideTable_setOverride (assembly : Assembly) (id : String) (tokens : Array Token) :
    (assembly.setOverride id tokens).overrideTable = assembly.overrideTable.insert id tokens := rfl

theorem Recorded.push_enter {scope : Scope} (h : assembly.Recorded history) (more : Array Token)
    (hkind : scope.kind.region? = none) (hcontent : scope.kind ≠ .content)
    (htokens : next.tokens = assembly.tokens ++ more)
    (hscopes : next.scopes = scope :: assembly.scopes)
    (hphase : next.phase = assembly.phase) (hoverrides : next.overrides = assembly.overrides) :
    next.Recorded ((history.push more).enter none) := by
  have hpushed : (assembly.emit more).Recorded (history.push more) := h.push more rfl rfl rfl rfl
  exact hpushed.enter_plain hkind hcontent htokens hscopes hphase hoverrides

-- A region begins with an empty sequence, and an empty entry for its id.
theorem Recorded.enter_region {scope : Scope} {id : String} (h : assembly.Recorded history)
    (hkind : scope.kind.region? = some (id, assembly.tokens)) (htokens : next.tokens = #[])
    (hscopes : next.scopes = scope :: assembly.scopes) (hphase : next.phase = assembly.phase)
    (hoverrides : next.overrides = (assembly.setOverride id #[]).overrides) :
    next.Recorded (history.enter (some id)) where
  phase := hphase.trans h.phase
  sound := h.sound.enter (some id)
  holds := by
    have hsame : (history.enter (some id)).Holds assembly.scopes history.opened
        assembly.tokens.toList := by
      refine h.holds.congr rfl fun region hm => ⟨?_, rfl⟩
      exact List.getElem?_append_left (h.sound.known region hm)
    have hnew : (history.enter (some id)).owned (some history.regions.length) = [] :=
      h.sound.owned_eq_nil (Nat.le_refl _)
    rw [hscopes, htokens]
    exact .region hkind (by simp [History.enter]) hnew.symm hsame
  present := by simp [hoverrides, setOverride, History.enter]
  ids := by
    have hcontains : (assembly.overrideTable.contains id = true) ↔
        ∃ known ∈ history.ids, Text.lowercase known = Text.lowercase id := by
      rw [IdTable.contains_iff, h.ids]
    rw [overrideTable, hoverrides, ← overrideTable, overrideTable_setOverride, IdTable.ids_insert,
      History.ids_enter, h.ids]
    simp only [hcontains]
    split <;> simp
  values other hother := by
    have hnew := hother history.regions.length List.mem_cons_self
    rw [History.isNamed_new, beq_eq_false_iff_ne] at hnew
    have hold : ∀ region ∈ history.openRegions, history.isNamed other region = false := by
      intro region hm
      rw [← History.isNamed_enter other (h.sound.known region hm) (some id)]
      exact hother region (List.mem_cons_of_mem _ hm)
    rw [overrideTable, hoverrides, ← overrideTable, overrideTable_setOverride, IdTable.get?_insert,
      if_neg hnew, h.sound.closedTokens?_enter]
    exact h.values other hold

-- An element that takes no tokens ends.
theorem Recorded.leave_plain {scope : Scope} {outer : List Scope} (h : assembly.Recorded history)
    (hopen : assembly.scopes = scope :: outer) (hkind : scope.kind.region? = none)
    (htokens : next.tokens = assembly.tokens) (hscopes : next.scopes = outer)
    (hphase : next.phase = assembly.phase) (hoverrides : next.overrides = assembly.overrides) :
    next.Recorded history.leave := by
  have hholds := h.holds
  rw [hopen] at hholds
  generalize hopened : history.opened = opened at hholds
  cases hholds with
  | region hsome => rw [hkind] at hsome; cases hsome
  | @plain _ _ marks _ _ hcontent houter =>
      have hsound := h.sound.leave
      have hvalues := h.values
      rw [History.openRegions, hopened] at hvalues
      rw [History.leave_of_none hopened] at hsound ⊢
      refine ⟨hphase.trans h.phase, hsound, ?_, hoverrides ▸ h.present, ?_, ?_⟩
      · rw [hscopes, htokens]
        exact houter.congr rfl fun _ _ => ⟨rfl, rfl⟩
      · rw [overrideTable, hoverrides]
        exact h.ids
      · rw [overrideTable, hoverrides]
        exact hvalues

-- A region ends, and what was pushed in it becomes the entry of its id.
theorem Recorded.leave_region {scope : Scope} {outer : List Scope} {name : String}
    {saved : Array Token} (h : assembly.Recorded history)
    (hopen : assembly.scopes = scope :: outer) (hkind : scope.kind.region? = some (name, saved))
    (htokens : next.tokens = saved) (hscopes : next.scopes = outer)
    (hphase : next.phase = assembly.phase)
    (hoverrides : next.overrides = (assembly.setOverride name assembly.tokens).overrides) :
    next.Recorded history.leave := by
  have hholds := h.holds
  rw [hopen] at hholds
  generalize hopened : history.opened = opened at hholds
  cases hholds with
  | plain hnone => rw [hkind] at hnone; cases hnone
  | @region _ _ region marks _ _ _ hsome hregion hactive houter =>
      obtain ⟨rfl, rfl⟩ := Prod.mk.inj (Option.some.inj (hkind.symm.trans hsome))
      have hnamed : ∀ other, history.isNamed other region =
          (Text.lowercase name == Text.lowercase other) := by
        intro other
        simp [History.isNamed, hregion]
      have hleft : history.openRegions = region :: history.leave.openRegions := by
        rw [History.leave_of_some hopened, History.openRegions, hopened]
        rfl
      have hexists : ∃ known ∈ history.ids, Text.lowercase known = Text.lowercase name := by
        rw [History.ids, exists_mem_eraseDupsBy]
        exact ⟨name, List.mem_of_getElem? hregion, rfl⟩
      have htable : next.overrideTable = assembly.overrideTable.insert name assembly.tokens := by
        rw [overrideTable, hoverrides]
        rfl
      refine ⟨hphase.trans h.phase, h.sound.leave, ?_, ?_, ?_, ?_⟩
      · rw [hscopes, htokens, History.leave_of_some hopened]
        exact houter.congr rfl fun _ _ => ⟨rfl, rfl⟩
      · have hne : history.regions ≠ [] := by
          intro hnil
          rw [hnil] at hregion
          cases hregion
        simp [hoverrides, setOverride, hne]
      · rw [htable, IdTable.ids_insert, History.ids_leave, ← h.ids, if_pos]
        rw [IdTable.contains_iff, h.ids]
        exact hexists
      · intro other hother
        rw [htable, IdTable.get?_insert, History.closedTokens?_leave hopened, hnamed]
        by_cases hsame : Text.lowercase name = Text.lowercase other
        · simp [hsame, hactive]
        · simp only [hsame, if_false, beq_iff_eq]
          refine h.values other fun found hm => ?_
          rw [hleft] at hm
          rcases List.mem_cons.mp hm with rfl | hm
          · rw [hnamed, beq_eq_false_iff_ne]
            exact hsame
          · rw [← History.isNamed_leave]
            exact hother found hm

-- An end without a start changes nothing.
theorem Recorded.leave_stray (h : assembly.Recorded history) (hopen : assembly.scopes = []) :
    assembly.Recorded history.leave := by
  have hholds := h.holds
  rw [hopen] at hholds
  generalize hopened : history.opened = opened at hholds
  cases hholds with
  | outside =>
      have hsame : history.leave = history := by simp only [History.leave, hopened]
      rw [hsame]
      exact h

end Assembly

end TemplateMarkup
