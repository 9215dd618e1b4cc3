import TemplateMarkup.Proofs.Assembly.OpenElements
import TemplateMarkup.Proofs.Region.Ledger

namespace TemplateMarkup

namespace Assembly

variable {assembly next : Assembly} {history : History}

theorem Recorded.settled (h : assembly.Recorded history) :
    assembly.settled.Recorded (history.push assembly.settlement) :=
  h.push _ (settled_tokens _) (settled_scopes _) (settled_phase _) (settled_overrides _)

-- The start of an element pushes its tokens and then begins a region or none.
theorem Recorded.opening {uri : Option String} {name : String} {attributes : List Attribute}
    {compress : Bool} {location : Location} (h : assembly.Recorded history)
    (hcontent : ElementRole.ofName uri name ≠ .directive .content)
    (ho : Opening assembly uri name attributes compress location next) :
    next.Recorded ((history.push (assembly.openingTokens uri name attributes location)).enter
      (regionId? uri name attributes location)) := by
  cases ho with
  | output element componentType component ids hrole hread hids =>
      have htokens : assembly.openingTokens uri name attributes location =
          startTokens component uri element assembly.bindings location := by
        simp only [openingTokens, hrole, hread]
      have hregion : regionId? uri name attributes location = none := by
        unfold regionId?
        cases hname : ElementRole.ofName uri name <;> simp [hname, ElementRole.output?] at hrole ⊢
      rw [htokens, hregion]
      exact h.push_enter _ rfl (by simp) rfl rfl rfl rfl
  | content hrole => exact absurd hrole hcontent
  | extensionPoint id hrole hid hnested =>
      simp only [openingTokens, regionId?, hrole, ElementRole.output?, labelTokens, hid]
      have hmarked : (assembly.emitOne (.extensionPoint id) location).Recorded
          (history.push #[⟨.extensionPoint id, location⟩]) := h.push _ rfl rfl rfl rfl
      exact hmarked.enter_region rfl rfl rfl rfl rfl
  | replace id hrole hid hextension hinside hfirst =>
      simp only [openingTokens, regionId?, hrole, ElementRole.output?, hid, History.push_empty]
      exact h.enter_region rfl rfl rfl rfl rfl
  | body hrole =>
      simp only [openingTokens, regionId?, hrole, ElementRole.output?]
      exact h.push_enter _ rfl (by simp) rfl rfl rfl rfl
  | block id hrole hid hvalid =>
      simp only [openingTokens, regionId?, hrole, ElementRole.output?, labelTokens, hid]
      exact h.push_enter _ rfl (by simp) rfl rfl rfl rfl
  | parameter label hrole hlabel hinside =>
      simp only [openingTokens, regionId?, hrole, ElementRole.output?, labelTokens, hlabel]
      exact h.push_enter _ rfl (by simp) rfl rfl rfl rfl
  | blockParameter hrole hbare hinside =>
      simp only [openingTokens, regionId?, hrole, ElementRole.output?]
      exact h.push_enter _ rfl (by simp) rfl rfl rfl rfl
  | remove hrole | extend hrole | container hrole =>
      simp only [openingTokens, regionId?, hrole, ElementRole.output?, History.push_empty]
      exact h.enter_plain rfl (by simp) rfl rfl rfl rfl

-- The end of an element pushes its token before the element is left.
theorem Recorded.closing {location : Location} (h : assembly.Recorded history)
    (hc : Closing assembly location next) :
    next.Recorded (history.push (assembly.closingTokens location)).leave := by
  cases hc with
  | stray hscopes =>
      simp only [closingTokens, hscopes, History.push_empty]
      exact h.leave_stray hscopes
  | element compress isComponent outer hscopes =>
      simp only [closingTokens, hscopes, if_pos]
      have hended : (assembly.emitOne .endElement location).Recorded
          (history.push #[⟨.endElement, location⟩]) := h.push _ rfl rfl rfl rfl
      exact hended.leave_plain hscopes rfl rfl rfl rfl rfl
  | content compress isComponent outer hscopes =>
      have hne := h.holds.kind_ne_content (hscopes ▸ List.mem_cons_self)
      exact absurd rfl hne
  | region scope outer id saved hscopes hkind =>
      have hne := (ScopeKind.ne_of_region? hkind).1
      simp only [closingTokens, hscopes, if_neg hne, History.push_empty]
      exact h.leave_region hscopes hkind rfl rfl rfl rfl
  | bare scope outer hscopes hkind =>
      have hne := (ScopeKind.ne_of_isBare hkind).1
      have hnone := ScopeKind.region?_of_isBare hkind
      simp only [closingTokens, hscopes, if_neg hne, History.push_empty]
      exact h.leave_plain hscopes hnone rfl rfl rfl rfl

theorem isDeaf_eq_false (hphase : assembly.phase ≠ .over) (hdoctype : assembly.inDoctype = false) :
    assembly.isDeaf = false := by
  simp [isDeaf, hphase, hdoctype]

-- What is passed over leaves no trace.
theorem record_of_pass {line : Option Nat} {event : Event} (hmark : event.isDoctypeMark = false)
    (htag : event.isTag = true → assembly.phase = .over ∨ assembly.inDoctype = true)
    (hprose : event.isProse = true → assembly.isIdle = true) :
    assembly.record ⟨line, event⟩ history = history := by
  have hdeaf : event.isTag = true → assembly.isDeaf = true := by
    intro he
    simpa [isDeaf] using htag he
  cases event with
  | documentStart | documentEnd | text | binding =>
      simp [record, pushed, History.push_empty]
  | elementStart uri name attributes =>
      simp [record, pushed, hdeaf rfl, isIdle_of_unheard (htag rfl), History.push_empty]
  | elementEnd uri name => simp [record, pushed, hdeaf rfl, History.push_empty]
  | comment | cdataStart | cdataEnd =>
      simp [record, pushed, hprose rfl, History.push_empty]
  | doctypeStart | doctypeEnd => cases hmark

theorem Recorded.move {placed : PlacedEvent} (h : assembly.Recorded history)
    (hcontent : assembly.startsContent placed = false)
    (hmove : Move assembly (assembly.place placed.line) placed.event next) :
    next.Recorded (assembly.record placed history) := by
  obtain ⟨line, event⟩ := placed
  cases hmove with
  | pass event hmark htag hprose =>
      rw [record_of_pass hmark htag hprose]
      exact h
  | bury uri name attributes hphase hdoctype hremoved =>
      have hidle : assembly.isIdle = true := isIdle_of_inRemoved hremoved
      simp only [record, pushed, region?, isDeaf_eq_false hphase hdoctype, hidle, if_true,
        History.push_empty]
      exact h.enter_plain rfl (by simp) rfl rfl rfl rfl
  | start uri name attributes next hphase hdoctype hremoved hplace hopening =>
      have hidle : assembly.isIdle = false := isIdle_eq_false hphase hdoctype hremoved
      have hrole : ElementRole.ofName uri name ≠ .directive .content := by
        simpa [startsContent, hidle] using hcontent
      have hopened := h.settled.opening hrole hopening
      have htokens : assembly.settled.openingTokens uri name attributes (assembly.place line) =
          assembly.openingTokens uri name attributes (assembly.place line) := by
        simp only [openingTokens, settled_bindings]
      rw [htokens, History.push_push] at hopened
      simpa [record, pushed, region?, isDeaf_eq_false hphase hdoctype, hidle] using hopened
  | finish uri name next hphase hdoctype hclosing =>
      have hclosed := h.settled.closing hclosing
      have htokens : assembly.settled.closingTokens (assembly.place line) =
          assembly.closingTokens (assembly.place line) := by
        simp only [closingTokens, settled_scopes]
      rw [htokens, History.push_push] at hclosed
      simpa [record, pushed, isDeaf_eq_false hphase hdoctype] using hclosed
  | gather text pending hidle hbody =>
      exact h.push #[] (by simp) rfl rfl rfl
  | comment text hidle =>
      simp only [record, pushed, hidle]
      exact h.push _ (by simp [emitOne, emit]) (settled_scopes _) (settled_phase _)
        (settled_overrides _)
  | cdataStart hidle =>
      simp only [record, pushed, hidle]
      exact h.push _ (settled_tokens _) (settled_scopes _) (settled_phase _) (settled_overrides _)
  | cdataEnd pending hidle hpending =>
      simp only [record, pushed, hidle, ← hpending]
      exact h.push _ rfl rfl rfl rfl
  | doctypeStart name publicId systemId => exact h.push _ rfl rfl rfl rfl
  | doctypeEnd => exact h.push #[] (by simp) rfl rfl rfl
  | bind label uri hidle => exact h.push #[] (by simp) rfl rfl rfl

-- The history of a run tells what its last assembly holds.
theorem recorded_of_feed {events : List PlacedEvent} {final : Assembly}
    (hfeed : assembly.feed events = .ok final) (hcontent : assembly.opensContent events = false)
    (h : assembly.Recorded history) :
    ∃ last, final.Recorded last ∧
      assembly.recordAll history events = last.push final.settlement := by
  have hrun : ∃ last, final.Recorded last ∧ final.opensContent [] = false ∧
      assembly.recordAll history events = final.recordAll last [] := by
    refine feed_induction (motive := fun reached rest => ∃ last, reached.Recorded last ∧
      reached.opensContent rest = false ∧
        assembly.recordAll history events = reached.recordAll last rest) hfeed
      ⟨history, h, hcontent, rfl⟩ ?_
    rintro before placed rest ⟨last, hlast, hrest, hall⟩ hmove
    simp only [opensContent, Bool.or_eq_false_iff] at hrest
    exact ⟨before.record placed last, hlast.move hrest.1 hmove, hrest.2, hall⟩
  obtain ⟨last, hlast, -, hall⟩ := hrun
  exact ⟨last, hlast, hall⟩

end Assembly

namespace EventStream

-- Redirecting tokens loses and doubles none of them.
theorem assemble_redirects {events : List PlacedEvent} {resource : String} {compress : Bool}
    {template : Template} {history : History}
    (h : (EventStream.mk events none).assemble resource compress = .ok template)
    (hclosed : elementsClosed events = true) (hdoctypes : doctypesClosed false events = true)
    (hcontent : (Assembly.start resource compress).opensContent events = false)
    (hhistory : (EventStream.mk events none).history resource compress = history) :
    template.tokens.toList = history.owned none ∧
      (template.overrides.isSome = true ↔ history.regions ≠ []) ∧
      ∀ table, template.overrides = some table →
        table.ids = history.ids ∧
          ∀ id, (table.get? id).map Array.toList = history.closedTokens? id := by
  obtain ⟨final, hfeed, rfl⟩ := assemble_ok h
  obtain ⟨last, hlast, hall⟩ := Assembly.recorded_of_feed hfeed hcontent
    (Assembly.recorded_start resource compress)
  have hscopes : final.scopes = [] :=
    (Assembly.feed_closed hfeed hclosed hdoctypes).resolve_left (by rw [hlast.phase]; decide)
  have hend : final.settled.Recorded history := by
    rw [← hhistory, EventStream.history, hall]
    exact hlast.settled
  have hholds := hend.holds
  rw [Assembly.settled_scopes, hscopes] at hholds
  generalize hopened : history.opened = opened at hholds
  cases hholds with
  | outside htokens =>
      have hnone : history.openRegions = [] := by
        rw [History.openRegions, hopened, List.filterMap_nil]
      refine ⟨htokens, hend.present, fun table htable => ?_⟩
      have hsame : final.settled.overrideTable = table := by
        have hsome : final.settled.overrides = some table := htable
        rw [Assembly.overrideTable, hsome, Option.getD_some]
      refine ⟨hsame ▸ hend.ids, fun id => ?_⟩
      rw [← hsame]
      exact hend.values id (by simp [hnone])

-- Two overrides of one id in different case, with an extension point inside the first one.
def replacements : List PlacedEvent := [
  ⟨some 1, .elementStart (some Naming.templateUri51) "extend" []⟩, ⟨some 1, .text "\n"⟩,
  ⟨some 2, .elementStart (some Naming.templateUri51) "replace" [⟨none, "id", "Head"⟩]⟩,
  ⟨some 2, .text "x"⟩,
  ⟨some 2, .elementStart (some Naming.templateUri51) "extension-point" [⟨none, "id", "b"⟩]⟩,
  ⟨some 2, .text "y"⟩, ⟨some 2, .elementEnd (some Naming.templateUri51) "extension-point"⟩,
  ⟨some 3, .text "z"⟩, ⟨some 3, .elementEnd (some Naming.templateUri51) "replace"⟩,
  ⟨some 4, .elementStart (some Naming.templateUri51) "replace" [⟨none, "id", "head"⟩]⟩,
  ⟨some 4, .elementStart none "p" []⟩, ⟨some 4, .elementEnd none "p"⟩,
  ⟨some 4, .elementEnd (some Naming.templateUri51) "replace"⟩,
  ⟨some 5, .elementEnd (some Naming.templateUri51) "extend"⟩]

theorem redirects_replacements :
    ∃ template history,
      (EventStream.mk replacements none).assemble "T.tml" true = .ok template ∧
      (EventStream.mk replacements none).history "T.tml" true = history ∧
      history.regions = ["Head", "b", "head"] ∧ history.ids = ["Head", "b"] ∧
      template.tokens.toList = history.owned none ∧
      (template.overrides.isSome = true ↔ history.regions ≠ []) ∧
      ∀ table, template.overrides = some table →
        table.ids = history.ids ∧
          ∀ id, (table.get? id).map Array.toList = history.closedTokens? id := by
  obtain ⟨template, h⟩ := exists_template
    (show ((EventStream.mk replacements none).assemble "T.tml" true).toBool = true by
      decide +kernel)
  exact ⟨template, _, h, rfl, by decide +kernel, by decide +kernel,
    assemble_redirects h (by decide) (by decide) (by decide +kernel) rfl⟩

end EventStream

end TemplateMarkup
