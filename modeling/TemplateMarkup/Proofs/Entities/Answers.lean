import TemplateMarkup.Catalog
import TemplateMarkup.Proofs.Entities.Life

namespace TemplateMarkup

namespace Catalog

variable {catalog : Catalog} {files : FileSystem} {publicId text : String}

-- The text that is kept for an identifier and can be read.
def Provides (catalog : Catalog) (files : FileSystem) (publicId text : String) : Prop :=
  catalog.source? publicId = some (.bundled text) ∨
    ∃ path, catalog.source? publicId = some (.file path) ∧ files.readText path = .ok text

theorem provides_iff_fetch :
    catalog.Provides files publicId text ↔ catalog.fetch files publicId = .ok (some text) := by
  unfold Provides fetch
  cases catalog.source? publicId with
  | none => simp
  | some source =>
      cases source with
      | bundled kept => simp
      | file path =>
          cases hread : files.readText path with
          | ok read => simp [hread]
          | error failure => simp [hread]

theorem contains_eq_false_of_fetch (h : catalog.fetch files publicId = .ok none) :
    catalog.contains publicId = false := by
  unfold fetch at h
  unfold contains
  split at h
  · rename_i hsource
    rw [hsource]
    rfl
  · cases h
  · split at h
    · cases h
    · cases h

theorem contains_of_provides (h : catalog.Provides files publicId text) :
    catalog.contains publicId = true := by
  rcases h with hbundled | ⟨path, hfile, -⟩
  · rw [contains, hbundled]
    rfl
  · rw [contains, hfile]
    rfl

theorem fetch_of_unreadable {path : String} {failure : ReadFailure}
    (hsource : catalog.source? publicId = some (.file path))
    (hread : files.readText path = .error failure) :
    catalog.fetch files publicId = .error (.unreachableResource publicId path failure none) := by
  rw [fetch, hsource]
  dsimp only
  rw [hread]

end Catalog

namespace Entities

open StateTransition (eval mem_eval)

section Keeping

variable {fetch : String → Except Fault (Option String)} {walk : Walk} {name : String}

-- What is known keeps its value.
theorem lasting_get? (name value : String) :
    Lasting fun entities => entities.get? name = some value where
  declare := fun declaration h => get?_declare_of_some h declaration
  ask := fun _ h => h

-- A general entity of this name is known, or its declaration is still ahead.
def Held (walk : Walk) (name : String) : Prop :=
  (∃ value, walk.entities.get? name = some value) ∨
    ∃ level ∈ walk.levels, ∃ declaration ∈ level.pending, declaration.defines name = true

theorem Held.known (h : Held walk name) (hlevels : walk.levels = []) :
    ∃ value, walk.entities.get? name = some value := by
  rcases h with hknown | ⟨level, hlevel, -⟩
  · exact hknown
  · rw [hlevels] at hlevel
    cases hlevel

theorem Held.finish {depth : Nat} {outer : List Level} (h : Held walk name)
    (hlevels : walk.levels = ⟨depth, []⟩ :: outer) : Held { walk with levels := outer } name := by
  rcases h with hknown | ⟨level, hlevel, declaration, hpending, hdefines⟩
  · exact .inl hknown
  · rw [hlevels] at hlevel
    rcases List.mem_cons.mp hlevel with rfl | houter
    · cases hpending
    · exact .inr ⟨level, houter, declaration, hpending, hdefines⟩

theorem Held.declare {depth : Nat} {declaration : Dtd.Declaration} {more : List Dtd.Declaration}
    {outer : List Level} (h : Held walk name)
    (hlevels : walk.levels = ⟨depth, declaration :: more⟩ :: outer) :
    Held { walk.past depth declaration more outer with
      entities := walk.entities.declare declaration } name := by
  rcases h with ⟨value, hvalue⟩ | ⟨level, hlevel, other, hpending, hdefines⟩
  · exact .inl ⟨value, get?_declare_of_some hvalue declaration⟩
  · rw [hlevels] at hlevel
    rcases List.mem_cons.mp hlevel with rfl | houter
    · rcases List.mem_cons.mp hpending with rfl | hmore
      · have hany : [other].any (·.defines name) = true := by simpa using hdefines
        exact .inl (exists_get?_foldl_declare hany)
      · exact .inr ⟨⟨depth, more⟩, List.mem_cons_self, other, hmore, hdefines⟩
    · exact .inr ⟨level, List.mem_cons_of_mem _ houter, other, hpending, hdefines⟩

theorem Held.enter (h : Held walk name) (depth : Nat) (text : String) :
    Held (walk.enter depth text) name := by
  unfold Walk.enter
  split
  · exact h
  · rcases h with hknown | ⟨level, hlevel, hahead⟩
    · exact .inl hknown
    · exact .inr ⟨level, List.mem_cons_of_mem _ hlevel, hahead⟩

end Keeping

section Covering

variable {fetch : String → Except Fault (Option String)} {walk next : Walk} {depth : Nat}
  {publicId : String}

-- A request that found out about an identifier. The entities of a text that is not nested too deep
-- are known or ahead.
def Met (fetch : String → Except Fault (Option String)) (walk : Walk) (depth : Nat)
    (publicId : String) : Prop :=
  ∃ text?, fetch publicId = .ok text? ∧ ∀ text, text? = some text → depth < maxNesting →
    ∀ declaration ∈ Dtd.declarations text, ∀ name, declaration.defines name = true →
      Held walk name

theorem Met.mono (h : Met fetch walk depth publicId)
    (hheld : ∀ name, Held walk name → Held next name) : Met fetch next depth publicId := by
  obtain ⟨text?, hfetch, hnames⟩ := h
  exact ⟨text?, hfetch, fun text htext hdepth declaration hmem name hdefines =>
    hheld name (hnames text htext hdepth declaration hmem name hdefines)⟩

-- A walk without a fault has met all its requests.
def Covers (fetch : String → Except Fault (Option String)) (walk : Walk) : Prop :=
  walk.fault = none → ∀ depth publicId, .request depth publicId ∈ walk.visits →
    Met fetch walk depth publicId

namespace Covers

theorem enter (h : Covers fetch walk) (depth : Nat) (text : String) :
    Covers fetch (walk.enter depth text) := by
  intro hfault other publicId hvisit
  rw [Walk.fault_enter] at hfault
  rw [Walk.visits_enter] at hvisit
  exact (h hfault other publicId hvisit).mono fun name hname => hname.enter depth text

theorem declare {declaration : Dtd.Declaration} {more : List Dtd.Declaration}
    {outer : List Level} (h : Covers fetch walk)
    (hlevels : walk.levels = ⟨depth, declaration :: more⟩ :: outer) :
    Covers fetch { walk.past depth declaration more outer with
      entities := walk.entities.declare declaration } := by
  intro hfault other publicId hvisit
  rcases List.mem_append.mp hvisit with hbefore | hhere
  · exact (h hfault other publicId hbefore).mono fun name hname => hname.declare hlevels
  · cases List.mem_singleton.mp hhere

-- The text that comes back is entered, so that all in it is ahead.
theorem request (h : Covers fetch walk) (depth : Nat) (publicId : String) :
    Covers fetch (walk.request fetch depth publicId) := by
  have hask : ∀ next : Walk, next.fault = walk.fault →
      next.visits = walk.visits ++ [.request depth publicId] →
      (∀ name, Held walk name → Held next name) → Met fetch next depth publicId →
      Covers fetch next := by
    intro next hnext hvisits hheld hmet hfault other otherId hvisit
    rw [hvisits] at hvisit
    rcases List.mem_append.mp hvisit with hbefore | hhere
    · exact (h (hnext ▸ hfault) other otherId hbefore).mono hheld
    · cases List.mem_singleton.mp hhere
      exact hmet
  rcases request_cases fetch walk depth publicId with
    ⟨-, hsame⟩ | ⟨-, ⟨fault, -, hfail⟩ | ⟨hfetch, hnone⟩ | ⟨text, hfetch, henter⟩⟩
  · rw [hsame]
    exact h
  · rw [hfail]
    exact nofun
  · rw [hnone]
    exact hask _ rfl rfl (fun name hname => hname) ⟨none, hfetch, nofun⟩
  · rw [henter]
    refine hask _ (Walk.fault_enter _ _ _) (Walk.visits_enter _ _ _) ?_ ⟨some text, hfetch, ?_⟩
    · intro name hname
      have hasked : Held (walk.ask depth publicId) name := hname
      exact hasked.enter (depth + 1) text
    · rintro _ ⟨⟩ hdepth declaration hmem name hdefines
      rw [Walk.enter, if_neg (by omega)]
      exact .inr ⟨_, List.mem_cons_self, declaration, hmem, hdefines⟩

theorem rest (fetch : String → Except Fault (Option String)) (entities : Entities) :
    Covers fetch (Walk.rest entities) := by
  intro _ depth publicId hvisit
  cases hvisit

theorem invariant : Invariant fetch (Covers fetch) where
  finish := fun hlevels h hfault depth publicId hvisit =>
    (h hfault depth publicId hvisit).mono fun _ hname => hname.finish hlevels
  declare := fun hlevels h => h.declare hlevels
  enter := fun depth text h => h.enter depth text
  request := fun depth publicId h => h.request depth publicId

end Covers

end Covering

section Truth

variable {fetch : String → Except Fault (Option String)} {walk : Walk}
  {catalog : Catalog} {files : FileSystem} {entities left : Entities} {calls : List Call}
  {walks : List Walk} {name value publicId text : String}

-- Every general entity that a text declares is known.
def Knows (entities : Entities) (text : String) : Prop :=
  ∀ name value, .general name value ∈ Dtd.declarations text →
    ∃ replacement, entities.get? name = some replacement

theorem Life.get?_left (h : Life entities calls left walks)
    (hvalue : entities.get? name = some value) : left.get? name = some value := by
  induction h with
  | done entities => exact hvalue
  | call hwalk _ ih => exact ih ((lasting_get? name value).invariant.of_call hwalk hvalue)

theorem levels_eq_nil_of_mem_eval {first : Walk} (h : walk ∈ eval (Walk.step fetch) first) :
    walk.levels = [] := by
  obtain ⟨-, hlast⟩ := mem_eval.mp h
  unfold Walk.step at hlast
  split at hlast
  · assumption
  · cases hlast
  · cases hlast

-- What an undisturbed call asked for near the surface is known ever after.
theorem Life.met (h : Life entities calls left walks) (hcalls : ∀ call ∈ calls, call.fetch = fetch)
    (hmem : walk ∈ walks) (hfault : walk.fault = none) {depth : Nat}
    (hvisit : .request depth publicId ∈ walk.visits) :
    ∃ text?, fetch publicId = .ok text? ∧
      ∀ text, text? = some text → depth < maxNesting → left.Knows text := by
  induction h with
  | done entities => cases hmem
  | @call call calls entities left here walks hhere hlife ih =>
      have hfetch : call.fetch = fetch := hcalls call List.mem_cons_self
      rcases List.mem_cons.mp hmem with rfl | hlater
      · have hcovers := Covers.invariant.of_call hhere (Covers.rest call.fetch entities)
        rw [hfetch] at hcovers
        obtain ⟨text?, htext, hheld⟩ := hcovers hfault depth publicId hvisit
        refine ⟨text?, htext, fun text hsome hdepth name value hdeclared => ?_⟩
        have hdefines : (Dtd.Declaration.general name value).defines name = true := by
          simp [Dtd.Declaration.defines]
        obtain ⟨replacement, hknown⟩ := (hheld text hsome hdepth _ hdeclared name hdefines).known
          (levels_eq_nil_of_mem_eval hhere)
        exact ⟨replacement, hlife.get?_left hknown⟩
      · exact ih (fun other hother => hcalls other (List.mem_cons_of_mem call hother)) hlater

-- What is remembered has been asked for in some walk.
theorem Life.exists_request (h : Life empty calls left walks) (hasked : publicId ∈ left.asked) :
    ∃ walk ∈ walks, ∃ depth, .request depth publicId ∈ walk.visits := by
  have hremembered := (h.asked List.nodup_nil).1
  rw [hremembered, empty, List.append_nil, List.mem_reverse] at hasked
  obtain ⟨walk, hwalk, hmem⟩ := List.mem_flatMap.mp hasked
  obtain ⟨visit, hvisit, hid⟩ := List.mem_filterMap.mp hmem
  cases visit with
  | declaration depth declaration => cases hid
  | request depth other =>
      cases hid
      exact ⟨walk, hwalk, depth, hvisit⟩

-- What has been visited stays so.
theorem invariant_mem_visits (visit : Visit) : Invariant fetch fun walk => visit ∈ walk.visits := by
  have henter : ∀ (walk : Walk) (depth : Nat) (text : String),
      visit ∈ walk.visits → visit ∈ (walk.enter depth text).visits := by
    intro walk depth text h
    rw [Walk.visits_enter]
    exact h
  constructor
  · exact fun _ h => h
  · exact fun _ h => List.mem_append_left _ h
  · exact fun depth text h => henter _ depth text h
  · intro walk depth publicId h
    apply request_kept (P := fun walk => visit ∈ walk.visits) h
    · exact fun _ => List.mem_append_left _ h
    · exact fun _ _ hwalk => hwalk
    · exact henter

-- A request is a call like others: an undisturbed one leaves what it asked for.
theorem knows_consult (h : publicId ∉ entities.asked) (hfetch : fetch publicId = .ok (some text))
    {known : Bool} (hknown : (entities.consult fetch publicId).known = .ok known) :
    (entities.consult fetch publicId).entities.Knows text := by
  let call : Call := ⟨fetch, .publicId publicId⟩
  have hintake : call.intake entities = ⟨none, (entities.consult fetch publicId).entities⟩ := by
    dsimp only [Call.intake, call]
    rw [Consultation.intake, hknown]
  obtain ⟨walk, hwalk, hentities, hfault⟩ := call.exists_mem_eval entities
  rw [hintake] at hentities hfault
  have hlife : Life entities [call] walk.entities [walk] := .call hwalk (.done walk.entities)
  have hstart : Visit.request 0 publicId ∈ (call.start entities).visits := by
    dsimp only [Call.start, call]
    rcases request_cases fetch (Walk.rest entities) 0 publicId with
      ⟨hmem, -⟩ | ⟨-, ⟨fault, -, hfail⟩ | ⟨-, hnone⟩ | ⟨text, -, henter⟩⟩
    · exact absurd hmem h
    · rw [hfail]
      exact List.mem_cons_self
    · rw [hnone]
      exact List.mem_cons_self
    · rw [henter, Walk.visits_enter]
      exact List.mem_cons_self
  have hvisit := (invariant_mem_visits _).of_mem_eval hwalk hstart
  have hcalls : ∀ other ∈ [call], other.fetch = fetch := by
    intro other hother
    rw [List.mem_singleton.mp hother]
  obtain ⟨text?, htext, hall⟩ := hlife.met hcalls List.mem_cons_self hfault hvisit
  rw [hfetch] at htext
  cases htext
  have hknows := hall text rfl (by decide)
  rw [hentities] at hknows
  exact hknows

-- What a first request for an identifier comes to.
theorem consult_cases (h : publicId ∉ entities.asked) :
    (∃ fault, fetch publicId = .error fault ∧
      (entities.consult fetch publicId).known = .error fault) ∨
    (fetch publicId = .ok none ∧ (entities.consult fetch publicId).known = .ok false) ∨
    ∃ text, fetch publicId = .ok (some text) ∧
      ((∃ fault, (entities.consult fetch publicId).known = .error fault) ∨
        (entities.consult fetch publicId).known = .ok true) := by
  rw [consult_eq, consultWith, consultWithM, if_neg (mt List.contains_iff_mem.mp h)]
  dsimp only
  cases hfetch : fetch publicId with
  | error fault => exact .inl ⟨fault, rfl, rfl⟩
  | ok text? =>
      cases text? with
      | none => exact .inr (.inl ⟨rfl, rfl⟩)
      | some text =>
          refine .inr (.inr ⟨text, rfl, ?_⟩)
          dsimp only [bind, pure]
          generalize takeInWithin fetch maxNesting _ text = intake
          obtain ⟨_ | fault, _⟩ := intake
          · exact .inr rfl
          · exact .inl ⟨fault, rfl⟩

-- The text of an identifier can be had, and all entities in it are known.
def Provided (catalog : Catalog) (files : FileSystem) (entities : Entities) (publicId : String) :
    Prop :=
  ∃ text, catalog.Provides files publicId text ∧ entities.Knows text

-- An answer that is in keeping with what the catalog has.
structure Truthful (catalog : Catalog) (files : FileSystem) (publicId : String)
    (answer : Consultation) : Prop where
  unknown : answer.known = .ok false → catalog.contains publicId = false
  known : answer.known = .ok true →
    catalog.contains publicId = true ∧ Provided catalog files answer.entities publicId
  unreadable : ∀ path failure, catalog.source? publicId = some (.file path) →
    files.readText path = .error failure →
    answer.known = .error (.unreachableResource publicId path failure none)

theorem truthful_of_not_mem (h : publicId ∉ entities.asked) :
    Truthful catalog files publicId (entities.consult (catalog.fetch files) publicId) := by
  have hfetch := @consult_cases (catalog.fetch files) _ _ h
  constructor
  · intro hknown
    rcases hfetch with ⟨fault, -, herror⟩ | ⟨hnone, -⟩ | ⟨text, -, ⟨fault, herror⟩ | htrue⟩
    · rw [hknown] at herror
      cases herror
    · exact Catalog.contains_eq_false_of_fetch hnone
    · rw [hknown] at herror
      cases herror
    · rw [hknown] at htrue
      cases htrue
  · intro hknown
    rcases hfetch with ⟨fault, -, herror⟩ | ⟨-, hfalse⟩ | ⟨text, hsome, -⟩
    · rw [hknown] at herror
      cases herror
    · rw [hknown] at hfalse
      cases hfalse
    · have hprovides := Catalog.provides_iff_fetch.mpr hsome
      exact ⟨Catalog.contains_of_provides hprovides, text, hprovides, knows_consult h hsome hknown⟩
  · intro path failure hsource hread
    have herror := Catalog.fetch_of_unreadable hsource hread
    rcases hfetch with ⟨fault, hfault, hknown⟩ | ⟨hnone, -⟩ | ⟨text, hsome, -⟩
    · rw [herror] at hfault
      cases hfault
      exact hknown
    · rw [herror] at hnone
      cases hnone
    · rw [herror] at hsome
      cases hsome

theorem truthful_of_mem_iff (h : publicId ∈ entities.asked) :
    Truthful catalog files publicId (entities.consult (catalog.fetch files) publicId) ↔
      Provided catalog files entities publicId := by
  rw [consult_eq, consultWith_of_mem h]
  constructor
  · intro htruthful
    exact (htruthful.known rfl).2
  · rintro ⟨text, hprovides, hall⟩
    refine ⟨nofun, fun _ => ⟨Catalog.contains_of_provides hprovides, text, hprovides, hall⟩, ?_⟩
    intro path failure hsource hread
    rw [Catalog.provides_iff_fetch, Catalog.fetch_of_unreadable hsource hread] at hprovides
    cases hprovides

-- An answer is truthful for an identifier that has not been asked for before, and otherwise exactly
-- when all that the identifier stands for is known by then. That is so if each call in which it was
-- asked for came to an end without a fault, not at the deepest level, and the catalog has it.
theorem truthful_consult_iff (catalog : Catalog) (files : FileSystem) (demands : List Demand)
    (publicId : String) :
    let calls := demands.map (Call.mk (catalog.fetch files))
    let entities := after calls empty
    let answer := entities.consult (catalog.fetch files) publicId
    (Truthful catalog files publicId answer ↔
      (publicId ∈ entities.asked → Provided catalog files entities publicId)) ∧
    ∀ walks, Life empty calls entities walks →
      (∀ walk ∈ walks, ∀ depth, .request depth publicId ∈ walk.visits →
        walk.fault = none ∧ depth < maxNesting ∧ catalog.contains publicId = true) →
      Truthful catalog files publicId answer := by
  intro calls entities answer
  have hiff : Truthful catalog files publicId answer ↔
      (publicId ∈ entities.asked → Provided catalog files entities publicId) := by
    by_cases hasked : publicId ∈ entities.asked
    · rw [truthful_of_mem_iff hasked]
      exact ⟨fun hprovided _ => hprovided, fun hall => hall hasked⟩
    · exact ⟨fun _ hmem => absurd hmem hasked, fun _ => truthful_of_not_mem hasked⟩
  refine ⟨hiff, fun walks hlife hrequests => hiff.mpr fun hasked => ?_⟩
  have hcalls : ∀ call ∈ calls, call.fetch = catalog.fetch files := by
    intro call hcall
    obtain ⟨demand, -, rfl⟩ := List.mem_map.mp hcall
    rfl
  obtain ⟨walk, hwalk, depth, hvisit⟩ := hlife.exists_request hasked
  obtain ⟨hfault, hdepth, hcontains⟩ := hrequests walk hwalk depth hvisit
  obtain ⟨text?, hfetch, hall⟩ := hlife.met hcalls hwalk hfault hvisit
  cases text? with
  | none =>
      rw [Catalog.contains_eq_false_of_fetch hfetch] at hcontains
      cases hcontains
  | some text => exact ⟨text, Catalog.provides_iff_fetch.mpr hfetch, hall text rfl hdepth⟩

-- A catalog of one small definition.
def oneDefinition : Catalog :=
  Catalog.empty.insert "-//X//EN" (.bundled "<!ENTITY a '1'>")

theorem truthful_consult_oneDefinition :
    let fetch := oneDefinition.fetch fun _ => .error .notFound
    let entities := after [⟨fetch, .publicId "-//X//EN"⟩] empty
    "-//X//EN" ∈ entities.asked ∧
      Truthful oneDefinition (fun _ => .error .notFound) "-//X//EN"
        (entities.consult fetch "-//X//EN") := by
  intro fetch entities
  have hasked : "-//X//EN" ∈ entities.asked := by
    decide +kernel
  have hprovides :
      oneDefinition.Provides (fun _ => .error .notFound) "-//X//EN" "<!ENTITY a '1'>" :=
    .inl (by decide +kernel)
  have hdeclared : Dtd.declarations "<!ENTITY a '1'>" = [.general "a" "1"] := by
    decide +kernel
  have hvalue : entities.get? "a" = some "1" := by
    decide +kernel
  have hknows : entities.Knows "<!ENTITY a '1'>" := by
    intro name value hmem
    rw [hdeclared] at hmem
    cases List.mem_singleton.mp hmem
    exact ⟨"1", hvalue⟩
  have htruthful := truthful_consult_iff oneDefinition (fun _ => .error .notFound)
    [.publicId "-//X//EN"] "-//X//EN"
  exact ⟨hasked, htruthful.1.mpr fun _ => ⟨_, hprovides, hknows⟩⟩

-- Without anything to look in, the second answer for an identifier is that it is known.
theorem not_truthful_consult_unknown :
    let files : FileSystem := fun _ => .error .notFound
    let fetch := Catalog.empty.fetch files
    let entities := after [⟨fetch, .publicId "-//X//EN"⟩] empty
    (entities.consult fetch "-//X//EN").known = .ok true ∧
      ¬Truthful Catalog.empty files "-//X//EN" (entities.consult fetch "-//X//EN") := by
  intro files fetch entities
  have hknown : (entities.consult fetch "-//X//EN").known = .ok true := by
    decide +kernel
  have hcontains : Catalog.empty.contains "-//X//EN" = false := by
    decide +kernel
  refine ⟨hknown, fun htruthful => ?_⟩
  have habsent := (htruthful.known hknown).1
  rw [hcontains] at habsent
  cases habsent

end Truth

end Entities

end TemplateMarkup
