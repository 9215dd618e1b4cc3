import TemplateMarkup.Proofs.Entities.Walk

namespace TemplateMarkup.Entities

open StateTransition (eval mem_eval)

-- What a table is asked to take in.
inductive Demand where
  | text (text : String)
  | publicId (publicId : String)

-- A demand with the way in which texts are found while it is met.
structure Call where
  fetch : String → Except Fault (Option String)
  demand : Demand

namespace Call

variable (call : Call) (entities : Entities)

def intake : Intake :=
  match call.demand with
  | .text text => entities.takeIn call.fetch text
  | .publicId publicId => (entities.consult call.fetch publicId).intake

-- Where reading starts.
def start : Walk :=
  match call.demand with
  | .text text => (Walk.rest entities).enter 0 text
  | .publicId publicId => (Walk.rest entities).request call.fetch 0 publicId

theorem brings_intake : Brings call.fetch (call.start entities) (Walk.rest entities)
    (call.intake entities) := by
  obtain ⟨fetch, demand⟩ := call
  have houtermost := @follows_takeInWithin fetch 0 (maxNesting + 1) rfl
  have hbelow := @follows_takeInWithin fetch 1 maxNesting rfl
  cases demand with
  | text text => exact houtermost (Walk.rest entities) text
  | publicId publicId => exact brings_request hbelow (Walk.rest entities) publicId

-- Reading ends, with what a call leaves.
theorem exists_mem_eval : ∃ last ∈ eval (Walk.step call.fetch) (call.start entities),
    last.entities = (call.intake entities).entities ∧
      last.fault = (call.intake entities).fault := by
  obtain ⟨visits, hreaches⟩ := call.brings_intake entities
  refine ⟨_, mem_eval.mpr ⟨hreaches, ?_⟩, ?_⟩
  · unfold Walk.leave
    cases (call.intake entities).fault with
    | none => rfl
    | some fault => rfl
  · unfold Walk.leave
    cases hfault : (call.intake entities).fault with
    | none => exact ⟨rfl, rfl⟩
    | some fault => exact ⟨rfl, rfl⟩

end Call

-- The calls on a table, with what it holds at the end of them and the walk that each leads to.
inductive Life : Entities → List Call → Entities → List Walk → Prop where
  | done (entities : Entities) : Life entities [] entities []
  | call {call : Call} {calls : List Call} {entities left : Entities} {walk : Walk}
      {walks : List Walk} (hwalk : walk ∈ eval (Walk.step call.fetch) (call.start entities))
      (h : Life walk.entities calls left walks) : Life entities (call :: calls) left (walk :: walks)

-- What a table holds behind calls.
def after (calls : List Call) (entities : Entities) : Entities :=
  calls.foldl (fun entities call => (call.intake entities).entities) entities

-- Every call ends, and in one way.
theorem exists_life_iff (calls : List Call) (entities : Entities) :
    ∃ walks, ∀ left others,
      Life entities calls left others ↔ left = after calls entities ∧ others = walks := by
  induction calls generalizing entities with
  | nil =>
      refine ⟨[], fun left others => ⟨?_, ?_⟩⟩
      · rintro ⟨⟩
        exact ⟨rfl, rfl⟩
      · rintro ⟨rfl, rfl⟩
        exact .done _
  | cons call calls ih =>
      obtain ⟨walk, hwalk, hentities, -⟩ := call.exists_mem_eval entities
      obtain ⟨walks, hwalks⟩ := ih walk.entities
      refine ⟨walk :: walks, fun left others => ⟨?_, ?_⟩⟩
      · rintro (_ | ⟨hother, hlife⟩)
        rw [Part.mem_unique hother hwalk] at hlife ⊢
        obtain ⟨hleft, hothers⟩ := (hwalks _ _).mp hlife
        rw [hleft, hothers, hentities]
        exact ⟨rfl, rfl⟩
      · rintro ⟨rfl, rfl⟩
        refine .call hwalk ((hwalks _ _).mpr ⟨?_, rfl⟩)
        rw [hentities]
        rfl

section Requests

variable {fetch : String → Except Fault (Option String)} {walk : Walk} {depth : Nat}
  {publicId : String}

-- The answers that a request can get.
theorem request_cases (fetch : String → Except Fault (Option String)) (walk : Walk) (depth : Nat)
    (publicId : String) :
    publicId ∈ walk.entities.asked ∧ walk.request fetch depth publicId = walk ∨
    publicId ∉ walk.entities.asked ∧
      ((∃ fault, fetch publicId = .error fault ∧
          walk.request fetch depth publicId = (walk.ask depth publicId).fail fault) ∨
        (fetch publicId = .ok none ∧
          walk.request fetch depth publicId = walk.ask depth publicId) ∨
        ∃ text, fetch publicId = .ok (some text) ∧
          walk.request fetch depth publicId =
            (walk.ask depth publicId).enter (depth + 1) text) := by
  unfold Walk.request
  by_cases hasked : publicId ∈ walk.entities.asked
  · rw [if_pos (List.contains_iff_mem.mpr hasked)]
    exact .inl ⟨hasked, rfl⟩
  · rw [if_neg (mt List.contains_iff_mem.mp hasked)]
    refine .inr ⟨hasked, ?_⟩
    cases fetch publicId with
    | error fault => exact .inl ⟨fault, rfl, rfl⟩
    | ok text? =>
        cases text? with
        | none => exact .inr (.inl ⟨rfl, rfl⟩)
        | some text => exact .inr (.inr ⟨text, rfl, rfl⟩)

-- A request keeps what its parts keep.
theorem request_kept {P : Walk → Prop} (h : P walk)
    (hask : publicId ∉ walk.entities.asked → P (walk.ask depth publicId))
    (hfail : ∀ walk fault, P walk → P (Walk.fail walk fault))
    (henter : ∀ walk depth text, P walk → P (Walk.enter walk depth text)) :
    P (walk.request fetch depth publicId) := by
  rcases request_cases fetch walk depth publicId with
    ⟨-, hsame⟩ | ⟨hnew, ⟨fault, -, hfailed⟩ | ⟨-, hnone⟩ | ⟨text, -, hsome⟩⟩
  · rw [hsame]
    exact h
  · rw [hfailed]
    exact hfail _ fault (hask hnew)
  · rw [hnone]
    exact hask hnew
  · rw [hsome]
    exact henter _ (depth + 1) text (hask hnew)

end Requests

-- A property of walks that all parts of reading keep. A reference counts as declared, without
-- effect, before what it brings in is entered or asked for.
structure Invariant (fetch : String → Except Fault (Option String)) (P : Walk → Prop) : Prop where
  finish : ∀ {walk : Walk} {depth : Nat} {outer : List Level},
    walk.levels = ⟨depth, []⟩ :: outer → P walk → P { walk with levels := outer }
  declare : ∀ {walk : Walk} {depth : Nat} {declaration : Dtd.Declaration}
    {more : List Dtd.Declaration} {outer : List Level},
    walk.levels = ⟨depth, declaration :: more⟩ :: outer → P walk →
      P { walk.past depth declaration more outer with
        entities := walk.entities.declare declaration }
  enter : ∀ {walk : Walk} (depth : Nat) (text : String), P walk → P (walk.enter depth text)
  request : ∀ {walk : Walk} (depth : Nat) (publicId : String), P walk →
    P (walk.request fetch depth publicId)

namespace Invariant

variable {fetch : String → Except Fault (Option String)} {P : Walk → Prop}
  {walk next first last : Walk}

theorem take {depth : Nat} {declaration : Dtd.Declaration} {more : List Dtd.Declaration}
    {outer : List Level} (h : Invariant fetch P)
    (hlevels : walk.levels = ⟨depth, declaration :: more⟩ :: outer) (hwalk : P walk) :
    P ((walk.past depth declaration more outer).take fetch depth declaration) := by
  have hpast := h.declare hlevels hwalk
  cases declaration with
  | general name value => exact hpast
  | parameter name entity => exact hpast
  | reference name =>
      rw [Walk.take]
      split
      · exact h.enter (depth + 1) _ hpast
      · exact h.request depth _ hpast
      · exact hpast

theorem step (h : Invariant fetch P) (hstep : walk.step fetch = some next) (hwalk : P walk) :
    P next := by
  unfold Walk.step at hstep
  split at hstep
  · cases hstep
  · rename_i hlevels
    cases hstep
    exact h.finish hlevels hwalk
  · rename_i hlevels
    cases hstep
    exact h.take hlevels hwalk

-- What every step keeps is kept until the end.
theorem of_mem_eval (h : Invariant fetch P) (hlast : last ∈ eval (Walk.step fetch) first)
    (hfirst : P first) : P last := by
  obtain ⟨hreaches, -⟩ := mem_eval.mp hlast
  clear hlast
  induction hreaches with
  | refl => exact hfirst
  | tail _ hstep ih => exact h.step hstep ih

theorem of_call {call : Call} {entities : Entities} (h : Invariant call.fetch P)
    (hlast : last ∈ eval (Walk.step call.fetch) (call.start entities))
    (hrest : P (Walk.rest entities)) : P last := by
  apply h.of_mem_eval hlast
  unfold Call.start
  split
  · exact h.enter 0 _ hrest
  · exact h.request 0 _ hrest

end Invariant

-- A property of what is known that neither a declaration nor a request ends.
structure Lasting (P : Entities → Prop) : Prop where
  declare : ∀ {entities : Entities} (declaration : Dtd.Declaration), P entities →
    P (entities.declare declaration)
  ask : ∀ {entities : Entities} (publicId : String), P entities →
    P { entities with asked := publicId :: entities.asked }

theorem Lasting.invariant {fetch : String → Except Fault (Option String)} {P : Entities → Prop}
    (h : Lasting P) : Invariant fetch fun walk => P walk.entities := by
  have henter : ∀ (walk : Walk) (depth : Nat) (text : String),
      P walk.entities → P (walk.enter depth text).entities := by
    intro walk depth text hwalk
    rw [Walk.entities_enter]
    exact hwalk
  constructor
  · exact fun _ hwalk => hwalk
  · exact fun _ hwalk => h.declare _ hwalk
  · exact fun depth text hwalk => henter _ depth text hwalk
  · intro walk depth publicId hwalk
    apply request_kept (P := fun walk => P walk.entities) hwalk
    · exact fun _ => h.ask publicId hwalk
    · exact fun _ _ hnext => hnext
    · exact henter

section Depth

variable {fetch : String → Except Fault (Option String)} {walk : Walk} {depth : Nat}

-- Nothing is read below the deepest level.
structure Shallow (walk : Walk) : Prop where
  levels : ∀ level ∈ walk.levels, level.depth ≤ maxNesting
  visits : ∀ depth declaration, .declaration depth declaration ∈ walk.visits → depth ≤ maxNesting

namespace Shallow

theorem rest (entities : Entities) : Shallow (Walk.rest entities) :=
  ⟨nofun, nofun⟩

theorem enter (h : Shallow walk) (depth : Nat) (text : String) :
    Shallow (walk.enter depth text) := by
  unfold Walk.enter
  split
  · exact h
  · rename_i hdepth
    refine ⟨fun level hlevel => ?_, h.visits⟩
    rcases List.mem_cons.mp hlevel with rfl | houter
    · exact Nat.le_of_not_lt hdepth
    · exact h.levels level houter

theorem past {declaration : Dtd.Declaration} {more : List Dtd.Declaration} {outer : List Level}
    (h : Shallow walk) (hlevels : walk.levels = ⟨depth, declaration :: more⟩ :: outer) :
    Shallow (walk.past depth declaration more outer) := by
  have hdepth : depth ≤ maxNesting := by
    apply h.levels ⟨depth, declaration :: more⟩
    rw [hlevels]
    exact List.mem_cons_self
  constructor
  · intro level hlevel
    rcases List.mem_cons.mp hlevel with rfl | houter
    · exact hdepth
    · apply h.levels level
      rw [hlevels]
      exact List.mem_cons_of_mem _ houter
  · intro other visited hvisit
    rcases List.mem_append.mp hvisit with hbefore | hhere
    · exact h.visits other visited hbefore
    · cases List.mem_singleton.mp hhere
      exact hdepth

theorem ask (h : Shallow walk) (depth : Nat) (publicId : String) :
    Shallow (walk.ask depth publicId) := by
  refine ⟨h.levels, fun other visited hvisit => ?_⟩
  rcases List.mem_append.mp hvisit with hbefore | hhere
  · exact h.visits other visited hbefore
  · cases List.mem_singleton.mp hhere

theorem invariant : Invariant fetch Shallow where
  finish := by
    intro walk depth outer hlevels h
    refine ⟨fun level hlevel => h.levels level ?_, h.visits⟩
    rw [hlevels]
    exact List.mem_cons_of_mem _ hlevel
  declare := fun hlevels h => ⟨(h.past hlevels).levels, (h.past hlevels).visits⟩
  enter := fun depth text h => h.enter depth text
  request := fun depth publicId h =>
    request_kept h (fun _ => h.ask depth publicId) (fun _ _ hwalk => ⟨nofun, hwalk.visits⟩)
      (fun _ depth text hwalk => hwalk.enter depth text)

end Shallow

end Depth

section Asking

variable {fetch : String → Except Fault (Option String)} {walk : Walk} {before : List String}

-- The identifiers that a walk has asked for are remembered on top of those before, each once.
structure Remembers (before : List String) (walk : Walk) : Prop where
  asked : walk.entities.asked = (walk.visits.filterMap Visit.asked?).reverse ++ before
  once : walk.entities.asked.Nodup

namespace Remembers

theorem rest {entities : Entities} (h : entities.asked.Nodup) :
    Remembers entities.asked (Walk.rest entities) :=
  ⟨rfl, h⟩

theorem enter (h : Remembers before walk) (depth : Nat) (text : String) :
    Remembers before (walk.enter depth text) := by
  constructor
  · simpa using h.asked
  · simpa using h.once

theorem declare (h : Remembers before walk) (depth : Nat) (declaration : Dtd.Declaration)
    (more : List Dtd.Declaration) (outer : List Level) :
    Remembers before { walk.past depth declaration more outer with
      entities := walk.entities.declare declaration } := by
  have hasked := asked_declare walk.entities declaration
  have hnone : [Visit.declaration depth declaration].filterMap Visit.asked? = [] := rfl
  constructor
  · rw [hasked, Walk.past, List.filterMap_append, hnone, List.append_nil]
    exact h.asked
  · rw [hasked]
    exact h.once

theorem ask (h : Remembers before walk) (depth : Nat) {publicId : String}
    (hnew : publicId ∉ walk.entities.asked) : Remembers before (walk.ask depth publicId) := by
  refine ⟨?_, List.nodup_cons.mpr ⟨hnew, h.once⟩⟩
  simp [Walk.ask, Visit.asked?, h.asked]

theorem invariant : Invariant fetch (Remembers before) where
  finish := fun _ h => ⟨h.asked, h.once⟩
  declare := fun _ h => h.declare _ _ _ _
  enter := fun depth text h => h.enter depth text
  request := fun depth _ h =>
    request_kept h (h.ask depth) (fun _ _ hwalk => ⟨hwalk.asked, hwalk.once⟩)
      (fun _ depth text hwalk => hwalk.enter depth text)

end Remembers

end Asking

section Lives

variable {calls : List Call} {entities left : Entities} {walks : List Walk}

theorem Life.shallow (h : Life entities calls left walks) :
    ∀ walk ∈ walks, Shallow walk := by
  induction h with
  | done entities => exact nofun
  | call hwalk _ ih =>
      intro walk hmem
      rcases List.mem_cons.mp hmem with rfl | hlater
      · exact Shallow.invariant.of_call hwalk (Shallow.rest _)
      · exact ih walk hlater

theorem Life.asked (h : Life entities calls left walks) (hentities : entities.asked.Nodup) :
    left.asked = (walks.flatMap fun walk => walk.visits.filterMap Visit.asked?).reverse ++
      entities.asked ∧ left.asked.Nodup := by
  induction h with
  | done entities => exact ⟨rfl, hentities⟩
  | call hwalk _ ih =>
      have hhere := Remembers.invariant.of_call hwalk (Remembers.rest hentities)
      obtain ⟨hleft, honce⟩ := ih hhere.once
      refine ⟨?_, honce⟩
      rw [hleft, hhere.asked, List.flatMap_cons, List.reverse_append, List.append_assoc]

-- Calls on a new table end one after the other, in one way. No declaration is read deeper than
-- eight levels down, and no public identifier is asked for twice.
theorem exists_life (calls : List Call) :
    ∃ walks,
      (∀ left others, Life empty calls left others ↔ left = after calls empty ∧ others = walks) ∧
      (∀ walk ∈ walks, ∀ depth declaration,
        .declaration depth declaration ∈ walk.visits → depth ≤ 8) ∧
      (walks.flatMap fun walk => walk.visits.filterMap Visit.asked?).Nodup := by
  obtain ⟨walks, hwalks⟩ := exists_life_iff calls empty
  have hlife : Life empty calls (after calls empty) walks := (hwalks _ _).mpr ⟨rfl, rfl⟩
  refine ⟨walks, hwalks, fun walk hmem => (hlife.shallow walk hmem).visits, ?_⟩
  obtain ⟨hasked, honce⟩ := hlife.asked List.nodup_nil
  rw [hasked] at honce
  exact List.nodup_reverse.mp (List.nodup_append.mp honce).1

-- A parameter entity that brings in itself, and definitions that bring in each other.
def circular : List Call :=
  let fetch (publicId : String) : Except Fault (Option String) :=
    if publicId = "one" then .ok (some "<!ENTITY % two PUBLIC 'two' 'two.ent'>%two;<!ENTITY a '1'>")
    else if publicId = "two" then
      .ok (some "<!ENTITY % one PUBLIC 'one' 'one.ent'>%one;<!ENTITY b '2'>")
    else .ok none
  [⟨fetch, .text "<!ENTITY % self '%self;'>%self;"⟩, ⟨fetch, .publicId "one"⟩,
    ⟨fetch, .publicId "two"⟩]

theorem exists_life_circular :
    (after circular empty).asked = ["two", "one"] ∧ (after circular empty).get? "b" = some "2" ∧
    ∃ walks,
      (∀ left others, Life empty circular left others ↔
        left = after circular empty ∧ others = walks) ∧
      (∀ walk ∈ walks, ∀ depth declaration,
        .declaration depth declaration ∈ walk.visits → depth ≤ 8) ∧
      (walks.flatMap fun walk => walk.visits.filterMap Visit.asked?).Nodup := by
  have hasked : (after circular empty).asked = ["two", "one"] := by
    decide +kernel
  have hdefined : (after circular empty).get? "b" = some "2" := by
    decide +kernel
  exact ⟨hasked, hdefined, exists_life circular⟩

end Lives

end TemplateMarkup.Entities
