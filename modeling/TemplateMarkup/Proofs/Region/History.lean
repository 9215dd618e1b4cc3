import TemplateMarkup.Proofs.Keyed
import TemplateMarkup.Text.Lowercase
import TemplateMarkup.Token

namespace TemplateMarkup

-- What has become of the tokens of a run. A region is an element that takes the tokens inside it
-- for an override. Regions are numbered in the order in which they are opened.
structure History where
  -- The ids of the regions by their numbers.
  regions : List String
  -- The tokens in the order in which they were pushed, each with the region that was the innermost
  -- open one at that moment.
  pushes : List (Option Nat × Token)
  -- The open elements, innermost first. A region has its number.
  opened : List (Option Nat)
  -- The closed regions, the last closed one first.
  closed : List Nat
  deriving Repr

namespace History

def empty : History :=
  ⟨[], [], [], []⟩

-- The open regions, innermost first.
def openRegions (history : History) : List Nat :=
  history.opened.filterMap id

def push (history : History) (tokens : Array Token) : History :=
  { history with
    pushes := history.pushes ++ tokens.toList.map fun token => (history.openRegions.head?, token) }

-- An element begins, which may be a region of some id.
def enter (history : History) : Option String → History
  | none => { history with opened := none :: history.opened }
  | some id =>
    { history with
      regions := history.regions ++ [id]
      opened := some history.regions.length :: history.opened }

def leave (history : History) : History :=
  match history.opened with
  | [] => history
  | none :: outer => { history with opened := outer }
  | some region :: outer => { history with opened := outer, closed := region :: history.closed }

-- The tokens pushed in a region, or outside of all regions.
def owned (history : History) (owner : Option Nat) : List Token :=
  (history.pushes.filter fun push => push.1 == owner).map Prod.snd

-- The ids of the regions up to case, as they were first written.
def ids (history : History) : List String :=
  history.regions.eraseDupsBy fun id known => Text.lowercase id == Text.lowercase known

def isNamed (history : History) (id : String) (region : Nat) : Bool :=
  history.regions[region]?.any fun name => Text.lowercase name == Text.lowercase id

-- The region of an id that was closed last.
def lastClosed? (history : History) (id : String) : Option Nat :=
  history.closed.find? (history.isNamed id)

-- The tokens of that region.
def closedTokens? (history : History) (id : String) : Option (List Token) :=
  (history.lastClosed? id).map fun region => history.owned (some region)

-- Numbers are given once, regions are closed once, and tokens belong to regions that there are.
structure Sound (history : History) : Prop where
  opened : history.openRegions.Nodup
  known : ∀ region ∈ history.openRegions, region < history.regions.length
  closed : ∀ region ∈ history.closed,
    region < history.regions.length ∧ region ∉ history.openRegions
  pushes : ∀ push ∈ history.pushes, ∀ region, push.1 = some region → region < history.regions.length

variable {history : History}

theorem owned_push (history : History) (tokens : Array Token) (owner : Option Nat) :
    (history.push tokens).owned owner =
      history.owned owner ++ if owner = history.openRegions.head? then tokens.toList else [] := by
  simp only [owned, push, List.filter_append, List.map_append]
  congr 1
  by_cases h : owner = history.openRegions.head?
  · simp [h, List.filter_map, Function.comp_def]
  · simp [h, List.filter_map, Function.comp_def, Ne.symm h]

theorem push_push (history : History) (first second : Array Token) :
    (history.push first).push second = history.push (first ++ second) := by
  simp [push, openRegions]

theorem push_empty (history : History) : history.push #[] = history := by
  simp [push]

theorem Sound.owned_eq_nil (h : history.Sound) {region : Nat}
    (hregion : history.regions.length ≤ region) : history.owned (some region) = [] := by
  have hnone : history.pushes.filter (fun push => push.1 == some region) = [] := by
    rw [List.filter_eq_nil_iff]
    intro push hm hp
    have hlt := h.pushes push hm region (beq_iff_eq.mp hp)
    omega
  rw [owned, hnone, List.map_nil]

theorem Sound.push (h : history.Sound) (tokens : Array Token) : (history.push tokens).Sound where
  opened := h.opened
  known := h.known
  closed := h.closed
  pushes push hm region hp := by
    rcases List.mem_append.mp hm with hm | hm
    · exact h.pushes push hm region hp
    · obtain ⟨token, -, rfl⟩ := List.mem_map.mp hm
      exact h.known region (List.mem_of_mem_head? hp)

theorem sound_empty : empty.Sound :=
  ⟨List.nodup_nil, by simp [openRegions, empty], by simp [empty], by simp [empty]⟩

theorem Sound.enter (h : history.Sound) (id : Option String) : (history.enter id).Sound := by
  cases id with
  | none => exact ⟨h.opened, h.known, h.closed, h.pushes⟩
  | some id =>
      have hnew : history.regions.length ∉ history.openRegions := fun hm =>
        Nat.lt_irrefl _ (h.known _ hm)
      have hlength : (history.enter (some id)).regions.length = history.regions.length + 1 := by
        simp [History.enter]
      refine ⟨List.nodup_cons.mpr ⟨hnew, h.opened⟩, ?_, ?_, ?_⟩
      · intro region hm
        rw [hlength]
        rcases List.mem_cons.mp hm with rfl | hm
        · omega
        · have hlt := h.known region hm
          omega
      · intro region hm
        rw [hlength]
        obtain ⟨hlt, hopen⟩ := h.closed region hm
        refine ⟨by omega, fun hm => ?_⟩
        rcases List.mem_cons.mp hm with rfl | hm
        · omega
        · exact hopen hm
      · intro push hm region hp
        rw [hlength]
        have hlt := h.pushes push hm region hp
        omega

theorem Sound.leave (h : history.Sound) : history.leave.Sound := by
  obtain ⟨regions, pushes, opened, closed⟩ := history
  match opened with
  | [] => exact h
  | none :: outer => exact ⟨h.opened, h.known, h.closed, h.pushes⟩
  | some region :: outer =>
      obtain ⟨hregion, houter⟩ := List.nodup_cons.mp h.opened
      refine ⟨houter, fun other hm => h.known other (List.mem_cons_of_mem _ hm), ?_, h.pushes⟩
      intro other hm
      rcases List.mem_cons.mp hm with rfl | hm
      · exact ⟨h.known other List.mem_cons_self, hregion⟩
      · obtain ⟨hlt, hopen⟩ := h.closed other hm
        exact ⟨hlt, fun hm => hopen (List.mem_cons_of_mem _ hm)⟩

-- The name of a region stays the same when others are opened.
theorem isNamed_enter (id : String) {region : Nat} (h : region < history.regions.length)
    (other : Option String) :
    (history.enter other).isNamed id region = history.isNamed id region := by
  cases other with
  | none => rfl
  | some other => simp [isNamed, enter, List.getElem?_append_left h]

theorem isNamed_new (history : History) (id other : String) :
    (history.enter (some id)).isNamed other history.regions.length =
      (Text.lowercase id == Text.lowercase other) := by
  simp [isNamed, enter]

theorem ids_enter (history : History) (id : String) :
    (history.enter (some id)).ids =
      history.ids ++
        if ∃ known ∈ history.ids, Text.lowercase known = Text.lowercase id then [] else [id] := by
  simp only [ids, enter, eraseDupsBy_concat, exists_mem_eraseDupsBy]

@[simp] theorem ids_leave (history : History) : history.leave.ids = history.ids := by
  unfold leave
  split <;> rfl

@[simp] theorem regions_leave (history : History) : history.leave.regions = history.regions := by
  unfold leave
  split <;> rfl

theorem isNamed_leave (history : History) (id : String) :
    history.leave.isNamed id = history.isNamed id := by
  funext region
  rw [isNamed, regions_leave, isNamed]

@[simp] theorem owned_enter (history : History) (id : Option String) (owner : Option Nat) :
    (history.enter id).owned owner = history.owned owner := by
  cases id <;> rfl

@[simp] theorem owned_leave (history : History) (owner : Option Nat) :
    history.leave.owned owner = history.owned owner := by
  unfold leave
  split <;> rfl

-- Closed regions take no more tokens.
theorem Sound.closedTokens?_push (h : history.Sound) (tokens : Array Token) (id : String) :
    (history.push tokens).closedTokens? id = history.closedTokens? id := by
  refine Option.map_congr fun region hregion => ?_
  have hclosed := (h.closed region (List.mem_of_find?_eq_some hregion)).2
  have hne : some region ≠ history.openRegions.head? := fun he =>
    hclosed (List.mem_of_mem_head? he.symm)
  rw [owned_push, if_neg hne, List.append_nil]

theorem Sound.closedTokens?_enter (h : history.Sound) (other : Option String) (id : String) :
    (history.enter other).closedTokens? id = history.closedTokens? id := by
  have hclosed : (history.enter other).closed = history.closed := by cases other <;> rfl
  have hfind : (history.enter other).lastClosed? id = history.lastClosed? id := by
    rw [lastClosed?, hclosed]
    exact List.find?_congr fun region hm => isNamed_enter id (h.closed region hm).1 other
  simp only [closedTokens?, hfind, owned_enter]

theorem leave_of_none {outer : List (Option Nat)} (h : history.opened = none :: outer) :
    history.leave = { history with opened := outer } := by
  simp only [leave, h]

theorem leave_of_some {outer : List (Option Nat)} {region : Nat}
    (h : history.opened = some region :: outer) :
    history.leave = { history with opened := outer, closed := region :: history.closed } := by
  simp only [leave, h]

theorem closedTokens?_leave {outer : List (Option Nat)} {region : Nat}
    (h : history.opened = some region :: outer) (id : String) :
    history.leave.closedTokens? id =
      if history.isNamed id region = true then some (history.owned (some region))
      else history.closedTokens? id := by
  have hclosed : history.leave.closed = region :: history.closed := by rw [leave_of_some h]
  rw [closedTokens?, lastClosed?, isNamed_leave, hclosed, List.find?_cons]
  cases history.isNamed id region with
  | true => simp
  | false => simp [closedTokens?, lastClosed?]

end History

end TemplateMarkup
