import TemplateMarkup.Event
import TemplateMarkup.Proofs.Token.Order

namespace TemplateMarkup

-- Whether a token begins an element or a component.
def TokenForm.isStart : TokenForm → Bool
  | .startElement .. | .startComponent .. => true
  | _ => false

-- A token with the position of the event that it comes from.
structure TracedToken where
  position : Nat
  token : Token
  deriving DecidableEq, Repr

namespace TracedToken

def isBinding (traced : TracedToken) : Bool :=
  traced.token.isBinding

def isStart (traced : TracedToken) : Bool :=
  traced.token.form.isStart

-- A binding comes from one of the same label and namespace, and a start token from the start of
-- an element, each on its own line. Of other tokens nothing is said.
def StemsFrom (events : List PlacedEvent) (traced : TracedToken) : Prop :=
  match traced.token.form with
  | .binding uri label =>
    events[traced.position]? = some ⟨traced.token.location.line, .binding label uri⟩
  | .startElement .. | .startComponent .. =>
    ∃ uri name attributes, events[traced.position]? =
      some ⟨traced.token.location.line, .elementStart uri name attributes⟩
  | _ => True

-- Every binding stands behind a start token with only bindings between the two, and the events
-- that they come from are related.
def Attached (related : Nat → Nat → Prop) (tokens : List TracedToken) : Prop :=
  ∀ before bound after, tokens = before ++ bound :: after → bound.isBinding = true →
    ∃ front start between, before = front ++ start :: between ∧ start.isStart = true ∧
      (∀ other ∈ between, other.isBinding = true) ∧ related bound.position start.position

-- The bindings come from different events, in the order of these.
def InTurn (tokens : List TracedToken) : Prop :=
  (tokens.filter isBinding).Pairwise fun first second => first.position < second.position

theorem isBinding_of_isStart {traced : TracedToken} (h : traced.isStart = true) :
    traced.isBinding = false := by
  unfold isStart TokenForm.isStart at h
  unfold isBinding Token.isBinding
  split at h <;> simp_all [TokenForm.isBinding]

theorem stemsFrom_of_quiet {events : List PlacedEvent} {traced : TracedToken}
    (hbinding : traced.isBinding = false) (hstart : traced.isStart = false) :
    traced.StemsFrom events := by
  unfold StemsFrom
  unfold isBinding Token.isBinding TokenForm.isBinding at hbinding
  unfold isStart TokenForm.isStart at hstart
  split <;> simp_all

theorem stemsFrom_of_isStart {events : List PlacedEvent} {traced : TracedToken}
    (hstart : traced.isStart = true) {uri : Option String} {name : String}
    {attributes : List Attribute}
    (hevent : events[traced.position]? =
      some ⟨traced.token.location.line, .elementStart uri name attributes⟩) :
    traced.StemsFrom events := by
  unfold StemsFrom
  unfold isStart TokenForm.isStart at hstart
  split
  · simp_all
  · exact ⟨uri, name, attributes, hevent⟩
  · exact ⟨uri, name, attributes, hevent⟩
  · trivial

section Attachment

variable {related : Nat → Nat → Prop} {first second tokens : List TracedToken}

theorem attached_of_no_binding (h : ∀ entry ∈ tokens, entry.isBinding = false) :
    Attached related tokens := by
  rintro before bound after rfl hbinding
  rw [h bound (List.mem_append_right _ List.mem_cons_self)] at hbinding
  cases hbinding

theorem Attached.append (h : Attached related first) (hs : Attached related second) :
    Attached related (first ++ second) := by
  intro before bound after heq hbinding
  rcases List.append_eq_append_iff.mp heq with ⟨inner, rfl, hsecond⟩ | ⟨inner, hfirst, hafter⟩
  · obtain ⟨front, start, between, rfl, hstart⟩ := hs inner bound after hsecond hbinding
    exact ⟨first ++ front, start, between, (List.append_assoc ..).symm, hstart⟩
  · cases inner with
    | nil =>
        obtain ⟨front, start, between, hempty, -⟩ := hs [] bound after hafter.symm hbinding
        exact absurd hempty (by simp)
    | cons other inner =>
        cases hafter
        exact h before bound inner hfirst hbinding

theorem Attached.imp {other : Nat → Nat → Prop} (h : Attached related tokens)
    (himp : ∀ n m, related n m → other n m) : Attached other tokens := by
  intro before bound after heq hbinding
  obtain ⟨front, start, between, hbefore, hstart, hbetween, hrelated⟩ :=
    h before bound after heq hbinding
  exact ⟨front, start, between, hbefore, hstart, hbetween, himp _ _ hrelated⟩

-- A start token with the bindings that it takes along.
theorem attached_start {start : TracedToken} {bound : List TracedToken}
    (hstart : start.isStart = true) (hbound : ∀ entry ∈ bound, entry.isBinding = true)
    (hrelated : ∀ entry ∈ bound, related entry.position start.position) :
    Attached related (start :: bound) := by
  intro before entry after heq hbinding
  cases before with
  | nil =>
      cases heq
      rw [isBinding_of_isStart hstart] at hbinding
      cases hbinding
  | cons head between =>
      cases heq
      refine ⟨[], start, between, rfl, hstart, fun other hother => ?_, ?_⟩
      · exact hbound other (List.mem_append_left _ hother)
      · exact hrelated entry (List.mem_append_right _ List.mem_cons_self)

end Attachment

-- The first position from `n` on at which an element starts.
def FirstFrom (starts : Nat → Bool) (n m : Nat) : Prop :=
  n ≤ m ∧ starts m = true ∧ ∀ k, n ≤ k → k < m → starts k = false

section Run

variable {events : List PlacedEvent} {starts : Nat → Bool} {k : Nat}

-- The bindings that wait in front of position `k`, as no element has started behind them.
structure Waits (events : List PlacedEvent) (starts : Nat → Bool) (k : Nat)
    (bindings : Array Token) (waiting : List TracedToken) : Prop where
  tokens : waiting.map (·.token) = bindings.toList
  bound : ∀ entry ∈ waiting, entry.isBinding = true
  stems : ∀ entry ∈ waiting, entry.StemsFrom events
  inTurn : waiting.Pairwise fun first second => first.position < second.position
  before : ∀ entry ∈ waiting, entry.position < k
  unmet : ∀ entry ∈ waiting, ∀ j, entry.position ≤ j → j < k → starts j = false

theorem waits_nil : Waits events starts k #[] [] :=
  ⟨rfl, by simp, by simp, .nil, by simp, by simp⟩

theorem Waits.skip {bindings : Array Token} {waiting : List TracedToken}
    (h : Waits events starts k bindings waiting) (hstarts : starts k = false) :
    Waits events starts (k + 1) bindings waiting where
  tokens := h.tokens
  bound := h.bound
  stems := h.stems
  inTurn := h.inTurn
  before entry hm := Nat.lt_succ_of_lt (h.before entry hm)
  unmet entry hm j hfrom hto := by
    rcases Nat.lt_succ_iff_lt_or_eq.mp hto with hto | rfl
    · exact h.unmet entry hm j hfrom hto
    · exact hstarts

theorem Waits.bind {bindings : Array Token} {waiting : List TracedToken} {resource : String}
    {line : Option Nat} {label uri : String} (h : Waits events starts k bindings waiting)
    (hstarts : starts k = false) (hevent : events[k]? = some ⟨line, .binding label uri⟩) :
    Waits events starts (k + 1) (bindings ++ #[⟨.binding uri label, ⟨resource, line⟩⟩])
      (waiting ++ [⟨k, ⟨.binding uri label, ⟨resource, line⟩⟩⟩]) := by
  have hskip := h.skip hstarts
  refine ⟨by simp [h.tokens], ?_, ?_, ?_, ?_, ?_⟩
  · exact List.forall_mem_append.mpr ⟨h.bound, List.forall_mem_singleton.mpr rfl⟩
  · exact List.forall_mem_append.mpr ⟨h.stems, List.forall_mem_singleton.mpr hevent⟩
  · refine List.pairwise_append.mpr ⟨h.inTurn, List.pairwise_singleton .., fun entry hm => ?_⟩
    exact List.forall_mem_singleton.mpr (h.before entry hm)
  · exact List.forall_mem_append.mpr ⟨hskip.before,
      List.forall_mem_singleton.mpr (Nat.lt_succ_self k)⟩
  · refine List.forall_mem_append.mpr ⟨hskip.unmet, List.forall_mem_singleton.mpr ?_⟩
    intro j hfrom hto
    rw [show j = k from Nat.le_antisymm (Nat.le_of_lt_succ hto) hfrom]
    exact hstarts

-- A sequence as it is in front of position `k`, token by token.
structure Traces (events : List PlacedEvent) (starts : Nat → Bool) (k : Nat)
    (tokens : Array Token) (traced : List TracedToken) : Prop where
  tokens : traced.map (·.token) = tokens.toList
  stems : ∀ entry ∈ traced, entry.StemsFrom events
  attached : Attached (FirstFrom starts) traced
  inTurn : InTurn traced
  reached : ∀ entry ∈ traced, entry.isStart = true → entry.position < k

theorem traces_nil : Traces events starts k #[] [] :=
  ⟨rfl, by simp, attached_of_no_binding (by simp), .nil, by simp⟩

theorem Traces.mono {tokens : Array Token} {traced : List TracedToken} {j : Nat}
    (h : Traces events starts k tokens traced) (hle : k ≤ j) :
    Traces events starts j tokens traced :=
  { h with reached := fun entry hm hstart => Nat.lt_of_lt_of_le (h.reached entry hm hstart) hle }

-- Tokens that neither start an element nor are bindings.
def IsQuiet (tokens : Array Token) : Prop :=
  ∀ token ∈ tokens, token.isBinding = false ∧ token.form.isStart = false

theorem Traces.quiet {tokens more : Array Token} {traced : List TracedToken}
    (h : Traces events starts k tokens traced) (hmore : IsQuiet more) :
    Traces events starts k (tokens ++ more) (traced ++ more.toList.map (⟨k, ·⟩)) := by
  have hquiet : ∀ entry ∈ more.toList.map (TracedToken.mk k ·),
      entry.isBinding = false ∧ entry.isStart = false := by
    intro entry hm
    obtain ⟨token, htoken, rfl⟩ := List.mem_map.mp hm
    exact hmore token (Array.mem_toList_iff.mp htoken)
  have hfilter : (more.toList.map (TracedToken.mk k ·)).filter isBinding = [] :=
    List.filter_eq_nil_iff.mpr fun entry hm => by simp [(hquiet entry hm).1]
  constructor
  · simp [h.tokens, Function.comp_def]
  · exact List.forall_mem_append.mpr ⟨h.stems, fun entry hm =>
      stemsFrom_of_quiet (hquiet entry hm).1 (hquiet entry hm).2⟩
  · exact h.attached.append (attached_of_no_binding fun entry hm => (hquiet entry hm).1)
  · rw [InTurn, List.filter_append, hfilter, List.append_nil]
    exact h.inTurn
  · refine List.forall_mem_append.mpr ⟨h.reached, fun entry hm hstart => ?_⟩
    rw [(hquiet entry hm).2] at hstart
    cases hstart

-- A binding that stands in a sequence comes from further up than one that waits.
theorem Traces.position_lt {tokens bindings : Array Token} {traced waiting : List TracedToken}
    (h : Traces events starts k tokens traced) (hwaits : Waits events starts k bindings waiting)
    {bound late : TracedToken} (hbound : bound ∈ traced) (hbinding : bound.isBinding = true)
    (hlate : late ∈ waiting) : bound.position < late.position := by
  obtain ⟨before, after, hsplit⟩ := List.append_of_mem hbound
  obtain ⟨front, start, between, rfl, hstart, -, hfrom, hstarts, -⟩ :=
    h.attached before bound after hsplit hbinding
  have hreached := h.reached start (by simp [hsplit]) hstart
  refine Nat.lt_of_not_le fun hle => ?_
  have hunmet := hwaits.unmet late hlate start.position (Nat.le_trans hle hfrom) hreached
  rw [hstarts] at hunmet
  cases hunmet

-- An element takes along the bindings that wait.
theorem Traces.start {tokens bindings : Array Token} {traced waiting : List TracedToken}
    {start : Token} (h : Traces events starts k tokens traced)
    (hwaits : Waits events starts k bindings waiting) (hstarts : starts k = true)
    (hstart : start.form.isStart = true) (hstems : StemsFrom events ⟨k, start⟩) :
    Traces events starts (k + 1) (tokens ++ (#[start] ++ bindings))
      (traced ++ ⟨k, start⟩ :: waiting) := by
  have hstartBinding : isBinding ⟨k, start⟩ = false := isBinding_of_isStart hstart
  have hwaiting : waiting.filter isBinding = waiting := List.filter_eq_self.mpr hwaits.bound
  constructor
  · simp [h.tokens, hwaits.tokens]
  · exact List.forall_mem_append.mpr ⟨h.stems, List.forall_mem_cons.mpr ⟨hstems, hwaits.stems⟩⟩
  · refine h.attached.append (attached_start hstart hwaits.bound fun entry hm => ?_)
    exact ⟨Nat.le_of_lt (hwaits.before entry hm), hstarts, hwaits.unmet entry hm⟩
  · rw [InTurn, List.filter_append, List.filter_cons_of_neg (by simp [hstartBinding]), hwaiting]
    refine List.pairwise_append.mpr ⟨h.inTurn, hwaits.inTurn, fun bound hbound late hlate => ?_⟩
    obtain ⟨hbound, hbinding⟩ := List.mem_filter.mp hbound
    exact h.position_lt hwaits hbound hbinding hlate
  · refine List.forall_mem_append.mpr ⟨fun entry hm hs => Nat.lt_succ_of_lt (h.reached entry hm hs),
      List.forall_mem_cons.mpr ⟨fun _ => Nat.lt_succ_self k, fun entry hm _ => ?_⟩⟩
    exact Nat.lt_succ_of_lt (hwaits.before entry hm)

end Run

end TracedToken

end TemplateMarkup
