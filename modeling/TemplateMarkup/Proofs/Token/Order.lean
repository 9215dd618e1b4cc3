import TemplateMarkup.Template

namespace TemplateMarkup

-- Of two lines the first is not further down, as far as both are known.
def notBelow (first second : Option Nat) : Bool :=
  match first, second with
  | some m, some n => m ≤ n
  | _, _ => true

-- Lines that never go back up.
def Descend (lines : List (Option Nat)) : Prop :=
  lines.Pairwise fun first second => notBelow first second = true

instance (lines : List (Option Nat)) : Decidable (Descend lines) :=
  inferInstanceAs (Decidable (List.Pairwise _ lines))

theorem notBelow_refl (line : Option Nat) : notBelow line line = true := by
  cases line <;> simp [notBelow]

namespace TokenForm

def isBinding : TokenForm → Bool
  | .binding .. => true
  | _ => false

-- Text, placeholders and CDATA.
def isCharacterData : TokenForm → Bool
  | .text _ | .expansion _ | .cdata _ => true
  | _ => false

end TokenForm

namespace Token

def isBinding (token : Token) : Bool :=
  token.form.isBinding

def isCharacterData (token : Token) : Bool :=
  token.form.isCharacterData

-- The tokens that stand in the order of the source. A binding waits for the element behind it.
def sourced (tokens : Array Token) : List Token :=
  tokens.toList.filter fun token => !token.isBinding

-- One token may stand in front of another. Where `split` holds, a document type may also stand
-- in front of character data that began above it.
def MayPrecede (split : Bool) (first second : Token) : Prop :=
  notBelow first.location.line second.location.line = true ∨
    split = true ∧ first.isDoctype = true ∧ second.isCharacterData = true

-- The tokens of a sequence, bindings apart, stand in the order of their lines.
def InOrder (split : Bool) (tokens : Array Token) : Prop :=
  (sourced tokens).Pairwise (MayPrecede split)

-- A sequence in order, with all of it above the lines that are still to come.
structure Above (split : Bool) (tokens : Array Token) (ahead : List (Option Nat)) : Prop where
  inOrder : InOrder split tokens
  above : ∀ token ∈ sourced tokens, ∀ line ∈ ahead, notBelow token.location.line line = true

variable {split : Bool} {tokens more : Array Token} {line : Option Nat} {ahead : List (Option Nat)}

theorem sourced_append (first second : Array Token) :
    sourced (first ++ second) = sourced first ++ sourced second := by
  simp [sourced]

theorem mem_sourced_iff {token : Token} :
    token ∈ sourced tokens ↔ token ∈ tokens ∧ token.isBinding = false := by
  simp [sourced]

theorem above_empty (split : Bool) (ahead : List (Option Nat)) : Above split #[] ahead :=
  ⟨List.Pairwise.nil, by simp [sourced]⟩

theorem inOrder_false_iff :
    InOrder false tokens ↔ Descend ((sourced tokens).map (·.location.line)) := by
  have hplain : MayPrecede false = fun first second =>
      notBelow first.location.line second.location.line = true := by
    funext first second
    simp [MayPrecede]
  rw [InOrder, Descend, List.pairwise_map, hplain]

theorem InOrder.imp (h : InOrder split tokens) : InOrder true tokens :=
  h.imp_of_mem fun _ _ hp => hp.imp_right fun hd => ⟨rfl, hd.2⟩

theorem Above.rest (h : Above split tokens (line :: ahead)) : Above split tokens ahead :=
  ⟨h.inOrder, fun token hm other ho => h.above token hm other (List.mem_cons_of_mem _ ho)⟩

theorem Above.append (h : Above split tokens ahead) (hmore : Above split more ahead)
    (hbetween : ∀ first ∈ sourced tokens, ∀ second ∈ sourced more, MayPrecede split first second) :
    Above split (tokens ++ more) ahead := by
  refine ⟨?_, fun token hm => ?_⟩
  · rw [InOrder, sourced_append]
    exact List.pairwise_append.mpr ⟨h.inOrder, hmore.inOrder, hbetween⟩
  · rw [sourced_append] at hm
    rcases List.mem_append.mp hm with hm | hm
    · exact h.above token hm
    · exact hmore.above token hm

-- Tokens of one line are in order.
theorem above_of_line (hmore : ∀ token ∈ sourced more, token.location.line = line)
    (hahead : ∀ other ∈ ahead, notBelow line other = true) : Above split more ahead := by
  refine ⟨?_, fun token hm => by rw [hmore token hm]; exact hahead⟩
  refine List.pairwise_of_forall_mem_list fun first hf second hs => .inl ?_
  rw [hmore first hf, hmore second hs]
  exact notBelow_refl line

-- Tokens of the line that is reached stand behind all tokens before.
theorem Above.emit (h : Above split tokens (line :: ahead)) (hlines : Descend (line :: ahead))
    (hmore : ∀ token ∈ sourced more, token.location.line = line) :
    Above split (tokens ++ more) ahead := by
  refine h.rest.append (above_of_line hmore (List.pairwise_cons.mp hlines).1) ?_
  intro first hf second hs
  rw [MayPrecede, hmore second hs]
  exact .inl (h.above first hf line List.mem_cons_self)

end Token

namespace Template

-- The main sequence and the overrides.
def sequences (template : Template) : List (Array Token) :=
  template.tokens :: (template.overrides.getD IdTable.empty).toList.map Prod.snd

end Template

end TemplateMarkup
