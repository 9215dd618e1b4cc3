import TemplateMarkup.Proofs.Token.Balance

namespace TemplateMarkup

namespace TokenForm

def isParameter : TokenForm → Bool
  | .parameter _ => true
  | _ => false

def isComponent : TokenForm → Bool
  | .startComponent .. => true
  | _ => false

end TokenForm

namespace Token

def isParameter (token : Token) : Bool :=
  token.form.isParameter

def isComponent (token : Token) : Bool :=
  token.form.isComponent

-- The tokens that are open behind one more token, innermost first.
def openBehind (opened : List Token) (token : Token) : List Token :=
  if token.opens then token :: opened
  else if token.closes then opened.tail
  else opened

-- The tokens of a sequence that it does not close, innermost first.
def unclosed (tokens : List Token) : List Token :=
  tokens.foldl openBehind []

-- What is open is directly a component. Only a free sequence may leave nothing open, as it goes
-- on inside of what another one has opened.
def IsSlot (free : Bool) (opened : List Token) : Prop :=
  (∀ around ∈ opened.head?, around.isComponent = true) ∧ (opened = [] → free = true)

-- The parameters of a sequence stand directly in components.
def Slotted (free : Bool) (tokens : List Token) : Prop :=
  ∀ front token, front ++ [token] <+: tokens → token.isParameter = true →
    IsSlot free (unclosed front)

variable {free : Bool} {tokens more : List Token} {token : Token}

theorem isParameter_of_isFlat (h : token.isFlat = true) : token.isParameter = false := by
  obtain ⟨form, location⟩ := token
  cases form <;> first | rfl | cases h

theorem unclosed_append (tokens more : List Token) :
    unclosed (tokens ++ more) = more.foldl openBehind (unclosed tokens) :=
  List.foldl_append

theorem unclosed_concat_open (h : token.opens = true) :
    unclosed (tokens ++ [token]) = token :: unclosed tokens := by
  simp [unclosed_append, openBehind, h]

theorem unclosed_concat_close (hopens : token.opens = false) (hcloses : token.closes = true) :
    unclosed (tokens ++ [token]) = (unclosed tokens).tail := by
  simp [unclosed_append, openBehind, hopens, hcloses]

theorem unclosed_append_flat (h : ∀ token ∈ more, token.isFlat = true) :
    unclosed (tokens ++ more) = unclosed tokens := by
  have hkeep : ∀ opened, more.foldl openBehind opened = opened := by
    induction more with
    | nil => exact fun _ => rfl
    | cons token rest ih =>
        intro opened
        obtain ⟨htoken, hrest⟩ := List.forall_mem_cons.mp h
        simp only [isFlat, Bool.and_eq_true, Bool.not_eq_true'] at htoken
        rw [List.foldl_cons, ih hrest]
        simp [openBehind, htoken]
  rw [unclosed_append, hkeep]

theorem slotted_nil (free : Bool) : Slotted free [] := by
  intro front token hprefix
  exact absurd (List.prefix_nil.mp hprefix) (by simp)

theorem Slotted.imp {more : Bool} (h : Slotted free tokens) (himp : free = true → more = true) :
    Slotted more tokens := by
  intro front token hprefix hparameter
  obtain ⟨haround, hground⟩ := h front token hprefix hparameter
  exact ⟨haround, fun hnone => himp (hground hnone)⟩

-- One more token counts only where it is a parameter.
theorem Slotted.concat (h : Slotted free tokens)
    (hslot : token.isParameter = true → IsSlot free (unclosed tokens)) :
    Slotted free (tokens ++ [token]) := by
  intro front other hprefix hparameter
  rcases List.prefix_concat_iff.mp hprefix with he | hprefix
  · obtain ⟨rfl, hlast⟩ := List.append_inj' he rfl
    obtain rfl := List.singleton_inj.mp hlast
    exact hslot hparameter
  · exact h front other hprefix hparameter

theorem Slotted.append_flat (h : Slotted free tokens) (hflat : ∀ token ∈ more, token.isFlat = true) :
    Slotted free (tokens ++ more) := by
  induction more generalizing tokens with
  | nil => rwa [List.append_nil]
  | cons token rest ih =>
      obtain ⟨htoken, hrest⟩ := List.forall_mem_cons.mp hflat
      have hnext : Slotted free (tokens ++ [token]) := h.concat fun hparameter => by
        rw [isParameter_of_isFlat htoken] at hparameter
        cases hparameter
      have hall := ih hnext hrest
      rwa [List.append_assoc] at hall

end Token

end TemplateMarkup
