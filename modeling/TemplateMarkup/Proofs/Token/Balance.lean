import TemplateMarkup.Token

namespace TemplateMarkup

namespace TokenForm

-- The tokens that an end closes.
def opens : TokenForm → Bool
  | .startElement .. | .startComponent .. | .block _ | .parameter _ => true
  | _ => false

def closes : TokenForm → Bool
  | .endElement => true
  | _ => false

end TokenForm

namespace Token

def opens (token : Token) : Bool :=
  token.form.opens

def closes (token : Token) : Bool :=
  token.form.closes

-- A token that neither opens nor closes anything.
def isFlat (token : Token) : Bool :=
  !token.opens && !token.closes

-- No beginning of the sequence closes more than it opens, and in all of it `left` tokens stay
-- open.
def Rises (tokens : List Token) (left : Nat) : Prop :=
  (∀ before, before <+: tokens → before.countP closes ≤ before.countP opens) ∧
    tokens.countP opens = tokens.countP closes + left

-- Every end has a start before it, and every start its end.
def Balanced (tokens : Array Token) : Prop :=
  (∀ before, before <+: tokens.toList → before.countP closes ≤ before.countP opens) ∧
    tokens.toList.countP closes = tokens.toList.countP opens

theorem Rises.balanced {tokens : Array Token} (h : Rises tokens.toList 0) : Balanced tokens :=
  ⟨h.1, by rw [h.2, Nat.add_zero]⟩

theorem rises_nil : Rises [] 0 :=
  ⟨fun before hb => by simp [List.prefix_nil.mp hb], rfl⟩

-- One more token keeps the sequence above ground where it leaves something open or opens
-- something itself.
theorem Rises.concat {tokens : List Token} {token : Token} {left next : Nat}
    (h : Rises tokens left)
    (hn : left + [token].countP opens = next + [token].countP closes) :
    Rises (tokens ++ [token]) next := by
  have hc : (tokens ++ [token]).countP opens = (tokens ++ [token]).countP closes + next := by
    simp only [List.countP_append, h.2]
    omega
  refine ⟨fun before hb => ?_, hc⟩
  rcases List.prefix_concat_iff.mp hb with rfl | hb
  · omega
  · exact h.1 before hb

theorem Rises.concat_open {tokens : List Token} {token : Token} {left : Nat} (h : Rises tokens left)
    (ho : token.opens = true) : Rises (tokens ++ [token]) (left + 1) := by
  have hc : token.closes = false := by
    obtain ⟨form, location⟩ := token
    cases form <;> simp_all [opens, closes, TokenForm.opens, TokenForm.closes]
  exact h.concat (by simp [ho, hc])

theorem Rises.concat_close {tokens : List Token} {token : Token} {left : Nat}
    (h : Rises tokens (left + 1)) (hc : token.closes = true) (ho : token.opens = false) :
    Rises (tokens ++ [token]) left :=
  h.concat (by simp [ho, hc])

theorem Rises.append_flat {tokens more : List Token} {left : Nat} (h : Rises tokens left)
    (hflat : ∀ token ∈ more, token.isFlat = true) : Rises (tokens ++ more) left := by
  induction more generalizing tokens with
  | nil => simpa using h
  | cons token rest ih =>
      have ht := hflat token (by simp)
      simp only [isFlat, Bool.and_eq_true, Bool.not_eq_true'] at ht
      have hone : Rises (tokens ++ [token]) left := h.concat (by simp [ht.1, ht.2])
      rw [List.append_cons]
      exact ih hone fun other ho => hflat other (List.mem_cons_of_mem _ ho)

end Token

end TemplateMarkup
