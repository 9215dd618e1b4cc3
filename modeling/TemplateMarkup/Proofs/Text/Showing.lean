import TemplateMarkup.Proofs.Assembly.Move

namespace TemplateMarkup

namespace Text

theorem isSpace_of_isLayout {c : Char} (h : isLayout c = true) : isSpace c = true := by
  simp only [isLayout, isInline, isLineEnd, Bool.or_eq_true, decide_eq_true_eq] at h
  rcases h with (((rfl | rfl) | rfl) | rfl | rfl) | rfl <;> decide

-- Compression leaves only white space of white space, and drops nothing else.
theorem all_isSpace_compressFrom (gap : Gap) (cs : List Char) :
    (compressFrom gap cs).all isSpace = cs.all isSpace := by
  induction cs generalizing gap with
  | nil => cases gap <;> decide
  | cons c rest ih =>
      have hlayout : isLineEnd c = true ∨ isInline c = true → isSpace c = true := by
        intro h
        refine isSpace_of_isLayout ?_
        rcases h with h | h <;> simp [isLayout, h]
      rw [compressFrom]
      split
      · rename_i h
        simp only [Bool.and_eq_true] at h
        simp [ih, isSpace_of_isLayout h.2]
      · split
        · rename_i h
          simp [ih, hlayout (.inl h), show isSpace '\n' = true by decide]
        · split
          · rename_i h
            simp [ih, hlayout (.inr h)]
          · split
            · simp [ih, show isSpace ' ' = true by decide]
            · simp [ih]

@[simp] theorem isBlank_compress (text : String) : isBlank (compress text) = isBlank text := by
  simp [isBlank, compress, all_isSpace_compressFrom]

@[simp] theorem isBlank_append (first second : String) :
    isBlank (first ++ second) = (isBlank first && isBlank second) := by
  simp [isBlank]

theorem Fragment.ofSteps_ne_nil {waiting : List Char} {steps : List ScanStep}
    (h : waiting ≠ [] ∨ steps ≠ []) : ofSteps waiting steps ≠ [] := by
  induction steps generalizing waiting with
  | nil => simpa [ofSteps, pendingLiteral] using h
  | cons step rest ih =>
      cases step with
      | char c => exact ih (.inl (by simp))
      | placeholder inside => simp [ofSteps]

theorem scanSteps_ne_nil {text : List Char} (h : text ≠ []) : scanSteps text ≠ [] := by
  rw [scanSteps]
  split
  · simp
  · cases text with
    | nil => exact absurd rfl h
    | cons c rest => simp

theorem Fragment.split_eq_nil_iff (text : String) : split text = [] ↔ text = "" := by
  by_cases he : text = ""
  · subst he
    simp [split, scanSteps, openPlaceholder?, ofSteps, pendingLiteral]
  · have hlist : text.toList ≠ [] := by simpa using he
    exact iff_of_false (ofSteps_ne_nil (.inr (scanSteps_ne_nil hlist))) he

end Text

namespace Assembly

-- Whether character data leaves tokens when it settles.
def shows (compress : Bool) (text : String) : Bool :=
  if compress then !Text.isBlank text else text != ""

@[simp] theorem shows_empty (compress : Bool) : shows compress "" = false := by
  cases compress <;> rfl

-- Text shows exactly when some part of it does, however it is cut.
theorem shows_append (compress : Bool) (first second : String) :
    shows compress (first ++ second) = (shows compress first || shows compress second) := by
  cases compress with
  | false => simp [shows, bne, Bool.beq_eq_decide_eq]
  | true => simp [shows]

-- Text that shows when it is compressed shows as it is.
theorem shows_of_compressed {compress : Bool} {text : String} (h : shows true text = true) :
    shows compress text = true := by
  cases compress with
  | true => exact h
  | false =>
      have hne : text ≠ "" := by
        rintro rfl
        cases h
      simpa [shows] using hne

-- The character data that is not yet tokens.
def pendingText (assembly : Assembly) : String :=
  match assembly.pending with
  | some pending => pending.text
  | none => ""

theorem isDoctype_fragment (fragment : Text.Fragment) (location : Location) :
    (!(⟨fragmentForm fragment, location⟩ : Token).isDoctype) = true := by
  cases fragment <;> rfl

theorem any_splitText {f : Token → Bool}
    (hf : ∀ fragment location, f ⟨fragmentForm fragment, location⟩ = true) (location : Location)
    (text : String) : (splitText location text).any f = (text != "") := by
  have hsplit := Text.Fragment.split_eq_nil_iff text
  rw [splitText]
  cases hfragments : Text.Fragment.split text with
  | nil => simp [hsplit.mp hfragments]
  | cons fragment rest =>
      have hne : text ≠ "" := fun he => by simp [hsplit.mpr he] at hfragments
      simp [hf, hne]

-- The tokens of text are told apart from the others by any property that all of them have.
theorem any_textTokens {f : Token → Bool}
    (hf : ∀ fragment location, f ⟨fragmentForm fragment, location⟩ = true) (compress : Bool)
    (pending : PendingText) :
    (textTokens compress pending).any f = shows compress pending.text := by
  cases compress with
  | false => exact any_splitText hf _ _
  | true =>
      simp only [textTokens, if_true, shows, Text.isBlank_compress]
      cases hblank : Text.isBlank pending.text with
      | true => simp
      | false =>
          have hne : Text.compress pending.text ≠ "" := by
            intro he
            rw [← Text.isBlank_compress, he] at hblank
            cases hblank
          simp [any_splitText hf, hne]

-- What holds of all tokens of text holds of some token behind settling exactly when it did before,
-- or when the pending text shows.
theorem any_settled_tokens {f : Token → Bool}
    (hf : ∀ fragment location, f ⟨fragmentForm fragment, location⟩ = true) (assembly : Assembly) :
    assembly.settled.tokens.any f =
      (assembly.tokens.any f || shows assembly.compressing assembly.pendingText) := by
  rw [settled_tokens, Array.any_append, settlement, pendingText]
  cases assembly.pending with
  | none => simp
  | some pending => rw [any_textTokens hf]

-- More text fills a sequence when it shows.
theorem any_settled_gathered {f : Token → Bool}
    (hf : ∀ fragment location, f ⟨fragmentForm fragment, location⟩ = true) (assembly : Assembly)
    (text : String) (location : Location) :
    { assembly with pending := some (assembly.gathered text location) }.settled.tokens.any f =
      (assembly.settled.tokens.any f || shows assembly.compressing text) := by
  have htext : (assembly.gathered text location).text = assembly.pendingText ++ text := by
    rw [gathered, pendingText]
    cases assembly.pending with
    | none => simp
    | some pending => rfl
  rw [any_settled_tokens hf, any_settled_tokens hf, Bool.or_assoc, ← shows_append, ← htext]
  rfl

-- A token in front of the pending text fills a sequence only when it has the property itself.
theorem any_settled_emit {f : Token → Bool}
    (hf : ∀ fragment location, f ⟨fragmentForm fragment, location⟩ = true) (assembly : Assembly)
    (token : Token) :
    (assembly.emit #[token]).settled.tokens.any f = (assembly.settled.tokens.any f || f token) := by
  rw [any_settled_tokens hf, any_settled_tokens hf, emit, Array.any_append]
  change (assembly.tokens.any f || #[token].any f ||
    shows assembly.compressing assembly.pendingText) = _
  rw [Bool.or_right_comm]
  simp

-- A sequence has content behind settling when it had some before, or when the pending text shows.
theorem hasContent_settled (assembly : Assembly) :
    assembly.settled.hasContent =
      (assembly.hasContent || shows assembly.compressing assembly.pendingText) :=
  any_settled_tokens isDoctype_fragment assembly

theorem textTokens_empty (compress : Bool) (location : Location) :
    textTokens compress ⟨"", location⟩ = #[] := by
  have hsplit : splitText location "" = #[] := by
    rw [splitText, (Text.Fragment.split_eq_nil_iff "").mpr rfl]
    rfl
  cases compress with
  | false => exact hsplit
  | true => simp [textTokens, show Text.isBlank "" = true from rfl]

-- A section that has just begun leaves no token by itself.
theorem settled_tokens_begun (assembly : Assembly) (location : Location) :
    { assembly.settled with pending := some ⟨"", location⟩ }.settled.tokens =
      assembly.settled.tokens := by
  rw [settled_tokens]
  simp only [settlement, textTokens_empty, Array.append_empty]

end Assembly

end TemplateMarkup
