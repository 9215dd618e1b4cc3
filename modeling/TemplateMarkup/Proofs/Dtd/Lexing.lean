import TemplateMarkup.Proofs.Dtd.Written
import TemplateMarkup.Proofs.Markup.Escape

namespace TemplateMarkup.Dtd

open Markup (bne_of_notMem takeWhile_dropWhile_append)

-- What is written is cut into the lexemes `given` in front of `behind`, where cutting goes on.
def Lexes (written : List Char) (given : List Lexeme) (behind : List Char) : Prop :=
  ∃ front, cuts (written ++ behind) = front ++ cuts behind ∧ front.map Cut.lexeme = given

theorem cuts_nil : cuts [] = [] := by
  rw [cuts]

theorem cuts_blank {c : Char} (hc : isBlankChar c = true) (rest : List Char) :
    cuts (c :: rest) = cuts rest := by
  rw [cuts, if_pos hc]

theorem cuts_cut {c : Char} (hc : isBlankChar c = false) (rest : List Char) :
    cuts (c :: rest) = cut c rest :: cuts (cut c rest).rest := by
  rw [cuts, if_neg (by simp [hc])]

theorem not_isBlankChar_of_isNameChar {c : Char} (hc : isNameChar c = true) :
    isBlankChar c = false := by
  by_contra hblank
  rw [Bool.not_eq_false] at hblank
  simp [isNameChar, hblank] at hc

theorem not_isNameChar_of_isBlankChar {c : Char} (hc : isBlankChar c = true) :
    isNameChar c = false := by
  simp [isNameChar, hc]

theorem not_isUpper_of_isBlankChar {c : Char} (hc : isBlankChar c = true) :
    c.isUpper = false := by
  simp only [isBlankChar, Bool.or_eq_true, decide_eq_true_eq] at hc
  rcases hc with ((rfl | rfl) | rfl) | rfl <;> rfl

namespace Lexes

variable {first second behind : List Char} {firstGiven secondGiven : List Lexeme}

theorem nil : Lexes [] [] behind :=
  ⟨[], rfl, rfl⟩

theorem append (h : Lexes first firstGiven (second ++ behind))
    (hs : Lexes second secondGiven behind) :
    Lexes (first ++ second) (firstGiven ++ secondGiven) behind := by
  obtain ⟨front, hfront, hgiven⟩ := h
  obtain ⟨back, hback, hsecond⟩ := hs
  refine ⟨front ++ back, ?_, by rw [List.map_append, hgiven, hsecond]⟩
  rw [List.append_assoc, hfront, hback, List.append_assoc]

-- What is cut off in one piece.
theorem of_cut {c : Char} {more : List Char} {lexeme : Lexeme} (hc : isBlankChar c = false)
    (hcut : cut c (more ++ behind) = ⟨lexeme, behind⟩) : Lexes (c :: more) [lexeme] behind := by
  refine ⟨[⟨lexeme, behind⟩], ?_, rfl⟩
  rw [List.cons_append, cuts_cut hc, hcut]
  rfl

theorem blank {text : List Char} (h : ∀ c ∈ text, isBlankChar c = true) :
    Lexes text [] behind := by
  induction text with
  | nil => exact nil
  | cons c text ih =>
      have hrest := ih fun d hd => h d (List.mem_cons_of_mem c hd)
      unfold Lexes
      rw [List.cons_append, cuts_blank (h c List.mem_cons_self)]
      exact hrest

theorem word {text : List Char} (hne : text ≠ []) (htext : ∀ c ∈ text, isNameChar c = true)
    (hbehind : ∀ c ∈ behind.head?, isNameChar c = false) :
    Lexes text [wordLexeme text] behind := by
  obtain ⟨c, more, rfl⟩ := List.exists_cons_of_ne_nil hne
  have hc := htext c List.mem_cons_self
  obtain ⟨htake, hdrop⟩ := takeWhile_dropWhile_append more behind
    (fun d hd => htext d (List.mem_cons_of_mem c hd)) hbehind
  apply of_cut (not_isBlankChar_of_isNameChar hc)
  -- no character that begins another lexeme is a character of words
  unfold cut
  split <;> first | exact absurd hc (by decide) | rw [htake, hdrop]

theorem literal {quote : Char} {text : List Char} (hquote : quote = '"' ∨ quote = '\'')
    (hclosed : quote ∉ text) :
    Lexes (quote :: (text ++ [quote])) [.literal (String.ofList text)] behind := by
  obtain ⟨htake, hdrop⟩ := takeWhile_dropWhile_append text (quote :: behind)
    (bne_of_notMem hclosed) (by simp)
  have hcut : cutLiteral quote (text ++ [quote] ++ behind) =
      ⟨.literal (String.ofList text), behind⟩ := by
    rw [List.append_assoc, List.singleton_append, cutLiteral, hdrop, htake]
  rcases hquote with rfl | rfl
  · exact of_cut rfl hcut
  · exact of_cut rfl hcut

-- A percent sign begins a reference unless white space is behind it.
theorem percent {space : Gap} : Lexes ('%' :: space.text) [.percent] behind := by
  have hsign : Lexes ['%'] [.percent] (space.text ++ behind) := by
    apply of_cut rfl
    obtain ⟨c, more, htext⟩ := List.exists_cons_of_ne_nil space.nonempty
    have hblank := space.blank c (by rw [htext]; exact List.mem_cons_self)
    have hc : isReferenceChar c = false := by simp [isReferenceChar, hblank]
    simp only [cut, List.nil_append, htext, List.cons_append, cutPercent, List.takeWhile_cons, hc,
      Bool.false_eq_true, if_false]
  exact hsign.append (blank space.blank)

theorem close : Lexes ['>'] [.close] behind :=
  of_cut rfl rfl

theorem openBracket : Lexes ['['] [.openBracket] behind :=
  of_cut rfl rfl

theorem conditionalStart : Lexes ['<', '!', '['] [.conditionalStart] behind :=
  of_cut rfl rfl

theorem conditionalEnd : Lexes [']', ']', '>'] [.conditionalEnd] behind :=
  of_cut rfl rfl

-- The opening of a declaration, whose keyword is over when no capital follows.
theorem keyword {text : List Char} (hne : text ≠ []) (htext : ∀ c ∈ text, c.isUpper = true)
    (hbehind : ∀ c ∈ behind.head?, c.isUpper = false) :
    Lexes ('<' :: '!' :: text)
      [if text = entityKeyword then .entity else .declaration] behind := by
  obtain ⟨htake, hdrop⟩ := takeWhile_dropWhile_append text behind htext hbehind
  apply of_cut rfl
  obtain ⟨c, more, rfl⟩ := List.exists_cons_of_ne_nil hne
  have hc := htext c List.mem_cons_self
  have hmarks : c ≠ '-' ∧ c ≠ '[' := by
    constructor
    · rintro rfl
      exact absurd hc (by decide)
    · rintro rfl
      exact absurd hc (by decide)
  have hcut : cutMarkup ('!' :: c :: (more ++ behind)) =
      ⟨if (c :: (more ++ behind)).takeWhile Char.isUpper = [] then .stray
        else if (c :: (more ++ behind)).takeWhile Char.isUpper = entityKeyword then .entity
        else .declaration, (c :: (more ++ behind)).dropWhile Char.isUpper⟩ := by
    rw [cutMarkup]
    · rfl
    · intro rest h
      exact hmarks.1 (List.cons.inj h).1
    · intro rest h
      exact hmarks.1 (List.cons.inj h).1
    · intro rest h
      exact hmarks.2 (List.cons.inj h).1
  rw [List.cons_append] at htake hdrop
  rw [htake, hdrop, if_neg (List.cons_ne_nil c more)] at hcut
  exact hcut

end Lexes

theorem cutComment_written {text : List Char} (h : ¬['-', '-'] <:+: text ++ ['-'])
    (behind : List Char) :
    cutComment (text ++ '-' :: '-' :: '>' :: behind) = ⟨.comment, behind⟩ := by
  induction text with
  | nil => rfl
  | cons c text ih =>
      have hrest : ¬['-', '-'] <:+: text ++ ['-'] :=
        fun hr => h (hr.trans (List.infix_cons List.infix_rfl))
      -- what comes next is a character of the comment or the first hyphen of its end
      obtain ⟨d, more, hd⟩ := List.exists_cons_of_ne_nil
        (List.append_ne_nil_of_right_ne_nil text (List.cons_ne_nil '-' []))
      have hnext : text ++ '-' :: '-' :: '>' :: behind = d :: (more ++ '-' :: '>' :: behind) := by
        rw [← List.singleton_append, ← List.append_assoc, hd]
        rfl
      have hpair : c = '-' → d ≠ '-' := by
        rintro rfl rfl
        apply h
        rw [List.cons_append, hd]
        exact (List.prefix_append ['-', '-'] more).isInfix
      rw [List.cons_append, cutComment]
      · exact ih hrest
      · intro rest hc htail
        rw [hnext] at htail
        exact hpair hc (List.cons.inj htail).1
      · intro rest hc htail
        rw [hnext] at htail
        exact hpair hc (List.cons.inj htail).1

theorem cutInstruction_written {text : List Char} (h : ¬['?', '>'] <:+: text)
    (behind : List Char) :
    cutInstruction (text ++ '?' :: '>' :: behind) = ⟨.instruction, behind⟩ := by
  induction text with
  | nil => rfl
  | cons c text ih =>
      have hrest : ¬['?', '>'] <:+: text := fun hr => h (hr.trans (List.infix_cons List.infix_rfl))
      rw [List.cons_append, cutInstruction]
      · exact ih hrest
      · intro rest hc htail
        cases text with
        | nil => cases htail
        | cons d text =>
            apply h
            rw [hc, (List.cons.inj htail).1]
            exact (List.prefix_append ['?', '>'] text).isInfix

section Parts

variable {behind : List Char}

-- Where no word begins, no word goes on.
theorem head_written {parts : List Part} (hfirst : ∀ text, parts.head? ≠ some (.word text))
    (hbehind : ∀ c ∈ behind.head?, isNameChar c = false) :
    ∀ c ∈ (parts.flatMap Part.written ++ behind).head?, isNameChar c = false := by
  cases parts with
  | nil => exact hbehind
  | cons part parts =>
      intro c hc
      cases part with
      | gap space =>
          obtain ⟨d, more, htext⟩ := List.exists_cons_of_ne_nil space.nonempty
          have hd := space.blank d (by rw [htext]; exact List.mem_cons_self)
          simp only [List.flatMap_cons, Part.written, htext, List.cons_append, List.head?_cons,
            Option.mem_def, Option.some.injEq] at hc
          rw [← hc]
          exact not_isNameChar_of_isBlankChar hd
      | word text => exact absurd rfl (hfirst text)
      | literal text =>
          simp only [List.flatMap_cons, Part.written, List.cons_append, List.head?_cons,
            Option.mem_def, Option.some.injEq] at hc
          rw [← hc]
          rcases text.isQuote with hquote | hquote <;> rw [hquote] <;> rfl
      | percent space =>
          simp only [List.flatMap_cons, Part.written, List.cons_append, List.head?_cons,
            Option.mem_def, Option.some.injEq] at hc
          rw [← hc]
          rfl

theorem areApart_of_cons {part : Part} {parts : List Part}
    (h : Part.areApart (part :: parts) = true) :
    Part.areApart parts = true ∧
      ∀ first, part = .word first → ∀ second, parts.head? ≠ some (.word second) := by
  constructor
  · rw [Part.areApart.eq_def] at h
    split at h
    · cases h
    · rename_i hparts
      rw [(List.cons.inj hparts).2]
      exact h
    · rename_i hnil
      cases hnil
  · rintro first rfl second hsecond
    obtain ⟨more, rfl⟩ := List.head?_eq_some_iff.mp hsecond
    cases h

theorem lexes_parts {parts : List Part} (h : Part.areApart parts = true)
    (hbehind : ∀ c ∈ behind.head?, isNameChar c = false) :
    Lexes (parts.flatMap Part.written) (parts.filterMap Part.lexeme?) behind := by
  induction parts with
  | nil => exact Lexes.nil
  | cons part parts ih =>
      obtain ⟨hrest, hword⟩ := areApart_of_cons h
      have hparts := ih hrest
      rw [List.flatMap_cons]
      cases part with
      | gap space => exact (Lexes.blank space.blank).append hparts
      | word text =>
          have hne : text.text.toList ≠ [] := by simpa using text.nonempty
          have hnext := head_written (hword text rfl) hbehind
          exact (Lexes.word hne text.nameChars hnext).append hparts
      | literal text =>
          have hlexes := @Lexes.literal (parts.flatMap Part.written ++ behind) _ _ text.isQuote
            text.closed
          rw [String.ofList_toList] at hlexes
          exact hlexes.append hparts
      | percent space => exact Lexes.percent.append hparts

theorem lexes_optional (space : Option Gap) :
    (Part.optional space).filterMap Part.lexeme? = [] := by
  cases space <;> rfl

-- A keyword has capitals only, and white space behind it.
theorem lexes_declaration {keyword : List Char} {first : Gap} {parts : List Part}
    (hne : keyword ≠ []) (hkeyword : ∀ c ∈ keyword, c.isUpper = true)
    (h : Part.areApart parts = true) :
    Lexes (writeDeclaration keyword (.gap first :: parts))
      ((if keyword = entityKeyword then .entity else .declaration) ::
        (parts.filterMap Part.lexeme? ++ [.close])) behind := by
  have hparts : Lexes ((Part.gap first :: parts).flatMap Part.written)
      (parts.filterMap Part.lexeme?) (['>'] ++ behind) := by
    have hgap : Part.areApart (.gap first :: parts) = true := h
    exact lexes_parts hgap (by simp [isNameChar])
  have hopening : Lexes ('<' :: '!' :: keyword)
      [if keyword = entityKeyword then .entity else .declaration]
      ((Part.gap first :: parts).flatMap Part.written ++ ['>'] ++ behind) := by
    apply Lexes.keyword hne hkeyword
    obtain ⟨c, more, htext⟩ := List.exists_cons_of_ne_nil first.nonempty
    have hc := first.blank c (by rw [htext]; exact List.mem_cons_self)
    simpa [Part.written, htext] using not_isUpper_of_isBlankChar hc
  exact hopening.append (hparts.append Lexes.close)

end Parts

def declarationLexemes (opening : Lexeme) (parts : List Part) : List Lexeme :=
  opening :: (parts.filterMap Part.lexeme? ++ [.close])

def Item.lexemes : Item → List Lexeme
  | .gap _ => []
  | .internal entity => declarationLexemes .entity entity.parts
  | .external entity => declarationLexemes .entity entity.parts
  | .parameter entity => declarationLexemes .entity entity.parts
  | .other declaration => declarationLexemes .declaration declaration.parts
  | .comment _ => [.comment]
  | .instruction _ => [.instruction]

def Definition.lexemes : Definition → List Lexeme
  | .nil => []
  | .item first rest => first.lexemes ++ rest.lexemes
  | .conditional head inside rest =>
    .conditionalStart :: (head.parts.filterMap Part.lexeme? ++ .openBracket ::
      (inside.lexemes ++ .conditionalEnd :: rest.lexemes))

theorem lexes_item (item : Item) (behind : List Char) :
    Lexes item.written item.lexemes behind := by
  have hentity : ∀ c ∈ entityKeyword, c.isUpper = true := List.all_eq_true.mp rfl
  cases item with
  | gap space => exact Lexes.blank space.blank
  | internal entity =>
      apply lexes_declaration (List.cons_ne_nil _ _) hentity
      cases entity.beforeEnd <;> rfl
  | external entity =>
      apply lexes_declaration (List.cons_ne_nil _ _) hentity
      cases entity.id <;> cases entity.mark <;> cases entity.beforeEnd <;> rfl
  | parameter entity =>
      apply lexes_declaration (List.cons_ne_nil _ _) hentity
      cases entity.content with
      | inside value => cases entity.beforeEnd <;> rfl
      | outside id => cases id <;> cases entity.beforeEnd <;> rfl
  | other declaration =>
      have hkeyword : ∀ c ∈ declaration.keyword.text, c.isUpper = true := by
        cases declaration.keyword <;> exact List.all_eq_true.mp rfl
      have hopening : declaration.keyword.text ≠ [] ∧
          declaration.keyword.text ≠ entityKeyword := by
        cases declaration.keyword <;> exact ⟨by decide, by decide⟩
      have hlexes := @lexes_declaration behind _ declaration.beforeContent _ hopening.1 hkeyword
        declaration.apart
      rw [if_neg hopening.2] at hlexes
      exact hlexes
  | comment content =>
      apply Lexes.of_cut rfl
      have hcut := cutComment_written content.wellFormed behind
      rw [← hcut, List.cons_append, List.cons_append, List.cons_append, List.append_assoc]
      rfl
  | instruction content =>
      apply Lexes.of_cut rfl
      have hcut := cutInstruction_written content.wellFormed behind
      rw [← hcut, List.cons_append, List.append_assoc]
      rfl

-- The keyword of a conditional section ends at the bracket.
theorem lexes_head (head : SectionHead) (behind : List Char) :
    Lexes (head.parts.flatMap Part.written) (head.parts.filterMap Part.lexeme?)
      ('[' :: behind) := by
  apply lexes_parts
  · rw [SectionHead.parts]
    cases head.beforeKeyword <;> cases head.behindKeyword <;> rfl
  · simp [isNameChar]

-- A definition is read as it is written, whatever stands behind it.
theorem lexes_definition (definition : Definition) (behind : List Char) :
    Lexes definition.written definition.lexemes behind := by
  induction definition generalizing behind with
  | nil => exact Lexes.nil
  | item first rest ih => exact (lexes_item first _).append (ih behind)
  | conditional head inside rest ihInside ihRest =>
      have hbehind := Lexes.conditionalEnd.append (ihRest behind)
      have hinside := (ihInside _).append hbehind
      have hbracket := Lexes.openBracket.append hinside
      exact Lexes.conditionalStart.append ((lexes_head head _).append hbracket)

theorem lexemes_written (definition : Definition) :
    lexemes (String.ofList definition.written) = definition.lexemes := by
  obtain ⟨front, hcuts, hgiven⟩ := lexes_definition definition []
  rw [List.append_nil, cuts_nil, List.append_nil] at hcuts
  rw [lexemes, String.toList_ofList, hcuts]
  exact hgiven

end TemplateMarkup.Dtd
