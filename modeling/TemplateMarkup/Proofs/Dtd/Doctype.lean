import TemplateMarkup.Dtd.Doctype
import TemplateMarkup.Proofs.Dtd.Reading

namespace TemplateMarkup

namespace Dtd

section Suffixes

theorem rest_cutComment_suffix (text : List Char) : (cutComment text).rest <:+ text := by
  fun_induction cutComment text with
  | case1 rest => exact ⟨['-', '-', '>'], rfl⟩
  | case2 rest => exact ⟨['-', '-'], rfl⟩
  | case3 c rest _ _ ih => exact ih.trans (List.suffix_cons c rest)
  | case4 => exact List.suffix_rfl

theorem rest_cutInstruction_suffix (text : List Char) :
    (cutInstruction text).rest <:+ text := by
  fun_induction cutInstruction text with
  | case1 rest => exact ⟨['?', '>'], rfl⟩
  | case2 c rest _ ih => exact ih.trans (List.suffix_cons c rest)
  | case3 => exact List.suffix_rfl

theorem rest_cutMarkup_suffix (text : List Char) : (cutMarkup text).rest <:+ text := by
  unfold cutMarkup
  split
  · exact (rest_cutInstruction_suffix _).trans (List.suffix_cons _ _)
  · rename_i rest
    exact (rest_cutComment_suffix rest).trans ⟨['!', '-', '-'], rfl⟩
  · exact ⟨['!', '-'], rfl⟩
  · exact ⟨['!', '['], rfl⟩
  · exact (List.dropWhile_suffix _).trans (List.suffix_cons _ _)
  · exact List.suffix_rfl

theorem rest_cutLiteral_suffix (quote : Char) (text : List Char) :
    (cutLiteral quote text).rest <:+ text := by
  have hsuffix := List.dropWhile_suffix (l := text) (· != quote)
  unfold cutLiteral
  split
  · exact List.nil_suffix
  · rename_i c rest h
    rw [h] at hsuffix
    exact (List.suffix_cons c rest).trans hsuffix

theorem rest_cutPercent_suffix (text : List Char) : (cutPercent text).rest <:+ text := by
  have hsuffix := List.dropWhile_suffix (l := text) isReferenceChar
  unfold cutPercent
  split
  · rename_i rest _ h
    rw [h] at hsuffix
    exact (List.suffix_cons _ _).trans hsuffix
  · exact List.suffix_rfl

-- Cutting a lexeme off leaves an end of the text.
theorem rest_cut_suffix (c : Char) (text : List Char) : (cut c text).rest <:+ text := by
  unfold cut
  split
  · exact rest_cutMarkup_suffix text
  · exact rest_cutLiteral_suffix _ text
  · exact rest_cutLiteral_suffix _ text
  · exact rest_cutPercent_suffix text
  · exact List.suffix_rfl
  · split
    · exact ⟨[']', '>'], rfl⟩
    · exact List.suffix_rfl
  · exact List.suffix_rfl
  · exact List.dropWhile_suffix _

-- The kinds of lexemes that begin with a less-than sign.
def Lexeme.isMarkup : Lexeme → Bool
  | .comment | .instruction | .entity | .declaration | .conditionalStart | .stray => true
  | _ => false

theorem isMarkup_cutComment (text : List Char) : (cutComment text).lexeme.isMarkup = true := by
  fun_induction cutComment text with
  | case1 rest => rfl
  | case2 rest => rfl
  | case3 c rest _ _ ih => exact ih
  | case4 => rfl

theorem isMarkup_cutInstruction (text : List Char) :
    (cutInstruction text).lexeme.isMarkup = true := by
  fun_induction cutInstruction text with
  | case1 rest => rfl
  | case2 c rest _ ih => exact ih
  | case3 => rfl

theorem isMarkup_cutMarkup (text : List Char) : (cutMarkup text).lexeme.isMarkup = true := by
  unfold cutMarkup
  split
  · exact isMarkup_cutInstruction _
  · exact isMarkup_cutComment _
  · rfl
  · rfl
  · dsimp only
    split
    · rfl
    · split <;> rfl
  · rfl

-- A name or an opening bracket. Nothing that begins with a mark or a quote is one of the two.
def Lexeme.isUnmarked : Lexeme → Bool
  | .openBracket | .name _ => true
  | _ => false

theorem Lexeme.isUnmarked_of_isMarkup {lexeme : Lexeme} (h : lexeme.isMarkup = true) :
    lexeme.isUnmarked = false := by
  cases lexeme <;> first | rfl | cases h

theorem isUnmarked_cutLiteral (quote : Char) (text : List Char) :
    (cutLiteral quote text).lexeme.isUnmarked = false := by
  unfold cutLiteral
  split <;> rfl

theorem isUnmarked_cutPercent (text : List Char) :
    (cutPercent text).lexeme.isUnmarked = false := by
  unfold cutPercent
  split <;> rfl

theorem wordLexeme_ne (word : List Char) : wordLexeme word ≠ .openBracket := by
  unfold wordLexeme
  split
  · simp
  · split <;> simp

-- What is unmarked is a bracket by itself or a word.
theorem cut_of_isUnmarked {c : Char} {text : List Char}
    (h : (cut c text).lexeme.isUnmarked = true) :
    c = '[' ∧ cut c text = ⟨.openBracket, text⟩ ∨
      (isBlankChar c = false → isNameChar c = true) ∧
        (cut c text).lexeme = wordLexeme (c :: text.takeWhile isNameChar) := by
  unfold cut at h ⊢
  split at h
  · rw [Lexeme.isUnmarked_of_isMarkup (isMarkup_cutMarkup text)] at h
    cases h
  · rw [isUnmarked_cutLiteral] at h
    cases h
  · rw [isUnmarked_cutLiteral] at h
    cases h
  · rw [isUnmarked_cutPercent] at h
    cases h
  · exact .inl ⟨rfl, rfl⟩
  · split at h <;> cases h
  · cases h
  · refine .inr ⟨fun hblank => ?_, rfl⟩
    simp_all [isNameChar]

theorem eq_of_lexeme_cut {c : Char} {text : List Char} (h : (cut c text).lexeme = .openBracket) :
    c = '[' ∧ (cut c text).rest = text := by
  have hunmarked : (cut c text).lexeme.isUnmarked = true := by rw [h]; rfl
  rcases cut_of_isUnmarked hunmarked with ⟨hc, hcut⟩ | ⟨-, hword⟩
  · exact ⟨hc, by rw [hcut]⟩
  · exact absurd (hword.symm.trans h) (wordLexeme_ne _)

-- Where an opening bracket is read, one stands in the text.
theorem openBracket_of_mem_cuts {text : List Char} {piece : Cut} (hmem : piece ∈ cuts text)
    (h : piece.lexeme = .openBracket) : '[' :: piece.rest <:+ text := by
  match text with
  | [] =>
      rw [cuts_nil] at hmem
      cases hmem
  | c :: rest =>
      cases hc : isBlankChar c with
      | true =>
          rw [cuts_blank hc] at hmem
          exact (openBracket_of_mem_cuts hmem h).trans (List.suffix_cons c rest)
      | false =>
          have hlength := length_cut c rest
          rw [cuts_cut hc] at hmem
          rcases List.mem_cons.mp hmem with rfl | hlater
          · obtain ⟨rfl, hrest⟩ := eq_of_lexeme_cut h
            rw [hrest]
          · have hsuffix := rest_cut_suffix c rest
            exact ((openBracket_of_mem_cuts hlater h).trans hsuffix).trans (List.suffix_cons c rest)
termination_by text.length

end Suffixes

-- The external identifier of a document type. Unlike that of an entity it may be a public
-- identifier alone.
inductive DoctypeId where
  | full (id : ExternalId)
  | publicOnly (before : Gap) (publicId : Quotation)

namespace DoctypeId

def parts : DoctypeId → List Part
  | .full id => id.parts
  | .publicOnly before publicId => [.word .publicId, .gap before, .literal publicId]

def publicId? : DoctypeId → Option String
  | .full id => id.publicId?
  | .publicOnly _ publicId => some publicId.text

def systemId? : DoctypeId → Option String
  | .full (.ofSystem _ systemId) => some systemId.text
  | .full (.ofPublic _ _ _ systemId) => some systemId.text
  | .publicOnly _ _ => none

def isPublicOnly : DoctypeId → Bool
  | .full _ => false
  | .publicOnly _ _ => true

end DoctypeId

-- The declarations that a document type holds itself.
structure Subset where
  before : Option Gap
  text : List Char

-- What stands between the keyword and the end of a document type declaration.
structure DoctypeDeclaration where
  beforeName : Option Gap
  name : Name
  id : Option (Gap × DoctypeId)
  subset : Option Subset
  beforeEnd : Option Gap

namespace DoctypeDeclaration

def idParts (declaration : DoctypeDeclaration) : List Part :=
  declaration.id.elim [] fun id => .gap id.1 :: id.2.parts

-- What stands in front of the bracket that opens the subset, or of the end.
def parts (declaration : DoctypeDeclaration) : List Part :=
  Part.optional declaration.beforeName ++ .word declaration.name.toWord ::
    (declaration.idParts ++ declaration.subset.elim [] fun subset => Part.optional subset.before)

def writtenEnd (declaration : DoctypeDeclaration) : List Char :=
  declaration.beforeEnd.elim [] Gap.text

def writtenSubset (declaration : DoctypeDeclaration) : List Char :=
  declaration.subset.elim [] fun subset => '[' :: (subset.text ++ [']'])

def written (declaration : DoctypeDeclaration) : List Char :=
  declaration.parts.flatMap Part.written ++ (declaration.writtenSubset ++ declaration.writtenEnd)

-- What a declaration is written of.
def doctype (declaration : DoctypeDeclaration) : Doctype where
  name := declaration.name.text
  publicId := declaration.id.bind (·.2.publicId?)
  systemId := declaration.id.bind (·.2.systemId?)
  subset := declaration.subset.map (String.ofList ·.text)

variable (declaration : DoctypeDeclaration)

theorem lexemes_parts : declaration.parts.filterMap Part.lexeme? =
    .name declaration.name.text :: declaration.idParts.filterMap Part.lexeme? := by
  have hname : Part.lexeme? (.word declaration.name.toWord) = some (.name declaration.name.text) := by
    rw [Part.lexeme?, Name.lexeme]
  have hsubset : (declaration.subset.elim [] fun subset =>
      Part.optional subset.before).filterMap Part.lexeme? = [] := by
    cases declaration.subset with
    | none => rfl
    | some subset => exact lexes_optional subset.before
  rw [parts, List.filterMap_append, lexes_optional, List.filterMap_cons_some hname,
    List.filterMap_append, hsubset, List.append_nil, List.nil_append]

theorem blank_writtenEnd : ∀ c ∈ declaration.writtenEnd, isBlankChar c = true := by
  unfold writtenEnd
  cases declaration.beforeEnd with
  | none => exact nofun
  | some gap => exact gap.blank

theorem areApart_parts : Part.areApart declaration.parts = true := by
  rw [parts, idParts]
  rcases declaration.id with _ | ⟨before, (_ | _) | _⟩ <;>
    rcases declaration.beforeName with _ | _ <;> rcases declaration.subset with _ | ⟨_ | _, _⟩ <;> rfl

-- The lexemes of the head of a declaration are cut off in front of its brackets or its end.
theorem exists_cuts_written : ∃ front,
    cuts declaration.written =
      front ++ cuts (declaration.writtenSubset ++ declaration.writtenEnd) ∧
    front.map Cut.lexeme =
      .name declaration.name.text :: declaration.idParts.filterMap Part.lexeme? := by
  have hbehind : ∀ c ∈ (declaration.writtenSubset ++ declaration.writtenEnd).head?,
      isNameChar c = false := by
    intro c hc
    unfold writtenSubset at hc
    cases hsubset : declaration.subset with
    | none =>
        rw [hsubset] at hc
        have hend := declaration.blank_writtenEnd c (List.mem_of_mem_head? hc)
        exact not_isNameChar_of_isBlankChar hend
    | some subset =>
        rw [hsubset] at hc
        cases hc
        rfl
  have hlexes := lexes_parts declaration.areApart_parts hbehind
  rw [lexemes_parts] at hlexes
  exact hlexes

theorem cuts_writtenEnd : cuts declaration.writtenEnd = [] := by
  obtain ⟨front, hcuts, hfront⟩ := @Lexes.blank [] _ declaration.blank_writtenEnd
  rw [List.append_nil, cuts_nil, List.append_nil, List.map_eq_nil_iff.mp hfront] at hcuts
  exact hcuts

theorem cuts_bracket (text : List Char) : cuts ('[' :: text) = ⟨.openBracket, text⟩ :: cuts text :=
  cuts_cut rfl text

end DoctypeDeclaration

end Dtd

namespace Doctype

open Dtd (Cut cuts DoctypeDeclaration)

variable {doctype : Doctype} {front more : List Cut}

theorem exists_cut {lexeme : Dtd.Lexeme} {given : List Dtd.Lexeme}
    (h : front.map Cut.lexeme = lexeme :: given) :
    ∃ rest tail, front = ⟨lexeme, rest⟩ :: tail ∧ tail.map Cut.lexeme = given := by
  obtain ⟨⟨_, rest⟩, tail, rfl, rfl, htail⟩ := List.map_eq_cons_iff.mp h
  exact ⟨rest, tail, rfl, htail⟩

theorem beforeLastBracket_append (text : List Char) {behind : List Char} (h : ']' ∉ behind) :
    beforeLastBracket (text ++ ']' :: behind) = text := by
  have hpass := Markup.bne_of_notMem (mt List.mem_reverse.mp h)
  rw [beforeLastBracket, List.reverse_append, List.reverse_cons, List.append_assoc,
    List.dropWhile_append_of_pos hpass]
  simp

-- Where a subset comes from: it was there before, or a bracket among the lexemes opens it.
def Provides (before : Option String) (pieces : List Cut) (subset : Option String) : Prop :=
  subset = before ∨ ∃ piece ∈ pieces, piece.lexeme = .openBracket ∧
    subset = some (String.ofList (beforeLastBracket piece.rest))

theorem Provides.skip {before subset : Option String} {pieces : List Cut}
    (h : Provides before pieces subset) (skipped : List Cut) :
    Provides before (skipped ++ pieces) subset := by
  rcases h with hsame | ⟨piece, hmem, hpiece⟩
  · exact .inl hsame
  · exact .inr ⟨piece, List.mem_append_right skipped hmem, hpiece⟩

theorem provides_read (doctype : Doctype) (pieces : List Cut) :
    Provides doctype.subset pieces (read doctype pieces).subset := by
  unfold read
  fun_induction readM Cutter.plain doctype pieces with
  | case1 doctype => exact .inl rfl
  | case2 doctype piece more text _ hname ih => exact (ih text).skip [_]
  | case3 doctype piece more text _ hname ih => exact ih.skip [_]
  | case4 doctype piece _ => exact .inl rfl
  | case5 doctype piece _ first => exact .inl rfl
  | case6 doctype piece _ first second later ih => exact (ih _ _).skip [_, _, _]
  | case7 doctype piece _ => exact .inl rfl
  | case8 doctype piece _ first later ih => exact (ih _).skip [_, _]
  | case9 doctype piece more hpiece => exact .inr ⟨piece, List.mem_cons_self, hpiece, rfl⟩
  | case10 doctype piece more _ _ _ _ ih => exact ih.skip [_]

section Declarations

variable {declaration : DoctypeDeclaration}

-- An external identifier in full is read, and what stands behind it is read on.
theorem read_append (hid : declaration.id.any (·.2.isPublicOnly) = false)
    (hfront : front.map Cut.lexeme =
      .name declaration.name.text :: declaration.idParts.filterMap Dtd.Part.lexeme?)
    (more : List Cut) :
    read ⟨"", none, none, none⟩ (front ++ more) =
      read { declaration.doctype with subset := none } more := by
  obtain ⟨beforeName, name, id, subset, beforeEnd⟩ := declaration
  obtain ⟨_, first, rfl, hfirst⟩ := exists_cut hfront
  rcases id with _ | ⟨before, id | ⟨between, publicId⟩⟩
  · rw [List.map_eq_nil_iff.mp hfirst]
    rfl
  · cases id with
    | ofSystem between systemId =>
        obtain ⟨_, second, rfl, hsecond⟩ := exists_cut hfirst
        obtain ⟨_, third, rfl, hthird⟩ := exists_cut hsecond
        rw [List.map_eq_nil_iff.mp hthird]
        rfl
    | ofPublic between publicId beforeSystem systemId =>
        obtain ⟨_, second, rfl, hsecond⟩ := exists_cut hfirst
        obtain ⟨_, third, rfl, hthird⟩ := exists_cut hsecond
        obtain ⟨_, fourth, rfl, hfourth⟩ := exists_cut hthird
        rw [List.map_eq_nil_iff.mp hfourth]
        rfl
  · cases hid

-- A public identifier alone takes the next lexeme for the identifier that it lacks.
theorem read_publicOnly (hid : declaration.id.any (·.2.isPublicOnly) = true)
    (hfront : front.map Cut.lexeme =
      .name declaration.name.text :: declaration.idParts.filterMap Dtd.Part.lexeme?) :
    read ⟨"", none, none, none⟩ front = { declaration.doctype with subset := none } ∧
      ∀ rest more, read ⟨"", none, none, none⟩ (front ++ ⟨.openBracket, rest⟩ :: more) =
        read { declaration.doctype with subset := none } more := by
  obtain ⟨beforeName, name, id, subset, beforeEnd⟩ := declaration
  obtain ⟨_, first, rfl, hfirst⟩ := exists_cut hfront
  rcases id with _ | ⟨before, id | ⟨between, publicId⟩⟩
  · cases hid
  · cases hid
  · obtain ⟨_, second, rfl, hsecond⟩ := exists_cut hfirst
    obtain ⟨_, third, rfl, hthird⟩ := exists_cut hsecond
    rw [List.map_eq_nil_iff.mp hthird]
    exact ⟨rfl, fun _ _ => rfl⟩

-- A bracket in a subset opens a shorter one.
theorem beforeLastBracket_ne {subset behind rest : List Char} (hopen : '[' ∉ behind)
    (hclose : ']' ∉ behind) (h : '[' :: rest <:+ subset ++ ']' :: behind) :
    beforeLastBracket rest ≠ subset := by
  obtain ⟨front, hfront⟩ := h
  rcases List.append_eq_append_iff.mp hfront with ⟨middle, hsubset, hrest⟩ | ⟨middle, -, hbehind⟩
  · cases middle with
    | nil => cases hrest
    | cons c inner =>
        rw [List.cons_append, List.cons.injEq] at hrest
        rw [hrest.2, beforeLastBracket_append inner hclose, hsubset]
        intro heq
        have hlength := congrArg List.length heq
        simp only [List.length_append, List.length_cons] at hlength
        omega
  · have hmem : '[' ∈ ']' :: behind := by
      rw [hbehind]
      exact List.mem_append_right middle List.mem_cons_self
    rcases List.mem_cons.mp hmem with heq | hlater
    · cases heq
    · exact absurd hlater hopen

-- A subset is not found again behind its own bracket.
theorem subset_read_ne {doctype : Doctype} (hnone : doctype.subset = none) {behind : List Char}
    (hopen : '[' ∉ behind) (hclose : ']' ∉ behind) (subset : List Char) :
    (read doctype (cuts (subset ++ ']' :: behind))).subset ≠ some (String.ofList subset) := by
  intro heq
  rcases provides_read doctype (cuts (subset ++ ']' :: behind)) with
    hsame | ⟨piece, hmem, hpiece, hfound⟩
  · rw [heq, hnone] at hsame
    cases hsame
  · rw [heq, Option.some.injEq, String.ofList_inj] at hfound
    have hsuffix := Dtd.openBracket_of_mem_cuts hmem hpiece
    exact beforeLastBracket_ne hopen hclose hsuffix hfound.symm

theorem notMem_writtenEnd {c : Char} (hc : Dtd.isBlankChar c = false) :
    c ∉ declaration.writtenEnd := by
  intro hmem
  rw [declaration.blank_writtenEnd c hmem] at hc
  cases hc

-- Reading a document type declaration recovers the parts that it is written of, unless declarations
-- in brackets stand behind a public identifier without a system identifier. Then they are lost.
theorem ofText_written_iff (declaration : DoctypeDeclaration) :
    ofText (String.ofList declaration.written) = declaration.doctype ↔
      declaration.subset = none ∨ declaration.id.any (·.2.isPublicOnly) = false := by
  obtain ⟨front, hcuts, hfront⟩ := declaration.exists_cuts_written
  have htext : ofText (String.ofList declaration.written) = read ⟨"", none, none, none⟩
      (front ++ cuts (declaration.writtenSubset ++ declaration.writtenEnd)) := by
    rw [ofText, String.toList_ofList, hcuts]
  rw [htext, Dtd.DoctypeDeclaration.writtenSubset]
  cases hsubset : declaration.subset with
  | none =>
      have hdoctype : { declaration.doctype with subset := none } = declaration.doctype := by
        simp [Dtd.DoctypeDeclaration.doctype, hsubset]
      refine iff_of_true ?_ (.inl rfl)
      rw [Option.elim_none, List.nil_append, declaration.cuts_writtenEnd]
      cases hid : declaration.id.any (·.2.isPublicOnly) with
      | false => rw [read_append hid hfront, hdoctype, read_nil]
      | true => rw [List.append_nil, (read_publicOnly hid hfront).1, hdoctype]
  | some subset =>
      have hbracket : ('[' :: (subset.text ++ [']'])) ++ declaration.writtenEnd =
          '[' :: (subset.text ++ ']' :: declaration.writtenEnd) := by
        simp
      have hopen : '[' ∉ declaration.writtenEnd := notMem_writtenEnd rfl
      have hclose : ']' ∉ declaration.writtenEnd := notMem_writtenEnd rfl
      rw [Option.elim_some, hbracket, Dtd.DoctypeDeclaration.cuts_bracket]
      cases hid : declaration.id.any (·.2.isPublicOnly) with
      | false =>
          refine iff_of_true ?_ (.inr rfl)
          rw [read_append hid hfront, read_openBracket, beforeLastBracket_append _ hclose]
          simp [Dtd.DoctypeDeclaration.doctype, hsubset]
      | true =>
          refine iff_of_false ?_ (by simp)
          rw [(read_publicOnly hid hfront).2]
          have hnone : { declaration.doctype with subset := none }.subset = none := rfl
          intro heq
          have hlost := subset_read_ne hnone hopen hclose subset.text
          rw [heq] at hlost
          simp [Dtd.DoctypeDeclaration.doctype, hsubset] at hlost

end Declarations

-- A public identifier alone, with a declaration in brackets behind it.
def publicIdAndSubset : DoctypeDeclaration :=
  let name : Dtd.Name := ⟨⟨"html", by decide, List.all_eq_true.mp rfl⟩, by decide, by decide⟩
  let publicId := Dtd.Quotation.double "-//X//EN" (by decide)
  ⟨none, name, some (Dtd.Gap.space, .publicOnly Dtd.Gap.space publicId),
    some ⟨some Dtd.Gap.space, "<!ENTITY a '1'>".toList⟩, none⟩

-- The bracket is taken for the system identifier.
theorem not_ofText_publicIdAndSubset :
    String.ofList publicIdAndSubset.written = "html PUBLIC \"-//X//EN\" [<!ENTITY a '1'>]" ∧
      publicIdAndSubset.doctype = ⟨"html", some "-//X//EN", none, some "<!ENTITY a '1'>"⟩ ∧
      ofText (String.ofList publicIdAndSubset.written) ≠ publicIdAndSubset.doctype := by
  have hread : ofText (String.ofList publicIdAndSubset.written) =
      ⟨"html", some "-//X//EN", none, none⟩ := by
    decide +kernel
  refine ⟨by decide, by decide, ?_⟩
  rw [hread]
  decide

end Doctype

end TemplateMarkup
