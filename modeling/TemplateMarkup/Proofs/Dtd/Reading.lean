import TemplateMarkup.Proofs.Dtd.Lexing

namespace TemplateMarkup.Dtd

def Lexeme.marksSection : Lexeme → Bool
  | .conditionalStart | .conditionalEnd => true
  | _ => false

-- A lexeme that goes on with a declaration.
def Lexeme.isInner : Lexeme → Bool
  | .close => false
  | lexeme => !lexeme.marksSection

theorem marksSection_of_isInner {lexeme : Lexeme} (h : lexeme.isInner = true) :
    lexeme.marksSection = false := by
  cases lexeme <;> first | rfl | cases h

theorem isInner_wordLexeme (word : List Char) : (wordLexeme word).isInner = true := by
  unfold wordLexeme
  split
  · rfl
  · split <;> rfl

theorem isInner_parts {parts : List Part} {lexeme : Lexeme}
    (h : lexeme ∈ parts.filterMap Part.lexeme?) : lexeme.isInner = true := by
  obtain ⟨part, -, hpart⟩ := List.mem_filterMap.mp h
  cases part with
  | gap space => cases hpart
  | word text =>
      cases hpart
      exact isInner_wordLexeme _
  | literal text =>
      cases hpart
      rfl
  | percent space =>
      cases hpart
      rfl

-- A declaration that is not about entities goes on to its end.
theorem declarationsFrom_inDeclaration {given : List Lexeme}
    (h : ∀ lexeme ∈ given, lexeme.isInner = true) (more : List Lexeme) :
    declarationsFrom .inDeclaration (given ++ .close :: more) = declarationsFrom .between more := by
  induction given with
  | nil => rfl
  | cons lexeme given ih =>
      have hrest := ih fun other ho => h other (List.mem_cons_of_mem lexeme ho)
      have hlexeme := h lexeme List.mem_cons_self
      rw [List.cons_append, declarationsFrom]
      · exact hrest
      · rintro rfl
        cases hlexeme

section Sections

variable {outer : Nat} {more : List Lexeme}

-- Nothing but the beginnings and ends of sections is looked at in a conditional section.
theorem declarationsFrom_inConditional {given : List Lexeme}
    (h : ∀ lexeme ∈ given, lexeme.marksSection = false) :
    declarationsFrom (.inConditional outer) (given ++ more) =
      declarationsFrom (.inConditional outer) more := by
  induction given with
  | nil => rfl
  | cons lexeme given ih =>
      have hlexeme := h lexeme List.mem_cons_self
      have hrest := ih fun other ho => h other (List.mem_cons_of_mem lexeme ho)
      rw [List.cons_append, declarationsFrom]
      · exact hrest
      · rintro rfl
        cases hlexeme
      · rintro rfl
        cases hlexeme
      · rintro _ rfl
        cases hlexeme

theorem marksSection_declaration {opening : Lexeme} (hopening : opening.marksSection = false)
    (parts : List Part) :
    ∀ lexeme ∈ declarationLexemes opening parts, lexeme.marksSection = false := by
  intro lexeme h
  rw [declarationLexemes, List.mem_cons, List.mem_append, List.mem_singleton] at h
  rcases h with rfl | hpart | rfl
  · exact hopening
  · exact marksSection_of_isInner (isInner_parts hpart)
  · rfl

-- What an item consists of neither begins nor ends a section.
theorem marksSection_item (item : Item) :
    ∀ lexeme ∈ item.lexemes, lexeme.marksSection = false := by
  cases item with
  | gap space => exact nofun
  | internal entity => exact marksSection_declaration rfl _
  | external entity => exact marksSection_declaration rfl _
  | parameter entity => exact marksSection_declaration rfl _
  | other declaration => exact marksSection_declaration rfl _
  | comment content => simp [Item.lexemes, Lexeme.marksSection]
  | instruction content => simp [Item.lexemes, Lexeme.marksSection]

-- A definition in a section leaves the reader in that section.
theorem declarationsFrom_inConditional_definition (definition : Definition) :
    declarationsFrom (.inConditional outer) (definition.lexemes ++ more) =
      declarationsFrom (.inConditional outer) more := by
  induction definition generalizing outer more with
  | nil => rfl
  | item first rest ih =>
      rw [Definition.lexemes, List.append_assoc,
        declarationsFrom_inConditional (marksSection_item first)]
      exact ih
  | conditional head inside rest ihInside ihRest =>
      have hhead : ∀ lexeme ∈ head.parts.filterMap Part.lexeme?, lexeme.marksSection = false :=
        fun lexeme h => marksSection_of_isInner (isInner_parts h)
      calc declarationsFrom (.inConditional outer)
            ((Definition.conditional head inside rest).lexemes ++ more)
          = declarationsFrom (.inConditional (outer + 1)) (head.parts.filterMap Part.lexeme? ++
              .openBracket :: (inside.lexemes ++ .conditionalEnd :: (rest.lexemes ++ more))) := by
            simp only [Definition.lexemes, List.cons_append, List.append_assoc]
            rfl
        _ = declarationsFrom (.inConditional (outer + 1))
              (inside.lexemes ++ .conditionalEnd :: (rest.lexemes ++ more)) := by
            rw [declarationsFrom_inConditional hhead]
            rfl
        _ = declarationsFrom (.inConditional outer) (rest.lexemes ++ more) := by
            rw [ihInside]
            rfl
        _ = declarationsFrom (.inConditional outer) more := ihRest

end Sections

theorem wordLexeme_text {word : String} (hpublic : word ≠ "PUBLIC") :
    wordLexeme word.toList = if word = "SYSTEM" then .systemWord else .name word := by
  have hletters : ∀ letters, word.toList = letters ↔ word = String.ofList letters := by
    intro letters
    constructor
    · rintro rfl
      exact String.ofList_toList.symm
    · rintro rfl
      exact String.toList_ofList
  have hp : word.toList ≠ ['P', 'U', 'B', 'L', 'I', 'C'] := fun h => hpublic ((hletters _).mp h)
  rw [wordLexeme, if_neg hp, String.ofList_toList]
  exact if_congr (hletters _) rfl rfl

theorem Name.lexeme (name : Name) : wordLexeme name.text.toList = .name name.text := by
  rw [wordLexeme_text name.not_public, if_neg name.not_system]

section Entities

variable {more : List Lexeme}

theorem declarationsFrom_internal (entity : InternalDeclaration) :
    declarationsFrom .between (declarationLexemes .entity entity.parts ++ more) =
      .general entity.name.text entity.value.text :: declarationsFrom .between more := by
  have hparts : entity.parts.filterMap Part.lexeme? =
      [.name entity.name.text, .literal entity.value.text] := by
    simp [InternalDeclaration.parts, List.filterMap_cons, Part.lexeme?, lexes_optional, Name.lexeme]
  rw [declarationLexemes, hparts]
  rfl

theorem lexemes_mark (mark : FormatMark) :
    mark.parts.filterMap Part.lexeme? = [.name "NDATA", wordLexeme mark.name.text.toList] :=
  rfl

-- The name of a format is passed over, be it a keyword or not, unless it is `PUBLIC`.
theorem declarationsFrom_external {entity : ExternalDeclaration}
    (h : entity.mark.map (·.name.text) ≠ some "PUBLIC") :
    declarationsFrom .between (declarationLexemes .entity entity.parts ++ more) =
      declarationsFrom .between more := by
  have hparts : entity.parts.filterMap Part.lexeme? = .name entity.name.text ::
      (entity.id.parts.filterMap Part.lexeme? ++
        (entity.mark.toList.flatMap FormatMark.parts).filterMap Part.lexeme?) := by
    simp [ExternalDeclaration.parts, List.filterMap_cons, Part.lexeme?, lexes_optional,
      Name.lexeme]
  rw [declarationLexemes, hparts]
  cases hmark : entity.mark with
  | none => cases entity.id <;> rfl
  | some mark =>
      have hname : mark.name.text ≠ "PUBLIC" := by
        intro hname
        apply h
        rw [hmark, Option.map_some, hname]
      rw [Option.toList_some, List.flatMap_singleton, lexemes_mark, wordLexeme_text hname]
      by_cases hsystem : mark.name.text = "SYSTEM"
      · rw [if_pos hsystem]
        cases entity.id <;> rfl
      · rw [if_neg hsystem]
        cases entity.id <;> rfl

theorem declarationsFrom_parameter (entity : ParameterDeclaration) :
    declarationsFrom .between (declarationLexemes .entity entity.parts ++ more) =
      .parameter entity.name.text entity.content.entity :: declarationsFrom .between more := by
  have hparts : entity.parts.filterMap Part.lexeme? = .percent :: .name entity.name.text ::
      entity.content.parts.filterMap Part.lexeme? := by
    simp [ParameterDeclaration.parts, List.filterMap_cons, Part.lexeme?, lexes_optional,
      Name.lexeme]
  rw [declarationLexemes, hparts]
  cases entity.content with
  | inside value => rfl
  | outside id => cases id <;> rfl

-- Of an item is read what it declares.
theorem declarationsFrom_item {item : Item} (h : item.format? ≠ some "PUBLIC") :
    declarationsFrom .between (item.lexemes ++ more) =
      item.declared ++ declarationsFrom .between more := by
  cases item with
  | gap space => rfl
  | internal entity => exact declarationsFrom_internal entity
  | external entity => exact declarationsFrom_external h
  | parameter entity => exact declarationsFrom_parameter entity
  | other declaration =>
      have hinner : ∀ lexeme ∈ declaration.parts.filterMap Part.lexeme?, lexeme.isInner = true :=
        fun lexeme hmem => isInner_parts hmem
      have hrest := declarationsFrom_inDeclaration hinner more
      rw [Item.lexemes, declarationLexemes, List.cons_append, List.append_assoc]
      exact hrest
  | comment content => rfl
  | instruction content => rfl

end Entities

-- Of a definition are read the declarations outside of all conditional sections.
theorem declarationsFrom_definition {definition : Definition}
    (h : ∀ item ∈ definition.outside, item.format? ≠ some "PUBLIC") :
    declarationsFrom .between definition.lexemes = definition.declared := by
  induction definition with
  | nil => rfl
  | item first rest ih =>
      have hrest := ih fun item hmem => h item (List.mem_cons_of_mem first hmem)
      rw [Definition.lexemes, declarationsFrom_item (h first List.mem_cons_self), hrest]
      rfl
  | conditional head inside rest _ ih =>
      have hhead : ∀ lexeme ∈ head.parts.filterMap Part.lexeme?, lexeme.marksSection = false :=
        fun lexeme hmem => marksSection_of_isInner (isInner_parts hmem)
      calc declarationsFrom .between (Definition.conditional head inside rest).lexemes
          = declarationsFrom (.inConditional 0) (head.parts.filterMap Part.lexeme? ++
              .openBracket :: (inside.lexemes ++ .conditionalEnd :: rest.lexemes)) := rfl
        _ = declarationsFrom (.inConditional 0)
              (inside.lexemes ++ .conditionalEnd :: rest.lexemes) := by
            rw [declarationsFrom_inConditional hhead]
            rfl
        _ = declarationsFrom .between rest.lexemes := by
            rw [declarationsFrom_inConditional_definition]
            rfl
        _ = (Definition.conditional head inside rest).declared := ih h

theorem declarations_written {definition : Definition}
    (h : ∀ item ∈ definition.outside, item.format? ≠ some "PUBLIC") :
    declarations (String.ofList definition.written) = definition.declared := by
  rw [declarations, lexemes_written, declarationsFrom_definition h]

end TemplateMarkup.Dtd
