import TemplateMarkup.Proofs.Dtd.Doctype
import TemplateMarkup.Proofs.Entities.Permanence

namespace TemplateMarkup

namespace Dtd

-- A text of the characters that names are made of.
def IsWord (text : String) : Prop :=
  ∀ c ∈ text.toList, isNameChar c = true

theorem isWord_of_wordLexeme {word : List Char} (h : ∀ c ∈ word, isNameChar c = true)
    {name : String} (hname : wordLexeme word = .name name) : IsWord name := by
  unfold wordLexeme at hname
  split at hname
  · cases hname
  · split at hname
    · cases hname
    · cases hname
      simpa [IsWord] using h

theorem isWord_of_mem_cuts {text : List Char} {piece : Cut} (hmem : piece ∈ cuts text)
    {name : String} (h : piece.lexeme = .name name) : IsWord name := by
  fun_induction cuts text with
  | case1 => cases hmem
  | case2 c rest hblank ih => exact ih hmem
  | case3 c rest hblank ih =>
      rcases List.mem_cons.mp hmem with rfl | hlater
      · have hunmarked : (cut c rest).lexeme.isUnmarked = true := by rw [h]; rfl
        rcases cut_of_isUnmarked hunmarked with ⟨-, hcut⟩ | ⟨hfirst, hword⟩
        · rw [hcut] at h
          cases h
        · refine isWord_of_wordLexeme ?_ (hword.symm.trans h)
          rintro d (_ | hd)
          · exact hfirst (by simpa using hblank)
          · exact List.mem_takeWhile_imp (by assumption)
      · exact ih hlater

-- The name that has been read of the declaration in progress.
def Mode.name? : Mode → Option String
  | .inEntity parts | .atPublicId parts => parts.name
  | _ => none

theorem eq_name_of_mem_declared {parts : EntityParts} {name value : String}
    (h : .general name value ∈ parts.declared) : parts.name = some name := by
  unfold EntityParts.declared at h
  split at h <;> simp_all

theorem name_add {parts : EntityParts} {lexeme : Lexeme} {word : String}
    (h : (parts.add lexeme).name = some word) :
    parts.name = some word ∨ lexeme = .name word := by
  unfold EntityParts.add at h
  split at h <;> grind

-- Going on by a lexeme declares at most the name that has been read, and reads at most the lexeme
-- for a name.
theorem declarationsFrom_cons (mode : Mode) (lexeme : Lexeme) (more : List Lexeme) :
    ∃ declared next,
      declarationsFrom mode (lexeme :: more) = declared ++ declarationsFrom next more ∧
      (∀ name value, .general name value ∈ declared → mode.name? = some name) ∧
      ∀ word, next.name? = some word → mode.name? = some word ∨ lexeme = .name word := by
  cases mode with
  | between =>
      cases lexeme with
      | entity => exact ⟨[], .inEntity {}, rfl, by simp, by simp [Mode.name?]⟩
      | declaration => exact ⟨[], .inDeclaration, rfl, by simp, by simp [Mode.name?]⟩
      | conditionalStart => exact ⟨[], .inConditional 0, rfl, by simp, by simp [Mode.name?]⟩
      | reference name =>
          exact ⟨[.reference name], .between, rfl, by simp, by simp [Mode.name?]⟩
      | _ => exact ⟨[], .between, rfl, by simp, by simp [Mode.name?]⟩
  | inEntity parts =>
      cases lexeme with
      | close =>
          exact ⟨parts.declared, .between, rfl, fun _ _ h => eq_name_of_mem_declared h,
            by simp [Mode.name?]⟩
      | publicWord =>
          exact ⟨[], .atPublicId { parts with isExternal := true }, rfl, by simp,
            fun word h => .inl h⟩
      | _ => exact ⟨[], .inEntity (parts.add _), rfl, by simp, fun word h => name_add h⟩
  | atPublicId parts =>
      exact ⟨[], .inEntity { parts with publicId := Doctype.literal? lexeme }, rfl, by simp,
        fun word h => .inl h⟩
  | inDeclaration =>
      cases lexeme with
      | close => exact ⟨[], .between, rfl, by simp, by simp [Mode.name?]⟩
      | _ => exact ⟨[], .inDeclaration, rfl, by simp, by simp [Mode.name?]⟩
  | inConditional outer =>
      cases lexeme with
      | conditionalStart =>
          exact ⟨[], .inConditional (outer + 1), rfl, by simp, by simp [Mode.name?]⟩
      | conditionalEnd =>
          cases outer with
          | zero => exact ⟨[], .between, rfl, by simp, by simp [Mode.name?]⟩
          | succ outer => exact ⟨[], .inConditional outer, rfl, by simp, by simp [Mode.name?]⟩
      | _ => exact ⟨[], .inConditional outer, rfl, by simp, by simp [Mode.name?]⟩

theorem eq_name_of_mem_nil {mode : Mode} {name value : String}
    (h : .general name value ∈ declarationsFrom mode []) : mode.name? = some name := by
  cases mode with
  | inEntity parts => exact eq_name_of_mem_declared h
  | atPublicId parts =>
      have hname := @eq_name_of_mem_declared { parts with publicId := none } name value h
      exact hname
  | between | inDeclaration | inConditional => cases h

-- Every general entity that is declared has a name that was read for one.
theorem name_mem_of_mem_declarationsFrom {mode : Mode} {given : List Lexeme} {name value : String}
    (h : .general name value ∈ declarationsFrom mode given) :
    mode.name? = some name ∨ .name name ∈ given := by
  induction given generalizing mode with
  | nil => exact .inl (eq_name_of_mem_nil h)
  | cons lexeme more ih =>
      obtain ⟨declared, next, hsame, hdeclared, hnext⟩ := declarationsFrom_cons mode lexeme more
      rw [hsame] at h
      rcases List.mem_append.mp h with hhere | hlater
      · exact .inl (hdeclared name value hhere)
      · rcases ih hlater with hname | hmem
        · rcases hnext name hname with hbefore | rfl
          · exact .inl hbefore
          · exact .inr List.mem_cons_self
        · exact .inr (List.mem_cons_of_mem lexeme hmem)

-- General entities are called by words.
theorem isWord_of_mem_declarations {text : String} {declaration : Declaration}
    (hmem : declaration ∈ declarations text) {name : String}
    (h : declaration.defines name = true) : IsWord name := by
  cases declaration with
  | general other value =>
      obtain rfl : other = name := by simpa [Declaration.defines] using h
      rcases name_mem_of_mem_declarationsFrom hmem with hnone | hmem
      · cases hnone
      · obtain ⟨piece, hpiece, hlexeme⟩ := List.mem_map.mp hmem
        exact isWord_of_mem_cuts hpiece hlexeme
  | parameter | reference => cases h

end Dtd

namespace Entities

variable {fetch : String → Except Fault (Option String)} {walk : Walk} {entities : Entities}

-- The general entities are called by words.
def Worded (entities : Entities) : Prop :=
  ∀ name value, entities.get? name = some value → Dtd.IsWord name

theorem worded_empty : Worded empty := by
  intro name value h
  simp [get?, empty] at h

theorem Worded.declare {declaration : Dtd.Declaration} (h : entities.Worded)
    (hname : ∀ name, declaration.defines name = true → Dtd.IsWord name) :
    (entities.declare declaration).Worded := by
  intro name value hknown
  cases hdefines : declaration.defines name with
  | true => exact hname name hdefines
  | false =>
      rw [get?_declare_of_not_defines hdefines] at hknown
      exact h name value hknown

-- The general entities that are known and those that are still ahead are called by words.
structure WordedAhead (walk : Walk) : Prop where
  known : walk.entities.Worded
  ahead : ∀ level ∈ walk.levels, ∀ declaration ∈ level.pending, ∀ name,
    declaration.defines name = true → Dtd.IsWord name

namespace WordedAhead

theorem rest (h : entities.Worded) : WordedAhead (Walk.rest entities) :=
  ⟨h, by simp [Walk.rest]⟩

theorem finish {depth : Nat} {outer : List Level} (h : WordedAhead walk)
    (hlevels : walk.levels = ⟨depth, []⟩ :: outer) :
    WordedAhead { walk with levels := outer } := by
  refine ⟨h.known, fun level hlevel => h.ahead level ?_⟩
  rw [hlevels]
  exact List.mem_cons_of_mem _ hlevel

theorem declare {depth : Nat} {declaration : Dtd.Declaration} {more : List Dtd.Declaration}
    {outer : List Level} (h : WordedAhead walk)
    (hlevels : walk.levels = ⟨depth, declaration :: more⟩ :: outer) :
    WordedAhead { walk.past depth declaration more outer with
      entities := walk.entities.declare declaration } := by
  have hahead := h.ahead
  rw [hlevels] at hahead
  refine ⟨h.known.declare fun name hdefines => ?_, fun level hlevel => ?_⟩
  · exact hahead _ List.mem_cons_self declaration List.mem_cons_self name hdefines
  · rcases List.mem_cons.mp hlevel with rfl | houter
    · exact fun other hother => hahead _ List.mem_cons_self other (List.mem_cons_of_mem _ hother)
    · exact hahead level (List.mem_cons_of_mem _ houter)

theorem enter (h : WordedAhead walk) (depth : Nat) (text : String) :
    WordedAhead (walk.enter depth text) := by
  unfold Walk.enter
  split
  · exact h
  · refine ⟨h.known, fun level hlevel => ?_⟩
    rcases List.mem_cons.mp hlevel with rfl | houter
    · exact fun declaration hmem name hdefines => Dtd.isWord_of_mem_declarations hmem hdefines
    · exact h.ahead level houter

theorem invariant : Invariant fetch WordedAhead where
  finish := fun hlevels h => h.finish hlevels
  declare := fun hlevels h => h.declare hlevels
  enter := fun depth text h => h.enter depth text
  request := fun _ _ h =>
    request_kept h (fun _ => ⟨h.known, h.ahead⟩)
      (fun _ _ hwalk => ⟨hwalk.known, by simp [Walk.fail]⟩)
      fun _ depth text hwalk => hwalk.enter depth text

end WordedAhead

-- No reading of definitions brings in an entity by another name.
theorem Worded.after (h : entities.Worded) (calls : List Call) : (after calls entities).Worded := by
  induction calls generalizing entities with
  | nil => exact h
  | cons call calls ih =>
      obtain ⟨walk, hwalk, hleft, -⟩ := call.exists_mem_eval entities
      have hhere := (WordedAhead.invariant.of_call hwalk (.rest h)).known
      rw [hleft] at hhere
      exact ih hhere

-- What a document type brings about is what at most two calls do.
theorem exists_calls_takeDoctype (fetch : String → Except Fault (Option String))
    (entities : Entities) (doctype : Doctype) :
    ∃ calls, (Markup.takeDoctype fetch entities doctype).entities = after calls entities := by
  rw [takeDoctype_eq_andThen]
  cases doctype.subset with
  | none =>
      cases doctype.publicId with
      | none => exact ⟨[], rfl⟩
      | some publicId => exact ⟨[⟨fetch, .publicId publicId⟩], rfl⟩
  | some subset =>
      rw [Option.elim_some, Intake.andThen]
      split
      · exact ⟨[⟨fetch, .text subset⟩], rfl⟩
      · cases doctype.publicId with
        | none => exact ⟨[⟨fetch, .text subset⟩], rfl⟩
        | some publicId => exact ⟨[⟨fetch, .text subset⟩, ⟨fetch, .publicId publicId⟩], rfl⟩

theorem Worded.takeDoctype (h : entities.Worded) (doctype : Doctype) :
    (Markup.takeDoctype fetch entities doctype).entities.Worded := by
  obtain ⟨calls, hcalls⟩ := exists_calls_takeDoctype fetch entities doctype
  rw [hcalls]
  exact h.after calls

end Entities

end TemplateMarkup
