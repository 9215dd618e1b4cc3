namespace TemplateMarkup.Dtd

-- A word or mark of a document type definition. Declarations other than those of entities are
-- told apart only by where they begin and end.
inductive Lexeme where
  | comment
  | instruction
  -- The opening of an entity declaration.
  | entity
  -- The opening of any other declaration.
  | declaration
  | conditionalStart
  | conditionalEnd
  | percent
  -- A reference to a parameter entity.
  | reference (name : String)
  | publicWord
  | systemWord
  | literal (text : String)
  | openBracket
  | closeBracket
  | close
  | name (text : String)
  -- A stretch that is the beginning of some lexeme but of none in full.
  | stray
  deriving DecidableEq, Repr

def isBlankChar (c : Char) : Bool :=
  c = ' ' || c = '\t' || c = '\r' || c = '\n'

def isNameChar (c : Char) : Bool :=
  !(isBlankChar c || c = '<' || c = '>' || c = '%' || c = '\'' || c = '"' || c = '[' || c = ']')

def isReferenceChar (c : Char) : Bool :=
  !isBlankChar c && c != ';' && c != '%'

-- A lexeme and the text behind it.
structure Cut where
  lexeme : Lexeme
  rest : List Char
  deriving Repr

-- The rest of a comment. Two hyphens must be its end.
def cutComment : List Char → Cut
  | '-' :: '-' :: '>' :: rest => ⟨.comment, rest⟩
  | '-' :: '-' :: rest => ⟨.stray, rest⟩
  | _ :: rest => cutComment rest
  | [] => ⟨.stray, []⟩

-- The rest of a processing instruction.
def cutInstruction : List Char → Cut
  | '?' :: '>' :: rest => ⟨.instruction, rest⟩
  | _ :: rest => cutInstruction rest
  | [] => ⟨.stray, []⟩

-- What begins with a less-than sign, given what stands behind it.
def cutMarkup : List Char → Cut
  | '?' :: rest => cutInstruction rest
  | '!' :: '-' :: '-' :: rest => cutComment rest
  | '!' :: '-' :: rest => ⟨.stray, rest⟩
  | '!' :: '[' :: rest => ⟨.conditionalStart, rest⟩
  | '!' :: rest =>
    let keyword := rest.takeWhile Char.isUpper
    let lexeme :=
      if keyword = [] then .stray
      else if keyword = ['E', 'N', 'T', 'I', 'T', 'Y'] then .entity
      else .declaration
    ⟨lexeme, rest.dropWhile Char.isUpper⟩
  | rest => ⟨.stray, rest⟩

-- A quoted literal, given what stands behind its opening quote. One that is not closed takes
-- all the rest.
def cutLiteral (quote : Char) (text : List Char) : Cut :=
  match text.dropWhile (· != quote) with
  | [] => ⟨.stray, []⟩
  | _ :: rest => ⟨.literal (String.ofList (text.takeWhile (· != quote))), rest⟩

-- What begins with a percent sign, given what stands behind it.
def cutPercent (text : List Char) : Cut :=
  match text.takeWhile isReferenceChar, text.dropWhile isReferenceChar with
  | c :: name, ';' :: rest => ⟨.reference (String.ofList (c :: name)), rest⟩
  | _, _ => ⟨.percent, text⟩

def wordLexeme (word : List Char) : Lexeme :=
  if word = ['P', 'U', 'B', 'L', 'I', 'C'] then .publicWord
  else if word = ['S', 'Y', 'S', 'T', 'E', 'M'] then .systemWord
  else .name (String.ofList word)

-- The lexeme that begins with the character `c`, which is no white space.
def cut (c : Char) (rest : List Char) : Cut :=
  match c with
  | '<' => cutMarkup rest
  | '"' => cutLiteral '"' rest
  | '\'' => cutLiteral '\'' rest
  | '%' => cutPercent rest
  | '[' => ⟨.openBracket, rest⟩
  | ']' =>
    match rest with
    | ']' :: '>' :: after => ⟨.conditionalEnd, after⟩
    | _ => ⟨.closeBracket, rest⟩
  | '>' => ⟨.close, rest⟩
  | c => ⟨wordLexeme (c :: rest.takeWhile isNameChar), rest.dropWhile isNameChar⟩

theorem length_cutComment (text : List Char) : (cutComment text).rest.length ≤ text.length := by
  fun_induction cutComment text <;> simp_all <;> omega

theorem length_cutInstruction (text : List Char) :
    (cutInstruction text).rest.length ≤ text.length := by
  fun_induction cutInstruction text <;> simp_all <;> omega

theorem length_dropWhile_le (p : Char → Bool) (text : List Char) :
    (text.dropWhile p).length ≤ text.length :=
  (List.dropWhile_suffix p).length_le

theorem length_cutMarkup (text : List Char) : (cutMarkup text).rest.length ≤ text.length := by
  unfold cutMarkup
  split
  · exact Nat.le_succ_of_le (length_cutInstruction _)
  · rename_i rest
    have := length_cutComment rest
    simp only [List.length_cons]
    omega
  · simp only [List.length_cons]
    omega
  · simp only [List.length_cons]
    omega
  · exact Nat.le_succ_of_le (length_dropWhile_le _ _)
  · exact Nat.le_refl _

theorem length_cutLiteral (quote : Char) (text : List Char) :
    (cutLiteral quote text).rest.length ≤ text.length := by
  unfold cutLiteral
  have := length_dropWhile_le (· != quote) text
  split
  · simp
  · rename_i h
    rw [h] at this
    simp only [List.length_cons] at this
    exact Nat.le_of_succ_le this

theorem length_cutPercent (text : List Char) : (cutPercent text).rest.length ≤ text.length := by
  unfold cutPercent
  have := length_dropWhile_le isReferenceChar text
  split
  · rename_i h
    rw [h] at this
    simp only [List.length_cons] at this
    exact Nat.le_of_succ_le this
  · exact Nat.le_refl _

theorem length_cut (c : Char) (text : List Char) : (cut c text).rest.length ≤ text.length := by
  unfold cut
  split
  · exact length_cutMarkup _
  · exact length_cutLiteral _ _
  · exact length_cutLiteral _ _
  · exact length_cutPercent _
  · exact Nat.le_refl _
  · split
    · simp only [List.length_cons]
      omega
    · exact Nat.le_refl _
  · exact Nat.le_refl _
  · exact length_dropWhile_le _ _

-- All lexemes of a text, each with what stands behind it.
def cuts (text : List Char) : List Cut :=
  match text with
  | [] => []
  | c :: rest =>
    if isBlankChar c then cuts rest
    else cut c rest :: cuts (cut c rest).rest
termination_by text.length
decreasing_by
  · simp
  · exact Nat.lt_succ_of_le (length_cut c rest)

def lexemes (text : String) : List Lexeme :=
  (cuts text.toList).map Cut.lexeme

end TemplateMarkup.Dtd
