import TemplateMarkup.Json
import TemplateMarkup.Proofs.Markup.Escape

namespace TemplateMarkup.Json

open Markup (takeWhile_dropWhile_append)

-- What may stand behind a value. A digit would be taken for more of a number.
def IsBehind (rest : List Char) : Prop :=
  ∀ c ∈ rest.head?, c.isDigit = false

-- A value can be told from what is written for it, and so can the text behind it.
def Recovers {α : Type} (write : α → List Char) (value : α) : Prop :=
  ∀ ⦃other : α⦄ ⦃rest behind : List Char⦄, IsBehind rest → IsBehind behind →
    write value ++ rest = write other ++ behind → value = other ∧ rest = behind

theorem isBehind_nil : IsBehind [] := by
  intro c hc
  cases hc

theorem isBehind_cons {c : Char} (hc : c.isDigit = false) (rest : List Char) :
    IsBehind (c :: rest) := by
  rintro d ⟨⟩
  exact hc

theorem Recovers.injective {α : Type} {write : α → List Char}
    (h : ∀ value, Recovers write value) : Function.Injective write := by
  intro first second hsame
  refine (h first isBehind_nil isBehind_nil ?_).1
  rw [hsame]

section Strings

def hexValue (c : Char) : Nat :=
  if c.isDigit then c.toNat - 48 else c.toNat - 87

-- The character that a text between quotes begins with, and the text behind it. An escape by
-- number is read at its last two digits.
def readChar? : List Char → Option (Char × List Char)
  | '\\' :: 'b' :: rest => some ('\x08', rest)
  | '\\' :: 'f' :: rest => some ('\x0c', rest)
  | '\\' :: 'n' :: rest => some ('\n', rest)
  | '\\' :: 'r' :: rest => some ('\r', rest)
  | '\\' :: 't' :: rest => some ('\t', rest)
  | '\\' :: 'u' :: _ :: _ :: first :: second :: rest =>
    some (Char.ofNat (16 * hexValue first + hexValue second), rest)
  | '\\' :: c :: rest => some (c, rest)
  | c :: rest => some (c, rest)
  | [] => none

theorem readChar?_plain {c : Char} (hc : c ≠ '\\') (rest : List Char) :
    readChar? (c :: rest) = some (c, rest) := by
  rw [readChar?.eq_def]
  split <;> simp_all

-- A control character is written with two zeros and the two digits of its number.
theorem hexDigits_control : ∀ n < 0x20, ∃ first second,
    hexDigits n = ['0', '0', first, second] ∧ 16 * hexValue first + hexValue second = n := by
  intro n hn
  refine ⟨Nat.digitChar (n / 16), Nat.digitChar (n % 16), ?_⟩
  revert n
  decide

theorem readChar?_escapeChar (c : Char) (rest : List Char) :
    readChar? (escapeChar c ++ rest) = some (c, rest) := by
  unfold escapeChar
  split
  · rename_i hmark
    rcases (by simpa using hmark : c = '"' ∨ c = '\\') with rfl | rfl <;> rfl
  · rename_i hmark
    have hplain : c ≠ '\\' := by
      rintro rfl
      simp at hmark
    iterate 5
      split
      · rename_i hc
        rw [hc]
        rfl
    split
    · rename_i hcontrol
      obtain ⟨first, second, hdigits, hvalue⟩ := hexDigits_control c.toNat hcontrol
      simp only [hdigits, List.cons_append, List.nil_append, readChar?, hvalue, Char.ofNat_toNat]
    · exact readChar?_plain hplain rest

theorem escapeChar_append_inj {c d : Char} {rest behind : List Char}
    (h : escapeChar c ++ rest = escapeChar d ++ behind) : c = d ∧ rest = behind := by
  have hread := congrArg readChar? h
  rw [readChar?_escapeChar, readChar?_escapeChar] at hread
  simpa using hread

-- No character is written with a quote in front, so that a quote is the end of a text.
theorem escapeChar_append_ne_quote (c : Char) (rest behind : List Char) :
    escapeChar c ++ rest ≠ '"' :: behind := by
  intro h
  have hread := congrArg readChar? h
  rw [readChar?_escapeChar, readChar?_plain (by decide)] at hread
  obtain ⟨rfl, -⟩ : c = '"' ∧ rest = behind := by simpa using hread
  exact absurd (List.cons.inj h).1 (by decide)

theorem flatMap_escapeChar_inj {first second rest behind : List Char}
    (h : first.flatMap escapeChar ++ '"' :: rest = second.flatMap escapeChar ++ '"' :: behind) :
    first = second ∧ rest = behind := by
  induction first generalizing second with
  | nil =>
      cases second with
      | nil => exact ⟨rfl, (List.cons.inj h).2⟩
      | cons d second =>
          rw [List.flatMap_cons, List.append_assoc] at h
          exact absurd h.symm (escapeChar_append_ne_quote d _ rest)
  | cons c first ih =>
      cases second with
      | nil =>
          rw [List.flatMap_cons, List.append_assoc] at h
          exact absurd h (escapeChar_append_ne_quote c _ behind)
      | cons d second =>
          rw [List.flatMap_cons, List.flatMap_cons, List.append_assoc, List.append_assoc] at h
          obtain ⟨rfl, hrest⟩ := escapeChar_append_inj h
          obtain ⟨rfl, hbehind⟩ := ih hrest
          exact ⟨rfl, hbehind⟩

theorem renderString_append_inj {first second : String} {rest behind : List Char}
    (h : renderString first ++ rest = renderString second ++ behind) :
    first = second ∧ rest = behind := by
  simp only [renderString, List.cons_append, List.append_assoc, List.nil_append,
    List.cons.injEq, true_and] at h
  obtain ⟨hsame, hrest⟩ := flatMap_escapeChar_inj h
  exact ⟨String.toList_injective hsame, hrest⟩

end Strings

section Numbers

theorem toDigits_append_inj {m n : Nat} {rest behind : List Char} (hrest : IsBehind rest)
    (hbehind : IsBehind behind) (h : Nat.toDigits 10 m ++ rest = Nat.toDigits 10 n ++ behind) :
    m = n ∧ rest = behind := by
  have hdigits (k : Nat) : ∀ c ∈ Nat.toDigits 10 k, c.isDigit = true :=
    fun c hc => Nat.isDigit_of_mem_toDigits (by decide) (by decide) hc
  obtain ⟨htake, hdrop⟩ := takeWhile_dropWhile_append _ rest (hdigits m) hrest
  obtain ⟨htake', hdrop'⟩ := takeWhile_dropWhile_append _ behind (hdigits n) hbehind
  rw [h, htake'] at htake
  rw [h, hdrop'] at hdrop
  have hvalue := congrArg (Nat.ofDigitChars 10 · 0) htake
  simp only [Nat.ofDigitChars_ten_toDigits] at hvalue
  exact ⟨hvalue.symm, hdrop.symm⟩

theorem exists_toDigits_cons (n : Nat) :
    ∃ c rest, Nat.toDigits 10 n = c :: rest ∧ c.isDigit = true := by
  obtain ⟨c, rest, h⟩ := List.exists_cons_of_ne_nil (@Nat.toDigits_ne_nil n 10)
  have hmem : c ∈ Nat.toDigits 10 n := by
    rw [h]
    exact List.mem_cons_self
  exact ⟨c, rest, h, Nat.isDigit_of_mem_toDigits (by decide) (by decide) hmem⟩

theorem recovers_renderNumber (n : Int) : Recovers renderNumber n := by
  intro m rest behind hrest hbehind h
  -- only a negative number begins with a sign
  have hsign (k : Nat) (front back : List Char) : Nat.toDigits 10 k ++ front ≠ '-' :: back := by
    obtain ⟨c, more, hc, hdigit⟩ := exists_toDigits_cons k
    rw [hc]
    rintro ⟨⟩
    cases hdigit
  cases n with
  | ofNat n =>
      cases m with
      | ofNat m =>
          obtain ⟨rfl, hsame⟩ := toDigits_append_inj hrest hbehind h
          exact ⟨rfl, hsame⟩
      | negSucc m => exact absurd h (hsign n _ _)
  | negSucc n =>
      cases m with
      | ofNat m => exact absurd h.symm (hsign m _ _)
      | negSucc m =>
          obtain ⟨hsucc, hsame⟩ := toDigits_append_inj hrest hbehind (List.cons.inj h).2
          cases hsucc
          exact ⟨rfl, hsame⟩

end Numbers

section Containers

variable {α : Type} {write : α → List Char} {depth : Nat}

-- Items one behind the other, each but the first behind a comma.
def separated (write : α → List Char) : List α → List Char
  | [] => []
  | item :: rest => write item ++ rest.flatMap (',' :: write ·)

-- Every item on a line of its own, one level deeper than the closing bracket.
def bracketed (depth : Nat) (write : α → List Char) (close : Char) (items : List α) : List Char :=
  if items.isEmpty then [close]
  else separated (newLine (depth + 1) ++ write ·) items ++ newLine depth ++ [close]

-- Behind an item the next one is announced by a comma, and the end by a new line.
theorem isBehind_items (items : List α) (rest : List Char) :
    IsBehind (items.flatMap (',' :: write ·) ++ '\n' :: rest) := by
  cases items with
  | nil => exact isBehind_cons rfl rest
  | cons item items => exact isBehind_cons rfl _

theorem items_append_inj {items others : List α} {rest behind : List Char}
    (hwrite : ∀ item ∈ items, Recovers write item)
    (h : items.flatMap (',' :: write ·) ++ '\n' :: rest =
      others.flatMap (',' :: write ·) ++ '\n' :: behind) : items = others ∧ rest = behind := by
  induction items generalizing others with
  | nil =>
      cases others with
      | nil => exact ⟨rfl, (List.cons.inj h).2⟩
      | cons other others => cases (List.cons.inj h).1
  | cons item items ih =>
      cases others with
      | nil => cases (List.cons.inj h).1
      | cons other others =>
          obtain ⟨hitem, hitems⟩ := List.forall_mem_cons.mp hwrite
          rw [List.flatMap_cons, List.flatMap_cons, List.append_assoc, List.append_assoc] at h
          obtain ⟨rfl, hmore⟩ := hitem (isBehind_items items rest) (isBehind_items others behind)
            (List.cons.inj h).2
          obtain ⟨rfl, hrest⟩ := ih hitems hmore
          exact ⟨rfl, hrest⟩

theorem Recovers.behind {value : α} (h : Recovers write value) (front : List Char) :
    Recovers (front ++ write ·) value := by
  intro other rest behind hrest hbehind hsame
  rw [List.append_assoc, List.append_assoc] at hsame
  exact h hrest hbehind (List.append_cancel_left hsame)

theorem bracketed_append_inj {close : Char} (hclose : close ≠ '\n') {items others : List α}
    {rest behind : List Char} (hwrite : ∀ item ∈ items, Recovers write item)
    (h : bracketed depth write close items ++ rest = bracketed depth write close others ++ behind) :
    items = others ∧ rest = behind := by
  cases items with
  | nil =>
      cases others with
      | nil => exact ⟨rfl, (List.cons.inj h).2⟩
      | cons other others => exact absurd (List.cons.inj h).1 hclose
  | cons item items =>
      cases others with
      | nil => exact absurd (List.cons.inj h).1.symm hclose
      | cons other others =>
          obtain ⟨hitem, hitems⟩ := List.forall_mem_cons.mp hwrite
          simp only [bracketed, separated, List.isEmpty_cons, Bool.false_eq_true, if_false,
            List.append_assoc, newLine.eq_def depth, List.cons_append] at h
          obtain ⟨rfl, hmore⟩ := hitem (isBehind_items items _) (isBehind_items others _)
            (List.append_cancel_left h)
          obtain ⟨rfl, hend⟩ := items_append_inj
            (fun item hmem => (hitems item hmem).behind (newLine (depth + 1))) hmore
          exact ⟨rfl, (List.cons.inj (List.append_cancel_left hend)).2⟩

def prettyMember (depth : Nat) (member : String × Json) : List Char :=
  renderString member.1 ++ [':', ' '] ++ pretty depth member.2

theorem Recovers.member {member : String × Json} (h : Recovers (pretty depth) member.2) :
    Recovers (prettyMember depth) member := by
  intro other rest behind hrest hbehind hsame
  simp only [prettyMember, List.append_assoc] at hsame
  obtain ⟨hkey, hvalue⟩ := renderString_append_inj hsame
  obtain ⟨hsame, hrest⟩ := h hrest hbehind (List.append_cancel_left hvalue)
  exact ⟨Prod.ext hkey hsame, hrest⟩

theorem prettyItems_eq (depth : Nat) (items : List Json) :
    prettyItems depth items = separated (newLine depth ++ pretty depth ·) items := by
  induction items with
  | nil => rw [prettyItems, separated]
  | cons item rest ih =>
      cases rest with
      | nil => simp [prettyItems, separated]
      | cons next rest => simp [prettyItems, ih, separated]

theorem prettyMembers_eq (depth : Nat) (members : List (String × Json)) :
    prettyMembers depth members = separated (newLine depth ++ prettyMember depth ·) members := by
  induction members with
  | nil => rw [prettyMembers, separated]
  | cons member rest ih =>
      cases rest with
      | nil => simp [prettyMembers, separated, prettyMember]
      | cons next rest => simp [prettyMembers, ih, separated, prettyMember]

theorem pretty_array (depth : Nat) (items : List Json) :
    pretty depth (.array items) = '[' :: bracketed depth (pretty (depth + 1)) ']' items := by
  cases items with
  | nil => rw [pretty]; rfl
  | cons item rest =>
      rw [pretty, prettyItems_eq, bracketed]
      · rfl
      · simp

theorem pretty_object (depth : Nat) (members : List (String × Json)) :
    pretty depth (.object members) =
      '\x7b' :: bracketed depth (prettyMember (depth + 1)) '\x7d' members := by
  cases members with
  | nil => rw [pretty]; rfl
  | cons member rest =>
      rw [pretty, prettyMembers_eq, bracketed]
      · rfl
      · simp

end Containers

section Values

-- The kinds of values.
inductive Kind where
  | null
  | bool
  | number
  | string
  | array
  | object
  deriving DecidableEq, Repr

def kind : Json → Kind
  | .null => .null
  | .bool _ => .bool
  | .number _ => .number
  | .string _ => .string
  | .array _ => .array
  | .object _ => .object

-- The kind of the value that begins with a character. No other character begins a value.
def kindOf (c : Char) : Kind :=
  if c.isDigit || c = '-' then .number
  else if c = 'n' then .null
  else if c = '"' then .string
  else if c = '[' then .array
  else if c = '\x7b' then .object
  else .bool

theorem kindOf_head_pretty (depth : Nat) (json : Json) :
    (pretty depth json).head?.map kindOf = some json.kind := by
  cases json with
  | null => rw [pretty]; rfl
  | bool b => cases b <;> rw [pretty] <;> rfl
  | number n =>
      rw [pretty]
      cases n with
      | ofNat n =>
          obtain ⟨c, rest, hc, hdigit⟩ := exists_toDigits_cons n
          simp [renderNumber, hc, kindOf, hdigit, kind]
      | negSucc n => rfl
  | string s => rw [pretty]; rfl
  | array items => rw [pretty_array]; rfl
  | object members => rw [pretty_object]; rfl

theorem kind_eq {depth : Nat} {first second : Json} {rest behind : List Char}
    (h : pretty depth first ++ rest = pretty depth second ++ behind) :
    first.kind = second.kind := by
  have hhead (json : Json) (rest : List Char) :
      (pretty depth json ++ rest).head?.map kindOf = some json.kind := by
    have hjson := kindOf_head_pretty depth json
    cases hpretty : pretty depth json with
    | nil =>
        rw [hpretty] at hjson
        cases hjson
    | cons c more =>
        rw [hpretty] at hjson
        exact hjson
  rw [← Option.some.injEq, ← hhead first rest, h, hhead second behind]

-- A property of the parts of a value goes over to the value.
theorem nested_induction {motive : Json → Prop} (null : motive .null)
    (bool : ∀ b, motive (.bool b)) (number : ∀ n, motive (.number n))
    (string : ∀ s, motive (.string s))
    (array : ∀ items, (∀ item ∈ items, motive item) → motive (.array items))
    (object : ∀ members, (∀ member ∈ members, motive member.2) → motive (.object members)) :
    ∀ json, motive json
  | .null => null
  | .bool b => bool b
  | .number n => number n
  | .string s => string s
  | .array items =>
    array items fun item _ => nested_induction null bool number string array object item
  | .object members =>
    object members fun member _ =>
      nested_induction null bool number string array object member.2
termination_by json => json
decreasing_by
  · rename_i hmem
    have hitem := List.sizeOf_lt_of_mem hmem
    simp only [Json.array.sizeOf_spec]
    omega
  · rename_i hmem
    have hmember := List.sizeOf_lt_of_mem hmem
    have hvalue : sizeOf member = 1 + sizeOf member.1 + sizeOf member.2 := rfl
    simp only [Json.object.sizeOf_spec]
    omega

theorem recovers_pretty (depth : Nat) (json : Json) : Recovers (pretty depth) json := by
  induction json using nested_induction generalizing depth with
  | null =>
      intro other rest behind hrest hbehind h
      cases other with
      | null => exact ⟨rfl, List.append_cancel_left h⟩
      | _ => cases kind_eq h
  | bool b =>
      intro other rest behind hrest hbehind h
      cases other with
      | bool c =>
          rw [pretty, pretty] at h
          cases b <;> cases c <;> simp_all [renderBool]
      | _ => cases kind_eq h
  | number n =>
      intro other rest behind hrest hbehind h
      cases other with
      | number m =>
          rw [pretty, pretty] at h
          obtain ⟨rfl, hsame⟩ := recovers_renderNumber n hrest hbehind h
          exact ⟨rfl, hsame⟩
      | _ => cases kind_eq h
  | string s =>
      intro other rest behind hrest hbehind h
      cases other with
      | string t =>
          rw [pretty, pretty] at h
          obtain ⟨rfl, hsame⟩ := renderString_append_inj h
          exact ⟨rfl, hsame⟩
      | _ => cases kind_eq h
  | array items ih =>
      intro other rest behind hrest hbehind h
      cases other with
      | array others =>
          rw [pretty_array, pretty_array] at h
          obtain ⟨rfl, hsame⟩ := bracketed_append_inj (by decide)
            (fun item hitem => ih item hitem (depth + 1)) (List.cons.inj h).2
          exact ⟨rfl, hsame⟩
      | _ => cases kind_eq h
  | object members ih =>
      intro other rest behind hrest hbehind h
      cases other with
      | object others =>
          rw [pretty_object, pretty_object] at h
          obtain ⟨rfl, hsame⟩ := bracketed_append_inj (by decide)
            (fun member hmember => (ih member hmember (depth + 1)).member) (List.cons.inj h).2
          exact ⟨rfl, hsame⟩
      | _ => cases kind_eq h

end Values

-- A text shows which value it was written for.
theorem prettyText_injective : Function.Injective prettyText := by
  intro first second h
  exact Recovers.injective (recovers_pretty 0) (String.ofList_injective h)

end TemplateMarkup.Json
