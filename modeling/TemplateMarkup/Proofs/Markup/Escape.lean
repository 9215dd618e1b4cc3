import TemplateMarkup.Markup.Tag

namespace TemplateMarkup.Markup

open Reference (byteCount)

-- A text that goes on exactly as long as its characters satisfy `p`.
theorem takeWhile_dropWhile_append {p : Char → Bool} (inside rest : List Char)
    (hinside : ∀ c ∈ inside, p c = true) (hrest : ∀ c ∈ rest.head?, p c = false) :
    (inside ++ rest).takeWhile p = inside ∧ (inside ++ rest).dropWhile p = rest := by
  have hstop : rest.takeWhile p = [] ∧ rest.dropWhile p = rest := by
    cases rest with
    | nil => exact ⟨rfl, rfl⟩
    | cons c rest => simp [hrest c rfl]
  rw [List.takeWhile_append_of_pos hinside, List.dropWhile_append_of_pos hinside, hstop.1, hstop.2,
    List.append_nil]
  exact ⟨rfl, rfl⟩

-- A text goes on up to a mark that does not come in it.
theorem bne_of_notMem {mark : Char} {text : List Char} (h : mark ∉ text) :
    ∀ c ∈ text, (c != mark) = true := by
  intro c hc
  rw [bne_iff_ne]
  rintro rfl
  exact h hc

-- A character that is written as a reference, and the name of the reference.
abbrev Escape := Char × List Char

-- In text an ampersand begins a reference and a less-than sign a tag.
def textEscapes : List Escape :=
  [('&', ['a', 'm', 'p']), ('<', ['l', 't'])]

-- A value between double quotes has none in it, and white space other than a blank would turn into
-- one.
def valueEscapes : List Escape :=
  [('"', ['q', 'u', 'o', 't']), ('\t', ['#', '9']), ('\n', ['#', '1', '0']),
    ('\r', ['#', '1', '3'])] ++ textEscapes

def writeReference (name : List Char) : List Char :=
  '&' :: name ++ [';']

def escape (escapes : List Escape) (c : Char) : List Char :=
  match escapes.find? (·.1 == c) with
  | some found => writeReference found.2
  | none => [c]

theorem escape_ne_nil (escapes : List Escape) (c : Char) : escape escapes c ≠ [] := by
  unfold escape
  split <;> exact List.cons_ne_nil _ _

-- A character with an escape does not come in what is written, unless a reference has it.
theorem notMem_escape {escapes : List Escape} {d : Char} (hkey : ∃ found ∈ escapes, found.1 = d)
    (hreferences : ∀ found ∈ escapes, d ∉ writeReference found.2) (c : Char) :
    d ∉ escape escapes c := by
  unfold escape
  split
  · rename_i found hfound
    exact hreferences found (List.mem_of_find?_eq_some hfound)
  · rename_i hnone
    intro hd
    obtain ⟨found, hmem, hd'⟩ := hkey
    rw [List.mem_singleton] at hd
    exact List.find?_eq_none.mp hnone found hmem (by simp [hd', hd])

theorem notMem_flatMap_escape {escapes : List Escape} {d : Char}
    (hkey : ∃ found ∈ escapes, found.1 = d)
    (hreferences : ∀ found ∈ escapes, d ∉ writeReference found.2) (text : List Char) :
    d ∉ text.flatMap (escape escapes) := by
  intro hd
  obtain ⟨c, _, hc⟩ := List.mem_flatMap.mp hd
  exact notMem_escape hkey hreferences c hc

section Expansion

variable {entity? : String → Option String}

-- What is written stands for one character, whatever comes behind it.
def StandsFor (entity? : String → Option String) (written : List Char) (c : Char) : Prop :=
  ∀ total position rest, ∃ next,
    Reference.expandFrom entity? total position (written ++ rest) =
      (Reference.expandFrom entity? total next rest).map (c :: ·)

theorem standsFor_self {c : Char} (hc : c ≠ '&') : StandsFor entity? [c] c := by
  intro total position rest
  refine ⟨position + c.utf8Size, ?_⟩
  rw [List.singleton_append, Reference.expandFrom, if_neg hc]
  cases Reference.expandFrom entity? total (position + c.utf8Size) rest <;> rfl

-- A reference gives the text that it stands for, and reading goes on behind it.
theorem expandFrom_reference {name text : List Char} {start : Nat}
    (hname : ∀ c ∈ name, (!Reference.endsBody c) = true)
    (htext : Reference.replacement entity? (start + 1) name = .ok text) (total : Nat)
    (rest : List Char) :
    ∃ next, Reference.expandFrom entity? total start ('&' :: (name ++ ';' :: rest)) =
      (Reference.expandFrom entity? total next rest).map (text ++ ·) := by
  refine ⟨start + byteCount name + 2, ?_⟩
  obtain ⟨htake, hdrop⟩ := takeWhile_dropWhile_append name (';' :: rest) hname (by
    rintro d ⟨⟩
    rfl)
  rw [Reference.expandFrom, if_pos rfl]
  simp only [htake]
  split
  · rename_i after hafter
    rw [hdrop, List.cons.injEq] at hafter
    rw [htext, ← hafter.2]
    cases Reference.expandFrom entity? total (start + byteCount name + 2) rest <;> rfl
  · rename_i hother
    exact absurd hdrop (hother rest)

theorem standsFor_reference {name : List Char} {c : Char}
    (hname : ∀ d ∈ name, (!Reference.endsBody d) = true)
    (hreplaced : ∀ start, Reference.replacement entity? start name = .ok [c]) :
    StandsFor entity? (writeReference name) c := by
  intro total position rest
  have hwritten : writeReference name ++ rest = '&' :: (name ++ ';' :: rest) := by
    simp [writeReference]
  rw [hwritten]
  exact expandFrom_reference hname (hreplaced (position + 1)) total rest

-- Escapes that a reader takes back: every reference stands for its character, whatever entities
-- are declared, and no ampersand is left as it is.
structure AreTakenBack (escapes : List Escape) : Prop where
  names : ∀ found ∈ escapes, found.2.all (!Reference.endsBody ·) = true
  replaced : ∀ entity? start, ∀ found ∈ escapes,
    Reference.replacement entity? start found.2 = .ok [found.1]
  ampersand : ∃ found ∈ escapes, found.1 = '&'

theorem areTakenBack_text : AreTakenBack textEscapes where
  names := by decide
  replaced := by
    intro entity? start found hfound
    simp only [textEscapes, List.mem_cons, List.not_mem_nil, or_false] at hfound
    rcases hfound with rfl | rfl <;> rfl
  ampersand := by decide

theorem areTakenBack_value : AreTakenBack valueEscapes where
  names := by decide
  replaced := by
    intro entity? start found hfound
    simp only [valueEscapes, textEscapes, List.mem_append, List.mem_cons, List.not_mem_nil,
      or_false] at hfound
    rcases hfound with (rfl | rfl | rfl | rfl) | rfl | rfl <;> rfl
  ampersand := by decide

theorem AreTakenBack.standsFor_escape {escapes : List Escape} (h : AreTakenBack escapes)
    (entity? : String → Option String) (c : Char) : StandsFor entity? (escape escapes c) c := by
  unfold escape
  split
  · rename_i found hfound
    have hmem := List.mem_of_find?_eq_some hfound
    have hc : found.1 = c := by simpa using List.find?_some hfound
    rw [← hc]
    exact standsFor_reference (List.all_eq_true.mp (h.names found hmem)) fun start =>
      h.replaced entity? start found hmem
  · rename_i hnone
    obtain ⟨found, hmem, hamp⟩ := h.ampersand
    refine standsFor_self fun hc => ?_
    exact List.find?_eq_none.mp hnone found hmem (by simp [hamp, hc])

theorem AreTakenBack.expandFrom_flatMap {escapes : List Escape} (h : AreTakenBack escapes)
    (total position : Nat) (text : List Char) :
    Reference.expandFrom entity? total position (text.flatMap (escape escapes)) = .ok text := by
  induction text generalizing position with
  | nil => rw [List.flatMap_nil, Reference.expandFrom]
  | cons c text ih =>
      obtain ⟨next, hnext⟩ :=
        h.standsFor_escape entity? c total position (text.flatMap (escape escapes))
      rw [List.flatMap_cons, hnext, ih]
      rfl

-- Replacing the references in an escaped text gives the text back.
theorem AreTakenBack.expand_flatMap {escapes : List Escape} (h : AreTakenBack escapes)
    (text : String) :
    Reference.expand entity? (String.ofList (text.toList.flatMap (escape escapes))) = .ok text := by
  simp [Reference.expand, h.expandFrom_flatMap]

end Expansion

theorem joinLineEnds_eq_self {raw : List Char} (h : '\r' ∉ raw) : joinLineEnds raw = raw := by
  fun_induction joinLineEnds raw with
  | case1 rest ih => simp at h
  | case2 c rest _ ih => rw [ih (List.not_mem_of_not_mem_cons h)]
  | case3 => rfl

theorem normalizeValue_eq_self {raw : List Char} (htab : '\t' ∉ raw) (hreturn : '\r' ∉ raw)
    (hfeed : '\n' ∉ raw) : normalizeValue raw = raw := by
  rw [normalizeValue, joinLineEnds_eq_self hreturn]
  calc raw.map (fun c => if c = '\t' || c = '\r' || c = '\n' then ' ' else c)
      = raw.map id := List.map_congr_left fun c hc => by
        have hkeeps : ¬(c = '\t' ∨ c = '\r' ∨ c = '\n') := by
          rintro (rfl | rfl | rfl) <;> contradiction
        rw [if_neg (by simpa [or_assoc] using hkeeps), id]
    _ = raw := List.map_id raw

-- The white space of an escaped value stays as it is.
theorem normalizeValue_escaped (value : List Char) :
    normalizeValue (value.flatMap (escape valueEscapes)) = value.flatMap (escape valueEscapes) :=
  normalizeValue_eq_self (notMem_flatMap_escape (by decide) (by decide) value)
    (notMem_flatMap_escape (by decide) (by decide) value)
    (notMem_flatMap_escape (by decide) (by decide) value)

end TemplateMarkup.Markup
