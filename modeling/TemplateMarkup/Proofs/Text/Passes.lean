import Mathlib.Computability.RegularExpressions
import Mathlib.Data.Nat.Find
import TemplateMarkup.Proofs.Text.NormalForm

namespace TemplateMarkup.Text

open Markup (takeWhile_dropWhile_append)

-- The length of the longest beginning of a text that matches a pattern, or zero if none but the
-- empty one does.
def matchLength (pattern : RegularExpression Char) (text : List Char) : Nat :=
  Nat.findGreatest (fun length => pattern.rmatch (text.take length) = true) text.length

-- Walks through a text from left to right and puts one character in the place of each longest
-- match that begins where it stands.
def replaceEach (pattern : RegularExpression Char) (new : Char) : List Char → List Char
  | [] => []
  | c :: rest =>
    match matchLength pattern (c :: rest) with
    | 0 => c :: replaceEach pattern new rest
    | length + 1 => new :: replaceEach pattern new (rest.drop length)
termination_by text => text.length

-- A pattern matches a text, and nothing longer ahead of what follows it.
structure IsLongest (pattern : RegularExpression Char) (found rest : List Char) : Prop where
  matched : found ∈ pattern.matches'
  longest : ∀ more, more <+: rest → found ++ more ∈ pattern.matches' → more = []

section Replacing

variable {pattern : RegularExpression Char} {new c : Char} {found text rest : List Char}

theorem matchLength_of_isLongest (h : IsLongest pattern found rest) :
    matchLength pattern (found ++ rest) = found.length := by
  refine Nat.findGreatest_eq_iff.mpr ⟨by simp, fun _ => ?_, fun length hlong hshort => ?_⟩
  · rw [List.take_left, RegularExpression.rmatch_iff_matches']
    exact h.matched
  · rw [RegularExpression.rmatch_iff_matches', List.take_append,
      List.take_of_length_le (Nat.le_of_lt hlong)]
    intro hmatched
    have hnone := congrArg List.length (h.longest _ (List.take_prefix _ _) hmatched)
    rw [List.length_take, List.length_nil] at hnone
    rw [List.length_append] at hshort
    omega

theorem matchLength_eq_zero (h : ∀ front, front <+: text → front ≠ [] → front ∉ pattern.matches') :
    matchLength pattern text = 0 := by
  refine Nat.findGreatest_eq_zero_iff.mpr fun length hpos hshort => ?_
  rw [RegularExpression.rmatch_iff_matches']
  refine h _ (List.take_prefix _ _) fun hnone => ?_
  have hlength := congrArg List.length hnone
  rw [List.length_take, List.length_nil] at hlength
  omega

theorem replaceEach_of_isLongest (h : IsLongest pattern found rest) (hfound : found ≠ [])
    (new : Char) :
    replaceEach pattern new (found ++ rest) = new :: replaceEach pattern new rest := by
  cases found with
  | nil => exact absurd rfl hfound
  | cons c inside =>
      have hlength : matchLength pattern (c :: (inside ++ rest)) = inside.length + 1 :=
        matchLength_of_isLongest h
      rw [List.cons_append, replaceEach, hlength]
      dsimp only
      rw [List.drop_left]

theorem replaceEach_of_unmatched
    (h : ∀ front, front <+: c :: rest → front ≠ [] → front ∉ pattern.matches') :
    replaceEach pattern new (c :: rest) = c :: replaceEach pattern new rest := by
  rw [replaceEach, matchLength_eq_zero h]

end Replacing

section Patterns

open RegularExpression

-- Any one of some characters.
def oneOf : List Char → RegularExpression Char
  | [] => 0
  | c :: others => char c + oneOf others

theorem mem_oneOf {set text : List Char} :
    text ∈ (oneOf set).matches' ↔ ∃ c ∈ set, text = [c] := by
  induction set with
  | nil => simp [oneOf, matches'_zero, Language.notMem_zero]
  | cons c others ih =>
      rw [oneOf, matches'_add, Language.mem_add, ih]
      simp only [List.mem_cons, exists_eq_or_imp]
      rfl

theorem mem_star_oneOf {set text : List Char} :
    text ∈ (oneOf set).star.matches' ↔ ∀ c ∈ text, c ∈ set := by
  rw [matches'_star, Language.mem_kstar]
  constructor
  · rintro ⟨parts, rfl, hparts⟩ c hc
    obtain ⟨part, hpart, hc⟩ := List.mem_flatten.mp hc
    obtain ⟨d, hd, rfl⟩ := mem_oneOf.mp (hparts part hpart)
    rw [List.mem_singleton.mp hc]
    exact hd
  · intro h
    refine ⟨text.map ([·]), by simp [← List.flatMap_def], fun part hpart => ?_⟩
    obtain ⟨c, hc, rfl⟩ := List.mem_map.mp hpart
    exact mem_oneOf.mpr ⟨c, h c hc, rfl⟩

-- A line end with the white space around it: `[ \t\f]*[\r\n][ \t\n\v\f\r]*`.
def lineBreak : RegularExpression Char :=
  (oneOf [' ', '\t', '\x0c']).star * oneOf ['\r', '\n'] * (oneOf layout).star

-- White space within a line: `[ \t\f]+`.
def inlineRun : RegularExpression Char :=
  oneOf [' ', '\t', '\x0c'] * (oneOf [' ', '\t', '\x0c']).star

theorem mem_inline_iff (c : Char) : c ∈ [' ', '\t', '\x0c'] ↔ isInline c = true := by
  simp [isInline, or_assoc]

theorem mem_lineEnds_iff (c : Char) : c ∈ ['\r', '\n'] ↔ isLineEnd c = true := by
  simp [isLineEnd]

theorem mem_lineBreak {text : List Char} :
    text ∈ lineBreak.matches' ↔ ∃ front c inside, text = front ++ c :: inside ∧
      (∀ d ∈ front, isInline d = true) ∧ isLineEnd c = true ∧ ∀ d ∈ inside, isLayout d = true := by
  simp only [lineBreak, matches'_mul, Language.mem_mul, mem_star_oneOf, mem_oneOf,
    mem_layout_iff, mem_inline_iff, mem_lineEnds_iff]
  constructor
  · rintro ⟨_, ⟨front, hfront, _, ⟨c, hc, rfl⟩, rfl⟩, inside, hinside, rfl⟩
    exact ⟨front, c, inside, by simp, hfront, hc, hinside⟩
  · rintro ⟨front, c, inside, rfl, hfront, hc, hinside⟩
    exact ⟨front ++ [c], ⟨front, hfront, [c], ⟨c, hc, rfl⟩, rfl⟩, inside, hinside, by simp⟩

theorem mem_inlineRun {text : List Char} :
    text ∈ inlineRun.matches' ↔ text ≠ [] ∧ ∀ d ∈ text, isInline d = true := by
  simp only [inlineRun, matches'_mul, Language.mem_mul, mem_star_oneOf, mem_oneOf, mem_inline_iff]
  constructor
  · rintro ⟨_, ⟨c, hc, rfl⟩, inside, hinside, rfl⟩
    exact ⟨by simp, List.forall_mem_cons.mpr ⟨hc, hinside⟩⟩
  · rintro ⟨hne, hall⟩
    obtain ⟨c, inside, rfl⟩ := List.exists_cons_of_ne_nil hne
    obtain ⟨hc, hinside⟩ := List.forall_mem_cons.mp hall
    exact ⟨[c], ⟨c, hc, rfl⟩, inside, hinside, rfl⟩

end Patterns

section Passes

variable {c : Char} {front inside rest : List Char}

theorem isLongest_lineBreak (hfront : ∀ d ∈ front, isInline d = true)
    (hc : isLineEnd c = true) (hinside : ∀ d ∈ inside, isLayout d = true)
    (hrest : ∀ d ∈ rest.head?, isLayout d = false) :
    IsLongest lineBreak (front ++ c :: inside) rest := by
  refine ⟨mem_lineBreak.mpr ⟨front, c, inside, rfl, hfront, hc, hinside⟩, ?_⟩
  intro more hmore hmatched
  cases more with
  | nil => rfl
  | cons d behind =>
      obtain ⟨after, rfl⟩ := hmore
      have hd : isLayout d = false := hrest d rfl
      -- nothing but white space matches, whatever the pattern takes for its line end
      obtain ⟨first, e, last, htext, hfirst, he, hlast⟩ := mem_lineBreak.mp hmatched
      have hmem : d ∈ first ++ e :: last := by
        rw [← htext]
        simp
      have hlayout : isLayout d = true := by
        rcases List.mem_append.mp hmem with hm | hm
        · exact isLayout_of_isInline (hfirst d hm)
        · rcases List.mem_cons.mp hm with rfl | hm
          · exact isLayout_of_isLineEnd he
          · exact hlast d hm
      rw [hd] at hlayout
      cases hlayout

theorem isLongest_inlineRun (hfront : ∀ d ∈ front, isInline d = true) (hne : front ≠ [])
    (hrest : ∀ d ∈ rest.head?, isInline d = false) : IsLongest inlineRun front rest := by
  refine ⟨mem_inlineRun.mpr ⟨hne, hfront⟩, fun more hmore hmatched => ?_⟩
  cases more with
  | nil => rfl
  | cons d behind =>
      obtain ⟨after, rfl⟩ := hmore
      have hd : isInline d = true := (mem_inlineRun.mp hmatched).2 d (by simp)
      rw [hrest d rfl] at hd
      cases hd

-- Where white space within a line is not followed by a line end, no line break begins.
theorem notMem_lineBreak {text found : List Char} (hfound : found <+: text)
    (h : ∀ d ∈ (text.dropWhile isInline).head?, isLineEnd d = false) :
    found ∉ lineBreak.matches' := by
  intro hmatched
  obtain ⟨first, e, last, rfl, hfirst, he, -⟩ := mem_lineBreak.mp hmatched
  obtain ⟨after, rfl⟩ := hfound
  have hinline : isInline e = false := by
    cases hinline : isInline e with
    | false => rfl
    | true => rw [isLineEnd_of_isInline hinline] at he; cases he
  have hdrop : (first ++ e :: last ++ after).dropWhile isInline = e :: (last ++ after) := by
    rw [List.append_assoc, List.dropWhile_append_of_pos hfirst, List.cons_append,
      List.dropWhile_cons_of_neg (by simp [hinline])]
  have hend : isLineEnd e = false := h e (by rw [hdrop]; rfl)
  rw [he] at hend
  cases hend

-- White space within a line is kept by the first pass where no line end follows it.
theorem replaceEach_lineBreak_inline (hfront : ∀ d ∈ front, isInline d = true)
    (hrest : ∀ d ∈ rest.head?, isInline d = false ∧ isLineEnd d = false) :
    replaceEach lineBreak '\n' (front ++ rest) = front ++ replaceEach lineBreak '\n' rest := by
  induction front with
  | nil => rfl
  | cons d front ih =>
      obtain ⟨-, hdrop⟩ := takeWhile_dropWhile_append (d :: front) rest hfront
        fun c hc => (hrest c hc).1
      rw [List.cons_append, replaceEach_of_unmatched, ih (List.forall_mem_cons.mp hfront).2,
        List.cons_append]
      refine fun found hfound _ => notMem_lineBreak hfound ?_
      rw [← List.cons_append, hdrop]
      exact fun c hc => (hrest c hc).2

theorem replaceEach_lineBreak_other (hinline : isInline c = false) (hend : isLineEnd c = false)
    (rest : List Char) :
    replaceEach lineBreak '\n' (c :: rest) = c :: replaceEach lineBreak '\n' rest := by
  refine replaceEach_of_unmatched fun found hfound _ => notMem_lineBreak hfound ?_
  rw [List.dropWhile_cons_of_neg (by simp [hinline])]
  simpa using hend

theorem replaceEach_inlineRun_other (hinline : isInline c = false) (rest : List Char) :
    replaceEach inlineRun ' ' (c :: rest) = c :: replaceEach inlineRun ' ' rest := by
  refine replaceEach_of_unmatched fun found hfound hne hmatched => ?_
  obtain ⟨after, htext⟩ := hfound
  obtain ⟨d, behind, rfl⟩ := List.exists_cons_of_ne_nil hne
  have hd : isInline d = true := (mem_inlineRun.mp hmatched).2 d (by simp)
  rw [(List.cons.inj htext).1, hinline] at hd
  cases hd

-- What white space within a line comes to, if there is any.
def spaced (front : List Char) : List Char :=
  if front = [] then [] else [' ']

theorem replaceEach_inlineRun_inline (hfront : ∀ d ∈ front, isInline d = true)
    (hrest : ∀ d ∈ rest.head?, isInline d = false) :
    replaceEach inlineRun ' ' (front ++ rest) =
      spaced front ++ replaceEach inlineRun ' ' rest := by
  by_cases hne : front = []
  · rw [hne]
    rfl
  · rw [replaceEach_of_isLongest (isLongest_inlineRun hfront hne hrest) hne, spaced, if_neg hne]
    rfl

theorem compressFrom_spaced (hfront : ∀ d ∈ front, isInline d = true)
    (hrest : ∀ d ∈ rest.head?, isInline d = false ∧ isLineEnd d = false) :
    compressFrom .none (front ++ rest) = spaced front ++ compressFrom .none rest := by
  cases front with
  | nil => rfl
  | cons d front =>
      obtain ⟨hd, hfront⟩ := List.forall_mem_cons.mp hfront
      rw [List.cons_append, (compressFrom_inline hd _).1, compressFrom_wait hfront]
      cases rest with
      | nil => rfl
      | cons c behind =>
          obtain ⟨hinline, hend⟩ := hrest c rfl
          obtain ⟨hbare, hspaced⟩ := compressFrom_other hinline hend behind
          rw [hbare, hspaced]
          rfl

theorem compressFrom_lineBreak (hfront : ∀ d ∈ front, isInline d = true)
    (hc : isLineEnd c = true) (hinside : ∀ d ∈ inside, isLayout d = true)
    (hrest : ∀ d ∈ rest.head?, isLayout d = false) :
    compressFrom .none (front ++ c :: inside ++ rest) = '\n' :: compressFrom .none rest := by
  have hswallow := compressFrom_swallow hinside hrest
  rw [List.append_assoc, List.cons_append]
  cases front with
  | nil => rw [List.nil_append, (compressFrom_lineEnd hc _).1, hswallow]
  | cons d front =>
      obtain ⟨hd, hfront⟩ := List.forall_mem_cons.mp hfront
      rw [List.cons_append, (compressFrom_inline hd _).1, compressFrom_wait hfront,
        (compressFrom_lineEnd hc _).2, hswallow]

end Passes

-- A text is white space within a line and what follows: a line end with all its white space,
-- another character, or nothing.
theorem replaceEach_passes (text : List Char) :
    replaceEach inlineRun ' ' (replaceEach lineBreak '\n' text) = compressFrom .none text := by
  rcases all_or_exists_first isInline text with hall | ⟨front, c, rest, rfl, hfront, hinline⟩
  · have hnone : ∀ d ∈ ([] : List Char).head?, isInline d = false ∧ isLineEnd d = false := nofun
    rw [← List.append_nil text, replaceEach_lineBreak_inline hall hnone,
      compressFrom_spaced hall hnone, replaceEach, replaceEach_inlineRun_inline hall (by simp),
      replaceEach]
    rfl
  · cases hend : isLineEnd c with
    | false =>
        have hother : ∀ d ∈ (c :: rest).head?, isInline d = false ∧ isLineEnd d = false := by
          rintro _ ⟨⟩
          exact ⟨hinline, hend⟩
        have hkept : ∀ d ∈ (c :: replaceEach lineBreak '\n' rest).head?, isInline d = false := by
          rintro _ ⟨⟩
          exact hinline
        rw [replaceEach_lineBreak_inline hfront hother, replaceEach_lineBreak_other hinline hend,
          replaceEach_inlineRun_inline hfront hkept, replaceEach_inlineRun_other hinline,
          compressFrom_spaced hfront hother, (compressFrom_other hinline hend rest).1,
          replaceEach_passes rest]
    | true =>
        obtain ⟨inside, behind, rfl, hinside, hbehind⟩ := exists_span isLayout rest
        have hlongest := isLongest_lineBreak hfront hend hinside hbehind
        have hbreak := replaceEach_of_isLongest hlongest (by simp) '\n'
        rw [← List.cons_append, ← List.append_assoc, hbreak,
          replaceEach_inlineRun_other (by rfl),
          compressFrom_lineBreak hfront hend hinside hbehind, replaceEach_passes behind]
termination_by text.length

-- Compression does in one pass what two do: the first replaces each longest line break by a line
-- feed, the second each longest run of other white space by a space.
theorem compress_eq_passes (text : String) :
    compress text =
      String.ofList (replaceEach inlineRun ' ' (replaceEach lineBreak '\n' text.toList)) := by
  rw [replaceEach_passes]
  rfl

-- The vertical tab in front of a line end stays, the one behind it does not.
example : compress " a\t\x0b \r\n\x0b b  " = " a \x0b\nb " := by
  decide +kernel

end TemplateMarkup.Text
