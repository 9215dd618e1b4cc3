import Mathlib.Data.List.Find
import Mathlib.Data.List.Induction

namespace TemplateMarkup

-- Lists whose elements have keys, and the first element of each key.
section Keys

variable {α β : Type} [DecidableEq β] (f : α → β)

-- Leaving out the elements of one key leaves those of another one.
private theorem exists_mem_filter_key {first : α} {b : β} (h : f first ≠ b) (l : List α) :
    (∃ a ∈ l.filter fun a => (f a == f first) = false, f a = b) ↔ ∃ a ∈ l, f a = b := by
  constructor
  · rintro ⟨a, hm, ha⟩
    exact ⟨a, (List.mem_filter.mp hm).1, ha⟩
  · rintro ⟨a, hm, ha⟩
    refine ⟨a, List.mem_filter.mpr ⟨hm, ?_⟩, ha⟩
    simp [ha, Ne.symm h]

theorem exists_mem_eraseDupsBy (b : β) (l : List α) :
    (∃ a ∈ l.eraseDupsBy (fun x y => f x == f y), f a = b) ↔ ∃ a ∈ l, f a = b := by
  match l with
  | [] => simp
  | first :: rest =>
      have hlength := List.length_filter_le (fun a => (f a == f first) = false) rest
      have ih := exists_mem_eraseDupsBy b (rest.filter fun a => (f a == f first) = false)
      rw [List.eraseDupsBy_cons]
      simp only [List.mem_cons, exists_eq_or_imp, ih]
      by_cases hfirst : f first = b
      · simp [hfirst]
      · simp only [hfirst, false_or]
        exact exists_mem_filter_key f hfirst rest
termination_by l.length
decreasing_by simp only [List.length_cons]; omega

-- An element at the end stays exactly when its key is new.
theorem eraseDupsBy_concat (last : α) (l : List α) :
    (l ++ [last]).eraseDupsBy (fun x y => f x == f y) =
      l.eraseDupsBy (fun x y => f x == f y) ++ if ∃ a ∈ l, f a = f last then [] else [last] := by
  match l with
  | [] => simp [List.eraseDupsBy_cons]
  | first :: rest =>
      have hlength := List.length_filter_le (fun a => (f a == f first) = false) rest
      have ih := eraseDupsBy_concat last (rest.filter fun a => (f a == f first) = false)
      rw [List.cons_append, List.eraseDupsBy_cons, List.eraseDupsBy_cons, List.filter_append]
      by_cases hlast : f last = f first
      · simp [hlast]
      · have hkept : [last].filter (fun a => (f a == f first) = false) = [last] := by simp [hlast]
        have hrest := exists_mem_filter_key f (Ne.symm hlast) rest
        rw [hkept, ih, List.cons_append]
        simp only [hrest, List.mem_cons, exists_eq_or_imp, Ne.symm hlast, false_or]
termination_by l.length
decreasing_by simp only [List.length_cons]; omega

-- The first element of a key is the one that stays.
theorem find?_eraseDupsBy (b : β) (l : List α) :
    (l.eraseDupsBy fun x y => f x == f y).find? (f · == b) = l.find? (f · == b) := by
  induction l using List.reverseRecOn with
  | nil => simp
  | append_singleton l last ih =>
      rw [eraseDupsBy_concat, List.find?_append, List.find?_append, ih]
      split
      · rename_i hknown
        obtain ⟨a, hm, ha⟩ := hknown
        by_cases hlast : f last = b
        · have hfound : (l.find? (f · == b)).isSome = true :=
            List.find?_isSome.mpr ⟨a, hm, by simp [ha, hlast]⟩
          obtain ⟨found, hfound⟩ := Option.isSome_iff_exists.mp hfound
          rw [hfound, Option.some_or, Option.some_or]
        · simp [hlast]
      · rfl

end Keys

end TemplateMarkup
