import Mathlib.Data.Finset.Card
import Mathlib.Data.Finset.Dedup
import TemplateMarkup.Proofs.IdTable
import TemplateMarkup.Proofs.Keyed

namespace TemplateMarkup.IdTable

variable {α : Type}

-- Whether two ids differ in case at most.
def sameId (id other : String) : Bool :=
  Text.lowercase id == Text.lowercase other

section Entries

variable (table : IdTable α)

-- No two ids of a table differ in case only.
theorem nodup_ids : (table.ids.map Text.lowercase).Nodup := by
  rw [List.nodup_iff_getElem?_ne_getElem?]
  intro i j hij hlt hsame
  obtain ⟨key, hj⟩ : ∃ key, (table.ids.map Text.lowercase)[j]? = some key :=
    ⟨_, List.getElem?_eq_getElem hlt⟩
  rw [hj] at hsame
  rw [List.getElem?_map] at hj hsame
  have hfirst := (table.positions_eq_some_iff key i).mpr hsame
  have hsecond := (table.positions_eq_some_iff key j).mpr hj
  rw [hfirst] at hsecond
  exact absurd (Option.some.inj hsecond) (Nat.ne_of_lt hij)

-- What is kept under an id is the entry whose id is the same up to case.
theorem pair?_eq_find? (id : String) :
    table.pair? id = table.toList.find? fun entry => sameId entry.1 id := by
  have hplace : ∀ i (hlt : i < table.entries.size),
      sameId table.entries[i].1 id = true ↔ table.position? id = some i := by
    intro i hlt
    rw [table.position?_eq_some, sameId, beq_iff_eq]
    exact ⟨fun h => ⟨hlt, h⟩, fun ⟨_, h⟩ => h⟩
  unfold pair?
  split
  · rename_i i hi
    obtain ⟨hlt, -⟩ := (table.position?_eq_some id i).mp hi
    rw [Array.getElem?_eq_getElem hlt, eq_comm, List.find?_eq_some_iff_getElem]
    refine ⟨(hplace i hlt).mpr hi, i, hlt, rfl, fun j hj => ?_⟩
    have hother : table.position? id ≠ some j := by simp [hi, Nat.ne_of_gt hj]
    rw [Bool.not_eq_true']
    exact Bool.eq_false_of_not_eq_true ((hplace j (Nat.lt_trans hj hlt)).not.mpr hother)
  · rename_i hnone
    rw [eq_comm, List.find?_eq_none]
    intro entry hm
    obtain ⟨i, hlt, rfl⟩ := List.getElem_of_mem hm
    exact (hplace i hlt).not.mpr (by simp [hnone])

theorem spelling?_eq_find? (id : String) :
    table.spelling? id = table.ids.find? (sameId · id) := by
  rw [spelling?, pair?_eq_find?, ids, List.find?_map]
  rfl

-- Every entry is kept under its id.
theorem get?_of_mem_toList {entry : String × α} (hm : entry ∈ table.toList) :
    table.get? entry.1 = some entry.2 := by
  obtain ⟨i, hlt, rfl⟩ := List.getElem_of_mem hm
  have hi : table.position? table.toList[i].1 = some i :=
    (table.position?_eq_some _ i).mpr ⟨hlt, rfl⟩
  rw [get?, pair?, hi]
  simp only [toList, Array.getElem?_eq_getElem hlt]
  rfl

theorem toList_eq_filterMap :
    table.toList = table.ids.filterMap fun id => (table.get? id).map (id, ·) := by
  have hback : ∀ entry ∈ table.toList, (table.get? entry.1).map (entry.1, ·) = some entry := by
    intro entry hm
    rw [table.get?_of_mem_toList hm]
    rfl
  calc table.toList
      = table.toList.filterMap some := List.filterMap_some.symm
    _ = table.toList.filterMap fun entry => (table.get? entry.1).map (entry.1, ·) :=
      List.filterMap_congr fun entry hm => (hback entry hm).symm
    _ = table.ids.filterMap fun id => (table.get? id).map (id, ·) := by
      rw [ids, List.filterMap_map]
      rfl

end Entries

section History

-- What has been stored under an id in any of its spellings, the earliest first.
def storedUnder (history : List (String × α)) (id : String) : List (String × α) :=
  history.filter fun entry => sameId entry.1 id

def firstSpelling? (history : List (String × α)) (id : String) : Option String :=
  (storedUnder history id).head?.map Prod.fst

def lastValue? (history : List (String × α)) (id : String) : Option α :=
  (storedUnder history id).getLast?.map Prod.snd

-- The ids up to case, as they were first written.
def firstWritten (history : List (String × α)) : List String :=
  (history.map Prod.fst).eraseDupsBy sameId

-- A new table in which values have been stored one after the other.
def stored (history : List (String × α)) : IdTable α :=
  history.foldl (fun table entry => (table.replace entry.1 entry.2).2) empty

-- What a table has to say about the values that were stored in it.
structure Records (table : IdTable α) (history : List (String × α)) : Prop where
  index : ∀ (key : String) (i : Nat),
    table.positions[key]? = some i ↔ table.ids[i]?.map Text.lowercase = some key
  inRange : ∀ (key : String) (i : Nat), table.positions[key]? = some i → i < table.size
  distinct : (table.ids.map Text.lowercase).Nodup
  replace : ∀ id value, (table.replace id value).1 = lastValue? history id
  get? : ∀ id, table.get? id = lastValue? history id
  spelling? : ∀ id, table.spelling? id = firstSpelling? history id
  contains : ∀ id, table.contains id = true ↔
    ∃ entry ∈ history, Text.lowercase entry.1 = Text.lowercase id
  size : table.size = (history.map fun entry => Text.lowercase entry.1).toFinset.card
  ids : table.ids = firstWritten history
  toList : table.toList =
    (firstWritten history).filterMap fun id => (lastValue? history id).map (id, ·)

theorem stored_concat (history : List (String × α)) (id : String) (value : α) :
    stored (history ++ [(id, value)]) = (stored history).insert id value := by
  rw [stored, List.foldl_append]
  rfl

theorem get?_stored (history : List (String × α)) (id : String) :
    (stored history).get? id = lastValue? history id := by
  induction history using List.reverseRecOn with
  | nil => exact get?_empty id
  | append_singleton history entry ih =>
      obtain ⟨other, value⟩ := entry
      rw [stored_concat, get?_insert, ih, lastValue?, lastValue?, storedUnder, storedUnder,
        List.filter_append, List.getLast?_append]
      by_cases hsame : Text.lowercase other = Text.lowercase id
      · simp [sameId, hsame]
      · simp [sameId, hsame]

theorem contains_stored (history : List (String × α)) (id : String) :
    (stored history).contains id = true ↔
      ∃ entry ∈ history, Text.lowercase entry.1 = Text.lowercase id := by
  induction history using List.reverseRecOn with
  | nil => simp [contains_iff, stored, IdTable.ids]
  | append_singleton history entry ih =>
      obtain ⟨other, value⟩ := entry
      rw [stored_concat, contains_insert, ih, or_comm]
      simp [or_and_right, exists_or]

theorem ids_stored (history : List (String × α)) : (stored history).ids = firstWritten history := by
  induction history using List.reverseRecOn with
  | nil => rfl
  | append_singleton history entry ih =>
      obtain ⟨id, value⟩ := entry
      have hknown := contains_stored history id
      have hconcat : (history.map Prod.fst ++ [id]).eraseDupsBy sameId = _ :=
        eraseDupsBy_concat Text.lowercase id (history.map Prod.fst)
      rw [stored_concat, ids_insert, ih, firstWritten, firstWritten, List.map_append, List.map_cons,
        List.map_nil, hconcat]
      by_cases hnew : ∃ entry ∈ history, Text.lowercase entry.1 = Text.lowercase id
      · have hmapped : ∃ other ∈ history.map Prod.fst,
            Text.lowercase other = Text.lowercase id := by
          simpa using hnew
        rw [if_pos (hknown.mpr hnew), if_pos hmapped, List.append_nil]
        rfl
      · have hmapped : ¬∃ other ∈ history.map Prod.fst,
            Text.lowercase other = Text.lowercase id := by
          simpa using hnew
        rw [if_neg (hknown.not.mpr hnew), if_neg hmapped]
        rfl

theorem spelling?_stored (history : List (String × α)) (id : String) :
    (stored history).spelling? id = firstSpelling? history id := by
  have hfirst : (firstWritten history).find? (sameId · id) =
      (history.map Prod.fst).find? (sameId · id) :=
    find?_eraseDupsBy Text.lowercase (Text.lowercase id) (history.map Prod.fst)
  rw [spelling?_eq_find?, ids_stored, hfirst, firstSpelling?, storedUnder, List.head?_filter,
    List.find?_map]
  rfl

theorem size_stored (history : List (String × α)) :
    (stored history).size = (history.map fun entry => Text.lowercase entry.1).toFinset.card := by
  have hids : (stored history).size = ((stored history).ids.map Text.lowercase).length := by
    rw [List.length_map, IdTable.ids, List.length_map]
    rfl
  rw [hids, ← List.toFinset_card_of_nodup (stored history).nodup_ids]
  congr 1
  ext key
  simp only [List.mem_toFinset, List.mem_map]
  constructor
  · rintro ⟨id, hm, rfl⟩
    exact (contains_stored history id).mp ((contains_iff _ id).mpr ⟨id, hm, rfl⟩)
  · rintro ⟨entry, hm, rfl⟩
    exact (contains_iff _ entry.1).mp ((contains_stored history entry.1).mpr ⟨entry, hm, rfl⟩)

-- A table answers as the list of all that was stored in it would.
theorem stored_records (history : List (String × α)) : (stored history).Records history where
  index := (stored history).positions_eq_some_iff
  inRange := by
    intro key i hi
    obtain ⟨hlt, -⟩ := ((stored history).indexed key i).mp hi
    exact hlt
  distinct := (stored history).nodup_ids
  replace := fun id _ => get?_stored history id
  get? := get?_stored history
  spelling? := spelling?_stored history
  contains := contains_stored history
  size := size_stored history
  ids := ids_stored history
  toList := by
    rw [toList_eq_filterMap, ids_stored]
    exact List.filterMap_congr fun id _ => by rw [get?_stored]

end History

end TemplateMarkup.IdTable
