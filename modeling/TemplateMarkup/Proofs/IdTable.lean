import Mathlib.Data.List.Forall2
import Mathlib.Data.List.Perm.Subperm
import TemplateMarkup.IdTable

namespace TemplateMarkup.IdTable

variable {α : Type}

@[simp] theorem toList_empty : (empty : IdTable α).toList = [] := rfl

@[simp] theorem get?_empty (id : String) : (empty : IdTable α).get? id = none := by
  simp [get?, pair?, position?, empty]

-- Ids are kept in one place exactly when they differ in case only.
theorem position?_eq_iff (table : IdTable α) {id : String} {i : Nat}
    (h : table.position? id = some i) (other : String) :
    table.position? other = some i ↔ Text.lowercase id = Text.lowercase other := by
  constructor
  · intro ho
    obtain ⟨hi, hid⟩ := (table.position?_eq_some id i).mp h
    obtain ⟨_, hother⟩ := (table.position?_eq_some other i).mp ho
    rw [← hid, hother]
  · intro he
    rw [← h, position?, position?, he]

theorem contains_iff (table : IdTable α) (id : String) :
    table.contains id = true ↔ ∃ key ∈ table.ids, Text.lowercase key = Text.lowercase id := by
  constructor
  · intro h
    obtain ⟨i, hi⟩ := Option.isSome_iff_exists.mp h
    obtain ⟨hlt, hkey⟩ := (table.position?_eq_some id i).mp hi
    refine ⟨table.entries[i].1, ?_, hkey⟩
    exact List.mem_map_of_mem (Array.getElem_mem_toList hlt)
  · rintro ⟨key, hmem, hkey⟩
    obtain ⟨entry, he, rfl⟩ := List.mem_map.mp hmem
    obtain ⟨i, hlt, rfl⟩ := List.getElem_of_mem he
    have hi : table.position? id = some i := (table.position?_eq_some id i).mpr ⟨hlt, hkey⟩
    simp [contains, hi]

theorem position?_setAt (table : IdTable α) (i : Nat) (h : i < table.entries.size) (value : α)
    (id : String) : (table.setAt i h value).position? id = table.position? id := rfl

theorem position?_append (table : IdTable α) (id : String) (h : table.position? id = none)
    (value : α) (other : String) :
    (table.append id h value).position? other =
      if Text.lowercase id = Text.lowercase other then some table.entries.size
      else table.position? other := by
  simp [position?, append, Std.ExtTreeMap.getElem?_insert]

theorem get?_setAt (table : IdTable α) {id : String} {i : Nat} (hid : table.position? id = some i)
    (h : i < table.entries.size) (value : α) (other : String) :
    (table.setAt i h value).get? other =
      if Text.lowercase id = Text.lowercase other then some value else table.get? other := by
  rw [get?, pair?, position?_setAt]
  split
  · rename_i j hj
    by_cases he : Text.lowercase id = Text.lowercase other
    · rw [(table.position?_eq_iff hid other).mpr he] at hj
      cases hj
      simp [he, setAt, h]
    · have hij : i ≠ j := by
        rintro rfl
        exact he ((table.position?_eq_iff hid other).mp hj)
      simp [he, setAt, get?, pair?, hj, hij]
  · rename_i hnone
    have he : Text.lowercase id ≠ Text.lowercase other := by
      intro he
      rw [(table.position?_eq_iff hid other).mpr he] at hnone
      cases hnone
    simp [he, get?, pair?, hnone]

theorem get?_append (table : IdTable α) (id : String) (h : table.position? id = none)
    (value : α) (other : String) :
    (table.append id h value).get? other =
      if Text.lowercase id = Text.lowercase other then some value else table.get? other := by
  rw [get?, pair?, position?_append]
  by_cases he : Text.lowercase id = Text.lowercase other
  · simp [he, append]
  · simp only [he, if_false, get?, pair?]
    split
    · rename_i j hj
      obtain ⟨hlt, -⟩ := (table.position?_eq_some other j).mp hj
      simp [append, Array.getElem?_push_lt hlt, hlt]
    · rfl

-- A stored value is found under every spelling of its id, and all else as before.
theorem get?_insert (table : IdTable α) (id : String) (value : α) (other : String) :
    (table.insert id value).get? other =
      if Text.lowercase id = Text.lowercase other then some value else table.get? other := by
  unfold insert
  split
  · rename_i i hi
    exact table.get?_setAt hi _ value other
  · rename_i h
    exact table.get?_append id h value other

-- A new id goes to the end, and a known one stays where it is.
theorem ids_insert (table : IdTable α) (id : String) (value : α) :
    (table.insert id value).ids =
      if table.contains id = true then table.ids else table.ids ++ [id] := by
  unfold insert
  split
  · rename_i i hi
    obtain ⟨hlt, -⟩ := (table.position?_eq_some id i).mp hi
    have hc : table.contains id = true := by simp [contains, hi]
    have hlength : i < (table.entries.toList.map Prod.fst).length := by simpa using hlt
    have hkey : (table.entries.toList.map Prod.fst)[i] = table.entries[i].1 := by simp
    have hset : (table.entries.toList.set i (table.entries[i].1, value)).map Prod.fst =
        table.entries.toList.map Prod.fst := by
      rw [List.map_set, ← hkey, List.set_getElem_self]
    simpa [hc, ids, toList, setAt] using hset
  · rename_i h
    have hc : table.contains id = false := by simp [contains, h]
    simp [hc, ids, toList, append]

theorem contains_insert (table : IdTable α) (id : String) (value : α) (other : String) :
    (table.insert id value).contains other = true ↔
      Text.lowercase id = Text.lowercase other ∨ table.contains other = true := by
  simp only [contains_iff, ids_insert]
  split
  · rename_i hid
    obtain ⟨key, hm, hkey⟩ := hid
    refine ⟨.inr, ?_⟩
    rintro (he | hother)
    · exact ⟨key, hm, hkey.trans he⟩
    · exact hother
  · simp only [List.mem_append, List.mem_singleton, or_and_right, exists_or, exists_eq_left]
    exact or_comm

theorem mem_toList_insert {table : IdTable α} {id : String} {value : α} {entry : String × α}
    (h : entry ∈ (table.insert id value).toList) : entry ∈ table.toList ∨ entry.2 = value := by
  unfold insert at h
  split at h
  · simp only [setAt, toList, Array.toList_set] at h
    rcases List.mem_or_eq_of_mem_set h with h | rfl
    · exact .inl h
    · exact .inr rfl
  · simp only [append, toList, Array.toList_push, List.mem_append, List.mem_singleton] at h
    exact h.imp_right fun he => by rw [he]

-- Storing a value puts nothing else into the table.
theorem flatMap_insert_subperm {β : Type} (f : α → List β) (table : IdTable α) (id : String)
    (value : α) :
    ((table.insert id value).toList.flatMap fun entry => f entry.2).Subperm
      (f value ++ table.toList.flatMap fun entry => f entry.2) := by
  unfold insert
  split
  · rename_i i hi
    obtain ⟨hlt, -⟩ := (table.position?_eq_some id i).mp hi
    have hlength : i < table.entries.toList.length := by simpa using hlt
    have hsplit : table.entries.toList = table.entries.toList.take i ++
        table.entries.toList[i] :: table.entries.toList.drop (i + 1) := by
      rw [List.getElem_cons_drop, List.take_append_drop]
    simp only [setAt, toList, Array.toList_set, List.set_eq_take_append_cons_drop, hlength, if_true]
    conv => arg 2; rw [hsplit]
    simp only [List.flatMap_append, List.flatMap_cons]
    refine (List.perm_append_comm_assoc _ _ _).subperm.trans ?_
    refine (List.subperm_append_left _).mpr ((List.subperm_append_left _).mpr ?_)
    exact (List.sublist_append_right _ _).subperm
  · refine List.Perm.subperm ?_
    simp only [append, toList, Array.toList_push, List.flatMap_append, List.flatMap_cons,
      List.flatMap_nil, List.append_nil]
    exact List.perm_append_comm

theorem get?_congr (table : IdTable α) {id other : String}
    (h : Text.lowercase id = Text.lowercase other) : table.get? id = table.get? other := by
  simp only [get?, pair?, position?, h]

-- Entries have different ids, and the table knows each of them.
structure Indexes (table : IdTable α) (entries : List (String × α)) : Prop where
  distinct : entries.Pairwise fun entry other => Text.lowercase entry.1 ≠ Text.lowercase other.1
  known : ∀ entry ∈ entries, table.get? entry.1 = some entry.2

theorem indexes_nil (table : IdTable α) : table.Indexes [] :=
  ⟨List.Pairwise.nil, by simp⟩

theorem Indexes.subperm {table : IdTable α} {entries fewer : List (String × α)}
    (h : table.Indexes entries) (hfewer : fewer.Subperm entries) : table.Indexes fewer := by
  refine ⟨?_, fun entry hm => h.known entry (hfewer.subset hm)⟩
  obtain ⟨sorted, hperm, hsublist⟩ := hfewer
  exact (hperm.pairwise_iff fun hne => Ne.symm hne).mp (h.distinct.sublist hsublist)

-- A new id is one more entry that the table knows.
theorem Indexes.insert {table : IdTable α} {entries : List (String × α)}
    (h : table.Indexes entries) {id : String} (hnew : table.get? id = none) (value : α) :
    (table.insert id value).Indexes ((id, value) :: entries) := by
  have hother : ∀ entry ∈ entries, Text.lowercase id ≠ Text.lowercase entry.1 := by
    intro entry hm he
    rw [table.get?_congr he, h.known entry hm] at hnew
    cases hnew
  refine ⟨List.pairwise_cons.mpr ⟨hother, h.distinct⟩, ?_⟩
  intro entry hm
  rw [get?_insert]
  rcases List.mem_cons.mp hm with rfl | hm
  · exact if_pos rfl
  · rw [if_neg (hother entry hm)]
    exact h.known entry hm

-- The same ids in the same order, with related values.
def Alike (rel : α → α → Prop) (table other : IdTable α) : Prop :=
  List.Forall₂ (fun entry twin => entry.1 = twin.1 ∧ rel entry.2 twin.2) table.toList other.toList

theorem alike_empty (rel : α → α → Prop) : (empty : IdTable α).Alike rel empty :=
  List.Forall₂.nil

-- The index knows the lowered ids of the entries, each with its position, and nothing else.
theorem positions_eq_some_iff (table : IdTable α) (key : String) (i : Nat) :
    table.positions[key]? = some i ↔ table.ids[i]?.map Text.lowercase = some key := by
  rw [table.indexed, ids, toList, List.getElem?_map, Array.getElem?_toList]
  by_cases hlt : i < table.entries.size
  · simp [hlt]
  · simp [hlt]

-- Where an id is kept depends on the ids alone.
theorem position?_congr {table other : IdTable α} (h : table.ids = other.ids) (id : String) :
    table.position? id = other.position? id := by
  ext i
  rw [position?, position?, positions_eq_some_iff, positions_eq_some_iff, h]

-- The entries say all there is to a table.
theorem toList_injective : Function.Injective (toList : IdTable α → List (String × α)) := by
  intro table other h
  obtain ⟨entries, positions, hindexed⟩ := table
  obtain ⟨others, places, hplaced⟩ := other
  obtain rfl : entries = others := Array.toList_inj.mp h
  have hsame : positions = places := by
    refine Std.ExtTreeMap.ext_getElem? fun {key} => ?_
    ext i
    rw [hindexed, hplaced]
  subst hsame
  rfl

theorem toList_insert (table : IdTable α) (id : String) (value : α) :
    (table.insert id value).toList =
      match table.position? id with
      | some i => table.toList.modify i fun entry => (entry.1, value)
      | none => table.toList ++ [(id, value)] := by
  unfold insert
  split
  · rename_i i hi
    obtain ⟨hlt, -⟩ := (table.position?_eq_some id i).mp hi
    simp only [hi, setAt, toList, Array.toList_set]
    rw [List.modify_eq_set_getElem?, Array.getElem?_toList]
    simp [hlt]
  · rename_i h
    simp only [h, append, toList, Array.toList_push]

variable {rel : α → α → Prop} {table other : IdTable α}

theorem Alike.ids_eq (h : table.Alike rel other) : table.ids = other.ids := by
  rw [ids, ids, ← List.forall₂_eq_eq_eq, List.forall₂_map_left_iff, List.forall₂_map_right_iff]
  exact h.imp fun _ _ hboth => hboth.1

theorem forall₂_modify {β : Type} {related : β → β → Prop} {f g : β → β} {entries twins : List β}
    (h : List.Forall₂ related entries twins)
    (hrelated : ∀ entry twin, related entry twin → related (f entry) (g twin)) (i : Nat) :
    List.Forall₂ related (entries.modify i f) (twins.modify i g) := by
  induction h generalizing i with
  | nil => simp
  | cons hhead htail ih =>
      cases i with
      | zero => simpa using ⟨hrelated _ _ hhead, htail⟩
      | succ i => simpa using ⟨hhead, ih i⟩

-- Related values that are stored behind the same id keep tables alike.
theorem Alike.insert (h : table.Alike rel other) (id : String) {value twin : α}
    (hvalue : rel value twin) : (table.insert id value).Alike rel (other.insert id twin) := by
  rw [Alike, toList_insert, toList_insert, position?_congr h.ids_eq]
  cases other.position? id with
  | some i =>
      refine forall₂_modify h (fun entry found hboth => ?_) i
      exact ⟨hboth.1, hvalue⟩
  | none => exact List.rel_append h (.cons ⟨rfl, hvalue⟩ .nil)

-- The same ids with other values.
def map {β : Type} (f : α → β) (table : IdTable α) : IdTable β where
  entries := table.entries.map fun entry => (entry.1, f entry.2)
  positions := table.positions
  indexed key i := by simpa using table.indexed key i

theorem map_empty {β : Type} (f : α → β) : (empty : IdTable α).map f = empty := by
  simp [map, empty]

theorem map_insert {β : Type} (f : α → β) (table : IdTable α) (id : String) (value : α) :
    (table.insert id value).map f = (table.map f).insert id (f value) := by
  have hposition : (table.map f).position? id = table.position? id := rfl
  unfold insert
  split
  · rename_i i hi
    split
    · rename_i j hj
      obtain rfl : i = j := Option.some.inj (hi.symm.trans (hposition ▸ hj))
      simp [setAt, map]
    · rename_i hnone
      rw [hposition, hi] at hnone
      cases hnone
  · rename_i hnone
    split
    · rename_i j hj
      rw [hposition, hnone] at hj
      cases hj
    · simp [append, map]

end TemplateMarkup.IdTable
