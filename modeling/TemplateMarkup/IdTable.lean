import Std.Data.ExtTreeMap
import TemplateMarkup.Json
import TemplateMarkup.Text.Lowercase

namespace TemplateMarkup

-- A table keyed by ids that are compared ignoring case. Entries stay in the order in which
-- their ids first came and keep the spelling of that first time. The positions index the
-- entries by their lowered ids.
structure IdTable (α : Type) where
  entries : Array (String × α)
  positions : Std.ExtTreeMap String Nat
  indexed : ∀ key i, positions[key]? = some i ↔
    ∃ h : i < entries.size, Text.lowercase entries[i].1 = key

namespace IdTable

variable {α : Type}

def empty : IdTable α where
  entries := #[]
  positions := ∅
  indexed := by simp

instance : Inhabited (IdTable α) := ⟨empty⟩

-- Where an id is kept.
def position? (table : IdTable α) (id : String) : Option Nat :=
  table.positions[Text.lowercase id]?

theorem position?_eq_some (table : IdTable α) (id : String) (i : Nat) :
    table.position? id = some i ↔
      ∃ h : i < table.entries.size, Text.lowercase table.entries[i].1 = Text.lowercase id :=
  table.indexed _ i

-- Stores a value behind an id that is kept already.
def setAt (table : IdTable α) (i : Nat) (h : i < table.entries.size) (value : α) : IdTable α where
  entries := table.entries.set i (table.entries[i].1, value)
  positions := table.positions
  indexed key j := by
    rw [table.indexed key j]
    by_cases hij : i = j
    · subst hij
      simp [h]
    · simp [Array.getElem_set, hij]

-- Stores a value behind an id that is not kept yet.
def append (table : IdTable α) (id : String) (h : table.position? id = none) (value : α) :
    IdTable α where
  entries := table.entries.push (id, value)
  positions := table.positions.insert (Text.lowercase id) table.entries.size
  indexed key j := by
    have absent : ∀ i, table.positions[Text.lowercase id]? ≠ some i := by
      intro i hi
      rw [position?, hi] at h
      exact absurd h (by simp)
    simp only [Std.ExtTreeMap.getElem?_insert, Std.compare_eq_iff_eq]
    by_cases hkey : Text.lowercase id = key
    · subst hkey
      simp only [if_true, Option.some.injEq, Array.size_push]
      constructor
      · rintro rfl
        exact ⟨Nat.lt_succ_self _, by simp⟩
      · rintro ⟨hj, he⟩
        by_cases hlt : j < table.entries.size
        · rw [Array.getElem_push_lt hlt] at he
          exact absurd ((table.indexed _ j).2 ⟨hlt, he⟩) (absent j)
        · omega
    · simp only [hkey, if_false, Array.size_push]
      rw [table.indexed key j]
      constructor
      · rintro ⟨hj, he⟩
        exact ⟨Nat.lt_succ_of_lt hj, by rw [Array.getElem_push_lt hj]; exact he⟩
      · rintro ⟨hj, he⟩
        by_cases hlt : j < table.entries.size
        · rw [Array.getElem_push_lt hlt] at he
          exact ⟨hlt, he⟩
        · have : j = table.entries.size := by omega
          subst this
          rw [Array.getElem_push_eq] at he
          exact absurd he hkey

-- Stores a value behind an id. A new id goes to the end; a known one keeps its place and its
-- spelling.
def insert (table : IdTable α) (id : String) (value : α) : IdTable α :=
  match h : table.position? id with
  | some i => table.setAt i ((table.position?_eq_some id i).1 h).1 value
  | none => table.append id h value

def pair? (table : IdTable α) (id : String) : Option (String × α) :=
  match table.position? id with
  | some i => table.entries[i]?
  | none => none

def get? (table : IdTable α) (id : String) : Option α :=
  (table.pair? id).map Prod.snd

-- An id as it was first written.
def spelling? (table : IdTable α) (id : String) : Option String :=
  (table.pair? id).map Prod.fst

def contains (table : IdTable α) (id : String) : Bool :=
  (table.position? id).isSome

-- Stores a value and hands back the one that it replaces.
def replace (table : IdTable α) (id : String) (value : α) : Option α × IdTable α :=
  (table.get? id, table.insert id value)

def size (table : IdTable α) : Nat :=
  table.entries.size

def isEmpty (table : IdTable α) : Bool :=
  table.entries.isEmpty

def toList (table : IdTable α) : List (String × α) :=
  table.entries.toList

def ids (table : IdTable α) : List String :=
  table.toList.map Prod.fst

-- An object with a member to each id.
def toJson (value : α → Json) (table : IdTable α) : Json :=
  .object (table.toList.map fun entry => (entry.1, value entry.2))

end IdTable

end TemplateMarkup
