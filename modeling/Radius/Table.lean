/-!
# `Radius.Table`: finite maps

A table holds rows of a key and what is stored under it, each key in one row at most.
`find?_insert` and `find?_erase` say what a look-up finds after a change, and `keys_insert` which
keys there are.
-/

set_option autoImplicit false

namespace Radius

/-- Rows of keys and values. -/
structure Table (κ : Type) (ν : Type) where
  rows : List (κ × ν) := []

namespace Table

variable {κ ν : Type} [DecidableEq κ]

/-- The table without rows. -/
def empty : Table κ ν := {}

/-- What is stored under a key. -/
def find? (table : Table κ ν) (key : κ) : Option ν :=
  (table.rows.find? (·.1 = key)).map (·.2)

/-- The table without the row of a key. -/
def erase (table : Table κ ν) (key : κ) : Table κ ν :=
  ⟨table.rows.filter (·.1 ≠ key)⟩

/-- The table with a value stored under a key, in place of any earlier one. -/
def insert (table : Table κ ν) (key : κ) (value : ν) : Table κ ν :=
  ⟨(key, value) :: (table.erase key).rows⟩

/-- The number of keys. -/
def size (table : Table κ ν) : Nat :=
  table.rows.length

/-- The keys, the last one that was stored first. -/
def keys (table : Table κ ν) : List κ :=
  table.rows.map (·.1)

omit [DecidableEq κ] in
/-- There are as many keys as rows. -/
@[simp] theorem length_keys (table : Table κ ν) : table.keys.length = table.size :=
  List.length_map _

/-- Nothing is found in the table without rows. -/
@[simp] theorem find?_empty (key : κ) : (empty : Table κ ν).find? key = none := rfl

/-- After a key was erased it is not found, and all others are found as before. -/
theorem find?_erase (table : Table κ ν) (key sought : κ) :
    (table.erase key).find? sought = if sought = key then none else table.find? sought := by
  simp only [find?, erase, List.find?_filter]
  split
  next h =>
    subst h
    simp
  next h =>
    congr 2
    funext row
    by_cases hrow : row.1 = sought
    · simp [hrow, h]
    · simp [hrow]

/-- After a value was stored it is found under its key, and all others are found as before. -/
theorem find?_insert (table : Table κ ν) (key sought : κ) (value : ν) :
    (table.insert key value).find? sought
      = if sought = key then some value else table.find? sought := by
  by_cases h : key = sought
  · simp [find?, insert, h]
  · have hbelow := find?_erase table key sought
    rw [if_neg (Ne.symm h)] at hbelow ⊢
    rw [← hbelow]
    simp [find?, insert, h]

/-- A key that a value is stored under moves to the front, and is there once. -/
theorem keys_insert (table : Table κ ν) (key : κ) (value : ν) :
    (table.insert key value).keys = key :: table.keys.filter (· ≠ key) := by
  simp only [keys, insert, erase, List.map_cons, List.filter_map]
  rfl

end Table

end Radius
