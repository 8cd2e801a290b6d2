/-
# Maps that remember the order of their keys

A map keeps its keys in the order in which they were first set. Setting a key again
changes its value and not its place, so what a reader sees first stays first. Keys are
distinct by construction.
-/

namespace HtmlTemplate.Data

/-- Give `key` the value `value`: in place if the key occurs, else at the end. -/
def setEntry {α β : Type} [DecidableEq α] (key : α) (value : β) : List (α × β) → List (α × β)
  | [] => [(key, value)]
  | (other, old) :: rest =>
      if other = key then (other, value) :: rest else (other, old) :: setEntry key value rest

/-- Setting an entry adds its key at the end, unless it is there already. -/
theorem keys_setEntry {α β : Type} [DecidableEq α] (key : α) (value : β)
    (entries : List (α × β)) :
    (setEntry key value entries).map Prod.fst =
      if key ∈ entries.map Prod.fst then entries.map Prod.fst
      else entries.map Prod.fst ++ [key] := by
  induction entries with
  | nil => simp [setEntry]
  | cons entry rest ih =>
      obtain ⟨other, old⟩ := entry
      by_cases same : other = key
      · simp [setEntry, same]
      · by_cases later : key ∈ rest.map Prod.fst <;>
          simp_all [setEntry, Ne.symm same]

/-- The value of a key is the one that was set last. -/
theorem lookup_setEntry {α β : Type} [DecidableEq α] (key query : α) (value : β)
    (entries : List (α × β)) :
    (setEntry key value entries).lookup query =
      if query = key then some value else entries.lookup query := by
  induction entries with
  | nil => grind [setEntry]
  | cons entry rest ih => grind [setEntry]

/-- Entries with distinct keys, in the order in which the keys were first set. -/
structure OrderedMap (α β : Type) where
  entries : List (α × β)
  nodup_keys : (entries.map Prod.fst).Nodup

namespace OrderedMap

variable {α β : Type}

/-- The map without entries. -/
def empty : OrderedMap α β := ⟨[], .nil⟩

/-- How many keys have a value. -/
def size (map : OrderedMap α β) : Nat := map.entries.length

/-- Whether no key has a value. -/
def isEmpty (map : OrderedMap α β) : Bool := map.entries.isEmpty

variable [DecidableEq α]

/-- The value of a key. -/
def get? (map : OrderedMap α β) (key : α) : Option β := map.entries.lookup key

/-- Give a key a value. -/
def insert (map : OrderedMap α β) (key : α) (value : β) : OrderedMap α β where
  entries := setEntry key value map.entries
  nodup_keys := by
    rw [keys_setEntry]
    split
    · exact map.nodup_keys
    · rename_i fresh
      exact List.nodup_append.mpr ⟨map.nodup_keys, by simp, by
        intro old h new hnew
        simp only [List.mem_singleton] at hnew
        exact fun same => fresh (hnew ▸ same ▸ h)⟩

end OrderedMap

end HtmlTemplate.Data
