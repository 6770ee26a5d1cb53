/-!
# Ordered maps

A map from texts to values that remembers the order in which its keys came. Setting a key that is
there already changes its value and leaves its place.
-/

namespace ShaderVariants

/-- Keys with their values, in the order in which the keys were first set. -/
structure OrderedMap (α : Type) where
  entries : List (String × α)
  distinct : (entries.map Prod.fst).Nodup := by simp
  deriving DecidableEq

namespace OrderedMap

variable {α : Type}

def setIn (key : String) (value : α) : List (String × α) → List (String × α)
  | [] => [(key, value)]
  | (other, old) :: rest =>
    if other = key then (key, value) :: rest else (other, old) :: setIn key value rest

theorem keys_setIn (key : String) (value : α) (entries : List (String × α)) :
    (setIn key value entries).map Prod.fst =
      if key ∈ entries.map Prod.fst then entries.map Prod.fst
      else entries.map Prod.fst ++ [key] := by
  induction entries with
  | nil => simp [setIn]
  | cons entry rest ih =>
      obtain ⟨other, old⟩ := entry
      by_cases same : other = key
      · simp [setIn, same]
      · have apart : key ≠ other := fun equality => same equality.symm
        simp only [setIn, same, if_false, List.map_cons, ih, List.mem_cons, apart, false_or]
        split <;> simp

theorem nodup_keys_setIn {key : String} {value : α} {entries : List (String × α)}
    (distinct : (entries.map Prod.fst).Nodup) :
    ((setIn key value entries).map Prod.fst).Nodup := by
  rw [keys_setIn]
  split
  · exact distinct
  · rename_i fresh
    rw [List.nodup_append]
    refine ⟨distinct, by simp, ?_⟩
    intro other member key' single equality
    simp only [List.mem_singleton] at single
    exact fresh (single ▸ equality ▸ member)

/-- The map without keys. -/
def empty : OrderedMap α := ⟨[], by simp⟩

instance : Inhabited (OrderedMap α) := ⟨empty⟩

def set (map : OrderedMap α) (key : String) (value : α) : OrderedMap α :=
  ⟨setIn key value map.entries, nodup_keys_setIn map.distinct⟩

/-- Sets all keys of a list in turn, so that the last value of a key counts. -/
def setAll (map : OrderedMap α) (entries : List (String × α)) : OrderedMap α :=
  entries.foldl (fun map entry => map.set entry.1 entry.2) map

def ofList (entries : List (String × α)) : OrderedMap α := empty.setAll entries

def get? (map : OrderedMap α) (key : String) : Option α :=
  (map.entries.find? fun entry => entry.1 == key).map Prod.snd

def contains (map : OrderedMap α) (key : String) : Bool :=
  map.entries.any fun entry => entry.1 == key

/-- The map with other values under its keys. -/
def mapValues {β : Type} (map : OrderedMap α) (change : α → β) : OrderedMap β where
  entries := map.entries.map fun entry => (entry.1, change entry.2)
  distinct := by
    rw [List.map_map]
    exact map.distinct

/-- The keys in their order. -/
def keys (map : OrderedMap α) : List String := map.entries.map Prod.fst

/-- Number of keys. -/
def size (map : OrderedMap α) : Nat := map.entries.length

theorem keys_set (map : OrderedMap α) (key : String) (value : α) :
    (map.set key value).keys = if key ∈ map.keys then map.keys else map.keys ++ [key] :=
  keys_setIn key value map.entries

end OrderedMap

end ShaderVariants
