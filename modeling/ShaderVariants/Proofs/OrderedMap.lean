import ShaderVariants.OrderedMap
import ShaderVariants.Proofs.Repetition

/-!
# Contents of ordered maps

An ordered map is fixed by its keys in order and by the value of each key.  What setting a list
of entries does to both is said here, so that later modules never look into the entries:
the last entry of a key gives its value, and setting entries with the same keys twice leaves
nothing of the first time.
-/

namespace ShaderVariants.OrderedMap

variable {α : Type}

/-- The keys after some more have been set, each behind the others when it is new. -/
def keysAfter (keys added : List String) : List String :=
  added.foldl (fun keys key => if key ∈ keys then keys else keys ++ [key]) keys

theorem subset_keysAfter (keys added : List String) : keys ⊆ keysAfter keys added := by
  induction added generalizing keys with
  | nil => exact List.Subset.refl keys
  | cons key added ih =>
      refine List.Subset.trans ?_ (ih (if key ∈ keys then keys else keys ++ [key]))
      split
      · exact List.Subset.refl keys
      · exact List.subset_append_left keys [key]

theorem added_subset_keysAfter (keys added : List String) : added ⊆ keysAfter keys added := by
  induction added generalizing keys with
  | nil => exact List.nil_subset _
  | cons key added ih =>
      intro wanted member
      rcases List.mem_cons.mp member with rfl | later
      · apply subset_keysAfter (if wanted ∈ keys then keys else keys ++ [wanted]) added
        by_cases present : wanted ∈ keys <;> simp [present]
      · exact ih _ later

theorem keysAfter_eq_self {keys added : List String} (present : added ⊆ keys) :
    keysAfter keys added = keys := by
  induction added with
  | nil => rfl
  | cons key added ih =>
      have first : key ∈ keys := present (by simp)
      have others : added ⊆ keys := fun _ member => present (List.mem_cons_of_mem _ member)
      simpa [keysAfter, first] using ih others

theorem keys_setAll (map : OrderedMap α) (entries : List (String × α)) :
    (map.setAll entries).keys = keysAfter map.keys (entries.map Prod.fst) := by
  induction entries generalizing map with
  | nil => rfl
  | cons entry entries ih =>
      have step := ih (map.set entry.1 entry.2)
      rw [keys_set] at step
      exact step

/-- The last value that a list of entries gives to a key. -/
def lastValue? (entries : List (String × α)) (key : String) : Option α :=
  (entries.reverse.find? fun entry => entry.1 == key).map Prod.snd

theorem lastValue?_cons (entry : String × α) (entries : List (String × α)) (key : String) :
    lastValue? (entry :: entries) key =
      (lastValue? entries key).or (if entry.1 = key then some entry.2 else none) := by
  by_cases same : entry.1 = key
  · cases found : entries.reverse.find? (fun entry => entry.1 == key) <;>
      simp [lastValue?, List.find?_append, found, same]
  · cases found : entries.reverse.find? (fun entry => entry.1 == key) <;>
      simp [lastValue?, List.find?_append, found, same]

theorem lastValue?_eq_none_iff {entries : List (String × α)} {key : String} :
    lastValue? entries key = none ↔ key ∉ entries.map Prod.fst := by
  induction entries with
  | nil => simp [lastValue?]
  | cons entry entries ih =>
      by_cases same : entry.1 = key
      · simp [lastValue?_cons, same]
      · have apart : key ≠ entry.1 := Ne.symm same
        simp [lastValue?_cons, same, apart, ih]

theorem find?_setIn (key wanted : String) (value : α) (entries : List (String × α)) :
    ((setIn key value entries).find? fun entry => entry.1 == wanted).map Prod.snd =
      if key = wanted then some value
      else (entries.find? fun entry => entry.1 == wanted).map Prod.snd := by
  induction entries with
  | nil => by_cases same : key = wanted <;> simp [setIn, same]
  | cons entry entries ih =>
      obtain ⟨other, old⟩ := entry
      by_cases present : other = key
      · subst present
        by_cases same : other = wanted <;> simp [setIn, same]
      · by_cases here : other = wanted
        · subst here
          simp [setIn, present, Ne.symm present]
        · simpa [setIn, present, here] using ih

theorem get?_set (map : OrderedMap α) (key wanted : String) (value : α) :
    (map.set key value).get? wanted = if key = wanted then some value else map.get? wanted :=
  find?_setIn key wanted value map.entries

/-- The value of a key is the last one that was set, or else the one before. -/
theorem get?_setAll (map : OrderedMap α) (entries : List (String × α)) (key : String) :
    (map.setAll entries).get? key = (lastValue? entries key).or (map.get? key) := by
  induction entries generalizing map with
  | nil => simp [setAll, lastValue?]
  | cons entry entries ih =>
      have step := ih (map.set entry.1 entry.2)
      rw [get?_set] at step
      rw [lastValue?_cons]
      by_cases same : entry.1 = key
      · simpa [setAll, same] using step
      · simpa [setAll, same] using step

theorem get?_empty (key : String) : (empty : OrderedMap α).get? key = none := rfl

theorem get?_ofList (entries : List (String × α)) (key : String) :
    (ofList entries).get? key = lastValue? entries key := by
  simp [ofList, get?_setAll, get?_empty]

theorem find?_of_mem {entries : List (String × α)} (distinct : (entries.map Prod.fst).Nodup)
    {entry : String × α} (member : entry ∈ entries) :
    (entries.find? fun other => other.1 == entry.1) = some entry := by
  simpa only [Bool.beq_eq_decide_eq] using Repetition.find?_of_nodup_map distinct member

theorem lastValue?_of_mem {entries : List (String × α)}
    (distinct : (entries.map Prod.fst).Nodup) {key : String} {value : α}
    (member : (key, value) ∈ entries) : lastValue? entries key = some value := by
  have reversed : (entries.reverse.map Prod.fst).Nodup := by
    rw [List.map_reverse]
    exact (List.reverse_perm _).nodup_iff.mpr distinct
  have found := find?_of_mem reversed (List.mem_reverse.mpr member)
  simp only at found
  simp [lastValue?, found]

theorem mem_of_lastValue? {entries : List (String × α)} {key : String} {value : α}
    (found : lastValue? entries key = some value) : (key, value) ∈ entries := by
  obtain ⟨entry, last, rfl⟩ := Option.map_eq_some_iff.mp found
  have sameKey : entry.1 = key := by simpa using List.find?_some last
  subst sameKey
  exact List.mem_reverse.mp (List.mem_of_find?_eq_some last)

/-- The value of a key is the one that stands beside it. -/
theorem get?_eq_some_iff {map : OrderedMap α} {key : String} {value : α} :
    map.get? key = some value ↔ (key, value) ∈ map.entries := by
  constructor
  · intro found
    obtain ⟨entry, first, rfl⟩ := Option.map_eq_some_iff.mp found
    have sameKey : entry.1 = key := by simpa using List.find?_some first
    subst sameKey
    exact List.mem_of_find?_eq_some first
  · intro member
    have found := find?_of_mem map.distinct member
    simp only at found
    simp [get?, found]

theorem get?_mapValues {β : Type} {map : OrderedMap α} {key : String} {value : α}
    (given : map.get? key = some value) (change : α → β) :
    (map.mapValues change).get? key = some (change value) := by
  obtain ⟨entry, found, rfl⟩ := Option.map_eq_some_iff.mp given
  unfold get? mapValues
  rw [List.find?_map]
  exact congrArg (Option.map _) (congrArg (Option.map _) found)

theorem contains_mapValues {β : Type} (map : OrderedMap α) (change : α → β) (key : String) :
    (map.mapValues change).contains key = map.contains key := by
  unfold contains mapValues
  rw [List.any_map]
  rfl

/-- Two maps with the same keys in the same order and the same value for each are equal. -/
theorem ext_of_keys {first second : OrderedMap α} (keys : first.keys = second.keys)
    (values : ∀ key, first.get? key = second.get? key) : first = second := by
  have entries_of_get? (map : OrderedMap α) :
      map.entries.map some =
        map.keys.map fun key => (map.get? key).map fun value => (key, value) := by
    rw [OrderedMap.keys, List.map_map]
    apply List.map_congr_left
    intro entry member
    have found := find?_of_mem map.distinct member
    simp [get?, found]
  have same : first.entries.map some = second.entries.map some := by
    rw [entries_of_get? first, entries_of_get? second, keys]
    exact List.map_congr_left fun key _ => by rw [values]
  obtain ⟨entries, distinct⟩ := first
  obtain ⟨entries', distinct'⟩ := second
  have equality : entries = entries' :=
    (List.map_inj_right fun _ _ => Option.some.inj).mp same
  subst equality
  rfl

/-- Setting entries a second time, with the same keys, leaves nothing of the first time. -/
theorem setAll_setAll (map : OrderedMap α) {earlier later : List (String × α)}
    (sameKeys : earlier.map Prod.fst = later.map Prod.fst) :
    (map.setAll earlier).setAll later = map.setAll later := by
  apply ext_of_keys
  · rw [keys_setAll, keys_setAll, keys_setAll, sameKeys]
    exact keysAfter_eq_self (added_subset_keysAfter _ _)
  · intro key
    rw [get?_setAll, get?_setAll, get?_setAll]
    cases found : lastValue? later key with
    | some value => simp
    | none =>
        have absent : lastValue? earlier key = none := by
          rw [lastValue?_eq_none_iff, sameKeys]
          exact lastValue?_eq_none_iff.mp found
        simp [absent]

theorem entries_set_of_notMem {map : OrderedMap α} {key : String} (fresh : key ∉ map.keys)
    (value : α) : (map.set key value).entries = map.entries ++ [(key, value)] := by
  have appended : ∀ entries : List (String × α), key ∉ entries.map Prod.fst →
      setIn key value entries = entries ++ [(key, value)] := by
    intro entries
    induction entries with
    | nil => intro _; rfl
    | cons entry entries ih =>
        intro absent
        obtain ⟨first, others⟩ : key ≠ entry.1 ∧ key ∉ entries.map Prod.fst := by
          simpa using absent
        simp [setIn, Ne.symm first, ih others]
  exact appended map.entries fresh

/-- Entries with new keys stand behind the others as they are. -/
theorem entries_setAll_of_disjoint {map : OrderedMap α} {entries : List (String × α)}
    (distinct : (entries.map Prod.fst).Nodup)
    (fresh : ∀ key ∈ entries.map Prod.fst, key ∉ map.keys) :
    (map.setAll entries).entries = map.entries ++ entries := by
  induction entries generalizing map with
  | nil => simp [setAll]
  | cons entry entries ih =>
      simp only [List.map_cons, List.nodup_cons] at distinct
      have first : entry.1 ∉ map.keys := fresh entry.1 (by simp)
      have others : ∀ key ∈ entries.map Prod.fst, key ∉ (map.set entry.1 entry.2).keys := by
        intro key member inside
        rw [keys_set, if_neg first] at inside
        rcases List.mem_append.mp inside with before | last
        · exact fresh key (List.mem_cons_of_mem _ member) before
        · exact distinct.1 (List.mem_singleton.mp last ▸ member)
      have rest := ih distinct.2 others
      rw [entries_set_of_notMem first] at rest
      simpa [setAll] using rest

theorem entries_ofList {entries : List (String × α)} (distinct : (entries.map Prod.fst).Nodup) :
    (ofList entries).entries = entries := by
  have appended : ((empty : OrderedMap α).setAll entries).entries = _ ++ entries :=
    entries_setAll_of_disjoint distinct (by
      intro key _ inside
      cases inside)
  simpa [ofList, empty] using appended

end ShaderVariants.OrderedMap
