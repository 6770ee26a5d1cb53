import Mathlib.Data.List.Nodup
import ShaderVariants.Validation.Repetition

/-!
# Absence of repetitions

Nothing is repeated in a list exactly when the keys of its items are pairwise different.  The first
items of each key stand for all items: every item shares its key with one of them.
-/

namespace ShaderVariants.Repetition

variable {α β : Type} [DecidableEq β]

theorem mem_of_mem_firstsFrom {key : α → β} {seen : List β} {items : List α} {item : α}
    (member : item ∈ firstsFrom key seen items) : item ∈ items := by
  induction items generalizing seen with
  | nil => cases member
  | cons first rest ih =>
      by_cases known : key first ∈ seen
      · simp only [firstsFrom, known, if_true] at member
        exact List.mem_cons_of_mem _ (ih member)
      · simp only [firstsFrom, known, if_false] at member
        rcases List.mem_cons.mp member with rfl | later
        · exact List.mem_cons_self
        · exact List.mem_cons_of_mem _ (ih later)

theorem exists_mem_firstsFrom {key : α → β} {seen : List β} {items : List α} {item : α}
    (member : item ∈ items) (fresh : key item ∉ seen) :
    ∃ first ∈ firstsFrom key seen items, key first = key item := by
  induction items generalizing seen with
  | nil => cases member
  | cons first rest ih =>
      by_cases same : key first = key item
      · have unknown : key first ∉ seen := same ▸ fresh
        exact ⟨first, by simp [firstsFrom, unknown], same⟩
      · have later : item ∈ rest := by
          rcases List.mem_cons.mp member with rfl | later
          · exact (same rfl).elim
          · exact later
        by_cases known : key first ∈ seen
        · obtain ⟨found, inside, equality⟩ := ih later fresh
          exact ⟨found, by simpa [firstsFrom, known] using inside, equality⟩
        · have stillFresh : key item ∉ key first :: seen := by
            simpa [fresh] using Ne.symm same
          obtain ⟨found, inside, equality⟩ := ih later stillFresh
          exact ⟨found, by simp [firstsFrom, known, inside], equality⟩

theorem find?_of_mem_firstsFrom {key : α → β} {seen : List β} {items : List α} {first : α}
    (member : first ∈ firstsFrom key seen items) :
    key first ∉ seen ∧ items.find? (fun other => key other = key first) = some first := by
  induction items generalizing seen with
  | nil => cases member
  | cons item rest ih =>
      by_cases known : key item ∈ seen
      · simp only [firstsFrom, known, if_true] at member
        obtain ⟨fresh, found⟩ := ih member
        have apart : key item ≠ key first := fun equality => fresh (equality ▸ known)
        exact ⟨fresh, by simp [apart, found]⟩
      · simp only [firstsFrom, known, if_false] at member
        rcases List.mem_cons.mp member with rfl | later
        · exact ⟨known, by simp⟩
        · obtain ⟨fresh, found⟩ := ih later
          simp only [List.mem_cons, not_or] at fresh
          exact ⟨fresh.2, by simp [Ne.symm fresh.1, found]⟩

theorem mem_of_mem_firsts {key : α → β} {items : List α} {item : α}
    (member : item ∈ firsts key items) : item ∈ items :=
  mem_of_mem_firstsFrom member

/-- Every item has a first item with its key. -/
theorem exists_mem_firsts (key : α → β) {items : List α} {item : α} (member : item ∈ items) :
    ∃ first ∈ firsts key items, key first = key item :=
  exists_mem_firstsFrom member (by simp)

/-- The first item of a key stands in front of all others of its key. -/
theorem find?_of_mem_firsts {key : α → β} {items : List α} {first : α}
    (member : first ∈ firsts key items) :
    items.find? (fun other => key other = key first) = some first :=
  (find?_of_mem_firstsFrom member).2

/-- Where keys differ, an item is found by its key. -/
theorem find?_of_nodup_map {key : α → β} {items : List α} (distinct : (items.map key).Nodup)
    {item : α} (member : item ∈ items) :
    items.find? (fun other => key other = key item) = some item := by
  obtain ⟨first, leading, same⟩ := exists_mem_firsts key member
  have found := find?_of_mem_firsts leading
  rwa [List.inj_on_of_nodup_map distinct (mem_of_mem_firsts leading) member same] at found

/-- Where keys differ, the order of the items does not matter to who looks for a key. -/
theorem find?_eq_of_perm {key : α → β} {items others : List α} (reordered : others.Perm items)
    (distinct : (items.map key).Nodup) (wanted : β) :
    others.find? (fun item => key item = wanted) =
      items.find? (fun item => key item = wanted) := by
  have distinct' : (others.map key).Nodup := (reordered.map key).nodup_iff.mpr distinct
  cases found : items.find? (fun item => key item = wanted) with
  | none =>
      rw [List.find?_eq_none] at found ⊢
      exact fun item member => found item (reordered.subset member)
  | some item =>
      obtain rfl : key item = wanted := by simpa using List.find?_some found
      exact find?_of_nodup_map distinct'
        (reordered.symm.subset (List.mem_of_find?_eq_some found))

/-- No key is repeated exactly when all keys differ. -/
theorem repeated_eq_nil_iff {key : α → β} {items : List α} :
    repeated key items = [] ↔ (items.map key).Nodup := by
  have count (wanted : β) :
      (items.map key).count wanted = items.countP fun other => decide (key other = wanted) := by
    rw [List.count, List.countP_map]
    exact List.countP_congr fun item _ => by simp
  rw [repeated, List.filter_eq_nil_iff, List.nodup_iff_count]
  constructor
  · intro single wanted
    by_cases present : wanted ∈ items.map key
    · obtain ⟨item, member, rfl⟩ := List.mem_map.mp present
      obtain ⟨first, inside, equality⟩ := exists_mem_firsts key member
      have bound := single first inside
      rw [equality, ← count] at bound
      simpa using bound
    · simp [List.count_eq_zero_of_not_mem present]
  · intro bounds first _
    have bound := bounds (key first)
    rw [count] at bound
    simpa using bound

omit [DecidableEq β] in
/-- What differs in one respect differs in every respect that tells it. -/
theorem nodup_map_of_reflects {γ : Type} {key : α → β} {other : α → γ} {items : List α}
    (distinct : (items.map key).Nodup)
    (reflects : ∀ first ∈ items, ∀ second ∈ items,
      other first = other second → key first = key second) :
    (items.map other).Nodup := by
  rw [List.nodup_iff_pairwise_ne, List.pairwise_map] at distinct ⊢
  exact distinct.imp_of_mem fun inside inside' apart same =>
    apart (reflects _ inside _ inside' same)

end ShaderVariants.Repetition
