import ShaderVariants.Combination
import ShaderVariants.Proofs.Odometer

/-!
# Choices of cases

A cross product stands for every choice of one case of each of its value enums.  The choices are
listed here by nesting, the case of the last enum changing fastest, and the combinations that an
odometer counts through are shown to be these choices, numbered from zero.
-/

namespace ShaderVariants

namespace Selection

/-- Every choice of one case of each value enum, in lexicographic order. -/
def choices : List ValueEnum → List (List Selection)
  | [] => [[]]
  | valueEnum :: valueEnums =>
    valueEnum.cases.flatMap fun case => (choices valueEnums).map (⟨valueEnum, case⟩ :: ·)

theorem mem_choices_cons {valueEnum : ValueEnum} {valueEnums : List ValueEnum}
    {selections : List Selection} :
    selections ∈ choices (valueEnum :: valueEnums) ↔
      ∃ case ∈ valueEnum.cases, ∃ others ∈ choices valueEnums,
        selections = ⟨valueEnum, case⟩ :: others := by
  simp [choices, eq_comm]

/-- A choice has one selection of each value enum. -/
theorem map_valueEnum_of_mem_choices {valueEnums : List ValueEnum} {selections : List Selection}
    (member : selections ∈ choices valueEnums) :
    selections.map Selection.valueEnum = valueEnums := by
  induction valueEnums generalizing selections with
  | nil => simp_all [choices]
  | cons valueEnum valueEnums ih =>
      obtain ⟨case, -, others, inside, rfl⟩ := mem_choices_cons.mp member
      simp [ih inside]

/-- A choice selects cases of the value enums. -/
theorem case_mem_of_mem_choices {valueEnums : List ValueEnum} {selections : List Selection}
    (member : selections ∈ choices valueEnums) {selection : Selection}
    (selected : selection ∈ selections) : selection.case ∈ selection.valueEnum.cases := by
  induction valueEnums generalizing selections with
  | nil => simp_all [choices]
  | cons valueEnum valueEnums ih =>
      obtain ⟨case, inside, others, othersInside, rfl⟩ := mem_choices_cons.mp member
      rcases List.mem_cons.mp selected with rfl | later
      · exact inside
      · exact ih othersInside later

theorem length_choices (valueEnums : List ValueEnum) :
    (choices valueEnums).length =
      (valueEnums.map fun valueEnum => valueEnum.cases.length).prod := by
  induction valueEnums with
  | nil => rfl
  | cons valueEnum valueEnums ih => simp [choices, List.length_flatMap, ih]

/-- Where the cases of each value enum differ, so do the choices. -/
theorem nodup_choices {valueEnums : List ValueEnum}
    (distinct : ∀ valueEnum ∈ valueEnums, valueEnum.cases.Nodup) : (choices valueEnums).Nodup := by
  induction valueEnums with
  | nil => simp [choices]
  | cons valueEnum valueEnums ih =>
      have others := ih fun other member => distinct other (List.mem_cons_of_mem _ member)
      refine List.nodup_flatMap.mpr ⟨fun case _ => ?_, ?_⟩
      · exact others.map fun first second same => (List.cons.inj same).2
      · refine (distinct valueEnum (by simp)).imp fun apart selections first second => ?_
        obtain ⟨rest, -, rfl⟩ := List.mem_map.mp first
        obtain ⟨rest', -, same⟩ := List.mem_map.mp second
        simp only [List.cons.injEq, Selection.mk.injEq] at same
        exact apart same.1.2.symm

end Selection

/-- Computations that all succeed, one after the other. -/
theorem mapM_eq_ok_of_forall₂ {ε α β : Type} {action : α → Except ε β} {items : List α}
    {values : List β}
    (each : List.Forall₂ (fun item value => action item = .ok value) items values) :
    items.mapM action = .ok values := by
  induction each with
  | nil => rfl
  | cons here _ ih =>
      rw [List.mapM_cons, here, ih]
      rfl

/-- Lists whose items are related one by one, with the numbers of the items. -/
theorem forall₂_zipIdx {α β : Type} {relation : α → β → Prop} {items : List α} {others : List β}
    (related : List.Forall₂ relation items others) (start : Nat) :
    List.Forall₂ (fun item other => relation item.1 other.1 ∧ item.2 = other.2)
      (items.zipIdx start) (others.zipIdx start) := by
  induction related generalizing start with
  | nil => exact .nil
  | cons here _ ih => exact .cons ⟨here, rfl⟩ (ih (start + 1))

namespace Combination

/-- The choices of cases of some value enums, numbered from zero. -/
def chosen (valueEnums : List ValueEnum) : List Combination :=
  (Selection.choices valueEnums).zipIdx.map fun (selections, index) => ⟨index, selections⟩

/-- The digits below the number of cases are the places of the cases, in order. -/
theorem forall₂_range_cases (valueEnum : ValueEnum) :
    List.Forall₂ (fun digit case => valueEnum.cases[digit]? = some case)
      (List.range valueEnum.cases.length) valueEnum.cases := by
  rw [List.forall₂_iff_get]
  refine ⟨List.length_range, ?_⟩
  intro place below inside
  simp [inside]

/-- Every row of an odometer selects cases, and all rows together select all choices, in order. -/
theorem forall₂_select_rows (valueEnums : List ValueEnum) :
    List.Forall₂ (fun digits selections => select valueEnums digits = .ok selections)
      (Odometer.rows (valueEnums.map fun valueEnum => valueEnum.cases.length))
      (Selection.choices valueEnums) := by
  induction valueEnums with
  | nil => exact .cons rfl .nil
  | cons valueEnum valueEnums ih =>
      rw [List.map_cons, Odometer.rows, Selection.choices]
      refine List.rel_flatMap (forall₂_range_cases valueEnum) fun digit case place => ?_
      rw [List.forall₂_map_left_iff, List.forall₂_map_right_iff]
      refine ih.imp fun digits selections selected => ?_
      rw [select, place]
      dsimp only
      rw [selected]
      rfl

theorem forall₂_ofRow_rows (valueEnums : List ValueEnum) :
    List.Forall₂ (fun row combination => ofRow valueEnums row = .ok combination)
      (rows valueEnums) (chosen valueEnums) := by
  rw [rows, chosen, Odometer.combinations_eq_rows, List.forall₂_map_right_iff]
  refine (forall₂_zipIdx (forall₂_select_rows valueEnums) 0).imp ?_
  rintro ⟨digits, index⟩ ⟨selections, _⟩ ⟨selected, rfl⟩
  rw [ofRow, selected]
  rfl

/-- The combinations of some value enums are their choices of cases, numbered from zero.  No digit
is out of place. -/
theorem all_eq_chosen (valueEnums : List ValueEnum) : all valueEnums = .ok (chosen valueEnums) :=
  mapM_eq_ok_of_forall₂ (forall₂_ofRow_rows valueEnums)

end Combination

end ShaderVariants
