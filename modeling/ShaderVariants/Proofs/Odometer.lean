import Mathlib
import ShaderVariants.Odometer

/-!
# Odometers as numerals

After so many steps the wheels of an odometer show the number of steps, written with one digit for
each base and the last one least significant.  The rows that an odometer goes through are therefore
the rows of all digits below the bases, in lexicographic order.
-/

namespace ShaderVariants.Odometer

/-- The digits that write a number over some bases, the last one least significant. -/
def digitsOf : (bases : List Nat) → (number : Nat) → List Nat
  | [], _ => []
  | _ :: bases, number => number / bases.prod :: digitsOf bases (number % bases.prod)

/-- Wheels of some bases that show a number. -/
def wheelsAt : (bases : List Nat) → (number : Nat) → List Wheel
  | [], _ => []
  | base :: bases, number =>
    ⟨base, number / bases.prod⟩ :: wheelsAt bases (number % bases.prod)

/-- The odometer of some bases after some steps. -/
def after (bases : List Nat) (steps : Nat) : Odometer :=
  if steps < bases.prod then ⟨wheelsAt bases steps, false⟩ else ⟨wheelsAt bases 0, true⟩

theorem map_base_wheelsAt (bases : List Nat) (number : Nat) :
    (wheelsAt bases number).map Wheel.base = bases := by
  induction bases generalizing number with
  | nil => rfl
  | cons base bases ih => simp [wheelsAt, ih]

theorem map_digit_wheelsAt (bases : List Nat) (number : Nat) :
    (wheelsAt bases number).map Wheel.digit = digitsOf bases number := by
  induction bases generalizing number with
  | nil => rfl
  | cons base bases ih => simp [wheelsAt, digitsOf, ih]

theorem wheelsAt_zero (bases : List Nat) : wheelsAt bases 0 = bases.map Wheel.zero := by
  induction bases with
  | nil => rfl
  | cons base bases ih => simp [wheelsAt, Wheel.zero, ih]

theorem any_eq_zero_iff (bases : List Nat) : bases.any (· == 0) = decide (bases.prod = 0) := by
  induction bases with
  | nil => rfl
  | cons base bases ih =>
      rw [List.any_cons, ih, List.prod_cons, Bool.eq_iff_iff]
      simp

/-- A new odometer has made no steps. -/
theorem ofBases_eq_after (bases : List Nat) : ofBases bases = after bases 0 := by
  unfold ofBases after
  rw [← wheelsAt_zero, any_eq_zero_iff]
  by_cases none : bases.prod = 0
  · simp [none]
  · simp [none, Nat.pos_of_ne_zero none]

theorem total_after (bases : List Nat) (steps : Nat) : (after bases steps).total = bases.prod := by
  unfold total Odometer.bases
  rw [List.prod_eq_foldl_nat]
  unfold after
  split <;> rw [map_base_wheelsAt]

theorem total_ofBases (bases : List Nat) : (ofBases bases).total = bases.prod := by
  rw [ofBases_eq_after, total_after]

/-- Turning the last wheel on adds one to the number, back to zero from the greatest one. -/
theorem turn_wheelsAt {bases : List Nat} {number : Nat} (below : number < bases.prod) :
    turn (wheelsAt bases number) =
      if number + 1 < bases.prod then (wheelsAt bases (number + 1), false)
      else (wheelsAt bases 0, true) := by
  induction bases generalizing number with
  | nil => simp_all [turn, wheelsAt]
  | cons base bases ih =>
      rw [List.prod_cons] at below ⊢
      have positive : 0 < bases.prod := Nat.pos_of_mul_pos_left (Nat.zero_lt_of_lt below)
      have rest := ih (Nat.mod_lt number positive)
      have whole : bases.prod * (number / bases.prod) + number % bases.prod = number :=
        Nat.div_add_mod number bases.prod
      by_cases low : number % bases.prod + 1 < bases.prod
      · have split : number + 1 =
            bases.prod * (number / bases.prod) + (number % bases.prod + 1) := by omega
        have quotient : (number + 1) / bases.prod = number / bases.prod := by
          rw [split, Nat.mul_add_div positive, Nat.div_eq_of_lt low, Nat.add_zero]
        have remainder : (number + 1) % bases.prod = number % bases.prod + 1 := by
          rw [split, Nat.mul_add_mod, Nat.mod_eq_of_lt low]
        have inside : number + 1 < base * bases.prod := by
          rw [← Nat.div_lt_iff_lt_mul positive, quotient, Nat.div_lt_iff_lt_mul positive]
          exact below
        rw [if_pos low] at rest
        simp [turn, wheelsAt, rest, inside, quotient, remainder]
      · have carry : number + 1 = bases.prod * (number / bases.prod + 1) := by
          rw [Nat.mul_add]
          have bound := Nat.mod_lt number positive
          omega
        have quotient : (number + 1) / bases.prod = number / bases.prod + 1 := by
          rw [carry, Nat.mul_div_cancel_left _ positive]
        have remainder : (number + 1) % bases.prod = 0 := by
          rw [carry, Nat.mul_mod_right]
        have turned : number / bases.prod + 1 < base ↔ number + 1 < base * bases.prod := by
          rw [carry, Nat.mul_comm base, Nat.mul_lt_mul_left positive]
        rw [if_neg low] at rest
        by_cases room : number / bases.prod + 1 < base
        · simp [turn, wheelsAt, rest, room, turned.mp room, quotient, remainder]
        · simp [turn, wheelsAt, rest, room, mt turned.mpr room]

/-- One step leads to the next number, if there is one; an exhausted odometer stays exhausted. -/
theorem step_after (bases : List Nat) (steps : Nat) :
    (after bases steps).step = (decide (steps + 1 < bases.prod), after bases (steps + 1)) := by
  by_cases below : steps < bases.prod
  · have turned := turn_wheelsAt below
    by_cases more : steps + 1 < bases.prod
    · rw [if_pos more] at turned
      simp [after, step, below, more, turned]
    · rw [if_neg more] at turned
      simp [after, step, below, more, turned]
  · have exhausted : ¬steps + 1 < bases.prod := by omega
    simp [after, step, below, exhausted]

theorem advance_after (bases : List Nat) (steps : Nat) :
    (after bases steps).advance = after bases (steps + 1) := by
  rw [advance, step_after]

theorem iterate_advance_ofBases (bases : List Nat) (steps : Nat) :
    advance^[steps] (ofBases bases) = after bases steps := by
  induction steps with
  | zero => exact ofBases_eq_after bases
  | succ steps ih => rw [Function.iterate_succ_apply', ih, advance_after]

theorem exhausted_after (bases : List Nat) (steps : Nat) :
    (after bases steps).exhausted = true ↔ bases.prod ≤ steps := by
  unfold after
  split <;> simp_all

theorem current?_after (bases : List Nat) (steps : Nat) :
    (after bases steps).current? =
      if steps < bases.prod then some (digitsOf bases steps) else none := by
  unfold after current?
  split <;> simp [digits, map_digit_wheelsAt]

/-- Up to `count` rows from some step on are those of the next numbers, as far as there are any. -/
theorem take_after (bases : List Nat) (count steps : Nat) :
    take count (after bases steps) =
      ((List.range' steps (min count (bases.prod - steps))).map (digitsOf bases),
        after bases (steps + min count (bases.prod - steps))) := by
  induction count generalizing steps with
  | zero => simp [take]
  | succ count ih =>
      unfold take
      rw [current?_after, advance_after]
      by_cases below : steps < bases.prod
      · have one : min (count + 1) (bases.prod - steps) =
            min count (bases.prod - (steps + 1)) + 1 := by omega
        have behind : steps + 1 + min count (bases.prod - (steps + 1)) =
            steps + (min count (bases.prod - (steps + 1)) + 1) := by omega
        simp [below, one, ih, behind, List.range'_succ]
      · have none : bases.prod - steps = 0 := by omega
        simp [below, none]

/-- All rows from some step on, up to the exhausted odometer. -/
theorem drain_after (bases : List Nat) (steps : Nat) :
    drain (after bases steps) =
      ((List.range' steps (bases.prod - steps)).map (digitsOf bases),
        after bases (steps + (bases.prod - steps))) := by
  have all : min bases.prod (bases.prod - steps) = bases.prod - steps := by omega
  rw [drain, total_after, take_after, all]

/-- All rows of some bases are the numerals of all numbers below their product. -/
theorem combinations_eq_numerals (bases : List Nat) :
    combinations bases = (List.range bases.prod).map (digitsOf bases) := by
  rw [combinations, ofBases_eq_after, drain_after, Nat.sub_zero, List.range_eq_range']

/-- Rows of digits below the bases, in lexicographic order. -/
def rows : (bases : List Nat) → List (List Nat)
  | [] => [[]]
  | base :: bases => (List.range base).flatMap fun digit => (rows bases).map (digit :: ·)

/-- A range of products is cut into stretches of equal length. -/
theorem range_mul (count width : Nat) :
    List.range (count * width) =
      (List.range count).flatMap fun index => (List.range width).map (index * width + ·) := by
  induction count with
  | zero => simp
  | succ count ih =>
      rw [Nat.succ_mul, List.range_add, ih, List.range_succ, List.flatMap_append]
      simp

theorem map_digitsOf_range (bases : List Nat) :
    (List.range bases.prod).map (digitsOf bases) = rows bases := by
  induction bases with
  | nil => rfl
  | cons base bases ih =>
      rw [List.prod_cons, range_mul, List.map_flatMap, rows, ← ih]
      congr 1
      funext digit
      rw [List.map_map, List.map_map]
      apply List.map_congr_left
      intro number member
      have below : number < bases.prod := List.mem_range.mp member
      have positive : 0 < bases.prod := Nat.zero_lt_of_lt below
      have quotient : (digit * bases.prod + number) / bases.prod = digit := by
        rw [Nat.mul_comm, Nat.mul_add_div positive, Nat.div_eq_of_lt below, Nat.add_zero]
      have remainder : (digit * bases.prod + number) % bases.prod = number := by
        rw [Nat.mul_comm, Nat.mul_add_mod, Nat.mod_eq_of_lt below]
      simp [digitsOf, quotient, remainder]

/-- An odometer goes through all rows in lexicographic order. -/
theorem combinations_eq_rows (bases : List Nat) : combinations bases = rows bases := by
  rw [combinations_eq_numerals, map_digitsOf_range]

/-! ## Numerals -/

/-- The number that digits write over some bases. -/
def valueOf : (bases digits : List Nat) → Nat
  | _ :: bases, digit :: digits => digit * bases.prod + valueOf bases digits
  | _, _ => 0

/-- The digits write the number over the bases: one digit below each base, the last one least
significant. -/
structure IsNumeral (bases digits : List Nat) (number : Nat) : Prop where
  below : List.Forall₂ (· < ·) digits bases
  value : valueOf bases digits = number

theorem isNumeral_digitsOf {bases : List Nat} {number : Nat} (small : number < bases.prod) :
    IsNumeral bases (digitsOf bases number) number := by
  induction bases generalizing number with
  | nil =>
      obtain rfl : number = 0 := by simpa using small
      exact ⟨.nil, rfl⟩
  | cons base bases ih =>
      rw [List.prod_cons] at small
      have positive : 0 < bases.prod := Nat.pos_of_mul_pos_left (Nat.zero_lt_of_lt small)
      have rest := ih (Nat.mod_lt number positive)
      constructor
      · exact .cons ((Nat.div_lt_iff_lt_mul positive).mpr small) rest.below
      · rw [digitsOf, valueOf, rest.value]
        exact Nat.div_add_mod' number bases.prod

/-- What is written with one digit for each base is smaller than their product. -/
theorem valueOf_lt {bases digits : List Nat} (below : List.Forall₂ (· < ·) digits bases) :
    valueOf bases digits < bases.prod := by
  induction below with
  | nil => simp [valueOf]
  | @cons digit base digits bases here _ ih =>
      rw [valueOf, List.prod_cons]
      calc
        digit * bases.prod + valueOf bases digits < digit * bases.prod + bases.prod := by omega
        _ = (digit + 1) * bases.prod := (Nat.succ_mul digit bases.prod).symm
        _ ≤ base * bases.prod := Nat.mul_le_mul_right bases.prod here

/-- A number has one numeral only. -/
theorem IsNumeral.eq_digitsOf {bases digits : List Nat} {number : Nat}
    (numeral : IsNumeral bases digits number) : digits = digitsOf bases number := by
  obtain ⟨below, rfl⟩ := numeral
  induction below with
  | nil => rfl
  | @cons digit base digits bases _ others ih =>
      have small := valueOf_lt others
      have positive : 0 < bases.prod := Nat.zero_lt_of_lt small
      have quotient : (digit * bases.prod + valueOf bases digits) / bases.prod = digit := by
        rw [Nat.mul_comm, Nat.mul_add_div positive, Nat.div_eq_of_lt small, Nat.add_zero]
      have remainder : (digit * bases.prod + valueOf bases digits) % bases.prod =
          valueOf bases digits := by
        rw [Nat.mul_comm, Nat.mul_add_mod, Nat.mod_eq_of_lt small]
      rw [valueOf, digitsOf, quotient, remainder, ← ih]

/-- A smaller number has a numeral that comes first in lexicographic order. -/
theorem lex_digitsOf {bases : List Nat} {first second : Nat} (less : first < second)
    (small : second < bases.prod) :
    List.Lex (· < ·) (digitsOf bases first) (digitsOf bases second) := by
  induction bases generalizing first second with
  | nil => simp_all
  | cons base bases ih =>
      rw [List.prod_cons] at small
      have positive : 0 < bases.prod := Nat.pos_of_mul_pos_left (Nat.zero_lt_of_lt small)
      rcases Nat.lt_or_eq_of_le (Nat.div_le_div_right less.le) with earlier | same
      · exact .rel earlier
      · have remainder : first % bases.prod < second % bases.prod := by
          have whole := Nat.div_add_mod first bases.prod
          have whole' := Nat.div_add_mod second bases.prod
          rw [same] at whole
          omega
        rw [digitsOf, digitsOf, same]
        exact .cons (ih remainder (Nat.mod_lt second positive))

/-- An odometer after some steps.  It is exhausted when it has made as many steps as there are
combinations; before that it shows the numeral of the number of steps.  What is left are the
numerals of this number and of all later ones, in lexicographic order, and whoever goes through
them comes to an end.  A step says whether it has led to a combination. -/
theorem iterate_advance_counts (bases : List Nat) (steps : Nat) :
    let total := (ofBases bases).total
    let odometer := advance^[steps] (ofBases bases)
    total = bases.prod ∧
    (odometer.exhausted = true ↔ total ≤ steps) ∧
    (∀ digits, odometer.current? = some digits ↔ steps < total ∧ IsNumeral bases digits steps) ∧
    List.Forall₂ (IsNumeral bases) odometer.drain.1 (List.range' steps (total - steps)) ∧
    odometer.drain.1.Pairwise (List.Lex (· < ·)) ∧
    odometer.drain.2.exhausted = true ∧
    (∀ count, total - steps ≤ count → odometer.take count = odometer.drain) ∧
    (odometer.step.1 = true ↔ odometer.step.2.exhausted = false) ∧
    (odometer.exhausted = true → odometer.step = (false, odometer) ∧ odometer.current? = none) := by
  intro total odometer
  have number : total = bases.prod := total_ofBases bases
  have reached : odometer = after bases steps := iterate_advance_ofBases bases steps
  have inside : ∀ later ∈ List.range' steps (bases.prod - steps), later < bases.prod := by
    intro later member
    have bounds := List.mem_range'_1.mp member
    omega
  rw [number, reached, drain_after, step_after, current?_after]
  refine ⟨rfl, exhausted_after bases steps, ?_, ?_, ?_, ?_, ?_, ?_, ?_⟩
  · intro digits
    constructor
    · intro shown
      split at shown
      · next small =>
          obtain rfl := Option.some.inj shown
          exact ⟨small, isNumeral_digitsOf small⟩
      · cases shown
    · intro shown
      obtain ⟨small, numeral⟩ := shown
      rw [if_pos small, numeral.eq_digitsOf]
  · rw [List.forall₂_map_left_iff, List.forall₂_same]
    exact fun later member => isNumeral_digitsOf (inside later member)
  · rw [List.pairwise_map]
    refine List.Pairwise.imp_of_mem ?_ List.pairwise_lt_range'
    exact fun _ member less => lex_digitsOf less (inside _ member)
  · exact (exhausted_after bases _).mpr (by omega)
  · intro count enough
    rw [take_after, min_eq_right enough]
  · have exhausted := exhausted_after bases (steps + 1)
    simp [← Bool.not_eq_true, exhausted]
  · intro exhausted
    have none := (exhausted_after bases steps).mp exhausted
    have small : ¬steps < bases.prod := by omega
    have later : ¬steps + 1 < bases.prod := by omega
    simp [after, small, later]

/-- An odometer of six combinations, of which four are behind it, and later all. -/
theorem iterate_advance_counts_six :
    (advance^[4] (ofBases [2, 1, 3])).current? = some [1, 0, 1] ∧
    (advance^[4] (ofBases [2, 1, 3])).take 2 = (advance^[4] (ofBases [2, 1, 3])).drain ∧
    (advance^[6] (ofBases [2, 1, 3])).step = (false, advance^[6] (ofBases [2, 1, 3])) := by
  obtain ⟨-, -, shown, -, -, -, ends, -, -⟩ := iterate_advance_counts [2, 1, 3] 4
  obtain ⟨-, exhausted, -, -, -, -, -, -, stays⟩ := iterate_advance_counts [2, 1, 3] 6
  refine ⟨?_, ?_, ?_⟩
  · exact (shown _).mpr ⟨by decide, ⟨by decide, rfl⟩⟩
  · exact ends 2 (by decide)
  · exact (stays (exhausted.mpr (by decide))).1

end ShaderVariants.Odometer
