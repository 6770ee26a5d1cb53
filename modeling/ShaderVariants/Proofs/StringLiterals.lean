import Mathlib.Data.List.Infix
import ShaderVariants.Text.Escape

/-!
# String literals

How the text between quotation marks is read.  It ends at the first closing marks, where a backslash
takes the character behind it along, and then its escapes are replaced by what they stand for.
Quoted text is read back as the text that was quoted.  A text that is put between marks as it is may
close them early, or hold escapes of its own; which texts do is said here, part by part.
-/

namespace ShaderVariants.Text

/-! ## Where a literal ends -/

namespace StringLiteral

/-- What stands in front of the first closing marks, and what stands behind them. -/
def split? (marks : List Char) : List Char → Option (List Char × List Char)
  | [] => none
  | c :: rest =>
    if marks <+: c :: rest then some ([], (c :: rest).drop marks.length)
    else if c = '\\' then
      match rest with
      | [] => none
      | d :: rest => (split? marks rest).map fun (held, behind) => (c :: d :: held, behind)
    else (split? marks rest).map fun (held, behind) => (c :: held, behind)

/-- The marks of a docstring. -/
def docstringMarks : List Char := ['"', '"', '"']

/-- Marks of a literal: one character, once or several times, and no backslash. -/
structure IsMarks (mark : Char) (marks : List Char) : Prop where
  nonempty : marks ≠ []
  alike : ∀ c ∈ marks, c = mark
  noBackslash : mark ≠ '\\'

variable {mark : Char} {marks : List Char}

theorem isMarks_docstringMarks : IsMarks '"' docstringMarks :=
  ⟨by decide, by simp [docstringMarks], by decide⟩

theorem isMarks_singleton {mark : Char} (noBackslash : mark ≠ '\\') : IsMarks mark [mark] :=
  ⟨by simp, by simp, noBackslash⟩

/-- Marks that stand in front of a text stand in front of it up to any other character. -/
theorem IsMarks.prefix_of_prefix_append (isMarks : IsMarks mark marks) {cs rest : List Char}
    {c : Char} (other : c ≠ mark) (inFront : marks <+: cs ++ c :: rest) : marks <+: cs := by
  have outside : c ∉ marks := fun member => other (isMarks.alike c member)
  have there : cs ++ [c] <+: cs ++ c :: rest := by simp
  rcases List.prefix_or_prefix_of_prefix inFront there with shorter | longer
  · rcases List.prefix_concat_iff.mp shorter with whole | part
    · exact (outside (by simp [whole])).elim
    · exact part
  · exact (outside (longer.subset (by simp))).elim

theorem IsMarks.not_prefix_cons (isMarks : IsMarks mark marks) {c : Char} (other : c ≠ mark)
    (rest : List Char) : ¬marks <+: c :: rest := by
  intro inFront
  have empty : marks <+: [] := isMarks.prefix_of_prefix_append other inFront
  exact isMarks.nonempty (List.prefix_nil.mp empty)

theorem split?_of_prefix {c : Char} {rest : List Char} (atMarks : marks <+: c :: rest) :
    split? marks (c :: rest) = some ([], (c :: rest).drop marks.length) := by
  rw [split?.eq_def]
  exact if_pos atMarks

theorem split?_backslash {c : Char} {rest : List Char} (away : ¬marks <+: '\\' :: c :: rest) :
    split? marks ('\\' :: c :: rest) =
      (split? marks rest).map fun (held, behind) => ('\\' :: c :: held, behind) := by
  rw [split?.eq_def]
  exact (if_neg away).trans (if_pos rfl)

theorem split?_ordinary {c : Char} {rest : List Char} (away : ¬marks <+: c :: rest)
    (plain : c ≠ '\\') :
    split? marks (c :: rest) =
      (split? marks rest).map fun (held, behind) => (c :: held, behind) := by
  rw [split?.eq_def]
  exact (if_neg away).trans (if_neg plain)

theorem split?_marks_append (isMarks : IsMarks mark marks) (rest : List Char) :
    split? marks (marks ++ rest) = some ([], rest) := by
  obtain ⟨first, others, rfl⟩ := List.exists_cons_of_ne_nil isMarks.nonempty
  have atMarks : first :: others <+: first :: (others ++ rest) :=
    List.prefix_append (first :: others) rest
  rw [List.cons_append, split?_of_prefix atMarks]
  simp

theorem eq_append_of_split? {cs held behind : List Char}
    (closed : split? marks cs = some (held, behind)) : cs = held ++ (marks ++ behind) := by
  fun_induction split? marks cs generalizing held with
  | case1 => cases closed
  | case2 c cs atMarks =>
      obtain ⟨rfl, rfl⟩ := Prod.mk.inj (Option.some.inj closed)
      obtain ⟨rest, same⟩ := atMarks
      simp [← same]
  | case3 => cases closed
  | case4 c cs away ih =>
      obtain ⟨⟨later, behind'⟩, found, same⟩ := Option.map_eq_some_iff.mp closed
      obtain ⟨rfl, rfl⟩ := Prod.mk.inj same
      rw [ih found]
      rfl
  | case5 c cs away plain ih =>
      obtain ⟨⟨later, behind'⟩, found, same⟩ := Option.map_eq_some_iff.mp closed
      obtain ⟨rfl, rfl⟩ := Prod.mk.inj same
      rw [ih found]
      rfl

/-- Whatever follows a text that is closed, no earlier marks appear in front of it. -/
theorem prefix_of_split? {cs held behind : List Char}
    (closed : split? marks cs = some (held, behind)) {rest : List Char}
    (inFront : marks <+: cs ++ rest) : marks <+: cs := by
  have longEnough : marks.length ≤ cs.length := by
    simp only [eq_append_of_split? closed, List.length_append]
    omega
  rcases List.prefix_or_prefix_of_prefix inFront (List.prefix_append cs rest) with here | longer
  · exact here
  · exact (longer.eq_of_length_le longEnough) ▸ List.prefix_rfl

/-- A text with closing marks of its own is closed by these, whatever follows. -/
theorem split?_append_of_some {cs held behind : List Char}
    (closed : split? marks cs = some (held, behind)) (rest : List Char) :
    split? marks (cs ++ rest) = some (held, behind ++ rest) := by
  have inside : marks <+: cs ++ rest → marks <+: cs := prefix_of_split? closed
  fun_induction split? marks cs generalizing held with
  | case1 => cases closed
  | case2 c cs atMarks =>
      obtain ⟨rfl, rfl⟩ := Prod.mk.inj (Option.some.inj closed)
      have stillAtMarks : marks <+: c :: (cs ++ rest) := atMarks.trans (List.prefix_append _ _)
      rw [List.cons_append, split?_of_prefix stillAtMarks,
        ← List.drop_append_of_le_length atMarks.length_le]
      rfl
  | case3 => cases closed
  | case4 c cs away ih =>
      obtain ⟨⟨later, behind'⟩, found, same⟩ := Option.map_eq_some_iff.mp closed
      obtain ⟨rfl, rfl⟩ := Prod.mk.inj same
      have stillAway : ¬marks <+: '\\' :: c :: (cs ++ rest) := fun inFront => away (inside inFront)
      rw [List.cons_append, List.cons_append, split?_backslash stillAway,
        ih found (prefix_of_split? found)]
      rfl
  | case5 c cs away plain ih =>
      obtain ⟨⟨later, behind'⟩, found, same⟩ := Option.map_eq_some_iff.mp closed
      obtain ⟨rfl, rfl⟩ := Prod.mk.inj same
      have stillAway : ¬marks <+: c :: (cs ++ rest) := fun inFront => away (inside inFront)
      rw [List.cons_append, split?_ordinary stillAway plain, ih found (prefix_of_split? found)]
      rfl

/-- A text that a literal takes in as it is, whatever follows. -/
def PassedOver (marks front : List Char) : Prop :=
  ∀ rest, split? marks (front ++ rest) =
    (split? marks rest).map fun (held, behind) => (front ++ held, behind)

namespace PassedOver

theorem nil : PassedOver marks [] := by
  intro rest
  simp

theorem append {first second : List Char} (here : PassedOver marks first)
    (there : PassedOver marks second) : PassedOver marks (first ++ second) := by
  intro rest
  rw [List.append_assoc, here, there, Option.map_map]
  simp [Function.comp_def]

theorem backslash (isMarks : IsMarks mark marks) (c : Char) : PassedOver marks ['\\', c] := by
  intro rest
  exact split?_backslash (isMarks.not_prefix_cons isMarks.noBackslash.symm (c :: rest))

theorem singleton (isMarks : IsMarks mark marks) {c : Char} (other : c ≠ mark)
    (plain : c ≠ '\\') : PassedOver marks [c] := by
  intro rest
  exact split?_ordinary (isMarks.not_prefix_cons other rest) plain

/-- A text without marks and backslashes. -/
theorem of_notMem (isMarks : IsMarks mark marks) {front : List Char} (noMark : mark ∉ front)
    (noBackslash : '\\' ∉ front) : PassedOver marks front := by
  induction front with
  | nil => exact nil
  | cons c front ih =>
      rw [List.mem_cons, not_or] at noMark noBackslash
      have first := singleton isMarks (Ne.symm noMark.1) (Ne.symm noBackslash.1)
      exact first.append (ih noMark.2 noBackslash.2)

/-- A text without closing marks of its own, together with a character behind it that is no mark
and no backslash. -/
theorem of_split?_eq_none (isMarks : IsMarks mark marks) {cs : List Char}
    (notClosed : split? marks cs = none) {c : Char} (other : c ≠ mark) (plain : c ≠ '\\') :
    PassedOver marks (cs ++ [c]) := by
  fun_induction split? marks cs with
  | case1 => exact singleton isMarks other plain
  | case2 d cs atMarks => cases notClosed
  | case3 away => exact backslash isMarks c
  | case4 d cs away ih =>
      exact (backslash isMarks d).append (ih (Option.map_eq_none_iff.mp notClosed))
  | case5 d cs away ordinary ih =>
      have behind := ih (Option.map_eq_none_iff.mp notClosed)
      intro rest
      have stillAway : ¬marks <+: d :: (cs ++ [c] ++ rest) := fun inFront => by
        rw [List.append_assoc] at inFront
        exact away (isMarks.prefix_of_prefix_append other inFront)
      rw [List.cons_append, List.cons_append, split?_ordinary stillAway ordinary, behind rest,
        Option.map_map]
      rfl

theorem split?_eq_none_iff {front : List Char} (passed : PassedOver marks front)
    (rest : List Char) : split? marks (front ++ rest) = none ↔ split? marks rest = none := by
  rw [passed, Option.map_eq_none_iff]

theorem split?_append_marks {front : List Char} (isMarks : IsMarks mark marks)
    (passed : PassedOver marks front) (rest : List Char) :
    split? marks (front ++ (marks ++ rest)) = some (front, rest) := by
  rw [passed, split?_marks_append isMarks]
  simp

end PassedOver

/-- Two texts with a character between them that is no mark and no backslash have closing marks
exactly when one of them has. -/
theorem split?_append_cons_eq_none_iff (isMarks : IsMarks mark marks) {c : Char} (other : c ≠ mark)
    (plain : c ≠ '\\') (cs rest : List Char) :
    split? marks (cs ++ c :: rest) = none ↔ split? marks cs = none ∧ split? marks rest = none := by
  cases closed : split? marks cs with
  | none =>
      have passed := PassedOver.of_split?_eq_none isMarks closed other plain
      have split := passed.split?_eq_none_iff rest
      rw [List.append_assoc, List.singleton_append] at split
      simpa using split
  | some both =>
      obtain ⟨held, behind⟩ := both
      simp [split?_append_of_some closed]

/-- A literal whose text ends with a character that is no mark and no backslash is closed by the
marks behind that text exactly when there are no closing marks in the text. -/
theorem split?_eq_content_iff (isMarks : IsMarks mark marks) {c : Char} (other : c ≠ mark)
    (plain : c ≠ '\\') (cs rest : List Char) :
    split? marks (cs ++ [c] ++ (marks ++ rest)) = some (cs ++ [c], rest) ↔
      split? marks cs = none := by
  constructor
  · intro closed
    cases early : split? marks cs with
    | none => rfl
    | some both =>
        obtain ⟨held, behind⟩ := both
        rw [List.append_assoc, split?_append_of_some early] at closed
        obtain ⟨tooLong, -⟩ := Prod.mk.inj (Option.some.inj closed)
        have length := congrArg List.length (eq_append_of_split? early)
        simp [tooLong] at length
  · intro notClosed
    exact (PassedOver.of_split?_eq_none isMarks notClosed other plain).split?_append_marks
      isMarks rest

end StringLiteral

/-! ## Escapes -/

namespace Escape

/-- Characters that a backslash in front of them makes an escape. -/
def isEscaped (c : Char) : Bool :=
  c = '\n' || isOctal c || c = 'N' || (ofLetter? c).isSome || (hexWidth? c).isSome

/-- Some backslash of a text begins an escape. -/
def hasEscape : List Char → Bool
  | [] => false
  | c :: rest =>
    if c = '\\' then
      match rest with
      | [] => false
      | d :: rest => isEscaped d || hasEscape rest
    else hasEscape rest

theorem hasEscape_backslash (c : Char) (rest : List Char) :
    hasEscape ('\\' :: c :: rest) = (isEscaped c || hasEscape rest) := by
  rw [hasEscape.eq_def]
  exact if_pos rfl

theorem hasEscape_ordinary {c : Char} (plain : c ≠ '\\') (rest : List Char) :
    hasEscape (c :: rest) = hasEscape rest := by
  rw [hasEscape.eq_def]
  exact if_neg plain

theorem hasEscape_append_of_notMem {front : List Char} (noBackslash : '\\' ∉ front)
    (rest : List Char) : hasEscape (front ++ rest) = hasEscape rest := by
  induction front with
  | nil => rfl
  | cons c front ih =>
      rw [List.mem_cons, not_or] at noBackslash
      rw [List.cons_append, hasEscape_ordinary (Ne.symm noBackslash.1), ih noBackslash.2]

/-- Two texts with a character between them that no backslash changes have an escape exactly when
one of them has. -/
theorem hasEscape_append_cons {c : Char} (plain : c ≠ '\\') (unchanged : isEscaped c = false)
    (cs rest : List Char) :
    hasEscape (cs ++ c :: rest) = (hasEscape cs || hasEscape rest) := by
  fun_induction hasEscape cs with
  | case1 => exact hasEscape_ordinary plain rest
  | case2 =>
      rw [List.singleton_append, hasEscape_backslash, unchanged]
  | case3 d cs ih =>
      rw [List.cons_append, List.cons_append, hasEscape_backslash, ih, Bool.or_assoc]
  | case4 d cs ordinary ih =>
      rw [List.cons_append, hasEscape_ordinary ordinary, ih]

theorem read_of_not_isEscaped {c : Char} (unchanged : isEscaped c = false) (rest : List Char) :
    read c rest = .ok (['\\', c], 0) := by
  simp only [isEscaped, Bool.or_eq_false_iff, decide_eq_false_iff_not, Option.isSome_eq_false_iff,
    Option.isNone_iff_eq_none] at unchanged
  obtain ⟨⟨⟨⟨noNewline, noOctal⟩, noName⟩, noLetter⟩, noWidth⟩ := unchanged
  simp [read, noNewline, noOctal, noName, noLetter, noWidth]

theorem length_le_one_of_readName {rest cs : List Char} {taken : Nat}
    (answered : readName rest = .ok (cs, taken)) : cs.length ≤ 1 := by
  unfold readName at answered
  split at answered
  · dsimp only at answered
    split at answered
    · cases answered
    · split at answered
      · cases answered
        exact Nat.le_refl 1
      · cases answered
  · cases answered

/-- An escape stands for one character at most. -/
theorem length_le_one_of_read {c : Char} (escaped : isEscaped c = true) {rest cs : List Char}
    {taken : Nat} (answered : read c rest = .ok (cs, taken)) : cs.length ≤ 1 := by
  unfold read at answered
  by_cases newline : c = '\n'
  · rw [if_pos newline] at answered
    cases answered
    exact Nat.zero_le 1
  rw [if_neg newline] at answered
  by_cases octal : isOctal c = true
  · rw [if_pos octal] at answered
    dsimp only at answered
    split at answered
    · cases answered
      exact Nat.le_refl 1
    · cases answered
  rw [if_neg octal] at answered
  by_cases name : c = 'N'
  · rw [if_pos name] at answered
    exact length_le_one_of_readName answered
  rw [if_neg name] at answered
  split at answered
  · cases answered
    exact Nat.le_refl 1
  · rename_i noLetter noWidth
    simp [isEscaped, newline, octal, name, noLetter, noWidth] at escaped
  · split at answered
    · cases answered
    · split at answered
      · cases answered
        exact Nat.le_refl 1
      · cases answered

theorem decodeChars_backslash (c : Char) (rest : List Char) :
    decodeChars ('\\' :: c :: rest) =
      match read c rest with
      | .error problem => .error problem
      | .ok (cs, taken) => (cs ++ ·) <$> decodeChars (rest.drop taken) := by
  rw [decodeChars.eq_def]
  rfl

theorem decodeChars_ordinary {c : Char} (plain : c ≠ '\\') (rest : List Char) :
    decodeChars (c :: rest) = (c :: ·) <$> decodeChars rest := by
  rw [decodeChars.eq_4]
  · intro here
    exact fun _ => plain here
  · intro first others here
    exact fun _ => plain here

theorem exists_of_map_eq_ok {front out : List Char} {answer : Except Problem (List Char)}
    (decoded : (front ++ ·) <$> answer = .ok out) :
    ∃ rest, answer = .ok rest ∧ out = front ++ rest := by
  cases answer with
  | error problem => cases decoded
  | ok rest => exact ⟨rest, rfl, (Except.ok.inj decoded).symm⟩

/-- What a text stands for has as many characters as the text, or fewer where it has an escape. -/
theorem length_of_decodeChars {cs out : List Char} (decoded : decodeChars cs = .ok out) :
    out.length ≤ cs.length ∧ (hasEscape cs = true → out.length < cs.length) := by
  fun_induction decodeChars cs generalizing out with
  | case1 =>
      cases decoded
      simp [hasEscape]
  | case2 =>
      cases decoded
      simp [hasEscape]
  | case3 => cases decoded
  | case4 c rest cs taken answered ih =>
      obtain ⟨later, behind, rfl⟩ := exists_of_map_eq_ok decoded
      obtain ⟨shorter, -⟩ := ih behind
      rw [List.length_drop] at shorter
      rw [hasEscape_backslash, List.length_append, List.length_cons, List.length_cons]
      by_cases escaped : isEscaped c = true
      · have few := length_le_one_of_read escaped answered
        constructor
        · omega
        · intro _
          omega
      · rw [Bool.not_eq_true] at escaped
        rw [read_of_not_isEscaped escaped] at answered
        obtain ⟨rfl, rfl⟩ := Prod.mk.inj (Except.ok.inj answered)
        have fewer := (ih behind).2
        simp only [escaped, Bool.false_or, List.drop_zero, List.length_cons,
          List.length_nil] at fewer ⊢
        constructor
        · omega
        · intro later
          have := fewer later
          omega
  | case5 c rest noEnd noPair ih =>
      obtain ⟨later, behind, rfl⟩ : ∃ later, decodeChars rest = .ok later ∧ out = [c] ++ later :=
        exists_of_map_eq_ok decoded
      obtain ⟨shorter, fewer⟩ := ih behind
      have plain : c ≠ '\\' := by
        rintro rfl
        cases rest with
        | nil => exact noEnd rfl rfl
        | cons d rest => exact noPair d rest rfl rfl
      rw [hasEscape_ordinary plain]
      simp only [List.length_append, List.length_cons, List.length_nil]
      constructor
      · omega
      · intro inside
        have := fewer inside
        omega

/-- A text without escapes stands for itself. -/
theorem decodeChars_of_not_hasEscape {cs : List Char} (noEscape : hasEscape cs = false) :
    decodeChars cs = .ok cs := by
  fun_induction hasEscape cs with
  | case1 => exact decodeChars.eq_1
  | case2 => exact decodeChars.eq_2
  | case3 c rest ih =>
      rw [Bool.or_eq_false_iff] at noEscape
      rw [decodeChars_backslash, read_of_not_isEscaped noEscape.1]
      simp only [List.drop_zero, ih noEscape.2]
      rfl
  | case4 c rest ordinary ih =>
      rw [decodeChars_ordinary ordinary, ih noEscape]
      rfl

theorem decodeChars_eq_self_iff (cs : List Char) :
    decodeChars cs = .ok cs ↔ hasEscape cs = false := by
  constructor
  · intro decoded
    have shorter := (length_of_decodeChars decoded).2
    rw [← Bool.not_eq_true]
    intro escaped
    exact absurd (shorter escaped) (Nat.lt_irrefl _)
  · exact decodeChars_of_not_hasEscape

theorem decodeChars_append_of_notMem {front : List Char} (noBackslash : '\\' ∉ front)
    (rest : List Char) : decodeChars (front ++ rest) = (front ++ ·) <$> decodeChars rest := by
  induction front with
  | nil => simp
  | cons c front ih =>
      rw [List.mem_cons, not_or] at noBackslash
      rw [List.cons_append, decodeChars_ordinary (Ne.symm noBackslash.1), ih noBackslash.2]
      simp

end Escape

end ShaderVariants.Text
