import ShaderVariants.Name.Usable

/-!
# Characters of usable names

A usable name is an identifier, so that no punctuation stands in it.  Texts that are put together
from usable names and punctuation can therefore be taken apart again in one way only.  Two
identifiers behind each other are an identifier.
-/

namespace ShaderVariants

namespace Text

theorem isIdentifierPart_of_mem {text : String} (identifier : isIdentifier text = true) {c : Char}
    (member : c ∈ text.toList) : isIdentifierPart c = true := by
  unfold isIdentifier at identifier
  cases characters : text.toList with
  | nil => simp [characters] at member
  | cons first rest =>
      simp only [characters, Bool.and_eq_true, List.all_eq_true] at identifier
      rw [characters] at member
      rcases List.mem_cons.mp member with rfl | later
      · simp [isIdentifierPart, identifier.1]
      · exact identifier.2 c later

theorem all_isIdentifierPart {text : String} (identifier : isIdentifier text = true) :
    text.toList.all isIdentifierPart = true :=
  List.all_eq_true.mpr fun _ member => isIdentifierPart_of_mem identifier member

theorem notMem_of_isIdentifier {text : String} (identifier : isIdentifier text = true) {c : Char}
    (outside : isIdentifierPart c = false) : c ∉ text.toList := by
  intro member
  rw [isIdentifierPart_of_mem identifier member] at outside
  cases outside

theorem toList_ne_nil_of_isIdentifier {text : String} (identifier : isIdentifier text = true) :
    text.toList ≠ [] := by
  intro empty
  simp [isIdentifier, empty] at identifier

theorem exists_cons_of_isIdentifier {text : String} (identifier : isIdentifier text = true) :
    ∃ first rest, text.toList = first :: rest ∧ isIdentifierStart first = true := by
  unfold isIdentifier at identifier
  cases characters : text.toList with
  | nil => simp [characters] at identifier
  | cons first rest =>
      simp only [characters, Bool.and_eq_true] at identifier
      exact ⟨first, rest, rfl, identifier.1⟩

/-- Two identifiers behind each other are an identifier. -/
theorem isIdentifier_append {first second : String} (firstIdentifier : isIdentifier first = true)
    (secondIdentifier : isIdentifier second = true) : isIdentifier (first ++ second) = true := by
  have parts : second.toList.all isIdentifierPart = true :=
    List.all_eq_true.mpr fun _ member => isIdentifierPart_of_mem secondIdentifier member
  unfold isIdentifier at firstIdentifier ⊢
  rw [String.toList_append]
  cases characters : first.toList with
  | nil => simp [characters] at firstIdentifier
  | cons initial rest =>
      simp only [characters, Bool.and_eq_true] at firstIdentifier
      simp only [List.cons_append, List.all_append, Bool.and_eq_true]
      exact ⟨firstIdentifier.1, firstIdentifier.2, parts⟩

end Text

namespace Name

theorem usable_iff {name : String} :
    Usable name ↔
      Text.isIdentifier name = true ∧ Text.isNormal name = true ∧ name ∉ keywords ∧
        name.toList.head? ≠ some '_' := by
  unfold Usable problem?
  cases Text.isIdentifier name <;> cases Text.isNormal name <;>
    by_cases keyword : name ∈ keywords <;>
    by_cases underscore : name.toList.head? = some '_' <;>
    simp [keyword, underscore]

theorem Usable.isIdentifier {name : String} (usable : Usable name) :
    Text.isIdentifier name = true :=
  (usable_iff.mp usable).1

theorem Usable.isNormal {name : String} (usable : Usable name) : Text.isNormal name = true :=
  (usable_iff.mp usable).2.1

theorem Usable.notMem_keywords {name : String} (usable : Usable name) : name ∉ keywords :=
  (usable_iff.mp usable).2.2.1

theorem Usable.head?_ne {name : String} (usable : Usable name) :
    name.toList.head? ≠ some '_' :=
  (usable_iff.mp usable).2.2.2

theorem Usable.toList_ne_nil {name : String} (usable : Usable name) : name.toList ≠ [] :=
  Text.toList_ne_nil_of_isIdentifier usable.isIdentifier

theorem Usable.colon_notMem {name : String} (usable : Usable name) : ':' ∉ name.toList :=
  Text.notMem_of_isIdentifier usable.isIdentifier (by decide)

theorem Usable.comma_notMem {name : String} (usable : Usable name) : ',' ∉ name.toList :=
  Text.notMem_of_isIdentifier usable.isIdentifier (by decide)

theorem Usable.leftParen_notMem {name : String} (usable : Usable name) : '(' ∉ name.toList :=
  Text.notMem_of_isIdentifier usable.isIdentifier (by decide)

end Name

/-- Texts in front of the first separator are equal when the whole texts are. -/
theorem append_separator_inj {α : Type} {separator : α} {first second left right : List α}
    (outside : separator ∉ first) (outside' : separator ∉ second)
    (same : first ++ separator :: left = second ++ separator :: right) :
    first = second ∧ left = right := by
  induction first generalizing second with
  | nil =>
      cases second with
      | nil => simpa using same
      | cons item second =>
          simp only [List.nil_append, List.cons_append, List.cons.injEq] at same
          simp [same.1] at outside'
  | cons item first ih =>
      cases second with
      | nil =>
          simp only [List.nil_append, List.cons_append, List.cons.injEq] at same
          simp [same.1] at outside
      | cons item' second =>
          simp only [List.mem_cons, not_or] at outside outside'
          simp only [List.cons_append, List.cons.injEq] at same
          obtain ⟨equal, rest⟩ := ih outside.2 outside'.2 same.2
          exact ⟨by rw [same.1, equal], rest⟩

end ShaderVariants
