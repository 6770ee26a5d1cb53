import ShaderVariants.CommandLine.Terminal
import ShaderVariants.Path
import ShaderVariants.Proofs.Outcome

/-!
# Announcements

A file that has been written is announced in marked text, where brackets in its path count as tags.
The terminal announces a path without an opening bracket in any case.
-/

namespace ShaderVariants

namespace Text.Markup

theorem tagContent?_eq_none {cs : List Char} (noBracket : '[' ∉ cs) : tagContent? cs = none := by
  unfold tagContent?
  split
  · exact (noBracket List.mem_cons_self).elim
  · rfl

theorem escapedTag?_eq_none {cs : List Char} (noBracket : '[' ∉ cs) :
    escapedTag? cs = none :=
  Option.map_eq_none_iff.mpr
    (tagContent?_eq_none fun inside => noBracket (List.mem_of_mem_drop inside))

/-- A text without an opening bracket has no tags. -/
theorem partsFrom_eq_textPart {cs : List Char} (noBracket : '[' ∉ cs) (position : Nat)
    (before : List Char) : partsFrom position before cs = textPart (before.reverse ++ cs) := by
  induction cs generalizing position before with
  | nil => simp [partsFrom]
  | cons c cs ih =>
      have later : '[' ∉ cs := fun inside => noBracket (List.mem_cons_of_mem _ inside)
      rw [partsFrom, escapedTag?_eq_none noBracket]
      dsimp only
      rw [ih later, List.reverse_cons, List.append_assoc, List.singleton_append]

/-- A tag stands between brackets, and begins as tags do. -/
theorem escapedTag?_tag {content : List Char} (begins : content.head?.any beginsTag = true)
    (noBracket : content.all (fun c => c ≠ '[' && c ≠ ']') = true) (rest : List Char) :
    escapedTag? ('[' :: (content ++ ']' :: rest)) = some (0, content) := by
  have taken : (content ++ ']' :: rest).takeWhile (fun c => c ≠ '[' && c ≠ ']') = content := by
    rw [List.takeWhile_append_of_pos (List.all_eq_true.mp noBracket),
      List.takeWhile_cons_of_neg (by simp), List.append_nil]
  have found : tagContent? ('[' :: (content ++ ']' :: rest)) = some content := by
    simp only [tagContent?, taken, begins]
    simp
  have unescaped : ('[' :: (content ++ ']' :: rest)).takeWhile (fun c => c = '\\') = [] :=
    List.takeWhile_cons_of_neg (by decide)
  unfold escapedTag?
  rw [unescaped]
  exact congrArg (Option.map _) found

theorem partsFrom_tag {content : List Char} (begins : content.head?.any beginsTag = true)
    (noBracket : content.all (fun c => c ≠ '[' && c ≠ ']') = true) (position : Nat)
    (before rest : List Char) :
    partsFrom position before ('[' :: (content ++ ']' :: rest)) =
      textPart before.reverse ++ tagParts position 0 content ++
        partsFrom (position + (content.length + 2)) [] rest := by
  have behind : ('[' :: (content ++ ']' :: rest)).drop (content.length + 2) = rest := by
    simp
  rw [partsFrom, escapedTag?_tag begins noBracket]
  simp only [Nat.zero_add, behind]

theorem follow_begin {name : List Char} (noSlash : name.head? ≠ some '/')
    (openTags : List String) (parameters : Option (List Char)) (position : Nat) :
    Tag.follow openTags ⟨name, parameters⟩ position =
      .ok (Style.normalName name :: openTags) := by
  unfold Tag.follow
  split
  · next same =>
      obtain rfl := same
      exact (noSlash rfl).elim
  · rfl

/-- A tag closes what a tag of the same name has opened last. -/
theorem follow_end {name : List Char} (nonblank : (trim name).isEmpty = false)
    (openTags : List String) (parameters : Option (List Char)) (position : Nat) :
    Tag.follow (Style.normalName name :: openTags) ⟨'/' :: name, parameters⟩ position =
      .ok openTags := by
  simp [Tag.follow, nonblank]

/-- Texts behind a tag and behind its end are shown. -/
theorem exists_plainParts (name : List Char) (noSlash : name.head? ≠ some '/')
    (nonblank : (trim name).isEmpty = false) (inside behind : List Char) (begins ends : Nat) :
    ∃ shown, plainParts [] [.tag ⟨name, none⟩ begins, .text inside, .tag ⟨'/' :: name, none⟩ ends,
      .text behind] = .ok shown := by
  simp only [plainParts, follow_begin noSlash, follow_end nonblank, bind, Except.bind, Functor.map,
    Except.map, Except.ok.injEq, exists_eq']

end Text.Markup

/-- What is said of a file that has been written. -/
def announcement (path : Path) : String := s!"[green]✓[/green] Generated {path}"

theorem exists_plain_announcement {path : Path} (noBracket : '[' ∉ path.toString.toList) :
    ∃ text, Text.Markup.plain (announcement path) = .ok text := by
  let green : List Char := ['g', 'r', 'e', 'e', 'n']
  let behind : List Char := " Generated ".toList ++ path.toString.toList
  have split : (announcement path).toList =
      '[' :: (green ++ ']' :: '✓' :: '[' :: ('/' :: green ++ ']' :: behind)) := by
    change ("[green]✓[/green] Generated " ++ path.toString).toList = _
    rw [String.toList_append]
    rfl
  have noTag : '[' ∉ behind := by
    intro inside
    rcases List.mem_append.mp inside with words | name
    · exact absurd words (by decide)
    · exact noBracket name
  have parts : Text.Markup.parts (announcement path).toList =
      [.tag ⟨green, none⟩ 0, .text ['✓'], .tag ⟨'/' :: green, none⟩ 8, .text behind] := by
    have mark (rest : List Char) : Text.Markup.escapedTag? ('✓' :: rest) = none := by
      simp [Text.Markup.escapedTag?, Text.Markup.tagContent?]
    unfold Text.Markup.parts
    rw [split, Text.Markup.partsFrom_tag (by decide) (by decide), Text.Markup.partsFrom, mark]
    dsimp only
    rw [Text.Markup.partsFrom_tag (by decide) (by decide),
      Text.Markup.partsFrom_eq_textPart noTag]
    rfl
  obtain ⟨shown, plain⟩ := Text.Markup.exists_plainParts green (by decide) (by decide) ['✓']
    behind 0 8
  unfold Text.Markup.plain
  rw [parts, plain]
  exact ⟨_, rfl⟩

theorem CommandLine.exists_terminal_announcement {path : Path}
    (noBracket : '[' ∉ path.toString.toList) :
    ∃ text, terminal.text (announcement path) = .ok text := by
  obtain ⟨plain, shown⟩ := exists_plain_announcement noBracket
  unfold terminal
  dsimp only
  rw [shown]
  exact ⟨_, rfl⟩

end ShaderVariants
