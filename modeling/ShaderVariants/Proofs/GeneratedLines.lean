import ShaderVariants.Proofs.CaseTables

/-!
# Lines of generated modules

The text of a generated module is a list of lines, one section after the other.  For a module that
follows the rules the emitter has no choice: whatever it lets pass is what the declarations say,
with the keys and sources that it was given.
-/

namespace ShaderVariants

namespace Generated

/-- Sections put together as texts are the text of all their lines. -/
theorem intercalate_sections {sections : List (List String)}
    (nonempty : ∀ lines ∈ sections, lines ≠ []) :
    String.intercalate "\n\n\n" (sections.map (String.intercalate "\n")) =
      String.intercalate "\n" (List.intercalate ["", ""] sections) := by
  induction sections with
  | nil => rfl
  | cons first sections ih =>
      rw [List.forall_mem_cons] at nonempty
      cases sections with
      | nil => simp
      | cons second sections =>
          have others := ih nonempty.2
          have something : List.intercalate ["", ""] (second :: sections) ≠ [] := by
            cases sections <;> simp [nonempty.2]
          rw [List.map_cons, String.intercalate_cons_of_ne_nil (by simp), others,
            List.intercalate_cons_cons, List.append_assoc,
            String.intercalate_append_of_ne_nil nonempty.1 (by simp),
            String.intercalate_append_of_ne_nil (by simp) something]
          have between : "\n" ++ (String.intercalate "\n" ["", ""] ++ "\n") = "\n\n\n" := by
            decide +kernel
          simp only [← between, String.append_assoc]

theorem intercalate_cons_eq {α : Type} (separator first : List α) (others : List (List α)) :
    List.intercalate separator (first :: others) =
      first ++ others.flatMap (separator ++ ·) := by
  induction others generalizing first with
  | nil => simp
  | cons second others ih =>
      rw [List.intercalate_cons_of_ne_nil (by simp), ih, List.flatMap_cons, List.append_assoc,
        List.append_assoc]

/-- What stands between the empty lines of a block stands in the whole block. -/
theorem infix_of_infix_block {α : Type} {lines : α → List String} {items : List α} {item : α}
    (inside : item ∈ items) {before : List String}
    (block : (items.flatMap fun item => "" :: "" :: lines item) <:+: before) :
    lines item <:+: before := by
  have own : lines item <:+: "" :: "" :: lines item := ⟨["", ""], [], by simp⟩
  have whole : "" :: "" :: lines item <:+: items.flatMap fun item => "" :: "" :: lines item :=
    List.infix_of_mem_flatten (List.mem_map.mpr ⟨item, inside, rfl⟩)
  exact (own.trans whole).trans block

/-- Some lines stand in a text behind each other, from the beginning of a line on. -/
def HasLines (text : List Char) (lines : List String) : Prop :=
  ∃ before after, text = before ++ (lines.flatMap (fun line => line.toList ++ ['\n']) ++ after) ∧
    ∀ c ∈ before.getLast?, c = '\n'

namespace Module

/-- The lines of the module. -/
def lines (module : Module) : List String := List.intercalate ["", ""] module.sections

theorem text_eq_lines (module : Module) :
    module.text = String.intercalate "\n" module.lines ++ "\n" := by
  have nonempty : ∀ lines ∈ module.sections, lines ≠ [] := by
    simp only [sections, List.forall_mem_append, List.forall_mem_cons, List.forall_mem_map]
    refine ⟨⟨⟨?_, ?_, List.forall_mem_nil _⟩, ?_⟩, ?_⟩
    · simp [headerLines]
    · simp [exportLines]
    · simp [EnumClass.lines]
    · simp [Family.lines, Family.baseLines]
  rw [text, lines, intercalate_sections nonempty]

theorem lines_eq (module : Module) :
    module.lines = module.headerLines ++ ["", ""] ++ module.exportLines
      ++ module.enumClasses.flatMap (fun enumClass => "" :: "" :: enumClass.lines)
      ++ module.families.flatMap (fun family => "" :: "" :: family.lines) := by
  rw [lines, sections, List.cons_append, List.cons_append, List.cons_append, List.cons_append,
    intercalate_cons_eq]
  simp [List.flatMap_cons, List.flatMap_map]

/-- Every line of the text ends with a line break. -/
theorem toList_text (module : Module) :
    module.text.toList = module.lines.flatMap fun line => line.toList ++ ['\n'] := by
  have ended : ∀ (line : String) (lines : List String),
      (String.intercalate "\n" (line :: lines) ++ "\n").toList =
        (line :: lines).flatMap fun line => line.toList ++ ['\n'] := by
    intro line lines
    induction lines generalizing line with
    | nil => simp
    | cons next lines ih =>
        rw [String.intercalate_cons_cons, List.flatMap_cons, ← ih]
        simp
  rw [text_eq_lines, lines_eq, headerLines]
  exact ended _ _

theorem hasLines_of_infix {module : Module} {lines : List String}
    (inside : lines <:+: module.lines) : HasLines module.text.toList lines := by
  obtain ⟨earlier, later, same⟩ := inside
  refine ⟨earlier.flatMap fun line => line.toList ++ ['\n'],
    later.flatMap fun line => line.toList ++ ['\n'], ?_, ?_⟩
  · rw [toList_text, ← same]
    simp
  · intro c last
    rcases List.eq_nil_or_concat earlier with rfl | ⟨front, line, rfl⟩
    · cases last
    · simpa [eq_comm] using last

theorem enumClass_lines_infix {module : Module} {enumClass : EnumClass}
    (isClass : enumClass ∈ module.enumClasses) : enumClass.lines <:+: module.lines := by
  apply infix_of_infix_block isClass
  rw [lines_eq]
  exact List.infix_append _ _ _

theorem family_lines_infix {module : Module} {family : Family}
    (isFamily : family ∈ module.families) : family.lines <:+: module.lines := by
  apply infix_of_infix_block isFamily
  rw [lines_eq]
  exact (List.suffix_append _ _).isInfix

end Module

end Generated

/-- What a traversal gives when all its items have results that are known beforehand. -/
theorem eq_map_of_mapM_eq_ok {ε α β : Type} {action : α → Except ε β} {value : α → β}
    {items : List α} {results : List β}
    (each : ∀ item ∈ items, ∀ result, action item = .ok result → result = value item)
    (answered : items.mapM action = .ok results) : results = items.map value := by
  induction items generalizing results with
  | nil =>
      cases answered
      rfl
  | cons item items ih =>
      rw [List.forall_mem_cons] at each
      rw [List.mapM_cons] at answered
      cases here : action item with
      | error error =>
          rw [here] at answered
          cases answered
      | ok result =>
          cases later : items.mapM action with
          | error error =>
              rw [here, later] at answered
              cases answered
          | ok others =>
              rw [here, later] at answered
              cases answered
              rw [each.1 result here, ih each.2 later, List.map_cons]

namespace Module.WellFormed

variable {module : Module}

/-- The emitter's checks aside, a family is what its declaration and its cases say. -/
theorem eq_coveredFamily (rules : module.WellFormed) {resolved : ResolvedDeclaration}
    (declared : resolved.declaration ∈ module.declarations) {family : Generated.Family}
    (emitted : Generated.family module resolved = .ok family) :
    family = module.coveredFamily resolved := by
  have classes := mapM_eq_ok fun variant inside => rules.caseClass_eq declared inside
  unfold Generated.family at emitted
  cases total : Generated.checkTotal module resolved with
  | error error =>
      rw [total] at emitted
      cases emitted
  | ok =>
      simp only [total, classes] at emitted
      cases emitted
      rfl

/-- The emitter's checks aside, a generated module is what its declarations and their cases say. -/
theorem eq_emitted (rules : module.WellFormed) {resolved : List ResolvedDeclaration}
    (inOrder : resolved.map ResolvedDeclaration.declaration = module.declarations)
    {generated : Generated.Module}
    (emitted : Generated.ofResolved module resolved = .ok generated) :
    generated = module.emitted resolved := by
  unfold Generated.ofResolved at emitted
  cases answered : resolved.mapM (Generated.family module) with
  | error error =>
      rw [answered] at emitted
      cases emitted
  | ok families =>
      have each : ∀ one ∈ resolved, ∀ family, Generated.family module one = .ok family →
          family = module.coveredFamily one := fun one member family =>
        rules.eq_coveredFamily (inOrder ▸ List.mem_map_of_mem member)
      have same := eq_map_of_mapM_eq_ok each answered
      rw [answered] at emitted
      cases emitted
      rw [same]
      rfl

end Module.WellFormed

end ShaderVariants
