import ShaderVariants.Proofs.Build

/-!
# Loading manifests

What comes of a manifest file, whatever stands in it.  A document describes a manifest if its parts
are tables, its targets a list of tables with texts for both files, and its directory a text; the
targets come in the order of the list, and all paths start from the directory of the manifest.  A
file that cannot be read, a text that is no document, and an entry without one of its files are
reported.  Data of any other type are found out where they are used, and come out as faults of other
kinds.
-/

namespace ShaderVariants

/-! ## Steps one after the other -/

variable {ε α β : Type}

theorem bind_eq_ok_iff {first : Except ε α} {next : α → Except ε β} {result : β} :
    (first >>= next) = .ok result ↔ ∃ value, first = .ok value ∧ next value = .ok result := by
  cases first <;> simp [bind, Except.bind]

theorem bind_eq_error_iff {first : Except ε α} {next : α → Except ε β} {error : ε} :
    (first >>= next) = .error error ↔
      first = .error error ∨ ∃ value, first = .ok value ∧ next value = .error error := by
  cases first <;> simp [bind, Except.bind]

/-- Numbered computations that all succeed. -/
theorem mapM_zipIdx_eq_ok_iff {action : α × Nat → Except ε β} {describes : α → β → Prop}
    (succeeds : ∀ item index result, action (item, index) = .ok result ↔ describes item result)
    {items : List α} {start : Nat} {results : List β} :
    (items.zipIdx start).mapM action = .ok results ↔ List.Forall₂ describes items results := by
  induction items generalizing start results with
  | nil => simp [pure, Except.pure, eq_comm]
  | cons item items ih =>
      simp only [List.zipIdx_cons, List.mapM_cons, bind_eq_ok_iff, succeeds, ih,
        List.forall₂_cons_left_iff]
      constructor
      · rintro ⟨result, described, others, later, ⟨⟩⟩
        exact ⟨result, others, described, later, rfl⟩
      · rintro ⟨result, others, described, later, rfl⟩
        exact ⟨result, described, others, later, rfl⟩

/-- Numbered computations of which one fails, all in front of it having succeeded. -/
theorem mapM_zipIdx_eq_error_iff {action : α × Nat → Except ε β} {describes : α → β → Prop}
    (succeeds : ∀ item index result, action (item, index) = .ok result ↔ describes item result)
    {items : List α} {start : Nat} {error : ε} :
    (items.zipIdx start).mapM action = .error error ↔
      ∃ before item later results, items = before ++ item :: later ∧
        List.Forall₂ describes before results ∧
        action (item, start + before.length) = .error error := by
  induction items generalizing start with
  | nil => simp [pure, Except.pure]
  | cons item items ih =>
      simp only [List.zipIdx_cons, List.mapM_cons, bind_eq_error_iff, succeeds, ih]
      constructor
      · rintro (fails | ⟨result, described, ⟨before, inner, later, results, rfl, fine, fails⟩ |
          ⟨_, _, ⟨⟩⟩⟩)
        · exact ⟨[], item, items, [], rfl, .nil, fails⟩
        · refine ⟨item :: before, inner, later, result :: results, rfl, .cons described fine, ?_⟩
          rwa [List.length_cons, Nat.add_comm before.length, ← Nat.add_assoc]
      · rintro ⟨before, inner, later, results, same, fine, fails⟩
        cases fine with
        | nil =>
            obtain ⟨rfl, rfl⟩ := List.cons.inj same
            exact .inl fails
        | @cons head result before results described fine =>
            obtain ⟨rfl, rfl⟩ := List.cons.inj same
            refine .inr ⟨result, described, .inl ⟨before, inner, later, results, rfl, fine, ?_⟩⟩
            rwa [List.length_cons, Nat.add_comm before.length, ← Nat.add_assoc] at fails

namespace Manifest

variable {path root : Path} {table part : Toml.Table} {key : String} {error : ManifestError}

/-! ## Parts and paths -/

theorem partOf_eq_ok_iff :
    partOf table key = .ok part ↔ valueOf table key (.table []) = .table part := by
  unfold partOf
  cases valueOf table key (.table []) <;> simp [Datum.entries?]

theorem partOf_eq_error_iff :
    partOf table key = .error error ↔
      (valueOf table key (.table [])).entries? = none ∧ error = .notTable key := by
  unfold partOf
  cases (valueOf table key (.table [])).entries? <;> simp [eq_comm]

theorem pathOf_eq_ok_iff {datum : Datum} :
    pathOf root datum = .ok path ↔
      ∃ text, datum = .text text ∧ path = root ++ Path.ofString text := by
  unfold pathOf
  cases datum <;> simp [Datum.text?, eq_comm]

theorem pathOf_eq_error_iff {datum : Datum} :
    pathOf root datum = .error error ↔ datum.text? = none ∧ error = .pathNotText := by
  unfold pathOf
  cases datum.text? <;> simp [eq_comm]

theorem pathOf_eq_error_of_lookup (root : Path)
    (noText : ∀ text, part.lookup key ≠ some (.text text)) :
    pathOf root (valueOf part key .none) = .error .pathNotText := by
  refine pathOf_eq_error_iff.mpr ⟨?_, rfl⟩
  unfold valueOf
  cases found : part.lookup key with
  | none => rfl
  | some datum =>
      cases datum with
      | text text => exact absurd found (noText text)
      | none | bool | integer | real | moment | list | table => rfl

/-! ## Entries -/

/-- An entry that describes a target: a table with texts for both files. -/
def Describes (root : Path) (entry : Datum) (target : Target) : Prop :=
  ∃ part source output, entry = .table part ∧ part.lookup "source" = some (.text source) ∧
    part.lookup "output" = some (.text output) ∧
    target = ⟨root ++ Path.ofString source, root ++ Path.ofString output⟩

/-- What is wrong with an entry.  Lists and texts can be asked for keys, too, but do not have values
for them. -/
inductive EntryFault (path : Path) (index : Nat) (entry : Datum) : ManifestError → Prop where
  | incomplete {missing : List String}
      (lacks : targetKeys.filter (fun key => mentions? key entry = some false) = missing)
      (nonempty : missing ≠ []) :
      EntryFault path index entry (.resource ⟨.incompleteTarget role index missing, path⟩)
  | unasked (refuses : ∀ key ∈ targetKeys, mentions? key entry = none) :
      EntryFault path index entry (.targetNotTable index)
  | noTable (complete : ∀ key ∈ targetKeys, mentions? key entry = some true)
      (other : entry.entries? = none) : EntryFault path index entry (.targetNotTable index)
  | path {part : Toml.Table} (isTable : entry = .table part)
      (complete : ∀ key ∈ targetKeys, (part.lookup key).isSome) {key : String}
      (wanted : key ∈ targetKeys) (noText : ∀ text, part.lookup key ≠ some (.text text)) :
      EntryFault path index entry .pathNotText

variable {index : Nat} {entry : Datum}

/-- Either all keys can be asked for or none. -/
theorem mentions?_cases (entry : Datum) :
    (∃ found : String → Bool, ∀ key, mentions? key entry = some (found key)) ∨
      ∀ key, mentions? key entry = none := by
  cases entry with
  | table entries => exact .inl ⟨fun key => (entries.lookup key).isSome, fun _ => rfl⟩
  | list items => exact .inl ⟨fun key => items.any fun item => item.text? == some key, fun _ => rfl⟩
  | text value =>
      exact .inl ⟨fun key => (Toml.splitAtText? key.toList value.toList).isSome, fun _ => rfl⟩
  | none | bool | integer | real | moment => exact .inr fun _ => rfl

theorem missingOf_eq_ok {found : String → Bool} (index : Nat)
    (asked : ∀ key, mentions? key entry = some (found key)) :
    missingOf index entry =
      .ok (targetKeys.filter fun key => mentions? key entry = some false) := by
  unfold missingOf targetKeys
  simp only [asked]
  cases source : found "source" <;> cases output : found "output" <;>
    simp [List.filterM, List.filterAuxM, source, output] <;> rfl

theorem missingOf_eq_error (index : Nat)
    (unasked : ∀ key ∈ targetKeys, mentions? key entry = none) :
    missingOf index entry = .error (.targetNotTable index) := by
  have source := unasked "source" (by decide)
  unfold missingOf targetKeys
  simp [List.filterM, List.filterAuxM, source]
  rfl

/-- An entry that contains all keys is looked into. -/
theorem targetOf_eq_of_complete (path : Path) (index : Nat)
    (complete : ∀ key ∈ targetKeys, mentions? key entry = some true) :
    targetOf path index entry =
      match entry.entries? with
      | none => .error (.targetNotTable index)
      | some part => do
        let source ← pathOf path.parent (valueOf part "source" .none)
        let output ← pathOf path.parent (valueOf part "output" .none)
        return ⟨source, output⟩ := by
  have nothing : (targetKeys.filter fun key => mentions? key entry = some false) = [] := by
    rw [List.filter_eq_nil_iff]
    intro key wanted
    simp [complete key wanted]
  rcases mentions?_cases entry with ⟨found, asked⟩ | unasked
  · have missing := missingOf_eq_ok index asked
    rw [nothing] at missing
    unfold targetOf
    rw [missing]
    cases entry.entries? <;> rfl
  · have asked := complete "source" (by decide)
    rw [unasked] at asked
    cases asked

theorem mentions?_table_eq_some_true (complete : ∀ key ∈ targetKeys, (part.lookup key).isSome) :
    ∀ key ∈ targetKeys, mentions? key (.table part) = some true :=
  fun key wanted => congrArg some (complete key wanted)

theorem Describes.targetOf_eq {target : Target} (described : Describes path.parent entry target) :
    targetOf path index entry = .ok target := by
  obtain ⟨part, source, output, rfl, isSource, isOutput, rfl⟩ := described
  have complete : ∀ key ∈ targetKeys, (part.lookup key).isSome := by
    intro key wanted
    rcases List.mem_pair.mp wanted with rfl | rfl
    · rw [isSource, Option.isSome_some]
    · rw [isOutput, Option.isSome_some]
  rw [targetOf_eq_of_complete path index (mentions?_table_eq_some_true complete)]
  simp [Datum.entries?, valueOf, isSource, isOutput, pathOf, Datum.text?]
  rfl

theorem EntryFault.targetOf_eq (fault : EntryFault path index entry error) :
    targetOf path index entry = .error error := by
  cases fault with
  | incomplete lacks nonempty =>
      rcases mentions?_cases entry with ⟨found, asked⟩ | unasked
      · have missing := missingOf_eq_ok index asked
        rw [lacks] at missing
        unfold targetOf
        rw [missing]
        exact if_pos nonempty
      · exact absurd (by simpa [unasked] using lacks.symm) nonempty
  | unasked refuses =>
      unfold targetOf
      rw [missingOf_eq_error index refuses]
      rfl
  | noTable complete other =>
      rw [targetOf_eq_of_complete path index complete, other]
  | @path part isTable complete key wanted noText =>
      subst isTable
      rw [targetOf_eq_of_complete path index (mentions?_table_eq_some_true complete)]
      have fails := pathOf_eq_error_of_lookup path.parent noText
      rcases List.mem_pair.mp wanted with rfl | rfl
      · simp only [Datum.entries?, fails]
        rfl
      · simp only [Datum.entries?, fails]
        cases first : pathOf path.parent (valueOf part "source" .none) with
        | ok source => rfl
        | error error =>
            rw [(pathOf_eq_error_iff.mp first).2]
            rfl

theorem describes_or_fault (path : Path) (index : Nat) (entry : Datum) :
    (∃ target, Describes path.parent entry target) ∨
      ∃ error, EntryFault path index entry error := by
  rcases mentions?_cases entry with ⟨found, asked⟩ | unasked
  swap
  · exact .inr ⟨_, .unasked fun key _ => unasked key⟩
  by_cases nothing : (targetKeys.filter fun key => mentions? key entry = some false) = []
  swap
  · exact .inr ⟨_, .incomplete rfl nothing⟩
  have complete (key : String) (wanted : key ∈ targetKeys) : mentions? key entry = some true := by
    have here := List.filter_eq_nil_iff.mp nothing key wanted
    simpa [asked] using here
  cases isTable : entry.entries? with
  | none => exact .inr ⟨_, .noTable complete isTable⟩
  | some part =>
      obtain rfl : entry = .table part := by
        cases entry <;> cases isTable
        rfl
      have present (key : String) (wanted : key ∈ targetKeys) : (part.lookup key).isSome :=
        Option.some.inj (complete key wanted)
      by_cases texts : ∀ key ∈ targetKeys, ∃ text, part.lookup key = some (.text text)
      · obtain ⟨source, isSource⟩ := texts "source" (by decide)
        obtain ⟨output, isOutput⟩ := texts "output" (by decide)
        exact .inl ⟨_, part, source, output, rfl, isSource, isOutput, rfl⟩
      · push Not at texts
        obtain ⟨key, wanted, noText⟩ := texts
        exact .inr ⟨_, .path rfl present wanted noText⟩

theorem targetOf_eq_ok_iff {target : Target} :
    targetOf path index entry = .ok target ↔ Describes path.parent entry target := by
  refine ⟨fun answered => ?_, Describes.targetOf_eq⟩
  rcases describes_or_fault path index entry with ⟨other, described⟩ | ⟨error, fault⟩
  · have same := described.targetOf_eq.symm.trans answered
    exact Except.ok.inj same ▸ described
  · cases fault.targetOf_eq.symm.trans answered

theorem targetOf_eq_error_iff :
    targetOf path index entry = .error error ↔ EntryFault path index entry error := by
  refine ⟨fun failed => ?_, EntryFault.targetOf_eq⟩
  rcases describes_or_fault path index entry with ⟨target, described⟩ | ⟨other, fault⟩
  · cases described.targetOf_eq.symm.trans failed
  · exact Except.error.inj (fault.targetOf_eq.symm.trans failed) ▸ fault

/-! ## Tables -/

theorem targetData_eq_error_iff {datum : Datum} :
    targetData datum = .error error ↔
      (∀ entries, targetData datum ≠ .ok entries) ∧ error = .notList := by
  cases datum <;> simp [targetData, eq_comm]

theorem targetsOf_eq_ok_iff {datum : Datum} {targets : List Target} :
    targetsOf path datum = .ok targets ↔
      ∃ entries, targetData datum = .ok entries ∧
        List.Forall₂ (Describes path.parent) entries targets := by
  unfold targetsOf
  rw [bind_eq_ok_iff]
  refine exists_congr fun entries => and_congr_right fun _ => ?_
  exact mapM_zipIdx_eq_ok_iff fun _ _ _ => targetOf_eq_ok_iff

theorem targetsOf_eq_error_iff {datum : Datum} :
    targetsOf path datum = .error error ↔
      ((∀ entries, targetData datum ≠ .ok entries) ∧ error = .notList) ∨
        ∃ before entry later targets, targetData datum = .ok (before ++ entry :: later) ∧
          List.Forall₂ (Describes path.parent) before targets ∧
          EntryFault path before.length entry error := by
  unfold targetsOf
  rw [bind_eq_error_iff, targetData_eq_error_iff]
  refine or_congr_right (Iff.trans (exists_congr fun entries => and_congr_right fun _ =>
    mapM_zipIdx_eq_error_iff fun _ _ _ => targetOf_eq_ok_iff) ?_)
  simp only [targetOf_eq_error_iff, Nat.zero_add]
  constructor
  · rintro ⟨_, listed, before, entry, later, targets, rfl, fine, fault⟩
    exact ⟨before, entry, later, targets, listed, fine, fault⟩
  · rintro ⟨before, entry, later, targets, listed, fine, fault⟩
    exact ⟨_, listed, before, entry, later, targets, rfl, fine, fault⟩

/-- What a table has to say for a manifest.  Targets come in the order of their entries; an empty
text and an empty table list none, either. -/
structure Described (path : Path) (table : Toml.Table) (manifest : Manifest) : Prop where
  settings : ∃ part, valueOf table "preprocessor" (.table []) = .table part ∧
    manifest.templateSettings = templateSettingsOf part
  targets :
    (∃ entries, valueOf table "generate" (.list []) = .list entries ∧
      List.Forall₂ (Describes path.parent) entries manifest.targets) ∨
    (valueOf table "generate" (.list []) = .text "" ∨
      valueOf table "generate" (.list []) = .table []) ∧ manifest.targets = []
  project : ∃ part directory, valueOf table "project" (.table []) = .table part ∧
    valueOf part "base_dir" (.text ".") = .text directory ∧
    manifest.baseDirectory = path.parent ++ Path.ofString directory ∧
    manifest.name = valueOf part "name" (.text "unnamed")

/-- What is wrong with a table.  Its parts are used in a fixed order, and the first fault counts. -/
inductive TableFault (path : Path) (table : Toml.Table) : ManifestError → Prop where
  | preprocessor (noTable : (valueOf table "preprocessor" (.table [])).entries? = none) :
      TableFault path table (.notTable "preprocessor")
  | generate {settings : Toml.Table}
      (isTable : valueOf table "preprocessor" (.table []) = .table settings)
      (noList : ∀ entries, targetData (valueOf table "generate" (.list [])) ≠ .ok entries) :
      TableFault path table .notList
  | entry {settings : Toml.Table}
      (isTable : valueOf table "preprocessor" (.table []) = .table settings)
      {before later : List Datum} {entry : Datum} {targets : List Target} {error : ManifestError}
      (listed : targetData (valueOf table "generate" (.list [])) = .ok (before ++ entry :: later))
      (fine : List.Forall₂ (Describes path.parent) before targets)
      (fault : EntryFault path before.length entry error) : TableFault path table error
  | project {settings : Toml.Table}
      (isTable : valueOf table "preprocessor" (.table []) = .table settings)
      {entries : List Datum} {targets : List Target}
      (listed : targetData (valueOf table "generate" (.list [])) = .ok entries)
      (fine : List.Forall₂ (Describes path.parent) entries targets)
      (noTable : (valueOf table "project" (.table [])).entries? = none) :
      TableFault path table (.notTable "project")
  | directory {settings : Toml.Table}
      (isTable : valueOf table "preprocessor" (.table []) = .table settings)
      {entries : List Datum} {targets : List Target}
      (listed : targetData (valueOf table "generate" (.list [])) = .ok entries)
      (fine : List.Forall₂ (Describes path.parent) entries targets) {project : Toml.Table}
      (inside : valueOf table "project" (.table []) = .table project)
      (noText : (valueOf project "base_dir" (.text ".")).text? = none) :
      TableFault path table .pathNotText

theorem targets_described_iff {datum : Datum} {targets : List Target} :
    (∃ entries, targetData datum = .ok entries ∧ List.Forall₂ (Describes root) entries targets) ↔
      (∃ entries, datum = .list entries ∧ List.Forall₂ (Describes root) entries targets) ∨
        (datum = .text "" ∨ datum = .table []) ∧ targets = [] := by
  have noText (value : String) (target : Target) : ¬Describes root (.text value) target := by
    rintro ⟨part, source, output, ⟨⟩, -⟩
  cases datum with
  | list items => simp [targetData]
  | text value =>
      cases characters : value.toList with
      | nil => simp [targetData, String.toList_eq_nil_iff.mp characters]
      | cons c rest =>
          have nonempty : value ≠ "" := by
            rintro rfl
            cases characters
          simp [targetData, characters, nonempty, noText, List.forall₂_cons_left_iff]
  | table entries =>
      cases entries with
      | nil => simp [targetData]
      | cons entry rest => simp [targetData, noText, List.forall₂_cons_left_iff]
  | none | bool | integer | real | moment => simp [targetData]

theorem ofTable_eq_ok_iff {manifest : Manifest} :
    ofTable path table = .ok manifest ↔ Described path table manifest := by
  unfold ofTable
  simp only [bind_eq_ok_iff, partOf_eq_ok_iff, targetsOf_eq_ok_iff, targets_described_iff,
    pathOf_eq_ok_iff]
  constructor
  · rintro ⟨part, isTable, targets, listed, project, inside, directory, ⟨text, isText, rfl⟩, ⟨⟩⟩
    exact ⟨⟨part, isTable, rfl⟩, listed, ⟨project, text, inside, isText, rfl, rfl⟩⟩
  · obtain ⟨name, directory, targets, settings⟩ := manifest
    rintro ⟨⟨part, isTable, rfl⟩, listed, ⟨project, text, inside, isText, rfl, rfl⟩⟩
    exact ⟨part, isTable, targets, listed, project, inside, _, ⟨text, isText, rfl⟩, rfl⟩

theorem ofTable_eq_error_iff :
    ofTable path table = .error error ↔ TableFault path table error := by
  unfold ofTable
  simp only [bind_eq_error_iff, partOf_eq_ok_iff, partOf_eq_error_iff, targetsOf_eq_ok_iff,
    targetsOf_eq_error_iff, pathOf_eq_error_iff]
  constructor
  · rintro (⟨noTable, rfl⟩ | ⟨settings, isTable, (⟨noList, rfl⟩ |
      ⟨before, entry, later, targets, listed, fine, fault⟩) | ⟨targets, ⟨entries, listed, fine⟩,
      ⟨noTable, rfl⟩ | ⟨project, inside, ⟨noText, rfl⟩ | ⟨directory, _, ⟨⟩⟩⟩⟩⟩)
    · exact .preprocessor noTable
    · exact .generate isTable noList
    · exact .entry isTable listed fine fault
    · exact .project isTable listed fine noTable
    · exact .directory isTable listed fine inside noText
  · rintro (noTable | ⟨isTable, noList⟩ | ⟨isTable, listed, fine, fault⟩ |
      ⟨isTable, listed, fine, noTable⟩ | ⟨isTable, listed, fine, inside, noText⟩)
    · exact .inl ⟨noTable, rfl⟩
    · exact .inr ⟨_, isTable, .inl (.inl ⟨noList, rfl⟩)⟩
    · exact .inr ⟨_, isTable, .inl (.inr ⟨_, _, _, _, listed, fine, fault⟩)⟩
    · exact .inr ⟨_, isTable, .inr ⟨_, ⟨_, listed, fine⟩, .inl ⟨noTable, rfl⟩⟩⟩
    · exact .inr ⟨_, isTable, .inr ⟨_, ⟨_, listed, fine⟩, .inr ⟨_, inside, .inl ⟨noText, rfl⟩⟩⟩⟩

/-! ## Files -/

/-- Why there is no manifest at a path of a tree. -/
inductive Fault (tree : FileTree) (path : Path) : ManifestError → Prop where
  | nulInPath (read : tree.readText path = .error .nulInPath) : Fault tree path .nulInPath
  | refused {cause : FileError} (read : tree.readText path = .error (.refused cause)) :
      Fault tree path (.resource ⟨.unreadable role (cause.message path), path⟩)
  | undecodable {cause : Text.Utf8.DecodeError}
      (read : tree.readText path = .error (.undecodable cause)) :
      Fault tree path (.resource ⟨.unreadable role cause.message, path⟩)
  | malformed {text : String} (read : tree.readText path = .ok text) {fault : Toml.Fault}
      (parse : Toml.ofText text.toList = .error fault)
      (convertible : ∀ count, fault.problem ≠ .tooManyDigits count) :
      Fault tree path (.resource ⟨.malformed role (fault.message text.toList), path⟩)
  | tooManyDigits {text : String} (read : tree.readText path = .ok text) {count remaining : Nat}
      (parse : Toml.ofText text.toList = .error ⟨.tooManyDigits count, remaining⟩) :
      Fault tree path (.tooManyDigits count)
  | table {text : String} (read : tree.readText path = .ok text) {table : Toml.Table}
      (parse : Toml.ofText text.toList = .ok table) {error : ManifestError}
      (fault : TableFault path table error) : Fault tree path error

/-- All data of a table that are there have the types that they are documented with. -/
structure WellShaped (table : Toml.Table) : Prop where
  preprocessor : ∃ part, valueOf table "preprocessor" (.table []) = .table part
  generate : ∃ entries, valueOf table "generate" (.list []) = .list entries ∧
    ∀ entry ∈ entries, ∃ part, entry = .table part ∧
      ∀ key ∈ targetKeys, ∀ datum, part.lookup key = some datum → ∃ text, datum = .text text
  project : ∃ part, valueOf table "project" (.table []) = .table part ∧
    ∃ text, valueOf part "base_dir" (.text ".") = .text text

/-- In a table whose data have the right types, the one possible fault is that something is not
there. -/
theorem WellShaped.isResource (shaped : WellShaped table) (fault : TableFault path table error) :
    ∃ resource, error = .resource resource := by
  obtain ⟨⟨part, isTable⟩, ⟨entries, isList, tables⟩, project, inside, directory, isText⟩ := shaped
  cases fault with
  | preprocessor noTable =>
      rw [isTable] at noTable
      cases noTable
  | generate _ noList =>
      rw [isList] at noList
      exact absurd rfl (noList entries)
  | project _ _ _ noTable =>
      rw [inside] at noTable
      cases noTable
  | directory _ _ _ same noText =>
      cases inside.symm.trans same
      rw [isText] at noText
      cases noText
  | @entry _ _ before later entry targets error listed fine fault =>
      rw [isList] at listed
      obtain rfl : entries = before ++ entry :: later := Except.ok.inj listed
      obtain ⟨part, rfl, texts⟩ := tables entry (by simp)
      cases fault with
      | incomplete => exact ⟨_, rfl⟩
      | unasked refuses => cases refuses "source" (by decide)
      | noTable complete other => cases other
      | path same complete wanted noText =>
          cases same
          obtain ⟨datum, found⟩ := Option.isSome_iff_exists.mp (complete _ wanted)
          obtain ⟨text, rfl⟩ := texts _ wanted datum found
          exact absurd found (noText text)

theorem ofText_of_ok {text : String} (path : Path) (parse : Toml.ofText text.toList = .ok table) :
    ofText path text = ofTable path table := by
  simp only [ofText, parse]

theorem ofText_of_malformed {text : String} {fault : Toml.Fault} (path : Path)
    (parse : Toml.ofText text.toList = .error fault)
    (convertible : ∀ count, fault.problem ≠ .tooManyDigits count) :
    ofText path text =
      .error (.resource ⟨.malformed role (fault.message text.toList), path⟩) := by
  obtain ⟨problem, remaining⟩ := fault
  simp only [ofText, parse]
  split
  · rename_i same
    cases same
  · rename_i same
    cases same
    exact absurd rfl (convertible _)
  · rename_i same
    cases same
    rfl

theorem ofText_of_tooManyDigits {text : String} {count remaining : Nat} (path : Path)
    (parse : Toml.ofText text.toList = .error ⟨.tooManyDigits count, remaining⟩) :
    ofText path text = .error (.tooManyDigits count) := by
  simp only [ofText, parse]

end Manifest

namespace FileTree

variable {tree : FileTree} {path : Path}

theorem manifest_of_readText {answer : Except ReadError String}
    (read : tree.readText path = answer) :
    tree.manifest path = Manifest.ofLoaded path (Loaded.ofRead Manifest.role path answer) := by
  subst read
  rfl

theorem manifest_of_fault {error : ManifestError} (fault : Manifest.Fault tree path error) :
    tree.manifest path = .error error := by
  cases fault with
  | nulInPath read => exact manifest_of_readText read
  | refused read => exact manifest_of_readText read
  | undecodable read => exact manifest_of_readText read
  | malformed read parse convertible =>
      exact (manifest_of_readText read).trans (Manifest.ofText_of_malformed path parse convertible)
  | tooManyDigits read parse =>
      exact (manifest_of_readText read).trans (Manifest.ofText_of_tooManyDigits path parse)
  | table read parse fault =>
      exact (manifest_of_readText read).trans
        ((Manifest.ofText_of_ok path parse).trans (Manifest.ofTable_eq_error_iff.mpr fault))

/-- A file that is no document is at fault, and any other one is as its table is. -/
theorem fault_or_document (tree : FileTree) (path : Path) :
    (∃ error, Manifest.Fault tree path error) ∨
      ∃ text table, tree.readText path = .ok text ∧ Toml.ofText text.toList = .ok table ∧
        tree.manifest path = Manifest.ofTable path table := by
  cases read : tree.readText path with
  | error error =>
      cases error with
      | nulInPath => exact .inl ⟨_, .nulInPath read⟩
      | refused cause => exact .inl ⟨_, .refused read⟩
      | undecodable cause => exact .inl ⟨_, .undecodable read⟩
  | ok text =>
      cases parse : Toml.ofText text.toList with
      | ok table =>
          exact .inr ⟨text, table, rfl, parse,
            (manifest_of_readText read).trans (Manifest.ofText_of_ok path parse)⟩
      | error fault =>
          by_cases long : ∃ count, fault.problem = .tooManyDigits count
          · obtain ⟨problem, remaining⟩ := fault
            obtain ⟨count, rfl⟩ := long
            exact .inl ⟨_, .tooManyDigits read parse⟩
          · exact .inl ⟨_, .malformed read parse (not_exists.mp long)⟩

/-- What comes of a manifest file.  There is a manifest exactly if the text of the file describes
one, in which each entry has its target, and the faults are exactly those listed.  In a document
whose data have the right types, every fault is one of the file. -/
theorem manifest_result (tree : FileTree) (path : Path) :
    (∀ manifest, tree.manifest path = .ok manifest ↔
      ∃ text table, tree.readText path = .ok text ∧ Toml.ofText text.toList = .ok table ∧
        Manifest.Described path table manifest) ∧
    (∀ error, tree.manifest path = .error error ↔ Manifest.Fault tree path error) ∧
    ∀ text table, tree.readText path = .ok text → Toml.ofText text.toList = .ok table →
      Manifest.WellShaped table →
      (∃ manifest, tree.manifest path = .ok manifest) ∨
        ∃ resource, tree.manifest path = .error (.resource resource) := by
  have ofDocument {text : String} {table : Toml.Table} (read : tree.readText path = .ok text)
      (parse : Toml.ofText text.toList = .ok table) :
      tree.manifest path = Manifest.ofTable path table :=
    (manifest_of_readText read).trans (Manifest.ofText_of_ok path parse)
  refine ⟨fun manifest => ⟨fun loaded => ?_, ?_⟩,
    fun error => ⟨fun failed => ?_, manifest_of_fault⟩, ?_⟩
  · rcases fault_or_document tree path with ⟨error, fault⟩ | ⟨text, table, read, parse, same⟩
    · cases (manifest_of_fault fault).symm.trans loaded
    · exact ⟨text, table, read, parse, Manifest.ofTable_eq_ok_iff.mp (same.symm.trans loaded)⟩
  · rintro ⟨text, table, read, parse, described⟩
    exact (ofDocument read parse).trans (Manifest.ofTable_eq_ok_iff.mpr described)
  · rcases fault_or_document tree path with ⟨other, fault⟩ | ⟨text, table, read, parse, same⟩
    · exact Except.error.inj ((manifest_of_fault fault).symm.trans failed) ▸ fault
    · exact .table read parse (Manifest.ofTable_eq_error_iff.mp (same.symm.trans failed))
  · intro text table read parse shaped
    rw [ofDocument read parse]
    cases result : Manifest.ofTable path table with
    | ok manifest => exact .inl ⟨manifest, rfl⟩
    | error error =>
        obtain ⟨resource, rfl⟩ := shaped.isResource (Manifest.ofTable_eq_error_iff.mp result)
        exact .inr ⟨resource, rfl⟩

/-- A tree with a manifest of one target. -/
def oneTarget : FileTree :=
  (empty []).put ["m"] (.ofContent "[[generate]]\nsource = \"a\"\noutput = \"b\"\n".toUTF8)

/-- A tree with a manifest whose project is a number. -/
def numberedProject : FileTree := (empty []).put ["m"] (.ofContent "project = 1\n".toUTF8)

/-- A manifest of one target, and one that comes out as a fault that is no fault of its file. -/
theorem manifest_result_shapes :
    (∃ manifest, oneTarget.manifest (Path.ofString "m") = .ok manifest ∧
      manifest.targets = [⟨Path.ofString "a", Path.ofString "b"⟩]) ∧
    numberedProject.manifest (Path.ofString "m") = .error (.notTable "project") := by
  constructor
  · have read : oneTarget.readText (Path.ofString "m") =
        .ok "[[generate]]\nsource = \"a\"\noutput = \"b\"\n" :=
      eq_ok_of_toOption (by decide +kernel)
    have parse : Toml.ofText "[[generate]]\nsource = \"a\"\noutput = \"b\"\n".toList =
        .ok [("generate", .list [.table [("source", .text "a"), ("output", .text "b")]])] := by
      cbv
    have described : Manifest.Described (Path.ofString "m")
        [("generate", .list [.table [("source", .text "a"), ("output", .text "b")]])]
        ⟨.text "unnamed", Path.ofString ".", [⟨Path.ofString "a", Path.ofString "b"⟩],
          Manifest.templateSettingsOf []⟩ :=
      ⟨⟨[], rfl, rfl⟩, .inl ⟨_, rfl, .cons ⟨_, _, _, rfl, rfl, rfl, by decide⟩ .nil⟩,
        ⟨[], ".", rfl, rfl, by decide, rfl⟩⟩
    exact ⟨_, ((manifest_result _ _).1 _).mpr ⟨_, _, read, parse, described⟩, rfl⟩
  · have read : numberedProject.readText (Path.ofString "m") = .ok "project = 1\n" :=
      eq_ok_of_toOption (by decide +kernel)
    have parse : Toml.ofText "project = 1\n".toList = .ok [("project", .integer 1)] := by
      cbv
    have fault : Manifest.TableFault (Path.ofString "m") [("project", .integer 1)]
        (.notTable "project") := .project rfl rfl .nil rfl
    exact ((manifest_result _ _).2.1 _).mpr (.table read parse fault)

end FileTree

end ShaderVariants
