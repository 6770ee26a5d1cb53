import Mathlib.Data.List.Basic
import Mathlib.Logic.Function.Iterate
import ShaderVariants.FileTree

/-!
# Changes of a tree of files

Operations that succeed make directories and files where nothing was, and give files another
content.  Directories and links stay as they are, so that a path that leads to a place goes on to
lead there.  Making the directories of a path adds directories on the way to it, and writing a file
changes the one place that the path leads to.
-/

namespace ShaderVariants.FileTree

/-! ## Entries -/

/-- What may become of a place: it stays as it is, a directory or a file is made where nothing was,
or a file gets another content. -/
inductive Becomes : Option Entry → Option Entry → Prop where
  | same (entry : Option Entry) : Becomes entry entry
  | opened : Becomes none (some .openDirectory)
  | created (content : ByteArray) : Becomes none (some (.ofContent content))
  | replaced (old new : ByteArray) (permissions : Permissions) :
      Becomes (some (.file old permissions)) (some (.file new permissions))

namespace Becomes

variable {before middle after : Option Entry}

theorem trans (first : Becomes before middle) (second : Becomes middle after) :
    Becomes before after := by
  cases first with
  | same => exact second
  | opened =>
      cases second with
      | same => exact opened
  | created content =>
      cases second with
      | same => exact created content
      | replaced _ new => exact created new
  | replaced old content permissions =>
      cases second with
      | same => exact replaced old content permissions
      | replaced _ new => exact replaced old new permissions

theorem directory {permissions : Permissions} (becomes : Becomes before after)
    (here : before = some (.directory permissions)) : after = some (.directory permissions) := by
  cases becomes <;> first | exact here | cases here

/-- There is a link exactly if there was one. -/
theorem link_iff {target : Path} (becomes : Becomes before after) :
    before = some (.link target) ↔ after = some (.link target) := by
  cases becomes with
  | same => exact Iff.rfl
  | _ => exact iff_of_false nofun nofun

/-- There is a further name of a file exactly if there was one. -/
theorem twin_iff {place : List String} (becomes : Becomes before after) :
    before = some (.twin place) ↔ after = some (.twin place) := by
  cases becomes with
  | same => exact Iff.rfl
  | _ => exact iff_of_false nofun nofun

theorem none_of_none (becomes : Becomes before after) (missing : after = none) :
    before = none := by
  cases becomes <;> first | exact missing | cases missing

end Becomes

variable {tree middle later : FileTree} {path : Path}

theorem entryAt?_put (tree : FileTree) (place : List String) (entry : Entry)
    (other : List String) :
    (tree.put place entry).entryAt? other =
      if other = place then some entry else tree.entryAt? other := by
  unfold entryAt? put
  by_cases same : other = place
  · simp [same]
  · have others : (fun one : List String × Entry =>
        decide (decide (one.1 ≠ place) = true ∧ (one.1 == other) = true)) =
          fun one => one.1 == other := by
      funext one
      by_cases here : one.1 = other
      · simp [here, same]
      · simp [here]
    rw [if_neg same, List.find?_cons_of_neg (by simpa using Ne.symm same), List.find?_filter,
      others]

/-! ## Places and paths -/

/-- A tree in which all places have become what they may become. -/
structure Grows (tree later : FileTree) : Prop where
  home : later.home = tree.home
  becomes : ∀ place, Becomes (tree.entryAt? place) (later.entryAt? place)

namespace Grows

theorem refl (tree : FileTree) : Grows tree tree := ⟨rfl, fun _ => .same _⟩

theorem trans (first : Grows tree middle) (second : Grows middle later) : Grows tree later where
  home := second.home.trans first.home
  becomes place := (first.becomes place).trans (second.becomes place)

theorem put {place : List String} {entry : Entry}
    (becomes : Becomes (tree.entryAt? place) (some entry)) :
    Grows tree (tree.put place entry) where
  home := rfl
  becomes other := by
    rw [entryAt?_put]
    by_cases same : other = place
    · rw [if_pos same, same]
      exact becomes
    · rw [if_neg same]
      exact .same _

theorem step_eq (grows : Grows tree later) {place next : List String} {name : String}
    (followed : tree.step place name = .ok next) : later.step place name = .ok next := by
  unfold step at followed ⊢
  cases here : tree.entryAt? place with
  | none =>
      rw [here] at followed
      cases followed
  | some entry =>
      rw [here] at followed
      cases entry with
      | directory permissions =>
          rw [(grows.becomes place).directory here]
          exact followed
      | _ => cases followed

variable {onLink onLink' : List String → Path → List String → Except FileError (List String)}

/-- Names go on to lead where they lead, if links do. -/
theorem walk_eq (grows : Grows tree later)
    (links : ∀ place target names goal, onLink place target names = .ok goal →
      onLink' place target names = .ok goal) {start names goal : List String}
    (followed : tree.walk onLink start names = .ok goal) :
    later.walk onLink' start names = .ok goal := by
  induction names generalizing start with
  | nil => exact followed
  | cons name names ih =>
      unfold walk at followed ⊢
      cases here : tree.step start name with
      | error error =>
          rw [here] at followed
          cases followed
      | ok next =>
          rw [grows.step_eq here]
          simp only [here, bind, Except.bind] at followed ⊢
          split at followed
          · next target isLink =>
              rw [(grows.becomes next).link_iff.mp isLink]
              exact links _ _ _ _ followed
          · next noLink =>
              split
              · next target isLink =>
                  exact (noLink _ ((grows.becomes next).link_iff.mpr isLink)).elim
              · exact ih followed

theorem follow_eq (grows : Grows tree later) {links : Nat} {start names goal : List String}
    (followed : tree.follow links start names = .ok goal) :
    later.follow links start names = .ok goal := by
  induction links generalizing start names goal with
  | zero =>
      refine grows.walk_eq (fun _ _ _ _ impossible => ?_) followed
      cases impossible
  | succ links ih => exact grows.walk_eq (fun _ _ _ _ leads => ih leads) followed

theorem reach_eq (grows : Grows tree later) {start names goal : List String}
    (followed : tree.reach start names = .ok goal) : later.reach start names = .ok goal :=
  grows.follow_eq followed

/-- A path goes on to lead where it leads. -/
theorem locate_eq (grows : Grows tree later) {place : List String}
    (leads : tree.locate path = .ok place) : later.locate path = .ok place := by
  unfold locate at leads ⊢
  cases reached : tree.reach (origin tree.home path) path.names with
  | error error =>
      rw [reached] at leads
      cases leads
  | ok last =>
      rw [grows.home, grows.reach_eq reached]
      simp only [reached, bind, Except.bind] at leads ⊢
      split at leads
      · next first isTwin =>
          rw [(grows.becomes last).twin_iff.mp isTwin]
          exact leads
      · next noTwin =>
          split
          · next first isTwin => exact (noTwin _ ((grows.becomes last).twin_iff.mpr isTwin)).elim
          · exact leads

end Grows

/-! ## The last name of a path -/

section

variable {start names place goal : List String} {name : String}
  (last : tree.step place name = .ok goal)
  (noLink : ∀ target, tree.entryAt? goal ≠ some (.link target))

include last noLink

theorem walk_append {onLink : List String → Path → List String → Except FileError (List String)}
    (links : ∀ start target names, onLink start target names = .ok place →
      onLink start target (names ++ [name]) = .ok goal)
    (followed : tree.walk onLink start names = .ok place) :
    tree.walk onLink start (names ++ [name]) = .ok goal := by
  induction names generalizing start with
  | nil =>
      obtain rfl : start = place := Except.ok.inj followed
      simp only [List.nil_append, walk, last, bind, Except.bind]
  | cons first names ih =>
      rw [List.cons_append]
      unfold walk at followed ⊢
      cases here : tree.step start first with
      | error error =>
          rw [here] at followed
          cases followed
      | ok next =>
          simp only [here, bind, Except.bind] at followed ⊢
          split at followed
          · exact links _ _ _ followed
          · exact ih followed

theorem follow_append {links : Nat} (followed : tree.follow links start names = .ok place) :
    tree.follow links start (names ++ [name]) = .ok goal := by
  induction links generalizing start names with
  | zero =>
      refine walk_append last noLink (fun _ _ _ impossible => ?_) followed
      cases impossible
  | succ links ih =>
      refine walk_append last noLink (fun start target names leads => ?_) followed
      rw [← List.append_assoc]
      exact ih leads

/-- A last name is followed behind the other ones, unless it leads to a link. -/
theorem reach_append (followed : tree.reach start names = .ok place) :
    tree.reach start (names ++ [name]) = .ok goal :=
  follow_append last noLink followed

end

/-- The place that a last name stands for is where the path leads, once a directory is made
there. -/
theorem locate_of_locateName {place : List String} (named : tree.locateName path = .ok place)
    {permissions : Permissions} (directory : tree.entryAt? place = some (.directory permissions)) :
    tree.locate path = .ok place := by
  have reached : tree.reach (origin tree.home path) path.names = .ok place := by
    unfold locateName at named
    cases final : path.names.getLast? with
    | none =>
        rw [List.getLast?_eq_none_iff.mp final]
        simp only [final] at named
        exact named
    | some name =>
        simp only [final, bind, Except.bind] at named
        rw [← List.dropLast_append_getLast? name final]
        split at named
        · cases named
        · next above reached =>
            exact reach_append named (fun target isLink => by simp [directory] at isLink) reached
  simp only [locate, reached, bind, Except.bind, directory]

theorem Grows.locateName_eq (grows : Grows tree later) {place : List String}
    (named : tree.locateName path = .ok place) : later.locateName path = .ok place := by
  unfold locateName at named ⊢
  cases final : path.names.getLast? with
  | none =>
      simp only [final] at named ⊢
      rw [grows.home]
      exact named
  | some name =>
      simp only [final, bind, Except.bind] at named ⊢
      split at named
      · cases named
      · next above reached =>
          rw [grows.home, grows.reach_eq reached]
          exact grows.step_eq named

/-! ## Making directories -/

/-- A tree with directories added that were missing on the way to a path. -/
structure Opens (tree later : FileTree) (path : Path) : Prop where
  home : later.home = tree.home
  changes : ∀ place, later.entryAt? place = tree.entryAt? place ∨
    tree.entryAt? place = none ∧ later.entryAt? place = some .openDirectory ∧
      ∃ depth, later.locate (Path.parent^[depth] path) = .ok place

namespace Opens

theorem grows (opens : Opens tree later path) : Grows tree later where
  home := opens.home
  becomes place := by
    rcases opens.changes place with same | ⟨missing, added, -⟩
    · rw [same]
      exact .same _
    · rw [missing, added]
      exact .opened

theorem refl (tree : FileTree) (path : Path) : Opens tree tree path :=
  ⟨rfl, fun _ => .inl rfl⟩

/-- First the way to the directory above, then that to the path itself. -/
theorem trans (above : Opens tree middle path.parent) (here : Opens middle later path) :
    Opens tree later path where
  home := here.home.trans above.home
  changes place := by
    rcases here.changes place with same | ⟨missing, added, leads⟩
    · rcases above.changes place with same' | ⟨missing, added, depth, leads⟩
      · exact .inl (same.trans same')
      · exact .inr ⟨missing, same.trans added, depth + 1, here.grows.locate_eq leads⟩
    · exact .inr ⟨(above.grows.becomes place).none_of_none missing, added, leads⟩

end Opens

/-- An entry that is added is put into the tree. -/
theorem eq_put_of_add {place : List String} {entry : Entry}
    (added : tree.add place entry = .ok later) : later = tree.put place entry := by
  unfold add at added
  split at added
  · split at added
    · exact (Except.ok.inj added).symm
    · cases added
  · cases added

namespace Opens

theorem of_makeDirectory (made : tree.makeDirectory path = .ok later) :
    Opens tree later path := by
  unfold makeDirectory at made
  cases named : tree.locateName path with
  | error error =>
      rw [named] at made
      cases made
  | ok place =>
      simp only [named, bind, Except.bind] at made
      cases here : tree.entryAt? place with
      | none =>
          rw [here] at made
          obtain rfl := eq_put_of_add made
          have grows : Grows tree (tree.put place .openDirectory) :=
            Grows.put (here ▸ .opened)
          have added : (tree.put place .openDirectory).entryAt? place = some .openDirectory := by
            rw [entryAt?_put, if_pos rfl]
          refine ⟨rfl, fun other => ?_⟩
          by_cases same : other = place
          · subst same
            exact .inr ⟨here, added, 0, locate_of_locateName (grows.locateName_eq named) added⟩
          · exact .inl (by rw [entryAt?_put, if_neg same])
      | some entry =>
          simp only [here] at made
          split at made
          · cases made
            exact refl tree path
          · cases made
          · cases made

theorem of_makeDirectoriesUpTo {depth : Nat}
    (made : tree.makeDirectoriesUpTo depth path = (.ok (), later)) : Opens tree later path := by
  induction depth generalizing path later with
  | zero =>
      unfold makeDirectoriesUpTo at made
      cases here : tree.makeDirectory path with
      | ok first =>
          simp only [here, Prod.mk.injEq, true_and] at made
          exact of_makeDirectory (made ▸ here)
      | error error => simp [here] at made
  | succ depth ih =>
      unfold makeDirectoriesUpTo at made
      cases here : tree.makeDirectory path with
      | ok first =>
          simp only [here, Prod.mk.injEq, true_and] at made
          exact of_makeDirectory (made ▸ here)
      | error error =>
          cases error with
          | notFound =>
              simp only [here] at made
              generalize above : tree.makeDirectoriesUpTo depth path.parent = answer at made
              obtain ⟨result, first⟩ := answer
              cases result with
              | error error => cases made
              | ok _ =>
                  cases last : first.makeDirectory path with
                  | error error => simp [last] at made
                  | ok second =>
                      simp only [last, Prod.mk.injEq, true_and] at made
                      exact (ih above).trans (of_makeDirectory (made ▸ last))
          | _ => simp [here] at made

theorem of_makeDirectories (made : tree.makeDirectories path = (.ok (), later)) :
    Opens tree later path :=
  of_makeDirectoriesUpTo made

end Opens

/-! ## Writing files -/

/-- A text is written where the path leads, into a file that is there or that is made. -/
theorem exists_place_of_writeText {text : String} (written : tree.writeText path text = .ok later) :
    ∃ place permissions, tree.locate path = .ok place ∧
      Becomes (tree.entryAt? place) (some (.file text.toUTF8 permissions)) ∧
      later = tree.put place (.file text.toUTF8 permissions) := by
  unfold writeText at written
  cases leads : tree.locate path with
  | error error =>
      rw [leads] at written
      cases written
  | ok place =>
      simp only [leads, bind, Except.bind] at written
      refine ⟨place, ?_⟩
      cases here : tree.entryAt? place with
      | none =>
          rw [here] at written
          exact ⟨_, rfl, .created _, eq_put_of_add written⟩
      | some entry =>
          rw [here] at written
          cases entry with
          | file content permissions =>
              dsimp only at written
              split at written
              · exact ⟨permissions, rfl, .replaced _ _ _, (Except.ok.inj written).symm⟩
              · cases written
          | _ => cases written

end ShaderVariants.FileTree
