import ShaderVariants.Proofs.MembersByValue

/-!
# Bodies of value enum classes

The body of a class is a scope: the cases of a value enum are bound in it first, and the statements
behind them look names up there before they look outside.  No case takes the name of a method, and
no class of the module hides a builtin.  What is left are two names.  A case called `classmethod`
is found where the decorator is meant, and a member called `mro` is refused by the enum itself.
-/

namespace ShaderVariants

namespace Generated

/-! ## Reading the body of a class -/

/-- A statement of a class body, as far as it binds a name or looks one up when the class is
made. -/
inductive BodyStatement where
  | assigns (name : String) (literal : Literal)
  | decorates (name : String)
  | defines (name : String)
  deriving DecidableEq

/-- The statement that a line of a class begins, when it is a line of code on its own as all of them
are while the docstring keeps its end.  Lines that are indented further belong to methods, and
annotations are not evaluated. -/
def bodyStatement? (line : String) : Option BodyStatement :=
  let cs := line.toList.drop 4
  if ¬"    ".toList <+: line.toList then none
  else if cs.head? = some '@' then some (.decorates (String.ofList (leadingName cs.tail)))
  else if "def ".toList <+: cs then some (.defines (String.ofList (leadingName (cs.drop 4))))
  else (member? line).map fun (name, literal) => .assigns name literal

/-! ## Making a class -/

/-- Where a name is found that a class body looks up. -/
inductive Origin where
  | classBody
  | moduleLevel
  | builtins
  deriving DecidableEq

/-- What a class binds a name to. -/
inductive Bound where
  | member (literal : Literal)
  | method (decorators : List (String × Origin))
  deriving DecidableEq

/-- Why no class is made: two statements bind the same name, a value is used as a decorator, or a
member has a name that no enum takes. -/
inductive ClassError where
  | rebound (name : String)
  | notCallable (name : String) (literal : Literal)
  | refused (name : String)
  deriving DecidableEq

/-- A class in the making: what it has bound so far, and the decorators of the next method. -/
structure ClassScope where
  bound : List (String × Bound)
  waiting : List (String × Origin)

/-- What a statement does to the class, in a module that binds some names. -/
def ClassScope.step (moduleNames : List String) (scope : ClassScope) :
    BodyStatement → Except ClassError ClassScope
  | .assigns name literal =>
    if (scope.bound.lookup name).isSome then .error (.rebound name)
    else .ok { scope with bound := scope.bound ++ [(name, .member literal)] }
  | .decorates name =>
    match scope.bound.lookup name with
    | some (.member literal) => .error (.notCallable name literal)
    | some (.method _) => .ok { scope with waiting := scope.waiting ++ [(name, .classBody)] }
    | none =>
      let origin := if name ∈ moduleNames then .moduleLevel else .builtins
      .ok { scope with waiting := scope.waiting ++ [(name, origin)] }
  | .defines name =>
    if (scope.bound.lookup name).isSome then .error (.rebound name)
    else .ok ⟨scope.bound ++ [(name, .method scope.waiting)], []⟩

/-- The class when all statements have been executed.  An enum takes no member that is called
`mro`. -/
def ClassScope.finish (scope : ClassScope) : Except ClassError (List (String × Bound)) :=
  match scope.bound.lookup "mro" with
  | some (.member _) => .error (.refused "mro")
  | _ => .ok scope.bound

/-- What the class of some lines binds. -/
def classNamespace (moduleNames lines : List String) : Except ClassError (List (String × Bound)) :=
  (lines.filterMap bodyStatement?).foldlM (ClassScope.step moduleNames) ⟨[], []⟩ >>=
    ClassScope.finish

/-- What the methods of a value enum are called. -/
def methodNames : List String := ["get_value", "from_value", "cases", "__lt__"]

/-- The statements behind the members. -/
def methodStatements : List BodyStatement :=
  [.defines "get_value", .decorates "classmethod", .defines "from_value",
    .decorates "classmethod", .defines "cases", .defines "__lt__"]

/-- The methods that are meant. -/
def methods : List (String × Bound) :=
  [("get_value", .method []), ("from_value", .method [("classmethod", .builtins)]),
    ("cases", .method [("classmethod", .builtins)]), ("__lt__", .method [])]

/-! ### Which lines are statements -/

theorem leadingName_of_def {cs : List Char} (begins : "def ".toList <+: cs) :
    leadingName cs = "def".toList := by
  obtain ⟨rest, rfl⟩ := begins
  exact leadingName_append (by decide : "def".toList.all Text.isIdentifierPart = true)
    (by decide : ' ' ∈ nameEnds) rest

/-- A line with a blank or a quotation mark where a statement would begin. -/
theorem bodyStatement?_eq_none {line : String} {c : Char} (ends : c ∈ nameEnds) (other : c ≠ '@')
    (head : (line.toList.drop 4).head? = some c) : bodyStatement? line = none := by
  obtain ⟨rest, same⟩ := List.head?_eq_some_iff.mp head
  have nameless : leadingName (line.toList.drop 4) = [] := by
    rw [same, leadingName_cons ends]
  have noMethod : ¬"def ".toList <+: line.toList.drop 4 := by
    intro begins
    rw [leadingName_of_def begins] at nameless
    exact absurd nameless (by decide)
  have undecorated : (line.toList.drop 4).head? ≠ some '@' := by
    rw [head]
    simpa using other
  unfold bodyStatement?
  simp only [undecorated, noMethod, if_false, member?_eq_none_of_leadingName nameless,
    Option.map_none, ite_self]

theorem bodyStatement?_memberLine {name : String} (identifier : Text.isIdentifier name = true)
    (noKeyword : name ≠ "def") (literal : Literal) :
    bodyStatement? s!"    {name} = {literal.written}" = some (.assigns name literal) := by
  have inside := Text.all_isIdentifierPart identifier
  let behind := "= ".toList ++ literal.written.toList
  have front : leadingName (name.toList ++ ' ' :: behind) = name.toList :=
    leadingName_append inside (by decide) behind
  have same : (s!"    {name} = {literal.written}").toList =
      "    ".toList ++ (name.toList ++ ' ' :: behind) := by
    simp [toString, behind]
  have indented : "    ".toList <+: "    ".toList ++ (name.toList ++ ' ' :: behind) :=
    List.prefix_append _ _
  have dropped : ("    ".toList ++ (name.toList ++ ' ' :: behind)).drop 4 =
      name.toList ++ ' ' :: behind := rfl
  have undecorated : (name.toList ++ ' ' :: behind).head? ≠ some '@' := by
    intro decorated
    obtain ⟨rest, begins⟩ := List.head?_eq_some_iff.mp decorated
    rw [begins, leadingName_cons (by decide)] at front
    exact Text.toList_ne_nil_of_isIdentifier identifier front.symm
  have noMethod : ¬"def ".toList <+: name.toList ++ ' ' :: behind := by
    intro begins
    rw [leadingName_of_def begins] at front
    exact noKeyword (String.toList_injective front.symm)
  have member := member?_memberLine identifier literal
  unfold bodyStatement?
  simp only [same, dropped, indented, undecorated, noMethod, not_true_eq_false, if_false, member,
    Option.map_some]

theorem bodyStatement?_def {line name : String} (identifier : Text.isIdentifier name = true)
    {rest : List Char} (same : line.toList = "    def ".toList ++ (name.toList ++ '(' :: rest)) :
    bodyStatement? line = some (.defines name) := by
  have inside := Text.all_isIdentifierPart identifier
  have front := leadingName_append inside (by decide : '(' ∈ nameEnds) rest
  have indented : "    ".toList <+: line.toList := ⟨_, same.symm⟩
  have dropped : line.toList.drop 4 = "def ".toList ++ (name.toList ++ '(' :: rest) := by
    rw [same]
    rfl
  have undecorated : ("def ".toList ++ (name.toList ++ '(' :: rest)).head? ≠ some '@' := by
    simp
  have behind : ("def ".toList ++ (name.toList ++ '(' :: rest)).drop 4 =
      name.toList ++ '(' :: rest := rfl
  unfold bodyStatement?
  simp only [dropped, indented, undecorated, behind, front, List.prefix_append, if_true,
    not_true_eq_false, if_false, String.ofList_toList]

theorem EnumClass.filterMap_bodyStatement?_lines {enumClass : EnumClass}
    (usable : ∀ member ∈ enumClass.members, Name.Usable member.1) :
    enumClass.lines.filterMap bodyStatement? =
      enumClass.members.map (fun member => .assigns member.1 member.2) ++ methodStatements := by
  have members : enumClass.memberLines.filterMap bodyStatement? =
      enumClass.members.map fun member => .assigns member.1 member.2 := by
    rw [memberLines, List.filterMap_map, ← List.filterMap_eq_map]
    apply List.filterMap_congr
    intro member listed
    have noKeyword : member.1 ≠ "def" := by
      intro keyword
      exact (usable member listed).notMem_keywords (keyword ▸ by decide)
    exact bodyStatement?_memberLine (usable member listed).isIdentifier noKeyword member.2
  have empty : bodyStatement? "" = none := by decide +kernel
  have opening : ["@functools.total_ordering", s!"class {enumClass.name}(enum.Enum):",
      s!"    \"\"\"{enumClass.summary}\"\"\"", ""].filterMap bodyStatement? = [] := by
    have statement : bodyStatement? s!"class {enumClass.name}(enum.Enum):" = none := by
      simp [bodyStatement?, toString]
    have docstring : bodyStatement? s!"    \"\"\"{enumClass.summary}\"\"\"" = none :=
      bodyStatement?_eq_none (by decide : '"' ∈ nameEnds) (by decide) (by simp [toString])
    have decorator : bodyStatement? "@functools.total_ordering" = none := by decide +kernel
    simp only [List.filterMap_cons, statement, docstring, decorator, empty, List.filterMap_nil]
  let getter := "    def get_value(self) -> " ++ enumClass.kind.annotation ++ ":"
  let finder := "    def from_value(cls, value: " ++ enumClass.kind.annotation ++ ") -> "
    ++ enumClass.name ++ ":"
  let lister := "    def cases(cls) -> tuple[" ++ enumClass.name ++ ", ...]:"
  have gets : bodyStatement? getter = some (.defines "get_value") :=
    bodyStatement?_def (by decide +kernel) (by simp [getter]; rfl)
  have finds : bodyStatement? finder = some (.defines "from_value") :=
    bodyStatement?_def (by decide +kernel) (by simp [finder]; rfl)
  have lists : bodyStatement? lister = some (.defines "cases") :=
    bodyStatement?_def (by decide +kernel) (by simp [lister]; rfl)
  have orders : bodyStatement? "    def __lt__(self, other: object) -> bool:" =
      some (.defines "__lt__") :=
    bodyStatement?_def (by decide +kernel) (by simp; rfl)
  have decorates : bodyStatement? "    @classmethod" = some (.decorates "classmethod") := by
    decide +kernel
  have deep {line : String} (indented : (line.toList.drop 4).head? = some ' ') :
      bodyStatement? line = none := bodyStatement?_eq_none (by decide) (by decide) indented
  simp only [getter, finder, lister] at gets finds lists
  rw [EnumClass.lines, List.filterMap_append, List.filterMap_append, members, opening,
    List.nil_append]
  refine congrArg (_ ++ ·) ?_
  simp [deep, empty, toString, gets, finds, lists, orders, decorates, methodStatements]

/-! ### Executing the statements -/

namespace ClassScope

variable {moduleNames : List String}

theorem step_assigns {scope : ClassScope} {name : String} (unbound : scope.bound.lookup name = none)
    (literal : Literal) :
    scope.step moduleNames (.assigns name literal) =
      .ok { scope with bound := scope.bound ++ [(name, .member literal)] } := by
  simp [step, unbound]

theorem step_defines {scope : ClassScope} {name : String}
    (unbound : scope.bound.lookup name = none) :
    scope.step moduleNames (.defines name) =
      .ok ⟨scope.bound ++ [(name, .method scope.waiting)], []⟩ := by
  simp [step, unbound]

/-- A name that neither the class nor the module binds is that of a builtin. -/
theorem step_decorates {scope : ClassScope} {name : String}
    (unbound : scope.bound.lookup name = none) (visible : name ∉ moduleNames) :
    scope.step moduleNames (.decorates name) =
      .ok { scope with waiting := scope.waiting ++ [(name, .builtins)] } := by
  simp [step, unbound, visible]

theorem step_decorates_member {scope : ClassScope} {name : String} {literal : Literal}
    (bound : scope.bound.lookup name = some (.member literal)) :
    scope.step moduleNames (.decorates name) = .error (.notCallable name literal) := by
  simp [step, bound]

theorem lookup_eq_none_of_notMem {bound : List (String × Bound)} {name : String}
    (outside : name ∉ bound.map Prod.fst) : bound.lookup name = none := by
  rw [List.lookup_eq_none_iff]
  rintro ⟨other, value⟩ member
  have differs : name ≠ other := by
    rintro rfl
    exact outside (List.mem_map_of_mem member)
  simpa using differs

theorem lookup_eq_some_of_mem {bound : List (String × Bound)}
    (distinct : (bound.map Prod.fst).Nodup) {name : String} {value : Bound}
    (member : (name, value) ∈ bound) : bound.lookup name = some value := by
  obtain ⟨before, after, rfl⟩ := List.append_of_mem member
  rw [List.map_append, List.nodup_append] at distinct
  have outside : name ∉ before.map Prod.fst := fun inside =>
    distinct.2.2 name inside name (by simp) rfl
  rw [List.lookup_append, lookup_eq_none_of_notMem outside]
  simp

theorem foldlM_cons_of_ok {scope next : ClassScope} {statement : BodyStatement}
    {statements : List BodyStatement} (here : scope.step moduleNames statement = .ok next) :
    (statement :: statements).foldlM (step moduleNames) scope =
      statements.foldlM (step moduleNames) next := by
  rw [List.foldlM_cons, here]
  rfl

/-- Members with different names are bound one after the other. -/
theorem foldlM_assigns {members : List (String × Literal)} {bound : List (String × Bound)}
    (distinct : (bound.map Prod.fst ++ members.map Prod.fst).Nodup) :
    (members.map fun member => BodyStatement.assigns member.1 member.2).foldlM (step moduleNames)
        ⟨bound, []⟩ =
      .ok ⟨bound ++ members.map fun member => (member.1, .member member.2), []⟩ := by
  induction members generalizing bound with
  | nil => simp; rfl
  | cons member members ih =>
      obtain ⟨name, literal⟩ := member
      have unbound : name ∉ bound.map Prod.fst := fun inside =>
        (List.nodup_append.mp distinct).2.2 name inside name (by simp) rfl
      have here : step moduleNames ⟨bound, []⟩ (.assigns name literal) =
          .ok ⟨bound ++ [(name, .member literal)], []⟩ :=
        step_assigns (lookup_eq_none_of_notMem unbound) literal
      have later : ((bound ++ [(name, Bound.member literal)]).map Prod.fst ++
          members.map Prod.fst).Nodup := by
        simpa using distinct
      have rest := ih later
      rw [List.append_assoc, List.singleton_append] at rest
      rw [List.map_cons, foldlM_cons_of_ok here]
      exact rest

theorem lookup_append_eq_none {bound more : List (String × Bound)}
    {name : String} (first : name ∉ bound.map Prod.fst) (second : name ∉ more.map Prod.fst) :
    (bound ++ more).lookup name = none :=
  lookup_eq_none_of_notMem (by simpa [List.map_append] using not_or.mpr ⟨first, second⟩)

/-- Behind members that have none of their names, the methods are defined as they are meant. -/
theorem foldlM_methodStatements {bound : List (String × Bound)}
    (free : ∀ name ∈ methodNames, name ∉ bound.map Prod.fst)
    (undisturbed : "classmethod" ∉ bound.map Prod.fst) (visible : "classmethod" ∉ moduleNames) :
    methodStatements.foldlM (step moduleNames) ⟨bound, []⟩ = .ok ⟨bound ++ methods, []⟩ := by
  have defines {name : String} (isMethod : name ∈ methodNames) {more : List (String × Bound)}
      (first : name ∉ more.map Prod.fst) (waiting : List (String × Origin)) :
      step moduleNames ⟨bound ++ more, waiting⟩ (.defines name) =
        .ok ⟨bound ++ (more ++ [(name, .method waiting)]), []⟩ := by
    rw [step_defines (lookup_append_eq_none (free name isMethod) first), List.append_assoc]
  have decorates {more : List (String × Bound)} (first : "classmethod" ∉ more.map Prod.fst) :
      step moduleNames ⟨bound ++ more, []⟩ (.decorates "classmethod") =
        .ok ⟨bound ++ more, [("classmethod", .builtins)]⟩ :=
    step_decorates (lookup_append_eq_none undisturbed first) visible
  have start : (⟨bound, []⟩ : ClassScope) = ⟨bound ++ [], []⟩ := by rw [List.append_nil]
  rw [start, methodStatements, foldlM_cons_of_ok (defines (by decide) (by decide) []),
    foldlM_cons_of_ok (decorates (by decide)),
    foldlM_cons_of_ok (defines (by decide) (by decide) _),
    foldlM_cons_of_ok (decorates (by decide)),
    foldlM_cons_of_ok (defines (by decide) (by decide) _),
    foldlM_cons_of_ok (defines (by decide) (by decide) [])]
  rfl

/-- A member that has the name of the decorator is taken for the decorator. -/
theorem foldlM_methodStatements_error {bound : List (String × Bound)}
    (free : "get_value" ∉ bound.map Prod.fst) {literal : Literal}
    (disturbed : bound.lookup "classmethod" = some (.member literal)) :
    methodStatements.foldlM (step moduleNames) ⟨bound, []⟩ =
      .error (.notCallable "classmethod" literal) := by
  have defines : step moduleNames ⟨bound, []⟩ (.defines "get_value") =
      .ok ⟨bound ++ [("get_value", .method [])], []⟩ :=
    step_defines (lookup_eq_none_of_notMem free)
  have decorates : step moduleNames ⟨bound ++ [("get_value", .method [])], []⟩
      (.decorates "classmethod") = .error (.notCallable "classmethod" literal) :=
    step_decorates_member (by rw [List.lookup_append, disturbed]; rfl)
  rw [methodStatements, foldlM_cons_of_ok defines, List.foldlM_cons, decorates]
  rfl

end ClassScope

/-! ### The classes of value enums -/

namespace EnumClass

variable {enumClass : EnumClass} {moduleNames : List String}

/-- The members of the class as it binds them. -/
def boundMembers (enumClass : EnumClass) : List (String × Bound) :=
  enumClass.members.map fun member => (member.1, .member member.2)

theorem map_fst_boundMembers (enumClass : EnumClass) :
    enumClass.boundMembers.map Prod.fst = enumClass.members.map Prod.fst := by
  rw [boundMembers, List.map_map]
  rfl

/-- The members are bound first, and then the methods are defined. -/
theorem classNamespace_lines (usable : ∀ member ∈ enumClass.members, Name.Usable member.1)
    (namesDiffer : (enumClass.members.map Prod.fst).Nodup) :
    classNamespace moduleNames enumClass.lines =
      methodStatements.foldlM (ClassScope.step moduleNames) ⟨enumClass.boundMembers, []⟩ >>=
        ClassScope.finish := by
  have members : (enumClass.members.map fun member =>
      BodyStatement.assigns member.1 member.2).foldlM (ClassScope.step moduleNames) ⟨[], []⟩ =
      .ok ⟨enumClass.boundMembers, []⟩ :=
    ClassScope.foldlM_assigns (by simpa using namesDiffer)
  rw [classNamespace, filterMap_bodyStatement?_lines usable, List.foldlM_append, members]
  rfl

/-- What becomes of a class whose members have no names of methods. -/
theorem classNamespace_eq (usable : ∀ member ∈ enumClass.members, Name.Usable member.1)
    (namesDiffer : (enumClass.members.map Prod.fst).Nodup)
    (free : ∀ member ∈ enumClass.members, member.1 ∉ methodNames)
    (visible : "classmethod" ∉ moduleNames) :
    (∀ literal, ("classmethod", literal) ∈ enumClass.members →
      classNamespace moduleNames enumClass.lines = .error (.notCallable "classmethod" literal)) ∧
    ("classmethod" ∉ enumClass.members.map Prod.fst →
      classNamespace moduleNames enumClass.lines =
        if "mro" ∈ enumClass.members.map Prod.fst then .error (.refused "mro")
        else .ok (enumClass.boundMembers ++ methods)) := by
  have names := enumClass.map_fst_boundMembers
  have free' : ∀ name ∈ methodNames, name ∉ enumClass.boundMembers.map Prod.fst := by
    rw [names]
    intro name isMethod inside
    obtain ⟨member, listed, rfl⟩ := List.mem_map.mp inside
    exact free member listed isMethod
  have bound {name : String} {literal : Literal} (listed : (name, literal) ∈ enumClass.members) :
      enumClass.boundMembers.lookup name = some (.member literal) :=
    ClassScope.lookup_eq_some_of_mem (names ▸ namesDiffer)
      (List.mem_map.mpr ⟨(name, literal), listed, rfl⟩)
  rw [classNamespace_lines usable namesDiffer]
  constructor
  · intro literal listed
    rw [ClassScope.foldlM_methodStatements_error (free' _ (by decide)) (bound listed)]
    rfl
  · intro undisturbed
    rw [ClassScope.foldlM_methodStatements free' (names ▸ undisturbed) visible]
    change ClassScope.finish ⟨_, _⟩ = _
    unfold ClassScope.finish
    by_cases refused : "mro" ∈ enumClass.members.map Prod.fst
    · obtain ⟨⟨name, literal⟩, listed, rfl⟩ := List.mem_map.mp refused
      rw [if_pos refused, List.lookup_append, bound listed]
      rfl
    · have unbound := ClassScope.lookup_append_eq_none (names ▸ refused)
        (by decide : "mro" ∉ methods.map Prod.fst)
      rw [if_neg refused, unbound]

end EnumClass

end Generated

/-- No case has the name of a method.  Those of the generated members are taken, and the last one
begins with an underscore, as no case does. -/
theorem ValueEnum.WellFormed.caseNames_notMem_methodNames {valueEnum : ValueEnum}
    (rules : valueEnum.WellFormed) :
    ∀ case ∈ valueEnum.cases, case.name ∉ Generated.methodNames := by
  intro case member isMethod
  have listed : Generated.methodNames = ValueEnum.generatedMembers ++ ["__lt__"] := rfl
  rw [listed, List.mem_append, List.mem_singleton] at isMethod
  rcases isMethod with generated | order
  · exact rules.caseNamesFree case member generated
  · exact (rules.caseNamesUsable case member).head?_ne (by rw [order]; decide)

namespace Module

open Generated (Binding BodyStatement bodyStatement? classNamespace methodNames methodStatements)

variable {module : Module}

/-- No builtin is hidden by a name of the generated module. -/
theorem WellFormed.builtin_notMem_bindings (rules : module.WellFormed)
    {resolved : List ResolvedDeclaration}
    (inOrder : resolved.map ResolvedDeclaration.declaration = module.declarations) {name : String}
    (usable : Name.Usable name) (reserved : name ∈ Name.reserved)
    (notImported : name ∉ importedNames) :
    name ∉ (module.emitted resolved).bindings.map Binding.name := by
  have noClass : name ∉ module.classNames := fun isClass =>
    rules.classNamesFree name isClass usable reserved
  have noPrivate : name ∉ module.privateNames := fun isPrivate =>
    usable.head?_ne (head?_of_mem_privateNames isPrivate)
  rw [rules.bindings_emitted inOrder]
  simp only [List.map_append, List.map_map, List.map_flatMap, List.mem_append, not_or]
  refine ⟨⟨⟨?_, ?_⟩, ?_⟩, ?_⟩
  · exact notImported
  · intro exported
    exact noPrivate (List.mem_singleton.mp exported ▸ List.mem_cons_self)
  · intro ofEnum
    exact noClass (List.mem_append_left _ ofEnum)
  · intro ofDeclaration
    obtain ⟨declaration, declared, named⟩ := List.mem_flatMap.mp ofDeclaration
    rcases List.mem_append.mp named with ofClass | ofTable
    · refine noClass (List.mem_append_right _ (List.mem_flatMap.mpr ⟨declaration, declared, ?_⟩))
      simpa [Function.comp_def, Binding.name] using ofClass
    · refine noPrivate (List.mem_cons_of_mem _ (List.mem_flatMap.mpr ⟨declaration, declared, ?_⟩))
      simpa [Function.comp_def, Binding.name] using ofTable

/-- The class bodies of the module that is generated from an accepted one.  Their lines are lines of
code on their own as long as the docstring keeps its end.  Behind its members, a class defines its
methods, whose names no case has.  It is made as it is meant, unless a case is
called like the decorator, or like the one name that enums refuse. -/
theorem Accepted.classBodies_of_ofResolved (accepted : module.Accepted)
    {resolved : List ResolvedDeclaration}
    (inOrder : resolved.map ResolvedDeclaration.declaration = module.declarations)
    {generated : Generated.Module}
    (emitted : Generated.ofResolved module resolved = .ok generated) :
    ∀ valueEnum ∈ module.valueEnums,
      let lines := (Generated.enumClass valueEnum).lines
      let names := valueEnum.cases.map ValueEnum.Case.name
      let made := classNamespace (generated.bindings.map Binding.name) lines
      lines <:+: generated.lines ∧
      Generated.HasLines generated.text.toList lines ∧
      (valueEnum.KeepsDocstring → ∀ line ∈ lines, Text.Code.StandsAlone line) ∧
      lines.filterMap bodyStatement? =
        valueEnum.cases.map (fun case => .assigns case.name case.value.literal)
          ++ methodStatements ∧
      (∀ name ∈ names, name ∉ methodNames) ∧
      (∀ case ∈ valueEnum.cases, case.name = "classmethod" →
        made = .error (.notCallable "classmethod" case.value.literal)) ∧
      ("classmethod" ∉ names → "mro" ∈ names → made = .error (.refused "mro")) ∧
      ("classmethod" ∉ names → "mro" ∉ names →
        made = .ok (valueEnum.cases.map (fun case => (case.name, .member case.value.literal))
          ++ Generated.methods)) := by
  have rules := accepted.wellFormed
  intro valueEnum declared lines names made
  have enumRules := rules.valueEnums valueEnum declared
  have inside := Generated.enumClass_lines_infix_of_ofResolved emitted declared
  obtain rfl := rules.eq_emitted inOrder emitted
  have usable : ∀ member ∈ (Generated.enumClass valueEnum).members, Name.Usable member.1 :=
    List.forall_mem_map.mpr fun case member => enumRules.caseNamesUsable case member
  have free := enumRules.caseNames_notMem_methodNames
  have visible := rules.builtin_notMem_bindings inOrder
    (by decide +kernel : Name.Usable "classmethod") (by decide +kernel) (by decide +kernel)
  have memberNames : (Generated.enumClass valueEnum).members.map Prod.fst = names := by
    simp [Generated.enumClass, names]
  obtain ⟨disturbed, undisturbed⟩ := Generated.EnumClass.classNamespace_eq usable
    (memberNames ▸ enumRules.caseNamesDiffer) (List.forall_mem_map.mpr free) visible
  have printed := Generated.Module.hasLines_of_infix inside
  refine ⟨inside, printed, enumRules.standsAlone_lines, ?_, ?_, ?_, ?_,
    ?_⟩
  · rw [Generated.EnumClass.filterMap_bodyStatement?_lines usable]
    simp [Generated.enumClass]
  · exact List.forall_mem_map.mpr free
  · intro case member named
    exact disturbed _ (List.mem_map.mpr ⟨case, member, by rw [named]⟩)
  · intro noDecorator refused
    exact (undisturbed (memberNames ▸ noDecorator)).trans (if_pos (memberNames ▸ refused))
  · intro noDecorator taken
    have bound : (Generated.enumClass valueEnum).boundMembers =
        valueEnum.cases.map fun case => (case.name, .member case.value.literal) := List.map_map
    rw [← bound]
    exact (undisturbed (memberNames ▸ noDecorator)).trans (if_neg (memberNames ▸ taken))

/-- A value enum with one case. -/
def oneCase (name case : String) : ValueEnum :=
  ⟨name, none, .bool, [⟨case, .ofBool true, none⟩], false, none⟩

/-- Three value enums, of which the first has a case with the name of the decorator and the second
one that no enum takes. -/
def disturbed : Module where
  file := "a.wgslv"
  valueEnums := [oneCase "A" "classmethod", oneCase "B" "mro", oneCase "C" "Off"]
  declarations := []

theorem disturbed_classBodies :
    disturbed.Accepted ∧ ∃ generated, Generated.ofResolved disturbed [] = .ok generated ∧
      let made (valueEnum : ValueEnum) := classNamespace (generated.bindings.map Binding.name)
        (Generated.enumClass valueEnum).lines
      made (oneCase "A" "classmethod") = .error (.notCallable "classmethod" (.bool true)) ∧
      made (oneCase "B" "mro") = .error (.refused "mro") ∧
      made (oneCase "C" "Off") = .ok (("Off", .member (.bool true)) :: Generated.methods) := by
  have accepted : disturbed.Accepted := by decide +kernel
  have inOrder : ([] : List ResolvedDeclaration).map ResolvedDeclaration.declaration =
      disturbed.declarations := rfl
  have emitted : Generated.ofResolved disturbed [] = .ok (disturbed.emitted []) := rfl
  have bodies := accepted.classBodies_of_ofResolved inOrder emitted
  obtain ⟨-, -, -, -, -, decorator, -⟩ := bodies (oneCase "A" "classmethod") (by simp [disturbed])
  obtain ⟨-, -, -, -, -, -, refused, -⟩ := bodies (oneCase "B" "mro") (by simp [disturbed])
  obtain ⟨-, -, -, -, -, -, -, meant⟩ := bodies (oneCase "C" "Off") (by simp [disturbed])
  refine ⟨accepted, _, emitted, ?_, ?_, ?_⟩
  · exact decorator _ List.mem_cons_self rfl
  · exact refused (by decide) (by decide)
  · exact meant (by decide) (by decide)

end Module

end ShaderVariants
