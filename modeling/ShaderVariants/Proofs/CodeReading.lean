import ShaderVariants.Proofs.QuotedText
import ShaderVariants.Proofs.UsableName

/-!
# Reading code

Code is read character by character.  What stands between the marks of a literal or behind a number
sign belongs to no statement, and a line break ends a statement only outside of brackets.  What is
left is an outline: lines of code that stand for one statement each, with a mark in place of every
literal.  The statements at the top level are those whose lines begin at the left margin.

What is read of texts behind each other is what is read of them one by one, each from where the one
before has left off.
-/

namespace ShaderVariants.Text.Code

/-! ## The reader -/

/-- Where a character stands: outside of literals, in a comment, behind a backslash that joins two
lines, behind one or two marks that open a literal, in a literal between three marks or single ones,
behind so many of its marks, or behind a backslash in a literal. -/
inductive Place where
  | outside
  | comment
  | joining
  | opening (mark : Char) (twice : Bool)
  | literal (mark : Char) (isLong : Bool) (seen : Nat)
  | escaped (mark : Char) (isLong : Bool)
  deriving DecidableEq

/-- Where the reader stands, and the brackets that are to be closed. -/
structure State where
  place : Place
  closers : List Char
  deriving DecidableEq

namespace State

/-- Outside of literals, with some brackets to be closed. -/
def within (closers : List Char) : State := ⟨.outside, closers⟩

/-- Outside of literals and brackets. -/
abbrev start : State := within []

end State

def closer? : Char → Option Char
  | '(' => some ')'
  | '[' => some ']'
  | '\x7b' => some '\x7d'
  | _ => none

/-- Characters that begin a line anew although no line break stands there.  Code with one of them is
refused. -/
def strays : List Char := ['\r', '\x0c']

/-- A character outside of literals: what it adds to the outline, and where the reader stands
afterwards. -/
def readOutside (closers : List Char) (c : Char) : Option (List Char × State) :=
  if c ∈ strays then none
  else if c = '\n' then some (if closers = [] then [c] else [], .within closers)
  else if c = '\'' ∨ c = '"' then some ([c], ⟨.opening c false, closers⟩)
  else if c = '#' then some ([], ⟨.comment, closers⟩)
  else if c = '\\' then some ([], ⟨.joining, closers⟩)
  else
    match closer? c with
    | some closer => some ([c], .within (closer :: closers))
    | none =>
      if c = ')' ∨ c = ']' ∨ c = '\x7d' then
        if closers.head? = some c then some ([c], .within closers.tail) else none
      else some ([c], .within closers)

/-- A character in a literal.  A line must not end between single marks. -/
def readLiteral (mark : Char) (isLong : Bool) (seen : Nat) (c : Char) : Option Place :=
  if c = '\\' then some (.escaped mark isLong)
  else if c = mark then
    if isLong = true ∧ seen < 2 then some (.literal mark isLong (seen + 1)) else some .outside
  else if (c = '\n' ∨ c = '\r') ∧ isLong = false then none
  else some (.literal mark isLong 0)

def step (state : State) (c : Char) : Option (List Char × State) :=
  let inLiteral (place : Option Place) := place.map fun place => ([], ⟨place, state.closers⟩)
  match state.place with
  | .outside => readOutside state.closers c
  | .comment =>
    if c = '\n' then readOutside state.closers c
    else if c ∈ strays then none
    else some ([], state)
  | .joining => if c = '\n' then some ([], .within state.closers) else none
  | .opening mark false =>
    if c = mark then some ([], ⟨.opening mark true, state.closers⟩)
    else inLiteral (readLiteral mark false 0 c)
  | .opening mark true =>
    if c = mark then some ([], ⟨.literal mark true 0, state.closers⟩)
    else readOutside state.closers c
  | .literal mark isLong seen => inLiteral (readLiteral mark isLong seen c)
  | .escaped mark isLong => some ([], ⟨.literal mark isLong 0, state.closers⟩)

/-- The outline of some characters, and where the reader stands behind them. -/
def run : State → List Char → Option (List Char × State)
  | state, [] => some ([], state)
  | state, c :: cs => do
    let (code, next) ← step state c
    let (rest, last) ← run next cs
    return (code ++ rest, last)

/-- The lines of code in a text whose last line ends. -/
def lines? (text : List Char) : Option (List (List Char)) :=
  match run .start text with
  | some (outline, state) => if state = .start then some (outline.splitOn '\n') else none
  | none => none

/-- Whether a line of code begins at the left margin. -/
def atMargin (line : List Char) : Bool := line.head?.any fun c => c ≠ ' ' && c ≠ '\t'

/-- The lines of code at the top level of a text. -/
def topLevel? (text : List Char) : Option (List (List Char)) :=
  (lines? text).map fun lines => lines.filter atMargin

-- A literal that goes over two lines, and a list that does.
example : topLevel? "a = '''\nb = 1''' # c\nd = [\n1]\nif e:\n    f\n".toList =
    some ["a = ' ".toList, "d = [1]".toList, "if e:".toList] := by
  decide +kernel

/-! ## Texts behind each other -/

/-- Some characters are read from a state to another one, and leave an outline. -/
def Reads (state : State) (cs outline : List Char) (next : State) : Prop :=
  run state cs = some (outline, next)

instance (state : State) (cs outline : List Char) (next : State) :
    Decidable (Reads state cs outline next) := inferInstanceAs (Decidable (_ = _))

namespace Reads

variable {state middle next : State} {closers : List Char}

theorem nil (state : State) : Reads state [] [] state := rfl

theorem cons {c : Char} {code cs outline : List Char} (first : step state c = some (code, middle))
    (rest : Reads middle cs outline next) : Reads state (c :: cs) (code ++ outline) next := by
  unfold Reads at rest ⊢
  simp [run, first, rest]

theorem append {first second outline outline' : List Char}
    (reads : Reads state first outline middle) (reads' : Reads middle second outline' next) :
    Reads state (first ++ second) (outline ++ outline') next := by
  induction first generalizing state outline with
  | nil =>
      obtain ⟨rfl, rfl⟩ := Prod.mk.inj (Option.some.inj reads)
      exact reads'
  | cons c first ih =>
      unfold Reads run at reads
      cases here : step state c with
      | none => simp [here] at reads
      | some answer =>
          obtain ⟨code, after⟩ := answer
          cases later : run after first with
          | none => simp [here, later] at reads
          | some answer =>
              obtain ⟨rest, last⟩ := answer
              simp only [here, later, Option.bind_eq_bind, Option.bind_some, Option.pure_def,
                Option.some.injEq, Prod.mk.injEq] at reads
              obtain ⟨rfl, rfl⟩ := reads
              rw [List.append_assoc]
              exact cons here (ih later)

theorem flatMap {α : Type} {text outline : α → List Char} {items : List α}
    (each : ∀ item ∈ items, Reads state (text item) (outline item) state) :
    Reads state (items.flatMap text) (items.flatMap outline) state := by
  induction items with
  | nil => exact nil state
  | cons item items ih =>
      rw [List.forall_mem_cons] at each
      rw [List.flatMap_cons, List.flatMap_cons]
      exact each.1.append (ih each.2)

end Reads

/-! ## Characters outside of literals -/

/-- Characters that say something about what stands behind them. -/
def marks : List Char :=
  ['\n', '\'', '"', '#', '\\', '(', '[', '\x7b', ')', ']', '\x7d', '\r', '\x0c']

theorem readOutside_of_notMem_marks {c : Char} (plain : c ∉ marks) (closers : List Char) :
    readOutside closers c = some ([c], .within closers) := by
  simp only [marks, List.mem_cons, List.not_mem_nil, or_false, not_or] at plain
  have opens : closer? c = none := by
    unfold closer?
    split <;> simp_all
  simp [readOutside, strays, opens, plain]

/-- Without such characters, code is its own outline. -/
theorem reads_of_notMem_marks {cs : List Char} (plain : ∀ c ∈ cs, c ∉ marks)
    (closers : List Char) : Reads (.within closers) cs cs (.within closers) := by
  induction cs with
  | nil => exact Reads.nil _
  | cons c cs ih =>
      rw [List.forall_mem_cons] at plain
      have first : step (.within closers) c = some ([c], .within closers) :=
        readOutside_of_notMem_marks plain.1 closers
      exact Reads.cons first (ih plain.2)

/-- A blank in front is kept. -/
theorem exists_of_reads_blank {cs outline : List Char} {closers : List Char} {next : State}
    (reads : Reads (.within closers) (' ' :: cs) outline next) :
    ∃ behind, outline = ' ' :: behind := by
  have first : step (.within closers) ' ' = some ([' '], .within closers) :=
    readOutside_of_notMem_marks (by decide) closers
  unfold Reads run at reads
  rw [first] at reads
  cases rest : run (.within closers) cs with
  | none => simp [rest] at reads
  | some answer =>
      simp only [rest, Option.bind_eq_bind, Option.bind_some, Option.pure_def, Option.some.injEq,
        Prod.mk.injEq] at reads
      exact ⟨answer.1, reads.1.symm⟩

theorem notMem_marks_of_isIdentifierPart {c : Char} (part : isIdentifierPart c = true) :
    c ∉ marks := by
  intro mark
  simp only [marks, List.mem_cons, List.not_mem_nil, or_false] at mark
  rcases mark with rfl | rfl | rfl | rfl | rfl | rfl | rfl | rfl | rfl | rfl | rfl | rfl | rfl <;>
    revert part <;> decide

theorem reads_identifier {name : String} (identifier : isIdentifier name = true)
    (closers : List Char) :
    Reads (.within closers) name.toList name.toList (.within closers) :=
  reads_of_notMem_marks (fun _ member =>
    notMem_marks_of_isIdentifierPart (isIdentifierPart_of_mem identifier member)) closers

/-! ## Literals -/

open StringLiteral (split? docstringMarks IsMarks)

/-- In a literal, a character that is no mark and no backslash and ends no line. -/
theorem step_literal {mark c : Char} (other : c ≠ mark) (plain : c ≠ '\\')
    (unbroken : endsLine c = false) (isLong : Bool) (seen : Nat) (closers : List Char) :
    step ⟨.literal mark isLong seen, closers⟩ c =
      some ([], ⟨.literal mark isLong 0, closers⟩) := by
  have noBreak : ¬(c = '\n' ∨ c = '\r') := by
    rintro (rfl | rfl)
    · exact absurd unbroken (by decide)
    · exact absurd unbroken (by decide)
  simp [step, readLiteral, other, plain, noBreak]

theorem reads_in_literal {mark : Char} {cs : List Char}
    (plain : ∀ c ∈ cs, c ≠ mark ∧ c ≠ '\\' ∧ endsLine c = false) (isLong : Bool)
    (closers : List Char) :
    Reads ⟨.literal mark isLong 0, closers⟩ cs [] ⟨.literal mark isLong 0, closers⟩ := by
  induction cs with
  | nil => exact Reads.nil _
  | cons c cs ih =>
      rw [List.forall_mem_cons] at plain
      obtain ⟨⟨other, noBackslash, unbroken⟩, later⟩ := plain
      exact Reads.cons (step_literal other noBackslash unbroken isLong 0 closers) (ih later)

/-- In a literal, a backslash takes the character behind it along. -/
theorem reads_backslash (mark c : Char) (isLong : Bool) (seen : Nat) (closers : List Char) :
    Reads ⟨.literal mark isLong seen, closers⟩ ['\\', c] [] ⟨.literal mark isLong 0, closers⟩ := by
  have first : step ⟨.literal mark isLong seen, closers⟩ '\\' =
      some ([], ⟨.escaped mark isLong, closers⟩) := by
    simp [step, readLiteral]
  have second : step ⟨.escaped mark isLong, closers⟩ c =
      some ([], ⟨.literal mark isLong 0, closers⟩) := rfl
  exact Reads.cons first (Reads.cons second (Reads.nil _))

/-! ### Docstrings -/

/-- Behind one or two double quotes, others begin anew. -/
theorem split?_replicate_append {seen : Nat} (few : seen ≤ 2) {c : Char} (other : c ≠ '"')
    (rest : List Char) :
    split? docstringMarks (List.replicate seen '"' ++ c :: rest) = none ↔
      split? docstringMarks (c :: rest) = none := by
  have away (quotes : List Char) (short : quotes.length ≤ 2) :
      ¬docstringMarks <+: quotes ++ c :: rest := by
    intro inFront
    have there := StringLiteral.isMarks_docstringMarks.prefix_of_prefix_append other inFront
    exact absurd (there.length_le.trans short) (by decide)
  induction seen with
  | zero => rfl
  | succ seen ih =>
      have inFront := away (List.replicate (seen + 1) '"') (by simpa using few)
      rw [List.replicate_succ, List.cons_append] at inFront ⊢
      rw [StringLiteral.split?_ordinary inFront (by decide), Option.map_eq_none_iff]
      exact ih (by omega)

/-- A text without closing marks of its own is passed over, together with a character behind it that
is no mark and no backslash. -/
theorem reads_of_split?_eq_none {cs : List Char} {seen : Nat} (few : seen ≤ 2)
    (notClosed : split? docstringMarks (List.replicate seen '"' ++ cs) = none) {last : Char}
    (other : last ≠ '"') (plain : last ≠ '\\') (closers : List Char) :
    Reads ⟨.literal '"' true seen, closers⟩ (cs ++ [last]) []
      ⟨.literal '"' true 0, closers⟩ := by
  -- A backslash takes the character behind it along, so the induction is on the length.
  induction size : cs.length using Nat.strong_induction_on generalizing cs seen with
  | _ size ih =>
    subst size
    cases cs with
    | nil =>
        have first : step ⟨.literal '"' true seen, closers⟩ last =
            some ([], ⟨.literal '"' true 0, closers⟩) := by
          simp [step, readLiteral, other, plain]
        exact Reads.cons first (Reads.nil _)
    | cons c cs =>
        by_cases mark : c = '"'
        · subst mark
          have once : List.replicate seen '"' ++ '"' :: cs =
              List.replicate (seen + 1) '"' ++ cs := by
            rw [List.replicate_succ', List.append_assoc, List.singleton_append]
          rw [once] at notClosed
          have notThird : seen < 2 := by
            refine Nat.lt_of_le_of_ne few fun third => ?_
            have closed := StringLiteral.split?_marks_append
              StringLiteral.isMarks_docstringMarks cs
            rw [third] at notClosed
            exact absurd (notClosed.symm.trans closed) nofun
          have first : step ⟨.literal '"' true seen, closers⟩ '"' =
              some ([], ⟨.literal '"' true (seen + 1), closers⟩) := by
            simp [step, readLiteral, notThird]
          exact Reads.cons first (ih _ (by simp) notThird notClosed rfl)
        rw [split?_replicate_append few mark] at notClosed
        by_cases backslash : c = '\\'
        · subst backslash
          cases cs with
          | nil => exact reads_backslash '"' last true seen closers
          | cons d cs =>
              have away := StringLiteral.isMarks_docstringMarks.not_prefix_cons mark (d :: cs)
              rw [StringLiteral.split?_backslash away, Option.map_eq_none_iff] at notClosed
              have rest := ih cs.length (by simp) (Nat.zero_le 2) notClosed rfl
              exact (reads_backslash '"' d true seen closers).append rest
        · have away := StringLiteral.isMarks_docstringMarks.not_prefix_cons mark cs
          rw [StringLiteral.split?_ordinary away backslash, Option.map_eq_none_iff] at notClosed
          have first : step ⟨.literal '"' true seen, closers⟩ c =
              some ([], ⟨.literal '"' true 0, closers⟩) := by
            simp [step, readLiteral, mark, backslash]
          exact Reads.cons first (ih cs.length (by simp) (Nat.zero_le 2) notClosed rfl)

/-- A docstring that its own marks close. -/
theorem reads_docstring {content init : List Char} {last : Char} (ends : content = init ++ [last])
    (other : last ≠ '"') (plain : last ≠ '\\')
    (notClosed : split? docstringMarks content = none) (closers : List Char) :
    Reads (.within closers) (docstringMarks ++ (content ++ docstringMarks)) ['"']
      (.within closers) := by
  have opening : Reads (.within closers) docstringMarks ['"']
      ⟨.literal '"' true 0, closers⟩ := rfl
  have closing : Reads ⟨.literal '"' true 0, closers⟩ docstringMarks [] (.within closers) := rfl
  rw [ends, StringLiteral.split?_append_cons_eq_none_iff StringLiteral.isMarks_docstringMarks other
    plain] at notClosed
  have inside := reads_of_split?_eq_none (Nat.zero_le 2) notClosed.1 other plain closers
  rw [ends]
  exact opening.append (inside.append closing)

/-! ### Quoted text -/

open Quoted (IsQuote Encodes encodeChars encodes_encodeChar isQuote_mark)

theorem reads_encodes {mark c : Char} {written : List Char} (encodes : Encodes mark c written)
    (isQuote : IsQuote mark) (closers : List Char) :
    Reads ⟨.literal mark false 0, closers⟩ written [] ⟨.literal mark false 0, closers⟩ := by
  have unbroken := encodes.endsLine_eq_false
  cases encodes with
  | @letter letter stands => exact reads_backslash mark letter false 0 closers
  | plain notMark notBackslash printable =>
      refine reads_in_literal ?_ false closers
      rw [List.forall_mem_singleton] at unbroken ⊢
      exact ⟨notMark, notBackslash, unbroken⟩
  | @code letter width announced fits =>
      have digits : ∀ d ∈ hexDigits width c.toNat, d ≠ mark ∧ d ≠ '\\' ∧
          endsLine d = false := by
        intro d member
        obtain ⟨digit, small, rfl⟩ := exists_of_mem_hexDigits member
        clear member
        rcases isQuote with rfl | rfl
        · revert digit
          decide
        · revert digit
          decide
      exact (reads_backslash mark letter false 0 closers).append
        (reads_in_literal digits false closers)

theorem reads_body {mark : Char} (isQuote : IsQuote mark) (cs closers : List Char) :
    Reads ⟨.literal mark false 0, closers⟩ (Quoted.body mark cs) []
      ⟨.literal mark false 0, closers⟩ := by
  induction cs with
  | nil => exact Reads.nil _
  | cons c cs ih =>
      rw [Quoted.body_cons]
      exact (reads_encodes (encodes_encodeChar isQuote c) isQuote closers).append ih

/-- Behind the first mark of a literal, anything but another mark is read as in the literal. -/
theorem Reads.of_literal {mark : Char} {closers cs outline : List Char} {next : State}
    (reads : Reads ⟨.literal mark false 0, closers⟩ cs outline next) {first : Char}
    {rest : List Char} (same : cs = first :: rest) (other : first ≠ mark) :
    Reads ⟨.opening mark false, closers⟩ cs outline next := by
  have step_eq : step ⟨.opening mark false, closers⟩ first =
      step ⟨.literal mark false 0, closers⟩ first := by
    simp [step, other]
  unfold Reads at reads ⊢
  rw [same] at reads ⊢
  rw [run, step_eq]
  exact reads

/-- Quoted text is a mark in the outline, whatever it holds, in front of anything but a mark. -/
theorem reads_encodeChars (cs : List Char) {closers code : List Char} {c : Char} {next : State}
    (behind : readOutside closers c = some (code, next)) (other : c ≠ Quoted.mark cs) :
    Reads (.within closers) (encodeChars cs ++ [c]) (Quoted.mark cs :: code) next := by
  have isQuote := isQuote_mark cs
  have opening : step (.within closers) (Quoted.mark cs) =
      some ([Quoted.mark cs], ⟨.opening (Quoted.mark cs) false, closers⟩) := by
    rcases isQuote with same | same <;> rw [same] <;> rfl
  have after : Reads (.within closers) [c] code next := by
    have first : step (.within closers) c = some (code, next) := behind
    have whole := Reads.cons first (Reads.nil next)
    rwa [List.append_nil] at whole
  rw [encodeChars, List.cons_append, List.append_assoc, List.singleton_append]
  refine Reads.cons opening ?_
  cases cs with
  | nil =>
      have twice : step ⟨.opening (Quoted.mark []) false, closers⟩ (Quoted.mark []) =
          some ([], ⟨.opening (Quoted.mark []) true, closers⟩) := by
        simp [step]
      have last : step ⟨.opening (Quoted.mark []) true, closers⟩ c = some (code, next) := by
        simp [step, other, behind]
      have whole := Reads.cons twice (Reads.cons last (Reads.nil next))
      rwa [List.append_nil] at whole
  | cons d ds =>
      generalize Quoted.mark (d :: ds) = mark at *
      have closing : step ⟨.literal mark false 0, closers⟩ mark =
          some ([], .within closers) := by
        rcases isQuote with rfl | rfl <;> rfl
      have inside := (reads_body isQuote (d :: ds) closers).append (Reads.cons closing after)
      obtain ⟨first, rest, written, differs⟩ := Quoted.exists_cons_of_ne
        (encodes_encodeChar isQuote d) isQuote fun _ => rfl
      have same : Quoted.body mark (d :: ds) ++ [mark, c] =
          first :: (rest ++ Quoted.body mark ds ++ [mark, c]) := by
        rw [Quoted.body_cons, written]
        simp
      exact inside.of_literal same differs

/-! ## Lines of a text -/

/-- From a state, some characters lead to another one, and no line of code ends in them. -/
def Leads (state : State) (cs : List Char) (next : State) : Prop :=
  ∃ outline, Reads state cs outline next ∧ '\n' ∉ outline

/-- What decides where characters lead. -/
theorem leads_iff {state next : State} {cs : List Char} :
    Leads state cs next ↔
      (run state cs).any (fun read => read.2 = next && '\n' ∉ read.1) = true := by
  unfold Leads Reads
  cases run state cs with
  | none => simp
  | some read =>
      obtain ⟨outline, last⟩ := read
      simp only [Option.some.injEq, Prod.mk.injEq, Option.any_some, Bool.and_eq_true,
        decide_eq_true_eq]
      constructor
      · rintro ⟨code, ⟨rfl, rfl⟩, unbroken⟩
        exact ⟨rfl, unbroken⟩
      · rintro ⟨rfl, unbroken⟩
        exact ⟨outline, ⟨rfl, rfl⟩, unbroken⟩

instance (state : State) (cs : List Char) (next : State) : Decidable (Leads state cs next) :=
  decidable_of_iff _ leads_iff.symm

theorem Leads.append {state middle next : State} {first second : List Char}
    (leads : Leads state first middle) (leads' : Leads middle second next) :
    Leads state (first ++ second) next := by
  obtain ⟨outline, reads, unbroken⟩ := leads
  obtain ⟨outline', reads', unbroken'⟩ := leads'
  refine ⟨_, reads.append reads', ?_⟩
  rw [List.mem_append, not_or]
  exact ⟨unbroken, unbroken'⟩

theorem noBreak_of_notMem_marks {cs : List Char} (plain : ∀ c ∈ cs, c ∉ marks) : '\n' ∉ cs :=
  fun inside => plain _ inside (by decide)

theorem leads_of_notMem_marks {cs : List Char} (plain : ∀ c ∈ cs, c ∉ marks)
    (closers : List Char) : Leads (.within closers) cs (.within closers) :=
  ⟨_, reads_of_notMem_marks plain closers, noBreak_of_notMem_marks plain⟩

theorem notMem_marks_of_isIdentifier {name : String} (identifier : isIdentifier name = true) :
    ∀ c ∈ name.toList, c ∉ marks := fun _ member =>
  notMem_marks_of_isIdentifierPart (isIdentifierPart_of_mem identifier member)

theorem leads_identifier {name : String} (identifier : isIdentifier name = true)
    (closers : List Char) : Leads (.within closers) name.toList (.within closers) :=
  leads_of_notMem_marks (notMem_marks_of_isIdentifier identifier) closers

/-- An identifier in a literal. -/
theorem leads_identifier_in_literal {name : String} (identifier : isIdentifier name = true)
    {mark : Char} (isQuote : IsQuote mark) (isLong : Bool) (closers : List Char) :
    Leads ⟨.literal mark isLong 0, closers⟩ name.toList ⟨.literal mark isLong 0, closers⟩ := by
  refine ⟨[], reads_in_literal (fun c member => ?_) isLong closers, List.not_mem_nil⟩
  have unbroken := endsLine_eq_false_of_isIdentifierPart (isIdentifierPart_of_mem identifier member)
  have plain := notMem_marks_of_isIdentifier identifier c member
  simp only [marks, List.mem_cons, List.not_mem_nil, or_false, not_or] at plain
  rcases isQuote with rfl | rfl
  · exact ⟨plain.2.1, plain.2.2.2.2.1, unbroken⟩
  · exact ⟨plain.2.2.1, plain.2.2.2.2.1, unbroken⟩

/-- A line is empty or begins with a blank. -/
def Indented (line : String) : Prop := ∀ c ∈ line.toList.head?, c = ' '

theorem not_indented_of_head? {line : String} {c : Char} (head : line.toList.head? = some c)
    (noBlank : c ≠ ' ') : ¬Indented line := fun indented => noBlank (indented c head)

/-- A line of the text is a line of code on its own. -/
def StandsAlone (line : String) : Prop :=
  ∃ outline, Reads .start (line.toList ++ ['\n']) (outline ++ ['\n']) .start ∧ '\n' ∉ outline

theorem StandsAlone.of_leads {line : String} (leads : Leads .start line.toList .start) :
    StandsAlone line := by
  obtain ⟨outline, reads, unbroken⟩ := leads
  have ending : Reads .start ['\n'] ['\n'] .start := rfl
  exact ⟨outline, reads.append ending, unbroken⟩

end ShaderVariants.Text.Code
