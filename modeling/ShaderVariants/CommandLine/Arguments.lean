/-!
# Arguments of a command line

Arguments are options, by a long name behind two hyphens or a letter behind one, and everything
else. An option may take a value: the rest of its argument, or else the next argument, whatever
that looks like. Two hyphens alone end the options.
-/

namespace ShaderVariants.CommandLine

/-- An option: its long name, its letter, and whether it takes a value. -/
structure OptionForm where
  name : String
  letter : Option Char
  takesValue : Bool
  deriving DecidableEq, Repr

/-- Options that were given, each by its long name with its value, and the other arguments. -/
structure Arguments where
  options : List (String × String)
  others : List String
  deriving DecidableEq, Repr

namespace Arguments

/-- The value of an option; the last one counts. -/
def value? (arguments : Arguments) (name : String) : Option String :=
  arguments.options.reverse.lookup name

/-- An option was given. -/
def has (arguments : Arguments) (name : String) : Bool := (arguments.value? name).isSome

end Arguments

/-- What one argument turns out to be: options with their values, or an option whose value is
still to come. -/
inductive OptionReading where
  | complete (options : List (String × String))
  | awaiting (options : List (String × String)) (name : String)
  deriving DecidableEq, Repr

/-- An option by its long name, perhaps with a value behind an equals sign. -/
def readLong? (forms : List OptionForm) (cs : List Char) : Option OptionReading := do
  let name := String.ofList (cs.takeWhile fun c => c != '=')
  let form ← forms.find? fun form => form.name == name
  match cs.dropWhile (fun c => c != '='), form.takesValue with
  | [], false => return .complete [(name, "")]
  | [], true => return .awaiting [] name
  | _ :: value, true => return .complete [(name, String.ofList value)]
  | _ :: _, false => failure

/-- Options by their letters. What stands behind the letter of one that takes a value is its
value. -/
def readLetters? (forms : List OptionForm) : List Char → Option OptionReading
  | [] => some (.complete [])
  | c :: rest => do
    let form ← forms.find? fun form => form.letter == some c
    if form.takesValue then
      if rest.isEmpty then return .awaiting [] form.name
      return .complete [(form.name, String.ofList rest)]
    match ← readLetters? forms rest with
    | .complete options => return .complete ((form.name, "") :: options)
    | .awaiting options name => return .awaiting ((form.name, "") :: options) name

/-- What an argument that begins with a hyphen turns out to be. -/
def readOption? (forms : List OptionForm) : List Char → Option OptionReading
  | '-' :: '-' :: name => readLong? forms name
  | '-' :: letters => readLetters? forms letters
  | _ => none

/-- An argument that is or holds options. A hyphen alone is none. -/
def isOption (argument : String) : Bool :=
  argument.toList.head? == some '-' && argument != "-"

/-- Takes options off the front of the arguments. They may stand behind other arguments too if
`mixed` says so. No answer if there is an unknown option, or one that has a value and should not,
or the other way round. -/
def readArguments (forms : List OptionForm) (mixed : Bool) : List String → Option Arguments
  | [] => some ⟨[], []⟩
  | "--" :: rest => some ⟨[], rest⟩
  | argument :: rest =>
    if isOption argument then do
      match ← readOption? forms argument.toList with
      | .complete options =>
        let others ← readArguments forms mixed rest
        return { others with options := options ++ others.options }
      | .awaiting options name =>
        match rest with
        | [] => failure
        | value :: rest =>
          let others ← readArguments forms mixed rest
          return { others with options := options ++ (name, value) :: others.options }
    else if mixed then do
      let others ← readArguments forms mixed rest
      return { others with others := argument :: others.others }
    else some ⟨[], argument :: rest⟩

end ShaderVariants.CommandLine
