/-!
# Arguments

A command line is read by a grammar: at each level there are options, and either further commands or
positional arguments. An option is given by its long name or by a letter. A value that begins with a
hyphen has to be attached to its option by an equals sign.
-/

namespace IdentityToken.Command

/-- What an option does. A path is a value that is not empty, and a list may be given several
times. -/
inductive OptionKind where
  | switch
  | value
  | path
  | list
  | version
  | help
deriving DecidableEq

structure OptionSpec where
  long : String
  letter : Option Char := none
  kind : OptionKind

/-- What may stand at a level of a command line: options, and then one of several commands or a
number of positional arguments. -/
inductive Grammar where
  | group (options : List OptionSpec) (commands : List (String × Grammar))
  | leaf (options : List OptionSpec) (positionals : Nat)

namespace Grammar

def options : Grammar → List OptionSpec
  | group options _ => options
  | leaf options _ => options

def commands : Grammar → List (String × Grammar)
  | group _ commands => commands
  | leaf _ _ => []

def positionals : Grammar → Nat
  | group _ _ => 0
  | leaf _ n => n

end Grammar

structure LevelArguments where
  options : List (String × String) := []

/-- What was read of a command line: the names of the commands, the outermost first, and what stands
at the levels, the innermost first. -/
structure Arguments where
  path : List String := []
  levels : List LevelArguments := [{}]
  positionals : List String := []

inductive Reading where
  | arguments (a : Arguments)
  | version
  | help

namespace Arguments

/-- The first value of an option at the innermost level. -/
def value? (a : Arguments) (name : String) : Option String :=
  (a.levels.headD {}).options.lookup name

def values (a : Arguments) (name : String) : List String :=
  ((a.levels.headD {}).options.filter (·.1 == name)).map (·.2)

def has (a : Arguments) (name : String) : Bool := (a.value? name).isSome

/-- The value of an option at the innermost level that has it. -/
def innermost? (a : Arguments) (name : String) : Option String :=
  a.levels.findSome? fun l => l.options.lookup name

/-- Notes an option. Only a list may be given twice, and a path may not be empty. -/
def add (a : Arguments) (spec : OptionSpec) (value : String) : Option Arguments :=
  if spec.kind ≠ .list ∧ a.has spec.long then none
  else if spec.kind = .path ∧ value = "" then none
  else
    match a.levels with
    | [] => none
    | l :: levels =>
      some { a with levels := { options := l.options ++ [(spec.long, value)] } :: levels }

/-- What the start of an argument says. -/
inductive Start where
  | attached (spec : OptionSpec) (value : String)
  | alone (spec : OptionSpec)
  | escape
  | word
  | unknown

/-- What an argument is at a level with given options. -/
def start (options : List OptionSpec) (text : String) : Start :=
  match text.toList with
  | ['-', '-'] => .escape
  | '-' :: '-' :: rest =>
    let name := rest.takeWhile (· != '=')
    match options.find? (·.long.toList == name) with
    | none => .unknown
    | some spec =>
      match rest.drop name.length with
      | [] => .alone spec
      | _ :: value => .attached spec (String.ofList value)
  | '-' :: letter :: rest =>
    match options.find? (·.letter == some letter) with
    | none => .unknown
    | some spec =>
      match rest with
      | [] => .alone spec
      | '=' :: value => .attached spec (String.ofList value)
      | value => .attached spec (String.ofList value)
  | _ => .word

/-- Whether an argument cannot be the value of the option before it. -/
def isDashed (text : String) : Bool :=
  match text.toList with
  | '-' :: _ :: _ => true
  | _ => false

/-- Whether the names lead to a command. -/
def leads : Grammar → List String → Bool
  | _, [] => true
  | g, name :: rest =>
    match g.commands.lookup name with
    | some g => leads g rest
    | none => name == "help" && !g.commands.isEmpty && rest.isEmpty

def readFrom (g : Grammar) (a : Arguments) : List String → Option Reading
  | [] => if g.commands.isEmpty then some (.arguments a) else none
  | text :: rest =>
    match start g.options text with
    | .unknown => none
    | .escape =>
      if a.positionals.length + rest.length ≤ g.positionals ∧ g.commands.isEmpty then
        some (.arguments { a with positionals := a.positionals ++ rest })
      else none
    | .attached spec value =>
      match spec.kind with
      | .version => if text.toList.take 2 = ['-', '-'] then none else some .version
      | .help => if text.toList.take 2 = ['-', '-'] then none else some .help
      | .switch => none
      | _ => do readFrom g (← a.add spec value) rest
    | .alone spec =>
      match spec.kind with
      | .version => some .version
      | .help => some .help
      | .switch => do readFrom g (← a.add spec "") rest
      | _ =>
        match rest with
        | [] => none
        | value :: rest => if isDashed value then none else do readFrom g (← a.add spec value) rest
    | .word =>
      match g with
      | .leaf _ n =>
        if a.positionals.length < n then
          readFrom g { a with positionals := a.positionals ++ [text] } rest
        else none
      | .group _ commands =>
        match commands.lookup text with
        | some g => readFrom g { a with path := a.path ++ [text], levels := {} :: a.levels } rest
        | none => if text = "help" ∧ leads g rest then some .help else none

def read (g : Grammar) (texts : List String) : Option Reading := readFrom g {} texts

end Arguments

end IdentityToken.Command
