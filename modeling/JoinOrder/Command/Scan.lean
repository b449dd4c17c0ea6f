/-
# Scanning Arguments

How a list of arguments is split into options.  An option is written `--name`, or with one dash and
its letter; letters without values may share a dash.  A value follows as the next argument, behind
an equals sign, or directly behind a letter.  The scan ends at the first argument that is neither an
option nor a value, and hands on what is left.

A value in an argument of its own does not start with a dash, except for a dash alone.  Two dashes
alone end the options.
-/

namespace JoinOrder.Command

/-- How often an option may be given, and whether it has a value. -/
inductive Arity where
  /-- No value, at most once. -/
  | flag
  /-- One value, at most once. -/
  | single
  /-- One value each time. -/
  | repeated
  deriving DecidableEq, Repr

/-- An option that is understood. -/
structure OptionSpec where
  /-- The name behind two dashes. -/
  name : String
  /-- The letter behind one dash, if there is one. -/
  letter : Option Char
  /-- How the option is used. -/
  arity : Arity
  deriving DecidableEq, Repr

/-- An option as it was given; the value of a flag is empty. -/
structure Given where
  /-- The name of the option. -/
  name : String
  /-- The value. -/
  value : String
  deriving DecidableEq, Repr

/-- What one argument is. -/
inductive Token where
  /-- Neither an option nor part of one. -/
  | plain
  /-- The end of the options. -/
  | endOfOptions
  /-- Options with their values. -/
  | complete (given : List Given)
  /-- Options the last of which has its value in the next argument. -/
  | pending (given : List Given) (name : String)
  /-- Options followed by something that is not understood. -/
  | malformed (given : List Given)
  deriving DecidableEq, Repr

/-- Puts an option in front of what follows it in the same argument. -/
def Token.cons (first : Given) : Token → Token
  | complete given => complete (first :: given)
  | pending given name => pending (first :: given) name
  | malformed given => malformed (first :: given)
  | other => other

/-- Reads an argument behind its two dashes. -/
def readLong (specs : List OptionSpec) (body : List Char) : Token :=
  let name := String.ofList (body.takeWhile (· ≠ '='))
  match specs.find? (·.name = name), body.dropWhile (· ≠ '=') with
  | none, _ => .malformed []
  | some spec, [] =>
    if spec.arity = .flag then .complete [⟨spec.name, ""⟩] else .pending [] spec.name
  | some spec, _ :: value =>
    if spec.arity = .flag then .malformed [] else .complete [⟨spec.name, String.ofList value⟩]

/-- Reads an argument behind its single dash, letter by letter. -/
def readLetters (specs : List OptionSpec) : List Char → Token
  | [] => .complete []
  | letter :: rest =>
    match specs.find? (·.letter = some letter) with
    | none => .malformed []
    | some spec =>
      if spec.arity = .flag then (readLetters specs rest).cons ⟨spec.name, ""⟩
      else
        match rest with
        | [] => .pending [] spec.name
        | '=' :: value => .complete [⟨spec.name, String.ofList value⟩]
        | value => .complete [⟨spec.name, String.ofList value⟩]

/-- Says what an argument is. -/
def readToken (specs : List OptionSpec) (argument : String) : Token :=
  match argument.toList with
  | ['-', '-'] => .endOfOptions
  | '-' :: '-' :: body => readLong specs body
  | '-' :: letter :: letters => readLetters specs (letter :: letters)
  | _ => .plain

/-- Whether an argument can be the value of the option before it. -/
def isValue (argument : String) : Bool :=
  argument = "-" || argument.toList.head? ≠ some '-'

/-- The options at the front of the arguments, and the arguments from the first plain one on.  There
is no rest where an argument is not understood; the options before it are known all the same. -/
structure Scan where
  /-- The options in the order of the arguments. -/
  given : List Given
  /-- The arguments that are left. -/
  rest : Option (List String)
  deriving DecidableEq, Repr

/-- Puts options in front of a scan. -/
def Scan.prepend (earlier : List Given) (scan : Scan) : Scan :=
  { scan with given := earlier ++ scan.given }

/-- Scans arguments for the options that are understood. -/
def scan (specs : List OptionSpec) : List String → Scan
  | [] => ⟨[], some []⟩
  | argument :: rest =>
    match readToken specs argument with
    | .plain => ⟨[], some (argument :: rest)⟩
    | .endOfOptions => ⟨[], if rest = [] then some [] else none⟩
    | .complete given => (scan specs rest).prepend given
    | .malformed given => ⟨given, none⟩
    | .pending given name =>
      match rest with
      | [] => ⟨given, none⟩
      | value :: rest =>
        if isValue value then (scan specs rest).prepend (given ++ [⟨name, value⟩])
        else ⟨given, none⟩

/-- Whether no option is given more often than it may be. -/
def withinArity (specs : List OptionSpec) (given : List Given) : Bool :=
  specs.all fun spec =>
    spec.arity = .repeated || (given.filter (·.name = spec.name)).length ≤ 1

/-- The values of an option in the order in which they were given. -/
def valuesOf (given : List Given) (name : String) : List String :=
  (given.filter (·.name = name)).map Given.value

/-- Whether an option was given. -/
def isGiven (given : List Given) (name : String) : Bool :=
  given.any (·.name = name)

/-- The value of an option that was given last, if any. -/
def valueOf? (given : List Given) (name : String) : Option String :=
  (valuesOf given name).getLast?

end JoinOrder.Command
