/-!
# Command lines

A command line names a subcommand and gives options before and behind it.

* An option has a long name, a letter, or both.  Its value is attached, as in `--table=users`,
  `-tusers` and `-t=users`, or it is the next argument, which then must not start with a hyphen
  unless it is a single hyphen.  Letters of options without value can be bundled.
* The table, the format and the verbosity can be given at both places, and what is given behind the
  subcommand counts.  At one place each option is given at most once.
* The environment supplies a table and a format where the command line is silent.  Its format is
  looked at for each place at which no format is given, and has to be a format then.
* `--` ends the options; there is nothing that could follow it.

`Invocation.parse` gives what the program is asked to do, or why it does nothing.
-/

namespace FilterQuery.CommandLine

/-! ## What the program can be asked to do -/

/-- The form of the output. -/
inductive Format where
  | text
  | json
  deriving DecidableEq

/-- The format of that name. -/
def Format.ofName? (name : String) : Option Format :=
  if name = "text" then some .text
  else if name = "json" then some .json
  else none

/-- Where a description comes from. -/
inductive Input where
  | inline (text : String)
  | file (path : String)
  | standard

/-- The work of the program. -/
inductive Command where
  /-- Build the `SELECT` statement of a selection. -/
  | select (input : Input)
  /-- Build the `WHERE` clause of a filter description. -/
  | clause (input : Input)
  /-- Build the statement that fetches one row. -/
  | find

/-- A command together with the settings that all commands share. -/
structure Invocation where
  table : String
  format : Format
  verbose : Bool
  command : Command

/-- The variables of the environment that the program looks at, where they are set. -/
structure Environment where
  table : Option String
  format : Option String

/-- Why the program does none of its work. -/
inductive Stop where
  /-- The command line is not one of the program's. -/
  | usage
  /-- The version is asked for. -/
  | version

/-! ## Options -/

/-- The options. -/
inductive Flag where
  | table
  | format
  | verbose
  | version
  | description
  | file
  deriving DecidableEq

/-- Has the option a value? -/
def Flag.takesValue : Flag → Bool
  | verbose | version => false
  | _ => true

/-- The names of the commands. -/
inductive Subcommand where
  | select
  | clause
  | find
  deriving DecidableEq

def Subcommand.ofName? (name : String) : Option Subcommand :=
  if name = "select" then some .select
  else if name = "where" then some .clause
  else if name = "find" then some .find
  else none

/-- A place for options: in front of the subcommand, or behind it. -/
inductive Place where
  | front
  | behind (subcommand : Subcommand)
  deriving DecidableEq

/-- The options that can be given by a long name at a place. -/
def Place.longNames : Place → List (String × Flag)
  | front => [("table", .table), ("format", .format), ("verbose", .verbose), ("version", .version)]
  | behind subcommand =>
    [("table", .table), ("format", .format), ("verbose", .verbose)] ++
      match subcommand with
      | .select => [("options", .description), ("file", .file)]
      | .clause => [("filter", .description), ("file", .file)]
      | .find => []

/-- The options that can be given by a letter at a place. -/
def Place.letters : Place → List (Char × Flag)
  | front => [('t', .table), ('f', .format), ('v', .verbose), ('V', .version)]
  | behind subcommand =>
    [('t', .table), ('f', .format), ('v', .verbose)] ++
      match subcommand with
      | .select => [('o', .description)]
      | .clause | .find => []

/-- What the options at one place have given so far. -/
structure Given where
  table : Option String
  format : Option Format
  verbose : Bool
  description : Option String
  file : Option String

namespace Given

/-- Nothing is given. -/
def nothing : Given := ⟨none, none, false, none, none⟩

/-- Fills a place that has to be free. -/
def fill {α : Type} (place : Option α) (value? : Option α) : Except Stop (Option α) :=
  match place, value? with
  | none, some value => .ok (some value)
  | _, _ => .error .usage

/-- Takes the value of an option.  A path must not be empty. -/
def take (given : Given) (flag : Flag) (value : String) : Except Stop Given := do
  match flag with
  | .table => return { given with table := ← fill given.table (some value) }
  | .format => return { given with format := ← fill given.format (Format.ofName? value) }
  | .description => return { given with description := ← fill given.description (some value) }
  | .file =>
    let path? := if value.isEmpty then none else some value
    return { given with file := ← fill given.file path? }
  | .verbose | .version => throw .usage

/-- Takes an option without value. -/
def raise (given : Given) (flag : Flag) : Except Stop Given :=
  match flag with
  | .version => .error .version
  | .verbose => if given.verbose then .error .usage else .ok { given with verbose := true }
  | _ => .error .usage

end Given

/-! ## Arguments -/

/-- An argument by its form. -/
inductive Argument where
  | escape
  | long (name : String) (value? : Option String)
  | letters (letters : List Char)
  | plain (text : String)

/-- The form of an argument: `--`, `--name`, `--name=value`, a hyphen with letters, or any other
text, a single hyphen included. -/
def Argument.ofText (text : String) : Argument :=
  match text.toList with
  | ['-', '-'] => escape
  | '-' :: '-' :: rest =>
    let name := String.ofList (rest.takeWhile (· != '='))
    match rest.dropWhile (· != '=') with
    | [] => long name none
    | _ :: value => long name (some (String.ofList value))
  | ['-'] => plain text
  | '-' :: rest => letters rest
  | _ => plain text

/-- Takes the options of a bundle.  The first one with a value takes the rest of the bundle as its
value; if nothing is left, the option waits for the next argument. -/
def Given.takeLetters (place : Place) (given : Given) :
    List Char → Except Stop (Given × Option Flag)
  | [] => .ok (given, none)
  | letter :: rest =>
    match place.letters.lookup letter with
    | none => .error .usage
    | some flag =>
      if flag.takesValue then
        match rest with
        | [] => .ok (given, some flag)
        | '=' :: value => do
          return (← given.take flag (String.ofList value), none)
        | value => do
          return (← given.take flag (String.ofList value), none)
      else do
        takeLetters place (← given.raise flag) rest

/-- Takes the arguments at one place from the first to the last.  `waiting` is the option whose
value is to come next.  In front of the subcommand the work ends at its name, and the arguments behind
it are left. -/
def Given.takeArguments (place : Place) :
    Option Flag → Given → List String → Except Stop (Given × Option (Subcommand × List String))
  | none, given, [] => .ok (given, none)
  | some _, _, [] => .error .usage
  | waiting, given, text :: rest =>
    match waiting, Argument.ofText text with
    | some flag, .plain value => do
      takeArguments place none (← given.take flag value) rest
    | some _, _ => .error .usage
    | none, .escape => if rest.isEmpty then .ok (given, none) else .error .usage
    | none, .plain name =>
      match place, Subcommand.ofName? name with
      | .front, some subcommand => .ok (given, some (subcommand, rest))
      | _, _ => .error .usage
    | none, .letters letters => do
      let (given, waiting) ← given.takeLetters place letters
      takeArguments place waiting given rest
    | none, .long name value? =>
      match place.longNames.lookup name, value? with
      | none, _ => .error .usage
      | some flag, some value =>
        if flag.takesValue then do
          takeArguments place none (← given.take flag value) rest
        else .error .usage
      | some flag, none =>
        if flag.takesValue then takeArguments place (some flag) given rest
        else do
          takeArguments place none (← given.raise flag) rest

/-! ## Invocations -/

/-- The input that options ask for.  A description and a file exclude each other. -/
def Given.input (given : Given) : Except Stop Input :=
  match given.description, given.file with
  | some _, some _ => .error .usage
  | some text, none => .ok (.inline text)
  | none, some path => .ok (.file path)
  | none, none => .ok .standard

/-- The command that a subcommand with its options is. -/
def Subcommand.command (subcommand : Subcommand) (given : Given) : Except Stop Command :=
  match subcommand with
  | .select => Command.select <$> given.input
  | .clause => Command.clause <$> given.input
  | .find => .ok .find

/-- The format that holds at one place: the one given, or else that of the environment. -/
def Environment.formatFor (environment : Environment) (given : Given) :
    Except Stop (Option Format) :=
  match given.format, environment.format with
  | some _, _ => .ok given.format
  | none, none => .ok none
  | none, some name => (Format.ofName? name).elim (.error .usage) (.ok ∘ some)

/-- What a command line asks for. -/
def Invocation.parse (environment : Environment) (arguments : List String) :
    Except Stop Invocation := do
  let (front, rest?) ← Given.nothing.takeArguments .front none arguments
  let some (subcommand, rest) := rest? | throw .usage
  let (behind, _) ← Given.nothing.takeArguments (.behind subcommand) none rest
  let command ← subcommand.command behind
  let later ← environment.formatFor behind
  let earlier ← environment.formatFor front
  let format? := behind.format <|> front.format <|> later <|> earlier
  return {
    table := (behind.table <|> front.table <|> environment.table).getD "items"
    format := format?.getD .text
    verbose := front.verbose || behind.verbose
    command }

end FilterQuery.CommandLine
