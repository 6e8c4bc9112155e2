import FilterQuery.CommandLine.Arguments
import FilterQuery.CommandLine.Files
import FilterQuery.Document.Selection
import FilterQuery.Selection.Statement
import FilterQuery.Text.Blank
import FilterQuery.Text.Quoted

/-!
# Runs of the program

A run is a function of the invocation and of what can be read: its exit code and what it writes on
its two output streams.

* A description is the inline text, or the content of the file, or standard input, in this order of
  preference.  Standard input that holds white space only is no description, and then the defaults
  apply.
* Standard output gets the statement and nothing else, and nothing if the run fails.
* Standard error gets a report if the run fails, and the log if the run is verbose and does not
  fail.

Log lines are written as they are where colours are switched off.  Where they are not, the level and
the names of attributes have the codes of their colours around them, which are left out here.
-/

namespace FilterQuery.CommandLine

/-! ## Surroundings and outcomes -/

/-- What a run can read. -/
structure Surroundings where
  /-- The text on standard input. -/
  standardInput : String
  /-- The content of the file at a path. -/
  readFile : String → Except FileFault String

/-- What a run leaves behind. -/
structure Outcome where
  code : Nat
  output : String
  errors : String

/-! ## Failures -/

/-- Why a run fails. -/
inductive Failure where
  /-- The file at `path` cannot be read. -/
  | unreadable (path : String) (fault : FileFault)
  /-- The description is refused; `context` says what it was to describe. -/
  | refused (context : String) (error : Refusal)

namespace Failure

/-- What the run was about to do. -/
def context : Failure → String
  | unreadable path _ => "failed to read " ++ path
  | refused context _ => context

/-- What went wrong, and what caused that, and so on. -/
def causes : Failure → List String
  | unreadable _ fault => [fault.message]
  | refused _ error => error.causes

/-- The indentation of a cause. -/
def indentation : List Char := List.replicate 4 ' '

/-- A message whose lines are all indented. -/
def indent (message : String) : String :=
  String.ofList
    (indentation ++ message.toList.flatMap fun c => if c = '\n' then c :: indentation else [c])

/-- The lines for some causes.  Several of them are numbered. -/
def causeLines : List String → List String
  | [cause] => [indent cause]
  | causes => causes.mapIdx fun i cause => "    " ++ toString i ++ ": " ++ cause

/-- The report of a failure. -/
def report (failure : Failure) : String :=
  "Error: " ++ failure.context ++ "\n\nCaused by:\n"
    ++ String.join ((causeLines failure.causes).map (· ++ "\n"))

end Failure

/-! ## The log -/

/-- An attribute as a log line shows it. -/
def logAttribute : String × Attribute → String
  | (name, .text s) => name ++ "=" ++ logQuote s
  | (name, .word s) => name ++ "=" ++ s
  | (name, .count n) => name ++ "=" ++ toString n

/-- An event as a line of the log. -/
def logLine (event : Event) : String :=
  " ".intercalate ([event.level.name, event.message] ++ event.attributes.map logAttribute) ++ "\n"

/-- The log of some events.  It leaves out those of the level `TRACE`. -/
def log (events : List Event) : String :=
  String.join ((events.filter fun event => event.level = .debug).map logLine)

/-! ## The output -/

/-- A statement as lines of text: first the SQL, then each bind value under its number. -/
def textOutput (statement : Fragment) : String :=
  "\n".intercalate (statement.sql :: statement.params.mapIdx fun i value =>
    "$" ++ toString (i + 1) ++ ": " ++ value.jsonText)

/-- A statement as a JSON object of the SQL and the bind values. -/
def jsonOutput (statement : Fragment) : String :=
  (Json.object
    [("sql", .string statement.sql), ("params", (Value.list statement.params).toJson)]).pretty

/-- A statement in the form asked for. -/
def Format.render : Format → Fragment → String
  | text => textOutput
  | json => jsonOutput

/-! ## Runs -/

/-- The description that an input holds, if it holds any. -/
def Input.description? (surroundings : Surroundings) : Input → Except Failure (Option String)
  | inline text => return some text
  | file path =>
    match surroundings.readFile path with
    | .ok text => return some text
    | .error fault => throw (.unreadable path fault)
  | standard =>
    return if isBlankText surroundings.standardInput then none
      else some surroundings.standardInput

/-- What an input describes, or the default if it holds no description. -/
def Input.read {α : Type} [Inhabited α] (parse : String → Except Refusal α) (context : String)
    (surroundings : Surroundings) (input : Input) : Except Failure α := do
  match ← input.description? surroundings with
  | some text => (parse text).mapError (.refused context)
  | none => return default

/-- The statement that an invocation asks for. -/
def Invocation.statement (invocation : Invocation) (surroundings : Surroundings) :
    Except Failure (Logged Fragment) :=
  match invocation.command with
  | .select input => do
    let selection ← input.read Selection.parse "invalid statement options" surroundings
    return selection.select invocation.table
  | .clause input => do
    let filter ← input.read Filter.parse "invalid filter description" surroundings
    return filter.whereClause
  | .find => return pure ⟨fetchRow invocation.table, []⟩

/-- Runs the program. -/
def Invocation.run (invocation : Invocation) (surroundings : Surroundings) : Outcome :=
  match invocation.statement surroundings with
  | .error failure => ⟨1, "", failure.report⟩
  | .ok statement =>
    let logged : Logged Fragment := do
      let fragment ← statement
      Logged.emit (.generated fragment.params.length)
      return fragment
    { code := 0
      output := invocation.format.render logged.value ++ "\n"
      errors := if invocation.verbose then log logged.events else "" }

/-- What a program that was asked for its version writes. -/
def versionText : String := "oxide-query 0.1.0\n"

end FilterQuery.CommandLine
