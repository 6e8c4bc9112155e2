import FilterQuery.Proofs.Reports
import FilterQuery.Proofs.Success

/-!
# What a run depends on

A run is asked for something by its invocation and can read a lot, but few of these things may
influence what it leaves behind.  `CommandLine.Invocation.run_noninterference` collects which.

* The verbosity adds lines in front of standard error and changes nothing else.
* A run succeeds exactly if its command's input can be read and describes something, and a run that
  fails leaves nothing behind but a report.
* Nothing that can be read has an influence, except the input that the command names.
* The table has no influence on a clause.
* Standard input that is blank is as good as an empty description.

All of it goes back to the statement that an invocation asks for: two runs with the same statement,
format and verbosity are the same (`CommandLine.Invocation.run_congr`).
-/

namespace FilterQuery

/-! ## Text on one line -/

lemma newline_notMem_toDigits (n : Nat) : '\n' ∉ Nat.toDigits 16 n := by
  have hdigit : ∀ d < 16, '\n' ≠ Nat.digitChar d := by decide
  induction n using Nat.strongRecOn with
  | ind n ih =>
      obtain hn | hn := Nat.lt_or_ge n 16
      · rw [Nat.toDigits_of_lt_base hn, List.mem_singleton]
        exact hdigit n hn
      · rw [Nat.toDigits_of_base_le (by decide) hn, List.mem_append, List.mem_singleton]
        rintro (hfront | hlast)
        · exact ih (n / 16) (by omega) hfront
        · exact hdigit (n % 16) (by omega) hlast

/-- Quoted text stays on its line. -/
lemma newline_notMem_logQuote (text : String) : '\n' ∉ (logQuote text).toList := by
  have hescape : ∀ c, '\n' ∉ logEscape c := by
    intro c
    have hdigits := newline_notMem_toDigits c.toNat
    by_cases hc : c = '\n'
    · rw [hc]
      decide
    · rw [logEscape, if_neg hc]
      split_ifs
      all_goals simp [hdigits, Ne.symm hc]
  simpa [logQuote] using fun c _ => hescape c

namespace CommandLine

/-! ## Lines of the log -/

/-- A line of the log, of the level `DEBUG`. -/
def IsDebugLine (line : String) : Prop :=
  ∃ body : String, line = "DEBUG " ++ body ++ "\n" ∧ '\n' ∉ body.toList

lemma newline_notMem_logAttribute {event : Event} :
    ∀ entry ∈ event.attributes, '\n' ∉ (logAttribute entry).toList := by
  have hcount : ∀ n : Nat, '\n' ∉ (toString n).toList := notMem_toString (by decide)
  have hjoin : ∀ join : Join, '\n' ∉ join.sql.toList := by
    intro join
    cases join <;> decide
  cases event with
  | field name sql =>
      simp [Event.attributes, logAttribute, newline_notMem_logQuote]
  | clause placeholders join =>
      simpa [Event.attributes, logAttribute, hjoin] using hcount placeholders
  | statement table params =>
      simpa [Event.attributes, logAttribute, newline_notMem_logQuote] using hcount params
  | generated placeholders =>
      simpa [Event.attributes, logAttribute] using hcount placeholders

lemma isDebugLine_logLine {event : Event} (hlevel : event.level = .debug) :
    IsDebugLine (logLine event) := by
  refine ⟨" ".intercalate (event.message :: event.attributes.map logAttribute), ?_, ?_⟩
  · rw [logLine, hlevel]
    simp [Level.name, String.append_assoc]
  · have hmessage : '\n' ∉ event.message.toList := by
      cases event <;> simp [Event.message]
    exact notMem_intercalate (by decide) (List.forall_mem_cons.mpr
      ⟨hmessage, List.forall_mem_map.mpr newline_notMem_logAttribute⟩)

/-! ## Statements -/

/-- The input of a command, if it takes any. -/
def Command.input? : Command → Option Input
  | select input | clause input => some input
  | find => none

/-- Can the input be read, and does it describe something?  Standard input that is blank does. -/
def Input.Accepted {α : Type} (parse : String → Except Refusal α) (surroundings : Surroundings) :
    Input → Prop
  | inline text => ∃ description, parse text = .ok description
  | file path => ∃ text description, surroundings.readFile path = .ok text ∧
      parse text = .ok description
  | standard => isBlankText surroundings.standardInput ∨
      ∃ description, parse surroundings.standardInput = .ok description

/-- Is the input of the command, if it takes any, accepted? -/
def Command.Accepted (surroundings : Surroundings) : Command → Prop
  | select input => input.Accepted Selection.parse surroundings
  | clause input => input.Accepted Filter.parse surroundings
  | find => True

section Input

variable {α : Type} [Inhabited α] {parse : String → Except Refusal α} {context : String}
  {surroundings other : Surroundings} {input : Input}

/-- An input is read without failure exactly if it is accepted. -/
lemma exists_read_eq_ok_iff :
    (∃ description, input.read parse context surroundings = .ok description) ↔
      input.Accepted parse surroundings := by
  cases input with
  | inline text =>
      simp only [Input.read, Input.description?, Input.Accepted, pure_eq_ok, ok_bind,
        mapError_eq_ok_iff]
  | file path =>
      cases hfile : surroundings.readFile path with
      | error fault => simp [Input.read, Input.description?, Input.Accepted, hfile, bind_eq_ok_iff]
      | ok text =>
          simp [Input.read, Input.description?, Input.Accepted, hfile, mapError_eq_ok_iff]
  | standard =>
      cases hblank : isBlankText surroundings.standardInput with
      | true => simp [Input.read, Input.description?, Input.Accepted, hblank]
      | false => simp [Input.read, Input.description?, Input.Accepted, hblank, mapError_eq_ok_iff]

/-- An input is read the same wherever what it names is the same. -/
lemma read_congr
    (hfile : ∀ path, input = .file path → other.readFile path = surroundings.readFile path)
    (hstandard : input = .standard → other.standardInput = surroundings.standardInput) :
    input.read parse context other = input.read parse context surroundings := by
  have hdescription : input.description? other = input.description? surroundings := by
    cases input with
    | inline text => rfl
    | file path => rw [Input.description?, Input.description?, hfile path rfl]
    | standard => rw [Input.description?, Input.description?, hstandard rfl]
  rw [Input.read, Input.read, hdescription]

/-- Reading fails because the description is refused or because its file cannot be read. -/
lemma failure_of_read {failure : Failure}
    (h : input.read parse context surroundings = .error failure) :
    (∃ refusal, failure = .refused context refusal) ∨
      ∃ path fault, input = .file path ∧ failure = .unreadable path fault := by
  have hparse : ∀ text, (parse text).mapError (.refused context) = .error failure →
      ∃ refusal, failure = .refused context refusal := by
    intro text htext
    cases hresult : parse text with
    | error refusal => exact ⟨refusal, by simpa [hresult, Except.mapError, eq_comm] using htext⟩
    | ok description => simp [hresult, Except.mapError] at htext
  cases input with
  | inline text => exact .inl (hparse text h)
  | file path =>
      cases hfile : surroundings.readFile path with
      | error fault =>
          refine .inr ⟨path, fault, rfl, ?_⟩
          simpa [Input.read, Input.description?, hfile, bind, Except.bind, eq_comm] using h
      | ok text =>
          rw [Input.read, Input.description?, hfile] at h
          exact .inl (hparse text h)
  | standard =>
      cases hblank : isBlankText surroundings.standardInput with
      | true => simp [Input.read, Input.description?, hblank] at h
      | false =>
          rw [Input.read, Input.description?, hblank] at h
          exact .inl (hparse surroundings.standardInput h)

/-- What a failing run was about to do is told on one line, unless a path has several. -/
lemma newline_notMem_context_of_read {failure : Failure} (hcontext : '\n' ∉ context.toList)
    (hpath : ∀ path, input = .file path → '\n' ∉ path.toList)
    (h : input.read parse context surroundings = .error failure) :
    '\n' ∉ failure.context.toList := by
  obtain ⟨refusal, rfl⟩ | ⟨path, fault, hinput, rfl⟩ := failure_of_read h
  · exact hcontext
  · show '\n' ∉ ("failed to read " ++ path).toList
    rw [String.toList_append, List.mem_append, not_or]
    exact ⟨by decide, hpath path hinput⟩

/-- Standard input that is blank is read as a description of the default is. -/
lemma read_eq_of_isBlankText {text description : String} (hblank : isBlankText text)
    (hdescription : isBlankText description = false) (hparse : parse description = .ok default)
    (context : String) (surroundings : Surroundings) (input : Input) :
    input.read parse context { surroundings with standardInput := text } =
      input.read parse context { surroundings with standardInput := description } := by
  cases input with
  | inline | file => exact read_congr (by simp) (by simp)
  | standard => simp [Input.read, Input.description?, hblank, hdescription, hparse, Except.mapError]

end Input

namespace Invocation

variable {invocation other : Invocation} {surroundings elsewhere : Surroundings}

lemma exists_statement_eq_ok_iff :
    (∃ statement, invocation.statement surroundings = .ok statement) ↔
      invocation.command.Accepted surroundings := by
  rw [statement]
  cases invocation.command with
  | select input | clause input =>
      simpa [bind_eq_ok_iff, Command.Accepted] using exists_read_eq_ok_iff
  | find => simp [Command.Accepted]

/-- An invocation asks for the same statement wherever the input of its command is the same. -/
lemma statement_congr
    (hfile : ∀ path, invocation.command.input? = some (.file path) →
      elsewhere.readFile path = surroundings.readFile path)
    (hstandard : invocation.command.input? = some .standard →
      elsewhere.standardInput = surroundings.standardInput) :
    invocation.statement elsewhere = invocation.statement surroundings := by
  rw [statement, statement]
  cases hcommand : invocation.command with
  | select input | clause input =>
      simp only [hcommand, Command.input?, Option.some.injEq] at hfile hstandard
      simp only [read_congr hfile hstandard]
  | find => rfl

lemma statement_eq_of_isBlankText {text description : String} (hblank : isBlankText text)
    (hdescription : description ∈ [Json.emptyObjectText, "null"]) :
    invocation.statement { surroundings with standardInput := text } =
      invocation.statement { surroundings with standardInput := description } := by
  have hsome : isBlankText description = false := by
    revert description
    decide
  have hdefault : Selection.parse description = .ok default ∧
      Filter.parse description = .ok default := by
    obtain rfl | rfl := List.mem_pair.mp hdescription
    · exact ⟨by cbv, by cbv⟩
    · exact ⟨by cbv, by cbv⟩
  rw [statement, statement]
  cases invocation.command with
  | select input =>
      simp only [read_eq_of_isBlankText hblank hsome hdefault.1 _ surroundings]
  | clause input =>
      simp only [read_eq_of_isBlankText hblank hsome hdefault.2 _ surroundings]
  | find => rfl

lemma newline_notMem_context {failure : Failure}
    (hpath : ∀ path, invocation.command.input? = some (.file path) → '\n' ∉ path.toList)
    (h : invocation.statement surroundings = .error failure) :
    '\n' ∉ failure.context.toList := by
  rw [statement] at h
  cases hcommand : invocation.command with
  | select input | clause input =>
      simp only [hcommand, Command.input?, Option.some.injEq] at h hpath
      exact newline_notMem_context_of_read (by decide) hpath (eq_error_of_bind_pure h)
  | find => simp [hcommand] at h

/-! ## Runs -/

/-- What a run reports on the way to its output. -/
def events (invocation : Invocation) (surroundings : Surroundings) : List Event :=
  match invocation.statement surroundings with
  | .error _ => []
  | .ok statement => statement.events ++ [Event.generated statement.value.params.length]

/-- The lines of the log of a run that is verbose. -/
def debugLines (invocation : Invocation) (surroundings : Surroundings) : List String :=
  ((invocation.events surroundings).filter fun event => event.level = .debug).map logLine

lemma isDebugLine_of_mem_debugLines :
    ∀ line ∈ invocation.debugLines surroundings, IsDebugLine line := by
  refine List.forall_mem_map.mpr fun event hevent => isDebugLine_logLine ?_
  simpa using (List.mem_filter.mp hevent).2

lemma debugLines_of_error {failure : Failure}
    (h : invocation.statement surroundings = .error failure) :
    invocation.debugLines surroundings = [] := by
  rw [debugLines, events, h]
  rfl

lemma run_of_error {failure : Failure} (h : invocation.statement surroundings = .error failure) :
    invocation.run surroundings = ⟨1, "", failure.report⟩ := by
  rw [run, h]

lemma run_of_ok {statement : Logged Fragment}
    (h : invocation.statement surroundings = .ok statement) :
    invocation.run surroundings = ⟨0, invocation.format.render statement.value ++ "\n",
      if invocation.verbose then String.join (invocation.debugLines surroundings) else ""⟩ := by
  rw [run, debugLines, events, h]
  rfl

lemma code_run_eq_zero_iff :
    (invocation.run surroundings).code = 0 ↔ invocation.command.Accepted surroundings := by
  rw [← exists_statement_eq_ok_iff]
  cases h : invocation.statement surroundings with
  | error failure => simp [run_of_error h]
  | ok statement => simp [run_of_ok h]

/-- A run that fails leaves a report, and only that. -/
lemma run_of_code_ne_zero (hcode : (invocation.run surroundings).code ≠ 0) :
    ∃ failure, invocation.statement surroundings = .error failure ∧
      invocation.run surroundings = ⟨1, "", failure.report⟩ := by
  cases h : invocation.statement surroundings with
  | error failure => exact ⟨failure, rfl, run_of_error h⟩
  | ok statement => simp [run_of_ok h] at hcode

lemma not_showsDebugLine_of_code_ne_zero (hcode : (invocation.run surroundings).code ≠ 0)
    (hpath : ∀ path, invocation.command.input? = some (.file path) → '\n' ∉ path.toList) :
    ¬ ShowsDebugLine (invocation.run surroundings).errors := by
  obtain ⟨failure, hstatement, hrun⟩ := run_of_code_ne_zero hcode
  rw [hrun]
  exact Failure.not_showsDebugLine_report (newline_notMem_context hpath hstatement)

/-- Two runs with the same statement, format and verbosity are the same. -/
lemma run_congr (hformat : other.format = invocation.format)
    (hverbose : other.verbose = invocation.verbose)
    (hstatement : other.statement elsewhere = invocation.statement surroundings) :
    other.run elsewhere = invocation.run surroundings := by
  rw [run, run, hstatement, hformat, hverbose]

/-- Verbosity adds the log in front of standard error, and nothing else. -/
lemma run_verbose (invocation : Invocation) (surroundings : Surroundings) :
    ({ invocation with verbose := true }.run surroundings).code =
        ({ invocation with verbose := false }.run surroundings).code ∧
      ({ invocation with verbose := true }.run surroundings).output =
        ({ invocation with verbose := false }.run surroundings).output ∧
      ({ invocation with verbose := true }.run surroundings).errors =
        String.join (invocation.debugLines surroundings) ++
          ({ invocation with verbose := false }.run surroundings).errors := by
  have hstatement : ∀ verbose, { invocation with verbose }.statement surroundings =
      invocation.statement surroundings := fun _ => rfl
  cases h : invocation.statement surroundings with
  | error failure =>
      rw [run_of_error ((hstatement true).trans h), run_of_error ((hstatement false).trans h),
        debugLines_of_error h]
      exact ⟨rfl, rfl, String.empty_append.symm⟩
  | ok statement =>
      rw [run_of_ok ((hstatement true).trans h), run_of_ok ((hstatement false).trans h)]
      exact ⟨rfl, rfl, String.append_empty.symm⟩

lemma run_clause_table {input : Input} (hcommand : invocation.command = .clause input)
    (table : String) (surroundings : Surroundings) :
    { invocation with table }.run surroundings = invocation.run surroundings := by
  refine run_congr rfl rfl ?_
  rw [statement, statement, hcommand]

/-- **What a run depends on.**

* A verbose run has the code and the output of the run that is not, and the log in front of what
  that one writes to standard error.  The log has the level `DEBUG` on each of its lines.
* A run succeeds exactly if the input of its command, if it takes any, can be read and describes
  something.  A run that fails has no output and no log, and nothing in its report can be taken for
  a line of the log, unless the path of a file has a line break.
* Runs in surroundings that agree on the input of the command are the same.  In particular standard
  input matters only to a command that takes its description from there.
* The table does not matter to a command that builds a clause.
* Standard input that is blank is as good as an empty object, and as good as `null`. -/
theorem run_noninterference (invocation : Invocation) (surroundings : Surroundings) :
    (({ invocation with verbose := true }.run surroundings).code =
          ({ invocation with verbose := false }.run surroundings).code ∧
        ({ invocation with verbose := true }.run surroundings).output =
          ({ invocation with verbose := false }.run surroundings).output ∧
        ({ invocation with verbose := true }.run surroundings).errors =
          String.join (invocation.debugLines surroundings) ++
            ({ invocation with verbose := false }.run surroundings).errors ∧
        ∀ line ∈ invocation.debugLines surroundings, IsDebugLine line) ∧
    ((invocation.run surroundings).code = 0 ↔ invocation.command.Accepted surroundings) ∧
    ((invocation.run surroundings).code ≠ 0 →
      (invocation.run surroundings).output = "" ∧
        invocation.debugLines surroundings = [] ∧
        ((∀ path, invocation.command.input? = some (.file path) → '\n' ∉ path.toList) →
          ¬ ShowsDebugLine (invocation.run surroundings).errors)) ∧
    (∀ elsewhere : Surroundings,
      (∀ path, invocation.command.input? = some (.file path) →
        elsewhere.readFile path = surroundings.readFile path) →
      (invocation.command.input? = some .standard →
        elsewhere.standardInput = surroundings.standardInput) →
      invocation.run elsewhere = invocation.run surroundings) ∧
    (∀ input, invocation.command = .clause input → ∀ table,
      { invocation with table }.run surroundings = invocation.run surroundings) ∧
    ∀ text description, isBlankText text → description ∈ [Json.emptyObjectText, "null"] →
      invocation.run { surroundings with standardInput := text } =
        invocation.run { surroundings with standardInput := description } := by
  obtain ⟨hcode, houtput, herrors⟩ := run_verbose invocation surroundings
  refine ⟨⟨hcode, houtput, herrors, isDebugLine_of_mem_debugLines⟩, code_run_eq_zero_iff,
    fun hfails => ?_, fun elsewhere hfile hstandard => ?_, fun input hcommand table => ?_,
    fun text description hblank hdescription => ?_⟩
  · obtain ⟨failure, hstatement, hrun⟩ := run_of_code_ne_zero hfails
    exact ⟨by rw [hrun], debugLines_of_error hstatement,
      not_showsDebugLine_of_code_ne_zero hfails⟩
  · exact run_congr rfl rfl (statement_congr hfile hstandard)
  · exact run_clause_table hcommand table surroundings
  · exact run_congr rfl rfl (statement_eq_of_isBlankText hblank hdescription)

end Invocation

end CommandLine

end FilterQuery
