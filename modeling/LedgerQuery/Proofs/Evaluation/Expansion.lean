import LedgerQuery.Proofs.Evaluation.Run

/-! # Flat programs and histories -/

namespace LedgerQuery

/-! ## Aliases written out

A pipeline is flattened by putting the commands of an alias in the place of its name, again and
again; a name without a meaning and an alias inside itself become steps that only fail. Running the
flat steps in order, up to the first that fails, is running the pipeline. -/

section Flat
variable {α : Type}

/-- A step of a flat program: a builtin command, or a refusal in the place of a word. -/
inductive FlatStep where
  | command (builtin : Builtin) (argument : Argument)
  | refuse (cause : Refusal)
  deriving DecidableEq, Repr

namespace Environment

/-- The commands with every alias written out, depth first; those in `opened` are being written
out around them. -/
def flatten (environment : Environment) (opened : List String) (commands : List Command) :
    List FlatStep :=
  match commands with
  | [] => []
  | command :: rest =>
    let first : List FlatStep :=
      match Builtin.ofKeyword? command.keyword with
      | .some builtin => [.command builtin command.argument]
      | .none =>
        match hf : environment.find? command.keyword with
        | .none => [.refuse (.unknownCommand command.keyword)]
        | .some definition =>
          if ho : definition.name ∈ opened then [.refuse (.aliasRecursion definition.name)]
          else
            have := length_closed_cons_lt hf ho
            environment.flatten (definition.name :: opened) definition.body.commands
    first ++ environment.flatten opened rest
termination_by ((environment.closed opened).length, commands.length)

def flattenCommand (environment : Environment) (opened : List String) (command : Command) :
    List FlatStep :=
  match Builtin.ofKeyword? command.keyword with
  | .some builtin => [.command builtin command.argument]
  | .none =>
    match environment.find? command.keyword with
    | .none => [.refuse (.unknownCommand command.keyword)]
    | .some definition =>
      if definition.name ∈ opened then [.refuse (.aliasRecursion definition.name)]
      else environment.flatten (definition.name :: opened) definition.body.commands

@[simp] theorem flatten_nil (environment : Environment) (opened : List String) :
    environment.flatten opened [] = [] := by
  rw [flatten]

theorem flatten_cons (environment : Environment) (opened : List String) (command : Command)
    (rest : List Command) :
    environment.flatten opened (command :: rest) =
      environment.flattenCommand opened command ++ environment.flatten opened rest := by
  rw [flatten, flattenCommand]
  cases Builtin.ofKeyword? command.keyword with
  | some builtin => rfl
  | none =>
    dsimp only
    split
    · rename_i hf
      rw [hf]
    · rename_i definition hf
      rw [hf]
      by_cases ho : definition.name ∈ opened
      · simp only [if_pos ho, dif_pos ho]
      · simp only [if_neg ho, dif_neg ho]

end Environment

theorem Outcome.andThen_assoc (first : Outcome α) (second third : Value → Outcome α) :
    (first.andThen second).andThen third =
      first.andThen fun register => (second register).andThen third := by
  obtain ⟨register, printed, failure?⟩ := first
  cases failure? with
  | some failure => rfl
  | none =>
    simp only [andThen, after]
    cases hs : (second register).failure? with
    | some failure => simp only [hs]
    | none => simp only [List.append_assoc]

namespace Scope

theorem run_append (scope : Scope α) (opened : List String) (before after : List Command)
    (register : Value) :
    scope.run opened (before ++ after) register =
      (scope.run opened before register).andThen (scope.run opened after) := by
  induction before generalizing register with
  | nil => simp [Outcome.andThen, Outcome.after]
  | cons command before ih =>
    rw [List.cons_append, run_cons, run_cons, Outcome.andThen_assoc]
    rw [funext ih]

def runStep (scope : Scope α) : FlatStep → Value → Outcome α
  | .command builtin argument, register => scope.runBuiltin builtin argument register
  | .refuse cause, register => { register, failure? := some (.refusal cause) }

def runFlat (scope : Scope α) : List FlatStep → Value → Outcome α
  | [], register => { register }
  | step :: steps, register => (scope.runStep step register).andThen (scope.runFlat steps)

theorem runFlat_singleton (scope : Scope α) (step : FlatStep) (register : Value) :
    scope.runFlat [step] register = scope.runStep step register :=
  (scope.runStep step register).andThen_done

theorem runFlat_append (scope : Scope α) (before after : List FlatStep) (register : Value) :
    scope.runFlat (before ++ after) register =
      (scope.runFlat before register).andThen (scope.runFlat after) := by
  induction before generalizing register with
  | nil => simp [runFlat, Outcome.andThen, Outcome.after]
  | cons step before ih =>
    rw [List.cons_append, runFlat, runFlat, Outcome.andThen_assoc]
    rw [funext ih]

/-- Running commands is running what they are flattened to. -/
theorem run_eq_runFlat (scope : Scope α) (opened : List String) (commands : List Command)
    (register : Value) :
    scope.run opened commands register =
      scope.runFlat (scope.environment.flatten opened commands) register := by
  induction opened, commands, register using Scope.run.induct scope with
  | case1 opened register =>
    rw [run_nil, Environment.flatten_nil, runFlat]
  | case2 opened register command rest inner following =>
    have first : scope.runCommand opened command register =
        scope.runFlat (scope.environment.flattenCommand opened command) register := by
      unfold runCommand Environment.flattenCommand
      cases Builtin.ofKeyword? command.keyword with
      | some builtin =>
        dsimp only
        rw [runFlat_singleton, runStep]
      | none =>
        dsimp only
        cases hf : scope.environment.find? command.keyword with
        | none =>
          dsimp only
          rw [runFlat_singleton, runStep]
        | some definition =>
          by_cases ho : definition.name ∈ opened
          · simp only [if_pos ho]
            rw [runFlat_singleton, runStep]
          · simp only [if_neg ho]
            exact inner definition hf ho
    rw [run_cons, Environment.flatten_cons, runFlat_append, first, funext following]

theorem runBuiltin_failed {scope : Scope α} {builtin : Builtin} {argument : Argument}
    {register : Value} {failure : Failure}
    (h : (scope.runBuiltin builtin argument register).failure? = some failure) :
    scope.runBuiltin builtin argument register = { register, failure? := some failure } := by
  revert h
  unfold runBuiltin
  cases builtin.transform scope.initial argument register with
  | error cause =>
    rintro ⟨⟩
    rfl
  | ok value =>
    dsimp only
    by_cases hp : builtin = .print
    · rw [if_pos hp]
      cases scope.printed register with
      | error cause =>
        rintro ⟨⟩
        rfl
      | ok printed => exact fun h => nomatch h
    · rw [if_neg hp]
      exact fun h => nomatch h

theorem runStep_failed {scope : Scope α} {step : FlatStep} {register : Value} {failure : Failure}
    (h : (scope.runStep step register).failure? = some failure) :
    scope.runStep step register = { register, failure? := some failure } := by
  cases step with
  | command builtin argument => exact runBuiltin_failed h
  | refuse cause =>
    cases h
    rfl

/-- A run that fails has done the steps before the one that failed, and nothing else. -/
theorem runFlat_failed {scope : Scope α} {steps : List FlatStep} {register : Value}
    {failure : Failure} (h : (scope.runFlat steps register).failure? = some failure) :
    ∃ before step after, steps = before ++ step :: after ∧
      scope.runFlat before register =
        { register := (scope.runFlat steps register).register
          printed := (scope.runFlat steps register).printed } ∧
      (scope.runStep step (scope.runFlat steps register).register).failure? = some failure := by
  induction steps generalizing register with
  | nil => cases h
  | cons step steps ih =>
    rw [runFlat] at h ⊢
    cases hs : (scope.runStep step register).failure? with
    | some cause =>
      have he := runStep_failed hs
      rw [he] at h ⊢
      obtain rfl := Option.some.inj h
      exact ⟨[], step, steps, rfl, rfl, hs⟩
    | none =>
      simp only [Outcome.andThen, hs] at h ⊢
      obtain ⟨before, failed, after, hsteps, hbefore, hfailed⟩ := ih h
      refine ⟨step :: before, failed, after, congrArg (step :: ·) hsteps, ?_, hfailed⟩
      rw [runFlat, Outcome.andThen, hs]
      simp only [hbefore, Outcome.after]

end Scope

/-- Calling aliases is writing them out: a pipeline leaves the register, the printed values and the
failure of its flat steps, run in order up to the first that fails. A failure keeps what the steps
before it made. The value to reset to and the aliases stay, and so does the stack of the aliases
that are running. -/
theorem pipeline_eq_expansion (printer : Option (Value → Except Failure α))
    (workspace : Workspace) (body : Pipeline) :
    let scope := workspace.scope printer
    let steps := workspace.environment.flatten [] body.commands
    let outcome := scope.runFlat steps workspace.register
    let evaluation := workspace.evaluateLine printer (.pipeline body)
    evaluation =
      { workspace := { workspace with register := outcome.register }
        printed := outcome.printed
        failure? := outcome.failure? } ∧
    (∀ failure, evaluation.failure? = some failure →
      ∃ before step after, steps = before ++ step :: after ∧
        scope.runFlat before workspace.register =
          { register := evaluation.workspace.register, printed := evaluation.printed } ∧
        (scope.runStep step evaluation.workspace.register).failure? = some failure) ∧
    Machine.Halts printer { workspace, pending := body.commands, calls := [] }
      { workspace := evaluation.workspace, pending := [], calls := []
        printed := evaluation.printed, failure? := evaluation.failure? } := by
  intro scope steps outcome evaluation
  have run : scope.run [] body.commands workspace.register = outcome :=
    scope.run_eq_runFlat [] body.commands workspace.register
  have same : evaluation =
      { workspace := { workspace with register := outcome.register }
        printed := outcome.printed
        failure? := outcome.failure? } := by
    rw [← run]
    rfl
  refine ⟨same, ?_, Machine.halts_runCommands workspace body.commands⟩
  intro failure hf
  rw [same] at hf ⊢
  exact Scope.runFlat_failed hf

end Flat

/-! ## Histories

Lines evaluated one after another by one machine, which goes from line to line with the
workspace and the stack of calls that the last one left. Main statement: a line that resets leaves
of all lines before it only the aliases, whatever failed in them and however deep in calls. -/

variable {α : Type} {printer : Option (Value → Except Failure α)}

namespace Workspace

def transcript (printer : Option (Value → Except Failure α)) (workspace : Workspace) :
    List Line → List (Evaluation α)
  | [] => []
  | line :: lines =>
    let evaluation := workspace.evaluateLine printer line
    evaluation :: evaluation.workspace.transcript printer lines

theorem transcript_append (workspace : Workspace) (before after : List Line) :
    workspace.transcript printer (before ++ after) =
      workspace.transcript printer before ++
        (workspace.evaluateLines printer before).transcript printer after := by
  induction before generalizing workspace with
  | nil => rfl
  | cons line before ih =>
    rw [List.cons_append, transcript, ih]
    rfl

def resetLine (source : String) : Line :=
  .pipeline ⟨[⟨"reset", .none⟩], source⟩

theorem evaluateLine_reset (workspace : Workspace) (source : String) :
    workspace.evaluateLine printer (resetLine source) =
      { workspace := { workspace with register := workspace.initial } } := by
  have hcommand : (workspace.scope printer).runCommand [] ⟨"reset", .none⟩ workspace.register =
      { register := workspace.initial } := rfl
  simp only [resetLine, evaluateLine, runCommands, Scope.run_cons, hcommand, Scope.run_nil,
    Outcome.andThen, Outcome.after, List.append_nil]

end Workspace

namespace Machine

theorem Halts.unique {machine first second : Machine α} (h : Halts printer machine first)
    (k : Halts printer machine second) : first = second := by
  obtain ⟨hrun, hstop⟩ := h
  obtain ⟨krun, kstop⟩ := k
  induction hrun with
  | nil machine =>
    cases krun with
    | nil => rfl
    | cons kstep _ =>
      rw [hstop] at kstep
      cases kstep
  | cons hstep _ ih =>
    cases krun with
    | nil =>
      rw [kstop] at hstep
      cases hstep
    | cons kstep krest =>
      rw [hstep] at kstep
      cases kstep
      exact ih hstop krest

def ofEvaluation (evaluation : Evaluation α) : Machine α :=
  { workspace := evaluation.workspace, pending := [], printed := evaluation.printed
    failure? := evaluation.failure? }

def idle (workspace : Workspace) : Machine α :=
  { workspace, pending := [] }

/-- The machine evaluates a line on top of the calls that are on its stack. -/
inductive Evaluates (printer : Option (Value → Except Failure α)) (machine : Machine α) :
    Line → Machine α → Prop where
  | define (definition) : Evaluates printer machine (.aliasDef definition)
      { ofEvaluation (machine.workspace.define definition) with calls := machine.calls }
  | run {body final} : Halts printer
      { workspace := machine.workspace, pending := body.commands, calls := machine.calls } final →
      Evaluates printer machine (.pipeline body) final

theorem evaluates_iff {machine next : Machine α} (hcalls : machine.calls = []) {line : Line} :
    Evaluates printer machine line next ↔
      next = ofEvaluation (machine.workspace.evaluateLine printer line) := by
  have halts : ∀ commands, Halts printer { workspace := machine.workspace, pending := commands }
      (ofEvaluation (machine.workspace.runCommands printer commands)) :=
    halts_runCommands machine.workspace
  constructor
  · intro h
    cases h with
    | define definition =>
      rw [hcalls]
      rfl
    | run hfinal =>
      rw [hcalls] at hfinal
      exact hfinal.unique (halts _)
  · rintro rfl
    cases line with
    | aliasDef definition =>
      have hdefine : Evaluates printer machine (.aliasDef definition)
          { ofEvaluation (machine.workspace.define definition) with calls := machine.calls } :=
        .define definition
      rw [hcalls] at hdefine
      exact hdefine
    | pipeline body =>
      apply Evaluates.run
      rw [hcalls]
      exact halts body.commands

inductive Transcript (printer : Option (Value → Except Failure α)) :
    Machine α → List Line → List (Machine α) → Prop where
  | nil (machine) : Transcript printer machine [] []
  | cons {machine next line lines rest} : Evaluates printer machine line next →
      Transcript printer next lines rest → Transcript printer machine (line :: lines) (next :: rest)

/-- No call is left on the stack between lines, so the machine follows the workspace. -/
theorem transcript_iff {machine : Machine α} (hcalls : machine.calls = []) {lines : List Line}
    {standings : List (Machine α)} :
    Transcript printer machine lines standings ↔
      standings = (machine.workspace.transcript printer lines).map ofEvaluation := by
  induction lines generalizing machine standings with
  | nil =>
    constructor
    · rintro ⟨⟩
      rfl
    · rintro rfl
      exact .nil machine
  | cons line lines ih =>
    constructor
    · intro h
      cases h with
      | cons hline hrest =>
        obtain rfl := (evaluates_iff hcalls).mp hline
        obtain rfl := (ih rfl).mp hrest
        rfl
    · rintro rfl
      exact .cons ((evaluates_iff hcalls).mpr rfl) ((ih rfl).mpr rfl)

end Machine

/-- Whatever was evaluated before, a line that resets succeeds, prints nothing and leaves the
machine as a new one with the same initial value and the aliases that were defined; so the lines
after it leave what they leave there: the same registers, printed values, failures, aliases and
stacks. -/
theorem reset_erases_history (printer : Option (Value → Except Failure α)) (initial : Value)
    (history continuation : List Line) (source : String) :
    let start := Workspace.start initial
    let built := (start.evaluateLines printer history).environment
    let fresh : Workspace := { start with environment := built }
    let lines := history ++ Workspace.resetLine source :: continuation
    start.transcript printer lines = start.transcript printer history ++
      { workspace := fresh } :: fresh.transcript printer continuation ∧
    (∀ standings, Machine.Transcript printer (.idle start) lines standings ↔
      ∃ before after, standings = before ++ .idle fresh :: after ∧
        Machine.Transcript printer (.idle start) history before ∧
        Machine.Transcript printer (.idle fresh) continuation after) ∧
    ∃ standings, Machine.Transcript printer (.idle start) lines standings := by
  intro start built fresh lines
  have hreset : (start.evaluateLines printer history).evaluateLine printer
      (Workspace.resetLine source) = { workspace := fresh } := by
    rw [Workspace.evaluateLine_reset, Workspace.initial_evaluateLines]
    rfl
  have hlines : start.transcript printer lines = start.transcript printer history ++
      { workspace := fresh } :: fresh.transcript printer continuation := by
    rw [Workspace.transcript_append, Workspace.transcript, hreset]
  refine ⟨hlines, ?_, ?_⟩
  · intro standings
    have hmap : (start.transcript printer lines).map Machine.ofEvaluation =
        (start.transcript printer history).map Machine.ofEvaluation ++
          .idle fresh :: (fresh.transcript printer continuation).map Machine.ofEvaluation := by
      rw [hlines, List.map_append, List.map_cons]
      rfl
    constructor
    · intro h
      obtain rfl := (Machine.transcript_iff rfl).mp h
      exact ⟨_, _, hmap, (Machine.transcript_iff rfl).mpr rfl, (Machine.transcript_iff rfl).mpr rfl⟩
    · rintro ⟨before, after, rfl, hbefore, hafter⟩
      obtain rfl := (Machine.transcript_iff rfl).mp hbefore
      obtain rfl := (Machine.transcript_iff rfl).mp hafter
      exact (Machine.transcript_iff rfl).mpr hmap.symm
  · exact ⟨_, (Machine.transcript_iff rfl).mpr rfl⟩

end LedgerQuery
