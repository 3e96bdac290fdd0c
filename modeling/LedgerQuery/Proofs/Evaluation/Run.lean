import LedgerQuery.Evaluation.Workspace
import Mathlib.Data.List.Nodup

/-! # Runs -/

namespace LedgerQuery

/-! ## Runs of commands and of lines, one step at a time

A property of values that every builtin command keeps is kept by a run, however deep the aliases in
it are nested and wherever it fails. -/

section Runs
variable {α : Type}

namespace Environment

theorem eq_of_aliases {a b : Environment} (h : a.aliases = b.aliases) : a = b := by
  cases a
  cases b
  cases h
  rfl

theorem find?_eq_some {environment : Environment} {word : String} {definition : AliasDef}
    (h : environment.find? word = some definition) :
    definition ∈ environment.aliases ∧ definition.name = word := by
  have hname := List.find?_some h
  exact ⟨List.mem_of_find?_eq_some h, of_decide_eq_true hname⟩

theorem find?_of_mem {environment : Environment} {definition : AliasDef}
    (h : definition ∈ environment.aliases) :
    environment.find? definition.name = some definition := by
  cases hfind : environment.find? definition.name with
  | none =>
    have hother := List.find?_eq_none.mp hfind definition h
    exact absurd (decide_eq_true rfl) hother
  | some found =>
    obtain ⟨hmem, hname⟩ := find?_eq_some hfind
    rw [List.inj_on_of_nodup_map environment.names_nodup hmem h hname]

end Environment

theorem Builtin.ofKeyword?_eq_none_iff {word : String} :
    ofKeyword? word = none ↔ word ∉ keywords := by
  rw [ofKeyword?, List.find?_eq_none, keywords, List.mem_map]
  constructor
  · rintro h ⟨builtin, hmem, rfl⟩
    exact h builtin hmem (decide_eq_true rfl)
  · intro h builtin hmem heq
    exact h ⟨builtin, hmem, of_decide_eq_true heq⟩

theorem Outcome.andThen_done (outcome : Outcome α) :
    (outcome.andThen fun register => { register }) = outcome := by
  obtain ⟨register, printed, failure?⟩ := outcome
  cases failure? with
  | some failure => rfl
  | none => simp [andThen, after]

namespace Scope

def runCommand (scope : Scope α) (opened : List String) (command : Command) (register : Value) :
    Outcome α :=
  match Builtin.ofKeyword? command.keyword with
  | some builtin => scope.runBuiltin builtin command.argument register
  | none =>
    match scope.environment.find? command.keyword with
    | none => { register, failure? := some (.refusal (.unknownCommand command.keyword)) }
    | some definition =>
      if definition.name ∈ opened then
        { register, failure? := some (.refusal (.aliasRecursion definition.name)) }
      else scope.run (definition.name :: opened) definition.body.commands register

@[simp] theorem run_nil (scope : Scope α) (opened : List String) (register : Value) :
    scope.run opened [] register = { register } := by
  rw [run]

theorem run_cons (scope : Scope α) (opened : List String) (command : Command)
    (rest : List Command) (register : Value) :
    scope.run opened (command :: rest) register =
      (scope.runCommand opened command register).andThen (scope.run opened rest) := by
  rw [run, runCommand]
  cases Builtin.ofKeyword? command.keyword with
  | some builtin => rfl
  | none =>
    dsimp only
    split
    · rename_i hf
      rw [hf]
    · rename_i definition hf
      rw [hf]
      by_cases ho : definition.name ∈ opened
      · simp only [if_pos ho, dif_pos ho]
      · simp only [if_neg ho, dif_neg ho]

/-- A builtin command leaves the register as it was or makes of it what it makes of values. -/
theorem register_runBuiltin (scope : Scope α) (builtin : Builtin) (argument : Argument)
    (register : Value) :
    (scope.runBuiltin builtin argument register).register = register ∨
      builtin.transform scope.initial argument register =
        .ok (scope.runBuiltin builtin argument register).register := by
  unfold runBuiltin
  cases ht : builtin.transform scope.initial argument register with
  | error failure => exact Or.inl rfl
  | ok value =>
    by_cases hp : builtin = .print
    · subst hp
      dsimp only
      rw [if_pos rfl]
      cases scope.printed register with
      | error failure => exact Or.inl rfl
      | ok printed => exact Or.inl rfl
    · dsimp only
      rw [if_neg hp]
      exact Or.inr rfl

/-- What every builtin command keeps is kept by a run. -/
theorem run_preserves (scope : Scope α) {P : Value → Prop}
    (keeps : ∀ (builtin : Builtin) (argument : Argument) (value result : Value), P value →
      builtin.transform scope.initial argument value = .ok result → P result)
    (opened : List String) (commands : List Command) (register : Value) (h : P register) :
    P (scope.run opened commands register).register := by
  induction opened, commands, register using Scope.run.induct scope with
  | case1 opened register =>
    rw [run_nil]
    exact h
  | case2 opened register command rest inner following =>
    have first : P (scope.runCommand opened command register).register := by
      unfold runCommand
      cases Builtin.ofKeyword? command.keyword with
      | some builtin =>
        rcases scope.register_runBuiltin builtin command.argument register with hr | hr
        · exact hr.symm ▸ h
        · exact keeps _ _ _ _ h hr
      | none =>
        dsimp only
        cases hf : scope.environment.find? command.keyword with
        | none => exact h
        | some definition =>
          by_cases ho : definition.name ∈ opened
          · simp only [if_pos ho]
            exact h
          · simp only [if_neg ho]
            exact inner definition hf ho h
    rw [run_cons, Outcome.andThen]
    cases (scope.runCommand opened command register).failure? with
    | some failure => exact first
    | none => exact following _ first

theorem runCommand_preserves (scope : Scope α) {P : Value → Prop}
    (keeps : ∀ (builtin : Builtin) (argument : Argument) (value result : Value), P value →
      builtin.transform scope.initial argument value = .ok result → P result)
    (opened : List String) (command : Command) (register : Value) (h : P register) :
    P (scope.runCommand opened command register).register := by
  have hrun := scope.run_preserves keeps opened [command] register h
  rw [run_cons, Outcome.andThen] at hrun
  cases hf : (scope.runCommand opened command register).failure? with
  | some failure =>
    rw [hf] at hrun
    exact hrun
  | none =>
    rw [hf, run_nil] at hrun
    exact hrun

theorem run_alias (scope : Scope α) {opened : List String}
    {definition : AliasDef} (hmem : definition ∈ scope.environment.aliases)
    (hword : definition.name ∉ Builtin.keywords) (hopen : definition.name ∉ opened)
    (argument : Argument) (register : Value) :
    scope.run opened [⟨definition.name, argument⟩] register =
      scope.run (definition.name :: opened) definition.body.commands register := by
  have hcommand : scope.runCommand opened ⟨definition.name, argument⟩ register =
      scope.run (definition.name :: opened) definition.body.commands register := by
    have hfind := Environment.find?_of_mem hmem
    simp only [runCommand, Builtin.ofKeyword?_eq_none_iff.mpr hword, hfind, if_neg hopen]
  rw [run_cons, hcommand, funext fun register => scope.run_nil opened register]
  exact Outcome.andThen_done _

end Scope

namespace Workspace

def evaluateLines (printer : Option (Value → Except Failure α)) (workspace : Workspace)
    (lines : List Line) : Workspace :=
  lines.foldl (fun workspace line => (workspace.evaluateLine printer line).workspace) workspace

theorem workspace_define (workspace : Workspace) (definition : AliasDef) :
    ∃ environment, (workspace.define definition : Evaluation α).workspace =
      { workspace with environment } := by
  unfold define
  cases workspace.environment.define definition with
  | error failure => exact ⟨workspace.environment, rfl⟩
  | ok environment => exact ⟨environment, rfl⟩

def definedRecord (definition : AliasDef) : Log.Record :=
  ⟨.interpreter, .debug, "Defined alias " ++ definition.name ++ ": " ++ definition.body.source⟩

theorem define_of_new (workspace : Workspace) {definition : AliasDef}
    (h : definition.name ∉ workspace.environment.names) :
    ∃ environment : Environment,
      environment.aliases = workspace.environment.aliases ++ [definition] ∧
      (workspace.define definition : Evaluation α) =
        { workspace := { workspace with environment }, log := [definedRecord definition] } := by
  unfold define Environment.define
  rw [dif_neg h]
  exact ⟨_, rfl, rfl⟩

def rejectedRecord (definition : AliasDef) : Log.Record :=
  ⟨.interpreter, .warning, "Rejected redefinition of alias " ++ definition.name⟩

theorem define_of_taken (workspace : Workspace) {definition : AliasDef}
    (h : definition.name ∈ workspace.environment.names) :
    (workspace.define definition : Evaluation α) =
      { workspace
        log := [rejectedRecord definition]
        failure? := some (.refusal (.alreadyDefined definition.name)) } := by
  unfold define Environment.define
  rw [dif_pos h]
  rfl

/-- The aliases after a line are those before it, and at most the one that it defines. -/
theorem mem_aliases_evaluateLine {printer : Option (Value → Except Failure α)}
    {workspace : Workspace} {line : Line} {definition : AliasDef}
    (h : definition ∈ (workspace.evaluateLine printer line).workspace.environment.aliases) :
    definition ∈ workspace.environment.aliases ∨ line = .aliasDef definition := by
  cases line with
  | pipeline body => exact Or.inl h
  | aliasDef other =>
    simp only [evaluateLine] at h
    by_cases hname : other.name ∈ workspace.environment.names
    · rw [define_of_taken workspace hname] at h
      exact Or.inl h
    · obtain ⟨environment, haliases, hdefine⟩ := define_of_new (α := α) workspace hname
      rw [hdefine, haliases] at h
      rcases List.mem_append.mp h with h | h
      · exact Or.inl h
      · exact Or.inr (congrArg Line.aliasDef (List.mem_singleton.mp h).symm)

theorem initial_evaluateLine (printer : Option (Value → Except Failure α))
    (workspace : Workspace) (line : Line) :
    (workspace.evaluateLine printer line).workspace.initial = workspace.initial := by
  cases line with
  | pipeline body => rfl
  | aliasDef definition =>
    obtain ⟨environment, he⟩ := workspace_define (α := α) workspace definition
    have hi := congrArg Workspace.initial he
    exact hi

theorem evaluateLine_preserves (printer : Option (Value → Except Failure α)) {P : Value → Prop}
    (workspace : Workspace)
    (keeps : ∀ (builtin : Builtin) (argument : Argument) (value result : Value), P value →
      builtin.transform workspace.initial argument value = .ok result → P result)
    (line : Line) (h : P workspace.register) :
    P (workspace.evaluateLine printer line).workspace.register := by
  cases line with
  | pipeline body => exact Scope.run_preserves (workspace.scope printer) keeps [] _ _ h
  | aliasDef definition =>
    obtain ⟨environment, he⟩ := workspace_define (α := α) workspace definition
    have hr := congrArg Workspace.register he
    exact hr.symm ▸ h

theorem initial_evaluateLines (printer : Option (Value → Except Failure α))
    (workspace : Workspace) (lines : List Line) :
    (workspace.evaluateLines printer lines).initial = workspace.initial := by
  induction lines generalizing workspace with
  | nil => rfl
  | cons line lines ih =>
    have hfirst := initial_evaluateLine printer workspace line
    exact (ih (workspace.evaluateLine printer line).workspace).trans hfirst

theorem evaluateLines_preserves (printer : Option (Value → Except Failure α)) {P : Value → Prop}
    (workspace : Workspace)
    (keeps : ∀ (builtin : Builtin) (argument : Argument) (value result : Value), P value →
      builtin.transform workspace.initial argument value = .ok result → P result)
    (lines : List Line) (h : P workspace.register) :
    P (workspace.evaluateLines printer lines).register := by
  induction lines generalizing workspace with
  | nil => exact h
  | cons line lines ih =>
    apply ih (workspace.evaluateLine printer line).workspace
    · rw [initial_evaluateLine]
      exact keeps
    · exact evaluateLine_preserves printer workspace keeps line h

end Workspace

end Runs

/-! ## A machine that keeps the aliases that are running on a stack

It takes one command at a time; a call goes onto the stack and leaves it when the commands of its
alias are done, or when one of them has failed. Main statement: the machine halts with what a run
makes of the commands, and with the stack that it began with. -/

variable {α : Type}

/-- A call that is running: its alias, and the commands that wait for its end. -/
structure Call where
  name : String
  waiting : List Command
  deriving DecidableEq, Repr

/-- A workspace, the commands to run next, the calls that are running, the last one first, what was
printed, and the failure that the machine is leaving its calls with. -/
structure Machine (α : Type) where
  workspace : Workspace
  pending : List Command
  calls : List Call := []
  printed : List α := []
  failure? : Option Failure := none

namespace Machine

def active (machine : Machine α) : List String :=
  machine.calls.map (·.name)

def settle (machine : Machine α) (rest : List Command) (outcome : Outcome α) : Machine α :=
  { machine with
    workspace := { machine.workspace with register := outcome.register }
    pending := if outcome.failure?.isSome then [] else rest
    printed := machine.printed ++ outcome.printed
    failure? := outcome.failure? }

def refuse (machine : Machine α) (cause : Refusal) : Machine α :=
  machine.settle []
    { register := machine.workspace.register, failure? := some (.refusal cause) }

def take (printer : Option (Value → Except Failure α)) (machine : Machine α) (command : Command)
    (rest : List Command) : Machine α :=
  match Builtin.ofKeyword? command.keyword with
  | some builtin =>
    machine.settle rest ((machine.workspace.scope printer).runBuiltin builtin command.argument
      machine.workspace.register)
  | none =>
    match machine.workspace.environment.find? command.keyword with
    | none => machine.refuse (.unknownCommand command.keyword)
    | some definition =>
      if definition.name ∈ machine.active then machine.refuse (.aliasRecursion definition.name)
      else
        { machine with
          pending := definition.body.commands
          calls := ⟨definition.name, rest⟩ :: machine.calls }

/-- One step, unless the machine is done. A call without commands left goes off the stack; so does
every call once a command has failed. -/
def step (printer : Option (Value → Except Failure α)) (machine : Machine α) :
    Option (Machine α) :=
  match machine.failure?, machine.pending, machine.calls with
  | none, command :: rest, _ => some (machine.take printer command rest)
  | none, [], call :: calls => some { machine with pending := call.waiting, calls }
  | some _, _, _ :: calls => some { machine with pending := [], calls }
  | _, _, [] => none

inductive Execution (printer : Option (Value → Except Failure α)) :
    Machine α → Machine α → Prop where
  | nil (m) : Execution printer m m
  | cons {m n final} : m.step printer = some n → Execution printer n final →
      Execution printer m final

def Halts (printer : Option (Value → Except Failure α)) (machine final : Machine α) : Prop :=
  Execution printer machine final ∧ final.step printer = none

variable {printer : Option (Value → Except Failure α)}

theorem Execution.single {m n : Machine α} (h : m.step printer = some n) :
    Execution printer m n :=
  .cons h (.nil n)

theorem Execution.trans {m n final : Machine α} (h : Execution printer m n)
    (k : Execution printer n final) : Execution printer m final := by
  induction h with
  | nil => exact k
  | cons h _ ih => exact .cons h (ih k)

theorem settle_failed (machine : Machine α) (rest : List Command) {outcome : Outcome α}
    {failure : Failure} (h : outcome.failure? = some failure) :
    machine.settle rest outcome = machine.settle [] outcome := by
  simp [settle, h]

theorem settle_settle (machine : Machine α) (rest : List Command) {first : Outcome α}
    (h : first.failure? = none) (second : Value → Outcome α) :
    (machine.settle rest first).settle [] (second first.register) =
      machine.settle [] (first.andThen second) := by
  simp [settle, Outcome.andThen, Outcome.after, h, List.append_assoc]

/-- A call off the stack: what waited for it is pending, unless it failed. -/
theorem step_return (machine : Machine α) (name : String) (rest body : List Command)
    (outcome : Outcome α) :
    ({ machine with pending := body, calls := ⟨name, rest⟩ :: machine.calls }.settle []
      outcome).step printer = some (machine.settle rest outcome) := by
  obtain ⟨register, printed, failure?⟩ := outcome
  cases failure? with
  | none => rfl
  | some failure => rfl

/-- The machine follows a run, on top of any calls that are running already. -/
theorem execution_run (scope : Scope α) (opened : List String) (commands : List Command)
    (register : Value) (machine : Machine α) (hs : machine.workspace.scope printer = scope)
    (hr : machine.workspace.register = register) (ha : machine.active = opened)
    (hp : machine.pending = commands) (hf : machine.failure? = none) :
    Execution printer machine (machine.settle [] (scope.run opened commands register)) := by
  induction opened, commands, register using Scope.run.induct scope generalizing machine with
  | case1 opened register =>
    obtain ⟨workspace, pending, calls, printed, failure?⟩ := machine
    simp only at hr hp hf
    subst hr hp hf
    simpa [settle] using Execution.nil _
  | case2 opened register command rest inner following =>
    have taken : machine.step printer = some (machine.take printer command rest) := by
      simp only [step, hf, hp]
    have first : Execution printer machine
        (machine.settle rest (scope.runCommand opened command register)) := by
      unfold take at taken
      unfold Scope.runCommand
      cases hb : Builtin.ofKeyword? command.keyword with
      | some builtin =>
        rw [hb, hs, hr] at taken
        exact .single taken
      | none =>
        rw [hb] at taken
        subst hs
        simp only [Workspace.scope] at taken inner ⊢
        cases hd : machine.workspace.environment.find? command.keyword with
        | none =>
          rw [hd, refuse, hr] at taken
          rw [settle_failed _ _ rfl]
          exact .single taken
        | some definition =>
          rw [hd, ha] at taken
          by_cases ho : definition.name ∈ opened
          · simp only [if_pos ho, refuse, hr] at taken ⊢
            rw [settle_failed _ _ rfl]
            exact .single taken
          · simp only [if_neg ho] at taken ⊢
            have called := inner definition hd ho
              { machine with
                pending := definition.body.commands
                calls := ⟨definition.name, rest⟩ :: machine.calls }
              rfl hr (congrArg (definition.name :: ·) ha) rfl hf
            exact .cons taken (called.trans (.single (step_return machine _ _ _ _)))
    rw [Scope.run_cons]
    cases ho : (scope.runCommand opened command register).failure? with
    | some failure =>
      rw [settle_failed _ _ ho] at first
      simpa [Outcome.andThen, ho] using first
    | none =>
      have later := following (scope.runCommand opened command register).register
        (machine.settle rest (scope.runCommand opened command register))
        hs rfl ha (by simp [settle, ho]) ho
      rw [settle_settle _ _ ho] at later
      exact first.trans later

/-- The machine halts with what the run of a pipeline leaves, and without a call on its stack. -/
theorem halts_runCommands (workspace : Workspace) (commands : List Command) :
    let evaluation := workspace.runCommands printer commands
    Halts printer { workspace, pending := commands }
      { workspace := evaluation.workspace, pending := [], calls := []
        printed := evaluation.printed, failure? := evaluation.failure? } := by
  have run := execution_run (workspace.scope printer) [] commands workspace.register
    { workspace, pending := commands } rfl rfl rfl rfl rfl
  constructor
  · simpa [settle, Workspace.runCommands] using run
  · unfold step
    cases (workspace.runCommands printer commands).failure? with
    | none => rfl
    | some failure => rfl

end Machine

end LedgerQuery
