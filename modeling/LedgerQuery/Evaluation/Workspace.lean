import LedgerQuery.Failure
import LedgerQuery.Log.Output
import LedgerQuery.Operation
import LedgerQuery.Query.Line
import LedgerQuery.Query.Syntax
import LedgerQuery.Value.Grouped

/-!
# Evaluation

Commands, aliases and the registers that they are run on.
-/
namespace LedgerQuery

/-! ## Builtin commands

The commands that the language knows by itself. Nine of them transform a value; `reset` goes back
to the initial value, and `print` shows the value and leaves it as it is. -/

inductive Builtin where
  | avg
  | count
  | last
  | monthly
  | print
  | reset
  | reverse
  | search
  | sum
  | tags
  | yearly
  deriving DecidableEq, Repr

namespace Builtin

def all : List Builtin :=
  [.avg, .count, .last, .monthly, .print, .reset, .reverse, .search, .sum, .tags, .yearly]

def keyword : Builtin → String
  | .avg => "avg"
  | .count => "count"
  | .last => "last"
  | .monthly => "monthly"
  | .print => "print"
  | .reset => "reset"
  | .reverse => "reverse"
  | .search => "search"
  | .sum => "sum"
  | .tags => "tags"
  | .yearly => "yearly"

def keywords : List String :=
  all.map keyword

def ofKeyword? (word : String) : Option Builtin :=
  all.find? (·.keyword = word)

/-- What a command makes of a value, if it has the argument that it takes. `print` makes nothing
of it. -/
def transform (builtin : Builtin) (initial : Value) (argument : Argument) (value : Value) :
    Except Failure Value :=
  match builtin, argument with
  | .avg, .none => Operation.average value
  | .count, .none => Operation.count value
  | .last, .count n => Operation.last n value
  | .monthly, .none => Operation.monthly value
  | .print, .none => .ok value
  | .reset, .none => .ok initial
  | .reverse, .none => Operation.reverse value
  | .search, .pattern text => Operation.search text value
  | .sum, .none => Operation.total value
  | .tags, .tags matchers => Operation.tags matchers value
  | .yearly, .none => Operation.yearly value
  | _, _ => .error (.breakdown (.wrongArgument builtin.keyword))

end Builtin

/-! ## Environments

The aliases of a session in the order of their definition. No two have the same name, and an alias
once defined is neither changed nor removed. -/

structure Environment where
  aliases : List AliasDef
  names_nodup : (aliases.map (·.name)).Nodup
  deriving DecidableEq

namespace Environment

def none : Environment :=
  ⟨[], by simp⟩

def names (environment : Environment) : List String :=
  environment.aliases.map (·.name)

def find? (environment : Environment) (name : String) : Option AliasDef :=
  environment.aliases.find? (·.name = name)

/-- The environment with one more alias at its end, unless the name is taken. -/
def define (environment : Environment) (definition : AliasDef) : Except Failure Environment :=
  if h : definition.name ∈ environment.names then
    .error (.refusal (.alreadyDefined definition.name))
  else
    .ok ⟨environment.aliases ++ [definition], by
      simp only [List.map_append, List.map_cons, List.map_nil]
      refine List.nodup_append.2 ⟨environment.names_nodup, by simp, fun a ha b hb e => h ?_⟩
      rw [← List.mem_singleton.1 hb, ← e]
      exact ha⟩

def saved (environment : Environment) : List (String × String) :=
  environment.aliases.map fun definition => (definition.name, definition.raw)

def closed (environment : Environment) (opened : List String) : List AliasDef :=
  environment.aliases.filter (·.name ∉ opened)

/-- Opening an alias leaves fewer that are not open. -/
theorem length_closed_cons_lt {environment : Environment} {opened : List String} {word : String}
    {definition : AliasDef} (hf : environment.find? word = some definition)
    (ho : definition.name ∉ opened) :
    (environment.closed (definition.name :: opened)).length <
      (environment.closed opened).length := by
  have hmem : definition ∈ environment.closed opened :=
    List.mem_filter.2 ⟨List.mem_of_find?_eq_some hf, by simpa using ho⟩
  have heq : environment.closed (definition.name :: opened) =
      (environment.closed opened).filter (·.name ≠ definition.name) := by
    unfold closed
    rw [List.filter_filter]
    refine List.filter_congr fun a _ => ?_
    simp [List.mem_cons, not_or, Bool.decide_and]
  rw [heq]
  exact List.length_filter_lt_length_iff_exists.2 ⟨definition, hmem, by simp⟩

end Environment

/-! ## Running commands

Commands are run one after another on a register. A word that is no builtin calls an alias, whose
commands are run in its place on the register as it is then. An alias that is called while its own
commands are running is refused; hence running ends. The first failure ends a run, and the register
keeps what the commands before it made. -/

/-- What commands are run with: the value to reset to, the aliases, and how a value is printed,
if it can be printed. -/
structure Scope (α : Type) where
  initial : Value
  environment : Environment
  printer : Option (Value → Except Failure α)

structure Outcome (α : Type) where
  register : Value
  printed : List α := []
  failure? : Option Failure := none

namespace Outcome

def after {α : Type} (printed : List α) (outcome : Outcome α) : Outcome α :=
  { outcome with printed := printed ++ outcome.printed }

/-- The outcome of two runs, the second of which begins with the register of the first. -/
def andThen {α : Type} (first : Outcome α) (second : Value → Outcome α) : Outcome α :=
  match first.failure? with
  | some _ => first
  | none => (second first.register).after first.printed

end Outcome

namespace Scope

def printed {α : Type} (scope : Scope α) (register : Value) : Except Failure (List α) :=
  match scope.printer with
  | none => .ok []
  | some printer => (printer register).map ([·])

def runBuiltin {α : Type} (scope : Scope α) (builtin : Builtin) (argument : Argument)
    (register : Value) : Outcome α :=
  match builtin.transform scope.initial argument register with
  | .error failure => { register, failure? := some failure }
  | .ok value =>
    if builtin = .print then
      match scope.printed register with
      | .error failure => { register, failure? := some failure }
      | .ok printed => { register, printed }
    else { register := value }

/-- Runs commands in order while the aliases in `opened` are running. -/
def run {α : Type} (scope : Scope α) (opened : List String) (commands : List Command)
    (register : Value) : Outcome α :=
  match commands with
  | [] => { register }
  | command :: rest =>
    let first : Outcome α :=
      match Builtin.ofKeyword? command.keyword with
      | some builtin => scope.runBuiltin builtin command.argument register
      | none =>
        match hf : scope.environment.find? command.keyword with
        | none => { register, failure? := some (.refusal (.unknownCommand command.keyword)) }
        | some definition =>
          if ho : definition.name ∈ opened then
            { register, failure? := some (.refusal (.aliasRecursion definition.name)) }
          else
            have := Environment.length_closed_cons_lt hf ho
            scope.run (definition.name :: opened) definition.body.commands register
    first.andThen fun register => scope.run opened rest register
termination_by ((scope.environment.closed opened).length, commands.length)

end Scope

/-! ## Workspaces

What a session works with: the initial value, the register and the aliases. A pipeline changes the
register, a definition the aliases; a failed line keeps what was done before it failed. -/

structure Workspace where
  initial : Value
  register : Value
  environment : Environment
  deriving DecidableEq

def readLine (separator line : String) : Except Failure Line := do
  (Query.readLine (← Separator.ofText separator) line).mapError .ofQueryFault

def readPipeline (separator text : String) : Except Failure Pipeline := do
  let chars := text.toList
  (Query.readPipeline (← Separator.ofText separator) chars).mapError fun stop =>
    .ofQueryFault (stop.fault chars)

/-- A line to evaluate, or something that is none. -/
inductive Node where
  | line (line : Line)
  | foreign (kind : String)
  deriving DecidableEq, Repr

structure Evaluation (α : Type) where
  workspace : Workspace
  printed : List α := []
  log : List Log.Record := []
  failure? : Option Failure := none

namespace Workspace

def start (initial : Value) : Workspace :=
  { initial, register := initial, environment := .none }

def scope {α : Type} (workspace : Workspace) (printer : Option (Value → Except Failure α)) :
    Scope α :=
  { initial := workspace.initial, environment := workspace.environment, printer }

def define {α : Type} (workspace : Workspace) (definition : AliasDef) : Evaluation α :=
  match workspace.environment.define definition with
  | .error failure =>
    { workspace
      log := [⟨.interpreter, .warning, "Rejected redefinition of alias " ++ definition.name⟩]
      failure? := some failure }
  | .ok environment =>
    { workspace := { workspace with environment }
      log := [⟨.interpreter, .debug,
        "Defined alias " ++ definition.name ++ ": " ++ definition.body.source⟩] }

def runCommands {α : Type} (workspace : Workspace)
    (printer : Option (Value → Except Failure α)) (commands : List Command) : Evaluation α :=
  let outcome := (workspace.scope printer).run [] commands workspace.register
  { workspace := { workspace with register := outcome.register }
    printed := outcome.printed
    failure? := outcome.failure? }

def evaluateLine {α : Type} (workspace : Workspace)
    (printer : Option (Value → Except Failure α)) : Line → Evaluation α
  | .aliasDef definition => workspace.define definition
  | .pipeline body => workspace.runCommands printer body.commands

def evaluate {α : Type} (workspace : Workspace)
    (printer : Option (Value → Except Failure α)) : Node → Evaluation α
  | .line line => workspace.evaluateLine printer line
  | .foreign kind => { workspace, failure? := some (.breakdown (.notALine kind)) }

def evaluateText {α : Type} (workspace : Workspace)
    (printer : Option (Value → Except Failure α)) (separator line : String) : Evaluation α :=
  match readLine separator line with
  | .error failure => { workspace, failure? := some failure }
  | .ok line => workspace.evaluateLine printer line

end Workspace

end LedgerQuery
