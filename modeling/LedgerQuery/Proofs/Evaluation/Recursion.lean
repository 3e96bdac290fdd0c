import LedgerQuery.Proofs.Evaluation.Run
import LedgerQuery.Proofs.Evaluation.Answer
import LedgerQuery.Session.Replay
import Mathlib.Data.List.Chain
import Mathlib.Data.List.Perm.Subperm
import Mathlib.Logic.Relation

/-! Aliases that call one another. The calls that are running are of different aliases, each made by
the commands of the one below it; so there are never more of them than aliases, and a call that is
refused since its alias is running closes a cycle of calls. Without cycles none is refused, however
often an alias is called. -/

namespace LedgerQuery

namespace Environment

def Calls (environment : Environment) (caller callee : String) : Prop :=
  ∃ definition ∈ environment.aliases, definition.name = caller ∧
    ∃ command ∈ definition.body.commands, command.keyword = callee ∧
      Builtin.ofKeyword? callee = .none ∧ callee ∈ environment.names

def OnCycle (environment : Environment) (name : String) : Prop :=
  Relation.TransGen environment.Calls name name

/-- Pending commands belong to the alias that was called last, and the commands that wait for the
end of a call belong to the alias below it. -/
inductive Within (environment : Environment) : List Command → List Call → Prop where
  | outside (commands) : Within environment commands []
  | inside {commands definition waiting calls} : definition ∈ environment.aliases →
      commands ⊆ definition.body.commands → Within environment waiting calls →
      Within environment commands (⟨definition.name, waiting⟩ :: calls)

variable {environment : Environment} {commands fewer : List Command} {call : Call}
  {below : List Call}

theorem Within.mono (h : environment.Within commands below) (hsub : fewer ⊆ commands) :
    environment.Within fewer below := by
  cases h with
  | outside => exact .outside fewer
  | inside hmem hcommands hwaiting =>
    exact .inside hmem (List.Subset.trans hsub hcommands) hwaiting

theorem Within.waiting (h : environment.Within commands (call :: below)) :
    environment.Within call.waiting below := by
  cases h with
  | inside _ _ hwaiting => exact hwaiting

theorem Within.calls {command : Command} (h : environment.Within commands (call :: below))
    (hcommand : command ∈ commands) (hword : Builtin.ofKeyword? command.keyword = .none)
    (hname : command.keyword ∈ environment.names) :
    environment.Calls call.name command.keyword := by
  cases h with
  | inside hmem hcommands _ => exact ⟨_, hmem, rfl, command, hcommands hcommand, rfl, hword, hname⟩

end Environment

namespace Machine

variable {α : Type} {printer : Option (Value → Except Failure α)} {machine next : Machine α}

/-- What a step does: it runs a builtin command, refuses a word or a call, or takes a call onto the
stack; it goes on after a call, or it leaves one after a failure. -/
inductive Move (printer : Option (Value → Except Failure α)) (machine : Machine α) :
    Machine α → Prop where
  | builtin {command rest builtin} : machine.failure? = none → machine.pending = command :: rest →
      Builtin.ofKeyword? command.keyword = some builtin →
      Move printer machine (machine.settle rest ((machine.workspace.scope printer).runBuiltin
        builtin command.argument machine.workspace.register))
  | unknown (word) : machine.failure? = none →
      Move printer machine (machine.refuse (.unknownCommand word))
  | recursion {command rest} : machine.failure? = none → machine.pending = command :: rest →
      Builtin.ofKeyword? command.keyword = none →
      command.keyword ∈ machine.workspace.environment.names → command.keyword ∈ machine.active →
      Move printer machine (machine.refuse (.aliasRecursion command.keyword))
  | call {command rest definition} : machine.failure? = none →
      machine.pending = command :: rest → Builtin.ofKeyword? command.keyword = none →
      definition ∈ machine.workspace.environment.aliases → definition.name = command.keyword →
      definition.name ∉ machine.active →
      Move printer machine
        { machine with
          pending := definition.body.commands
          calls := ⟨definition.name, rest⟩ :: machine.calls }
  | back {call calls} : machine.failure? = none → machine.calls = call :: calls →
      Move printer machine { machine with pending := call.waiting, calls }
  | leave {call calls} : machine.calls = call :: calls →
      Move printer machine { machine with pending := [], calls }

theorem move_of_take {command : Command} {rest : List Command} (hfine : machine.failure? = none)
    (hpending : machine.pending = command :: rest) :
    Move printer machine (machine.take printer command rest) := by
  unfold take
  cases hword : Builtin.ofKeyword? command.keyword with
  | some builtin => exact .builtin hfine hpending hword
  | none =>
    dsimp only
    cases hfind : machine.workspace.environment.find? command.keyword with
    | none => exact .unknown _ hfine
    | some definition =>
      obtain ⟨hmem, hname⟩ := Environment.find?_eq_some hfind
      dsimp only
      split
      · rename_i hactive
        have hnames : definition.name ∈ machine.workspace.environment.names :=
          List.mem_map_of_mem hmem
        rw [hname] at hnames hactive ⊢
        exact .recursion hfine hpending hword hnames hactive
      · rename_i hactive
        exact .call hfine hpending hword hmem hname hactive

theorem move_of_step (h : machine.step printer = some next) : Move printer machine next := by
  unfold step at h
  split at h
  · rename_i hfine hpending
    cases h
    exact move_of_take hfine hpending
  · rename_i hfine _ hcalls
    cases h
    exact .back hfine hcalls
  · rename_i hcalls
    cases h
    exact .leave hcalls
  · cases h

/-- Printing a value can fail by itself with this refusal. -/
def PrintingRefuses (printer : Option (Value → Except Failure α)) (cause : Refusal) : Prop :=
  ∃ shown value, printer = some shown ∧ shown value = .error (.refusal cause)

theorem printingRefuses_of_runBuiltin {scope : Scope α} {builtin : Builtin} {argument : Argument}
    {register : Value} {name : String}
    (h : (scope.runBuiltin builtin argument register).failure? =
      some (.refusal (.aliasRecursion name))) :
    PrintingRefuses scope.printer (.aliasRecursion name) := by
  unfold Scope.runBuiltin at h
  cases ht : builtin.transform scope.initial argument register with
  | error failure =>
    rw [ht] at h
    cases h
    exact absurd (ofValue_transform _ _ _ _ _ ht) id
  | ok value =>
    rw [ht] at h
    dsimp only at h
    split at h
    · split at h
      · rename_i failure hprinted
        cases h
        unfold Scope.printed at hprinted
        split at hprinted
        · cases hprinted
        · rename_i shown hprinter
          refine ⟨shown, register, hprinter, ?_⟩
          cases hs : shown register with
          | error failure =>
            rw [hs] at hprinted
            cases hprinted
            rfl
          | ok text =>
            rw [hs] at hprinted
            cases hprinted
      · cases h
    · cases h

structure Linked (printer : Option (Value → Except Failure α)) (environment : Environment)
    (machine : Machine α) : Prop where
  environment_eq : machine.workspace.environment = environment
  distinct : machine.active.Nodup
  defined : ∀ name ∈ machine.active, name ∈ environment.names
  chained : machine.active.IsChain fun callee caller => environment.Calls caller callee
  within : environment.Within machine.pending machine.calls
  reported : ∀ name, machine.failure? = some (.refusal (.aliasRecursion name)) →
    environment.OnCycle name ∨ PrintingRefuses printer (.aliasRecursion name)

variable {environment : Environment}

theorem linked_start (printer : Option (Value → Except Failure α)) (workspace : Workspace)
    (commands : List Command) :
    Linked printer workspace.environment { workspace, pending := commands } where
  environment_eq := rfl
  distinct := List.nodup_nil
  defined := fun _ hname => absurd hname List.not_mem_nil
  chained := .nil
  within := .outside commands
  reported := fun _ hfailure => nomatch hfailure

namespace Linked

variable {command : Command} {rest : List Command}

/-- The alias on top of the stack calls the alias that a pending command calls. -/
theorem calls_of_pending (h : Linked printer environment machine)
    (hpending : machine.pending = command :: rest)
    (hword : Builtin.ofKeyword? command.keyword = none)
    (hname : command.keyword ∈ environment.names) :
    ∀ top ∈ machine.active.head?, environment.Calls top command.keyword := by
  intro top htop
  have hwithin := h.within
  rw [hpending] at hwithin
  unfold active at htop
  cases hcalls : machine.calls with
  | nil =>
    rw [hcalls] at htop
    cases htop
  | cons call calls =>
    rw [hcalls] at htop hwithin
    cases htop
    exact hwithin.calls List.mem_cons_self hword hname

/-- Calling an alias that is running leads back to it. -/
theorem onCycle (h : Linked printer environment machine)
    (hpending : machine.pending = command :: rest)
    (hword : Builtin.ofKeyword? command.keyword = none)
    (hname : command.keyword ∈ environment.names) (hactive : command.keyword ∈ machine.active) :
    environment.OnCycle command.keyword := by
  have hchain : (command.keyword :: machine.active).IsChain fun callee caller =>
      Relation.TransGen environment.Calls caller callee :=
    (List.isChain_cons.mpr
      ⟨h.calls_of_pending hpending hword hname, h.chained⟩).imp fun _ _ => .single
  have : Trans (fun callee caller => Relation.TransGen environment.Calls caller callee)
      (fun callee caller => Relation.TransGen environment.Calls caller callee)
      (fun callee caller => Relation.TransGen environment.Calls caller callee) :=
    ⟨fun hfirst hsecond => hsecond.trans hfirst⟩
  exact List.rel_of_pairwise_cons hchain.pairwise hactive

theorem drop (h : Linked printer environment machine) {call : Call} {calls : List Call}
    (hcalls : machine.calls = call :: calls) {pending : List Command}
    (hsub : pending ⊆ call.waiting) :
    Linked printer environment { machine with pending, calls } := by
  obtain ⟨henvironment, hdistinct, hdefined, hchained, hwithin, hreported⟩ := h
  unfold active at hdistinct hdefined hchained
  rw [hcalls] at hdistinct hdefined hchained hwithin
  exact {
    environment_eq := henvironment
    distinct := hdistinct.of_cons
    defined := fun name hname => hdefined name (List.mem_cons_of_mem _ hname)
    chained := hchained.tail
    within := hwithin.waiting.mono hsub
    reported := hreported }

theorem settle (h : Linked printer environment machine) {pending : List Command}
    (hsub : pending ⊆ machine.pending) {outcome : Outcome α}
    (hreported : ∀ name, outcome.failure? = some (.refusal (.aliasRecursion name)) →
      environment.OnCycle name ∨ PrintingRefuses printer (.aliasRecursion name)) :
    Linked printer environment (machine.settle pending outcome) where
  environment_eq := h.environment_eq
  distinct := h.distinct
  defined := h.defined
  chained := h.chained
  within := by
    apply h.within.mono
    unfold Machine.settle
    dsimp only
    split
    · exact List.nil_subset _
    · exact hsub
  reported := hreported

theorem move (h : Linked printer environment machine) (hmove : Move printer machine next) :
    Linked printer environment next := by
  cases hmove with
  | @builtin command rest builtin hfine hpending hword =>
    refine h.settle (hpending ▸ List.subset_cons_self command rest) fun name hfailure => ?_
    exact Or.inr (printingRefuses_of_runBuiltin hfailure)
  | unknown word hfine => exact h.settle (List.nil_subset _) fun name hfailure => nomatch hfailure
  | recursion hfine hpending hword hnames hactive =>
    refine h.settle (List.nil_subset _) fun name hfailure => ?_
    cases hfailure
    exact Or.inl (h.onCycle hpending hword (h.environment_eq ▸ hnames) hactive)
  | @call command rest definition hfine hpending hword hmem hname hactive =>
    rw [h.environment_eq] at hmem
    have hnames : definition.name ∈ environment.names := List.mem_map_of_mem hmem
    have hcalls := h.calls_of_pending hpending hword (hname ▸ hnames)
    rw [← hname] at hcalls
    exact {
      environment_eq := h.environment_eq
      distinct := List.nodup_cons.mpr ⟨hactive, h.distinct⟩
      defined := List.forall_mem_cons.mpr ⟨hnames, h.defined⟩
      chained := List.isChain_cons.mpr ⟨hcalls, h.chained⟩
      within := .inside hmem (List.Subset.refl _)
        (h.within.mono (hpending ▸ List.subset_cons_self command rest))
      reported := h.reported }
  | back hfine hcalls => exact h.drop hcalls (List.Subset.refl _)
  | leave hcalls => exact h.drop hcalls (List.nil_subset _)

theorem execution (h : Linked printer environment machine)
    (run : Execution printer machine next) : Linked printer environment next := by
  induction run with
  | nil => exact h
  | cons hstep _ ih => exact ih (h.move (move_of_step hstep))

/-- No more calls are running than there are aliases. -/
theorem length_active_le (h : Linked printer environment machine) :
    machine.active.length ≤ environment.aliases.length := by
  have hle := (List.subperm_of_subset h.distinct h.defined).length_le
  rwa [Environment.names, List.length_map] at hle

end Linked
end Machine

/-- Evaluating a pipeline comes to its end, without a call on the stack, and on the way the calls
that are running are of different aliases of the environment, so they are no more than these. An
alias is reported to call itself only if calls lead from it back to itself, where the printer does
not fail that way by itself; so it never is where no calls lead back. The printer of a session does
not fail that way. -/
theorem recursion_reported {α : Type} (printer : Option (Value → Except Failure α))
    (workspace : Workspace) (body : Pipeline) :
    let environment := workspace.environment
    let machine : Machine α := { workspace, pending := body.commands, calls := [] }
    let evaluation := workspace.evaluateLine printer (.pipeline body)
    Machine.Halts printer machine
      { workspace := evaluation.workspace, pending := [], calls := []
        printed := evaluation.printed, failure? := evaluation.failure? } ∧
    (∀ reached, Machine.Execution printer machine reached →
      reached.active.Nodup ∧ (∀ name ∈ reached.active, name ∈ environment.names) ∧
        reached.active.length ≤ environment.aliases.length) ∧
    (∀ name, evaluation.failure? = some (.refusal (.aliasRecursion name)) →
      environment.OnCycle name ∨ Machine.PrintingRefuses printer (.aliasRecursion name)) ∧
    ((∀ name, ¬ environment.OnCycle name) → ∀ name,
      ¬ Machine.PrintingRefuses printer (.aliasRecursion name) →
      evaluation.failure? ≠ some (.refusal (.aliasRecursion name))) ∧
    ∀ (session : Session) (name : String),
      ¬ Machine.PrintingRefuses (some session.display) (.aliasRecursion name) := by
  intro environment machine evaluation
  have halts : Machine.Halts printer machine _ :=
    Machine.halts_runCommands workspace body.commands
  have start := Machine.linked_start printer workspace body.commands
  have reported := (start.execution halts.1).reported
  refine ⟨halts, ?_, reported, ?_, ?_⟩
  · intro reached hreached
    have linked := start.execution hreached
    exact ⟨linked.distinct, linked.defined, linked.length_active_le⟩
  · intro hacyclic name hprinter hfailure
    exact (reported name hfailure).elim (hacyclic name) hprinter
  · rintro session name ⟨shown, value, hshown, hfailure⟩
    cases hshown
    exact Display.ofValue_value session.settings value _ hfailure

end LedgerQuery
