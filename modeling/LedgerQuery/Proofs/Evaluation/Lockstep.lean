import LedgerQuery.Proofs.Evaluation.Typing
import LedgerQuery.Proofs.Evaluation.Expansion

/-! Evaluation in lockstep. Two registers that began with different transactions may hold what they
like, but as long as they are of one type with something in it, and nothing is selected, every step
fails for both with the same failure or leaves both of one type again. -/

namespace LedgerQuery

variable {α β : Type} {items others : List Transaction} {mark : List Char}

/-- The command does not select: it is no search, asks for no tags, and for more than none of the
last. -/
structure Command.Lasting (command : Command) : Prop where
  noSearch : command.keyword ≠ "search"
  noTags : command.keyword ≠ "tags"
  noLast : command ≠ ⟨"last", .count 0⟩

instance (command : Command) : Decidable command.Lasting :=
  decidable_of_iff (command.keyword ≠ "search" ∧ command.keyword ≠ "tags" ∧
      command ≠ ⟨"last", .count 0⟩)
    ⟨fun ⟨hsearch, htags, hlast⟩ => ⟨hsearch, htags, hlast⟩,
      fun h => ⟨h.noSearch, h.noTags, h.noLast⟩⟩

theorem Command.Lasting.not_selects {command : Command} {builtin : Builtin}
    (h : command.Lasting) (hbuiltin : Builtin.ofKeyword? command.keyword = some builtin) :
    ¬ builtin.Selects command.argument := by
  have hfound := List.find?_some hbuiltin
  have hword : builtin.keyword = command.keyword := of_decide_eq_true hfound
  rintro (rfl | rfl | ⟨rfl, hcount⟩)
  · exact h.noSearch hword.symm
  · exact h.noTags hword.symm
  · obtain ⟨keyword, argument⟩ := command
    cases hword
    cases hcount
    exact h.noLast rfl

inductive FlatStep.Lasting (mark : List Char) : FlatStep → Prop where
  | refuse (cause : Refusal) : Lasting mark (.refuse cause)
  | command {command : Command} {builtin : Builtin} (formed : Query.WellFormed mark command)
      (lasting : command.Lasting) (named : Builtin.ofKeyword? command.keyword = some builtin) :
      Lasting mark (.command builtin command.argument)

/-- Flat steps come from the commands that are written out and from those of the aliases. -/
theorem Environment.lasting_flatten {environment : Environment}
    (bodies : ∀ definition ∈ environment.aliases, ∀ command ∈ definition.body.commands,
      Query.WellFormed mark command ∧ command.Lasting)
    (opened : List String) (commands : List Command)
    (h : ∀ command ∈ commands, Query.WellFormed mark command ∧ command.Lasting) :
    ∀ step ∈ environment.flatten opened commands, step.Lasting mark := by
  induction opened, commands using Environment.flatten.induct environment with
  | case1 opened =>
    rw [flatten_nil]
    exact fun _ hm => nomatch hm
  | case2 opened command rest inner following =>
    obtain ⟨hcommand, hrest⟩ := List.forall_mem_cons.mp h
    have first : ∀ step ∈ environment.flattenCommand opened command, step.Lasting mark := by
      unfold flattenCommand
      cases hbuiltin : Builtin.ofKeyword? command.keyword with
      | some builtin =>
        exact List.forall_mem_singleton.mpr (.command hcommand.1 hcommand.2 hbuiltin)
      | none =>
        dsimp only
        cases hfind : environment.find? command.keyword with
        | none => exact List.forall_mem_singleton.mpr (.refuse _)
        | some definition =>
          dsimp only
          by_cases ho : definition.name ∈ opened
          · rw [if_pos ho]
            exact List.forall_mem_singleton.mpr (.refuse _)
          · rw [if_neg ho]
            exact inner definition hfind ho (bodies definition (find?_eq_some hfind).1)
    rw [flatten_cons]
    intro step hm
    rcases List.mem_append.mp hm with hm | hm
    · exact first step hm
    · exact following hrest step hm

/-- Two registers are of one type, with something in them, whatever they began with. -/
structure Value.Alike (items others : List Transaction) (register value : Value) : Prop where
  first : register.IsRegister items
  second : value.IsRegister others
  one_type : ∃ type, register.descriptor = .ok type ∧ value.descriptor = .ok type ∧ type ≠ .empty

namespace Scope

/-- What comes of flat steps one after another, up to the first that fails: the type of the register
after each of them, and the failure. -/
def course (scope : Scope α) : List FlatStep → Value → List (Except Failure Descriptor)
  | [], _ => []
  | step :: steps, register =>
    let outcome := scope.runStep step register
    match outcome.failure? with
    | some failure => [.error failure]
    | none => outcome.register.descriptor :: scope.course steps outcome.register

structure Alike (items others : List Transaction) (first : Scope α) (second : Scope β) : Prop where
  initial : Value.Alike items others first.initial second.initial
  first_shows : Shows items first.printer
  second_shows : Shows others second.printer
  first_size : items.length < Decimal.Binary64.wholeLimit
  second_size : others.length < Decimal.Binary64.wholeLimit

variable {scope : Scope α} {other : Scope β} {register value : Value}

theorem isRegister_runStep (hstart : scope.initial.IsRegister items)
    (h : register.IsRegister items) (step : FlatStep) :
    (scope.runStep step register).register.IsRegister items := by
  cases step with
  | refuse cause => exact h
  | command builtin argument =>
    rcases scope.register_runBuiltin builtin argument register with hr | hr
    · exact hr.symm ▸ h
    · exact hstart.transform h hr

/-- A step fails for both registers in the same way, or it leaves both of one type. -/
theorem Alike.runStep (alike : Alike items others scope other) {step : FlatStep}
    (lasting : step.Lasting mark) (h : Value.Alike items others register value) :
    (∃ failure, scope.runStep step register = { register, failure? := some failure } ∧
      other.runStep step value = { register := value, failure? := some failure }) ∨
    (scope.runStep step register).failure? = none ∧ (other.runStep step value).failure? = none ∧
      Value.Alike items others (scope.runStep step register).register
        (other.runStep step value).register := by
  obtain ⟨type, htype, htype', hsome⟩ := h.one_type
  obtain ⟨start, hstart, hstart', hfull⟩ := alike.initial.one_type
  have hkept := isRegister_runStep alike.initial.first h.first step
  have hkept' := isRegister_runStep alike.initial.second h.second step
  cases lasting with
  | refuse cause => exact Or.inl ⟨_, rfl, rfl⟩
  | @command command builtin formed lasting named =>
    have follows := follows_runBuiltin alike.first_size formed named alike.first_shows
      alike.initial.first hstart h.first htype
    have follows' := follows_runBuiltin alike.second_size formed named alike.second_shows
      alike.initial.second hstart' h.second htype'
    -- the table sees the type alone, so it says the same for both
    cases htable : builtin.typing start command.argument type with
    | error cause =>
      rw [htable] at follows follows'
      exact Or.inl ⟨_, follows, follows'⟩
    | ok types =>
      obtain ⟨next, rfl, hnext⟩ := Builtin.typing_ok htable (lasting.not_selects named)
      rw [htable] at follows follows'
      obtain ⟨hdone, made, hmem, hmade⟩ := follows
      obtain ⟨hdone', made', hmem', hmade'⟩ := follows'
      obtain rfl := List.mem_singleton.mp hmem
      obtain rfl := List.mem_singleton.mp hmem'
      refine Or.inr ⟨hdone, hdone', hkept, hkept', _, hmade, hmade', fun he => ?_⟩
      rcases hnext he with hnone | ⟨-, hnone⟩
      · exact hsome hnone
      · exact hfull hnone

/-- Both registers go through flat steps with the same types and come to the same failure, if any.
The induction is on the steps: the relation is kept by each, and equal types make equal courses. -/
theorem Alike.runFlat (alike : Alike items others scope other) {steps : List FlatStep}
    (lasting : ∀ step ∈ steps, step.Lasting mark) (h : Value.Alike items others register value) :
    (scope.runFlat steps register).failure? = (other.runFlat steps value).failure? ∧
      Value.Alike items others (scope.runFlat steps register).register
        (other.runFlat steps value).register ∧
      scope.course steps register = other.course steps value := by
  induction steps generalizing register value with
  | nil => exact ⟨rfl, h, rfl⟩
  | cons step steps ih =>
    obtain ⟨hstep, hsteps⟩ := List.forall_mem_cons.mp lasting
    rw [Scope.runFlat, Scope.runFlat, course, course, Outcome.andThen, Outcome.andThen]
    rcases alike.runStep hstep h with ⟨failure, hs, hs'⟩ | ⟨hs, hs', hnext⟩
    · rw [hs, hs']
      exact ⟨rfl, h, rfl⟩
    · obtain ⟨hfailure, hregister, hcourse⟩ := ih hsteps hnext
      obtain ⟨type, htype, htype', -⟩ := hnext.one_type
      simp only [hs, hs', Outcome.after, htype, htype', hcourse]
      exact ⟨hfailure, hregister, trivial⟩

end Scope

namespace Workspace

structure Alike (items others : List Transaction) (mark : List Char) (workspace other : Workspace) :
    Prop where
  initial : Value.Alike items others workspace.initial other.initial
  register : Value.Alike items others workspace.register other.register
  environment : workspace.environment = other.environment
  bodies : ∀ definition ∈ workspace.environment.aliases, ∀ command ∈ definition.body.commands,
    Query.WellFormed mark command ∧ command.Lasting

variable {workspace other : Workspace} {printer : Option (Value → Except Failure α)}
  {printer' : Option (Value → Except Failure β)}

theorem Alike.scope (alike : Alike items others mark workspace other) (shows : Shows items printer)
    (shows' : Shows others printer') (hsize : items.length < Decimal.Binary64.wholeLimit)
    (hsize' : others.length < Decimal.Binary64.wholeLimit) :
    Scope.Alike items others (workspace.scope printer) (other.scope printer') :=
  ⟨alike.initial, shows, shows', hsize, hsize'⟩

def course (workspace : Workspace) (printer : Option (Value → Except Failure α)) :
    Line → List (Except Failure Descriptor)
  | .aliasDef _ => []
  | .pipeline body =>
    (workspace.scope printer).course (workspace.environment.flatten [] body.commands)
      workspace.register

/-- A line in which nothing is selected fails in both workspaces in the same way and place, and
leaves them alike. -/
theorem Alike.evaluateLine (alike : Alike items others mark workspace other)
    (shows : Shows items printer) (shows' : Shows others printer')
    (hsize : items.length < Decimal.Binary64.wholeLimit)
    (hsize' : others.length < Decimal.Binary64.wholeLimit) {line : Line}
    (hline : ∀ command ∈ line.body.commands, Query.WellFormed mark command ∧ command.Lasting) :
    (workspace.evaluateLine printer line).failure? = (other.evaluateLine printer' line).failure? ∧
      Alike items others mark (workspace.evaluateLine printer line).workspace
        (other.evaluateLine printer' line).workspace ∧
      workspace.course printer line = other.course printer' line := by
  cases line with
  | pipeline body =>
    have lasting := Environment.lasting_flatten alike.bodies [] body.commands hline
    have hrun : ∀ register, (workspace.scope printer).run [] body.commands register =
        (workspace.scope printer).runFlat (workspace.environment.flatten [] body.commands)
          register := Scope.run_eq_runFlat _ [] body.commands
    have hrun' : ∀ register, (other.scope printer').run [] body.commands register =
        (other.scope printer').runFlat (workspace.environment.flatten [] body.commands)
          register := by
      rw [alike.environment]
      exact Scope.run_eq_runFlat _ [] body.commands
    obtain ⟨hfailure, hregister, hcourse⟩ :=
      (alike.scope shows shows' hsize hsize').runFlat lasting alike.register
    simp only [Workspace.evaluateLine, runCommands, hrun, hrun', course, ← alike.environment]
    exact ⟨hfailure, ⟨alike.initial, hregister, rfl, alike.bodies⟩, hcourse⟩
  | aliasDef definition =>
    simp only [Workspace.evaluateLine, course]
    by_cases hname : definition.name ∈ workspace.environment.names
    · have hname' : definition.name ∈ other.environment.names := alike.environment ▸ hname
      rw [define_of_taken workspace hname, define_of_taken other hname']
      exact ⟨rfl, alike, trivial⟩
    · have hname' : definition.name ∉ other.environment.names := alike.environment ▸ hname
      obtain ⟨environment, haliases, hdefine⟩ := define_of_new (α := α) workspace hname
      obtain ⟨environment', haliases', hdefine'⟩ := define_of_new (α := β) other hname'
      rw [← alike.environment, ← haliases] at haliases'
      obtain rfl := Environment.eq_of_aliases haliases'
      rw [hdefine, hdefine']
      refine ⟨rfl, ⟨alike.initial, alike.register, rfl, fun added hm => ?_⟩, trivial⟩
      rw [haliases] at hm
      rcases List.mem_append.mp hm with hm | hm
      · exact alike.bodies added hm
      · rw [List.mem_singleton.mp hm]
        exact hline

theorem Alike.evaluateLines (alike : Alike items others mark workspace other)
    (shows : Shows items printer) (shows' : Shows others printer')
    (hsize : items.length < Decimal.Binary64.wholeLimit)
    (hsize' : others.length < Decimal.Binary64.wholeLimit) {lines : List Line}
    (hlines : ∀ line ∈ lines, ∀ command ∈ line.body.commands,
      Query.WellFormed mark command ∧ command.Lasting) :
    Alike items others mark (workspace.evaluateLines printer lines)
      (other.evaluateLines printer' lines) := by
  induction lines generalizing workspace other with
  | nil => exact alike
  | cons line lines ih =>
    obtain ⟨hline, hrest⟩ := List.forall_mem_cons.mp hlines
    exact ih (alike.evaluateLine shows shows' hsize hsize' hline).2.1 hrest

end Workspace
end LedgerQuery
