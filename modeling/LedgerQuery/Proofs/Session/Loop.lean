import LedgerQuery.Proofs.Evaluation.Expansion
import LedgerQuery.Proofs.Session.Boundary
import LedgerQuery.Proofs.Session.Frame
import LedgerQuery.Proofs.Session.Collecting
import LedgerQuery.Proofs.Text.Blank

/-! The loop at the prompt. A run comes to the execution of the lines that are typed before the
session is left, in their order and without the blank ones. So nothing tells of blank lines, of
interruptions and of what is typed later; and all that a refused line leaves to those behind it is
the register. -/

namespace LedgerQuery.Session

variable {session : Session} {text : String} {event : Event} {events : List Event}

/-! ### The lines that are executed -/

def Event.leaves : Event → Bool
  | .interrupt => false
  | .endOfInput => true
  | .line text => quitWords.contains (Text.trim text.toList)

def Event.idle : Event → Bool
  | .interrupt => true
  | .endOfInput => false
  | .line text => Text.isAllBlank text.toList

def Event.text? : Event → Option String
  | .line text => some text
  | _ => none

/-- The lines that are typed before the session is left, all but the blank ones. -/
def submitted (events : List Event) : List String :=
  solidLines ((events.takeWhile (!·.leaves)).filterMap Event.text?)

theorem trim_eq_nil_iff {text : List Char} :
    Text.trim text = [] ↔ Text.isAllBlank text = true :=
  Text.trim_eq_nil_iff.trans Text.isAllBlank_iff.symm

theorem request_of_idle (h : event.idle = true) : event.request = .nothing := by
  cases event with
  | interrupt => rfl
  | endOfInput => cases h
  | line text => exact if_pos (trim_eq_nil_iff.mpr h)

theorem request_of_leaves (h : event.leaves = true) : event.request = .leave := by
  cases event with
  | interrupt => cases h
  | endOfInput => rfl
  | line text =>
    have hsome : Text.trim text.toList ≠ [] := by
      intro hnil
      rw [Event.leaves, hnil] at h
      cases h
    exact (if_neg hsome).trans (if_pos h)

theorem executed_eq_submitted (events : List Event) : executed events = submitted events := by
  induction events with
  | nil => rfl
  | cons event events ih =>
    cases event with
    | interrupt => exact ih
    | endOfInput => rfl
    | line text =>
      unfold submitted at ih ⊢
      cases hleaves : (Event.line text).leaves with
      | true =>
        rw [executed, request_of_leaves hleaves, List.takeWhile_cons_of_neg (by simp [hleaves])]
        rfl
      | false =>
        have htext : Event.text? (.line text) = some text := rfl
        rw [List.takeWhile_cons_of_pos (by simp [hleaves]), List.filterMap_cons_some htext,
          solidLines_cons]
        by_cases hblank : Text.isAllBlank text.toList = true
        · have hidle : (Event.line text).idle = true := hblank
          rw [executed, request_of_idle hidle, if_pos hblank]
          exact ih
        · have hsome : Text.trim text.toList ≠ [] := fun h => hblank (trim_eq_nil_iff.mp h)
          have hquit : ¬ quitWords.contains (Text.trim text.toList) = true :=
            Bool.eq_false_iff.mp hleaves
          have hrequest : (Event.line text).request = .execute text :=
            (if_neg hsome).trans (if_neg hquit)
          rw [executed, hrequest, if_neg hblank, ← ih]

theorem executed_append_congr {first second : List Event} (h : executed first = executed second)
    (before : List Event) : executed (before ++ first) = executed (before ++ second) := by
  induction before with
  | nil => exact h
  | cons event before ih =>
    rw [List.cons_append, List.cons_append, executed, executed, ih]

theorem executed_cons_of_idle (h : event.idle = true) (events : List Event) :
    executed (event :: events) = executed events := by
  rw [executed, request_of_idle h]

theorem executed_cons_of_leaves (h : event.leaves = true) (events : List Event) :
    executed (event :: events) = [] := by
  rw [executed, request_of_leaves h]

/-! ### Runs -/

/-- What a run shows of itself: all but the events that it did not come to. -/
def Run.shown (run : Run) : Run :=
  { run with unread := [] }

def executeAll (session : Session) : List String → Run
  | [] => { session }
  | text :: texts =>
    let turn := session.execute text
    match turn.status with
    | .running => (turn.session.executeAll texts).after turn
    | status => { session := turn.session, written := turn.written, log := turn.log, status }

theorem executeAll_of_running (h : (session.execute text).status = .running)
    (texts : List String) : session.executeAll (text :: texts) =
      ((session.execute text).session.executeAll texts).after (session.execute text) := by
  rw [executeAll]
  simp only [h]

theorem session_executeAll {texts : List String} (h : (session.executeAll texts).status = .ended) :
    (session.executeAll texts).session = session.after (texts.map .execute) := by
  induction texts generalizing session with
  | nil => rfl
  | cons text texts ih =>
    cases hstatus : (session.execute text).status with
    | running =>
      rw [executeAll_of_running hstatus] at h ⊢
      exact ih h
    | ended => exact absurd hstatus (status_execute_ne_ended session text)
    | broken cause =>
      simp only [executeAll, hstatus] at h
      cases h

theorem Run.after_nothing (session : Session) (run : Run) : run.after { session } = run := by
  simp [Run.after]

theorem Run.shown_after (turn : Turn) (run : Run) :
    (run.after turn).shown = run.shown.after turn :=
  rfl

/-- A run executes the lines that it is asked to, and does nothing else. -/
theorem shown_run (session : Session) (events : List Event) :
    (session.run events).shown = session.executeAll (executed events) := by
  induction events generalizing session with
  | nil => rfl
  | cons event events ih =>
    have hstep := step_eq session event
    rw [run, executed]
    cases hrequest : event.request with
    | nothing =>
      rw [hrequest] at hstep
      simp only [hstep, Run.after_nothing]
      exact ih session
    | leave =>
      rw [hrequest] at hstep
      simp only [hstep]
      rfl
    | execute line =>
      rw [hrequest] at hstep
      simp only [hstep, executeAll]
      cases (session.execute line).status with
      | running => rw [Run.shown_after, ih]
      | ended => rfl
      | broken cause => rfl

/-! ### Lines that are refused -/

variable {cause : Refusal}

def withRegister (session : Session) (register : Value) : Session :=
  { session with workspace := { session.workspace with register } }

def scope (session : Session) : Scope String :=
  session.workspace.scope (some session.display)

def Finishes (session : Session) (steps : List FlatStep) (register : Value) : Prop :=
  ∃ printed, session.scope.runFlat steps session.workspace.register = { register, printed }

/-- Where a refused line has stopped, and the register as it was there. -/
inductive Stopped (session : Session) (text : String) (cause : Refusal) : Value → Prop where
  | unread (hnone : ∀ body, Query.readLine session.settings.mark text ≠ .ok (.pipeline body)) :
      Stopped session text cause session.workspace.register
  | step {body : Pipeline} {before after : List FlatStep} {step : FlatStep} {register : Value}
      (hread : Query.readLine session.settings.mark text = .ok (.pipeline body))
      (hsteps : session.workspace.environment.flatten [] body.commands = before ++ step :: after)
      (hbefore : session.Finishes before register)
      (hrefused : (session.scope.runStep step register).failure? = some (.refusal cause)) :
      Stopped session text cause register
  | display {body : Pipeline} {register : Value}
      (hread : Query.readLine session.settings.mark text = .ok (.pipeline body))
      (hdone : session.Finishes (session.workspace.environment.flatten [] body.commands) register)
      (hrefused : session.display register = .error (.refusal cause)) :
      Stopped session text cause register

theorem refusal?_fail_eq_some_iff {line written : String} {log : List Log.Record}
    {failure : Failure} :
    (session.fail line written log failure).refusal? = some cause ↔ failure = .refusal cause := by
  cases failure <;> simp [fail]

theorem status_of_fail_refused {line written : String} {log : List Log.Record}
    {failure : Failure} (h : (session.fail line written log failure).refusal? = some cause) :
    (session.fail line written log failure).status = .running := by
  obtain rfl := refusal?_fail_eq_some_iff.mp h
  rfl

theorem status_of_refused (h : (session.execute text).refusal? = some cause) :
    (session.execute text).status = .running := by
  unfold execute at h ⊢
  split
  · rename_i hread
    rw [hread] at h
    exact status_of_fail_refused h
  · rename_i hread
    rw [hread] at h
    dsimp only at h ⊢
    split
    · rename_i hfailure
      rw [hfailure] at h
      exact status_of_fail_refused h
    · rename_i hnone
      rw [hnone] at h
      dsimp only at h
      split
      · rfl
      · rename_i hecho
        rw [hecho] at h
        exact status_of_fail_refused h

theorem finishes_of_done {steps : List FlatStep}
    (h : (session.scope.runFlat steps session.workspace.register).failure? = none) :
    session.Finishes steps (session.scope.runFlat steps session.workspace.register).register := by
  generalize hrun : session.scope.runFlat steps session.workspace.register = outcome at h
  obtain ⟨register, printed, failure?⟩ := outcome
  cases h
  exact ⟨printed, hrun⟩

/-- A pipeline that is refused has done its steps up to the one that was refused. -/
theorem stopped_pipeline {body : Pipeline}
    (hread : Query.readLine session.settings.mark text = .ok (.pipeline body))
    (h : (session.execute text).refusal? = some cause) :
    session.Stopped text cause (session.evaluate (.pipeline body)).workspace.register := by
  have hrun := session.scope.run_eq_runFlat [] body.commands session.workspace.register
  have hregister : (session.evaluate (.pipeline body)).workspace.register =
      (session.scope.runFlat (session.workspace.environment.flatten [] body.commands)
        session.workspace.register).register :=
    congrArg Outcome.register hrun
  unfold execute at h
  rw [hread] at h
  dsimp only at h
  split at h
  · rename_i hfailure
    obtain rfl := refusal?_fail_eq_some_iff.mp h
    have hfailed := (congrArg Outcome.failure? hrun).symm.trans hfailure
    obtain ⟨before, step, after, hsteps, hbefore, hstep⟩ := Scope.runFlat_failed hfailed
    rw [hregister]
    exact .step hread hsteps ⟨_, hbefore⟩ hstep
  · rename_i hnone
    split at h
    · cases h
    · rename_i hecho
      obtain rfl := refusal?_fail_eq_some_iff.mp h
      refine .display hread ?_ hecho
      rw [hregister]
      exact finishes_of_done ((congrArg Outcome.failure? hrun).symm.trans hnone)

/-- A line that is refused leaves a session that differs in the register only. -/
theorem execute_refused (h : (session.execute text).refusal? = some cause) :
    ∃ register, session.Stopped text cause register ∧
      (session.execute text).session = session.withRegister register := by
  cases hread : Query.readLine session.settings.mark text with
  | error fault =>
    refine ⟨_, .unread (by simp [hread]), ?_⟩
    simp only [execute, hread, session_fail]
    rfl
  | ok line =>
    cases line with
    | pipeline body =>
      refine ⟨_, stopped_pipeline hread h, ?_⟩
      rw [session_execute hread]
      rfl
    | aliasDef definition =>
      have htaken : definition.name ∈ session.workspace.environment.names := by
        by_contra hnew
        cases (execute_introduced ⟨hread, hnew⟩).2.2.symm.trans h
      exact ⟨_, .unread (by simp [hread]), (execute_repeated ⟨hread, htaken⟩).1⟩

/-- A run shows what the execution of the lines shows that are typed before the session is left, in
their order and without the blank ones; it leaves what they leave. So it shows nothing of an idle
event that is put in or left out, and nothing of what follows the first event that ends the session.
A line that is refused leaves the session that it found, but for the register, which is as the
commands before the refused one have left it; with that session the lines behind it are executed. -/
theorem run_shows_execution (session : Session) :
    (∀ events, (session.run events).shown = session.executeAll (submitted events) ∧
        ((session.run events).status = .ended →
          (session.run events).session = session.after ((submitted events).map .execute))) ∧
      (∀ before event after, event.idle = true →
        (session.run (before ++ event :: after)).shown = (session.run (before ++ after)).shown) ∧
      (∀ before event other after after', event.leaves = true → other.leaves = true →
        (session.run (before ++ event :: after)).shown =
          (session.run (before ++ other :: after')).shown) ∧
      ∀ text cause, (session.execute text).refusal? = some cause →
        ∃ register, session.Stopped text cause register ∧
          ∀ texts, session.executeAll (text :: texts) =
            ((session.withRegister register).executeAll texts).after (session.execute text) := by
  refine ⟨?_, ?_, ?_, ?_⟩
  · intro events
    have hshown : (session.run events).shown = session.executeAll (submitted events) := by
      rw [shown_run, executed_eq_submitted]
    refine ⟨hshown, fun hended => ?_⟩
    have hstatus : (session.executeAll (submitted events)).status = .ended := by
      rw [← hshown]
      exact hended
    rw [← session_executeAll hstatus, ← hshown]
    rfl
  · intro before event after hidle
    rw [shown_run, shown_run, executed_append_congr (executed_cons_of_idle hidle after)]
  · intro before event other after after' hevent hother
    have hnone := (executed_cons_of_leaves hevent after).trans
      (executed_cons_of_leaves hother after').symm
    rw [shown_run, shown_run, executed_append_congr hnone]
  · intro text cause hrefused
    obtain ⟨register, hstopped, hleft⟩ := execute_refused hrefused
    refine ⟨register, hstopped, fun texts => ?_⟩
    rw [executeAll_of_running (status_of_refused hrefused), hleft]

/-- An interruption, a blank line, a line that is refused at its second command, and one behind the
line that quits. -/
theorem run_shows_execution_quit :
    let session := start .standard 80 .empty
    let run := session.run [.line "A: sum", .interrupt, .line "\t", .line "count » monthly",
      .line "A", .line " quit ", .line "B: avg"]
    let cause := Refusal.typeMismatch "monthly" .integer
    run.shown = session.executeAll ["A: sum", "count » monthly", "A"] ∧
      run.shown = (session.run
        [.line "A: sum", .line "count » monthly", .line "A", .endOfInput]).shown ∧
      (session.execute "count » monthly").refusal? = some cause ∧
      ∃ register, session.Stopped "count » monthly" cause register ∧
        session.executeAll ["count » monthly", "A"] =
          ((session.withRegister register).executeAll ["A"]).after
            (session.execute "count » monthly") := by
  intro session run cause
  obtain ⟨hruns, hidle, hleaves, hrefused⟩ := run_shows_execution session
  have hsubmitted : submitted [.line "A: sum", .interrupt, .line "\t", .line "count » monthly",
      .line "A", .line " quit ", .line "B: avg"] = ["A: sum", "count » monthly", "A"] := by
    decide +kernel
  have hshown : run.shown = _ := (hruns _).1
  rw [hsubmitted] at hshown
  have hinterrupt := hidle [.line "A: sum"] .interrupt
    [.line "\t", .line "count » monthly", .line "A", .line " quit ", .line "B: avg"] rfl
  have hblank := hidle [.line "A: sum"] (.line "\t")
    [.line "count » monthly", .line "A", .line " quit ", .line "B: avg"] (by decide)
  have hquit := hleaves [.line "A: sum", .line "count » monthly", .line "A"] (.line " quit ")
    .endOfInput [.line "B: avg"] [] (by decide) rfl
  have hread : Query.readLine session.settings.mark "count » monthly" =
      .ok (.pipeline ⟨[⟨"count", .none⟩, ⟨"monthly", .none⟩], "count » monthly"⟩) := by
    decide +kernel
  have hcause : (session.execute "count » monthly").refusal? = some cause := by
    simp only [execute, hread, Workspace.evaluateLine, Workspace.runCommands, Scope.run_cons,
      Scope.run_nil, Outcome.andThen]
    rfl
  obtain ⟨register, hstopped, hexecuted⟩ := hrefused "count » monthly" cause hcause
  exact ⟨hshown, hinterrupt.trans (hblank.trans hquit), hcause, register, hstopped,
    hexecuted ["A"]⟩

end LedgerQuery.Session
