import LedgerQuery.Proofs.Evaluation.Expansion
import Mathlib.Data.List.Forall2

/-! What `print` does to a run: it shows the register, and nothing else. Put into a pipeline and its
aliases in any places, it leaves the register and the failure as they are without it, and what was
printed without it is still printed in between. Runs are compared with those of a printer that keeps
the values it is handed, with the aliases written out. -/

namespace LedgerQuery

variable {α β : Type}

/-- The second list is the first with an item put in, in any places and any number of times. -/
inductive Interspersed (extra : β) : List β → List β → Prop where
  | nil : Interspersed extra [] []
  | keep (item) {items more} : Interspersed extra items more →
      Interspersed extra (item :: items) (item :: more)
  | insert {items more} : Interspersed extra items more → Interspersed extra items (extra :: more)

theorem Interspersed.append {extra : β} {items more others rest : List β}
    (h : Interspersed extra items more) (k : Interspersed extra others rest) :
    Interspersed extra (items ++ others) (more ++ rest) := by
  induction h with
  | nil => exact k
  | keep item _ ih => exact .keep item ih
  | insert _ ih => exact .insert ih

def Command.print : Command :=
  ⟨"print", .none⟩

def FlatStep.print : FlatStep :=
  .command .print .none

structure AliasDef.Watched (definition watched : AliasDef) : Prop where
  name : watched.name = definition.name
  commands : Interspersed .print definition.body.commands watched.body.commands

namespace Environment

variable {environment watched : Environment}

def Watched (environment watched : Environment) : Prop :=
  List.Forall₂ AliasDef.Watched environment.aliases watched.aliases

theorem Watched.find? (h : environment.Watched watched) (word : String) :
    Option.Rel AliasDef.Watched (environment.find? word) (watched.find? word) := by
  unfold Watched at h
  unfold Environment.find?
  generalize environment.aliases = definitions at h
  generalize watched.aliases = others at h
  induction h with
  | nil => exact .none
  | @cons definition other definitions others hfirst _ ih =>
    by_cases hname : definition.name = word
    · have hother : other.name = word := hfirst.name.trans hname
      rw [List.find?_cons_of_pos (by simpa using hname),
        List.find?_cons_of_pos (by simpa using hother)]
      exact .some hfirst
    · have hother : other.name ≠ word := fun he => hname (hfirst.name.symm.trans he)
      rw [List.find?_cons_of_neg (by simpa using hname),
        List.find?_cons_of_neg (by simpa using hother)]
      exact ih

theorem flatten_print_cons (environment : Environment) (opened : List String)
    (commands : List Command) :
    environment.flatten opened (.print :: commands) =
      .print :: environment.flatten opened commands := by
  rw [flatten_cons]
  rfl

/-- Written out, the commands and the aliases with `print` put in are the flat steps with it put in.
The induction is the one of writing out; within it the inserted commands are passed one by one. -/
theorem Watched.flatten (h : environment.Watched watched) (opened : List String)
    {commands more : List Command} (hmore : Interspersed .print commands more) :
    Interspersed .print (environment.flatten opened commands) (watched.flatten opened more) := by
  induction opened, commands using Environment.flatten.induct environment generalizing more with
  | case1 opened =>
    generalize hnil : ([] : List Command) = commands at hmore
    induction hmore with
    | nil =>
      rw [flatten_nil, flatten_nil]
      exact .nil
    | keep => cases hnil
    | insert _ ih =>
      rw [flatten_print_cons]
      exact .insert (ih hnil)
  | case2 opened command rest inner following =>
    have first : Interspersed .print (environment.flattenCommand opened command)
        (watched.flattenCommand opened command) := by
      unfold flattenCommand
      cases Builtin.ofKeyword? command.keyword with
      | some builtin => exact .keep _ .nil
      | none =>
        dsimp only
        have hfind := h.find? command.keyword
        generalize hfound : environment.find? command.keyword = found at hfind
        generalize watched.find? command.keyword = found' at hfind
        cases hfind with
        | none => exact .keep _ .nil
        | @some definition other hother =>
          dsimp only
          rw [hother.name]
          by_cases ho : definition.name ∈ opened
          · rw [if_pos ho, if_pos ho]
            exact .keep _ .nil
          · rw [if_neg ho, if_neg ho]
            exact inner definition hfound ho hother.commands
    generalize hcons : command :: rest = commands at hmore
    induction hmore with
    | nil => cases hcons
    | keep item hrest =>
      cases hcons
      rw [flatten_cons, flatten_cons]
      exact first.append (following hrest)
    | insert _ ih =>
      rw [flatten_print_cons]
      exact .insert (ih hcons)

end Environment

namespace Scope

variable {scope : Scope α} {recorder : Scope Value} {register : Value}

theorem runStep_of_ne_print (scope : Scope α) (other : Scope β)
    (hinitial : scope.initial = other.initial) {step : FlatStep} (h : step ≠ .print)
    (register : Value) :
    ∃ next failure?, scope.runStep step register = { register := next, failure? } ∧
      other.runStep step register = { register := next, failure? } := by
  cases step with
  | refuse cause => exact ⟨_, _, rfl, rfl⟩
  | command builtin argument =>
    simp only [runStep, runBuiltin, hinitial]
    cases htransform : builtin.transform other.initial argument register with
    | error failure => exact ⟨_, _, rfl, rfl⟩
    | ok value =>
      have hne : builtin ≠ .print := by
        rintro rfl
        cases argument with
        | none => exact h rfl
        | _ => cases htransform
      dsimp only
      rw [if_neg hne, if_neg hne]
      exact ⟨_, _, rfl, rfl⟩

theorem runStep_print_of_ok {shown : List α} (h : scope.printed register = .ok shown) :
    scope.runStep .print register = { register, printed := shown } := by
  rw [FlatStep.print, runStep, runBuiltin, h]
  rfl

/-- The printer keeps the values it is handed. -/
def Records (recorder : Scope Value) : Prop :=
  recorder.printer = some .ok

theorem Records.runStep_print (h : recorder.Records) (register : Value) :
    recorder.runStep .print register = { register, printed := [register] } := by
  apply runStep_print_of_ok
  rw [printed, h]
  rfl

theorem Records.runFlat_print_cons (h : recorder.Records) (steps : List FlatStep)
    (register : Value) :
    recorder.runFlat (.print :: steps) register =
      (recorder.runFlat steps register).after [register] := by
  rw [runFlat, h.runStep_print]
  rfl

theorem Records.runStep_eq (h : recorder.Records) {other : Scope Value} (k : other.Records)
    (hinitial : recorder.initial = other.initial) (step : FlatStep) (register : Value) :
    recorder.runStep step register = other.runStep step register := by
  by_cases hstep : step = .print
  · rw [hstep, h.runStep_print, k.runStep_print]
  · obtain ⟨next, failure?, hrun, hother⟩ :=
      runStep_of_ne_print recorder other hinitial hstep register
    rw [hrun, hother]

/-- Run steps with `print` put in leave the same register and the same failure, and hand over the
same values with others in between. -/
theorem Records.runFlat_interspersed (h : recorder.Records) {other : Scope Value}
    (k : other.Records) (hinitial : recorder.initial = other.initial) {steps more : List FlatStep}
    (hmore : Interspersed .print steps more) (register : Value) :
    (other.runFlat more register).register = (recorder.runFlat steps register).register ∧
      (other.runFlat more register).failure? = (recorder.runFlat steps register).failure? ∧
      (recorder.runFlat steps register).printed.Sublist (other.runFlat more register).printed := by
  induction hmore generalizing register with
  | nil => exact ⟨rfl, rfl, List.Sublist.refl _⟩
  | keep step _ ih =>
    rw [runFlat, runFlat, h.runStep_eq k hinitial, Outcome.andThen, Outcome.andThen]
    cases (other.runStep step register).failure? with
    | some failure => exact ⟨rfl, rfl, List.Sublist.refl _⟩
    | none =>
      obtain ⟨hregister, hfailure, hprinted⟩ := ih (other.runStep step register).register
      exact ⟨hregister, hfailure, hprinted.append_left _⟩
  | insert _ ih =>
    rw [k.runFlat_print_cons]
    obtain ⟨hregister, hfailure, hprinted⟩ := ih register
    exact ⟨hregister, hfailure, hprinted.trans (List.sublist_cons_self register _)⟩

/-- Where the printer shows every value it is handed, a run leaves what it leaves with a printer
that keeps them, and prints what the printer makes of them one by one. -/
theorem Records.runFlat_shown (h : recorder.Records) (scope : Scope α)
    (hinitial : recorder.initial = scope.initial) (steps : List FlatStep) (register : Value)
    (shows : ∀ value ∈ (recorder.runFlat steps register).printed,
      ∃ shown, scope.printed value = .ok shown) :
    ∃ parts, List.Forall₂ (fun value part => scope.printed value = .ok part)
        (recorder.runFlat steps register).printed parts ∧
      scope.runFlat steps register =
        { register := (recorder.runFlat steps register).register
          printed := parts.flatten
          failure? := (recorder.runFlat steps register).failure? } := by
  induction steps generalizing register with
  | nil => exact ⟨[], .nil, rfl⟩
  | cons step steps ih =>
    by_cases hstep : step = .print
    · subst hstep
      rw [h.runFlat_print_cons] at shows ⊢
      obtain ⟨part, hpart⟩ := shows register List.mem_cons_self
      obtain ⟨parts, hparts, hrun⟩ :=
        ih register fun value hm => shows value (List.mem_cons_of_mem _ hm)
      refine ⟨part :: parts, .cons hpart hparts, ?_⟩
      rw [runFlat, runStep_print_of_ok hpart, Outcome.andThen]
      dsimp only
      rw [hrun]
      rfl
    · obtain ⟨next, failure?, hrecorded, hscope⟩ :=
        runStep_of_ne_print recorder scope hinitial hstep register
      rw [runFlat, hrecorded, Outcome.andThen] at shows ⊢
      rw [runFlat, hscope, Outcome.andThen]
      cases failure? with
      | some failure => exact ⟨[], .nil, rfl⟩
      | none =>
        dsimp only [Outcome.after] at shows ⊢
        simp only [List.nil_append] at shows ⊢
        obtain ⟨parts, hparts, hrun⟩ := ih next shows
        exact ⟨parts, hparts, by rw [hrun]⟩

/-- A value is handed over where the steps up to a `print` have left it in the register, having
handed over the values before it. -/
theorem Records.printed_eq_append_iff (h : recorder.Records) {steps : List FlatStep}
    {register : Value} {before : List Value} {value : Value} :
    (∃ after, (recorder.runFlat steps register).printed = before ++ value :: after) ↔
      ∃ front back, steps = front ++ .print :: back ∧
        recorder.runFlat front register = { register := value, printed := before } := by
  constructor
  · rintro ⟨after, hprinted⟩
    induction steps generalizing register before with
    | nil => simp [runFlat] at hprinted
    | cons step steps ih =>
      by_cases hstep : step = .print
      · subst hstep
        rw [h.runFlat_print_cons] at hprinted
        cases before with
        | nil =>
          obtain ⟨rfl, -⟩ := List.cons.inj hprinted
          exact ⟨[], steps, rfl, rfl⟩
        | cons first before =>
          obtain ⟨rfl, hlater⟩ := List.cons.inj hprinted
          obtain ⟨front, back, rfl, hfront⟩ := ih hlater
          refine ⟨.print :: front, back, rfl, ?_⟩
          rw [h.runFlat_print_cons, hfront]
          rfl
      · obtain ⟨next, failure?, hrecorded, -⟩ :=
          runStep_of_ne_print recorder recorder rfl hstep register
        rw [runFlat, hrecorded] at hprinted
        cases failure? with
        | some failure => simp [Outcome.andThen] at hprinted
        | none =>
          obtain ⟨front, back, rfl, hfront⟩ := ih hprinted
          refine ⟨step :: front, back, rfl, ?_⟩
          rw [runFlat, hrecorded, Outcome.andThen]
          dsimp only
          rw [hfront]
          rfl
  · rintro ⟨front, back, rfl, hfront⟩
    rw [runFlat_append, hfront, Outcome.andThen]
    dsimp only
    rw [h.runFlat_print_cons]
    exact ⟨_, rfl⟩

end Scope

theorem sublist_of_shown {printer : Value → Except Failure α} {values others : List Value}
    (h : values.Sublist others) {shown more : List α}
    (hshown : List.Forall₂ (printer · = .ok ·) values shown)
    (hmore : List.Forall₂ (printer · = .ok ·) others more) : shown.Sublist more := by
  induction h generalizing shown more with
  | slnil =>
    cases hshown
    cases hmore
    exact .slnil
  | cons value _ ih =>
    cases hmore with
    | cons _ hrest => exact (ih hshown hrest).cons _
  | cons_cons value _ ih =>
    cases hshown with
    | cons hfirst hshown =>
      cases hmore with
      | cons hother hmore =>
        cases hfirst.symm.trans hother
        exact (ih hshown hmore).cons_cons _

theorem flatten_of_nothing {values : List Value} {parts : List (List α)}
    (h : List.Forall₂ (fun _ part => (Except.ok [] : Except Failure (List α)) = .ok part) values
      parts) : parts.flatten = [] := by
  induction h with
  | nil => rfl
  | cons hfirst _ ih =>
    cases hfirst
    exact ih

theorem shown_of_parts {printer : Value → Except Failure α} {values : List Value}
    {parts : List (List α)}
    (h : List.Forall₂ (fun value part => (printer value).map ([·]) = .ok part) values parts) :
    List.Forall₂ (printer · = .ok ·) values parts.flatten := by
  induction h with
  | nil => exact .nil
  | @cons value part values parts hfirst _ ih =>
    cases hprinter : printer value with
    | error failure =>
      rw [hprinter] at hfirst
      cases hfirst
    | ok shown =>
      rw [hprinter] at hfirst
      cases hfirst
      exact .cons hprinter ih

namespace Workspace

/-- The values that a printer is handed while a pipeline is evaluated: those that are printed where
the printer keeps them. -/
def handed (workspace : Workspace) (body : Pipeline) : List Value :=
  (workspace.evaluateLine (some .ok) (.pipeline body)).printed

theorem evaluateLine_pipeline (workspace : Workspace)
    (printer : Option (Value → Except Failure α)) (body : Pipeline) :
    let outcome := (workspace.scope printer).runFlat
      (workspace.environment.flatten [] body.commands) workspace.register
    workspace.evaluateLine printer (.pipeline body) =
      { workspace := { workspace with register := outcome.register }
        printed := outcome.printed
        failure? := outcome.failure? } := by
  have run := (workspace.scope printer).run_eq_runFlat [] body.commands workspace.register
  rw [evaluateLine, runCommands, run]
  rfl

variable {printer : Value → Except Failure α} {body more : Pipeline}

/-- Without a printer, evaluation leaves what it leaves with one that keeps the values. -/
theorem evaluateLine_silent (workspace : Workspace) (body : Pipeline) :
    let recorded : Evaluation Value := workspace.evaluateLine (some .ok) (.pipeline body)
    (workspace.evaluateLine none (.pipeline body) : Evaluation α) =
      { workspace := recorded.workspace, failure? := recorded.failure? } := by
  have hrecords : (workspace.scope (some .ok)).Records := rfl
  obtain ⟨parts, hparts, hrun⟩ := hrecords.runFlat_shown (workspace.scope none : Scope α) rfl
    (workspace.environment.flatten [] body.commands) workspace.register fun _ _ => ⟨[], rfl⟩
  simp only [evaluateLine_pipeline, hrun, flatten_of_nothing hparts]

/-- So it does with a printer that shows every value it is handed. -/
theorem evaluateLine_shown (workspace : Workspace)
    (shows : ∀ value ∈ workspace.handed body, ∃ shown, printer value = .ok shown) :
    let recorded : Evaluation Value := workspace.evaluateLine (some .ok) (.pipeline body)
    ∃ shown, List.Forall₂ (printer · = .ok ·) (workspace.handed body) shown ∧
      workspace.evaluateLine (some printer) (.pipeline body) =
        { workspace := recorded.workspace, printed := shown, failure? := recorded.failure? } := by
  intro recorded
  have hrecords : (workspace.scope (some .ok)).Records := rfl
  rw [handed, evaluateLine_pipeline] at shows ⊢
  obtain ⟨parts, hparts, hrun⟩ := hrecords.runFlat_shown (workspace.scope (some printer)) rfl
    (workspace.environment.flatten [] body.commands) workspace.register fun value hm => by
      obtain ⟨shown, hshown⟩ := shows value hm
      exact ⟨[shown], congrArg (Except.map ([·])) hshown⟩
  refine ⟨parts.flatten, shown_of_parts hparts, ?_⟩
  simp only [recorded, evaluateLine_pipeline, hrun]

theorem evaluateLine_watched (workspace : Workspace) {watched : Environment}
    (henvironment : workspace.environment.Watched watched)
    (hbody : Interspersed .print body.commands more.commands) :
    let watching : Workspace := { workspace with environment := watched }
    let recorded : Evaluation Value := workspace.evaluateLine (some .ok) (.pipeline body)
    watching.evaluateLine (some .ok) (.pipeline more) =
        { workspace := { watching with register := recorded.workspace.register }
          printed := watching.handed more
          failure? := recorded.failure? } ∧
      (workspace.handed body).Sublist (watching.handed more) := by
  intro watching recorded
  have hrecords : (workspace.scope (some .ok)).Records := rfl
  have hrecords' : (watching.scope (some .ok)).Records := rfl
  obtain ⟨hregister, hfailure, hprinted⟩ := hrecords.runFlat_interspersed hrecords' rfl
    (henvironment.flatten [] hbody) workspace.register
  simp only [recorded, handed, evaluateLine_pipeline]
  exact ⟨by rw [← hregister, ← hfailure], hprinted⟩

end Workspace

/-- `print` only observes. Put in anywhere, it leaves the register and the failure that there are
without it, whether or not there is a printer. The printer is handed the register where the steps
come to a `print`; and what it shows without the ones put in it shows with them, others in between.
It has to show all that it is handed, since its own failure would end the run. -/
theorem print_observes (workspace : Workspace) {watched : Environment} {body more : Pipeline}
    (henvironment : workspace.environment.Watched watched)
    (hbody : Interspersed .print body.commands more.commands) :
    let watching : Workspace := { workspace with environment := watched }
    let alone : Evaluation α := workspace.evaluateLine none (.pipeline body)
    let left : Workspace := { watching with register := alone.workspace.register }
    watching.evaluateLine none (.pipeline more) =
      ({ workspace := left, failure? := alone.failure? } : Evaluation α) ∧
    (workspace.handed body).Sublist (watching.handed more) ∧
    (∀ before value, (∃ after, watching.handed more = before ++ value :: after) ↔
      ∃ front back, watched.flatten [] more.commands = front ++ .print :: back ∧
        (watching.scope (some .ok)).runFlat front workspace.register =
          { register := value, printed := before }) ∧
    ∀ printer : Value → Except Failure α,
      (∀ value ∈ watching.handed more, ∃ shown, printer value = .ok shown) →
      ∃ shown all, List.Forall₂ (printer · = .ok ·) (workspace.handed body) shown ∧
        List.Forall₂ (printer · = .ok ·) (watching.handed more) all ∧ shown.Sublist all ∧
        workspace.evaluateLine (some printer) (.pipeline body) = { alone with printed := shown } ∧
        watching.evaluateLine (some printer) (.pipeline more) =
          { workspace := left, printed := all, failure? := alone.failure? } := by
  intro watching alone left
  have halone : alone = _ := workspace.evaluateLine_silent body
  obtain ⟨hwatched, hhanded⟩ := workspace.evaluateLine_watched henvironment hbody
  have hrecords : (watching.scope (some .ok)).Records := rfl
  refine ⟨?_, hhanded, ?_, ?_⟩
  · have hsilent := @Workspace.evaluateLine_silent α watching more
    rw [hwatched] at hsilent
    simp only [left, halone]
    exact hsilent
  · intro before value
    rw [Workspace.handed, Workspace.evaluateLine_pipeline]
    exact hrecords.printed_eq_append_iff
  · intro printer shows
    obtain ⟨shown, hshown, hrun⟩ := workspace.evaluateLine_shown
      fun value hm => shows value (hhanded.subset hm)
    obtain ⟨all, hall, hrun'⟩ := watching.evaluateLine_shown shows
    refine ⟨shown, all, hshown, hall, sublist_of_shown hhanded hshown hall, ?_, ?_⟩
    · rw [hrun, halone]
    · simp only [left, halone, hrun', watching, hwatched]

/-- An alias that counts, with `print` in it and around it, and a word that fails. -/
theorem print_observes_unknown :
    let counting : AliasDef := ⟨"N", ⟨[⟨"count", .none⟩], "count"⟩, "N: count"⟩
    let telling : AliasDef :=
      ⟨"N", ⟨[.print, ⟨"count", .none⟩, .print], "print » count » print"⟩,
        "N: print » count » print"⟩
    let workspace : Workspace :=
      { Workspace.start .empty with environment := ⟨[counting], by simp⟩ }
    let watching : Workspace := { workspace with environment := ⟨[telling], by simp⟩ }
    let body : Pipeline := ⟨[⟨"N", .none⟩, .print, ⟨"nope", .none⟩, ⟨"reset", .none⟩], ""⟩
    let more : Pipeline :=
      ⟨[.print, ⟨"N", .none⟩, .print, ⟨"nope", .none⟩, .print, ⟨"reset", .none⟩], ""⟩
    let zero : Value := .number (.int 0)
    let unknown : Failure := .refusal (.unknownCommand "nope")
    workspace.environment.Watched watching.environment ∧
      Interspersed .print body.commands more.commands ∧
      watching.handed more = [.empty, .empty, zero, zero] ∧
      (∀ value ∈ watching.handed more, ∃ shown, value.descriptor = .ok shown) ∧
      workspace.evaluateLine (some Value.descriptor) (.pipeline body) =
        { workspace := { workspace with register := zero }
          printed := [.integer]
          failure? := some unknown } ∧
      watching.evaluateLine (some Value.descriptor) (.pipeline more) =
        { workspace := { watching with register := zero }
          printed := [.empty, .empty, .integer, .integer]
          failure? := some unknown } := by
  intro counting telling workspace watching body more zero unknown
  have henvironment : workspace.environment.Watched watching.environment :=
    .cons ⟨rfl, .insert (.keep _ (.insert .nil))⟩ .nil
  have hbody : Interspersed .print body.commands more.commands :=
    .insert (.keep _ (.keep _ (.keep _ (.insert (.keep _ .nil)))))
  have hcounting : workspace.environment.flattenCommand [] ⟨"N", .none⟩ =
      [.command .count .none] := by
    change workspace.environment.flatten ["N"] [⟨"count", .none⟩] = _
    rw [Environment.flatten_cons, Environment.flatten_nil]
    rfl
  have hsteps : workspace.environment.flatten [] body.commands =
      [.command .count .none, .print, .refuse (.unknownCommand "nope"),
        .command .reset .none] := by
    simp only [body, Environment.flatten_cons, Environment.flatten_nil, hcounting]
    rfl
  have htelling : watching.environment.flattenCommand [] ⟨"N", .none⟩ =
      [.print, .command .count .none, .print] := by
    change watching.environment.flatten ["N"] [.print, ⟨"count", .none⟩, .print] = _
    simp only [Environment.flatten_cons, Environment.flatten_nil]
    rfl
  have hmore : watching.environment.flatten [] more.commands =
      [.print, .print, .command .count .none, .print, .print,
        .refuse (.unknownCommand "nope"), .print, .command .reset .none] := by
    simp only [more, Environment.flatten_cons, Environment.flatten_nil, htelling]
    rfl
  have hkept : workspace.handed body = [zero] := by
    simp only [Workspace.handed, Workspace.evaluateLine_pipeline, hsteps]
    rfl
  have hhanded : watching.handed more = [.empty, .empty, zero, zero] := by
    simp only [Workspace.handed, Workspace.evaluateLine_pipeline, hmore]
    rfl
  have halone : workspace.evaluateLine none (.pipeline body) =
      ({ workspace := { workspace with register := zero }, failure? := some unknown } :
        Evaluation Descriptor) := by
    simp only [Workspace.evaluateLine_pipeline, hsteps]
    rfl
  have hshows : ∀ value ∈ watching.handed more, ∃ shown, value.descriptor = .ok shown := by
    simp only [hhanded, List.forall_mem_cons]
    exact ⟨⟨.empty, rfl⟩, ⟨.empty, rfl⟩, ⟨.integer, rfl⟩, ⟨.integer, rfl⟩, nofun⟩
  obtain ⟨-, -, -, hprinted⟩ := @print_observes Descriptor workspace _ _ _ henvironment hbody
  obtain ⟨shown, all, hshown, hall, -, hrun, hrunMore⟩ := hprinted Value.descriptor hshows
  have honce : Relator.RightUnique fun (value : Value) shown => value.descriptor = .ok shown :=
    fun _ _ _ h k => Except.ok.inj (h.symm.trans k)
  obtain rfl : shown = [.integer] := by
    rw [hkept] at hshown
    exact honce.forall₂ hshown (.cons rfl .nil)
  obtain rfl : all = [.empty, .empty, .integer, .integer] := by
    rw [hhanded] at hall
    exact honce.forall₂ hall (.cons rfl (.cons rfl (.cons rfl (.cons rfl .nil))))
  rw [halone] at hrun hrunMore
  exact ⟨henvironment, hbody, hhanded, hshows, hrun, hrunMore⟩

end LedgerQuery
