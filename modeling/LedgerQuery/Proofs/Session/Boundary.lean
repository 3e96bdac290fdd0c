import LedgerQuery.Proofs.Evaluation.Typing
import LedgerQuery.Proofs.Session.Collecting
import LedgerQuery.Proofs.Session.Replay

/-! # The end of a session and the lines it evaluates -/

namespace LedgerQuery

/-! ## What ends a session

A session over transactions breaks down at a line only if reading the line does: at a count of too
many digits, or at a pattern that cannot be held at all. Every other line is done or refused, and of
saved lines each is then defined or skipped with a warning. -/

/-- The breakdown that reading a line comes to, if it comes to one. -/
def Query.breakdown? (mark : Separator) (text : String) : Option Breakdown :=
  match Query.readLine mark text with
  | .error (.countTooLong digitCount) => some (.countTooLong digitCount)
  | .error (.badPattern fault) => some (.pattern fault)
  | _ => none

namespace Session

structure Sound (items : List Transaction) (mark : Separator) (session : Session) : Prop where
  mark_eq : session.settings.mark = mark
  workspace : session.workspace.Sound items mark.mark

theorem keeps_sound (items : List Transaction) (mark : Separator) : Keeps (Sound items mark) := by
  rintro session text line ⟨rfl, sound⟩ hread
  exact ⟨rfl, sound.evaluateLine _ (Query.wellFormed_of_readLine hread)⟩

variable {items : List Transaction} {mark : Separator}

theorem sound_start (settings : Settings) (columns : Nat) (items : List Transaction) :
    Sound items settings.mark (start settings columns (.ofTransactions items)) :=
  ⟨rfl, .start items settings.mark.mark⟩

def Status.ofBreakdown? : Option Breakdown → Status
  | some cause => .broken cause
  | none => .running

theorem exists_echo {session : Session} (h : session.workspace.register.IsRegister items)
    (hsize : items.length < Decimal.Binary64.wholeLimit) (line : Line) :
    ∃ shown, session.echo line = .ok shown := by
  cases line with
  | aliasDef definition => exact ⟨_, rfl⟩
  | pipeline body => exact Display.exists_value session.settings hsize h

/-- A line breaks a session only where reading it breaks down. -/
theorem status_execute {session : Session} (sound : Sound items mark session)
    (hsize : items.length < Decimal.Binary64.wholeLimit) (text : String) :
    (session.execute text).status = .ofBreakdown? (Query.breakdown? mark text) := by
  obtain ⟨rfl, _⟩ := id sound
  unfold execute Query.breakdown?
  cases hread : Query.readLine session.settings.mark text with
  | error fault => cases fault <;> rfl
  | ok line =>
    have hline := Query.wellFormed_of_readLine hread
    have next : Sound items session.settings.mark (session.evaluate line) :=
      keeps_sound items _ session text line sound hread
    dsimp only
    -- evaluating a line that was read cannot break down, and neither can showing what it left
    split
    · rename_i failure hfailure
      cases failure with
      | refusal cause => rfl
      | breakdown cause =>
        exact absurd hfailure (sound.workspace.answered hsize
          (fun _ hvalue => answers_of_exists (Display.exists_value session.settings hsize hvalue))
          hline cause)
    · split
      · rfl
      · rename_i failure hecho
        obtain ⟨shown, hshown⟩ := exists_echo next.workspace.register hsize line
        cases hshown.symm.trans hecho

def skipped (log : List Log.Record) : Nat :=
  log.countP fun record => record.source = .session && record.level = .warning

theorem breakdown?_of_readSaved (session : Session) (text : String) :
    Query.breakdown? session.settings.mark text =
      match readSaved session text with
      | .error (.breakdown cause) => some cause
      | _ => none := by
  unfold readSaved Query.breakdown?
  cases Query.readLine session.settings.mark text with
  | error fault => cases fault <;> rfl
  | ok line => cases line <;> rfl

theorem broken?_replayLine {replay : Replay} (hopen : replay.broken? = none) (number : Nat)
    (text : String) :
    (replayLine replay number text).broken? =
      Query.breakdown? replay.session.settings.mark text := by
  rw [breakdown?_of_readSaved]
  generalize hnext : replayLine replay number text = next
  cases hnext ▸ next_replayLine replay number text with
  | refused hread =>
    rw [hread]
    exact hopen
  | taken hread htaken =>
    rw [hread]
    exact hopen
  | defined hread hnew haliases =>
    rw [hread]
    exact hopen
  | broken hread => rw [hread]

theorem settings_replayLine (replay : Replay) (number : Nat) (text : String) :
    (replayLine replay number text).session.settings = replay.session.settings := by
  generalize hnext : replayLine replay number text = next
  cases hnext ▸ next_replayLine replay number text <;> rfl

@[simp] theorem skipped_append (first second : List Log.Record) :
    skipped (first ++ second) = skipped first + skipped second :=
  List.countP_append

theorem accounted_replayLine {replay : Replay} {text : String}
    (hread : Query.breakdown? replay.session.settings.mark text = none) (number : Nat) :
    (replayLine replay number text).defined + skipped (replayLine replay number text).log =
      replay.defined + skipped replay.log + 1 := by
  rw [breakdown?_of_readSaved] at hread
  generalize hnext : replayLine replay number text = next
  cases hnext ▸ next_replayLine replay number text with
  | refused =>
    simp only [skip, skipped_append]
    rfl
  | taken =>
    simp only [skip, skipped_append]
    rfl
  | defined =>
    simp only [Replay.defining, skipped_append]
    exact Nat.add_right_comm ..
  | broken hbroken =>
    rw [hbroken] at hread
    cases hread

def solidLines (lines : List String) : List String :=
  lines.filter fun line => !Text.isAllBlank line.toList

theorem solidLines_cons (text : String) (lines : List String) :
    solidLines (text :: lines) =
      if Text.isAllBlank text.toList then solidLines lines else text :: solidLines lines := by
  unfold solidLines
  rw [List.filter_cons]
  cases Text.isAllBlank text.toList <;> rfl

/-- A replay is ended by the first line that breaks down, and accounts for all lines if none does.
-/
theorem outcome_replayFrom (replay : Replay) (hopen : replay.broken? = none)
    (hmark : replay.session.settings.mark = mark) (number : Nat) (lines : List String) :
    (replayFrom replay number lines).broken? =
        (solidLines lines).findSome? (Query.breakdown? mark) ∧
      ((replayFrom replay number lines).broken? = none →
        (replayFrom replay number lines).defined + skipped (replayFrom replay number lines).log =
          replay.defined + skipped replay.log + (solidLines lines).length) := by
  fun_induction replayFrom replay number lines with
  | case1 replay number => exact ⟨hopen, fun _ => rfl⟩
  | case2 replay number line lines hblank ih =>
    rw [solidLines_cons, if_pos hblank]
    exact ih hopen hmark
  | case3 replay number line lines hblank next cause hbroken =>
    have hfirst := broken?_replayLine hopen number line
    rw [solidLines_cons, if_neg hblank, List.findSome?_cons, ← hmark, ← hfirst, hbroken]
    exact ⟨rfl, fun he => by cases he⟩
  | case4 replay number line lines hblank next hstill ih =>
    have hfirst := broken?_replayLine hopen number line
    have hone := accounted_replayLine (hfirst.symm.trans hstill) number
    have hsettings := congrArg Settings.mark (settings_replayLine replay number line)
    obtain ⟨hrest, hcount⟩ := ih hstill (hsettings.trans hmark)
    rw [solidLines_cons, if_neg hblank, List.findSome?_cons, ← hmark, ← hfirst, hstill, hmark]
    refine ⟨hrest, fun he => ?_⟩
    rw [hcount he, hone, List.length_cons]
    omega

theorem outcome_replay (session : Session) (lines : List String) :
    (session.replay lines).broken? =
        (solidLines lines).findSome? (Query.breakdown? session.settings.mark) ∧
      ((session.replay lines).broken? = none →
        (session.replay lines).defined + skipped (session.replay lines).log =
          (solidLines lines).length) := by
  obtain ⟨hbroken, hcount⟩ := outcome_replayFrom { session } rfl rfl 1 lines
  unfold replay
  cases hdone : (replayFrom { session } 1 lines).broken? with
  | some cause =>
    rw [hdone] at hbroken
    simp only [hdone]
    exact ⟨hbroken, fun he => by cases he⟩
  | none =>
    rw [hdone] at hbroken
    simp only [hdone, skipped_append]
    exact ⟨hbroken, fun _ => (hcount hdone).trans (Nat.zero_add _)⟩

/-- Whatever was asked of a session over transactions before: a line breaks it only where reading
the line breaks down, and saved lines end their replay only so; where none does, each saved line
that is not blank is defined or skipped with a warning. -/
theorem broken_only_by_reading (settings : Settings) (columns : Nat) (items : List Transaction)
    (hsize : items.length < Decimal.Binary64.wholeLimit) (acts : List Act) (text : String)
    (lines : List String) :
    let session := (start settings columns (.ofTransactions items)).after acts
    let replay := session.replay lines
    (session.execute text).status = .ofBreakdown? (Query.breakdown? settings.mark text) ∧
      replay.broken? = (solidLines lines).findSome? (Query.breakdown? settings.mark) ∧
      (replay.broken? = none →
        replay.defined + skipped replay.log = (solidLines lines).length) := by
  intro session replay
  have sound : Sound items settings.mark session :=
    (keeps_sound items settings.mark).after (sound_start settings columns items) acts
  refine ⟨status_execute sound hsize text, ?_⟩
  rw [← sound.mark_eq]
  exact outcome_replay session lines

/-- Two transactions, of which a session that has refused a line and taken a definition shows the
first; of the saved lines one defines a name that is taken and one is a pipeline. -/
theorem broken_only_by_reading_coffee :
    let date : Date := ⟨2023, ⟨1, by decide⟩, 5, by decide⟩
    let coffee : Transaction :=
      { hash := "a", account := "Checking", date, amount := -3.5, description := "Coffee" }
    let salary : Transaction :=
      { hash := "b", account := "Savings", date, amount := 2000, description := "Salary" }
    let mean : AliasDef := ⟨"Mean", ⟨[⟨"avg", .none⟩], "avg"⟩, "Mean: avg"⟩
    let session := (start .standard 80 (.ofTransactions [coffee, salary])).after
      [.execute "nope", .execute mean.raw]
    let turn := session.execute "reverse » last 1"
    let replay := session.replay ["Mean: sum", " ", "count", "Total: sum"]
    [coffee, salary].length < Decimal.Binary64.wholeLimit ∧ turn.status = .running ∧
      session.display (.transactions [coffee]) = .ok turn.written ∧
      replay.broken? = none ∧ replay.defined + skipped replay.log = 3 := by
  intro date coffee salary mean session turn replay
  have hsize : [coffee, salary].length < Decimal.Binary64.wholeLimit :=
    Decimal.Binary64.lt_wholeLimit (by decide)
  obtain ⟨hstatus, hbroken, hcount⟩ := broken_only_by_reading .standard 80 [coffee, salary] hsize
    [.execute "nope", .execute mean.raw] "reverse » last 1"
    ["Mean: sum", " ", "count", "Total: sum"]
  have hnope : Query.readLine Settings.standard.mark "nope" =
      .ok (.pipeline ⟨[⟨"nope", .none⟩], "nope"⟩) := by
    decide +kernel
  have hmean : Query.readLine Settings.standard.mark mean.raw = .ok (.aliasDef mean) := by
    decide +kernel
  have hline : Query.readLine Settings.standard.mark "reverse » last 1" =
      .ok (.pipeline ⟨[⟨"reverse", .none⟩, ⟨"last", .count 1⟩], "reverse » last 1"⟩) := by
    decide +kernel
  have hlines : (solidLines ["Mean: sum", " ", "count", "Total: sum"]).findSome?
      (Query.breakdown? Settings.standard.mark) = none := by
    decide +kernel
  rw [Query.breakdown?, hline] at hstatus
  rw [hlines] at hbroken
  -- the session is followed up to the line, whose evaluation does not look at any amount
  have hrefused (items : List Transaction) :
      ((start .standard 80 (.transactions items)).execute "nope").session =
        start .standard 80 (.transactions items) := by
    simp only [execute, start, hnope, Workspace.evaluateLine, Workspace.runCommands,
      Scope.run_cons, Scope.run_nil, Outcome.andThen]
    rfl
  have hdefined (items : List Transaction) :
      ((start .standard 80 (.transactions items)).execute mean.raw).session =
        ⟨.standard, 80, .transactions items, .transactions items,
          ⟨[mean], List.nodup_singleton _⟩⟩ := by
    simp only [execute, start, hmean, Workspace.evaluateLine]
    rfl
  have hsession : session = ⟨.standard, 80, .transactions [coffee, salary],
      .transactions [coffee, salary], ⟨[mean], List.nodup_singleton _⟩⟩ :=
    (congrArg (fun reached => (reached.execute mean.raw).session) (hrefused _)).trans (hdefined _)
  have hevaluated (print : Value → Except Failure String) :
      (Workspace.mk (.transactions [coffee, salary]) (.transactions [coffee, salary])
          ⟨[mean], List.nodup_singleton _⟩).evaluateLine (some print)
        (.pipeline ⟨[⟨"reverse", .none⟩, ⟨"last", .count 1⟩], "reverse » last 1"⟩) =
        { workspace := ⟨.transactions [coffee, salary], .transactions [coffee],
            ⟨[mean], List.nodup_singleton _⟩⟩ } := by
    simp only [Workspace.evaluateLine, Workspace.runCommands, Scope.run_cons, Scope.run_nil,
      Outcome.andThen]
    rfl
  obtain ⟨shown, hshown⟩ : ∃ shown,
      Display.value Settings.standard (.transactions [coffee]) = .ok shown := ⟨_, rfl⟩
  have hwritten : turn.written = shown := by
    simp only [turn, hsession, execute, hline, hevaluated, echo, display, hshown]
    rfl
  have hdisplay : session.display (.transactions [coffee]) = .ok turn.written := by
    rw [hsession, hwritten]
    exact hshown
  exact ⟨hsize, hstatus, hdisplay, hbroken, hcount hbroken⟩

/-- A repetition that is too large ends a session, and in a saved line it ends the replay before the
lines that follow. -/
theorem execute_breaks :
    let session := start .standard 80 .empty
    (session.execute "/x\x7b4294967295\x7d").status = .broken (.pattern .repetitionTooLarge) ∧
      (session.replay ["A: /x\x7b4294967295\x7d", "B: reverse"]).broken? =
        some (.pattern .repetitionTooLarge) ∧
      (session.replay ["A: /x\x7b4294967295\x7d", "B: reverse"]).defined = 0 := by
  decide +kernel

end Session

end LedgerQuery

namespace LedgerQuery.Session

/-! ## The lines that a session comes to evaluate

Which they are depends on the mark and on what is asked of the session, and not on what it works
with; so all that is asked of a session is the evaluation of these lines, one after another. -/

/-- The definitions in saved lines, up to the first line that breaks down. -/
def savedDefinitions (mark : Separator) : List String → List AliasDef
  | [] => []
  | text :: texts =>
    if Text.isAllBlank text.toList then savedDefinitions mark texts
    else
      match Query.breakdown? mark text with
      | some _ => []
      | none => (definitionOf? mark text).toList ++ savedDefinitions mark texts

def Act.lines (mark : Separator) : Act → List Line
  | .execute text => (Query.readLine mark text).toOption.toList
  | .replay texts => (savedDefinitions mark texts).map .aliasDef

def Act.texts : Act → List String
  | .execute text => [text]
  | .replay texts => texts

variable {mark : Separator} {session : Session}

theorem mem_savedDefinitions {texts : List String} {definition : AliasDef}
    (h : definition ∈ savedDefinitions mark texts) :
    ∃ text ∈ texts, Query.readLine mark text = .ok (.aliasDef definition) := by
  fun_induction savedDefinitions mark texts with
  | case1 => cases h
  | case2 text texts hblank ih =>
    obtain ⟨other, hmem, hread⟩ := ih h
    exact ⟨other, List.mem_cons_of_mem text hmem, hread⟩
  | case3 => cases h
  | case4 text texts hblank hfine ih =>
    rcases List.mem_append.mp h with h | h
    · have hread := definitionOf?_eq_some_iff.mp (Option.mem_toList.mp h)
      exact ⟨text, List.mem_cons_self, hread⟩
    · obtain ⟨other, hmem, hread⟩ := ih h
      exact ⟨other, List.mem_cons_of_mem text hmem, hread⟩

theorem Act.exists_of_mem_lines {act : Act} {line : Line} (h : line ∈ act.lines mark) :
    ∃ text ∈ act.texts, Query.readLine mark text = .ok line := by
  cases act with
  | execute text =>
    refine ⟨text, List.mem_cons_self, ?_⟩
    cases hread : Query.readLine mark text with
    | error fault =>
      rw [lines, hread] at h
      cases h
    | ok other =>
      rw [lines, hread] at h
      rw [List.mem_singleton.mp h]
  | replay texts =>
    obtain ⟨definition, hmem, rfl⟩ := List.mem_map.mp h
    exact mem_savedDefinitions hmem

theorem evaluate_taken {definition : AliasDef}
    (h : definition.name ∈ session.workspace.environment.names) :
    session.evaluate (.aliasDef definition) = session := by
  simp only [evaluate, Workspace.evaluateLine, Workspace.define_of_taken session.workspace h]

def evaluateAll (session : Session) (lines : List Line) : Session :=
  lines.foldl evaluate session

theorem evaluateAll_eq (session : Session) (lines : List Line) :
    session.evaluateAll lines =
      { session with
        workspace := session.workspace.evaluateLines (some session.display) lines } := by
  induction lines generalizing session with
  | nil => rfl
  | cons line lines ih => exact ih (session.evaluate line)

theorem evaluateAll_append (session : Session) (first second : List Line) :
    session.evaluateAll (first ++ second) = (session.evaluateAll first).evaluateAll second :=
  List.foldl_append

theorem session_next {replay next : Replay} {number : Nat} {text : String}
    (h : replay.Next number text next) :
    next.session = replay.session.evaluateAll
      ((definitionOf? replay.session.settings.mark text).toList.map .aliasDef) := by
  rw [definitionOf?_of_readSaved]
  cases h with
  | refused hread =>
    rw [hread]
    rfl
  | taken hread htaken =>
    rw [hread]
    exact (evaluate_taken htaken).symm
  | defined hread hnew haliases =>
    obtain ⟨environment, haliases', hdefine⟩ :=
      Workspace.define_of_new (α := String) replay.session.workspace hnew
    obtain rfl := Environment.eq_of_aliases (haliases.trans haliases'.symm)
    rw [hread]
    simp only [evaluateAll, Except.toOption, Option.toList, List.map, List.foldl, evaluate,
      Workspace.evaluateLine, hdefine]
    rfl
  | broken hread =>
    rw [hread]
    rfl

theorem definitionOf?_of_breakdown {text : String} {cause : Breakdown}
    (h : Query.breakdown? mark text = some cause) : definitionOf? mark text = none := by
  unfold Query.breakdown? at h
  unfold definitionOf?
  cases hread : Query.readLine mark text with
  | error fault => rfl
  | ok line =>
    rw [hread] at h
    cases h

theorem session_replayFrom {replay : Replay} (hmark : replay.session.settings.mark = mark)
    (hopen : replay.broken? = none) (number : Nat) (texts : List String) :
    (replayFrom replay number texts).session =
      replay.session.evaluateAll ((savedDefinitions mark texts).map .aliasDef) := by
  fun_induction replayFrom replay number texts with
  | case1 replay number => rfl
  | case2 replay number text texts hblank ih =>
    rw [savedDefinitions, if_pos hblank]
    exact ih hmark hopen
  | case3 replay number text texts hblank next cause hbroken =>
    have hbreak := broken?_replayLine hopen number text
    have hsession := session_next (next_replayLine replay number text)
    rw [hbroken, hmark] at hbreak
    rw [hmark, definitionOf?_of_breakdown hbreak.symm] at hsession
    rw [savedDefinitions, if_neg hblank, ← hbreak]
    exact hsession
  | case4 replay number text texts hblank next hstill ih =>
    have hbreak := broken?_replayLine hopen number text
    have hsession := session_next (next_replayLine replay number text)
    have hnext : next.session.settings.mark = mark := by
      rw [settings_replayLine]
      exact hmark
    rw [hstill, hmark] at hbreak
    rw [hmark] at hsession
    rw [savedDefinitions, if_neg hblank, ← hbreak, List.map_append, evaluateAll_append, ← hsession]
    exact ih hnext hstill

theorem session_act (session : Session) (act : Act) :
    session.act act = session.evaluateAll (act.lines session.settings.mark) := by
  cases act with
  | execute text =>
    change (session.execute text).session =
      session.evaluateAll (Query.readLine session.settings.mark text).toOption.toList
    cases hread : Query.readLine session.settings.mark text with
    | error fault =>
      simp only [execute, hread, session_fail]
      rfl
    | ok line =>
      rw [session_execute hread]
      rfl
  | replay texts =>
    have hopen : ({ session } : Replay).broken? = none := rfl
    exact (replay_spec session texts).1.trans (session_replayFrom rfl hopen 1 texts)

theorem settings_evaluateAll (session : Session) (lines : List Line) :
    (session.evaluateAll lines).settings = session.settings := by
  rw [evaluateAll_eq]

/-- Whatever is asked of a session, it evaluates the lines that were read, one after another. -/
theorem session_after (session : Session) (acts : List Act) :
    session.after acts = session.evaluateAll (acts.flatMap (Act.lines session.settings.mark)) := by
  induction acts generalizing session with
  | nil => rfl
  | cons act acts ih =>
    have hrest := ih (session.act act)
    rw [session_act, settings_evaluateAll] at hrest
    rw [List.flatMap_cons, evaluateAll_append, ← hrest, ← session_act]
    rfl

theorem settings_after (session : Session) (acts : List Act) :
    (session.after acts).settings = session.settings := by
  rw [session_after, settings_evaluateAll]

end LedgerQuery.Session
