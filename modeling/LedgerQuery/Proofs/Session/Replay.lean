import LedgerQuery.AliasFile
import LedgerQuery.Proofs.Evaluation.Run
import LedgerQuery.Proofs.Text.Search
import LedgerQuery.Session.Replay

/-! # Saved lines and the course of a session -/

namespace LedgerQuery.Session

/-! ## What comes of saved lines

Each that is not blank is skipped, defines an alias, or ends the replay; a replay only ever adds to
what it has written and logged, and it replays lines in two parts as it replays them at once. -/

theorem readSaved_eq_ok_iff {session : Session} {text : String} {definition : AliasDef} :
    readSaved session text = .ok definition ↔
      Query.readLine session.settings.mark text = .ok (.aliasDef definition) := by
  unfold readSaved
  split
  · rename_i h
    simp [h]
  · rename_i h
    simp [h]
  · rename_i h
    simp [h]

def Replay.defining (replay : Replay) (definitions : List AliasDef) (environment : Environment) :
    Replay :=
  { replay with
    session :=
      { replay.session with workspace := { replay.session.workspace with environment } }
    defined := replay.defined + definitions.length
    log := replay.log ++ definitions.map Workspace.definedRecord }

/-- Why a saved line that is not blank is skipped, if it is. -/
def skipCause? (session : Session) (line : String) : Option Refusal :=
  match readSaved session line with
  | .error (.refusal cause) => some cause
  | .error (.breakdown _) => none
  | .ok definition =>
    if definition.name ∈ session.workspace.environment.names then
      some (.alreadyDefined definition.name)
    else none

inductive Replay.Next (replay : Replay) (number : Nat) (line : String) : Replay → Prop where
  | refused {cause : Refusal} (hread : readSaved replay.session line = .error (.refusal cause)) :
    Next replay number line (skip replay number [] cause)
  | taken {definition : AliasDef} (hread : readSaved replay.session line = .ok definition)
      (htaken : definition.name ∈ replay.session.workspace.environment.names) :
    Next replay number line (skip replay number [Workspace.rejectedRecord definition]
      (.alreadyDefined definition.name))
  | defined {definition : AliasDef} {environment : Environment}
      (hread : readSaved replay.session line = .ok definition)
      (hnew : definition.name ∉ replay.session.workspace.environment.names)
      (haliases : environment.aliases =
        replay.session.workspace.environment.aliases ++ [definition]) :
    Next replay number line (replay.defining [definition] environment)
  | broken {cause : Breakdown} (hread : readSaved replay.session line = .error (.breakdown cause)) :
    Next replay number line { replay with broken? := some cause }

theorem next_replayLine (replay : Replay) (number : Nat) (line : String) :
    replay.Next number line (replayLine replay number line) := by
  unfold replayLine
  split
  · rename_i hread
    exact .refused hread
  · rename_i hread
    exact .broken hread
  · rename_i definition hread
    by_cases hname : definition.name ∈ replay.session.workspace.environment.names
    · rw [Workspace.define_of_taken replay.session.workspace hname]
      exact .taken hread hname
    · obtain ⟨environment, haliases, hdefine⟩ :=
        Workspace.define_of_new (α := String) replay.session.workspace hname
      rw [hdefine]
      exact .defined hread hname haliases

theorem replay_spec (session : Session) (lines : List String) :
    (session.replay lines).session = (replayFrom { session } 1 lines).session ∧
      (session.replay lines).written = (replayFrom { session } 1 lines).written ∧
      (session.replay lines).broken? = (replayFrom { session } 1 lines).broken? := by
  unfold replay
  dsimp only
  split
  · exact ⟨rfl, rfl, rfl⟩
  · exact ⟨rfl, rfl, rfl⟩

variable {replay : Replay} {number : Nat} {line : String}

theorem replayFrom_blank (lines : List String) (h : Text.isAllBlank line.toList = true) :
    replayFrom replay number (line :: lines) = replayFrom replay (number + 1) lines := by
  rw [replayFrom, if_pos h]

theorem replayFrom_open (lines : List String) (h : ¬ Text.isAllBlank line.toList = true)
    (hopen : (replayLine replay number line).broken? = none) :
    replayFrom replay number (line :: lines) =
      replayFrom (replayLine replay number line) (number + 1) lines := by
  rw [replayFrom, if_neg h]
  simp only [hopen]

theorem Replay.Next.eq_skip {next : Replay} (h : replay.Next number line next) {cause : Refusal}
    (hskip : skipCause? replay.session line = some cause) :
    ∃ log, next = skip replay number log cause := by
  unfold skipCause? at hskip
  cases h with
  | refused hread =>
    rw [hread] at hskip
    cases hskip
    exact ⟨[], rfl⟩
  | taken hread htaken =>
    simp only [hread, if_pos htaken] at hskip
    cases hskip
    exact ⟨_, rfl⟩
  | defined hread hnew haliases =>
    simp only [hread, if_neg hnew] at hskip
    cases hskip
  | broken hread =>
    rw [hread] at hskip
    cases hskip

structure Replay.Extends (earlier later : Replay) : Prop where
  written : ∃ more, later.written = earlier.written ++ more
  log : earlier.log <+: later.log

theorem Replay.Extends.refl (replay : Replay) : replay.Extends replay :=
  ⟨⟨"", String.append_empty.symm⟩, List.prefix_refl _⟩

theorem Replay.Extends.trans {first second third : Replay} (h : first.Extends second)
    (k : second.Extends third) : first.Extends third := by
  obtain ⟨front, hfront⟩ := h.written
  obtain ⟨back, hback⟩ := k.written
  exact ⟨⟨front ++ back, by rw [hback, hfront, String.append_assoc]⟩, h.log.trans k.log⟩

theorem extends_skip (replay : Replay) (number : Nat) (log : List Log.Record) (cause : Refusal) :
    replay.Extends (skip replay number log cause) :=
  ⟨⟨_, rfl⟩, (List.prefix_append _ _).trans (List.prefix_append _ _)⟩

theorem Replay.Next.extends {next : Replay} (h : replay.Next number line next) :
    replay.Extends next := by
  cases h with
  | refused => exact extends_skip ..
  | taken => exact extends_skip ..
  | defined => exact ⟨⟨"", String.append_empty.symm⟩, List.prefix_append _ _⟩
  | broken => exact ⟨⟨"", String.append_empty.symm⟩, List.prefix_refl _⟩

theorem extends_replayFrom (replay : Replay) (number : Nat) (lines : List String) :
    replay.Extends (replayFrom replay number lines) := by
  fun_induction replayFrom replay number lines with
  | case1 replay number => exact .refl replay
  | case2 replay number line lines hblank ih => exact ih
  | case3 replay number line lines hblank next cause hbroken =>
    exact (next_replayLine replay number line).extends
  | case4 replay number line lines hblank next hopen ih =>
    exact (next_replayLine replay number line).extends.trans ih

theorem extends_replay (session : Session) (lines : List String) :
    (replayFrom { session } 1 lines).Extends (session.replay lines) := by
  unfold replay
  dsimp only
  split
  · exact .refl _
  · exact ⟨⟨"", String.append_empty.symm⟩, List.prefix_append _ _⟩

/-- Lines are replayed in two parts unless the first part ends the replay. -/
theorem replayFrom_append {before : List String} (number : Nat)
    (hopen : (replayFrom replay number before).broken? = none) (lines : List String) :
    replayFrom replay number (before ++ lines) =
      replayFrom (replayFrom replay number before) (number + before.length) lines := by
  fun_induction replayFrom replay number before with
  | case1 replay number => rfl
  | case2 replay number line before hblank ih =>
    rw [List.cons_append, replayFrom_blank _ hblank, ih hopen, List.length_cons,
      Nat.add_right_comm, Nat.add_assoc]
  | case3 replay number line before hblank next cause hbroken =>
    rw [hbroken] at hopen
    cases hopen
  | case4 replay number line before hblank next hstill ih =>
    rw [List.cons_append, replayFrom_open _ hblank hstill, ih hopen, List.length_cons,
      Nat.add_right_comm, Nat.add_assoc]

end LedgerQuery.Session

namespace LedgerQuery

/-! ## The course of a session

Whatever lines a session is asked to execute or to replay, it evaluates those that can be read, one
after another, and stays as it is at the others: a property that the evaluation of any such line
keeps is kept throughout. -/

def Settings.standard : Settings where
  transactionsPath := .ofString "./data/transactions.db"
  aliasesPath := .ofString "./data/envrc"
  separator := Separator.standardText
  primaryTags := defaultPrimaryTags
  tags := defaultTags
  descriptionWidth := 52
  accountWidth := 15
  accountAliases := []
  tags_disjoint := by decide
  separator_not_blank := by decide
  descriptionWidth_pos := by decide
  accountWidth_pos := by decide

theorem Settings.check_default : Settings.Fields.check {} = .ok .standard := by
  have hd : ∀ tag ∈ defaultPrimaryTags, tag ∉ defaultTags := Settings.standard.tags_disjoint
  have hs : Text.trim Separator.standardText.toList ≠ [] := Settings.standard.separator_not_blank
  simp only [Settings.Fields.check, dif_pos hd, dif_pos hs]
  rfl

namespace Session

inductive Act where
  | execute (line : String)
  | replay (lines : List String)
  deriving DecidableEq, Repr

def act (session : Session) : Act → Session
  | .execute line => (session.execute line).session
  | .replay lines => (session.replay lines).session

def after (session : Session) (acts : List Act) : Session :=
  acts.foldl act session

def evaluate (session : Session) (line : Line) : Session :=
  { session with
    workspace := (session.workspace.evaluateLine (some session.display) line).workspace }

/-- Evaluating a line that the session can read keeps the property. -/
def Keeps (P : Session → Prop) : Prop :=
  ∀ (session : Session) (text : String) (line : Line), P session →
    Query.readLine session.settings.mark text = .ok line → P (session.evaluate line)

@[simp] theorem session_fail (session : Session) (line written : String)
    (log : List Log.Record) (failure : Failure) :
    (session.fail line written log failure).session = session := by
  cases failure <;> rfl

theorem session_execute {session : Session} {text : String} {line : Line}
    (h : Query.readLine session.settings.mark text = .ok line) :
    (session.execute text).session = session.evaluate line := by
  unfold execute
  rw [h]
  dsimp only
  split
  · exact session_fail ..
  · split
    · rfl
    · exact session_fail ..

theorem session_replayLine (replay : Replay) (number : Nat) (text : String) :
    (replayLine replay number text).session = replay.session ∨
      ∃ definition, Query.readLine replay.session.settings.mark text = .ok (.aliasDef definition) ∧
        (replayLine replay number text).session =
          replay.session.evaluate (.aliasDef definition) := by
  generalize hnext : replayLine replay number text = next
  cases hnext ▸ next_replayLine replay number text with
  | refused => exact Or.inl rfl
  | taken => exact Or.inl rfl
  | broken => exact Or.inl rfl
  | defined hread hnew haliases =>
    obtain ⟨environment, haliases', hdefine⟩ :=
      Workspace.define_of_new (α := String) replay.session.workspace hnew
    cases Environment.eq_of_aliases (haliases.trans haliases'.symm)
    refine Or.inr ⟨_, readSaved_eq_ok_iff.mp hread, ?_⟩
    simp only [evaluate, Workspace.evaluateLine, hdefine]
    rfl

variable {P : Session → Prop}

theorem Keeps.execute (keeps : Keeps P) {session : Session} (h : P session) (text : String) :
    P (session.execute text).session := by
  cases hread : Query.readLine session.settings.mark text with
  | error fault =>
    simp only [Session.execute, hread, session_fail]
    exact h
  | ok line =>
    rw [session_execute hread]
    exact keeps session text line h hread

theorem Keeps.replayLine (keeps : Keeps P) {replay : Replay} (h : P replay.session) (number : Nat)
    (text : String) : P (Session.replayLine replay number text).session := by
  rcases session_replayLine replay number text with hs | ⟨definition, hread, hs⟩
  · exact hs.symm ▸ h
  · exact hs.symm ▸ keeps replay.session text _ h hread

theorem Keeps.replayFrom (keeps : Keeps P) {replay : Replay} (h : P replay.session)
    (number : Nat) (lines : List String) :
    P (Session.replayFrom replay number lines).session := by
  fun_induction Session.replayFrom replay number lines with
  | case1 replay number => exact h
  | case2 replay number line lines hblank ih => exact ih h
  | case3 replay number line lines hblank next cause hbroken =>
    exact keeps.replayLine h number line
  | case4 replay number line lines hblank next hopen ih =>
    exact ih (keeps.replayLine h number line)

theorem Keeps.replay (keeps : Keeps P) {session : Session} (h : P session) (lines : List String) :
    P (session.replay lines).session := by
  have done : P (Session.replayFrom { session } 1 lines).session := keeps.replayFrom h 1 lines
  rw [(replay_spec session lines).1]
  exact done

/-- What the evaluation of a line keeps holds throughout a session. -/
theorem Keeps.after (keeps : Keeps P) {session : Session} (h : P session) (acts : List Act) :
    P (session.after acts) := by
  induction acts generalizing session with
  | nil => exact h
  | cons act acts ih =>
    apply ih
    cases act with
    | execute line => exact keeps.execute h line
    | replay lines => exact keeps.replay h lines

end Session

end LedgerQuery

namespace LedgerQuery.Session

/-! ## Which number a warning gives

A replay counts the blank lines that it passes over, but the lines of an alias file come to it
without them. So a skipped line of the file is reported by its number among the lines that are not
blank, and that is its number in the file only if no line in front of it is blank. -/

def skipNotice (number : Nat) (cause : Refusal) : String :=
  "saved alias on line " ++ toString number ++ ": " ++ cause.message

def solidRows (rows : List (List Char)) : List String :=
  (rows.filter (!Text.isAllBlank ·)).map String.ofList

theorem linesOf_of_fileLines {text row : List Char} {before after : List (List Char)}
    (hrows : Text.fileLines text = before ++ row :: after)
    (hrow : ¬ Text.isAllBlank row = true) :
    AliasFile.linesOf text = solidRows before ++ String.ofList row :: solidRows after := by
  change solidRows (Text.fileLines text) = _
  rw [hrows, solidRows, List.filter_append, List.filter_cons_of_pos (by simp [hrow]),
    List.map_append, List.map_cons]
  rfl

theorem length_solidRows_eq_iff {rows : List (List Char)} :
    (solidRows rows).length = rows.length ↔ ∀ row ∈ rows, ¬ Text.isAllBlank row = true := by
  rw [solidRows, List.length_map, List.length_filter_eq_length_iff]
  simp

/-- A line that is skipped is reported by its number among the lines that are replayed. -/
theorem extends_replay_skipped {session : Session} {before : List String} {line : String}
    {cause : Refusal} (hblank : ¬ Text.isAllBlank line.toList = true)
    (hopen : (replayFrom { session } 1 before).broken? = none)
    (hskip : skipCause? (replayFrom { session } 1 before).session line = some cause)
    (after : List String) :
    ∃ log, (skip (replayFrom { session } 1 before) (before.length + 1) log cause).Extends
      (session.replay (before ++ line :: after)) := by
  have hnext := next_replayLine (replayFrom { session } 1 before) (1 + before.length) line
  obtain ⟨log, hline⟩ := hnext.eq_skip hskip
  have hstill : (replayLine (replayFrom { session } 1 before) (1 + before.length) line).broken? =
      none := by
    rw [hline]
    exact hopen
  have hrun : replayFrom { session } 1 (before ++ line :: after) =
      replayFrom (skip (replayFrom { session } 1 before) (1 + before.length) log cause)
        (1 + before.length + 1) after := by
    rw [replayFrom_append 1 hopen, replayFrom_open after hblank hstill, hline]
  have hrest := extends_replayFrom
    (skip (replayFrom { session } 1 before) (1 + before.length) log cause)
    (1 + before.length + 1) after
  rw [← hrun, Nat.add_comm] at hrest
  exact ⟨log, hrest.trans (extends_replay session _)⟩

/-- A line of the alias file that the start of a session skips is reported, on the console and in
the log, by its number among the lines that are not blank, and that is its number in the file
exactly if no line in front of it is blank. -/
theorem warning_number (session : Session) (path : Path) {text row : List Char}
    {before after : List (List Char)} {cause : Refusal}
    (hrows : Text.fileLines text = before ++ row :: after) (hrow : ¬ Text.isAllBlank row = true)
    (hopen : (replayFrom { session } 1 (solidRows before)).broken? = none)
    (hskip : skipCause? (replayFrom { session } 1 (solidRows before)).session (String.ofList row) =
      some cause) :
    let reached := replayFrom { session } 1 (solidRows before)
    let number := (solidRows before).length + 1
    ∃ lines, AliasFile.load path (.ok (.text text)) = .ok (lines, []) ∧
      (∃ more, (session.replay lines).written = reached.written ++
        reached.session.tell .yellow ("Warning: skipped " ++ skipNotice number cause) ++ more) ∧
      (∃ log, reached.log ++ log ++
        [⟨.session, .warning, "Skipping " ++ skipNotice number cause⟩] <+:
          (session.replay lines).log) ∧
      (number = before.length + 1 ↔ ∀ earlier ∈ before, ¬ Text.isAllBlank earlier = true) := by
  intro reached number
  have hlines := linesOf_of_fileLines hrows hrow
  have hsolid : ¬ Text.isAllBlank (String.ofList row).toList = true := by
    rwa [String.toList_ofList]
  obtain ⟨log, hwritten, hlog⟩ := extends_replay_skipped hsolid hopen hskip (solidRows after)
  rw [← hlines] at hwritten hlog
  refine ⟨AliasFile.linesOf text, rfl, hwritten, ⟨log, hlog⟩, ?_⟩
  rw [← length_solidRows_eq_iff]
  exact Nat.add_right_cancel_iff

/-- A second definition of a name, behind an alias and a line that is none. -/
theorem warning_number_taken :
    let session := start .standard 80 .empty
    let rows := ["A: sum".toList, "nope".toList, "A: count".toList]
    let text := "A: sum\nnope\nA: count\n".toList
    let reached := replayFrom { session } 1 (solidRows rows.dropLast)
    Text.fileLines text = rows.dropLast ++ "A: count".toList :: [] ∧ reached.broken? = none ∧
      skipCause? reached.session "A: count" = some (.alreadyDefined "A") ∧
      ∃ lines, AliasFile.load (.ofString "envrc") (.ok (.text text)) = .ok (lines, []) ∧
        ∃ more, (session.replay lines).written = reached.written ++
          reached.session.tell .yellow
            ("Warning: skipped " ++ skipNotice 3 (.alreadyDefined "A")) ++ more := by
  intro session rows text reached
  have hrows : Text.fileLines text = rows.dropLast ++ "A: count".toList :: [] := by
    decide +kernel
  have hopen : reached.broken? = none := by decide +kernel
  have hskip : skipCause? reached.session "A: count" = some (.alreadyDefined "A") := by
    decide +kernel
  obtain ⟨lines, hload, hwritten, -, -⟩ := warning_number session (.ofString "envrc") hrows
    (by decide +kernel) hopen hskip
  exact ⟨hrows, hopen, hskip, lines, hload, hwritten⟩

/-- The second line of a file that begins with an empty one is reported as the first. -/
theorem warning_number_behind_blank :
    let session := start .standard 80 .empty
    let text := "\nnope\n".toList
    Text.fileLines text = [[], "nope".toList] ∧
      AliasFile.load (.ofString "envrc") (.ok (.text text)) = .ok (["nope"], []) ∧
      (session.replay ["nope"]).written = session.tell .yellow
        "Warning: skipped saved alias on line 1: not an alias definition" := by
  decide +kernel

end LedgerQuery.Session
