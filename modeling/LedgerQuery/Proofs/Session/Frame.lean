import LedgerQuery.Proofs.Query.Line
import LedgerQuery.Proofs.Session.Replay

/-! What a line does to the aliases of a session. Aliases are only ever put behind those that are
there, by a line that defines one under a name that is not taken; the register and the initial value
are left alone by it. Since a name begins with a capital letter, it is no keyword, and calling it
always runs the commands that were defined first. -/

namespace LedgerQuery.Session
open Text Query

def call (session : Session) (name : String) (register : Value) : Outcome String :=
  (session.workspace.scope (some session.display)).run [] [⟨name, .none⟩] register

def Introduces (session : Session) (text : String) (definition : AliasDef) : Prop :=
  Query.readLine session.settings.mark text = .ok (.aliasDef definition) ∧
    definition.name ∉ session.workspace.environment.names

def Repeats (session : Session) (text : String) (definition : AliasDef) : Prop :=
  Query.readLine session.settings.mark text = .ok (.aliasDef definition) ∧
    definition.name ∈ session.workspace.environment.names

/-- The session with one more alias behind the others, and otherwise as it was. -/
def Gains (before : Session) (definition : AliasDef) (after : Session) : Prop :=
  ∃ environment : Environment,
    environment.aliases = before.workspace.environment.aliases ++ [definition] ∧
      after = { before with workspace := { before.workspace with environment } }

structure Frame (before : Session) (text : String) (after : Session) : Prop where
  changed_iff : after.workspace.environment ≠ before.workspace.environment ↔
    ∃ definition, before.Introduces text definition
  gains : ∀ definition, before.Introduces text definition → before.Gains definition after
  unchanged : ∀ definition, before.Repeats text definition → after = before
  call_eq : ∀ definition, before.Repeats text definition →
    ∀ register, after.call definition.name register = before.call definition.name register

variable {session before after : Session} {text : String} {line : Line} {definition : AliasDef}

theorem Gains.ne (h : before.Gains definition after) :
    after.workspace.environment ≠ before.workspace.environment := by
  obtain ⟨environment, haliases, rfl⟩ := h
  intro heq
  have hlength := congrArg List.length (haliases.symm.trans (congrArg Environment.aliases heq))
  simp at hlength

/-- A line that either introduces an alias or leaves the environment does nothing else to it. -/
theorem Frame.intro (hgains : ∀ definition, before.Introduces text definition →
      before.Gains definition after)
    (hkeeps : (∀ definition, ¬ before.Introduces text definition) →
      after.workspace.environment = before.workspace.environment)
    (hsame : ∀ definition, before.Repeats text definition → after = before) :
    Frame before text after where
  changed_iff := by
    constructor
    · intro hne
      by_contra hnone
      exact hne (hkeeps (not_exists.mp hnone))
    · rintro ⟨definition, hnew⟩
      exact (hgains definition hnew).ne
  gains := hgains
  unchanged := hsame
  call_eq := by
    intro definition hrepeats register
    rw [hsame definition hrepeats]

/-! ### Lines that are executed -/

theorem execute_introduced (h : session.Introduces text definition) :
    session.Gains definition (session.execute text).session ∧
      (session.execute text).written = session.tell .cyan ("Defined " ++ definition.name) ∧
      (session.execute text).refusal? = none := by
  obtain ⟨hread, hnew⟩ := h
  obtain ⟨environment, haliases, hdefine⟩ :=
    Workspace.define_of_new (α := String) session.workspace hnew
  have hexecute : session.execute text =
      { session := { session with workspace := { session.workspace with environment } }
        written := "" ++ session.tell .cyan ("Defined " ++ definition.name)
        log := [Workspace.definedRecord definition] } := by
    simp only [execute, hread, Workspace.evaluateLine, hdefine, echo]
    rfl
  rw [hexecute]
  exact ⟨⟨environment, haliases, rfl⟩, String.empty_append, rfl⟩

theorem execute_repeated (h : session.Repeats text definition) :
    (session.execute text).session = session ∧
      (session.execute text).refusal? = some (.alreadyDefined definition.name) := by
  obtain ⟨hread, htaken⟩ := h
  simp only [execute, hread, Workspace.evaluateLine,
    Workspace.define_of_taken session.workspace htaken]
  exact ⟨rfl, rfl⟩

theorem frame_execute (session : Session) (text : String) :
    Frame session text (session.execute text).session := by
  apply Frame.intro
  · intro definition hnew
    exact (execute_introduced hnew).1
  · intro hnone
    cases hread : Query.readLine session.settings.mark text with
    | error fault =>
      simp only [execute, hread, session_fail]
    | ok line =>
      rw [session_execute hread]
      cases line with
      | pipeline body => rfl
      | aliasDef definition =>
        have htaken : definition.name ∈ session.workspace.environment.names := by
          by_contra hnew
          exact hnone definition ⟨hread, hnew⟩
        simp only [evaluate, Workspace.evaluateLine,
          Workspace.define_of_taken session.workspace htaken]
  · intro definition hrepeats
    exact (execute_repeated hrepeats).1

/-! ### Lines that are replayed -/

variable {replay : Replay} {number : Nat}

theorem replayFrom_singleton (h : ¬ isAllBlank text.toList) :
    replayFrom replay number [text] = replayLine replay number text := by
  rw [replayFrom, if_neg h]
  dsimp only
  split
  · rfl
  · rfl

theorem replayFrom_introduced (h : replay.session.Introduces text definition) :
    replay.session.Gains definition (replayFrom replay number [text]).session ∧
      (replayFrom replay number [text]).written = replay.written := by
  obtain ⟨hread, hnew⟩ := h
  obtain ⟨environment, haliases, hdefine⟩ :=
    Workspace.define_of_new (α := String) replay.session.workspace hnew
  rw [replayFrom_singleton (not_isAllBlank_of_readLine hread)]
  simp only [replayLine, readSaved_eq_ok_iff.mpr hread, hdefine, and_true]
  exact ⟨environment, haliases, rfl⟩

theorem replayFrom_repeated (h : replay.session.Repeats text definition) :
    replayFrom replay number [text] =
      skip replay number [Workspace.rejectedRecord definition]
        (.alreadyDefined definition.name) := by
  obtain ⟨hread, htaken⟩ := h
  rw [replayFrom_singleton (not_isAllBlank_of_readLine hread)]
  simp only [replayLine, readSaved_eq_ok_iff.mpr hread,
    Workspace.define_of_taken replay.session.workspace htaken]

theorem frame_replayFrom (replay : Replay) (number : Nat) (text : String) :
    Frame replay.session text (replayFrom replay number [text]).session := by
  apply Frame.intro
  · intro definition hnew
    exact (replayFrom_introduced hnew).1
  · intro hnone
    by_cases hblank : isAllBlank text.toList
    · rw [replayFrom_blank [] hblank]
      rfl
    · rcases session_replayLine replay number text with hs | ⟨definition, hread, -⟩
      · rw [replayFrom_singleton hblank, hs]
      · have htaken : definition.name ∈ replay.session.workspace.environment.names := by
          by_contra hnew
          exact hnone definition ⟨hread, hnew⟩
        rw [replayFrom_repeated ⟨hread, htaken⟩]
        rfl
  · intro definition hrepeats
    rw [replayFrom_repeated hrepeats]
    rfl

/-- A replay that did not break goes on with one more line as it would have stopped. -/
theorem exists_replay_snoc {lines : List String} (hopen : (session.replay lines).broken? = none)
    (text : String) :
    ∃ replay : Replay, (session.replay lines).session = replay.session ∧
      (session.replay lines).written = replay.written ∧
      (session.replay (lines ++ [text])).session =
        (replayFrom replay (lines.length + 1) [text]).session ∧
      (session.replay (lines ++ [text])).written =
        (replayFrom replay (lines.length + 1) [text]).written := by
  obtain ⟨hsession, hwritten, hbroken⟩ := replay_spec session lines
  obtain ⟨hsession', hwritten', -⟩ := replay_spec session (lines ++ [text])
  rw [hbroken] at hopen
  rw [replayFrom_append 1 hopen, Nat.add_comm] at hsession' hwritten'
  exact ⟨replayFrom { session } 1 lines, hsession, hwritten, hsession', hwritten'⟩

/-- The session keeps its initial value, and its aliases have capital names. -/
structure Framed (mark : Separator) (initial : Value) (session : Session) : Prop where
  mark_eq : session.settings.mark = mark
  initial_eq : session.workspace.initial = initial
  capital : ∀ definition ∈ session.workspace.environment.aliases,
    IsName isCapital definition.name.toList

theorem keeps_framed (mark : Separator) (initial : Value) : Keeps (Framed mark initial) := by
  rintro session text line ⟨hmark, hinitial, hcapital⟩ hread
  refine ⟨hmark, ?_, ?_⟩
  · exact (Workspace.initial_evaluateLine _ session.workspace line).trans hinitial
  · intro definition hmem
    rcases Workspace.mem_aliases_evaluateLine hmem with hmem | rfl
    · exact hcapital definition hmem
    · exact isName_of_readLine hread

theorem framed_start (settings : Settings) (columns : Nat) (initial : Value) :
    Framed settings.mark initial (start settings columns initial) :=
  ⟨rfl, rfl, fun _ hmem => absurd hmem List.not_mem_nil⟩

theorem keeps_aliases (earlier : List AliasDef) :
    Keeps fun session => earlier <+: session.workspace.environment.aliases := by
  intro session text line hprefix hread
  have frame := frame_execute session text
  rw [session_execute hread] at frame
  by_cases hnew : ∃ definition, session.Introduces text definition
  · obtain ⟨definition, hnew⟩ := hnew
    obtain ⟨environment, haliases, hafter⟩ := frame.gains definition hnew
    rw [hafter, haliases]
    exact hprefix.trans (List.prefix_append _ _)
  · have hsame : (session.evaluate line).workspace.environment = session.workspace.environment := by
      by_contra hne
      exact hnew (frame.changed_iff.mp hne)
    rw [hsame]
    exact hprefix

/-- Whatever is asked of a session, its aliases stay, in their order, and so does its initial value.
A line that is executed or replayed changes them exactly if it defines an alias under a name that is
not taken: then the alias goes behind the others, nothing else changes and no value is shown. A
second definition of a name is refused, or skipped with a warning, and changes nothing. No name is a
keyword, and calling it runs the commands that it was defined with. -/
theorem first_definition_stays (settings : Settings) (columns : Nat) (initial : Value)
    (acts : List Act) :
    let session := (start settings columns initial).after acts
    let aliases := session.workspace.environment.aliases
    session.workspace.initial = initial ∧
    (∀ more, aliases <+: (session.after more).workspace.environment.aliases) ∧
    (∀ text, let turn := session.execute text
      Frame session text turn.session ∧
      ∀ definition,
        (session.Introduces text definition →
          turn.written = session.tell .cyan ("Defined " ++ definition.name)) ∧
        (session.Repeats text definition →
          turn.refusal? = some (.alreadyDefined definition.name))) ∧
    (∀ lines text, (session.replay lines).broken? = none →
      let reached := session.replay lines
      let next := session.replay (lines ++ [text])
      Frame reached.session text next.session ∧
      ∀ definition,
        (reached.session.Introduces text definition → next.written = reached.written) ∧
        (reached.session.Repeats text definition → next.written =
          (skip reached (lines.length + 1) [] (.alreadyDefined definition.name)).written)) ∧
    ∀ definition ∈ aliases, definition.name ∉ Builtin.keywords ∧
      ∀ register, session.call definition.name register =
        (session.workspace.scope (some session.display)).run [definition.name]
          definition.body.commands register := by
  intro session aliases
  have framed : Framed settings.mark initial session :=
    (keeps_framed settings.mark initial).after (framed_start settings columns initial) acts
  refine ⟨framed.initial_eq, ?_, ?_, ?_, ?_⟩
  · intro more
    exact (keeps_aliases aliases).after (List.prefix_refl aliases) more
  · intro text turn
    refine ⟨frame_execute session text, fun definition => ⟨?_, ?_⟩⟩
    · intro hnew
      exact (execute_introduced hnew).2.1
    · intro hrepeats
      exact (execute_repeated hrepeats).2
  · intro lines text hopen reached next
    obtain ⟨replay, hsession, hwritten, hnext, hshown⟩ := exists_replay_snoc hopen text
    have frame := frame_replayFrom replay (lines.length + 1) text
    rw [← hsession, ← hnext] at frame
    refine ⟨frame, fun definition => ⟨?_, ?_⟩⟩
    · intro hnew
      rw [hsession] at hnew
      rw [hshown, hwritten]
      exact (replayFrom_introduced hnew).2
    · intro hrepeats
      rw [hsession] at hrepeats
      rw [hshown, replayFrom_repeated hrepeats]
      simp only [skip, reached, hsession, hwritten]
  · intro definition hmem
    have hword := not_mem_keywords (framed.capital definition hmem)
    refine ⟨hword, fun register => ?_⟩
    have hrun := (session.workspace.scope (some session.display)).run_alias hmem hword
      List.not_mem_nil .none register
    exact hrun

/-- Two aliases, a third that is saved, and a second definition of the first and of the third. -/
theorem first_definition_stays_twice :
    let session := (start .standard 80 .empty).after [.execute "A: count » A", .replay ["B: sum"]]
    let reached := session.replay ["C: B"]
    let second : AliasDef := ⟨"A", ⟨[⟨"avg", .none⟩], "avg"⟩, "A: avg"⟩
    let third : AliasDef := ⟨"C", ⟨[⟨"avg", .none⟩], "avg"⟩, "C: avg"⟩
    session.Repeats "A: avg" second ∧
      (session.execute "A: avg").refusal? = some (.alreadyDefined "A") ∧
      (∀ register, (session.execute "A: avg").session.call "A" register =
        session.call "A" register) ∧
      reached.broken? = none ∧ reached.session.Repeats "C: avg" third ∧
      (session.replay ["C: B", "C: avg"]).session = reached.session ∧
      session.workspace.environment.names = ["A", "B"] ∧
      ∀ definition ∈ session.workspace.environment.aliases,
        definition.name ∉ Builtin.keywords := by
  intro session reached second third
  have hsecond : session.Repeats "A: avg" second := ⟨by decide +kernel, by decide +kernel⟩
  have hopen : reached.broken? = none := by decide +kernel
  have hthird : reached.session.Repeats "C: avg" third := ⟨by decide +kernel, by decide +kernel⟩
  have hnames : session.workspace.environment.names = ["A", "B"] := by decide +kernel
  obtain ⟨-, -, hexecute, hreplay, hcalls⟩ := first_definition_stays .standard 80 .empty
    [.execute "A: count » A", .replay ["B: sum"]]
  obtain ⟨frame, hturn⟩ := hexecute "A: avg"
  obtain ⟨later, -⟩ := hreplay ["C: B"] "C: avg" hopen
  refine ⟨hsecond, (hturn second).2 hsecond, frame.call_eq second hsecond, hopen, hthird,
    later.unchanged third hthird, hnames, ?_⟩
  intro definition hmem
  exact (hcalls definition hmem).1

end LedgerQuery.Session
