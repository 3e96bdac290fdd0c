import LedgerQuery.Proofs.Session.Frame
import LedgerQuery.Proofs.Session.Boundary
import LedgerQuery.Proofs.Session.Replay

/-! Replay against typing. What a replay leaves is what typing the same lines at the prompt would
have left, if the blank lines and the pipelines among them are left out. Each line that is not blank
adds an alias, or is warned of once, by its number; nothing else is written. -/

namespace LedgerQuery.Session

variable {mark : Separator} {session : Session} {replay : Replay} {number : Nat} {text : String}
  {lines : List String}

def isPipeline (mark : Separator) (text : String) : Bool :=
  match Query.readLine mark text with
  | .ok (.pipeline _) => true
  | _ => false

def typedLines (mark : Separator) (lines : List String) : List String :=
  (solidLines lines).filter (!isPipeline mark ·)

/-! ### The session that is left -/

theorem definitionOf?_of_isPipeline (h : isPipeline mark text = true) :
    definitionOf? mark text = none := by
  unfold isPipeline at h
  unfold definitionOf?
  split at h
  · rename_i hread
    rw [hread]
  · cases h

/-- A text that is no pipeline has the definition that it holds evaluated, if it holds one. -/
theorem lines_execute (h : isPipeline mark text = false) :
    (Act.execute text).lines mark = (definitionOf? mark text).toList.map .aliasDef := by
  change (Query.readLine mark text).toOption.toList = _
  unfold isPipeline at h
  unfold definitionOf?
  split at h
  · cases h
  · rename_i hother
    cases hread : Query.readLine mark text with
    | error fault => rfl
    | ok line =>
      cases line with
      | pipeline body => exact absurd hread (hother body)
      | aliasDef definition => rfl

theorem lines_typedLines (mark : Separator) (lines : List String) :
    ((typedLines mark lines).map Act.execute).flatMap (Act.lines mark) =
      (definitionsOf mark lines).map .aliasDef := by
  induction lines with
  | nil => rfl
  | cons text lines ih =>
    unfold typedLines at ih ⊢
    rw [solidLines_cons, definitionsOf_cons, List.map_append, ← ih]
    by_cases hblank : Text.isAllBlank text.toList = true
    · rw [if_pos hblank, definitionOf?_eq_none_of_blank hblank]
      rfl
    · rw [if_neg hblank]
      cases hpipeline : isPipeline mark text with
      | true =>
        rw [List.filter_cons_of_neg (by simp [hpipeline]), definitionOf?_of_isPipeline hpipeline]
        rfl
      | false =>
        rw [List.filter_cons_of_pos (by simp [hpipeline]), List.map_cons, List.flatMap_cons,
          lines_execute hpipeline]

theorem savedDefinitions_of_open
    (hopen : (solidLines lines).findSome? (Query.breakdown? mark) = none) :
    savedDefinitions mark lines = definitionsOf mark lines := by
  fun_induction savedDefinitions mark lines with
  | case1 => rfl
  | case2 text lines hblank ih =>
    rw [solidLines_cons, if_pos hblank] at hopen
    rw [definitionsOf_cons, definitionOf?_eq_none_of_blank hblank, ih hopen]
    rfl
  | case3 text lines hblank cause hbroken =>
    rw [solidLines_cons, if_neg hblank, List.findSome?_cons, hbroken] at hopen
    cases hopen
  | case4 text lines hblank hfine ih =>
    rw [solidLines_cons, if_neg hblank, List.findSome?_cons, hfine] at hopen
    rw [definitionsOf_cons, ih hopen]

theorem status_execute_of_not_pipeline (hpipeline : isPipeline session.settings.mark text = false)
    (hfine : Query.breakdown? session.settings.mark text = none) :
    (session.execute text).status = .running := by
  unfold isPipeline at hpipeline
  unfold Query.breakdown? at hfine
  cases hread : Query.readLine session.settings.mark text with
  | error fault =>
    rw [hread] at hfine
    unfold execute
    rw [hread]
    cases fault <;> first | rfl | cases hfine
  | ok line =>
    cases line with
    | pipeline body =>
      rw [hread] at hpipeline
      cases hpipeline
    | aliasDef definition =>
      by_cases hname : definition.name ∈ session.workspace.environment.names
      · simp only [execute, hread, Workspace.evaluateLine,
          Workspace.define_of_taken session.workspace hname]
        rfl
      · obtain ⟨environment, -, hdefine⟩ :=
          Workspace.define_of_new (α := String) session.workspace hname
        simp only [execute, hread, Workspace.evaluateLine, hdefine, echo]

theorem session_replay (hopen : (session.replay lines).broken? = none) :
    (session.replay lines).session =
      session.after ((typedLines session.settings.mark lines).map .execute) := by
  have hread := (outcome_replay session lines).1
  have hreplay := session_act session (.replay lines)
  change (session.replay lines).session = session.evaluateAll
    ((savedDefinitions session.settings.mark lines).map .aliasDef) at hreplay
  rw [hreplay, savedDefinitions_of_open (hread.symm.trans hopen), session_after, lines_typedLines]

theorem status_execute_typed (hopen : (session.replay lines).broken? = none) (acts : List Act)
    (htext : text ∈ typedLines session.settings.mark lines) :
    ((session.after acts).execute text).status = .running := by
  obtain ⟨hsolid, hpipeline⟩ := List.mem_filter.mp htext
  have hread := (outcome_replay session lines).1.symm.trans hopen
  rw [← settings_after session acts] at hread hpipeline
  exact status_execute_of_not_pipeline (by simpa using hpipeline)
    (List.findSome?_eq_none_iff.mp hread text hsolid)

/-! ### The aliases that are added -/

/-- A saved line that does not end the replay is warned of, or defines an alias. -/
theorem Replay.Next.skipped_or_defined {next : Replay} (h : replay.Next number text next)
    (hopen : next.broken? = none) :
    (∃ cause log, skipCause? replay.session text = some cause ∧
        next = skip replay number log cause) ∨
      ∃ definition environment, skipCause? replay.session text = none ∧
        environment.aliases = replay.session.workspace.environment.aliases ++ [definition] ∧
        next = replay.defining [definition] environment := by
  unfold skipCause?
  cases h with
  | refused hread =>
    rw [hread]
    exact .inl ⟨_, _, rfl, rfl⟩
  | taken hread htaken =>
    rw [hread]
    exact .inl ⟨_, _, if_pos htaken, rfl⟩
  | defined hread hnew haliases =>
    rw [hread]
    exact .inr ⟨_, _, if_neg hnew, haliases, rfl⟩
  | broken hread => cases hopen

/-- A replay has gone on from an earlier one: it has added these aliases, has counted them, and has
done nothing else to its session. -/
structure Replay.Adds (earlier : Replay) (added : List AliasDef) (later : Replay) : Prop where
  aliases : later.session.workspace.environment.aliases =
    earlier.session.workspace.environment.aliases ++ added
  session : later.session = { earlier.session with
    workspace := { earlier.session.workspace with
      environment := later.session.workspace.environment } }
  defined : later.defined = earlier.defined + added.length

theorem Replay.Adds.refl (replay : Replay) : replay.Adds [] replay :=
  ⟨(List.append_nil _).symm, rfl, rfl⟩

theorem Replay.Adds.trans {first second third : Replay} {added more : List AliasDef}
    (h : first.Adds added second) (k : second.Adds more third) :
    first.Adds (added ++ more) third where
  aliases := by rw [k.aliases, h.aliases, List.append_assoc]
  session := by
    rw [k.session, h.session]
  defined := by rw [k.defined, h.defined, List.length_append, Nat.add_assoc]

theorem Replay.Next.adds {next : Replay} (h : replay.Next number text next)
    (hopen : next.broken? = none) : ∃ added, replay.Adds added next := by
  rcases h.skipped_or_defined hopen with
    ⟨cause, log, -, rfl⟩ | ⟨definition, environment, -, ha, rfl⟩
  · exact ⟨[], (List.append_nil _).symm, rfl, rfl⟩
  · exact ⟨[definition], ha, rfl, rfl⟩

theorem adds_replayFrom (hopen : (replayFrom replay number lines).broken? = none) :
    ∃ added, replay.Adds added (replayFrom replay number lines) := by
  fun_induction replayFrom replay number lines with
  | case1 replay number => exact ⟨[], .refl replay⟩
  | case2 replay number text lines hblank ih => exact ih hopen
  | case3 replay number text lines hblank next cause hbroken =>
    rw [hbroken] at hopen
    cases hopen
  | case4 replay number text lines hblank next hstill ih =>
    obtain ⟨added, hadded⟩ := (next_replayLine replay number text).adds hstill
    obtain ⟨more, hmore⟩ := ih hopen
    exact ⟨added ++ more, hadded.trans hmore⟩

/-! ### The warnings -/

def warningsFrom (replay : Replay) (number : Nat) : List String → List (Nat × Refusal)
  | [] => []
  | text :: lines =>
    if Text.isAllBlank text.toList then warningsFrom replay (number + 1) lines
    else
      (skipCause? replay.session text).toList.map (number, ·) ++
        warningsFrom (replayLine replay number text) (number + 1) lines

def warnings (session : Session) (lines : List String) : List (Nat × Refusal) :=
  warningsFrom { session } 1 lines

def warned (session : Session) (warning : Nat × Refusal) : String :=
  session.tell .yellow ("Warning: skipped " ++ skipNotice warning.1 warning.2)

theorem warned_of_adds {earlier later : Replay} {added : List AliasDef}
    (h : earlier.Adds added later) : later.session.warned = earlier.session.warned := by
  rw [h.session]
  rfl

theorem written_replayLine (hopen : (replayLine replay number text).broken? = none) :
    (replayLine replay number text).written = replay.written ++
      String.join (((skipCause? replay.session text).toList.map (number, ·)).map
        replay.session.warned) := by
  rcases (next_replayLine replay number text).skipped_or_defined hopen with
    ⟨cause, log, hskip, hnext⟩ | ⟨definition, environment, hskip, -, hnext⟩
  · have hwritten : (skip replay number log cause).written =
        replay.written ++ replay.session.warned (number, cause) :=
      rfl
    rw [hnext, hwritten, hskip, Option.toList, List.map_cons, List.map_cons, String.join_cons,
      List.map_nil, List.map_nil, String.join_nil, String.append_empty]
  · have hwritten : (replay.defining [definition] environment).written = replay.written := rfl
    rw [hnext, hwritten, hskip, Option.toList, List.map_nil, List.map_nil, String.join_nil,
      String.append_empty]

theorem written_replayFrom (hopen : (replayFrom replay number lines).broken? = none) :
    (replayFrom replay number lines).written = replay.written ++
      String.join ((warningsFrom replay number lines).map replay.session.warned) := by
  fun_induction replayFrom replay number lines with
  | case1 replay number => simp [warningsFrom]
  | case2 replay number text lines hblank ih =>
    rw [warningsFrom, if_pos hblank]
    exact ih hopen
  | case3 replay number text lines hblank next cause hbroken =>
    rw [hbroken] at hopen
    cases hopen
  | case4 replay number text lines hblank next hstill ih =>
    obtain ⟨added, hadded⟩ := (next_replayLine replay number text).adds hstill
    -- a line may change the session, but not the columns that its warnings are fitted to
    rw [warningsFrom, if_neg hblank, List.map_append, String.join_append, ← String.append_assoc,
      ← written_replayLine hstill, ← warned_of_adds hadded]
    exact ih hopen

theorem le_of_mem_warningsFrom {warning : Nat × Refusal}
    (h : warning ∈ warningsFrom replay number lines) : number ≤ warning.1 := by
  fun_induction warningsFrom replay number lines with
  | case1 => cases h
  | case2 replay number text lines hblank ih => exact Nat.le_of_succ_le (ih h)
  | case3 replay number text lines hblank ih =>
    rcases List.mem_append.mp h with h | h
    · obtain ⟨cause, -, rfl⟩ := List.mem_map.mp h
      exact Nat.le_refl number
    · exact Nat.le_of_succ_le (ih h)

/-- No line is warned of twice, and the warnings come in the order of the lines. -/
theorem pairwise_warningsFrom (replay : Replay) (number : Nat) (lines : List String) :
    ((warningsFrom replay number lines).map Prod.fst).Pairwise (· < ·) := by
  fun_induction warningsFrom replay number lines with
  | case1 => exact .nil
  | case2 replay number text lines hblank ih => exact ih
  | case3 replay number text lines hblank ih =>
    cases skipCause? replay.session text with
    | none => exact ih
    | some cause =>
      refine List.pairwise_cons.mpr ⟨fun later hlater => ?_, ih⟩
      obtain ⟨warning, hmem, rfl⟩ := List.mem_map.mp hlater
      exact le_of_mem_warningsFrom hmem

theorem exists_split_cons {α : Type} {P : List α → α → Prop} {a : α} {others : List α} :
    (∃ before b after, a :: others = before ++ b :: after ∧ P before b) ↔
      P [] a ∨ ∃ before b after, others = before ++ b :: after ∧ P (a :: before) b := by
  constructor
  · rintro ⟨before, b, after, hsplit, h⟩
    cases before with
    | nil =>
      cases hsplit
      exact .inl h
    | cons first before =>
      cases hsplit
      exact .inr ⟨before, b, after, rfl, h⟩
  · rintro (h | ⟨before, b, after, rfl, h⟩)
    · exact ⟨[], a, others, rfl, h⟩
    · exact ⟨a :: before, b, after, rfl, h⟩

theorem open_replayLine (hsolid : ¬ Text.isAllBlank text.toList = true)
    (hopen : (replayFrom replay number (text :: lines)).broken? = none) :
    (replayLine replay number text).broken? = none := by
  rw [replayFrom, if_neg hsolid] at hopen
  dsimp only at hopen
  split at hopen
  · exact hopen
  · assumption

/-- The line that follows these is skipped, and this is the warning of it. -/
structure WarnedAt (replay : Replay) (number : Nat) (before : List String) (text : String)
    (warning : Nat × Refusal) : Prop where
  number_eq : warning.1 = number + before.length
  solid : ¬ Text.isAllBlank text.toList = true
  skipped : skipCause? (replayFrom replay number before).session text = some warning.2

variable {before : List String} {line : String} {warning : Nat × Refusal}

theorem warnedAt_cons {next : Replay}
    (h : replayFrom replay number (line :: before) = replayFrom next (number + 1) before) :
    WarnedAt replay number (line :: before) text warning ↔
      WarnedAt next (number + 1) before text warning := by
  have hnumber : number + (line :: before).length = number + 1 + before.length := by
    rw [List.length_cons]
    omega
  constructor
  · rintro ⟨heq, hsolid, hskip⟩
    exact ⟨heq.trans hnumber, hsolid, h ▸ hskip⟩
  · rintro ⟨heq, hsolid, hskip⟩
    exact ⟨heq.trans hnumber.symm, hsolid, h ▸ hskip⟩

/-- Of the lines that are not blank, those are warned of that are skipped where they stand. -/
theorem mem_warningsFrom (hopen : (replayFrom replay number lines).broken? = none) :
    warning ∈ warningsFrom replay number lines ↔
      ∃ before text after, lines = before ++ text :: after ∧
        WarnedAt replay number before text warning := by
  -- the lines in front of the one that is warned of are replayed first, so the induction is on them
  induction lines generalizing replay number with
  | nil => simp [warningsFrom]
  | cons line lines ih =>
    rw [exists_split_cons, warningsFrom]
    by_cases hblank : Text.isAllBlank line.toList = true
    · have hfirst : ¬ WarnedAt replay number [] line warning := fun h => h.solid hblank
      rw [replayFrom_blank lines hblank] at hopen
      simp only [if_pos hblank, ih hopen, hfirst, false_or,
        warnedAt_cons (replayFrom_blank _ hblank)]
    · have hstill := open_replayLine hblank hopen
      have hfirst : warning ∈ (skipCause? replay.session line).toList.map (number, ·) ↔
          WarnedAt replay number [] line warning := by
        constructor
        · intro hmem
          obtain ⟨cause, hcause, rfl⟩ := List.mem_map.mp hmem
          exact ⟨rfl, hblank, Option.mem_toList.mp hcause⟩
        · rintro ⟨heq, -, hskip⟩
          exact List.mem_map.mpr ⟨warning.2, Option.mem_toList.mpr hskip, Prod.ext heq.symm rfl⟩
      rw [replayFrom_open lines hblank hstill] at hopen
      simp only [if_neg hblank, List.mem_append, hfirst, ih hopen,
        warnedAt_cons (replayFrom_open _ hblank hstill)]

/-! ### Replays from the first line -/

theorem broken?_of_append {after : List String}
    (hopen : (session.replay (before ++ after)).broken? = none) :
    (session.replay before).broken? = none := by
  have hread := (outcome_replay session (before ++ after)).1.symm.trans hopen
  rw [solidLines, List.filter_append, List.findSome?_append, Option.or_eq_none_iff] at hread
  exact (outcome_replay session before).1.trans hread.1

theorem replayFrom_of_open (hopen : (session.replay lines).broken? = none) :
    (replayFrom { session } 1 lines).broken? = none :=
  (replay_spec session lines).2.2.symm.trans hopen

theorem settings_replay (session : Session) (lines : List String) :
    (session.replay lines).session.settings = session.settings :=
  settings_after session [.replay lines]

theorem exists_skipCause_iff (hsolid : ¬ Text.isAllBlank text.toList = true)
    (hopen : (session.replay (before ++ [text])).broken? = none) :
    (∃ cause, skipCause? (session.replay before).session text = some cause) ↔
      (session.replay (before ++ [text])).session.workspace.environment =
        (session.replay before).session.workspace.environment := by
  have hbefore := replayFrom_of_open (broken?_of_append hopen)
  have hline := replayFrom_of_open hopen
  rw [(replay_spec session before).1, (replay_spec session (before ++ [text])).1]
  rw [replayFrom_append 1 hbefore, replayFrom_singleton hsolid] at hline ⊢
  rcases (next_replayLine _ _ text).skipped_or_defined hline with
    ⟨cause, log, hskip, hnext⟩ | ⟨definition, environment, hskip, haliases, hnext⟩
  · rw [hnext]
    exact ⟨fun _ => rfl, fun _ => ⟨cause, hskip⟩⟩
  · have hgains : Gains (replayFrom { session } 1 before).session definition
        (replayLine (replayFrom { session } 1 before) (1 + before.length) text).session :=
      ⟨environment, haliases, congrArg Replay.session hnext⟩
    rw [hskip]
    exact ⟨fun ⟨cause, hcause⟩ => absurd hcause nofun, fun heq => absurd heq hgains.ne⟩

theorem skipCause?_of_isPipeline (h : isPipeline session.settings.mark text = true) :
    ¬ Text.isAllBlank text.toList = true ∧ skipCause? session text = some .notAnAlias := by
  unfold isPipeline at h
  split at h
  · rename_i hread
    refine ⟨Query.not_isAllBlank_of_readLine hread, ?_⟩
    unfold skipCause? readSaved
    rw [hread]
  · cases h

theorem defined_replay (session : Session) (lines : List String) :
    (session.replay lines).defined = (replayFrom { session } 1 lines).defined := by
  unfold replay
  dsimp only
  split <;> rfl

theorem mem_warnings (hopen : (session.replay lines).broken? = none) :
    warning ∈ warnings session lines ↔
      ∃ before text after, lines = before ++ text :: after ∧
        WarnedAt { session } 1 before text warning :=
  mem_warningsFrom (replayFrom_of_open hopen)

/-- The numbers that are warned of are those of the lines that are not blank and added nothing. -/
theorem mem_warned_numbers (hopen : (session.replay lines).broken? = none) {found : Nat} :
    found ∈ (warnings session lines).map Prod.fst ↔
      ∃ before text after, lines = before ++ text :: after ∧ found = before.length + 1 ∧
        ¬ Text.isAllBlank text.toList = true ∧
        (session.replay (before ++ [text])).session.workspace.environment =
          (session.replay before).session.workspace.environment := by
  have hline : ∀ {before text after}, lines = before ++ text :: after →
      (session.replay (before ++ [text])).broken? = none := by
    intro before text after hsplit
    rw [hsplit, List.append_cons] at hopen
    exact broken?_of_append hopen
  constructor
  · intro hmem
    obtain ⟨warning, hwarning, rfl⟩ := List.mem_map.mp hmem
    obtain ⟨before, text, after, hsplit, hnumber, hsolid, hskip⟩ := (mem_warnings hopen).mp hwarning
    rw [← (replay_spec session before).1] at hskip
    exact ⟨before, text, after, hsplit, hnumber.trans (Nat.add_comm _ _), hsolid,
      (exists_skipCause_iff hsolid (hline hsplit)).mp ⟨warning.2, hskip⟩⟩
  · rintro ⟨before, text, after, hsplit, rfl, hsolid, hsame⟩
    obtain ⟨cause, hskip⟩ := (exists_skipCause_iff hsolid (hline hsplit)).mpr hsame
    rw [(replay_spec session before).1] at hskip
    have hwarned : WarnedAt { session } 1 before text (before.length + 1, cause) :=
      ⟨Nat.add_comm _ _, hsolid, hskip⟩
    exact List.mem_map.mpr
      ⟨_, (mem_warnings hopen).mpr ⟨before, text, after, hsplit, hwarned⟩, rfl⟩

/-- A replay that does not break leaves the session that executing its lines in order leaves, all
but the blank ones and the pipelines: it evaluates definitions only, and the register and the
initial value stay. It counts the aliases that it has added. It writes one warning for each line
that is not blank and added nothing, with the number of the line, and writes nothing else; a
pipeline is warned of wherever it stands. -/
theorem replay_eq_typing (session : Session) {lines : List String}
    (hopen : (session.replay lines).broken? = none) :
    let mark := session.settings.mark
    let replay := session.replay lines
    let typed := typedLines mark lines
    replay.session = session.after (typed.map .execute) ∧
      (∀ text ∈ typed, ∀ acts, ((session.after acts).execute text).status = .running) ∧
      replay.session = session.evaluateAll ((definitionsOf mark lines).map .aliasDef) ∧
      replay.session.workspace.register = session.workspace.register ∧
      replay.session.workspace.initial = session.workspace.initial ∧
      (∃ added, replay.session.workspace.environment.aliases =
        session.workspace.environment.aliases ++ added ∧ replay.defined = added.length) ∧
      replay.written = String.join ((warnings session lines).map session.warned) ∧
      ((warnings session lines).map Prod.fst).Pairwise (· < ·) ∧
      (∀ found, found ∈ (warnings session lines).map Prod.fst ↔
        ∃ before text after, lines = before ++ text :: after ∧ found = before.length + 1 ∧
          ¬ Text.isAllBlank text.toList = true ∧
          (session.replay (before ++ [text])).session.workspace.environment =
            (session.replay before).session.workspace.environment) ∧
      ∀ before text after, lines = before ++ text :: after → isPipeline mark text = true →
        (before.length + 1, .notAnAlias) ∈ warnings session lines := by
  intro mark replay typed
  have hfrom := replayFrom_of_open hopen
  obtain ⟨hsession, hwritten, -⟩ := replay_spec session lines
  obtain ⟨added, hadds⟩ := adds_replayFrom hfrom
  have htyped : replay.session = session.after (typed.map .execute) := session_replay hopen
  have hcounted : replay.defined = added.length := by
    have hdefined := hadds.defined
    rw [← defined_replay] at hdefined
    exact hdefined.trans (Nat.zero_add _)
  have hkept : replay.session = _ := hsession.trans hadds.session
  refine ⟨htyped, fun text hmem acts => status_execute_typed hopen acts hmem, ?_,
    congrArg (·.workspace.register) hkept, congrArg (·.workspace.initial) hkept,
    ⟨added, (congrArg (·.workspace.environment.aliases) hsession).trans hadds.aliases, hcounted⟩,
    ?_, pairwise_warningsFrom _ _ _, fun found => mem_warned_numbers hopen, ?_⟩
  · rw [htyped, session_after, lines_typedLines]
  · have hwarned := written_replayFrom hfrom
    rw [String.empty_append] at hwarned
    exact hwritten.trans hwarned
  · intro before text after hsplit hpipeline
    have hmark :
        isPipeline (replayFrom { session } 1 before).session.settings.mark text = true := by
      rw [← (replay_spec session before).1, settings_replay]
      exact hpipeline
    obtain ⟨hsolid, hskip⟩ := skipCause?_of_isPipeline hmark
    exact (mem_warnings hopen).mpr
      ⟨before, text, after, hsplit, Nat.add_comm _ _, hsolid, hskip⟩

/-- Definitions, one of them taken before and one by the replay, a pipeline, a tag that is not
closed and a blank line. -/
theorem replay_eq_typing_mixed :
    let session := (start .standard 80 (.number (.int 7))).after [.execute "C: avg"]
    let lines := ["A: sum", " ", "sum", "A: count", "[food", "C: sum", "B: A"]
    let replay := session.replay lines
    replay.broken? = none ∧
      replay.session = session.after
        (["A: sum", "A: count", "[food", "C: sum", "B: A"].map .execute) ∧
      replay.session.workspace.register = .number (.int 7) ∧
      replay.session.workspace.environment.names = ["C", "A", "B"] ∧
      replay.defined = 2 ∧
      (warnings session lines).map Prod.fst = [3, 4, 5, 6] ∧
      replay.written = String.join ((warnings session lines).map session.warned) := by
  intro session lines replay
  have hopen : replay.broken? = none := by decide +kernel
  have htyped : typedLines session.settings.mark lines =
      ["A: sum", "A: count", "[food", "C: sum", "B: A"] := by
    decide +kernel
  obtain ⟨hsession, -, -, hregister, -, -, hwritten, -⟩ := replay_eq_typing session hopen
  rw [htyped] at hsession
  have hinitial : session.workspace.register = .number (.int 7) := by decide +kernel
  exact ⟨hopen, hsession, hregister.trans hinitial, by decide +kernel, by decide +kernel,
    by decide +kernel, hwritten⟩

end LedgerQuery.Session
