import LedgerQuery.Dictionary
import LedgerQuery.Proofs.Query.Line
import LedgerQuery.Proofs.Session.Replay
import LedgerQuery.Session.Replay

/-! # What a session collects -/

namespace LedgerQuery.Session

/-! ## What the prompt asks for

An event leaves the session as it is, ends it, or has a line executed; so of all that is typed, the
lines in front of the first event that ends the session are executed, blank ones left out. -/

inductive Request where
  | nothing
  | leave
  | execute (line : String)

def Event.request : Event → Request
  | .interrupt => .nothing
  | .endOfInput => .leave
  | .line text =>
    let word := Text.trim text.toList
    if word = [] then .nothing
    else if quitWords.contains word then .leave
    else .execute text

def Event.executed (event : Event) : List String :=
  match event.request with
  | .execute text => [text]
  | _ => []

/-- The lines that events have executed unless one of them breaks the session. -/
def executed : List Event → List String
  | [] => []
  | event :: events =>
    match event.request with
    | .nothing => executed events
    | .leave => []
    | .execute line => line :: executed events

theorem step_eq (session : Session) (event : Event) :
    session.step event =
      match event.request with
      | .nothing => { session }
      | .leave => { session, status := .ended }
      | .execute line => session.execute line := by
  cases event with
  | interrupt => rfl
  | endOfInput => rfl
  | line text =>
    unfold step Event.request
    dsimp only
    split
    · rfl
    · split <;> rfl

theorem status_fail_ne_ended (session : Session) (line written : String)
    (log : List Log.Record) (failure : Failure) :
    (session.fail line written log failure).status ≠ .ended := by
  cases failure <;> exact nofun

theorem status_execute_ne_ended (session : Session) (line : String) :
    (session.execute line).status ≠ .ended := by
  unfold execute
  split
  · exact status_fail_ne_ended _ _ _ _ _
  · dsimp only
    split
    · exact status_fail_ne_ended _ _ _ _ _
    · split
      · exact nofun
      · exact status_fail_ne_ended _ _ _ _ _

theorem executed_cons_of_running {session : Session} {event : Event}
    (h : (session.step event).status = .running) (events : List Event) :
    executed (event :: events) = event.executed ++ executed events := by
  rw [step_eq] at h
  rw [executed, Event.executed]
  cases hrequest : event.request with
  | nothing => rfl
  | leave =>
    rw [hrequest] at h
    cases h
  | execute line => rfl

theorem executed_cons_of_ended {session : Session} {event : Event}
    (h : (session.step event).status = .ended) (events : List Event) :
    executed (event :: events) = event.executed := by
  rw [step_eq] at h
  rw [executed, Event.executed]
  cases hrequest : event.request with
  | nothing =>
    rw [hrequest] at h
    cases h
  | leave => rfl
  | execute line =>
    rw [hrequest] at h
    exact absurd h (status_execute_ne_ended session line)

end LedgerQuery.Session

namespace LedgerQuery

/-! ## The aliases that a session collects

Of all definitions that it comes to, in saved lines and in lines that it executes, it has the first
of each name, in the order in which they came. -/

def firstOfEachName : List AliasDef → List AliasDef
  | [] => []
  | definition :: others =>
    definition :: (firstOfEachName others).filter (·.name ≠ definition.name)

theorem names_firstOfEachName (definitions : List AliasDef) :
    (firstOfEachName definitions).map (·.name) = distinct (definitions.map (·.name)) := by
  induction definitions with
  | nil => rfl
  | cons definition others ih =>
    rw [firstOfEachName, List.map_cons, List.map_cons, distinct, ← ih, List.filter_map]
    rfl

theorem mem_names_firstOfEachName {definitions : List AliasDef} {name : String} :
    name ∈ (firstOfEachName definitions).map (·.name) ↔ name ∈ definitions.map (·.name) := by
  rw [names_firstOfEachName, mem_distinct]

theorem nodup_names_firstOfEachName (definitions : List AliasDef) :
    ((firstOfEachName definitions).map (·.name)).Nodup := by
  rw [names_firstOfEachName]
  exact nodup_distinct _

theorem mem_of_mem_firstOfEachName {definitions : List AliasDef} {definition : AliasDef}
    (h : definition ∈ firstOfEachName definitions) : definition ∈ definitions := by
  induction definitions with
  | nil => exact h
  | cons first others ih =>
    rcases List.mem_cons.mp h with rfl | h
    · exact List.mem_cons_self
    · exact List.mem_cons_of_mem first (ih (List.mem_filter.mp h).1)

theorem firstOfEachName_append (first second : List AliasDef) :
    firstOfEachName (first ++ second) =
      firstOfEachName first ++
        (firstOfEachName second).filter (·.name ∉ first.map (·.name)) := by
  induction first with
  | nil =>
    rw [List.nil_append]
    exact (List.filter_eq_self.mpr (by simp)).symm
  | cons definition others ih =>
    have hfilter : (firstOfEachName second).filter
        (fun other => decide (other.name ≠ definition.name) &&
          decide (other.name ∉ others.map (·.name))) =
        (firstOfEachName second).filter
          (·.name ∉ (definition :: others).map (·.name)) := by
      refine List.filter_congr fun other _ => ?_
      simp [not_or]
    rw [List.cons_append, firstOfEachName, ih, List.filter_append, List.filter_filter, hfilter]
    rfl

theorem firstOfEachName_append_taken {first second : List AliasDef}
    (h : ∀ definition ∈ second, definition.name ∈ first.map (·.name)) :
    firstOfEachName (first ++ second) = firstOfEachName first := by
  have hnone : (firstOfEachName second).filter (·.name ∉ first.map (·.name)) = [] := by
    rw [List.filter_eq_nil_iff]
    intro definition hmem
    have hname := h definition (mem_of_mem_firstOfEachName hmem)
    simpa using hname
  rw [firstOfEachName_append, hnone, List.append_nil]

theorem firstOfEachName_append_new {definitions : List AliasDef} {definition : AliasDef}
    (h : definition.name ∉ definitions.map (·.name)) :
    firstOfEachName (definitions ++ [definition]) =
      firstOfEachName definitions ++ [definition] := by
  have hsingle : firstOfEachName [definition] = [definition] := rfl
  rw [firstOfEachName_append, hsingle, List.filter_cons_of_pos (by simpa using h), List.filter_nil]

theorem firstOfEachName_of_nodup {definitions : List AliasDef}
    (h : (definitions.map (·.name)).Nodup) : firstOfEachName definitions = definitions := by
  induction definitions with
  | nil => rfl
  | cons definition others ih =>
    obtain ⟨hnew, hrest⟩ := List.nodup_cons.mp h
    rw [firstOfEachName, ih hrest, List.filter_eq_self.mpr]
    intro other hmem
    refine decide_eq_true fun he => hnew ?_
    exact List.mem_map.mpr ⟨other, hmem, he⟩

def definitionOf? (mark : Separator) (line : String) : Option AliasDef :=
  match Query.readLine mark line with
  | .ok (.aliasDef definition) => some definition
  | _ => none

def definitionsOf (mark : Separator) (lines : List String) : List AliasDef :=
  lines.filterMap (definitionOf? mark)

variable {mark : Separator}

theorem definitionOf?_eq_some_iff {line : String} {definition : AliasDef} :
    definitionOf? mark line = some definition ↔
      Query.readLine mark line = .ok (.aliasDef definition) := by
  unfold definitionOf?
  split
  · rename_i h
    simp [h]
  · rename_i h
    simpa using h definition

theorem definitionOf?_eq_none_of_blank {line : String}
    (h : Text.isAllBlank line.toList = true) : definitionOf? mark line = none := by
  refine Option.eq_none_iff_forall_ne_some.mpr fun definition hsome => ?_
  exact Query.not_isAllBlank_of_readLine (definitionOf?_eq_some_iff.mp hsome) h

theorem definitionsOf_cons (line : String) (lines : List String) :
    definitionsOf mark (line :: lines) =
      (definitionOf? mark line).toList ++ definitionsOf mark lines := by
  unfold definitionsOf
  cases h : definitionOf? mark line <;> simp [h]

theorem definitionsOf_append (first second : List String) :
    definitionsOf mark (first ++ second) = definitionsOf mark first ++ definitionsOf mark second :=
  List.filterMap_append

theorem readLine_raw_of_mem {lines : List String} {definition : AliasDef}
    (h : definition ∈ definitionsOf mark lines) :
    Query.readLine mark definition.raw = .ok (.aliasDef definition) := by
  obtain ⟨line, -, hline⟩ := List.mem_filterMap.mp h
  exact Query.readLine_raw (definitionOf?_eq_some_iff.mp hline)

theorem definitionsOf_raws {definitions : List AliasDef}
    (h : ∀ definition ∈ definitions,
      Query.readLine mark definition.raw = .ok (.aliasDef definition)) :
    definitionsOf mark (definitions.map (·.raw)) = definitions := by
  induction definitions with
  | nil => rfl
  | cons definition others ih =>
    obtain ⟨hfirst, hrest⟩ := List.forall_mem_cons.mp h
    rw [List.map_cons, definitionsOf_cons, definitionOf?_eq_some_iff.mpr hfirst, ih hrest]
    rfl

namespace Session

theorem definitionOf?_of_readSaved (session : Session) (line : String) :
    definitionOf? session.settings.mark line = (readSaved session line).toOption := by
  unfold definitionOf? readSaved
  cases Query.readLine session.settings.mark line with
  | error fault => rfl
  | ok line => cases line <;> rfl

structure Collected (mark : Separator) (definitions : List AliasDef) (session : Session) :
    Prop where
  mark_eq : session.settings.mark = mark
  aliases_eq : session.workspace.environment.aliases = firstOfEachName definitions

variable {definitions : List AliasDef} {session : Session}

theorem collected_start (settings : Settings) (columns : Nat) (initial : Value) :
    Collected settings.mark [] (start settings columns initial) :=
  ⟨rfl, rfl⟩

theorem Collected.mem_names_iff (h : Collected mark definitions session) {name : String} :
    name ∈ session.workspace.environment.names ↔ name ∈ definitions.map (·.name) := by
  rw [Environment.names, h.aliases_eq, mem_names_firstOfEachName]

theorem Collected.taken (h : Collected mark definitions session) {definition : AliasDef}
    (htaken : definition.name ∈ session.workspace.environment.names) :
    Collected mark (definitions ++ [definition]) session := by
  refine ⟨h.mark_eq, ?_⟩
  rw [h.aliases_eq, firstOfEachName_append_taken]
  exact List.forall_mem_singleton.mpr (h.mem_names_iff.mp htaken)

theorem Collected.defined (h : Collected mark definitions session) {definition : AliasDef}
    (hnew : definition.name ∉ session.workspace.environment.names) {environment : Environment}
    (haliases : environment.aliases =
      session.workspace.environment.aliases ++ [definition]) :
    Collected mark (definitions ++ [definition])
      { session with workspace := { session.workspace with environment } } := by
  refine ⟨h.mark_eq, ?_⟩
  rw [firstOfEachName_append_new fun hmem => hnew (h.mem_names_iff.mpr hmem), ← h.aliases_eq]
  exact haliases

theorem Collected.evaluate (h : Collected mark definitions session) (definition : AliasDef) :
    Collected mark (definitions ++ [definition]) (session.evaluate (.aliasDef definition)) := by
  unfold Session.evaluate
  dsimp only [Workspace.evaluateLine]
  by_cases hname : definition.name ∈ session.workspace.environment.names
  · rw [Workspace.define_of_taken session.workspace hname]
    exact h.taken hname
  · obtain ⟨environment, haliases, hdefine⟩ :=
      Workspace.define_of_new (α := String) session.workspace hname
    rw [hdefine]
    exact h.defined hname haliases

theorem Collected.execute (h : Collected mark definitions session) (line : String) :
    Collected mark (definitions ++ (definitionOf? mark line).toList)
      (session.execute line).session := by
  obtain ⟨rfl, _⟩ := id h
  unfold definitionOf?
  cases hread : Query.readLine session.settings.mark line with
  | error fault =>
    simp only [Session.execute, hread, session_fail]
    simpa using h
  | ok node =>
    rw [session_execute hread]
    cases node with
    | aliasDef definition => exact h.evaluate definition
    | pipeline body => simpa using ⟨h.mark_eq, h.aliases_eq⟩

theorem Collected.step (h : Collected mark definitions session) (event : Event) :
    Collected mark (definitions ++ definitionsOf mark event.executed)
      (session.step event).session := by
  rw [step_eq, Event.executed]
  cases event.request with
  | nothing => exact (List.append_nil definitions).symm ▸ h
  | leave => exact (List.append_nil definitions).symm ▸ h
  | execute line =>
    have hline := h.execute line
    rw [definitionsOf_cons, ← List.append_assoc]
    exact (List.append_nil _).symm ▸ hline

/-- A saved line adds the definition that it holds. -/
theorem Collected.next {replay next : Replay} {number : Nat} {line : String}
    (h : Collected mark definitions replay.session) (hnext : replay.Next number line next) :
    Collected mark (definitions ++ (definitionOf? mark line).toList) next.session := by
  obtain ⟨rfl, _⟩ := id h
  rw [definitionOf?_of_readSaved]
  cases hnext with
  | refused hread =>
    rw [hread]
    exact (List.append_nil definitions).symm ▸ h
  | taken hread htaken =>
    rw [hread]
    exact h.taken htaken
  | defined hread hnew haliases =>
    rw [hread]
    exact h.defined hnew haliases
  | broken hread =>
    rw [hread]
    exact (List.append_nil definitions).symm ▸ h

theorem Collected.replayFrom {replay : Replay} (h : Collected mark definitions replay.session)
    {number : Nat} {lines : List String}
    (hopen : (Session.replayFrom replay number lines).broken? = none) :
    Collected mark (definitions ++ definitionsOf mark lines)
      (Session.replayFrom replay number lines).session := by
  -- the definitions grow with the replay
  revert definitions
  fun_induction Session.replayFrom replay number lines with
  | case1 replay number =>
    intro definitions h
    exact (List.append_nil definitions).symm ▸ h
  | case2 replay number line lines hblank ih =>
    intro definitions h
    rw [definitionsOf_cons, definitionOf?_eq_none_of_blank hblank]
    exact ih hopen h
  | case3 replay number line lines hblank next cause hbroken =>
    rw [hbroken] at hopen
    cases hopen
  | case4 replay number line lines hblank next hstill ih =>
    intro definitions h
    rw [definitionsOf_cons, ← List.append_assoc]
    exact ih hopen (h.next (next_replayLine replay number line))

/-- A new session collects the definitions of the saved lines unless one of them ends the replay. -/
theorem collected_replay (settings : Settings) (columns : Nat) (initial : Value)
    {lines : List String} (hopen : ((start settings columns initial).replay lines).broken? = none) :
    Collected settings.mark (definitionsOf settings.mark lines)
      ((start settings columns initial).replay lines).session := by
  obtain ⟨hsession, -, hbroken⟩ := replay_spec (start settings columns initial) lines
  have hfresh : Collected settings.mark []
      ({ session := start settings columns initial } : Replay).session :=
    collected_start settings columns initial
  rw [hbroken] at hopen
  rw [hsession]
  exact hfresh.replayFrom hopen

end Session

end LedgerQuery
