import LedgerQuery.CommandLine.Run
import LedgerQuery.Proofs.Query.Grammar
import LedgerQuery.Proofs.Session.Collecting
import LedgerQuery.Proofs.Session.Saving

/-! # Runs of the program -/

namespace LedgerQuery.CommandLine

/-! ## The course of a run

A session that is opened has collected the definitions of the saved lines, and at the prompt it goes
on to collect those of the lines that it executes. Every file stays as it is until the aliases are
kept, and if the run does not come to that or does not succeed in it, to the end. -/

open Session

namespace Stage

variable {ε α β : Type} {stage : Stage ε α} {following : α → Stage ε β}

theorem result_bind : (stage >>= following).result =
    match stage.result with
    | .error ending => .error ending
    | .ok a => (following a).result := by
  change (stage.next following).result = _
  unfold next
  cases stage.result <;> rfl

theorem bind_of_ok {a : α} (h : stage.result = .ok a) : stage >>= following =
    ⟨stage.written ++ (following a).written, (following a).result⟩ := by
  change stage.next following = _
  unfold next
  rw [h]

theorem bind_of_error {ending : ε} (h : stage.result = .error ending) : stage >>= following =
    ⟨stage.written, .error ending⟩ := by
  change stage.next following = _
  unfold next
  rw [h]

theorem bind_eq_ok_iff {b : β} : (stage >>= following).result = .ok b ↔
    ∃ a, stage.result = .ok a ∧ (following a).result = .ok b := by
  rw [result_bind]
  cases stage.result with
  | error ending =>
    constructor
    · intro h
      cases h
    · rintro ⟨_, he, _⟩
      cases he
  | ok a =>
    constructor
    · intro h
      exact ⟨a, rfl, h⟩
    · rintro ⟨_, he, h⟩
      cases he
      exact h

theorem bind_eq_error_iff {ending : ε} : (stage >>= following).result = .error ending ↔
    stage.result = .error ending ∨
      ∃ a, stage.result = .ok a ∧ (following a).result = .error ending := by
  rw [result_bind]
  cases stage.result with
  | error other =>
    constructor
    · intro h
      cases h
      exact Or.inl rfl
    · rintro (h | ⟨_, he, _⟩)
      · cases h
        rfl
      · cases he
  | ok a =>
    constructor
    · intro h
      exact Or.inr ⟨a, rfl, h⟩
    · rintro (he | ⟨_, he, h⟩)
      · cases he
      · cases he
        exact h

end Stage

namespace Plan

variable {plan : Plan} {database aliases : Except FileFault Content}

theorem loadTransactions_ne_exit {ending : Ending}
    (h : (plan.loadTransactions database).result = .error ending) : ending ≠ .exit 0 := by
  unfold loadTransactions at h
  split at h
  · cases h
  · cases h
    exact nofun
  · cases h
    exact nofun

theorem loadAliases_ne_error (ending : Ending) :
    (plan.loadAliases aliases).result ≠ .error ending := by
  unfold loadAliases
  split <;> exact nofun

theorem loadAliases_of_load {saved : List String} {log : List Log.Record}
    (h : AliasFile.load plan.aliases aliases = .ok (saved, log)) :
    (plan.loadAliases aliases).result = .ok (some saved) := by
  unfold loadAliases
  rw [h]
  rfl

theorem open_ne_exit {ending : Ending} (h : (plan.open database aliases).result = .error ending) :
    ending ≠ .exit 0 := by
  rcases Stage.bind_eq_error_iff.mp h with h | ⟨transactions, -, h⟩
  · exact loadTransactions_ne_exit h
  · rcases Stage.bind_eq_error_iff.mp h with h | ⟨saved?, -, h⟩
    · exact absurd h (loadAliases_ne_error ending)
    · obtain ⟨_, -, h⟩ := (Stage.bind_eq_error_iff.mp h).resolve_left nofun
      split at h
      · cases h
        exact nofun
      · cases h

/-- A session that is opened has collected what was saved, and its aliases will be kept. -/
theorem open_collected {opened : Opened} {saved : List String} {log : List Log.Record}
    (h : (plan.open database aliases).result = .ok opened)
    (hload : AliasFile.load plan.aliases aliases = .ok (saved, log)) :
    opened.plan = plan ∧ opened.keepsAliases = true ∧
      Collected plan.settings.mark (definitionsOf plan.settings.mark saved) opened.session := by
  obtain ⟨transactions, -, h⟩ := Stage.bind_eq_ok_iff.mp h
  obtain ⟨saved?, hsaved, h⟩ := Stage.bind_eq_ok_iff.mp h
  obtain ⟨_, -, h⟩ := Stage.bind_eq_ok_iff.mp h
  rw [loadAliases_of_load hload] at hsaved
  cases hsaved
  split at h
  · cases h
  · rename_i hopen
    cases h
    exact ⟨rfl, rfl, collected_replay plan.settings columns _ hopen⟩

end Plan

def promptEvents (happenings : List Happening) : List Event :=
  happenings.filterMap fun
    | .prompt event => some event
    | .directory _ => none

theorem promptEvents_prompt (event : Event) (others : List Happening) :
    promptEvents (.prompt event :: others) = event :: promptEvents others :=
  rfl

namespace Opened

variable {opened : Opened} {attended : Attended} {happening : Happening}

theorem keptIn_attendOne (opened : Opened) (attended : Attended) (happening : Happening) :
    attended.files.KeptIn (opened.attendOne attended happening).files := by
  cases happening with
  | prompt event => exact .refl attended.files
  | directory path => exact FileSystem.keptIn_ensureDirectories attended.files path

theorem keptIn_attend (opened : Opened) (attended : Attended) (happenings : List Happening) :
    attended.files.KeptIn (opened.attend attended happenings).files := by
  fun_induction opened.attend attended happenings with
  | case1 attended => exact .refl attended.files
  | case2 attended happening others next hrunning ih =>
    exact (keptIn_attendOne opened attended happening).trans ih
  | case3 attended happening others next hstopped =>
    exact keptIn_attendOne opened attended happening

/-- A session that does not break has collected the definitions of all lines that it executed. -/
theorem collected_attend {mark : Separator} {definitions : List AliasDef}
    (h : Collected mark definitions attended.session) (hrunning : attended.status = .running)
    {happenings : List Happening}
    (hwhole : ∀ cause, (opened.attend attended happenings).status ≠ .broken cause) :
    Collected mark (definitions ++ definitionsOf mark (executed (promptEvents happenings)))
      (opened.attend attended happenings).session := by
  revert definitions
  fun_induction opened.attend attended happenings with
  | case1 attended =>
    intro definitions h
    exact (List.append_nil definitions).symm ▸ h
  | case2 attended happening others next hnext ih =>
    intro definitions h
    cases happening with
    | directory path => exact ih hnext hwhole h
    | prompt event =>
      rw [promptEvents_prompt, executed_cons_of_running hnext, definitionsOf_append,
        ← List.append_assoc]
      exact ih hnext hwhole (h.step event)
  | case3 attended happening others next hstopped =>
    intro definitions h
    cases happening with
    | directory path => exact absurd hrunning hstopped
    | prompt event =>
      cases hstatus : (attended.session.step event).status with
      | running => exact absurd hstatus hstopped
      | broken cause => exact absurd hstatus (hwhole cause)
      | ended =>
        rw [promptEvents_prompt, executed_cons_of_ended hstatus]
        exact h.step event

theorem read_close {session : Session} {files : FileSystem} (hkeeps : opened.keepsAliases = true)
    (h : (opened.close session files).ending = .exit 0) :
    (opened.close session files).files.read opened.plan.aliases =
      .ok (.text (AliasFile.textOfLines session.savedLines)) := by
  unfold close at h ⊢
  rw [if_pos hkeeps] at h ⊢
  split at h
  · rename_i hsave
    exact AliasFile.read_of_save hsave
  · cases h

theorem keptIn_close {session : Session} {files : FileSystem}
    (h : (opened.close session files).ending ≠ .exit 0) :
    files.KeptIn (opened.close session files).files := by
  unfold close at h ⊢
  split
  · rename_i hkeeps
    rw [if_pos hkeeps] at h
    split
    · rename_i hsave
      rw [hsave] at h
      exact absurd rfl h
    · rename_i hsave
      exact AliasFile.keptIn_of_save hsave
  · exact .refl files

end Opened

end LedgerQuery.CommandLine

namespace LedgerQuery

/-! ## What a run leaves in the alias file

A run that ends well keeps the first definition of each name, of the saved lines before those that
were typed, each with the line that it was read from. These lines are loaded again as they are; so a
run that defines nothing new leaves the file alone once a run has written it. -/

theorem isLine_raw_of_mem {mark : Separator} {lines : List String} {definition : AliasDef}
    (hsingle : ∀ line ∈ lines, Text.IsLine line.toList)
    (h : definition ∈ definitionsOf mark lines) : Text.IsLine definition.raw.toList := by
  obtain ⟨line, hmem, hline⟩ := List.mem_filterMap.mp h
  obtain ⟨gap, htext⟩ := Query.exists_raw_append (definitionOf?_eq_some_iff.mp hline)
  intro c hc
  exact hsingle line hmem c (htext ▸ List.mem_append_left gap hc)

theorem load_kept (mark : Separator) (path : Path) {lines : List String}
    (hsingle : ∀ line ∈ lines, Text.IsLine line.toList) :
    let kept := firstOfEachName (definitionsOf mark lines)
    AliasFile.load path (.ok (.text (AliasFile.textOfLines (kept.map (·.raw))))) =
        .ok (kept.map (·.raw), []) ∧
      definitionsOf mark (kept.map (·.raw)) = kept := by
  intro kept
  have hread : ∀ definition ∈ kept,
      Query.readLine mark definition.raw = .ok (.aliasDef definition) := by
    intro definition hmem
    exact readLine_raw_of_mem (mem_of_mem_firstOfEachName hmem)
  refine ⟨AliasFile.load_textOfLines path ?_ ?_, definitionsOf_raws hread⟩
  · intro line hmem
    obtain ⟨definition, hdefinition, rfl⟩ := List.mem_map.mp hmem
    exact Query.not_isGap_raw (hread definition hdefinition)
  · intro line hmem
    obtain ⟨definition, hdefinition, rfl⟩ := List.mem_map.mp hmem
    exact isLine_raw_of_mem hsingle (mem_of_mem_firstOfEachName hdefinition)

namespace CommandLine
open Session

variable {arguments : List String} {given : Settings.Variables} {files : FileSystem}
  {happenings : List Happening} {plan : Plan}

/-- A run that does not end well has changed no file. -/
theorem keptIn_run (h : (run arguments given files happenings).ending ≠ .exit 0) :
    files.KeptIn (run arguments given files happenings).files := by
  unfold run runReading Opened.run at h ⊢
  dsimp only at h ⊢
  split
  · exact .refl files
  · rename_i opened hopened
    rw [hopened] at h
    dsimp only at h
    have hattended := opened.keptIn_attend { session := opened.session, files } happenings
    split
    · exact hattended
    · rename_i hwhole
      split at h
      · rename_i hbroken
        exact absurd hbroken (hwhole _)
      · exact hattended.trans (Opened.keptIn_close h)

/-- A run that ends well leaves the first definition of each name in the alias file. -/
theorem read_run {saved : List String} {log : List Log.Record}
    (hplan : (CommandLine.plan arguments given (variablesFile? files)).result = .ok plan)
    (hload : AliasFile.load plan.aliases (files.read plan.aliases) = .ok (saved, log))
    (hexit : (run arguments given files happenings).ending = .exit 0) :
    (run arguments given files happenings).files.read plan.aliases =
      .ok (.text (AliasFile.textOfLines ((firstOfEachName
        (definitionsOf plan.settings.mark saved ++
          definitionsOf plan.settings.mark (executed (promptEvents happenings)))).map
        (·.raw)))) := by
  unfold run runReading at hexit ⊢
  dsimp only at hexit ⊢
  split at hexit
  · -- the run ends before the first prompt
    rename_i ending herror
    rcases Stage.bind_eq_error_iff.mp herror with h | ⟨_, hsame, h⟩
    · rw [hplan] at h
      cases h
    · rw [hplan] at hsame
      cases hsame
      exact absurd hexit (Plan.open_ne_exit h)
  · rename_i opened hopened
    obtain ⟨_, hsame, h⟩ := Stage.bind_eq_ok_iff.mp hopened
    rw [hplan] at hsame
    cases hsame
    obtain ⟨rfl, hkeeps, hcollected⟩ := Plan.open_collected h hload
    unfold Opened.run at hexit ⊢
    dsimp only at hexit ⊢
    split at hexit
    · cases hexit
    · rename_i hwhole
      have hstart : Collected opened.plan.settings.mark
          (definitionsOf opened.plan.settings.mark saved)
          ({ session := opened.session, files } : Attended).session := hcollected
      have hattended := Opened.collected_attend hstart rfl hwhole
      rw [Opened.read_close hkeeps hexit, savedLines, Environment.saved, List.map_map,
        ← hattended.aliases_eq]
      rfl

/-- A run that ends well leaves in the alias file, with its line, the first definition of each name,
the saved ones in front of those that were typed. If none of those that were typed was new, then no
run with these settings that defines nothing new changes what the file holds. -/
theorem alias_file_of_run {saved : List String} {log : List Log.Record}
    (hplan : (CommandLine.plan arguments given (variablesFile? files)).result = .ok plan)
    (hload : AliasFile.load plan.aliases (files.read plan.aliases) = .ok (saved, log))
    (hexit : (run arguments given files happenings).ending = .exit 0) :
    let mark := plan.settings.mark
    let typed := definitionsOf mark (executed (promptEvents happenings))
    let kept := firstOfEachName (definitionsOf mark saved ++ typed)
    let left := (run arguments given files happenings).files
    left.read plan.aliases = .ok (.text (AliasFile.textOfLines (kept.map (·.raw)))) ∧
      ((∀ definition ∈ typed, definition.name ∈ (definitionsOf mark saved).map (·.name)) →
        ∀ (arguments' : List String) (given' : Settings.Variables)
          (happenings' : List Happening) (plan' : Plan),
          (CommandLine.plan arguments' given' (variablesFile? left)).result = .ok plan' →
          plan'.settings = plan.settings → plan'.aliases = plan.aliases →
          (∀ definition ∈ definitionsOf mark (executed (promptEvents happenings')),
            definition.name ∈ kept.map (·.name)) →
          (run arguments' given' left happenings').files.read plan.aliases =
            left.read plan.aliases) := by
  intro mark typed kept left
  have hleft : left.read plan.aliases = .ok (.text (AliasFile.textOfLines (kept.map (·.raw)))) :=
    read_run hplan hload hexit
  refine ⟨hleft, ?_⟩
  intro htyped arguments' given' happenings' plan' hplan' hsettings haliases htyped'
  by_cases hexit' : (run arguments' given' left happenings').ending = .exit 0
  · have hkept : kept = firstOfEachName (definitionsOf mark saved) :=
      firstOfEachName_append_taken htyped
    obtain ⟨hload', hagain⟩ := load_kept mark plan'.aliases
      (AliasFile.isLine_of_load hload)
    rw [← hkept] at hload' hagain
    rw [← hleft, ← haliases] at hload'
    have hafter := read_run hplan' hload' hexit'
    rw [hsettings, haliases, hagain, firstOfEachName_append_taken htyped',
      firstOfEachName_of_nodup (nodup_names_firstOfEachName _)] at hafter
    rw [hafter, hleft]
  · rw [hleft]
    exact keptIn_run hexit' _ _ hleft

/-- A file with an empty line, a line that defines nothing and a second definition of one name; then
a run that only repeats a name. -/
theorem alias_file_of_run_cleaned :
    let aliases := Path.ofString "envrc"
    let files : FileSystem := ⟨[(["t.db"], .file (.text "{}".toList)),
      (["envrc"], .file (.text "\nA: sum\nnope\nA: count\nB: A » count".toList))]⟩
    let arguments := ["repl", "--db", "t.db", "--env-file", "envrc"]
    let first := run arguments [] files
      [.prompt (.line "A: avg"), .prompt .interrupt, .prompt (.line "q")]
    let second := run arguments [] first.files
      [.prompt (.line "B: avg"), .directory (.ofString "data"), .prompt .endOfInput]
    first.ending = .exit 0 ∧
      first.files.read aliases = .ok (.text "A: sum\nB: A » count\n".toList) ∧
      second.files.read aliases = first.files.read aliases := by
  intro aliases files arguments first second
  have hexit : first.ending = .exit 0 := by decide +kernel
  obtain ⟨plan, hplan⟩ : ∃ plan,
      (CommandLine.plan arguments [] (variablesFile? files)).result = .ok plan :=
    Query.exists_ok_of_toBool (by decide +kernel)
  have hpath : plan.aliases = aliases := by
    have h : (CommandLine.plan arguments [] (variablesFile? files)).result.map Plan.aliases =
        .ok aliases := by
      decide +kernel
    rw [hplan] at h
    exact Except.ok.inj h
  have hmark : plan.settings.mark = Settings.standard.mark := by
    have h : (CommandLine.plan arguments [] (variablesFile? files)).result.map
        (·.settings.mark) = .ok Settings.standard.mark := by
      decide +kernel
    rw [hplan] at h
    exact Except.ok.inj h
  have hload : AliasFile.load plan.aliases (files.read plan.aliases) =
      .ok (["A: sum", "nope", "A: count", "B: A » count"], []) := by
    rw [hpath]
    decide +kernel
  have hplan' : (CommandLine.plan arguments [] (variablesFile? first.files)).result =
      .ok plan := by
    have hsame : variablesFile? first.files = variablesFile? files := by decide +kernel
    rw [hsame]
    exact hplan
  obtain ⟨hread, hagain⟩ := alias_file_of_run hplan hload hexit
  rw [hmark, hpath] at hread hagain
  refine ⟨hexit, hread.trans ?_, hagain ?_ arguments [] _ plan hplan' rfl hpath ?_⟩
  · decide +kernel
  · decide +kernel
  · decide +kernel

end CommandLine

end LedgerQuery
