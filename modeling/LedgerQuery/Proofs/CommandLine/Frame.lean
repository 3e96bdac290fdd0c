import LedgerQuery.Proofs.CommandLine.Run
import LedgerQuery.Proofs.Database.Records

/-! # What a run says and writes -/

namespace LedgerQuery.CommandLine

/-! ## What a run says of a database that it cannot load

What is refused in words is told on standard error, and the run exits with 1; with anything else
that is wrong the run breaks off. No file is changed either way. -/

section Loading

theorem Streams.append_nothing (written : Streams) : written ++ {} = written := by
  change Streams.append written {} = written
  simp [Streams.append]

def unloaded : Database.Failure → Streams × Ending
  | .refused fault => ({ err := "Error: " ++ fault.message ++ "\n" }, .exit 1)
  | failure => ({}, .crash (.database failure))

variable {arguments : List String} {given : Settings.Variables} {file : Option Content}
  {reading : Path → Except FileFault Content} {files : FileSystem} {happenings : List Happening}
  {plan : Plan} {failure : Database.Failure}

theorem unloaded_of_ne (h : ∀ fault, failure ≠ .refused fault) :
    unloaded failure = ({}, .crash (.database failure)) := by
  cases failure with
  | refused fault => exact absurd rfl (h fault)
  | unreadable fault => rfl
  | numberTooLong digitCount => rfl

theorem loadTransactions_unloaded {content : Except FileFault Content}
    (h : Database.load plan.database content = .error failure) :
    plan.loadTransactions content = ⟨(unloaded failure).1, .error (unloaded failure).2⟩ := by
  unfold Plan.loadTransactions
  rw [h]
  cases failure <;> rfl

/-- A run whose database is not loaded ends before its first prompt. -/
theorem run_unloaded (hplan : (CommandLine.plan arguments given file).result = .ok plan)
    (h : Database.load plan.database (reading plan.database) = .error failure) :
    runReading file reading arguments given files happenings =
      ⟨(CommandLine.plan arguments given file).written ++ (unloaded failure).1,
        (unloaded failure).2, files⟩ := by
  have hopen : plan.open (reading plan.database) (reading plan.aliases) =
      ⟨(unloaded failure).1, .error (unloaded failure).2⟩ := by
    unfold Plan.open
    rw [loadTransactions_unloaded h]
    exact Stage.bind_of_error rfl
  unfold runReading openWith
  rw [Stage.bind_of_ok hplan, hopen]

/-- Whatever is read at any path, loading it comes to one of seven ends. Of those that are no list
of transactions, the ones that are refused in words are told on standard error and the run exits
with 1; the others are not told, and the run breaks off. -/
theorem loading_outcome (reading : Path → Except FileFault Content) (files : FileSystem)
    (happenings : List Happening)
    (hplan : (CommandLine.plan arguments given file).result = .ok plan) :
    let before := (CommandLine.plan arguments given file).written
    let loaded := Database.load plan.database (reading plan.database)
    let outcome := runReading file reading arguments given files happenings
    (∀ path content, Database.Verdict path content (Database.load path content)) ∧
      (∀ fault, loaded = .error (.refused fault) → outcome =
        ⟨before ++ { err := "Error: " ++ fault.message ++ "\n" }, .exit 1, files⟩) ∧
      ∀ failure, loaded = .error failure → (∀ fault, failure ≠ .refused fault) →
        outcome = ⟨before, .crash (.database failure), files⟩ := by
  intro before loaded outcome
  refine ⟨Database.verdict_load, ?_, ?_⟩
  · intro fault hloaded
    exact run_unloaded hplan hloaded
  · intro failure hloaded hother
    have hrun : outcome = _ := run_unloaded hplan hloaded
    rw [hrun, unloaded_of_ne hother, Streams.append_nothing]

/-- A list where accounts should be. -/
theorem loading_outcome_list :
    let files : FileSystem := ⟨[(["t.db"], .file (.text "[3]".toList))]⟩
    let arguments := ["repl", "--db", "t.db", "--env-file", "envrc"]
    Database.Verdict (.ofString "t.db") (files.read (.ofString "t.db"))
        (.error (.refused (.invalidRecords (.ofString "t.db") [⟨[], .dictionaryExpected⟩]))) ∧
      run arguments [] files [.prompt (.line "A: sum")] =
        ⟨{ err := "Error: invalid transaction record in t.db\n" }, .exit 1, files⟩ := by
  intro files arguments
  have hplanned : (CommandLine.plan arguments [] (variablesFile? files)).result.map
      Plan.database = .ok (.ofString "t.db") := by
    decide +kernel
  obtain ⟨plan, hplan, hpath⟩ := Query.eq_ok_of_map_eq_ok hplanned
  have hbefore : (CommandLine.plan arguments [] (variablesFile? files)).written = {} := by
    decide +kernel
  have hload : Database.load (.ofString "t.db") (files.read (.ofString "t.db")) =
      .error (.refused (.invalidRecords (.ofString "t.db") [⟨[], .dictionaryExpected⟩])) :=
    rfl
  obtain ⟨hverdict, htold, -⟩ :=
    loading_outcome files.read files [.prompt (.line "A: sum")] hplan
  have hrun :=
    htold (.invalidRecords (.ofString "t.db") [⟨[], .dictionaryExpected⟩]) (hpath ▸ hload)
  rw [hbefore] at hrun
  exact ⟨hload ▸ hverdict (.ofString "t.db") _, hrun⟩

/-- A directory, octets that are no text, and a number of 4301 digits: none of them is told. -/
theorem loading_untold :
    let path := Path.ofString "t.db"
    let files : FileSystem := ⟨[(["t.db"], .directory)]⟩
    let fault : Database.Failure := .unreadable (.file ⟨.isDirectory, path⟩)
    Database.load path (files.read path) = .error fault ∧
      (run ["repl", "--db", "t.db", "--env-file", "envrc"] [] files []).written = {} ∧
      (run ["repl", "--db", "t.db", "--env-file", "envrc"] [] files []).ending =
        .crash (.database fault) ∧
      Database.load path (.ok (.ofOctets [0xFF])) =
        .error (.unreadable (.undecodable ⟨0xFF, 0, 1, .invalidStart⟩)) ∧
      Database.load path (.ok (.text (List.replicate 4301 '1'))) =
        .error (.numberTooLong 4301) := by
  have hoctets : Content.ofOctets [0xFF] = .undecodable [0xFF] ⟨0xFF, 0, 1, .invalidStart⟩ := by
    decide +kernel
  refine ⟨rfl, by decide +kernel, by decide +kernel, by rw [hoctets]; rfl, ?_⟩
  have hdigits : ∀ c ∈ List.replicate 4301 '1', Text.isAsciiDigit c = true := by
    intro c hmem
    rw [List.eq_of_mem_replicate hmem]
    rfl
  have hzero : (List.replicate 4301 '1').head? ≠ some '0' := by
    rw [List.head?_replicate]
    decide
  have hlong : Decimal.digitLimit < (List.replicate 4301 '1').length := by
    rw [List.length_replicate]
    decide
  have hload := Database.load_digits (.ofString "t.db") hdigits hzero hlong
  rwa [List.length_replicate] at hload

end Loading

/-! ## What a run leaves alone

Of all files it writes the alias file only, and of all directories it makes those that lead there;
it writes nothing at all unless its settings are valid, its database was loaded and the alias file
was read or was not there, whatever goes on in the session. -/

/-- The files with the directories that something else has made meanwhile. -/
def meanwhile (files : FileSystem) : List Happening → FileSystem
  | [] => files
  | .directory path :: others => meanwhile (files.ensureDirectories path).1 others
  | .prompt _ :: others => meanwhile files others

theorem meanwhile_of_prompts (files : FileSystem) {happenings : List Happening}
    (h : ∀ path, .directory path ∉ happenings) : meanwhile files happenings = files := by
  induction happenings with
  | nil => rfl
  | cons happening others ih =>
    have hothers : ∀ path, .directory path ∉ others :=
      fun path hmem => h path (List.mem_cons_of_mem happening hmem)
    cases happening with
    | directory path => exact absurd List.mem_cons_self (h path)
    | prompt event => exact ih hothers

variable {arguments : List String} {given : Settings.Variables} {files : FileSystem}
  {happenings : List Happening} {plan : Plan} {opened : Opened}

theorem files_attendOne (opened : Opened) (attended : Attended) (happening : Happening) :
    (opened.attendOne attended happening).files = meanwhile attended.files [happening] := by
  cases happening <;> rfl

theorem meanwhile_cons (files : FileSystem) (happening : Happening) (others : List Happening) :
    meanwhile files (happening :: others) = meanwhile (meanwhile files [happening]) others := by
  cases happening <;> rfl

theorem files_attend (opened : Opened) (attended : Attended) (happenings : List Happening) :
    ∃ came, came <+: happenings ∧
      (opened.attend attended happenings).files = meanwhile attended.files came := by
  fun_induction opened.attend attended happenings with
  | case1 attended => exact ⟨[], List.prefix_refl [], rfl⟩
  | case2 attended happening others next hrunning ih =>
    obtain ⟨came, hcame, hfiles⟩ := ih
    refine ⟨happening :: came, List.cons_prefix_cons.mpr ⟨rfl, hcame⟩, ?_⟩
    rw [hfiles, meanwhile_cons, ← files_attendOne opened attended happening]
  | case3 attended happening others next hstopped =>
    refine ⟨[happening], List.cons_prefix_cons.mpr ⟨rfl, List.nil_prefix⟩, ?_⟩
    exact files_attendOne opened attended happening

theorem Plan.load_of_loadTransactions {content : Except FileFault Content}
    {transactions : List Transaction}
    (h : (plan.loadTransactions content).result = .ok transactions) :
    ∃ loaded, Database.load plan.database content = .ok loaded := by
  unfold loadTransactions at h
  split at h
  · rename_i hload
    exact ⟨_, hload⟩
  · cases h
  · cases h

theorem Plan.load_of_loadAliases {content : Except FileFault Content} {saved : List String}
    (h : (plan.loadAliases content).result = .ok (some saved)) :
    ∃ loaded, AliasFile.load plan.aliases content = .ok loaded := by
  unfold loadAliases at h
  split at h
  · rename_i hload
    exact ⟨_, hload⟩
  · cases h

/-- A session is opened over a database that was loaded, and its aliases are kept only if the alias
file was read. -/
theorem Plan.open_spec {database aliases : Except FileFault Content}
    (h : (plan.open database aliases).result = .ok opened) :
    opened.plan = plan ∧ (∃ loaded, Database.load plan.database database = .ok loaded) ∧
      (opened.keepsAliases = true →
        ∃ loaded, AliasFile.load plan.aliases aliases = .ok loaded) := by
  obtain ⟨transactions, hdatabase, h⟩ := Stage.bind_eq_ok_iff.mp h
  obtain ⟨saved?, haliases, h⟩ := Stage.bind_eq_ok_iff.mp h
  obtain ⟨_, -, h⟩ := Stage.bind_eq_ok_iff.mp h
  split at h
  · cases h
  · cases h
    refine ⟨rfl, load_of_loadTransactions hdatabase, fun hkeeps => ?_⟩
    cases saved? with
    | none => cases hkeeps
    | some saved => exact load_of_loadAliases haliases

theorem files_close (opened : Opened) (session : Session) (files : FileSystem) :
    (∀ place, AliasFile.Becomes files (opened.close session files).files opened.plan.aliases
      place) ∧
      (opened.keepsAliases = false → (opened.close session files).files = files) := by
  unfold Opened.close
  split
  · rename_i hkeeps
    have hsave := AliasFile.becomes_save files opened.plan.aliases session.savedLines
    refine ⟨fun place => ?_, fun hnot => absurd hkeeps (by simp [hnot])⟩
    have hplace := hsave place
    split <;> rename_i hsaved <;> rwa [hsaved] at hplace
  · exact ⟨fun _ => .same rfl, fun _ => rfl⟩

/-- A session leaves the files as they came to be, but for the alias file and its directories. -/
theorem files_run (opened : Opened) (files : FileSystem) (happenings : List Happening) :
    ∃ came, came <+: happenings ∧
      (∀ place, AliasFile.Becomes (meanwhile files came) (opened.run files happenings).files
        opened.plan.aliases place) ∧
      (opened.keepsAliases = false →
        (opened.run files happenings).files = meanwhile files came) := by
  obtain ⟨came, hcame, hfiles⟩ :=
    files_attend opened { session := opened.session, files } happenings
  refine ⟨came, hcame, ?_⟩
  unfold Opened.run
  rw [← hfiles]
  dsimp only
  split
  · exact ⟨fun _ => .same rfl, fun _ => rfl⟩
  · exact files_close opened _ _

theorem plan_of_fault {known : Settings.Variables} {file : Option Content} {fault : SettingsFault}
    (hknown : (loadVariables given file).result = .ok known)
    (hfault : Settings.load known = .error fault) :
    (CommandLine.plan arguments given file).result ≠ .ok plan := by
  intro hplan
  obtain ⟨_, -, hplan⟩ := Stage.bind_eq_ok_iff.mp hplan
  obtain ⟨found, hfound, hplan⟩ := Stage.bind_eq_ok_iff.mp hplan
  obtain rfl : known = found := Except.ok.inj (hknown.symm.trans hfound)
  obtain ⟨_, -, hplan⟩ := Stage.bind_eq_ok_iff.mp hplan
  split at hplan
  · cases hplan
  · obtain ⟨_, -, hplan⟩ := Stage.bind_eq_ok_iff.mp hplan
    rw [hfault] at hplan
    cases hplan

/-- A run that is not opened leaves the files; one that is leaves what its session leaves. -/
theorem files_runReading (file : Option Content) (reading : Path → Except FileFault Content)
    (arguments : List String) (given : Settings.Variables) (files : FileSystem)
    (happenings : List Happening) :
    (runReading file reading arguments given files happenings).files = files ∨
      ∃ plan opened, (CommandLine.plan arguments given file).result = .ok plan ∧
        (plan.open (reading plan.database) (reading plan.aliases)).result = .ok opened ∧
        (runReading file reading arguments given files happenings).files =
          (opened.run files happenings).files := by
  unfold runReading
  dsimp only
  split
  · exact .inl rfl
  · rename_i opened hopened
    obtain ⟨plan, hplan, hopen⟩ := Stage.bind_eq_ok_iff.mp hopened
    exact .inr ⟨plan, opened, hplan, hopen, rfl⟩

/-- A run changes no file but the alias file, and makes no directory but those that lead there. It
leaves all files as they came to be if nothing could be planned, in particular not with settings
that are not valid, if the database was not loaded, or if the alias file could not be read, whatever
went on in the session. -/
theorem files_touched (file : Option Content) (reading : Path → Except FileFault Content)
    (arguments : List String) (given : Settings.Variables) (files : FileSystem)
    (happenings : List Happening) :
    let planned := (CommandLine.plan arguments given file).result
    let left := (runReading file reading arguments given files happenings).files
    (∀ ending, planned = .error ending → left = files) ∧
      (∀ known fault, (loadVariables given file).result = .ok known →
        Settings.load known = .error fault → left = files) ∧
      ∀ plan, planned = .ok plan →
        (∀ failure, Database.load plan.database (reading plan.database) = .error failure →
          left = files) ∧
        ∃ came, came <+: happenings ∧
          ((∀ path, .directory path ∉ happenings) → meanwhile files came = files) ∧
          (∀ place, AliasFile.Becomes (meanwhile files came) left plan.aliases place) ∧
          ∀ fault, AliasFile.load plan.aliases (reading plan.aliases) = .error fault →
            left = meanwhile files came := by
  intro planned left
  rcases files_runReading file reading arguments given files happenings with
    hsame | ⟨planned?, opened, hplan, hopen, hleft⟩
  · -- the run ends before its first prompt
    refine ⟨fun _ _ => hsame, fun _ _ _ _ => hsame, fun plan _ => ⟨fun _ _ => hsame, [],
      List.nil_prefix, fun _ => rfl, fun place => .same ?_, fun _ _ => hsame⟩⟩
    exact congrArg (·.node? place) hsame
  · refine ⟨?_, ?_, ?_⟩
    · intro ending herror
      cases hplan.symm.trans herror
    · intro known fault hknown hfault
      exact absurd hplan (plan_of_fault hknown hfault)
    · intro plan hok
      obtain rfl : planned? = plan := Except.ok.inj (hplan.symm.trans hok)
      obtain ⟨rfl, ⟨loaded, hloaded⟩, hkeeps⟩ := Plan.open_spec hopen
      obtain ⟨came, hcame, hbecomes, hkept⟩ := files_run opened files happenings
      rw [← hleft] at hbecomes hkept
      refine ⟨?_, came, hcame, ?_, hbecomes, ?_⟩
      · intro failure hfailure
        cases hloaded.symm.trans hfailure
      · intro hprompts
        exact meanwhile_of_prompts files fun path hmem => hprompts path (hcame.subset hmem)
      · intro fault hfault
        refine hkept (Bool.eq_false_iff.mpr fun hkept => ?_)
        obtain ⟨found, hfound⟩ := hkeeps hkept
        cases hfound.symm.trans hfault

/-- An alias file that may be written but not read is not written. -/
theorem files_touched_denied :
    let aliases := Path.ofString "envrc"
    let files : FileSystem := ⟨[(["t.db"], .file (.text "{}".toList)),
      (["envrc"], .file (.text "A: sum\n".toList))]⟩
    let reading : Path → Except FileFault Content := fun path =>
      if path = aliases then .error ⟨.denied, path⟩ else files.read path
    let outcome := runReading none reading ["repl", "--db", "t.db", "--env-file", "envrc"] [] files
      [.prompt (.line "B: count"), .prompt .interrupt, .prompt .endOfInput]
    outcome.ending = .exit 0 ∧
      outcome.written.out = "Defined B\n" ∧
      outcome.files = files := by
  intro aliases files reading outcome
  have hplanned : (CommandLine.plan ["repl", "--db", "t.db", "--env-file", "envrc"] []
      none).result.map Plan.aliases = .ok aliases := by
    decide +kernel
  obtain ⟨plan, hplan, hpath⟩ := Query.eq_ok_of_map_eq_ok hplanned
  have hload : AliasFile.load plan.aliases (reading plan.aliases) =
      .error (.aliasesUnreadable plan.aliases (.file ⟨.denied, plan.aliases⟩)) := by
    rw [hpath]
    rfl
  obtain ⟨-, -, hleft⟩ := files_touched none reading
    ["repl", "--db", "t.db", "--env-file", "envrc"] [] files
    [.prompt (.line "B: count"), .prompt .interrupt, .prompt .endOfInput]
  obtain ⟨-, came, -, hprompts, -, hdenied⟩ := hleft plan hplan
  exact ⟨by decide +kernel, by decide +kernel, (hdenied _ hload).trans (hprompts (by simp))⟩

end LedgerQuery.CommandLine
