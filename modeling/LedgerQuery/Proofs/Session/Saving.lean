import LedgerQuery.AliasFile
import LedgerQuery.Proofs.Files.FileSystem
import LedgerQuery.Proofs.Query.Line
import LedgerQuery.Proofs.Session.Replay
import LedgerQuery.Proofs.Text.Search
import Mathlib.Data.List.Basic

/-! # Saving and restoring -/

namespace LedgerQuery

/-! ## Sessions restored from their saved lines

Every alias of a session keeps a line that is read as its definition, and no two have the same name;
so replaying these lines defines the same aliases in the same order, with nothing to warn of, and
leaves the register alone. -/

def Environment.Rereadable (mark : Separator) (environment : Environment) : Prop :=
  ∀ definition ∈ environment.aliases,
    Query.readLine mark definition.raw = .ok (.aliasDef definition)

namespace Session

/-- A session with this mark whose aliases can all be read again. -/
structure Restorable (mark : Separator) (session : Session) : Prop where
  mark_eq : session.settings.mark = mark
  rereadable : session.workspace.environment.Rereadable mark

theorem keeps_restorable (mark : Separator) : Keeps (Restorable mark) := by
  rintro session text line ⟨rfl, hraw⟩ hread
  constructor
  · rfl
  · intro definition hmem
    rcases Workspace.mem_aliases_evaluateLine hmem with hmem | rfl
    · exact hraw definition hmem
    · exact Query.readLine_raw hread

theorem restorable_start (settings : Settings) (columns : Nat) (initial : Value) :
    Restorable settings.mark (start settings columns initial) :=
  ⟨rfl, fun _ hmem => absurd hmem List.not_mem_nil⟩

theorem Replay.defining_nil (replay : Replay) :
    replay.defining [] replay.session.workspace.environment = replay := by
  simp [Replay.defining]

theorem Replay.defining_defining (replay : Replay) (first second : List AliasDef)
    (environment final : Environment) :
    (replay.defining first environment).defining second final =
      replay.defining (first ++ second) final := by
  simp [Replay.defining, Nat.add_assoc]

theorem replayLine_raw {replay : Replay} {definition : AliasDef}
    (hread : Query.readLine replay.session.settings.mark definition.raw =
      .ok (.aliasDef definition))
    (hnew : definition.name ∉ replay.session.workspace.environment.names) (number : Nat) :
    ∃ environment : Environment,
      environment.aliases = replay.session.workspace.environment.aliases ++ [definition] ∧
      replayLine replay number definition.raw = replay.defining [definition] environment := by
  obtain ⟨environment, haliases, hdefine⟩ :=
    Workspace.define_of_new (α := String) replay.session.workspace hnew
  refine ⟨environment, haliases, ?_⟩
  simp only [replayLine, readSaved_eq_ok_iff.mpr hread, hdefine]
  rfl

/-- The lines of definitions are replayed as these if their names are new and all different. -/
theorem replayFrom_raws {definitions : List AliasDef} (replay : Replay)
    (hopen : replay.broken? = none)
    (hread : ∀ definition ∈ definitions,
      Query.readLine replay.session.settings.mark definition.raw = .ok (.aliasDef definition))
    {final : Environment}
    (hfinal : final.aliases = replay.session.workspace.environment.aliases ++ definitions)
    (number : Nat) :
    replayFrom replay number (definitions.map (·.raw)) = replay.defining definitions final := by
  -- the names before and those to come are apart, since all of them are names in `final`
  induction definitions generalizing replay number with
  | nil =>
    have hsame : final = replay.session.workspace.environment :=
      Environment.eq_of_aliases (by rw [hfinal, List.append_nil])
    rw [hsame, Replay.defining_nil, List.map_nil, replayFrom]
  | cons definition definitions ih =>
    obtain ⟨hfirst, hrest⟩ := List.forall_mem_cons.mp hread
    have hblank : ¬ Text.isAllBlank definition.raw.toList = true := by
      rw [Text.isAllBlank, List.all_eq_true]
      exact Query.not_isGap_raw hfirst
    have hnew : definition.name ∉ replay.session.workspace.environment.names := by
      have hnodup := final.names_nodup
      rw [hfinal, List.map_append, List.map_cons, List.nodup_append] at hnodup
      exact fun hmem => hnodup.2.2 _ hmem _ List.mem_cons_self rfl
    obtain ⟨environment, haliases, hline⟩ := replayLine_raw hfirst hnew number
    have hnext : final.aliases = environment.aliases ++ definitions := by
      rw [haliases, hfinal, List.append_assoc, List.singleton_append]
    have hstill : (replay.defining [definition] environment).broken? = none := hopen
    rw [List.map_cons, replayFrom_open _ hblank (hline ▸ hstill), hline,
      ih _ hstill hrest hnext, Replay.defining_defining, List.singleton_append]

theorem replay_raws (fresh : Session) {final : Environment}
    (hnone : fresh.workspace.environment = .none)
    (hread : ∀ definition ∈ final.aliases,
      Query.readLine fresh.settings.mark definition.raw = .ok (.aliasDef definition)) :
    fresh.replay (final.aliases.map (·.raw)) =
      { session := { fresh with workspace := { fresh.workspace with environment := final } }
        defined := final.aliases.length
        log := final.aliases.map Workspace.definedRecord ++
          [replayRecord final.aliases.length] } := by
  have hfinal : final.aliases = fresh.workspace.environment.aliases ++ final.aliases := by
    rw [hnone]
    rfl
  have hdone : replayFrom { session := fresh } 1 (final.aliases.map (·.raw)) =
      Replay.defining { session := fresh } final.aliases final :=
    replayFrom_raws { session := fresh } rfl hread hfinal 1
  rw [replay, hdone]
  simp only [Replay.defining, Nat.zero_add, List.nil_append]

/-- Whatever was asked of a session, a new one with the same mark gets all its aliases back from the
saved lines, in their order, without a warning, and its register is still the initial value. -/
theorem replay_savedLines (settings settings' : Settings) (hmark : settings'.mark = settings.mark)
    (columns columns' : Nat) (initial initial' : Value) (acts : List Act) :
    let session := (start settings columns initial).after acts
    let restored := (start settings' columns' initial').replay session.savedLines
    restored.broken? = none ∧ restored.written = "" ∧
      (∀ record ∈ restored.log, record.level = .debug) ∧
      restored.defined = session.workspace.environment.aliases.length ∧
      restored.session.workspace.environment = session.workspace.environment ∧
      restored.session.workspace.register = initial' := by
  intro session restored
  have reached : Restorable settings.mark session :=
    (keeps_restorable settings.mark).after (restorable_start settings columns initial) acts
  have hlines : session.savedLines = session.workspace.environment.aliases.map (·.raw) := by
    simp [savedLines, Environment.saved]
  have hread : ∀ definition ∈ session.workspace.environment.aliases,
      Query.readLine settings'.mark definition.raw = .ok (.aliasDef definition) := by
    rw [hmark]
    exact reached.rereadable
  have hrestored := replay_raws (start settings' columns' initial') rfl hread
  rw [← hlines] at hrestored
  rw [show restored = _ from hrestored]
  refine ⟨rfl, rfl, ?_, rfl, rfl, rfl⟩
  intro record hmem
  rcases List.mem_append.mp hmem with hmem | hmem
  · obtain ⟨definition, -, rfl⟩ := List.mem_map.mp hmem
    rfl
  · rw [List.mem_singleton.mp hmem]
    rfl

/-- A session with a second definition of one name and a saved line that is none; the new session
has blanks around the mark in its settings. -/
theorem replay_savedLines_twice :
    let spaced : Settings :=
      { Settings.standard with separator := " » ", separator_not_blank := by decide }
    let session := (start .standard 80 .empty).after
      [.execute "A: count » sum", .execute "A: avg", .replay ["B: A", "nope"]]
    let restored := (start spaced 40 (.number (.int 7))).replay session.savedLines
    session.savedLines = ["A: count » sum", "B: A"] ∧ spaced.mark = Settings.standard.mark ∧
      restored.broken? = none ∧ restored.written = "" ∧
      (∀ record ∈ restored.log, record.level = .debug) ∧
      restored.defined = session.workspace.environment.aliases.length ∧
      restored.session.workspace.environment = session.workspace.environment ∧
      restored.session.workspace.register = .number (.int 7) := by
  intro spaced session restored
  have hmark : spaced.mark = Settings.standard.mark := by decide
  exact ⟨by decide +kernel, hmark, replay_savedLines .standard spaced hmark 80 40 .empty
    (.number (.int 7)) [.execute "A: count » sum", .execute "A: avg", .replay ["B: A", "nope"]]⟩

end Session

/-! ## Aliases through the alias file

A line feed ends each line in the file, but reading the file ends lines elsewhere as well: at a form
feed, for one, which a session takes for a blank or for a part of a pattern like any other. So each
line comes back as the lines it holds, whatever stands around it, and all of them come back as they
were exactly if none holds the end of a line. -/

namespace AliasFile
open Text

/-- Behind a line feed a text is read as if it stood by itself. -/
theorem linesOf_append (text rest : List Char) :
    linesOf (text ++ '\n' :: rest) = linesOf text ++ linesOf rest := by
  obtain ⟨first, others, hjoined, halone⟩ := exists_fileLines text
  have hfiltered : (fileLines text).filter (!isAllBlank ·) =
      (first :: others).filter (!isAllBlank ·) := by
    rcases halone with h | h
    · rw [h]
    · rw [← h, List.filter_append]
      simp [isAllBlank]
  change ((fileLines (text ++ '\n' :: rest)).filter (!isAllBlank ·)).map String.ofList =
    ((fileLines text).filter (!isAllBlank ·)).map String.ofList ++
      ((fileLines rest).filter (!isAllBlank ·)).map String.ofList
  rw [hjoined, List.filter_append, List.map_append, hfiltered]

/-- What is read from kept lines is read from each of them by itself. -/
theorem linesOf_textOfLines (kept : List String) :
    linesOf (textOfLines kept) = kept.flatMap fun line => linesOf line.toList := by
  induction kept with
  | nil => rfl
  | cons line kept ih =>
    have htext : textOfLines (line :: kept) = line.toList ++ '\n' :: textOfLines kept := by
      simp [textOfLines]
    rw [htext, linesOf_append, ih, List.flatMap_cons]

theorem linesOf_of_isLine {line : String} (hsolid : ¬ IsGap line.toList)
    (h : IsLine line.toList) : linesOf line.toList = [line] := by
  have hne : line.toList ≠ [] := by
    intro hnil
    exact hsolid (hnil ▸ by simp [IsGap])
  have hshown : (!isAllBlank line.toList) = true := by
    rw [Bool.not_eq_true', Bool.eq_false_iff, isAllBlank, Ne, List.all_eq_true]
    exact hsolid
  change ((fileLines line.toList).filter (!isAllBlank ·)).map String.ofList = [line]
  rw [fileLines_of_isLine h hne, List.filter_singleton, hshown]
  simp

theorem isLine_of_mem_linesOf {text : List Char} {line : String} (h : line ∈ linesOf text) :
    IsLine line.toList := by
  obtain ⟨piece, hpiece, rfl⟩ := List.mem_map.mp h
  rw [String.toList_ofList]
  exact isLine_of_mem_lines (List.mem_filter.mp hpiece).1

/-- Lines that are not blank are read as they were written exactly if they are single lines. -/
theorem flatMap_linesOf_eq_iff {kept : List String}
    (hsolid : ∀ line ∈ kept, ¬ IsGap line.toList) :
    (kept.flatMap fun line => linesOf line.toList) = kept ↔
      ∀ line ∈ kept, IsLine line.toList := by
  constructor
  · intro h line hmem
    rw [← h] at hmem
    obtain ⟨_, _, hread⟩ := List.mem_flatMap.mp hmem
    exact isLine_of_mem_linesOf hread
  · intro h
    calc (kept.flatMap fun line => linesOf line.toList)
        = kept.flatMap fun line => [line] :=
          List.flatMap_congr fun line hmem =>
            linesOf_of_isLine (hsolid line hmem) (h line hmem)
      _ = kept := List.flatMap_singleton' kept

theorem read_of_save {files after : FileSystem} {path : Path} {kept : List String}
    {record : Log.Record} (h : save files path kept = (after, .ok record)) :
    after.read path = .ok (.text (textOfLines kept)) := by
  unfold save at h
  split at h
  · cases h
  · split at h
    · cases h
    · rename_i hwrite
      cases h
      exact FileSystem.read_of_write hwrite

inductive Becomes (files after : FileSystem) (path : Path) (place : Place) : Prop where
  | same (h : after.node? place = files.node? place)
  | directory {lead : List String} (hnone : files.node? place = none)
      (hmade : after.node? place = some .directory) (hlead : lead <+: path.parent.parts)
      (hfollow : after.follow [] lead = .ok place)
  | file {kept : List String} (hfile : files.node? place ≠ some .directory)
      (hlocate : after.locate path = .ok place)
      (hwritten : after.node? place = some (.file (.text (textOfLines kept))))

theorem becomes_of_makesWay {files after : FileSystem} {path : Path}
    (h : files.MakesWay after path.parent) (place : Place) : Becomes files after path place := by
  rcases h place with he | ⟨hnone, hmade, lead, hlead, hfollow⟩
  · exact .same he
  · exact .directory hnone hmade hlead hfollow

/-- Behind the directories on its way a file is written, and every way leads where it led. -/
theorem becomes_of_write {files middle after : FileSystem} {path : Path} {kept : List String}
    (h : files.MakesWay middle path.parent)
    (hwrite : middle.write path (textOfLines kept) = .ok after) (place : Place) :
    Becomes files after path place := by
  obtain ⟨target, hlocate, hfile, rfl⟩ := FileSystem.put_of_write hwrite
  by_cases he : place = target
  · have hsome : target ≠ [] := by
      rintro rfl
      exact hfile rfl
    subst he
    have hbefore : files.node? place ≠ some .directory := fun hd => hfile (h.node?_eq hd)
    exact .file hbefore (FileSystem.locate_put hfile hlocate) (FileSystem.node?_put_self _ hsome)
  · have hother : (middle.put target (.file (.text (textOfLines kept)))).node? place =
        middle.node? place :=
      FileSystem.node?_put_of_ne _ he
    rcases h place with hsame | ⟨hnone, hmade, lead, hlead, hfollow⟩
    · exact .same (hother.trans hsame)
    · exact .directory hnone (hother.trans hmade) hlead (FileSystem.follow_put hfile hfollow)

/-- Keeping lines writes one file and makes the directories that lead to it, and nothing else. -/
theorem becomes_save (files : FileSystem) (path : Path) (kept : List String) (place : Place) :
    Becomes files (save files path kept).1 path place := by
  have hway := FileSystem.makesWay_ensureDirectories files path.parent
  unfold save
  split
  · rename_i hdirectory
    rw [hdirectory] at hway
    exact becomes_of_makesWay hway place
  · rename_i hdirectory
    rw [hdirectory] at hway
    split
    · exact becomes_of_makesWay hway place
    · rename_i hwrite
      exact becomes_of_write hway hwrite place

theorem keptIn_of_save {files after : FileSystem} {path : Path} {kept : List String}
    {fault : FileFault} (h : save files path kept = (after, .error fault)) :
    files.KeptIn after := by
  have hmade := FileSystem.keptIn_ensureDirectories files path.parent
  unfold save at h
  split at h
  · rename_i hdirectory
    rw [hdirectory] at hmade
    cases h
    exact hmade
  · rename_i hdirectory
    rw [hdirectory] at hmade
    split at h
    · cases h
      exact hmade
    · cases h

theorem load_of_save {files after : FileSystem} {path : Path} {kept : List String}
    {record : Log.Record} (h : save files path kept = (after, .ok record)) :
    load path (after.read path) = .ok (kept.flatMap fun line => linesOf line.toList, []) := by
  rw [read_of_save h, ← linesOf_textOfLines]
  rfl

theorem load_textOfLines (path : Path) {kept : List String}
    (hsolid : ∀ line ∈ kept, ¬ IsGap line.toList) (hsingle : ∀ line ∈ kept, IsLine line.toList) :
    load path (.ok (.text (textOfLines kept))) = .ok (kept, []) := by
  have hlines : linesOf (textOfLines kept) = kept := by
    rw [linesOf_textOfLines]
    exact (flatMap_linesOf_eq_iff hsolid).mpr hsingle
  change Except.ok (linesOf (textOfLines kept), []) = .ok (kept, [])
  rw [hlines]

theorem isLine_of_load {path : Path} {content : Except FileFault Content} {kept : List String}
    {log : List Log.Record} (h : load path content = .ok (kept, log)) :
    ∀ line ∈ kept, IsLine line.toList := by
  unfold load at h
  split at h
  · cases h
    exact nofun
  · cases h
  · cases h
    exact fun line hmem => isLine_of_mem_linesOf hmem

end AliasFile

namespace Session

/-- Whatever was asked of a session, each of its saved lines comes back from the file as the lines
it holds; these are the saved lines exactly if none of them holds the end of a line. -/
theorem load_savedLines (settings : Settings) (columns : Nat) (initial : Value)
    (acts : List Act) {files after : FileSystem} {path : Path} {record : Log.Record}
    (hsave : AliasFile.save files path ((start settings columns initial).after acts).savedLines =
      (after, .ok record)) :
    let lines := ((start settings columns initial).after acts).savedLines
    let read := lines.flatMap fun line => AliasFile.linesOf line.toList
    AliasFile.load path (after.read path) = .ok (read, []) ∧
      (read = lines ↔ ∀ line ∈ lines, Text.IsLine line.toList) := by
  intro lines read
  have reached := (keeps_restorable settings.mark).after
    (restorable_start settings columns initial) acts
  have hsolid : ∀ line ∈ lines, ¬ Text.IsGap line.toList := by
    intro line hmem
    simp only [lines, savedLines, Environment.saved, List.map_map, List.mem_map] at hmem
    obtain ⟨definition, hdefinition, rfl⟩ := hmem
    exact Query.not_isGap_raw (reached.rereadable definition hdefinition)
  exact ⟨AliasFile.load_of_save hsave, AliasFile.flatMap_linesOf_eq_iff hsolid⟩

/-- Two aliases that the file keeps as they are. -/
theorem load_savedLines_words :
    let session := (start .standard 80 .empty).after
      [.execute "Food: [food] » sum", .execute "Lately: Food » last 3"]
    let files : FileSystem := ⟨[(["data"], .directory)]⟩
    let saved := AliasFile.save files (.ofString "./data/envrc") session.savedLines
    saved.2 = .ok (AliasFile.savedRecord (.ofString "./data/envrc") session.savedLines) ∧
      (∀ line ∈ session.savedLines, Text.IsLine line.toList) ∧
      AliasFile.load (.ofString "./data/envrc") (saved.1.read (.ofString "./data/envrc")) =
        .ok (session.savedLines, []) := by
  intro session files saved
  have hlines : session.savedLines = ["Food: [food] » sum", "Lately: Food » last 3"] := by
    decide +kernel
  have hsave : saved = (saved.1, .ok (AliasFile.savedRecord (.ofString "./data/envrc")
      session.savedLines)) := by
    simp only [saved, hlines]
    rfl
  have hsingle : ∀ line ∈ session.savedLines, Text.IsLine line.toList := by
    rw [hlines]
    decide +kernel
  obtain ⟨hload, hkept⟩ := load_savedLines .standard 80 .empty _ hsave
  rw [hkept.mpr hsingle] at hload
  exact ⟨congrArg Prod.snd hsave, hsingle, hload⟩

/-- A form feed in a pattern ends a line of the file, and the alias comes back as another. -/
theorem load_savedLines_formFeed :
    let session := (start .standard 80 .empty).after [.execute "A: /a\x0cb"]
    let saved := AliasFile.save {} (.ofString "envrc") session.savedLines
    session.savedLines = ["A: /a\x0cb"] ∧
      saved.2 = .ok (AliasFile.savedRecord (.ofString "envrc") session.savedLines) ∧
      AliasFile.load (.ofString "envrc") (saved.1.read (.ofString "envrc")) =
        .ok (["A: /a", "b"], []) := by
  decide +kernel

end Session

end LedgerQuery
