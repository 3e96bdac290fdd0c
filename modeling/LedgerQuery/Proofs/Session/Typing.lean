import LedgerQuery.Proofs.Evaluation.Lockstep
import LedgerQuery.Proofs.Session.Boundary

/-! The types that a session shows. What a command does to the type of the register is in one table,
and it is the type alone that decides which commands fail; so sessions over different transactions
cannot be told apart by failures and types while nothing is selected. -/

namespace LedgerQuery.Session

variable {items others : List Transaction} {mark : Separator}

theorem shows_display (session : Session) (hsize : items.length < Decimal.Binary64.wholeLimit) :
    Shows items (some session.display) := by
  intro value h print hprint
  cases hprint
  exact Display.exists_value session.settings hsize h

def Lasting (mark : Separator) (text : String) : Prop :=
  ∀ line, Query.readLine mark text = .ok line → ∀ command ∈ line.body.commands, command.Lasting

theorem Lasting.commands {text : String} (h : Lasting mark text) {line : Line}
    (hread : Query.readLine mark text = .ok line) :
    ∀ command ∈ line.body.commands, Query.WellFormed mark.mark command ∧ command.Lasting := by
  intro command hm
  exact ⟨Query.wellFormed_of_readLine hread command hm, h line hread command hm⟩

theorem Lasting.lines {act : Act} (h : ∀ text ∈ act.texts, Lasting mark text) :
    ∀ line ∈ act.lines mark, ∀ command ∈ line.body.commands,
      Query.WellFormed mark.mark command ∧ command.Lasting := by
  intro line hm
  obtain ⟨text, htext, hread⟩ := Act.exists_of_mem_lines hm
  exact (h text htext).commands hread

theorem alike_start (some : items ≠ []) (some' : others ≠ []) (mark : List Char) :
    Workspace.Alike items others mark (.start (.ofTransactions items))
      (.start (.ofTransactions others)) := by
  have htype := (Value.Typed.ofTransactions some).descriptor
  have htype' := (Value.Typed.ofTransactions some').descriptor
  have alike : Value.Alike items others (.ofTransactions items) (.ofTransactions others) :=
    ⟨.start items, .start others, .transactions, htype, htype', nofun⟩
  exact ⟨alike, alike, rfl, fun _ hm => absurd hm List.not_mem_nil⟩

/-- Sessions that are asked for the same, with nothing selected, stay alike. -/
theorem alike_after (settings : Settings) (columns : Nat)
    (hsize : items.length < Decimal.Binary64.wholeLimit)
    (hsize' : others.length < Decimal.Binary64.wholeLimit) (some : items ≠ [])
    (some' : others ≠ []) {acts : List Act}
    (hacts : ∀ act ∈ acts, ∀ text ∈ act.texts, Lasting settings.mark text) :
    Workspace.Alike items others settings.mark.mark
      ((start settings columns (.ofTransactions items)).after acts).workspace
      ((start settings columns (.ofTransactions others)).after acts).workspace := by
  have hlines : ∀ line ∈ acts.flatMap (Act.lines settings.mark), ∀ command ∈ line.body.commands,
      Query.WellFormed settings.mark.mark command ∧ command.Lasting := by
    intro line hm
    obtain ⟨act, hact, hline⟩ := List.mem_flatMap.mp hm
    exact Lasting.lines (hacts act hact) line hline
  rw [session_after, session_after, evaluateAll_eq, evaluateAll_eq]
  exact (alike_start some some' settings.mark.mark).evaluateLines (shows_display _ hsize)
    (shows_display _ hsize') hsize hsize' hlines

/-- The course of a line: the type of the register after each of its commands, up to the first that
fails, and the failure. -/
def course (session : Session) (text : String) : List (Except Failure Descriptor) :=
  match Query.readLine session.settings.mark text with
  | .error fault => [.error (.ofQueryFault fault)]
  | .ok line => session.workspace.course (some session.display) line

def verdict : Option Failure → Option Refusal × Status
  | none => (none, .running)
  | some (.refusal cause) => (some cause, .running)
  | some (.breakdown cause) => (none, .broken cause)

def Turn.verdict (turn : Turn) : Option Refusal × Status :=
  (turn.refusal?, turn.status)

theorem verdict_fail (session : Session) (line written : String) (log : List Log.Record)
    (failure : Failure) :
    (session.fail line written log failure).verdict = verdict (some failure) := by
  cases failure <;> rfl

theorem verdict_execute {session : Session} {text : String} {line : Line}
    (hread : Query.readLine session.settings.mark text = .ok line)
    (hecho : ∃ shown, (session.evaluate line).echo line = .ok shown) :
    (session.execute text).verdict =
      verdict (session.workspace.evaluateLine (some session.display) line).failure? := by
  obtain ⟨shown, hshown⟩ := hecho
  unfold evaluate at hshown
  unfold execute
  rw [hread]
  dsimp only
  cases (session.workspace.evaluateLine (some session.display) line).failure? with
  | some failure => exact verdict_fail ..
  | none =>
    dsimp only
    rw [hshown]
    rfl

theorem follows_reached {α : Type} {printer : Option (Value → Except Failure α)}
    (hsize : items.length < Decimal.Binary64.wholeLimit) (shows : Shows items printer)
    (lines : List Line) {text : String} {line : Line} {command : Command} {builtin : Builtin}
    (hread : Query.readLine mark text = .ok line) (hmem : command ∈ line.body.commands)
    (hbuiltin : Builtin.ofKeyword? command.keyword = some builtin) :
    let workspace := (Workspace.start (.ofTransactions items)).evaluateLines printer lines
    ∃ initial type, (Value.ofTransactions items).descriptor = .ok initial ∧
      workspace.register.descriptor = .ok type ∧
      ((workspace.scope printer).runBuiltin builtin command.argument workspace.register).Follows
        workspace.register (builtin.typing initial command.argument type) := by
  intro workspace
  have hstart : (Value.ofTransactions items).IsRegister items := .start items
  have hinitial : workspace.initial = .ofTransactions items :=
    Workspace.initial_evaluateLines printer (.start (.ofTransactions items)) lines
  have hregister : workspace.register.IsRegister items := .evaluateLines printer items lines
  obtain ⟨initial, hd, -⟩ := hstart.drawn.descriptor
  obtain ⟨type, htype, -⟩ := hregister.drawn.descriptor
  rw [← hinitial] at hd hstart
  have formed := Query.wellFormed_of_readLine hread command hmem
  refine ⟨initial, type, hinitial ▸ hd, htype, ?_⟩
  exact Scope.follows_runBuiltin hsize formed hbuiltin shows hstart hd hregister htype

/-- Alike sessions report a line in which nothing is selected in the same way, after the same
course. -/
theorem verdict_eq {session other : Session} (hsettings : session.settings = other.settings)
    (hsize : items.length < Decimal.Binary64.wholeLimit)
    (hsize' : others.length < Decimal.Binary64.wholeLimit)
    (alike : Workspace.Alike items others session.settings.mark.mark session.workspace
      other.workspace) {text : String} (lasting : Lasting session.settings.mark text) :
    session.course text = other.course text ∧
      (session.execute text).verdict = (other.execute text).verdict := by
  cases hread : Query.readLine session.settings.mark text with
  | error fault =>
    have hread' := hsettings ▸ hread
    simp only [course, execute, hread, hread', verdict_fail]
    exact ⟨trivial, trivial⟩
  | ok line =>
    have hread' : Query.readLine other.settings.mark text = .ok line := hsettings ▸ hread
    obtain ⟨hfailure, hnext, hcourse⟩ := alike.evaluateLine (shows_display session hsize)
      (shows_display other hsize') hsize hsize' (lasting.commands hread)
    have hecho : ∃ shown, (session.evaluate line).echo line = .ok shown :=
      exists_echo hnext.register.first hsize line
    have hecho' : ∃ shown, (other.evaluate line).echo line = .ok shown :=
      exists_echo hnext.register.second hsize' line
    rw [verdict_execute hread hecho, verdict_execute hread' hecho', hfailure]
    simp only [course, hread, hread']
    exact ⟨hcourse, trivial⟩

/-- The type of the register decides what a command does. After any lines, a command that was read
fails exactly if the table refuses the type that is shown: it is the wrong type, or there is nothing
to take the average of. Then the register stays. Otherwise the new type is one that the table gives.
Something becomes nothing only by `search`, by `tags` and by `last 0`, or when the register is reset
to nothing. So two sessions over some transactions, asked for the same lines with no such command in
them, show the same types and fail at the same commands in the same way. -/
theorem statically_typed (settings : Settings) (columns : Nat) (items : List Transaction)
    (hsize : items.length < Decimal.Binary64.wholeLimit) :
    (∀ {α : Type} (printer : Option (Value → Except Failure α)), Shows items printer →
      ∀ (lines : List Line) (separator : Separator) (text : String) (line : Line),
        Query.readLine separator text = .ok line →
        ∀ command ∈ line.body.commands, ∀ builtin,
          Builtin.ofKeyword? command.keyword = some builtin →
          let workspace := (Workspace.start (.ofTransactions items)).evaluateLines printer lines
          let register := workspace.register
          ∃ initial type, (Value.ofTransactions items).descriptor = .ok initial ∧
            register.descriptor = .ok type ∧
            ((workspace.scope printer).runBuiltin builtin command.argument register).Follows
              register (builtin.typing initial command.argument type)) ∧
    (∀ (builtin : Builtin) (argument : Argument) (initial type : Descriptor),
      (∀ cause, builtin.typing initial argument type = .error cause →
        cause = .typeMismatch builtin.operation type ∨
          builtin = .avg ∧ type = .empty ∧ cause = .noTransactions "avg") ∧
      Builtin.reset.typing initial argument type = .ok [initial] ∧
      ∀ types, builtin.typing initial argument type = .ok types → .empty ∈ types →
        type = .empty ∨ builtin.Selects argument ∨ builtin = .reset ∧ initial = .empty) ∧
    ∀ others, others.length < Decimal.Binary64.wholeLimit → items ≠ [] → others ≠ [] →
      ∀ acts text, (∀ act ∈ acts, ∀ asked ∈ act.texts, Lasting settings.mark asked) →
        Lasting settings.mark text →
        let session := (start settings columns (.ofTransactions items)).after acts
        let other := (start settings columns (.ofTransactions others)).after acts
        session.workspace.environment = other.workspace.environment ∧
          session.workspace.register.descriptor = other.workspace.register.descriptor ∧
          session.course text = other.course text ∧
          (session.execute text).verdict = (other.execute text).verdict := by
  refine ⟨?_, ?_, ?_⟩
  · intro α printer shows lines separator text line hread command hmem builtin hbuiltin
    exact follows_reached hsize shows lines hread hmem hbuiltin
  · intro builtin argument initial type
    refine ⟨fun cause => Builtin.typing_error, rfl, fun types htypes hempty => ?_⟩
    by_cases hselects : builtin.Selects argument
    · exact Or.inr (Or.inl hselects)
    · obtain ⟨next, rfl, hnext⟩ := Builtin.typing_ok htypes hselects
      rcases hnext (List.mem_singleton.mp hempty).symm with hnone | hreset
      · exact Or.inl hnone
      · exact Or.inr (Or.inr hreset)
  · intro others hsize' some some' acts text hacts htext session other
    have hsession : session.settings = settings := settings_after _ acts
    have hother : other.settings = settings := settings_after _ acts
    have alike : Workspace.Alike items others session.settings.mark.mark session.workspace
        other.workspace := by
      rw [hsession]
      exact alike_after settings columns hsize hsize' some some' hacts
    obtain ⟨type, htype, htype', -⟩ := alike.register.one_type
    rw [← hsession] at htext
    refine ⟨alike.environment, htype.trans htype'.symm, ?_⟩
    exact verdict_eq (hsession.trans hother.symm) hsize hsize' alike htext

theorem lasting_of_readLine {text : String} {line : Line}
    (hread : Query.readLine mark text = .ok line)
    (h : ∀ command ∈ line.body.commands, command.Lasting) : Lasting mark text := by
  intro other hother
  cases hread.symm.trans hother
  exact h

/-- Two sessions that define the totals of the months, call them, and group a number. -/
theorem statically_typed_totals :
    let date : Date := ⟨2023, ⟨1, by decide⟩, 5, by decide⟩
    let coffee : Transaction :=
      { hash := "a", account := "Checking", date, amount := -3.5, description := "Coffee" }
    let salary : Transaction :=
      { hash := "b", account := "Savings", date, amount := 2000, description := "Salary" }
    let acts := [Act.execute "Totals: monthly » sum", .replay ["Best: Totals » last 1"]]
    let session := (start .standard 80 (.ofTransactions [coffee])).after acts
    let other := (start .standard 80 (.ofTransactions [salary])).after acts
    let silent : Option (Value → Except Failure Unit) := none
    let workspace := Workspace.start (.ofTransactions [coffee])
    [coffee].length < Decimal.Binary64.wholeLimit ∧ Shows [coffee] silent ∧
      (∃ initial type, workspace.register.descriptor = .ok type ∧
        ((workspace.scope silent).runBuiltin .avg .none workspace.register).Follows
          workspace.register (Builtin.avg.typing initial .none type)) ∧
      (∀ act ∈ acts, ∀ asked ∈ act.texts, Lasting Settings.standard.mark asked) ∧
      Lasting Settings.standard.mark "Best » sum » monthly" ∧
      session.workspace.environment = other.workspace.environment ∧
      session.course "Best » sum » monthly" = other.course "Best » sum » monthly" ∧
      (session.execute "Best » sum » monthly").verdict =
        (other.execute "Best » sum » monthly").verdict := by
  intro date coffee salary acts session other silent workspace
  have hsize : [coffee].length < Decimal.Binary64.wholeLimit :=
    Decimal.Binary64.lt_wholeLimit (by decide)
  have hshows : Shows [coffee] silent := fun _ _ _ hprint => nomatch hprint
  have htotals : Query.readLine Settings.standard.mark "Totals: monthly » sum" =
      .ok (.aliasDef ⟨"Totals", ⟨[⟨"monthly", .none⟩, ⟨"sum", .none⟩], "monthly » sum"⟩,
        "Totals: monthly » sum"⟩) := by
    decide +kernel
  have hbest : Query.readLine Settings.standard.mark "Best: Totals » last 1" =
      .ok (.aliasDef ⟨"Best", ⟨[⟨"Totals", .none⟩, ⟨"last", .count 1⟩], "Totals » last 1"⟩,
        "Best: Totals » last 1"⟩) := by
    decide +kernel
  have htext : Query.readLine Settings.standard.mark "Best » sum » monthly" =
      .ok (.pipeline ⟨[⟨"Best", .none⟩, ⟨"sum", .none⟩, ⟨"monthly", .none⟩],
        "Best » sum » monthly"⟩) := by
    decide +kernel
  have lasting := lasting_of_readLine htext (by decide)
  have hacts : ∀ act ∈ acts, ∀ asked ∈ act.texts, Lasting Settings.standard.mark asked := by
    intro act hact asked hasked
    rcases List.mem_pair.mp hact with rfl | rfl
    · exact List.mem_singleton.mp hasked ▸ lasting_of_readLine htotals (by decide)
    · exact List.mem_singleton.mp hasked ▸ lasting_of_readLine hbest (by decide)
  have hread : Query.readLine Settings.standard.mark "avg" =
      .ok (.pipeline ⟨[⟨"avg", .none⟩], "avg"⟩) := by
    decide +kernel
  obtain ⟨hcommand, -, hsessions⟩ := statically_typed .standard 80 [coffee] hsize
  obtain ⟨initial, type, -, htype, hfollows⟩ := hcommand silent hshows [] _ _ _ hread _
    List.mem_cons_self .avg rfl
  obtain ⟨henvironment, -, hcourse, hverdict⟩ := hsessions [salary] hsize (List.cons_ne_nil _ _)
    (List.cons_ne_nil _ _) acts _ hacts lasting
  exact ⟨hsize, hshows, ⟨initial, type, htype, hfollows⟩, hacts, lasting, henvironment, hcourse,
    hverdict⟩

end LedgerQuery.Session
