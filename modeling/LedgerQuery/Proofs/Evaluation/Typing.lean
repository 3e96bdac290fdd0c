import LedgerQuery.Display.Console
import LedgerQuery.Proofs.Evaluation.Types
import LedgerQuery.Proofs.Operation.Aggregation
import LedgerQuery.Proofs.Query.Line

/-! # Typing -/

namespace LedgerQuery

/-! ## Commands against the table of types

On a register that began with transactions a well-formed command makes a value of a type that the
table says, and refuses what the table refuses. -/

section Table

inductive Fits : Except Refusal (List Descriptor) → Except Failure Value → Prop where
  | refused (cause : Refusal) : Fits (.error cause) (.error (.refusal cause))
  | made {types : List Descriptor} {type : Descriptor} {result : Value} (possible : type ∈ types)
      (typed : result.Typed type) : Fits (.ok types) (.ok result)

variable {items : List Transaction} {value result : Value} {initial type : Descriptor}
  {argument : Argument} {n : Nat}

theorem fits_one (h : result.Typed type) : Fits (.ok [type]) (.ok result) :=
  .made List.mem_cons_self h

theorem fits_mismatch (h : value.Typed type) (operation : String) :
    Fits (.error (.typeMismatch operation type)) (value.mismatch operation) := by
  rw [h.mismatch]
  exact .refused _

namespace Operation

theorem fits_select (test : Transaction → Bool) (items : List Transaction) :
    Fits (.ok [.transactions, .empty]) (.ok (select test items)) := by
  by_cases hsome : items.filter test = []
  · have hnone : select test items = .empty := by rw [select, hsome]; rfl
    rw [hnone]
    exact .made (List.mem_cons_of_mem _ List.mem_cons_self) .empty
  · exact .made List.mem_cons_self (.ofTransactions hsome)

theorem fits_search {pattern : String} {found : Pattern.Expr}
    (hp : Pattern.read pattern.toList = .ok found) (h : value.Typed type) :
    Fits (Builtin.search.typing initial argument type) (search pattern value) := by
  have refused := fits_mismatch h "search"
  cases h with
  | transactions some =>
    simp only [search, hp]
    exact fits_select _ _
  | _ => exact refused

theorem fits_tags (matchers : List TagMatcher) (h : value.Typed type) :
    Fits (Builtin.tags.typing initial argument type) (tags matchers value) := by
  have refused := fits_mismatch h "tag_filter"
  cases h with
  | transactions some => exact fits_select _ _
  | _ => exact refused

theorem typed_buckets {keyOf : Transaction → GroupKey} {kind : KeyKind}
    (one : ∀ t, (keyOf t).kind = kind) (some : items ≠ []) :
    (Value.ofTransactionGroups (buckets keyOf items)).Typed (.grouped kind .transactions) := by
  have hsome : buckets keyOf items ≠ [] := fun hnone => some (buckets_eq_nil_iff.mp hnone)
  rw [Value.ofTransactionGroups_of_ne_nil hsome]
  refine .groupedTransactions hsome (fun key hm => ?_) (fun list hm => ?_)
  · rw [keys_buckets] at hm
    obtain ⟨t, -, rfl⟩ := mem_sortedKeys.mp hm
    exact one t
  · obtain ⟨group, hgroup, rfl⟩ := List.mem_map.mp hm
    exact (mem_buckets.mp hgroup).2

theorem fits_grouping (kind : KeyKind) (some : items ≠ []) :
    Fits (.ok [.grouped kind .transactions]) (grouping kind (.transactions items)) := by
  rw [grouping_transactions]
  exact fits_one (typed_buckets kind.kind_keyOf some)

theorem fits_monthly (h : value.Typed type) :
    Fits (Builtin.monthly.typing initial argument type) (monthly value) := by
  have refused := fits_mismatch h "monthly"
  cases h with
  | transactions some => exact fits_grouping .month some
  | _ => exact refused

theorem fits_yearly (h : value.Typed type) :
    Fits (Builtin.yearly.typing initial argument type) (yearly value) := by
  have refused := fits_mismatch h "yearly"
  cases h with
  | transactions some => exact fits_grouping .year some
  | _ => exact refused

theorem fits_last (h : value.Typed type) :
    Fits (Builtin.last.typing initial (.count n) type) (last n value) := by
  have refused := fits_mismatch h "last"
  have whole := h
  have hcount : ¬ (n : Int) < 0 := by omega
  by_cases hn : n = 0
  · subst hn
    cases h with
    | integer | float => exact refused
    | empty => exact fits_one .empty
    | _ =>
      simp only [last, if_neg hcount, Int.toNat_natCast, lastItems_zero]
      exact fits_one .empty
  · have hsome : Argument.count n ≠ .count 0 := by
      intro he
      cases he
      exact hn rfl
    have hpart : ∀ {α : Type} (all : List α), lastItems n all ⊆ all :=
      fun all => (List.drop_sublist _ all).subset
    simp only [Builtin.typing, if_neg hsome]
    cases h with
    | integer | float =>
      simp only [last, if_neg hcount]
      exact refused
    | empty => exact fits_one .empty
    | transactions some =>
      simp only [last, if_neg hcount, Int.toNat_natCast]
      exact fits_one (.ofTransactions (lastItems_ne_nil some hn))
    | groupedTransactions some =>
      have hlast := lastItems_ne_nil some hn
      simp only [last, if_neg hcount, Int.toNat_natCast, Value.ofTransactionGroups_of_ne_nil hlast]
      exact fits_one (whole.groupedTransactions_of_subset hlast (hpart _))
    | groupedIntegers some | groupedFloats some =>
      have hlast := lastItems_ne_nil some hn
      simp only [last, if_neg hcount, Int.toNat_natCast, Value.ofNumberGroups_of_ne_nil hlast]
      exact fits_one (whole.groupedNumbers_of_subset hlast (hpart _))

theorem fits_reverse (h : value.Typed type) :
    Fits (Builtin.reverse.typing initial argument type) (reverse value) := by
  have refused := fits_mismatch h "reverse"
  have whole := h
  have hback : ∀ {α : Type} (all : List α), all.reverse ⊆ all :=
    fun all item hm => List.mem_reverse.mp hm
  cases h with
  | integer | float => exact refused
  | empty => exact fits_one .empty
  | transactions some => exact fits_one (.transactions (List.reverse_ne_nil_iff.mpr some))
  | groupedTransactions some =>
    exact fits_one
      (whole.groupedTransactions_of_subset (List.reverse_ne_nil_iff.mpr some) (hback _))
  | groupedIntegers some | groupedFloats some =>
    exact fits_one (whole.groupedNumbers_of_subset (List.reverse_ne_nil_iff.mpr some) (hback _))

theorem kinds_of_keys {α β : Type} {groups : Groups α} {results : Groups β} {kind : KeyKind}
    (same : results.map Prod.fst = groups.map Prod.fst) (some : groups ≠ [])
    (keys : ∀ key ∈ groups.map Prod.fst, key.kind = kind) :
    results ≠ [] ∧ ∀ key ∈ results.map Prod.fst, key.kind = kind := by
  rw [same]
  refine ⟨?_, keys⟩
  rintro rfl
  exact some (List.map_eq_nil_iff.mp same.symm)

theorem fits_count (h : value.Typed type) :
    Fits (Builtin.count.typing initial argument type) (count value) := by
  cases h with
  | groupedTransactions some keys held =>
    obtain ⟨hsome, hkeys⟩ := kinds_of_keys (keys_mapGroups _ _) some keys
    refine fits_one (.groupedIntegers hsome hkeys fun number hm => ?_)
    rw [held_mapGroups] at hm
    obtain ⟨list, -, rfl⟩ := List.mem_map.mp hm
    exact ⟨_, rfl⟩
  | _ => exact fits_one (.integer _)

theorem exists_sum_typed {numbers : List Number} (h : CountsWithin n numbers) {number : Number}
    (hm : number ∈ numbers) :
    ∃ sum, sumNumbers numbers = .ok sum ∧ (Value.number sum).Typed number.descriptor := by
  obtain ⟨sum, hsum, -, halike⟩ := exists_sumNumbers h
  rw [← halike number hm]
  exact ⟨sum, hsum, .number sum⟩

theorem fits_total (hw : value.Within n) (h : value.Typed type) :
    Fits (Builtin.sum.typing initial argument type) (total value) := by
  have refused := fits_mismatch h "sum"
  cases h with
  | integer m => exact fits_one (.integer m)
  | float x => exact fits_one (.float x)
  | empty => exact refused
  | transactions some => exact fits_one (.float _)
  | groupedTransactions some keys held =>
    obtain ⟨hsome, hkeys⟩ := kinds_of_keys (keys_mapGroups _ _) some keys
    refine fits_one (.groupedFloats hsome hkeys fun number hm => ?_)
    rw [held_mapGroups] at hm
    obtain ⟨list, -, rfl⟩ := List.mem_map.mp hm
    exact ⟨_, rfl⟩
  | @groupedIntegers groups kind some keys held | @groupedFloats groups kind some keys held =>
    obtain ⟨group, hgroup⟩ := List.exists_mem_of_ne_nil _ some
    have hm : group.2 ∈ groups.map Prod.snd := List.mem_map_of_mem hgroup
    obtain ⟨x, hx⟩ := held _ hm
    obtain ⟨sum, hsum, hsumtyped⟩ := exists_sum_typed hw.2 hm
    rw [hx] at hsumtyped
    simp only [total, hsum]
    exact fits_one hsumtyped

theorem exists_averageAmount (some : items ≠ []) : ∃ x, averageAmount items = .ok (.float x) := by
  rw [averageAmount, if_neg (by simpa using some)]
  exact ⟨_, rfl⟩

theorem exists_averageNumbers (hn : n < Decimal.Binary64.wholeLimit) {numbers : List Number}
    (some : numbers ≠ []) (h : CountsWithin n numbers) :
    ∃ x, averageNumbers numbers = .ok (.float x) := by
  have htoFloat : ∀ number ∈ numbers, FailsOnly (fun _ => False) (toFloat number) :=
    fun number hm => failsOnly_false_iff.mpr (exists_toFloat hn h hm)
  obtain ⟨xs, hxs⟩ := failsOnly_false_iff.mp (failsOnly_mapM htoFloat)
  have hsome : ¬ xs.isEmpty = true := by
    rw [List.isEmpty_iff]
    rintro rfl
    exact some (List.length_eq_zero_iff.mp (length_of_mapM hxs).symm)
  have haverage : averageNumbers numbers =
      if xs.isEmpty then .error (.breakdown .divisionByZero)
      else .ok (.float (sumFloats xs / floatOfCount xs.length)) := by
    rw [averageNumbers, hxs]
    rfl
  rw [haverage, if_neg hsome]
  exact ⟨_, rfl⟩

theorem fits_average (hn : n < Decimal.Binary64.wholeLimit) (hw : value.Within n)
    (h : value.Typed type) : Fits (Builtin.avg.typing initial argument type) (average value) := by
  cases h with
  | integer m =>
    obtain ⟨x, hx⟩ := exists_toFloat hn hw List.mem_cons_self
    simp only [average, hx]
    exact fits_one (.float x)
  | float x => exact fits_one (.float x)
  | empty => exact .refused _
  | transactions some =>
    obtain ⟨x, hx⟩ := exists_averageAmount some
    simp only [average, hx]
    exact fits_one (.float x)
  | @groupedTransactions groups kind some keys held =>
    have haverage : ∀ group ∈ groups,
        FailsOnly (fun _ => False) ((averageAmount group.2).map (group.1, ·)) := by
      intro group hgroup
      obtain ⟨x, hx⟩ := exists_averageAmount (held _ (List.mem_map_of_mem hgroup))
      rw [hx]
      exact failsOnly_ok _
    obtain ⟨results, hresults⟩ := failsOnly_false_iff.mp (failsOnly_mapM haverage)
    have hgroups : mapGroupsM averageAmount groups = .ok results := hresults
    obtain ⟨hsome, hkeys⟩ := kinds_of_keys (keys_mapGroupsM hgroups) some keys
    simp only [average, hgroups]
    refine fits_one (.groupedFloats hsome hkeys fun number hm => ?_)
    obtain ⟨list, -, hlist⟩ := held_mapGroupsM hgroups number hm
    exact averageAmount_float hlist
  | @groupedIntegers groups kind some keys held | @groupedFloats groups kind some keys held =>
    have hsome : groups.map Prod.snd ≠ [] := fun he => some (List.map_eq_nil_iff.mp he)
    obtain ⟨x, hx⟩ := exists_averageNumbers hn hsome hw.2
    simp only [average, hx]
    exact fits_one (.float x)

end Operation

open Query in
/-- A well-formed builtin command makes of a register what the table says. -/
theorem fits_transform {mark : List Char} {command : Command} {builtin : Builtin} {start : Value}
    (hsize : items.length < Decimal.Binary64.wholeLimit) (hcommand : WellFormed mark command)
    (hbuiltin : Builtin.ofKeyword? command.keyword = some builtin) (hstart : start.Typed initial)
    (hw : value.Within (max 1 items.length)) (h : value.Typed type) :
    Fits (builtin.typing initial command.argument type)
      (builtin.transform start command.argument value) := by
  have hone : 1 < Decimal.Binary64.wholeLimit := Decimal.Binary64.lt_wholeLimit (by decide)
  have hbound := Nat.max_lt.mpr ⟨hone, hsize⟩
  cases hcommand with
  | @keyword word hkeyword =>
    have hword : builtin.keyword = word := by
      have hfound := List.find?_some hbuiltin
      exact of_decide_eq_true hfound
    have hfree : builtin.keyword ∉ reserved := hword ▸ hkeyword.free
    -- the builtins that take an argument have reserved keywords
    cases builtin with
    | avg => exact Operation.fits_average hbound hw h
    | count => exact Operation.fits_count h
    | monthly => exact Operation.fits_monthly h
    | print => exact fits_one h
    | reset => exact fits_one hstart
    | reverse => exact Operation.fits_reverse h
    | sum => exact Operation.fits_total hw h
    | yearly => exact Operation.fits_yearly h
    | last => exact absurd (by decide) hfree
    | search => exact absurd (by decide) hfree
    | tags => exact absurd (by decide) hfree
  | @search pattern hpattern =>
    cases hbuiltin
    obtain ⟨found, hfound⟩ := hpattern.reads
    exact Operation.fits_search hfound h
  | @last count hcount =>
    cases hbuiltin
    exact Operation.fits_last h
  | @tags matchers hsome hnames =>
    cases hbuiltin
    exact Operation.fits_tags matchers h

/-- The run of a command comes to what the table says: a refusal leaves the register as it was. -/
def Outcome.Follows {α : Type} (outcome : Outcome α) (register : Value) :
    Except Refusal (List Descriptor) → Prop
  | .error cause => outcome = { register, failure? := some (.refusal cause) }
  | .ok types => outcome.failure? = none ∧
      ∃ type ∈ types, outcome.register.descriptor = .ok type

/-- Whatever a register can be is printed, if anything is. -/
def Shows {α : Type} (items : List Transaction) (printer : Option (Value → Except Failure α)) :
    Prop :=
  ∀ value : Value, value.IsRegister items → ∀ print ∈ printer, ∃ shown, print value = .ok shown

theorem Value.IsRegister.typed (h : value.IsRegister items) (hd : value.descriptor = .ok type) :
    value.Typed type := by
  obtain ⟨other, htyped⟩ := h.drawn.typed
  rw [htyped.descriptor] at hd
  cases hd
  exact htyped

namespace Scope

variable {α : Type} {scope : Scope α} {register : Value}

theorem exists_printed (shows : Shows items scope.printer) (h : register.IsRegister items) :
    ∃ printed, scope.printed register = .ok printed := by
  unfold printed
  cases hprinter : scope.printer with
  | none => exact ⟨[], rfl⟩
  | some print =>
    obtain ⟨shown, hshown⟩ := shows register h print hprinter
    dsimp only
    rw [hshown]
    exact ⟨[shown], rfl⟩

theorem transform_print {start : Value}
    (h : Builtin.print.transform start argument value = .ok result) : result = value := by
  cases argument with
  | none =>
    cases h
    rfl
  | _ => cases h

theorem follows_of_fits {builtin : Builtin} {table : Except Refusal (List Descriptor)}
    (h : Fits table (builtin.transform scope.initial argument register))
    (prints : ∃ printed, scope.printed register = .ok printed) :
    (scope.runBuiltin builtin argument register).Follows register table := by
  generalize hresult : builtin.transform scope.initial argument register = result at h
  unfold runBuiltin
  rw [hresult]
  cases h with
  | refused cause => rfl
  | @made types type result possible typed =>
    by_cases hprint : builtin = .print
    · subst hprint
      obtain rfl := transform_print hresult
      obtain ⟨printed, hprinted⟩ := prints
      simp only [if_pos, hprinted]
      exact ⟨rfl, type, possible, typed.descriptor⟩
    · simp only [if_neg hprint]
      exact ⟨rfl, type, possible, typed.descriptor⟩

/-- On a register, a well-formed command comes to what the table says of the type that is shown. -/
theorem follows_runBuiltin {mark : List Char} {command : Command} {builtin : Builtin}
    (hsize : items.length < Decimal.Binary64.wholeLimit)
    (hcommand : Query.WellFormed mark command)
    (hbuiltin : Builtin.ofKeyword? command.keyword = some builtin)
    (shows : Shows items scope.printer) (hstart : scope.initial.IsRegister items)
    (hinitial : scope.initial.descriptor = .ok initial) (h : register.IsRegister items)
    (htype : register.descriptor = .ok type) :
    (scope.runBuiltin builtin command.argument register).Follows register
      (builtin.typing initial command.argument type) := by
  have fits := fits_transform hsize hcommand hbuiltin (hstart.typed hinitial) h.within
    (h.typed htype)
  exact follows_of_fits fits (exists_printed shows h)

end Scope

end Table

/-! ## Where evaluation cannot break down

On a register that began with transactions, every well-formed command and the printer give a value
or a refusal; so does a pipeline of well-formed commands, however its aliases call one another. -/

variable {items : List Transaction} {value : Value}

theorem Fits.answers {table : Except Refusal (List Descriptor)} {result : Except Failure Value}
    (h : Fits table result) : Answers result := by
  cases h with
  | refused cause => exact answers_refusal cause
  | made possible typed => exact answers_ok _

theorem answers_transform {mark : List Char} {command : Command} {builtin : Builtin}
    {initial : Value} (hsize : items.length < Decimal.Binary64.wholeLimit)
    (hcommand : Query.WellFormed mark command)
    (hbuiltin : Builtin.ofKeyword? command.keyword = some builtin)
    (hinitial : initial.IsRegister items) (h : value.IsRegister items) :
    Answers (builtin.transform initial command.argument value) := by
  obtain ⟨start, hstart⟩ := hinitial.drawn.typed
  obtain ⟨type, htype⟩ := h.drawn.typed
  exact (fits_transform hsize hcommand hbuiltin hstart h.within htype).answers

namespace Display

theorem exists_number_of_lt {number : Number}
    (h : ∀ n : Int, number = .int n → n.natAbs < 10 ^ Decimal.digitLimit) :
    ∃ shown, Display.number number = .ok shown := by
  cases number with
  | int n =>
    have hshort := Nat.not_lt.mpr (Decimal.length_digits_le (h n rfl))
    simp only [Display.number, wholeNumber, if_neg hshort]
    exact ⟨_, rfl⟩
  | float x => exact ⟨_, rfl⟩

theorem exists_number {n : Nat} (hn : n < Decimal.Binary64.wholeLimit) {numbers : List Number}
    (h : CountsWithin n numbers) {number : Number} (hm : number ∈ numbers) :
    ∃ shown, Display.number number = .ok shown := by
  apply exists_number_of_lt
  rintro count rfl
  exact lt_of_lt_of_le (lt_of_le_of_lt (h.natAbs_le hm) hn) Decimal.Binary64.wholeLimit_le

theorem exists_content (settings : Settings) (hsize : items.length < Decimal.Binary64.wholeLimit)
    (h : value.IsRegister items) : ∃ shown, content settings value = .ok shown := by
  have hone : 1 < Decimal.Binary64.wholeLimit := Decimal.Binary64.lt_wholeLimit (by decide)
  have hbound := Nat.max_lt.mpr ⟨hone, hsize⟩
  obtain ⟨drawn, within⟩ := h
  cases drawn with
  | number n =>
    obtain ⟨shown, hshown⟩ := exists_number hbound within List.mem_cons_self
    exact ⟨[shown], by rw [content, hshown]; rfl⟩
  | groupedNumbers some keys held =>
    refine failsOnly_false_iff.mp (failsOnly_mapM fun group hm => ?_)
    have hnumber := exists_number hbound within.2 (List.mem_map_of_mem hm)
    exact (failsOnly_false_iff.mpr hnumber).bind fun _ _ => failsOnly_ok _
  | _ => exact ⟨_, rfl⟩

theorem exists_value (settings : Settings) (hsize : items.length < Decimal.Binary64.wholeLimit)
    (h : value.IsRegister items) : ∃ shown, Display.value settings value = .ok shown := by
  obtain ⟨descriptor, hd, -⟩ := h.drawn.descriptor
  obtain ⟨above, habove⟩ := exists_content settings hsize h
  rw [Display.value, Display.lines, habove, hd]
  exact ⟨_, rfl⟩

end Display

namespace Workspace

/-- What evaluation from the transactions on keeps true of a workspace: the register and the initial
value are registers, and the aliases hold well-formed commands. -/
structure Sound (items : List Transaction) (mark : List Char) (workspace : Workspace) : Prop where
  initial : workspace.initial.IsRegister items
  register : workspace.register.IsRegister items
  bodies : ∀ definition ∈ workspace.environment.aliases,
    ∀ command ∈ definition.body.commands, Query.WellFormed mark command

variable {mark : List Char}

theorem Sound.start (items : List Transaction) (mark : List Char) :
    Sound items mark (.start (.ofTransactions items)) :=
  ⟨.start items, .start items, fun _ hm => absurd hm List.not_mem_nil⟩

theorem Sound.evaluateLine {workspace : Workspace} (h : Sound items mark workspace)
    {α : Type} (printer : Option (Value → Except Failure α)) {line : Line}
    (hline : ∀ command ∈ line.body.commands, Query.WellFormed mark command) :
    Sound items mark (workspace.evaluateLine printer line).workspace := by
  constructor
  · rw [initial_evaluateLine]
    exact h.initial
  · exact evaluateLine_preserves printer workspace (fun _ _ _ _ => h.initial.transform) line
      h.register
  · intro definition hm
    rcases mem_aliases_evaluateLine hm with hm | rfl
    · exact h.bodies definition hm
    · exact hline

/-- A line of well-formed commands does not break down. -/
theorem Sound.answered {workspace : Workspace} (h : Sound items mark workspace)
    (hsize : items.length < Decimal.Binary64.wholeLimit) {α : Type}
    {printer : Value → Except Failure α}
    (prints : ∀ value : Value, value.IsRegister items → Answers (printer value)) {line : Line}
    (hline : ∀ command ∈ line.body.commands, Query.WellFormed mark command) (cause : Breakdown) :
    (workspace.evaluateLine (some printer) line).failure? ≠ some (.breakdown cause) := by
  cases line with
  | pipeline body =>
    exact Scope.answered_run (workspace.scope (some printer))
      (fun _ _ _ _ => h.initial.transform)
      (fun _ _ _ hcommand hbuiltin => answers_transform hsize hcommand hbuiltin h.initial)
      (fun value hvalue => (prints value hvalue).map _) h.bodies [] body.commands
      workspace.register hline h.register cause
  | aliasDef definition =>
    by_cases hname : definition.name ∈ workspace.environment.names
    · rw [Workspace.evaluateLine, define_of_taken workspace hname]
      intro he
      cases he
    · obtain ⟨environment, -, hdefine⟩ := define_of_new (α := α) workspace hname
      rw [Workspace.evaluateLine, hdefine]
      intro he
      cases he

end Workspace

end LedgerQuery
