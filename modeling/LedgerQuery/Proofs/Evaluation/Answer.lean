import LedgerQuery.Display.Console
import LedgerQuery.Evaluation.Workspace
import LedgerQuery.Proofs.Evaluation.Run
import Mathlib.Data.List.Forall2

/-! # Answers and refusals -/

namespace LedgerQuery

/-! ## How results fail

What can be wrong with steps taken one after another is what can be wrong with one of them. A result
answers if it is a value or a refusal; running commands does if every builtin command and the
printer do on the values that a run comes by. -/

section Answers
variable {α β : Type} {F : Failure → Prop}

def FailsOnly (F : Failure → Prop) (result : Except Failure α) : Prop :=
  ∀ failure, result = .error failure → F failure

theorem failsOnly_ok (value : α) : FailsOnly F (.ok value) :=
  fun _ h => nomatch h

theorem failsOnly_error {failure : Failure} (h : F failure) :
    FailsOnly F (.error failure : Except Failure α) := by
  intro other he
  cases he
  exact h

theorem failsOnly_false_iff {result : Except Failure α} :
    FailsOnly (fun _ => False) result ↔ ∃ value, result = .ok value := by
  constructor
  · intro h
    cases result with
    | error failure => exact (h failure rfl).elim
    | ok value => exact ⟨value, rfl⟩
  · rintro ⟨value, rfl⟩
    exact failsOnly_ok value

theorem FailsOnly.bind {result : Except Failure α} {next : α → Except Failure β}
    (h : FailsOnly F result) (k : ∀ value, result = .ok value → FailsOnly F (next value)) :
    FailsOnly F (result >>= next) := by
  intro failure he
  cases hr : result with
  | error cause =>
    rw [hr] at he h
    cases he
    exact h failure rfl
  | ok value =>
    rw [hr] at he
    exact k value hr failure he

theorem FailsOnly.map {result : Except Failure α} (h : FailsOnly F result) (f : α → β) :
    FailsOnly F (result.map f) := by
  intro failure he
  cases hr : result with
  | error cause =>
    rw [hr] at he h
    cases he
    exact h failure rfl
  | ok value =>
    rw [hr] at he
    cases he

theorem failsOnly_mapM {f : α → Except Failure β} {items : List α}
    (h : ∀ item ∈ items, FailsOnly F (f item)) : FailsOnly F (items.mapM f) := by
  induction items with
  | nil => exact failsOnly_ok []
  | cons item items ih =>
    obtain ⟨hitem, hitems⟩ := List.forall_mem_cons.mp h
    rw [List.mapM_cons]
    exact hitem.bind fun value _ => (ih hitems).bind fun values _ => failsOnly_ok (value :: values)

theorem failsOnly_foldlM {f : β → α → Except Failure β} (h : ∀ sum item, FailsOnly F (f sum item))
    (items : List α) (sum : β) : FailsOnly F (items.foldlM f sum) := by
  induction items generalizing sum with
  | nil => exact failsOnly_ok sum
  | cons item items ih =>
    rw [List.foldlM_cons]
    exact (h sum item).bind fun next _ => ih next

/-- The result is a value or a refusal. -/
def Answers (result : Except Failure α) : Prop :=
  ∀ cause, result ≠ .error (.breakdown cause)

theorem answers_ok (value : α) : Answers (.ok value) :=
  fun _ h => nomatch h

theorem answers_refusal (cause : Refusal) : Answers (.error (.refusal cause) : Except Failure α) :=
  fun _ h => nomatch h

theorem answers_of_exists {result : Except Failure α} (h : ∃ value, result = .ok value) :
    Answers result := by
  obtain ⟨value, rfl⟩ := h
  exact answers_ok value

theorem Answers.map {result : Except Failure α} (h : Answers result) (f : α → β) :
    Answers (result.map f) := by
  intro cause he
  cases result with
  | error failure =>
    cases he
    exact h cause rfl
  | ok value => cases he

theorem mapM_eq_ok_iff {f : α → Except Failure β} {items : List α} {values : List β} :
    items.mapM f = .ok values ↔
      List.Forall₂ (fun item value => f item = .ok value) items values := by
  induction items generalizing values with
  | nil =>
    rw [List.forall₂_nil_left_iff]
    exact ⟨fun h => by cases h; rfl, fun h => by rw [h]; rfl⟩
  | cons item items ih =>
    rw [List.mapM_cons, List.forall₂_cons_left_iff]
    constructor
    · intro h
      cases hi : f item with
      | error failure =>
        rw [hi] at h
        cases h
      | ok value =>
        cases hr : items.mapM f with
        | error failure =>
          rw [hi, hr] at h
          cases h
        | ok rest =>
          rw [hi, hr] at h
          cases h
          exact ⟨value, rest, rfl, ih.mp hr, rfl⟩
    · rintro ⟨value, rest, hi, hr, rfl⟩
      rw [hi, ih.mpr hr]
      rfl

theorem length_of_mapM {f : α → Except Failure β} {items : List α} {values : List β}
    (h : items.mapM f = .ok values) : values.length = items.length :=
  (mapM_eq_ok_iff.mp h).length_eq.symm

def Outcome.Answered (outcome : Outcome α) : Prop :=
  ∀ cause, outcome.failure? ≠ some (.breakdown cause)

namespace Scope

theorem answered_runBuiltin {scope : Scope α} {builtin : Builtin} {argument : Argument}
    {register : Value} (h : Answers (builtin.transform scope.initial argument register))
    (hprinted : Answers (scope.printed register)) :
    (scope.runBuiltin builtin argument register).Answered := by
  intro cause
  unfold runBuiltin
  cases ht : builtin.transform scope.initial argument register with
  | error failure =>
    rintro he
    cases he
    exact h cause ht
  | ok value =>
    dsimp only
    by_cases hp : builtin = .print
    · rw [if_pos hp]
      cases hs : scope.printed register with
      | error failure =>
        rintro he
        cases he
        exact hprinted cause hs
      | ok printed => exact nofun
    · rw [if_neg hp]
      exact nofun

/-- A run of good commands answers if every builtin keeps the values good and answers on them, and
the commands of the aliases are good as well. -/
theorem answered_run (scope : Scope α) {Good : Command → Prop} {P : Value → Prop}
    (keeps : ∀ (builtin : Builtin) (argument : Argument) (value result : Value), P value →
      builtin.transform scope.initial argument value = .ok result → P result)
    (answers : ∀ (builtin : Builtin) (command : Command) (value : Value), Good command →
      Builtin.ofKeyword? command.keyword = some builtin → P value →
      Answers (builtin.transform scope.initial command.argument value))
    (prints : ∀ value, P value → Answers (scope.printed value))
    (bodies : ∀ definition ∈ scope.environment.aliases,
      ∀ command ∈ definition.body.commands, Good command)
    (opened : List String) (commands : List Command) (register : Value)
    (hgood : ∀ command ∈ commands, Good command) (h : P register) :
    (scope.run opened commands register).Answered := by
  induction opened, commands, register using Scope.run.induct scope with
  | case1 opened register =>
    rw [run_nil]
    intro cause he
    cases he
  | case2 opened register command rest inner following =>
    obtain ⟨hcommand, hrest⟩ := List.forall_mem_cons.mp hgood
    have kept := scope.runCommand_preserves keeps opened command register h
    have first : (scope.runCommand opened command register).Answered := by
      unfold runCommand
      cases hb : Builtin.ofKeyword? command.keyword with
      | some builtin =>
        exact answered_runBuiltin (answers builtin command register hcommand hb h)
          (prints register h)
      | none =>
        dsimp only
        cases hd : scope.environment.find? command.keyword with
        | none =>
          intro cause he
          cases he
        | some definition =>
          by_cases ho : definition.name ∈ opened
          · simp only [if_pos ho]
            intro cause he
            cases he
          · simp only [if_neg ho]
            have hmem : definition ∈ scope.environment.aliases := List.mem_of_find?_eq_some hd
            exact inner definition hd ho (bodies definition hmem) h
    rw [run_cons, Outcome.andThen]
    cases hf : (scope.runCommand opened command register).failure? with
    | some failure => exact first
    | none => exact following _ hrest kept

end Scope

end Answers

/-! ## How operations fail

Where an operation refuses to work, it complains of the value: of its type, or that there is nothing
in it. It knows nothing of lines, words and aliases, and no more does the display of a value. -/

/-- No line, word or alias is at fault. -/
def Failure.OfValue : Failure → Prop
  | .refusal (.typeMismatch _ _) => True
  | .refusal (.noTransactions _) => True
  | .refusal _ => False
  | .breakdown _ => True

namespace Operation

variable {α β : Type}

theorem ofValue_mismatch (operation : String) (value : Value) :
    FailsOnly Failure.OfValue (value.mismatch operation : Except Failure α) := by
  unfold Value.mismatch
  cases value.descriptor? with
  | none => exact failsOnly_error trivial
  | some actual => exact failsOnly_error trivial

theorem ofValue_toFloat (number : Number) : FailsOnly Failure.OfValue (toFloat number) := by
  cases number with
  | float x => exact failsOnly_ok x
  | int n =>
    unfold toFloat
    dsimp only
    cases Decimal.Binary64.ofInt? n with
    | none => exact failsOnly_error trivial
    | some x => exact failsOnly_ok _

theorem ofValue_add (a b : Number) : FailsOnly Failure.OfValue (add a b) := by
  unfold add
  split
  · exact failsOnly_ok _
  · exact (ofValue_toFloat _).bind fun x _ => (ofValue_toFloat _).bind fun y _ => failsOnly_ok _

theorem ofValue_averageAmount (items : List Transaction) :
    FailsOnly Failure.OfValue (averageAmount items) := by
  unfold averageAmount
  split
  · exact failsOnly_error trivial
  · exact failsOnly_ok _

theorem ofValue_averageNumbers (numbers : List Number) :
    FailsOnly Failure.OfValue (averageNumbers numbers) := by
  unfold averageNumbers
  refine (failsOnly_mapM fun number _ => ofValue_toFloat number).bind fun xs _ => ?_
  split
  · exact failsOnly_error trivial
  · exact failsOnly_ok _

theorem ofValue_average (value : Value) : FailsOnly Failure.OfValue (average value) := by
  cases value with
  | number n => exact (ofValue_toFloat n).map _
  | empty => exact failsOnly_error trivial
  | transactions items => exact (ofValue_averageAmount items).map _
  | groupedTransactions groups =>
    apply FailsOnly.map
    exact failsOnly_mapM fun group _ => (ofValue_averageAmount group.2).map _
  | groupedNumbers groups => exact (ofValue_averageNumbers _).map _
  | foreign kind => exact ofValue_mismatch "avg" (.foreign kind)

theorem ofValue_total (value : Value) : FailsOnly Failure.OfValue (total value) := by
  cases value with
  | groupedNumbers groups => exact (failsOnly_foldlM ofValue_add _ _).map _
  | empty => exact ofValue_mismatch "sum" .empty
  | foreign kind => exact ofValue_mismatch "sum" (.foreign kind)
  | _ => exact failsOnly_ok _

theorem ofValue_count (value : Value) : FailsOnly Failure.OfValue (count value) := by
  cases value with
  | foreign kind => exact ofValue_mismatch "count" (.foreign kind)
  | _ => exact failsOnly_ok _

theorem ofValue_last (n : Int) (value : Value) : FailsOnly Failure.OfValue (last n value) := by
  unfold last
  split
  · exact failsOnly_ok _
  · split
    · exact failsOnly_error trivial
    · split
      · exact failsOnly_ok _
      · exact failsOnly_ok _
      · exact failsOnly_ok _
      · exact ofValue_mismatch "last" _

theorem ofValue_reverse (value : Value) : FailsOnly Failure.OfValue (reverse value) := by
  cases value with
  | number n => exact ofValue_mismatch "reverse" (.number n)
  | foreign kind => exact ofValue_mismatch "reverse" (.foreign kind)
  | _ => exact failsOnly_ok _

theorem ofValue_sortedByKey (groups : Groups α) :
    FailsOnly Failure.OfValue (sortedByKey groups) := by
  unfold sortedByKey
  split
  · exact failsOnly_ok _
  · split
    · exact failsOnly_error trivial
    · exact failsOnly_ok _

theorem ofValue_ofGroups (groups : Groups Value) :
    FailsOnly Failure.OfValue (Value.ofGroups groups) := by
  unfold Value.ofGroups
  split
  · exact failsOnly_ok _
  · split
    · exact failsOnly_ok _
    · exact failsOnly_error trivial

theorem ofValue_ofPairs (pairs : Groups Value) (sort : Bool) :
    FailsOnly Failure.OfValue (Value.ofPairs pairs sort) := by
  unfold Value.ofPairs
  split
  · exact failsOnly_ok _
  · split
    · exact (ofValue_sortedByKey pairs).bind fun sorted _ => ofValue_ofGroups sorted
    · exact ofValue_ofGroups pairs

theorem ofValue_groupBy (operation : String) (keyOf : Transaction → GroupKey) (value : Value) :
    FailsOnly Failure.OfValue (groupBy operation keyOf value) := by
  unfold groupBy
  split
  · exact ofValue_ofPairs _ true
  · exact ofValue_mismatch operation _

theorem ofValue_search (pattern : String) (value : Value) :
    FailsOnly Failure.OfValue (search pattern value) := by
  unfold search
  split
  · split
    · exact failsOnly_ok _
    · exact failsOnly_error trivial
  · exact ofValue_mismatch "search" _

theorem ofValue_tags (matchers : List TagMatcher) (value : Value) :
    FailsOnly Failure.OfValue (tags matchers value) := by
  unfold tags tagFilter
  split
  · exact failsOnly_ok _
  · exact ofValue_mismatch "tag_filter" _

end Operation

/-- Whatever a builtin command fails with is about the value or its argument. -/
theorem ofValue_transform (builtin : Builtin) (initial : Value) (argument : Argument)
    (value : Value) : FailsOnly Failure.OfValue (builtin.transform initial argument value) := by
  unfold Builtin.transform
  split
  · exact Operation.ofValue_average value
  · exact Operation.ofValue_count value
  · exact Operation.ofValue_last _ value
  · exact Operation.ofValue_groupBy _ _ value
  · exact failsOnly_ok value
  · exact failsOnly_ok initial
  · exact Operation.ofValue_reverse value
  · exact Operation.ofValue_search _ value
  · exact Operation.ofValue_total value
  · exact Operation.ofValue_tags _ value
  · exact Operation.ofValue_groupBy _ _ value
  · exact failsOnly_error trivial

namespace Display

theorem ofValue_number (number : Number) :
    FailsOnly Failure.OfValue (Display.number number) := by
  cases number with
  | float x => exact failsOnly_ok _
  | int n =>
    unfold Display.number wholeNumber
    dsimp only
    split
    · exact failsOnly_error trivial
    · exact failsOnly_ok _

theorem ofValue_content (settings : Settings) (value : Value) :
    FailsOnly Failure.OfValue (content settings value) := by
  unfold content
  split
  · exact (ofValue_number _).map _
  · exact failsOnly_ok _
  · exact failsOnly_ok _
  · exact failsOnly_mapM fun group _ => (ofValue_number group.2).bind fun _ _ => failsOnly_ok _
  · exact failsOnly_ok _
  · exact Operation.ofValue_mismatch "print" _

theorem ofValue_value (settings : Settings) (value : Value) :
    FailsOnly Failure.OfValue (Display.value settings value) := by
  refine FailsOnly.map ((ofValue_content settings value).bind fun above _ => ?_) _
  refine FailsOnly.bind ?_ fun _ _ => failsOnly_ok _
  unfold Value.descriptor
  split
  · exact failsOnly_ok _
  · exact failsOnly_error trivial

end Display

end LedgerQuery
