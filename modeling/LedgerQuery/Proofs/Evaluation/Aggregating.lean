import LedgerQuery.Proofs.Evaluation.Types
import LedgerQuery.Proofs.Operation.Aggregation

/-! Sums, averages and counts of groups are those of what each group holds, under the same keys. So
it does not matter whether groups are turned round or cut before or after. An average is the sum
divided by the count, in each group as for all transactions. -/

namespace LedgerQuery

inductive Aggregation where
  | sum
  | average
  | count

namespace Aggregation

def apply : Aggregation → Value → Except Failure Value
  | .sum => Operation.total
  | .average => Operation.average
  | .count => Operation.count

def number : Aggregation → List Transaction → Number
  | .sum, items => .float (Operation.amountTotal items)
  | .average, items => .float (Operation.amountTotal items / Operation.floatOfCount items.length)
  | .count, items => .int items.length

variable {items : List Transaction} {groups : Groups (List Transaction)}

theorem apply_transactions (aggregation : Aggregation) (some : items ≠ []) :
    aggregation.apply (.transactions items) = .ok (.number (aggregation.number items)) := by
  cases aggregation with
  | sum => rfl
  | average => simp [apply, number, Operation.average, Operation.averageAmount, some, Except.map]
  | count => rfl

theorem apply_groups (aggregation : Aggregation) (held : ∀ group ∈ groups, group.2 ≠ []) :
    aggregation.apply (.groupedTransactions groups) =
      .ok (.groupedNumbers (Operation.mapGroups aggregation.number groups)) := by
  cases aggregation with
  | sum => rfl
  | average =>
    have haverage : Operation.mapGroupsM Operation.averageAmount groups =
        .ok (Operation.mapGroups average.number groups) := by
      refine Operation.mapGroupsM_of_held fun group hgroup => ?_
      rw [Operation.averageAmount, if_neg (by simpa using held group hgroup), number]
    rw [apply, Operation.average, haverage]
    rfl
  | count => rfl

end Aggregation

namespace Operation

variable {α β : Type}

theorem mapGroups_reverse (f : α → β) (groups : Groups α) :
    mapGroups f groups.reverse = (mapGroups f groups).reverse :=
  List.map_reverse

theorem mapGroups_lastItems (f : α → β) (n : Nat) (groups : Groups α) :
    mapGroups f (lastItems n groups) = lastItems n (mapGroups f groups) := by
  simp [mapGroups, lastItems, List.map_drop]

end Operation

namespace Aggregation

variable {groups : Groups (List Transaction)}

theorem apply_reverse (aggregation : Aggregation) (held : ∀ group ∈ groups, group.2 ≠ []) :
    (Operation.reverse (.groupedTransactions groups) >>= aggregation.apply) =
      Operation.reverse (.groupedNumbers (Operation.mapGroups aggregation.number groups)) := by
  have hback : ∀ group ∈ groups.reverse, group.2 ≠ [] :=
    fun group hgroup => held group (List.mem_reverse.mp hgroup)
  calc (Operation.reverse (.groupedTransactions groups) >>= aggregation.apply)
      = aggregation.apply (.groupedTransactions groups.reverse) := rfl
    _ = .ok (.groupedNumbers (Operation.mapGroups aggregation.number groups).reverse) := by
      rw [apply_groups aggregation hback, Operation.mapGroups_reverse]

theorem apply_last (aggregation : Aggregation) (some : groups ≠ [])
    (held : ∀ group ∈ groups, group.2 ≠ []) {n : Nat} (hn : n ≠ 0) :
    (Operation.last n (.groupedTransactions groups) >>= aggregation.apply) =
      Operation.last n (.groupedNumbers (Operation.mapGroups aggregation.number groups)) := by
  have hsome := Operation.lastItems_ne_nil some hn
  have hresults : Operation.mapGroups aggregation.number groups ≠ [] := by
    simpa [Operation.mapGroups] using some
  have hlast := Operation.Collects.transactionGroups.last n groups
  have hnumbers := Operation.Collects.numberGroups.last n
    (Operation.mapGroups aggregation.number groups)
  have hpart : ∀ group ∈ Operation.lastItems n groups, group.2 ≠ [] :=
    fun group hgroup => held group (List.mem_of_mem_drop hgroup)
  rw [Value.ofTransactionGroups_of_ne_nil some,
    Value.ofTransactionGroups_of_ne_nil hsome] at hlast
  rw [Value.ofNumberGroups_of_ne_nil hresults,
    Value.ofNumberGroups_of_ne_nil (Operation.lastItems_ne_nil hresults hn)] at hnumbers
  calc (Operation.last n (.groupedTransactions groups) >>= aggregation.apply)
      = aggregation.apply (.groupedTransactions (Operation.lastItems n groups)) := by
        rw [hlast]
        rfl
    _ = .ok (.groupedNumbers
          (Operation.lastItems n (Operation.mapGroups aggregation.number groups))) := by
        rw [apply_groups aggregation hpart, Operation.mapGroups_lastItems]
    _ = _ := hnumbers.symm

theorem forall₂_apply (aggregation : Aggregation) (held : ∀ group ∈ groups, group.2 ≠ []) :
    List.Forall₂ (fun group result => result.1 = group.1 ∧
        aggregation.apply (.transactions group.2) = .ok (.number result.2))
      groups (Operation.mapGroups aggregation.number groups) := by
  rw [Operation.mapGroups, List.forall₂_map_right_iff, List.forall₂_same]
  exact fun group hgroup => ⟨rfl, apply_transactions aggregation (held group hgroup)⟩

end Aggregation

/-- What a register comes to hold in groups is some transactions in each of some groups. -/
theorem Value.DrawnFrom.held {items : List Transaction} {groups : Groups (List Transaction)}
    (h : (Value.groupedTransactions groups).DrawnFrom items) :
    groups ≠ [] ∧ ∀ group ∈ groups, group.2 ≠ [] := by
  cases h with
  | groupedTransactions some _ held _ => exact ⟨some, fun group hgroup => (held group hgroup).1⟩

/-- Whatever groups of transactions a register comes to hold, sums, averages and counts are made of
each group on its own, under its key; turning round the groups or taking the last ones does the same
before and after, and the results are as many as the groups. The average of some transactions, and
so that of each group, is their sum divided by their count. -/
theorem aggregation_by_group {α : Type} {printer : Option (Value → Except Failure α)}
    {items : List Transaction} {lines : List Line} {groups : Groups (List Transaction)}
    (reached : ((Workspace.start (.ofTransactions items)).evaluateLines printer lines).register =
      .groupedTransactions groups) :
    (∀ aggregation : Aggregation, ∃ results,
      aggregation.apply (.groupedTransactions groups) = .ok (.groupedNumbers results) ∧
      List.Forall₂ (fun group result => result.1 = group.1 ∧
        aggregation.apply (.transactions group.2) = .ok (.number result.2)) groups results ∧
      (Operation.reverse (.groupedTransactions groups) >>= aggregation.apply) =
        Operation.reverse (.groupedNumbers results) ∧
      (∀ n : Nat, n ≠ 0 → (Operation.last n (.groupedTransactions groups) >>= aggregation.apply) =
        Operation.last n (.groupedNumbers results)) ∧
      Operation.count (.groupedNumbers results) = .ok (.number (.int groups.length))) ∧
    (∀ others : List Transaction, others ≠ [] → ∃ (sum : Float) (n : Nat),
      Operation.total (.transactions others) = .ok (.number (.float sum)) ∧
      Operation.count (.transactions others) = .ok (.number (.int n)) ∧
      Operation.average (.transactions others) =
        .ok (.number (.float (sum / Operation.floatOfCount n)))) ∧
    ∃ sums counts averages,
      Operation.total (.groupedTransactions groups) = .ok (.groupedNumbers sums) ∧
      Operation.count (.groupedTransactions groups) = .ok (.groupedNumbers counts) ∧
      Operation.average (.groupedTransactions groups) = .ok (.groupedNumbers averages) ∧
      ∀ (i : Nat) (key : GroupKey), (groups.map Prod.fst)[i]? = some key →
        ∃ (sum : Float) (n : Nat), sums[i]? = some (key, .float sum) ∧
          counts[i]? = some (key, .int n) ∧
          averages[i]? = some (key, .float (sum / Operation.floatOfCount n)) := by
  have hregister := Value.IsRegister.evaluateLines printer items lines
  rw [reached] at hregister
  obtain ⟨hsome, hheld⟩ := hregister.drawn.held
  have hgroups : ∀ aggregation : Aggregation, aggregation.apply (.groupedTransactions groups) =
      .ok (.groupedNumbers (Operation.mapGroups aggregation.number groups)) :=
    fun aggregation => aggregation.apply_groups hheld
  refine ⟨fun aggregation => ?_, fun others hothers => ?_, ?_⟩
  · refine ⟨_, hgroups aggregation, aggregation.forall₂_apply hheld,
      aggregation.apply_reverse hheld, fun n hn => aggregation.apply_last hsome hheld hn, ?_⟩
    rw [Operation.count, Operation.length_mapGroups]
  · exact ⟨_, others.length, Aggregation.sum.apply_transactions hothers,
      Aggregation.count.apply_transactions hothers,
      Aggregation.average.apply_transactions hothers⟩
  · refine ⟨_, _, _, hgroups .sum, hgroups .count, hgroups .average, fun i key hkey => ?_⟩
    rw [List.getElem?_map, Option.map_eq_some_iff] at hkey
    obtain ⟨group, hgroup, rfl⟩ := hkey
    refine ⟨Operation.amountTotal group.2, group.2.length, ?_, ?_, ?_⟩
    all_goals
      simp [Operation.mapGroups, hgroup, Aggregation.number]

/-- The totals of the months of three transactions, which come out of order. -/
theorem aggregation_by_group_monthly :
    let first : Transaction :=
      { hash := "h1", account := "Checking", date := ⟨2023, ⟨1, by decide⟩, 5, by decide⟩,
        amount := -10, description := "Corner Deli" }
    let second := { first with hash := "h2", date := ⟨2023, ⟨2, by decide⟩, 1, by decide⟩ }
    let items := [second, first, second]
    let workspace := Workspace.start (.ofTransactions items)
    let silent : Option (Value → Except Failure Unit) := none
    ∃ groups,
      (workspace.evaluateLines silent [.pipeline ⟨[⟨"monthly", .none⟩], "monthly"⟩]).register =
        .groupedTransactions groups ∧
      ∃ sums, Operation.total (.groupedTransactions groups) = .ok (.groupedNumbers sums) ∧
        (Operation.last 1 (.groupedTransactions groups) >>= Operation.total) =
          Operation.last 1 (.groupedNumbers sums) ∧
        Operation.count (.groupedNumbers sums) = .ok (.number (.int groups.length)) := by
  intro first second items workspace silent
  have hmonthly := Operation.grouping_of_some .month (List.cons_ne_nil second [first, second])
  have hcommand : (workspace.scope silent).runCommand [] ⟨"monthly", .none⟩ workspace.register =
      { register := .groupedTransactions (Operation.buckets KeyKind.month.keyOf items) } := by
    change (workspace.scope silent).runBuiltin .monthly .none (.transactions items) = _
    rw [Scope.runBuiltin, Builtin.transform, ← Operation.grouping, hmonthly]
    rfl
  have hreached : (workspace.evaluateLines silent
      [.pipeline ⟨[⟨"monthly", .none⟩], "monthly"⟩]).register =
        .groupedTransactions (Operation.buckets KeyKind.month.keyOf items) := by
    simp only [Workspace.evaluateLines, List.foldl_cons, List.foldl_nil, Workspace.evaluateLine,
      Workspace.runCommands, Scope.run_cons, hcommand, Scope.run_nil, Outcome.andThen,
      Outcome.after]
  obtain ⟨hgroups, -⟩ := aggregation_by_group hreached
  obtain ⟨sums, hsums, -, -, hlast, hcount⟩ := hgroups .sum
  exact ⟨_, hreached, sums, hsums, hlast 1 one_ne_zero, hcount⟩

end LedgerQuery
