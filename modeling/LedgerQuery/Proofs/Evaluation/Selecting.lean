import LedgerQuery.Proofs.Evaluation.Expansion
import LedgerQuery.Proofs.Evaluation.Types
import LedgerQuery.Proofs.Operation.Selection

/-! Selections one after another. As long as something is left, it matters neither in what order
transactions are selected nor how often by the same criterion. But of nothing no selection is made:
a chain of selections is refused at the first one behind those that left nothing. -/

namespace LedgerQuery

inductive Criterion where
  | search (pattern : String)
  | tags (matchers : List TagMatcher)

namespace Criterion

def Valid : Criterion → Prop
  | .search pattern => ∃ found, Pattern.read pattern.toList = .ok found
  | .tags _ => True

def keeps : Criterion → Transaction → Bool
  | .search pattern, t =>
    match Pattern.read pattern.toList with
    | .ok found => found.occursIn t.description
    | .error _ => false
  | .tags matchers, t => t.Meets matchers

def apply : Criterion → Value → Except Failure Value
  | .search pattern => Operation.search pattern
  | .tags matchers => Operation.tags matchers

def builtin : Criterion → Builtin
  | .search _ => .search
  | .tags _ => .tags

def argument : Criterion → Argument
  | .search pattern => .pattern pattern
  | .tags matchers => .tags matchers

def command (criterion : Criterion) : Command :=
  ⟨criterion.builtin.keyword, criterion.argument⟩

variable {criterion first second : Criterion} {items : List Transaction}

theorem apply_transactions (valid : criterion.Valid) (items : List Transaction) :
    criterion.apply (.transactions items) = .ok (Operation.select criterion.keeps items) := by
  cases criterion with
  | search pattern =>
    obtain ⟨found, hfound⟩ := valid
    have hkeeps : (Criterion.search pattern).keeps = fun t => found.occursIn t.description := by
      funext t
      simp only [keeps, hfound]
    rw [apply, Operation.search, hkeeps, hfound]
  | tags matchers => exact Operation.tags_transactions matchers items

theorem apply_kept (valid : first.Valid) (some : items.filter second.keeps ≠ []) :
    first.apply (Operation.select second.keeps items) =
      .ok (.ofTransactions (items.filter fun t => first.keeps t && second.keeps t)) := by
  rw [Operation.select_of_some some, apply_transactions valid, Operation.select,
    List.filter_filter]

theorem apply_reverse (valid : criterion.Valid) (some : items.filter criterion.keeps ≠ []) :
    (Operation.reverse (.transactions items) >>= criterion.apply) =
      Operation.reverse (Operation.select criterion.keeps items) := by
  have hsome : (items.reverse).filter criterion.keeps ≠ [] := by
    rw [List.filter_reverse]
    exact List.reverse_ne_nil_iff.mpr some
  calc (Operation.reverse (.transactions items) >>= criterion.apply)
      = criterion.apply (.transactions items.reverse) := rfl
    _ = .ok (.transactions (items.filter criterion.keeps).reverse) := by
      rw [apply_transactions valid, Operation.select_of_some hsome, List.filter_reverse]
    _ = Operation.reverse (Operation.select criterion.keeps items) := by
      rw [Operation.select_of_some some]
      rfl

end Criterion

namespace Scope

variable {α : Type} {scope : Scope α} {opened : List String} {items : List Transaction}
  {criterion : Criterion} {chain : List Criterion}

def runCriteria (scope : Scope α) (opened : List String) (chain : List Criterion)
    (register : Value) : Outcome α :=
  scope.run opened (chain.map (·.command)) register

theorem runCriteria_concat (before : List Criterion) (register : Value) :
    scope.runCriteria opened (before ++ [criterion]) register =
      (scope.runCriteria opened before register).andThen
        (scope.runBuiltin criterion.builtin criterion.argument) := by
  have hlast : scope.run opened [criterion.command] =
      scope.runBuiltin criterion.builtin criterion.argument := by
    funext value
    rw [run_cons, funext fun register => scope.run_nil opened register, Outcome.andThen_done]
    cases criterion with
    | search pattern => rfl
    | tags matchers => rfl
  rw [runCriteria, List.map_append, run_append, List.map_singleton, hlast, runCriteria]

theorem runBuiltin_selects (valid : criterion.Valid) :
    scope.runBuiltin criterion.builtin criterion.argument (.transactions items) =
      { register := Operation.select criterion.keeps items } := by
  have hmade : criterion.builtin.transform scope.initial criterion.argument
      (.transactions items) = .ok (Operation.select criterion.keeps items) := by
    rw [← Criterion.apply_transactions valid]
    cases criterion with
    | search pattern => rfl
    | tags matchers => rfl
  have hprint : criterion.builtin ≠ .print := by
    cases criterion with
    | search pattern => exact nofun
    | tags matchers => exact nofun
  rw [runBuiltin, hmade]
  simp [hprint]

/-- What is left when a criterion is applied to nothing. -/
def refused (criterion : Criterion) : Outcome α :=
  { register := .empty
    failure? := some (.refusal (.typeMismatch criterion.builtin.operation .empty)) }

theorem runBuiltin_refuses :
    scope.runBuiltin criterion.builtin criterion.argument .empty = refused criterion := by
  cases criterion with
  | search pattern => rfl
  | tags matchers => rfl

/-- A chain of selections comes to its end, and nothing is left before it; or some of them leave
nothing, and the next one is refused. -/
theorem runCriteria_cases (scope : Scope α) (opened : List String)
    (valid : ∀ criterion ∈ chain, criterion.Valid) (some : items ≠ []) :
    (scope.runCriteria opened chain (.transactions items) =
          { register := .ofTransactions (items.filter fun t => chain.all (·.keeps t)) } ∧
        ∀ before, before <+: chain → before ≠ chain →
          scope.runCriteria opened before (.transactions items) ≠ { register := .empty }) ∨
      (∃ criterion ∈ chain,
        scope.runCriteria opened chain (.transactions items) = refused criterion) ∧
        ∃ before, before <+: chain ∧ before ≠ chain ∧
          scope.runCriteria opened before (.transactions items) = { register := .empty } := by
  induction chain using List.reverseRecOn with
  | nil =>
    left
    constructor
    · simp [runCriteria, Value.ofTransactions_of_ne_nil some]
    · intro before hbefore hproper
      exact absurd (List.prefix_nil.mp hbefore) hproper
  | append_singleton chain criterion ih =>
    obtain ⟨hchain, hcriterion⟩ := List.forall_mem_append.mp valid
    have hvalid := List.forall_mem_singleton.mp hcriterion
    have hlonger : chain ≠ chain ++ [criterion] := by simp
    rcases ih hchain with ⟨hrun, hsome⟩ | ⟨⟨failed, hfailed, hrun⟩, before, hbefore, -, hnone⟩
    · by_cases hkept : items.filter (fun t => chain.all (·.keeps t)) = []
      · rw [hkept] at hrun
        right
        refine ⟨⟨criterion, by simp, ?_⟩, chain, List.prefix_append chain _, hlonger, hrun⟩
        rw [runCriteria_concat, hrun]
        exact runBuiltin_refuses
      · rw [Value.ofTransactions_of_ne_nil hkept] at hrun
        left
        constructor
        · have hboth : (items.filter fun t => chain.all (·.keeps t)).filter criterion.keeps =
              items.filter fun t => (chain ++ [criterion]).all (·.keeps t) := by
            simp [List.filter_filter, Bool.and_comm]
          rw [runCriteria_concat, hrun, ← hboth]
          exact runBuiltin_selects hvalid
        · intro before hbefore hproper
          rcases List.prefix_concat_iff.mp hbefore with rfl | hbefore
          · exact absurd rfl hproper
          · by_cases hwhole : before = chain
            · rw [hwhole, hrun]
              exact fun he => nomatch congrArg Outcome.register he
            · exact hsome before hbefore hwhole
    · right
      refine ⟨⟨failed, List.mem_append_left _ hfailed, ?_⟩, before,
        hbefore.trans (List.prefix_append chain _), ?_, hnone⟩
      · rw [runCriteria_concat, hrun]
        rfl
      · rintro rfl
        have hlength := hbefore.length_le
        simp at hlength

end Scope

/-- Where something is left, selecting by one criterion twice is selecting once, turning round goes
before or after, and two criteria commute. A chain of selections fails exactly if some of them, not
all, leave nothing; what fails is then that the next one is of nothing. -/
theorem selection_algebra {α : Type} (scope : Scope α) (opened : List String)
    {items : List Transaction} (hitems : items ≠ []) {first second : Criterion}
    (hfirst : first.Valid) (hsecond : second.Valid) {chain : List Criterion}
    (hchain : ∀ criterion ∈ chain, criterion.Valid) :
    let value := Value.transactions items
    let outcome := scope.runCriteria opened chain value
    (∃ kept others, first.apply value = .ok kept ∧ second.apply value = .ok others ∧
        (kept ≠ .empty → first.apply kept = .ok kept ∧
          (Operation.reverse value >>= first.apply) = Operation.reverse kept) ∧
        (kept ≠ .empty → others ≠ .empty →
          second.apply kept = first.apply others ∧ first.apply others =
            .ok (.ofTransactions (items.filter fun t => first.keeps t && second.keeps t)))) ∧
      (outcome.failure? ≠ none ↔ ∃ before, before <+: chain ∧ before ≠ chain ∧
        scope.runCriteria opened before value = { register := .empty }) ∧
      (outcome.failure? ≠ none → outcome.register = .empty ∧ ∃ criterion ∈ chain,
        outcome.failure? = some (.refusal (.typeMismatch criterion.builtin.operation .empty))) ∧
      (outcome.failure? = none →
        outcome.register = .ofTransactions (items.filter fun t => chain.all (·.keeps t))) := by
  intro value outcome
  constructor
  · refine ⟨_, _, Criterion.apply_transactions hfirst items,
      Criterion.apply_transactions hsecond items, fun hkept => ?_, fun hkept hothers => ?_⟩
    · have hsome := fun hnone => hkept (Operation.select_eq_empty_iff.mpr hnone)
      constructor
      · rw [Criterion.apply_kept hfirst hsome]
        simp [Operation.select]
      · exact Criterion.apply_reverse hfirst hsome
    · have hsome := fun hnone => hkept (Operation.select_eq_empty_iff.mpr hnone)
      have hothers := fun hnone => hothers (Operation.select_eq_empty_iff.mpr hnone)
      constructor
      · rw [Criterion.apply_kept hsecond hsome, Criterion.apply_kept hfirst hothers]
        simp [Bool.and_comm]
      · exact Criterion.apply_kept hfirst hothers
  · rcases scope.runCriteria_cases opened hchain hitems with
      ⟨hrun, hsome⟩ | ⟨⟨failed, hfailed, hrun⟩, hnone⟩
    · have hdone : outcome.failure? = none := congrArg Outcome.failure? hrun
      refine ⟨⟨fun h => absurd hdone h, ?_⟩, fun h => absurd hdone h,
        fun _ => congrArg Outcome.register hrun⟩
      rintro ⟨before, hbefore, hproper, hempty⟩
      exact absurd hempty (hsome before hbefore hproper)
    · have hfailure := congrArg Outcome.failure? hrun
      have hfails : outcome.failure? ≠ none := by
        rw [hfailure]
        exact Option.some_ne_none _
      exact ⟨⟨fun _ => hnone, fun _ => hfails⟩,
        fun _ => ⟨congrArg Outcome.register hrun, failed, hfailed, hfailure⟩,
        fun h => absurd h hfails⟩

/-- Food is bought in one place; what is food and no food is nothing, and is not searched. -/
theorem selection_algebra_food :
    let deli : Transaction :=
      { hash := "h1", account := "Checking", date := ⟨2023, ⟨1, by decide⟩, 5, by decide⟩,
        amount := -10, description := "Corner Deli", tags := ["food"], tags_nodup := by decide }
    let rent :=
      { deli with hash := "h2", description := "Rent", tags := [], tags_nodup := List.nodup_nil }
    let items := [deli, rent]
    let scope : Scope Unit := (Workspace.start (.transactions items)).scope none
    let bought := Criterion.search "deli"
    let food := Criterion.tags (Operation.asking ["food"])
    let rest := Criterion.tags (Operation.excluding ["food"])
    let outcome := scope.runCriteria [] [food, rest, bought] (.transactions items)
    items ≠ [] ∧ bought.Valid ∧ food.Valid ∧
      (∀ criterion ∈ [food, rest, bought], criterion.Valid) ∧
      (∃ others, food.apply (.transactions items) = .ok others ∧
        bought.apply others = .ok (.transactions [deli])) ∧
      outcome.register = .empty ∧ outcome.failure? ≠ none := by
  intro deli rent items scope bought food rest outcome
  have hitems : items ≠ [] := List.cons_ne_nil _ _
  have hbought : bought.Valid := Query.exists_ok_of_toBool (by decide +kernel)
  have hchain : ∀ criterion ∈ [food, rest, bought], criterion.Valid := by
    intro criterion hcriterion
    simp only [List.mem_cons, List.not_mem_nil, or_false] at hcriterion
    rcases hcriterion with rfl | rfl | rfl
    · trivial
    · trivial
    · exact hbought
  have hvalid : food.Valid := trivial
  have hdeli : bought.keeps deli = true := by decide +kernel
  have hrent : bought.keeps rent = false := by decide +kernel
  have hdelis : items.filter bought.keeps = [deli] := by simp [items, hdeli, hrent]
  have hfood : items.filter food.keeps = [deli] := rfl
  have hboth : items.filter (fun t => bought.keeps t && food.keeps t) = [deli] := by
    rw [← List.filter_filter, hfood]
    simp [hdeli]
  have hkept : bought.apply (.transactions items) = .ok (.transactions [deli]) := by
    rw [Criterion.apply_transactions hbought, Operation.select, hdelis]
    rfl
  have hothers : food.apply (.transactions items) = .ok (.transactions [deli]) := by
    rw [Criterion.apply_transactions hvalid, Operation.select, hfood]
    rfl
  obtain ⟨⟨kept, others, hk, ho, -, hcommute⟩, hfails, hrefused, -⟩ :=
    selection_algebra scope [] hitems hbought hvalid hchain
  cases hkept.symm.trans hk
  cases hothers.symm.trans ho
  obtain ⟨-, hcommute⟩ := hcommute Value.noConfusion Value.noConfusion
  have hrun : scope.runCriteria [] [food] (.transactions items) =
      { register := .transactions [deli] } := by
    rw [← List.nil_append [food], Scope.runCriteria_concat, Scope.runCriteria, List.map_nil,
      Scope.run_nil]
    simp only [Outcome.andThen, Scope.runBuiltin_selects hvalid]
    rfl
  have hnone : scope.runCriteria [] [food, rest] (.transactions items) =
      { register := .empty } := by
    rw [← List.singleton_append, Scope.runCriteria_concat, hrun]
    rfl
  have hfailed : outcome.failure? ≠ none :=
    hfails.mpr ⟨[food, rest], by simp, by simp, hnone⟩
  rw [hboth] at hcommute
  exact ⟨hitems, hbought, hvalid, hchain, ⟨_, hothers, hcommute⟩, (hrefused hfailed).1, hfailed⟩

end LedgerQuery
