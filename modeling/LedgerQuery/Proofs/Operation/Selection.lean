import LedgerQuery.Operation
import LedgerQuery.Proofs.Operation.Aggregation
import LedgerQuery.Proofs.Operation.Grouping
import LedgerQuery.Proofs.Query.Grammar
import Mathlib.Data.List.Basic
import Mathlib.Data.List.Sort

/-! # Selection -/

namespace LedgerQuery

/-! ## Selecting and grouping can change places

The groups of what is selected are the groups of all, selected from one by one, without those of
which nothing is left. -/

instance : Std.Irrefl fun a b : GroupKey => a.before b = true :=
  ⟨fun _ h => GroupKey.ne_of_before h rfl⟩

instance : Std.Antisymm fun a b : GroupKey => a.before b = true :=
  ⟨fun a b h k => by rw [GroupKey.before_iff] at h k; omega⟩

namespace Operation

inductive Selection : (Value → Except Failure Value) → Prop where
  | search {pattern : String} {found : Pattern.Expr}
      (valid : Pattern.read pattern.toList = .ok found) : Selection (search pattern)
  | tags (matchers : List TagMatcher) : Selection (tags matchers)

variable {keyOf : Transaction → GroupKey} {items : List Transaction}
  {selection : Value → Except Failure Value} {test : Transaction → Bool}

theorem Selection.exists_test (h : Selection selection) :
    ∃ test, ∀ items, selection (.transactions items) = .ok (select test items) := by
  cases h with
  | @search pattern found valid =>
    refine ⟨fun t => found.occursIn t.description, fun items => ?_⟩
    rw [Operation.search, valid]
  | tags matchers => exact ⟨_, fun _ => rfl⟩

theorem select_eq_empty_iff : select test items = .empty ↔ items.filter test = [] := by
  unfold select Value.ofTransactions
  by_cases h : items.filter test = []
  · simp [h]
  · simp [h]

theorem select_of_some (some : items.filter test ≠ []) :
    select test items = .transactions (items.filter test) :=
  if_neg (by simpa using some)

/-- The keys that are left are those of which a transaction is left. -/
theorem sortedKeys_filter {kind : KeyKind} (one : ∀ t, (keyOf t).kind = kind) :
    sortedKeys keyOf (items.filter test) = (sortedKeys keyOf items).filter
      fun key => (items.filter (keyOf · = key)).filter test ≠ [] := by
  have ascend : ∀ part, (sortedKeys keyOf part).Pairwise fun a b => a.before b = true :=
    fun part => sortedKeys_ascend fun t _ => one t
  -- Both ascend strictly, so it is enough that they have the same members.
  refine List.Pairwise.eq_of_mem_iff (ascend _) ((ascend items).sublist List.filter_sublist)
    fun key => ?_
  rw [List.mem_filter, mem_sortedKeys, mem_sortedKeys, decide_eq_true_eq]
  constructor
  · rintro ⟨t, ht, rfl⟩
    obtain ⟨ht, htest⟩ := List.mem_filter.mp ht
    refine ⟨⟨t, ht, rfl⟩, List.ne_nil_of_mem (a := t) ?_⟩
    simp [ht, htest]
  · rintro ⟨-, hne⟩
    obtain ⟨t, ht⟩ := List.exists_mem_of_ne_nil _ hne
    simp only [List.mem_filter, decide_eq_true_eq] at ht
    exact ⟨t, List.mem_filter.mpr ⟨ht.1.1, ht.2⟩, ht.1.2⟩

theorem buckets_filter {kind : KeyKind} (one : ∀ t, (keyOf t).kind = kind) :
    buckets keyOf (items.filter test) =
      (mapGroups (List.filter test) (buckets keyOf items)).filter (·.2 ≠ []) := by
  have hkept : ∀ key, (items.filter test).filter (keyOf · = key) =
      (items.filter (keyOf · = key)).filter test := by
    intro key
    rw [List.filter_filter, List.filter_filter]
    exact List.filter_congr fun t _ => Bool.and_comm _ _
  simp only [buckets, heldUnder, mapGroups, sortedKeys_filter one, hkept, List.map_map,
    List.filter_map, Function.comp_def]

/-- What is selected from each group, without the groups of which nothing is left. -/
theorem filter_select_groups (groups : Groups (List Transaction)) :
    ((mapGroups (List.filter test) groups).filter (·.2 ≠ [])).map
        (fun group => (group.1, Value.transactions group.2)) =
      (mapGroups (select test) groups).filter (·.2 ≠ .empty) := by
  induction groups with
  | nil => rfl
  | cons group groups ih =>
    simp only [mapGroups] at ih ⊢
    by_cases h : group.2.filter test = []
    · have hnone := select_eq_empty_iff.mpr h
      simpa [h, hnone] using ih
    · simpa [h, select_of_some h] using ih

/-- Groups of selected transactions are made of what is selected from each group; if nothing is
selected from all transactions, nothing is from any group. -/
theorem selection_grouping (h : Selection selection) (kind : KeyKind) (some : items ≠ []) :
    ∃ selected groups answers,
      selection (.transactions items) = .ok selected ∧
      grouping kind (.transactions items) = .ok (.groupedTransactions groups) ∧
      mapGroupsM (fun held => selection (.transactions held)) groups = .ok answers ∧
      (selected ≠ .empty → ∃ kept, grouping kind selected = .ok (.groupedTransactions kept) ∧
        kept.map (fun group => (group.1, .transactions group.2)) =
          answers.filter (·.2 ≠ .empty)) ∧
      (selected = .empty → ∀ answer ∈ answers, answer.2 = .empty) := by
  obtain ⟨test, htest⟩ := h.exists_test
  have hkept : (buckets kind.keyOf (items.filter test)).map
      (fun group => (group.1, Value.transactions group.2)) =
        (mapGroups (select test) (buckets kind.keyOf items)).filter (·.2 ≠ .empty) := by
    rw [buckets_filter kind.kind_keyOf]
    exact filter_select_groups _
  refine ⟨select test items, buckets kind.keyOf items,
    mapGroups (select test) (buckets kind.keyOf items), htest items, grouping_of_some kind some,
    ?_, fun hsome => ?_, fun hnone => ?_⟩
  · simp only [htest]
    exact mapGroupsM_ok (select test) _
  · have hfilter : items.filter test ≠ [] := fun he => hsome (select_eq_empty_iff.mpr he)
    rw [select_of_some hfilter]
    exact ⟨_, grouping_of_some kind hfilter, hkept⟩
  · rw [select_eq_empty_iff.mp hnone, buckets_eq_nil_iff.mpr rfl, List.map_nil, eq_comm,
      List.filter_eq_nil_iff] at hkept
    intro answer hanswer
    simpa using hkept answer hanswer

theorem selection_grouping_search :
    let deli : Transaction :=
      { hash := "h1", account := "Checking", date := ⟨2023, ⟨12, by decide⟩, 31, by decide⟩,
        amount := -10, description := "Corner Deli" }
    let rent := { deli with hash := "h2", description := "Rent" }
    let later := { rent with hash := "h3", date := ⟨2024, ⟨1, by decide⟩, 1, by decide⟩ }
    let items := [later, rent, deli]
    Selection (search "deli") ∧ items ≠ [] ∧
      search "deli" (.transactions items) = .ok (.transactions [deli]) ∧
      ∃ kept, monthly (.transactions [deli]) = .ok (.groupedTransactions kept) ∧
        ∃ groups answers, monthly (.transactions items) = .ok (.groupedTransactions groups) ∧
          mapGroupsM (fun held => search "deli" (.transactions held)) groups = .ok answers ∧
          kept.map (fun group => (group.1, .transactions group.2)) =
            answers.filter (·.2 ≠ .empty) := by
  intro deli rent later items
  obtain ⟨found, hvalid⟩ : ∃ found, Pattern.read "deli".toList = .ok found :=
    Query.exists_ok_of_toBool (by decide +kernel)
  have hsearch : Selection (search "deli") := .search hvalid
  have hsome : items ≠ [] := List.cons_ne_nil _ _
  have hdeli : search "deli" (.transactions items) = .ok (.transactions [deli]) := by
    have h : (Pattern.read "deli".toList).map (fun found =>
        (found.occursIn "Corner Deli", found.occursIn "Rent")) = .ok (true, false) := by
      decide +kernel
    rw [hvalid] at h
    have hmatches := Prod.ext_iff.mp (Except.ok.inj h)
    have hyes : found.occursIn deli.description = true := hmatches.1
    have hno : found.occursIn rent.description = false := hmatches.2
    have hlater : found.occursIn later.description = false := hno
    have hfilter : items.filter (fun t => found.occursIn t.description) = [deli] := by
      simp [items, hyes, hno, hlater]
    rw [search, hvalid]
    simp only [select, hfilter]
    rfl
  obtain ⟨selected, groups, answers, hselected, hgroups, hanswers, hkept, -⟩ :=
    selection_grouping hsearch .month hsome
  obtain rfl : .transactions [deli] = selected := Except.ok.inj (hdeli.symm.trans hselected)
  obtain ⟨kept, hmonthly, hsame⟩ := hkept Value.noConfusion
  exact ⟨hsearch, hsome, hdeli, kept, hmonthly, groups, answers, hgroups, hanswers, hsame⟩

end Operation

/-! ## What tag matchers ask for

They keep a transaction that carries a tag they ask for; and if they exclude tags, they keep every
transaction without these as well. Hence it matters neither in what order tags are named nor how
often, and excluding tags keeps what asking for them leaves out. -/

def Transaction.Carries (t : Transaction) (names : List String) : Prop :=
  ∃ name ∈ names, name ∈ t.tags

/-- The transaction carries a tag that is asked for, or there are excluded tags and it carries none
of them. -/
def Transaction.Meets (t : Transaction) (matchers : List TagMatcher) : Prop :=
  (∃ m ∈ matchers, m.negated = false ∧ m.name ∈ t.tags) ∨
    (∃ m ∈ matchers, m.negated = true) ∧ ∀ m ∈ matchers, m.negated = true → m.name ∉ t.tags

instance (t : Transaction) (names : List String) : Decidable (t.Carries names) :=
  inferInstanceAs (Decidable (∃ name ∈ names, name ∈ t.tags))

instance (t : Transaction) (matchers : List TagMatcher) : Decidable (t.Meets matchers) :=
  inferInstanceAs (Decidable ((∃ m ∈ matchers, m.negated = false ∧ m.name ∈ t.tags) ∨
    (∃ m ∈ matchers, m.negated = true) ∧ ∀ m ∈ matchers, m.negated = true → m.name ∉ t.tags))

namespace Operation

def asking (names : List String) : List TagMatcher :=
  names.map fun name => { name }

def excluding (names : List String) : List TagMatcher :=
  names.map fun name => { name, negated := true }

variable {t : Transaction} {names : List String} {matchers others : List TagMatcher}
  {items : List Transaction}

theorem hasAnyTag_iff : t.hasAnyTag names = true ↔ t.Carries names := by
  simp only [Transaction.hasAnyTag, Transaction.Carries, List.any_eq_true, List.contains_iff_mem]
  constructor
  · rintro ⟨tag, htag, hname⟩
    exact ⟨tag, hname, htag⟩
  · rintro ⟨tag, hname, htag⟩
    exact ⟨tag, htag, hname⟩

theorem hasNoneOf_iff : t.hasNoneOf names = true ↔ ¬ t.Carries names := by
  simp only [Transaction.hasNoneOf, Transaction.Carries, List.all_eq_true, Bool.not_eq_true',
    ← Bool.not_eq_true, List.contains_iff_mem]
  constructor
  · rintro h ⟨tag, hname, htag⟩
    exact h tag htag hname
  · intro h tag htag hname
    exact h ⟨tag, hname, htag⟩

theorem carries_includedTags :
    t.Carries (includedTags matchers) ↔ ∃ m ∈ matchers, m.negated = false ∧ m.name ∈ t.tags := by
  simp [Transaction.Carries, includedTags, and_assoc]

theorem carries_excludedTags :
    t.Carries (excludedTags matchers) ↔ ∃ m ∈ matchers, m.negated = true ∧ m.name ∈ t.tags := by
  simp [Transaction.Carries, excludedTags, and_assoc]

theorem meets_iff : t.Meets matchers ↔ t.Carries (includedTags matchers) ∨
    excludedTags matchers ≠ [] ∧ ¬ t.Carries (excludedTags matchers) := by
  rw [carries_includedTags, carries_excludedTags]
  simp [Transaction.Meets, excludedTags, List.filter_eq_nil_iff]

theorem keepsTags_iff :
    keepsTags (includedTags matchers) (excludedTags matchers) t = true ↔ t.Meets matchers := by
  -- No tag is among none, so only for the excluded tags it matters whether there are any.
  have hsome : t.Carries (includedTags matchers) → includedTags matchers ≠ [] := by
    rintro ⟨name, hname, -⟩
    exact List.ne_nil_of_mem hname
  rw [meets_iff, ← and_iff_right_of_imp hsome]
  simp only [keepsTags, Bool.or_eq_true, Bool.and_eq_true, Bool.not_eq_true',
    List.isEmpty_eq_false_iff, hasAnyTag_iff, hasNoneOf_iff]

theorem tags_transactions (matchers : List TagMatcher) (items : List Transaction) :
    tags matchers (.transactions items) =
      .ok (.ofTransactions (items.filter fun t => t.Meets matchers)) := by
  have hfilter : items.filter (keepsTags (includedTags matchers) (excludedTags matchers)) =
      items.filter fun t => t.Meets matchers := by
    refine List.filter_congr fun t _ => ?_
    rw [Bool.eq_iff_iff, keepsTags_iff, decide_eq_true_eq]
  rw [tags, tagFilter, select, hfilter]

theorem meets_congr (same : ∀ m, m ∈ others ↔ m ∈ matchers) :
    t.Meets others ↔ t.Meets matchers := by
  simp only [Transaction.Meets, same]

@[simp] theorem includedTags_asking : includedTags (asking names) = names := by
  simp [includedTags, asking, List.filter_map, Function.comp_def]

@[simp] theorem excludedTags_asking : excludedTags (asking names) = [] := by
  simp [excludedTags, asking]

@[simp] theorem includedTags_excluding : includedTags (excluding names) = [] := by
  simp [includedTags, excluding]

@[simp] theorem excludedTags_excluding : excludedTags (excluding names) = names := by
  simp [excludedTags, excluding, List.filter_map, Function.comp_def]

theorem includedTags_append (before after : List TagMatcher) :
    includedTags (before ++ after) = includedTags before ++ includedTags after := by
  simp [includedTags]

theorem excludedTags_append (before after : List TagMatcher) :
    excludedTags (before ++ after) = excludedTags before ++ excludedTags after := by
  simp [excludedTags]

theorem meets_asking : t.Meets (asking names) ↔ t.Carries names := by
  simp [meets_iff]

theorem meets_excluding (named : names ≠ []) : t.Meets (excluding names) ↔ ¬ t.Carries names := by
  simp [meets_iff, Transaction.Carries, named]

theorem meets_asking_excluding (named : names ≠ []) :
    t.Meets (asking names ++ excluding names) := by
  rw [meets_iff, includedTags_append, excludedTags_append]
  simp [named, Classical.em]

/-- Matchers keep, in order and as often as they come, the transactions that meet them. Matchers for
the same tags keep the same, and no matchers nothing. Asking for some tags and excluding them part
the transactions in two, and both together keep them all. -/
theorem tags_meaning (some : items ≠ []) (matchers : List TagMatcher) :
    tags matchers (.transactions items) =
        .ok (.ofTransactions (items.filter fun t => t.Meets matchers)) ∧
      (∀ others : List TagMatcher, (∀ m, m ∈ others ↔ m ∈ matchers) →
        tags others (.transactions items) = tags matchers (.transactions items)) ∧
      (∀ names : List String, names ≠ [] → ∃ carrying lacking,
        tags (asking names) (.transactions items) = .ok (.ofTransactions carrying) ∧
        tags (excluding names) (.transactions items) = .ok (.ofTransactions lacking) ∧
        items.partition (fun t => t.Carries names) = (carrying, lacking) ∧
        tags (asking names ++ excluding names) (.transactions items) =
          .ok (.transactions items)) ∧
      tags [] (.transactions items) = .ok .empty := by
  refine ⟨tags_transactions matchers items, fun others same => ?_, fun names named => ?_, ?_⟩
  · simp only [tags_transactions, meets_congr same]
  · refine ⟨items.filter fun t => t.Carries names, items.filter fun t => ¬ t.Carries names,
      ?_, ?_, ?_, ?_⟩
    · simp only [tags_transactions, meets_asking]
    · simp only [tags_transactions, meets_excluding named]
    · rw [List.partition_eq_filter_filter]
      simp [Function.comp_def]
    · simp [tags_transactions, meets_asking_excluding named, Value.ofTransactions, some]
  · simp [tags_transactions, Transaction.Meets, Value.ofTransactions]

/-- Dinner out of three transactions, one without tags and one to be ignored. -/
theorem tags_meaning_dinner :
    let dinner : Transaction :=
      { hash := "h1", account := "Checking", date := ⟨2023, ⟨1, by decide⟩, 5, by decide⟩,
        amount := -10, description := "Corner Deli", tags := ["food", "out"],
        tags_nodup := by decide }
    let rent := { dinner with hash := "h2", tags := [], tags_nodup := List.nodup_nil }
    let refund := { dinner with hash := "h3", tags := ["ignore"], tags_nodup := by decide }
    let items := [refund, dinner, rent, dinner]
    let food := asking ["food"]
    let matchers := food ++ excluding ["ignore"]
    items ≠ [] ∧ ["food"] ≠ [] ∧
      tags matchers (.transactions items) = .ok (.transactions [dinner, rent, dinner]) ∧
      (∀ m, m ∈ matchers.reverse ++ food ↔ m ∈ matchers) ∧
      tags (matchers.reverse ++ food) (.transactions items) =
        .ok (.transactions [dinner, rent, dinner]) ∧
      tags food (.transactions items) = .ok (.transactions [dinner, dinner]) ∧
      tags (excluding ["food"]) (.transactions items) = .ok (.transactions [refund, rent]) ∧
      tags (food ++ excluding ["food"]) (.transactions items) = .ok (.transactions items) := by
  intro dinner rent refund items food matchers
  have hsome : items ≠ [] := List.cons_ne_nil _ _
  have hnamed : ["food"] ≠ [] := List.cons_ne_nil _ _
  have hsame : ∀ m, m ∈ matchers.reverse ++ food ↔ m ∈ matchers := by
    intro m
    simp [matchers]
    tauto
  obtain ⟨hkept, hcongr, hparted, -⟩ := tags_meaning hsome matchers
  obtain ⟨carrying, lacking, hfood, hothers, hparts, hall⟩ := hparted ["food"] hnamed
  have hfilter : items.filter (fun t => t.Meets matchers) = [dinner, rent, dinner] := rfl
  have hpartition : items.partition (fun t => t.Carries ["food"]) =
      ([dinner, dinner], [refund, rent]) := rfl
  rw [hfilter] at hkept
  obtain ⟨rfl, rfl⟩ := Prod.mk.inj (hpartition.symm.trans hparts)
  exact ⟨hsome, hnamed, hkept, hsame, (hcongr _ hsame).trans hkept, hfood, hothers, hall⟩

end Operation

end LedgerQuery
