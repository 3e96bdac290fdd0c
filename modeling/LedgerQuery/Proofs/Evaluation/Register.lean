import LedgerQuery.Evaluation.Workspace
import LedgerQuery.Proofs.Evaluation.Run
import LedgerQuery.Proofs.Operation.Aggregation
import LedgerQuery.Proofs.Operation.Grouping

/-! # Registers -/

namespace LedgerQuery

/-! ## What the builtin commands make of values

A value stays or gives way to the initial one; transactions are selected, grouped, cut, reversed,
counted or added up, and groups are so too, key by key or all together. What every command keeps is
shown by these cases alone. -/

inductive Builtin.Makes (initial : Value) : Value → Value → Prop where
  | same (value) : Makes initial value value
  | reset (value) : Makes initial value initial
  | select (test) (items) : Makes initial (.transactions items) (Operation.select test items)
  | group {kind keyOf} (one : ∀ t, GroupKey.kind (keyOf t) = kind)
      (covers : ∀ t : Transaction, (keyOf t).Covers t.date) (items) :
      Makes initial (.transactions items) (.ofTransactionGroups (Operation.buckets keyOf items))
  | lastItems (n) (items) :
      Makes initial (.transactions items) (.ofTransactions (Operation.lastItems n items))
  | lastGroups (n) (groups) : Makes initial (.groupedTransactions groups)
      (.ofTransactionGroups (Operation.lastItems n groups))
  | lastNumbers (n) (groups) :
      Makes initial (.groupedNumbers groups) (.ofNumberGroups (Operation.lastItems n groups))
  | reverseItems (items) : Makes initial (.transactions items) (.transactions items.reverse)
  | reverseGroups (groups) :
      Makes initial (.groupedTransactions groups) (.groupedTransactions groups.reverse)
  | reverseNumbers (groups) :
      Makes initial (.groupedNumbers groups) (.groupedNumbers groups.reverse)
  | countNumber (n) : Makes initial (.number n) (.number (.int 1))
  | countNothing : Makes initial .empty (.number (.int 0))
  | countItems (items) : Makes initial (.transactions items) (.number (.int items.length))
  | countNumbers (groups) : Makes initial (.groupedNumbers groups) (.number (.int groups.length))
  | countGroups (groups) : Makes initial (.groupedTransactions groups)
      (.groupedNumbers (Operation.mapGroups (fun items => .int items.length) groups))
  | addItems (items) :
      Makes initial (.transactions items) (.number (.float (Operation.amountTotal items)))
  | addNumbers {groups sum} (h : Operation.sumNumbers (groups.map Prod.snd) = .ok sum) :
      Makes initial (.groupedNumbers groups) (.number sum)
  | average {value x} (h : Operation.average value = .ok (.number (.float x))) :
      Makes initial value (.number (.float x))
  | floats {groups} {results : Groups Number}
      (keys : results.map Prod.fst = groups.map Prod.fst)
      (floats : ∀ number ∈ results.map Prod.snd, ∃ x, number = .float x) :
      Makes initial (.groupedTransactions groups) (.groupedNumbers results)

theorem mismatch_ne_ok {α : Type} (operation : String) (value : Value) (result : α) :
    value.mismatch operation ≠ .ok result := by
  unfold Value.mismatch
  cases value.descriptor? with
  | none => exact nofun
  | some actual => exact nofun

namespace Operation

variable {initial value result : Value}

theorem makes_search {pattern : String} (h : search pattern value = .ok result) :
    Builtin.Makes initial value result := by
  cases value with
  | transactions items =>
    simp only [search] at h
    split at h
    · cases h
      exact .select _ items
    · cases h
  | _ =>
    simp only [search] at h
    exact absurd h (mismatch_ne_ok _ _ _)

theorem makes_tags {matchers : List TagMatcher} (h : tags matchers value = .ok result) :
    Builtin.Makes initial value result := by
  cases value with
  | transactions items =>
    cases h
    exact .select _ items
  | _ =>
    simp only [tags, tagFilter] at h
    exact absurd h (mismatch_ne_ok _ _ _)

theorem makes_groupBy {operation : String} {keyOf : Transaction → GroupKey} (kind : KeyKind)
    (one : ∀ t, (keyOf t).kind = kind) (covers : ∀ t, (keyOf t).Covers t.date)
    (h : groupBy operation keyOf value = .ok result) : Builtin.Makes initial value result := by
  cases value with
  | transactions items =>
    rw [groupBy_transactions one] at h
    cases h
    exact .group one covers items
  | _ =>
    simp only [groupBy] at h
    exact absurd h (mismatch_ne_ok _ _ _)

theorem makes_monthly (h : monthly value = .ok result) : Builtin.Makes initial value result :=
  makes_groupBy .month (fun _ => rfl) (fun t => GroupKey.monthOf_covers t.date) h

theorem makes_yearly (h : yearly value = .ok result) : Builtin.Makes initial value result :=
  makes_groupBy .year (fun _ => rfl) (fun t => GroupKey.yearOf_covers t.date) h

theorem makes_last {n : Int} (h : last n value = .ok result) :
    Builtin.Makes initial value result := by
  cases value with
  | empty =>
    cases h
    exact .same .empty
  | transactions items =>
    simp only [last] at h
    split at h
    · cases h
    · cases h
      exact .lastItems n.toNat items
  | groupedTransactions groups =>
    simp only [last] at h
    split at h
    · cases h
    · cases h
      exact .lastGroups n.toNat groups
  | groupedNumbers groups =>
    simp only [last] at h
    split at h
    · cases h
    · cases h
      exact .lastNumbers n.toNat groups
  | _ =>
    simp only [last] at h
    split at h
    · cases h
    · exact absurd h (mismatch_ne_ok _ _ _)

theorem makes_reverse (h : reverse value = .ok result) : Builtin.Makes initial value result := by
  cases value with
  | empty =>
    cases h
    exact .same .empty
  | transactions items =>
    cases h
    exact .reverseItems items
  | groupedTransactions groups =>
    cases h
    exact .reverseGroups groups
  | groupedNumbers groups =>
    cases h
    exact .reverseNumbers groups
  | _ =>
    simp only [reverse] at h
    exact absurd h (mismatch_ne_ok _ _ _)

theorem makes_count (h : count value = .ok result) : Builtin.Makes initial value result := by
  cases value with
  | number n =>
    cases h
    exact .countNumber n
  | empty =>
    cases h
    exact .countNothing
  | transactions items =>
    cases h
    exact .countItems items
  | groupedTransactions groups =>
    cases h
    exact .countGroups groups
  | groupedNumbers groups =>
    cases h
    exact .countNumbers groups
  | foreign kind =>
    simp only [count] at h
    exact absurd h (mismatch_ne_ok _ _ _)

theorem makes_total (h : total value = .ok result) : Builtin.Makes initial value result := by
  cases value with
  | number n =>
    cases h
    exact .same (.number n)
  | transactions items =>
    cases h
    exact .addItems items
  | groupedTransactions groups =>
    cases h
    refine .floats (keys_mapGroups _ groups) fun number hm => ?_
    rw [held_mapGroups] at hm
    obtain ⟨items, -, rfl⟩ := List.mem_map.mp hm
    exact ⟨_, rfl⟩
  | groupedNumbers groups =>
    obtain ⟨sum, hsum, rfl⟩ := Query.eq_ok_of_map_eq_ok h
    exact .addNumbers hsum
  | _ =>
    simp only [total] at h
    exact absurd h (mismatch_ne_ok _ _ _)

theorem makes_average (h : average value = .ok result) : Builtin.Makes initial value result := by
  cases value with
  | number n =>
    obtain ⟨x, -, rfl⟩ := Query.eq_ok_of_map_eq_ok h
    exact .average h
  | empty => cases h
  | transactions items =>
    obtain ⟨number, hnumber, rfl⟩ := Query.eq_ok_of_map_eq_ok h
    obtain ⟨x, rfl⟩ := averageAmount_float hnumber
    exact .average h
  | groupedTransactions groups =>
    obtain ⟨results, hresults, rfl⟩ := Query.eq_ok_of_map_eq_ok h
    refine .floats (keys_mapGroupsM hresults) fun number hm => ?_
    obtain ⟨items, -, haverage⟩ := held_mapGroupsM hresults number hm
    exact averageAmount_float haverage
  | groupedNumbers groups =>
    obtain ⟨number, hnumber, rfl⟩ := Query.eq_ok_of_map_eq_ok h
    obtain ⟨x, rfl⟩ := averageNumbers_float hnumber
    exact .average h
  | foreign kind =>
    simp only [average] at h
    exact absurd h (mismatch_ne_ok _ _ _)

end Operation

/-- A builtin command makes nothing else of a value. -/
theorem makes_of_transform {builtin : Builtin} {argument : Argument}
    {initial value result : Value} (h : builtin.transform initial argument value = .ok result) :
    Builtin.Makes initial value result := by
  unfold Builtin.transform at h
  split at h
  · exact Operation.makes_average h
  · exact Operation.makes_count h
  · exact Operation.makes_last h
  · exact Operation.makes_monthly h
  · exact Except.ok.inj h ▸ .same value
  · exact Except.ok.inj h ▸ .reset value
  · exact Operation.makes_reverse h
  · exact Operation.makes_search h
  · exact Operation.makes_total h
  · exact Operation.makes_tags h
  · exact Operation.makes_yearly h
  · cases h

/-! ## What a register can hold

Whatever lines are evaluated, and wherever they fail, the register is drawn from the transactions at
the start: items keep their order or its opposite, groups are never empty, their keys are of one
kind in strict order, and what they hold is of one kind as well. Hence the first group alone tells
the type of all of them. -/

/-- Keys of one kind that ascend strictly or descend strictly. -/
structure KeysInOrder (keys : List GroupKey) : Prop where
  one_kind : ∃ kind, ∀ key ∈ keys, key.kind = kind
  monotone : keys.Pairwise (fun a b => a.before b = true) ∨
    keys.Pairwise (fun a b => b.before a = true)

/-- The lists are all parts of `items` in order, or all parts of it in the opposite order. -/
def OneDirection (items : List Transaction) (lists : List (List Transaction)) : Prop :=
  (∀ list ∈ lists, list.Sublist items) ∨ ∀ list ∈ lists, list.Sublist items.reverse

def NumbersAlike (numbers : List Number) : Prop :=
  (∀ number ∈ numbers, ∃ n, number = .int n) ∨ ∀ number ∈ numbers, ∃ x, number = .float x

/-- The value is made of the transactions `items` alone, as far as it holds transactions. -/
inductive Value.DrawnFrom (items : List Transaction) : Value → Prop where
  | empty : DrawnFrom items .empty
  | number (n : Number) : DrawnFrom items (.number n)
  | transactions {kept : List Transaction} (some : kept ≠ [])
      (drawn : kept.Sublist items ∨ kept.Sublist items.reverse) :
      DrawnFrom items (.transactions kept)
  | groupedTransactions {groups : Groups (List Transaction)} (some : groups ≠ [])
      (keys : KeysInOrder (groups.map Prod.fst))
      (held : ∀ group ∈ groups, group.2 ≠ [] ∧ ∀ t ∈ group.2, group.1.Covers t.date)
      (drawn : OneDirection items (groups.map Prod.snd)) :
      DrawnFrom items (.groupedTransactions groups)
  | groupedNumbers {groups : Groups Number} (some : groups ≠ [])
      (keys : KeysInOrder (groups.map Prod.fst)) (held : NumbersAlike (groups.map Prod.snd)) :
      DrawnFrom items (.groupedNumbers groups)

/-- The text names the type of the value, and of groups the kind of every key and the type of all
that is under the keys. -/
inductive Value.HasType : Value → String → Prop where
  | integer (n : Int) : HasType (.number (.int n)) "Integer"
  | float (x : Float) : HasType (.number (.float x)) "Float"
  | transactions (items : List Transaction) : HasType (.transactions items) "[Transaction]"
  | empty : HasType .empty "[]"
  | groupedTransactions {groups : Groups (List Transaction)} {kind : KeyKind}
      (keys : ∀ group ∈ groups, group.1.kind = kind) :
      HasType (.groupedTransactions groups) ("[[" ++ kind.name ++ ", " ++ "[Transaction]" ++ "]]")
  | groupedNumbers {groups : Groups Number} {kind : KeyKind} {inner : String}
      (keys : ∀ group ∈ groups, group.1.kind = kind)
      (held : ∀ group ∈ groups, HasType (.number group.2) inner) :
      HasType (.groupedNumbers groups) ("[[" ++ kind.name ++ ", " ++ inner ++ "]]")

theorem KeysInOrder.sublist {keys part : List GroupKey} (h : KeysInOrder keys)
    (hs : part.Sublist keys) : KeysInOrder part := by
  obtain ⟨kind, hk⟩ := h.one_kind
  constructor
  · exact ⟨kind, fun key hm => hk key (hs.subset hm)⟩
  · rcases h.monotone with ha | hd
    · exact Or.inl (ha.sublist hs)
    · exact Or.inr (hd.sublist hs)

theorem KeysInOrder.reverse {keys : List GroupKey} (h : KeysInOrder keys) :
    KeysInOrder keys.reverse := by
  obtain ⟨kind, hk⟩ := h.one_kind
  constructor
  · exact ⟨kind, fun key hm => hk key (List.mem_reverse.mp hm)⟩
  · rcases h.monotone with ha | hd
    · exact Or.inr (List.pairwise_reverse.mpr ha)
    · exact Or.inl (List.pairwise_reverse.mpr hd)

theorem KeysInOrder.exists_kind {α : Type} {groups : Groups α}
    (h : KeysInOrder (groups.map Prod.fst)) : ∃ kind, ∀ group ∈ groups, group.1.kind = kind := by
  obtain ⟨kind, hk⟩ := h.one_kind
  exact ⟨kind, fun group hm => hk group.1 (List.mem_map_of_mem hm)⟩

theorem OneDirection.subset {items : List Transaction} {lists part : List (List Transaction)}
    (h : OneDirection items lists) (hs : part ⊆ lists) : OneDirection items part := by
  rcases h with h | h
  · exact Or.inl fun list hm => h list (hs hm)
  · exact Or.inr fun list hm => h list (hs hm)

theorem NumbersAlike.subset {numbers part : List Number} (h : NumbersAlike numbers)
    (hs : part ⊆ numbers) : NumbersAlike part := by
  rcases h with h | h
  · exact Or.inl fun number hm => h number (hs hm)
  · exact Or.inr fun number hm => h number (hs hm)

theorem NumbersAlike.exists_descriptor {groups : Groups Number}
    (h : NumbersAlike (groups.map Prod.snd)) :
    ∃ inner, ∀ group ∈ groups, group.2.descriptor = inner := by
  rcases h with h | h
  · refine ⟨.integer, fun group hm => ?_⟩
    obtain ⟨n, hn⟩ := h group.2 (List.mem_map_of_mem hm)
    rw [hn]
    rfl
  · refine ⟨.float, fun group hm => ?_⟩
    obtain ⟨x, hx⟩ := h group.2 (List.mem_map_of_mem hm)
    rw [hx]
    rfl

theorem Number.hasType (number : Number) :
    (Value.number number).HasType number.descriptor.text := by
  cases number with
  | int n => exact .integer n
  | float x => exact .float x

namespace Value

/-- Any group tells the structure of groups of transactions under keys of one kind. -/
theorem descriptor_groupedTransactions {groups : Groups (List Transaction)} {kind : KeyKind}
    (some : groups ≠ []) (keys : ∀ group ∈ groups, group.1.kind = kind) :
    descriptor (.groupedTransactions groups) = .ok (.grouped kind .transactions) := by
  cases groups with
  | nil => exact absurd rfl some
  | cons group rest =>
    rw [← keys group List.mem_cons_self]
    rfl

theorem descriptor_groupedNumbers {groups : Groups Number} {kind : KeyKind} {inner : Descriptor}
    (some : groups ≠ []) (keys : ∀ group ∈ groups, group.1.kind = kind)
    (held : ∀ group ∈ groups, group.2.descriptor = inner) :
    descriptor (.groupedNumbers groups) = .ok (.grouped kind inner) := by
  cases groups with
  | nil => exact absurd rfl some
  | cons group rest =>
    rw [← keys group List.mem_cons_self, ← held group List.mem_cons_self]
    rfl

end Value

namespace Value.DrawnFrom

variable {items : List Transaction}

theorem ofTransactions {kept : List Transaction}
    (drawn : kept.Sublist items ∨ kept.Sublist items.reverse) :
    (Value.ofTransactions kept).DrawnFrom items := by
  unfold Value.ofTransactions
  cases kept with
  | nil => exact .empty
  | cons t rest => exact .transactions (List.cons_ne_nil t rest) drawn

theorem ofTransactionGroups {groups : Groups (List Transaction)}
    (keys : KeysInOrder (groups.map Prod.fst))
    (held : ∀ group ∈ groups, group.2 ≠ [] ∧ ∀ t ∈ group.2, group.1.Covers t.date)
    (drawn : OneDirection items (groups.map Prod.snd)) :
    (Value.ofTransactionGroups groups).DrawnFrom items := by
  unfold Value.ofTransactionGroups
  cases groups with
  | nil => exact .empty
  | cons group rest => exact .groupedTransactions (List.cons_ne_nil group rest) keys held drawn

theorem ofNumberGroups {groups : Groups Number} (keys : KeysInOrder (groups.map Prod.fst))
    (held : NumbersAlike (groups.map Prod.snd)) :
    (Value.ofNumberGroups groups).DrawnFrom items := by
  unfold Value.ofNumberGroups
  cases groups with
  | nil => exact .empty
  | cons group rest => exact .groupedNumbers (List.cons_ne_nil group rest) keys held

theorem select {kept : List Transaction} (test : Transaction → Bool)
    (drawn : kept.Sublist items ∨ kept.Sublist items.reverse) :
    (Operation.select test kept).DrawnFrom items := by
  apply ofTransactions
  rcases drawn with h | h
  · exact Or.inl (List.filter_sublist.trans h)
  · exact Or.inr (List.filter_sublist.trans h)

theorem group {keyOf : Transaction → GroupKey} {kind : KeyKind}
    (hk : ∀ t, (keyOf t).kind = kind) (hc : ∀ t, (keyOf t).Covers t.date)
    {kept : List Transaction} (drawn : kept.Sublist items ∨ kept.Sublist items.reverse) :
    (Value.ofTransactionGroups (Operation.buckets keyOf kept)).DrawnFrom items := by
  have keys : KeysInOrder ((Operation.buckets keyOf kept).map Prod.fst) := by
    rw [Operation.keys_buckets]
    constructor
    · refine ⟨kind, fun key hm => ?_⟩
      obtain ⟨t, _, rfl⟩ := Operation.mem_sortedKeys.mp hm
      exact hk t
    · exact Or.inl (Operation.sortedKeys_ascend fun t _ => hk t)
  apply ofTransactionGroups keys
  · intro group hm
    obtain ⟨hheld, hne⟩ := Operation.mem_buckets.mp hm
    refine ⟨hne, fun t ht => ?_⟩
    rw [hheld, List.mem_filter, decide_eq_true_eq] at ht
    exact ht.2 ▸ hc t
  · have inside : ∀ list ∈ (Operation.buckets keyOf kept).map Prod.snd, list.Sublist kept := by
      intro list hm
      obtain ⟨group, hg, rfl⟩ := List.mem_map.mp hm
      rw [(Operation.mem_buckets.mp hg).1]
      exact List.filter_sublist
    rcases drawn with hd | hd
    · exact Or.inl fun list hm => (inside list hm).trans hd
    · exact Or.inr fun list hm => (inside list hm).trans hd

theorem results {groups : Groups (List Transaction)} {results : Groups Number}
    (h : (Value.groupedTransactions groups).DrawnFrom items)
    (keys : results.map Prod.fst = groups.map Prod.fst)
    (held : NumbersAlike (results.map Prod.snd)) :
    (Value.groupedNumbers results).DrawnFrom items := by
  cases h with
  | groupedTransactions some order _ _ =>
    refine .groupedNumbers ?_ (keys ▸ order) held
    rintro rfl
    exact some (List.map_eq_nil_iff.mp keys.symm)

/-- Whatever a builtin command makes of a value drawn from the items is drawn from them. -/
theorem makes {initial value result : Value} (hi : initial.DrawnFrom items)
    (h : value.DrawnFrom items) (hm : Builtin.Makes initial value result) :
    result.DrawnFrom items := by
  cases hm with
  | same => exact h
  | reset => exact hi
  | select test kept =>
    cases h with
    | transactions some drawn => exact select test drawn
  | group one covers kept =>
    cases h with
    | transactions some drawn => exact group one covers drawn
  | lastItems n kept =>
    cases h with
    | transactions some drawn =>
      apply ofTransactions
      rcases drawn with hd | hd
      · exact Or.inl ((List.drop_sublist _ _).trans hd)
      · exact Or.inr ((List.drop_sublist _ _).trans hd)
  | lastGroups n groups =>
    cases h with
    | groupedTransactions some keys held drawn =>
      have hs : (Operation.lastItems n groups).Sublist groups := List.drop_sublist _ _
      apply ofTransactionGroups
      · exact keys.sublist (hs.map Prod.fst)
      · exact fun group hm => held group (hs.subset hm)
      · exact drawn.subset (hs.map Prod.snd).subset
  | lastNumbers n groups =>
    cases h with
    | groupedNumbers some keys held =>
      have hs : (Operation.lastItems n groups).Sublist groups := List.drop_sublist _ _
      apply ofNumberGroups
      · exact keys.sublist (hs.map Prod.fst)
      · exact held.subset (hs.map Prod.snd).subset
  | reverseItems kept =>
    cases h with
    | transactions some drawn =>
      apply DrawnFrom.transactions (by simpa using some)
      rcases drawn with hd | hd
      · exact Or.inr (List.reverse_sublist.mpr hd)
      · exact Or.inl (by simpa using List.reverse_sublist.mpr hd)
  | reverseGroups groups =>
    cases h with
    | groupedTransactions some keys held drawn =>
      refine .groupedTransactions (by simpa using some) ?_ ?_ ?_
      · rw [List.map_reverse]
        exact keys.reverse
      · exact fun group hm => held group (List.mem_reverse.mp hm)
      · rw [List.map_reverse]
        exact drawn.subset fun list hm => List.mem_reverse.mp hm
  | reverseNumbers groups =>
    cases h with
    | groupedNumbers some keys held =>
      refine .groupedNumbers (by simpa using some) ?_ ?_
      · rw [List.map_reverse]
        exact keys.reverse
      · rw [List.map_reverse]
        exact held.subset fun number hm => List.mem_reverse.mp hm
  | countGroups groups =>
    refine h.results (Operation.keys_mapGroups _ groups) (Or.inl fun number hm => ?_)
    rw [Operation.held_mapGroups] at hm
    obtain ⟨list, _, rfl⟩ := List.mem_map.mp hm
    exact ⟨_, rfl⟩
  | floats keys floats => exact h.results keys (Or.inr floats)
  | _ => exact .number _

theorem transform {builtin : Builtin} {argument : Argument} {initial value result : Value}
    (hi : initial.DrawnFrom items) (h : value.DrawnFrom items)
    (hr : builtin.transform initial argument value = .ok result) : result.DrawnFrom items :=
  hi.makes h (makes_of_transform hr)

theorem descriptor {value : Value} (h : value.DrawnFrom items) :
    ∃ descriptor, value.descriptor = .ok descriptor ∧ value.HasType descriptor.text := by
  cases h with
  | empty => exact ⟨.empty, rfl, .empty⟩
  | number n =>
    cases n with
    | int n => exact ⟨.integer, rfl, .integer n⟩
    | float x => exact ⟨.float, rfl, .float x⟩
  | transactions some drawn => exact ⟨.transactions, rfl, .transactions _⟩
  | @groupedTransactions groups some keys held drawn =>
    obtain ⟨kind, hkeys⟩ := keys.exists_kind
    exact ⟨_, descriptor_groupedTransactions some hkeys, .groupedTransactions hkeys⟩
  | @groupedNumbers groups some keys held =>
    obtain ⟨kind, hkeys⟩ := keys.exists_kind
    obtain ⟨inner, hinner⟩ := held.exists_descriptor
    refine ⟨_, descriptor_groupedNumbers some hkeys hinner, .groupedNumbers hkeys ?_⟩
    intro group hm
    rw [← hinner group hm]
    exact group.2.hasType

end Value.DrawnFrom

/-- Whatever lines are evaluated from transactions on, the register is drawn from these, and its
type is told truly. -/
theorem reachable_register {α : Type} (items : List Transaction)
    (printer : Option (Value → Except Failure α)) (lines : List Line) :
    let register := ((Workspace.start (.ofTransactions items)).evaluateLines printer lines).register
    register.DrawnFrom items ∧
      ∃ descriptor, register.descriptor = .ok descriptor ∧ register.HasType descriptor.text := by
  have start : (Value.ofTransactions items).DrawnFrom items :=
    .ofTransactions (Or.inl (List.Sublist.refl items))
  have reached := Workspace.evaluateLines_preserves printer (.start (.ofTransactions items))
    (fun _ _ _ _ => Value.DrawnFrom.transform start) lines start
  exact ⟨reached, reached.descriptor⟩

end LedgerQuery
