import LedgerQuery.Operation
import LedgerQuery.Proofs.Operation.Grouping
import LedgerQuery.Query.Line
import Mathlib.Algebra.Order.Ring.Nat
import Mathlib.Data.List.Basic

/-! # Ordering, aggregation and counting -/

namespace LedgerQuery.Operation

/-! ## Ordering

The ordering commands on whatever comes in order: transactions, and groups under their keys. One
takes the end of a collection and the other turns it round. Their laws are those of lists, down to
the empty list, which is the empty collection; groups go with their keys. -/

section Ordering

/-- The ways in which items in order are a value; without items it is the empty collection. -/
inductive Collects : {α : Type} → (List α → Value) → Prop where
  | transactions : Collects Value.ofTransactions
  | transactionGroups : Collects Value.ofTransactionGroups
  | numberGroups : Collects Value.ofNumberGroups

variable {α : Type} {make : List α → Value} {items : List α} {m n : Nat}

theorem lastItems_zero (items : List α) : lastItems 0 items = [] :=
  List.drop_length

theorem length_lastItems (n : Nat) (items : List α) :
    (lastItems n items).length = min n items.length := by
  rw [lastItems, List.length_drop]
  omega

theorem lastItems_ne_nil (some : items ≠ []) (hn : n ≠ 0) : lastItems n items ≠ [] := by
  have hlength := List.length_pos_iff.mpr some
  rw [← List.length_pos_iff, length_lastItems]
  omega

theorem lastItems_of_length_le (h : items.length ≤ n) : lastItems n items = items := by
  rw [lastItems, Nat.sub_eq_zero_of_le h, List.drop_zero]

theorem lastItems_lastItems (m n : Nat) (items : List α) :
    lastItems n (lastItems m items) = lastItems (min m n) items := by
  have hcount : items.length - m + (min m items.length - n) = items.length - min m n := by
    omega
  rw [lastItems, length_lastItems, lastItems, List.drop_drop, hcount, lastItems]

theorem reverse_lastItems_reverse (n : Nat) (items : List α) :
    (lastItems n items.reverse).reverse = items.take n := by
  rw [lastItems, List.drop_reverse, List.reverse_reverse, List.length_reverse]
  by_cases h : n ≤ items.length
  · rw [Nat.sub_sub_self h]
  · rw [List.take_of_length_le (by omega), List.take_of_length_le (by omega)]

theorem Collects.eq_empty_iff (h : Collects make) : make items = .empty ↔ items = [] := by
  cases h with
  | transactions => cases items <;> simp [Value.ofTransactions]
  | transactionGroups => cases items <;> simp [Value.ofTransactionGroups]
  | numberGroups => cases items <;> simp [Value.ofNumberGroups]

theorem Collects.last (h : Collects make) (n : Nat) (items : List α) :
    last n (make items) = .ok (make (lastItems n items)) := by
  cases items with
  | nil =>
    rw [lastItems_of_length_le (Nat.zero_le n)]
    cases h <;> rfl
  | cons item rest =>
    cases h with
    | transactions => simp [Operation.last, Value.ofTransactions]
    | transactionGroups => simp [Operation.last, Value.ofTransactionGroups]
    | numberGroups => simp [Operation.last, Value.ofNumberGroups]

theorem Collects.reverse (h : Collects make) (items : List α) :
    reverse (make items) = .ok (make items.reverse) := by
  cases items with
  | nil => cases h <;> rfl
  | cons item rest =>
    cases h with
    | transactions => simp [Operation.reverse, Value.ofTransactions]
    | transactionGroups => simp [Operation.reverse, Value.ofTransactionGroups]
    | numberGroups => simp [Operation.reverse, Value.ofNumberGroups]

/-- The last of the last items are the last of all. All items are the last ones of a collection that
is no longer; else these are its end, as long as asked for, and there are none only of nothing or if
none are asked for. Turning round twice changes nothing, and the end of a collection that is turned
round is its beginning. -/
theorem ordering_algebra (h : Collects make) (items : List α) (m n : Nat) :
    (last m (make items) >>= last n) = last (min m n : Nat) (make items) ∧
      (Operation.reverse (make items) >>= Operation.reverse) = .ok (make items) ∧
      Operation.reverse (make items) = .ok (make items.reverse) ∧
      (items.length ≤ n → last n (make items) = .ok (make items)) ∧
      (∃ ending, last n (make items) = .ok (make ending) ∧ ending <:+ items ∧
        ending.length = min n items.length ∧
        (make ending = .empty ↔ n = 0 ∨ make items = .empty)) ∧
      ∃ beginning,
        (Operation.reverse (make items) >>= last n >>= Operation.reverse) =
          .ok (make beginning) ∧
        beginning <+: items ∧ beginning.length = min n items.length ∧
        (make beginning = .empty ↔ min n items.length = 0) := by
  have hreverse : ∀ others, Operation.reverse (make others) = .ok (make others.reverse) := h.reverse
  have hlast : ∀ (k : Nat) others, last k (make others) = .ok (make (lastItems k others)) := h.last
  refine ⟨?_, ?_, hreverse items, fun hn => ?_, ?_, ?_⟩
  · rw [hlast, hlast, ← lastItems_lastItems]
    exact hlast n _
  · rw [hreverse]
    simp only [bind, Except.bind, hreverse, List.reverse_reverse]
  · rw [hlast, lastItems_of_length_le hn]
  · refine ⟨lastItems n items, hlast n items, List.drop_suffix _ items, length_lastItems n items,
      ?_⟩
    rw [h.eq_empty_iff, h.eq_empty_iff, ← List.length_eq_zero_iff, length_lastItems,
      ← List.length_eq_zero_iff]
    omega
  · refine ⟨items.take n, ?_, List.take_prefix n items, List.length_take, ?_⟩
    · simp only [hreverse, hlast, bind, Except.bind, reverse_lastItems_reverse]
    · rw [h.eq_empty_iff, ← List.length_eq_zero_iff, List.length_take]

/-- Counts under years that are out of order stay with their years, in the order that they have. -/
theorem ordering_algebra_years :
    let counts : Groups Number := [(.year 2023, .int 1), (.year 2021, .int 2), (.year 2022, .int 3)]
    Collects Value.ofNumberGroups ∧ Value.ofNumberGroups counts = .groupedNumbers counts ∧
      (last 2 (.groupedNumbers counts) >>= last 1) = last 1 (.groupedNumbers counts) ∧
      (Operation.reverse (.groupedNumbers counts) >>= Operation.reverse) =
        .ok (.groupedNumbers counts) ∧
      counts.length ≤ 4 ∧ last 4 (.groupedNumbers counts) = .ok (.groupedNumbers counts) ∧
      ∃ beginning,
        (Operation.reverse (.groupedNumbers counts) >>= last 2 >>= Operation.reverse) =
          .ok (Value.ofNumberGroups beginning) ∧
        beginning <+: counts ∧ beginning.length = 2 := by
  intro counts
  have hlength : counts.length ≤ 4 := by decide
  obtain ⟨hlast, hreverse, -⟩ := ordering_algebra .numberGroups counts 2 1
  obtain ⟨-, -, -, hwhole, -⟩ := ordering_algebra .numberGroups counts 0 4
  obtain ⟨-, -, -, -, -, beginning, hbeginning, hprefix, hcount, -⟩ :=
    ordering_algebra .numberGroups counts 0 2
  exact ⟨.numberGroups, rfl, hlast, hreverse, hlength, hwhole hlength, beginning, hbeginning,
    hprefix, hcount⟩

end Ordering

/-! ## Working group by group keeps the keys and their order

What the groups hold afterwards is what the function makes of what each of them held. -/

section Aggregation
variable {α β : Type}

theorem keys_mapGroups (f : α → β) (groups : Groups α) :
    (mapGroups f groups).map Prod.fst = groups.map Prod.fst := by
  simp [mapGroups]

theorem length_mapGroups (f : α → β) (groups : Groups α) :
    (mapGroups f groups).length = groups.length := by
  simp [mapGroups]

theorem held_mapGroups (f : α → β) (groups : Groups α) :
    (mapGroups f groups).map Prod.snd = (groups.map Prod.snd).map f := by
  simp [mapGroups]

theorem mapGroupsM_cons (f : α → Except Failure β) (key : GroupKey) (held : α)
    (groups : Groups α) :
    mapGroupsM f ((key, held) :: groups) =
      (f held).bind fun value => (mapGroupsM f groups).map ((key, value) :: ·) := by
  unfold mapGroupsM
  rw [List.mapM_cons]
  dsimp only
  cases f held with
  | error failure => rfl
  | ok value =>
    cases groups.mapM fun group => (f group.2).map (group.1, ·) with
    | error failure => rfl
    | ok rest => rfl

theorem mapGroupsM_cons_eq_ok {f : α → Except Failure β} {key : GroupKey} {held : α}
    {groups : Groups α} {result : Groups β}
    (h : mapGroupsM f ((key, held) :: groups) = .ok result) :
    ∃ value rest, f held = .ok value ∧ mapGroupsM f groups = .ok rest ∧
      (key, value) :: rest = result := by
  rw [mapGroupsM_cons] at h
  cases hv : f held with
  | error failure =>
    rw [hv] at h
    cases h
  | ok value =>
    rw [hv] at h
    obtain ⟨rest, hr, he⟩ := Query.eq_ok_of_map_eq_ok h
    exact ⟨value, rest, rfl, hr, he⟩

theorem keys_mapGroupsM {f : α → Except Failure β} {groups : Groups α} {result : Groups β}
    (h : mapGroupsM f groups = .ok result) :
    result.map Prod.fst = groups.map Prod.fst := by
  induction groups generalizing result with
  | nil =>
    cases h
    rfl
  | cons group groups ih =>
    obtain ⟨value, rest, _, hr, rfl⟩ := mapGroupsM_cons_eq_ok h
    rw [List.map_cons, List.map_cons, ih hr]

theorem held_mapGroupsM {f : α → Except Failure β} {groups : Groups α} {result : Groups β}
    (h : mapGroupsM f groups = .ok result) :
    ∀ value ∈ result.map Prod.snd, ∃ held ∈ groups.map Prod.snd, f held = .ok value := by
  induction groups generalizing result with
  | nil =>
    cases h
    simp
  | cons group groups ih =>
    obtain ⟨value, rest, hv, hr, rfl⟩ := mapGroupsM_cons_eq_ok h
    intro other hm
    rcases List.mem_cons.mp hm with rfl | hm
    · exact ⟨group.2, List.mem_cons_self, hv⟩
    · obtain ⟨held, hheld, hf⟩ := ih hr other hm
      exact ⟨held, List.mem_cons_of_mem _ hheld, hf⟩

theorem mapGroupsM_of_held {f : α → Except Failure β} {g : α → β} {groups : Groups α}
    (h : ∀ group ∈ groups, f group.2 = .ok (g group.2)) :
    mapGroupsM f groups = .ok (mapGroups g groups) := by
  induction groups with
  | nil => rfl
  | cons group groups ih =>
    obtain ⟨hgroup, hgroups⟩ := List.forall_mem_cons.mp h
    rw [mapGroupsM_cons, hgroup, ih hgroups]
    rfl

theorem mapGroupsM_ok (f : α → β) (groups : Groups α) :
    mapGroupsM (fun held => .ok (f held)) groups = .ok (mapGroups f groups) :=
  mapGroupsM_of_held fun _ _ => rfl

theorem averageAmount_float {items : List Transaction} {number : Number}
    (h : averageAmount items = .ok number) : ∃ x, number = .float x := by
  unfold averageAmount at h
  split at h
  · cases h
  · cases h
    exact ⟨_, rfl⟩

theorem averageNumbers_float {numbers : List Number} {number : Number}
    (h : averageNumbers numbers = .ok number) : ∃ x, number = .float x := by
  unfold averageNumbers at h
  cases hx : numbers.mapM toFloat with
  | error failure =>
    rw [hx] at h
    cases h
  | ok xs =>
    rw [hx] at h
    simp only [bind, Except.bind] at h
    split at h
    · cases h
    · cases h
      exact ⟨_, rfl⟩

theorem foldlM_add_counts (counts : List Nat) (start : Nat) :
    (counts.map fun count : Nat => Number.int count).foldlM add (.int start) =
      .ok (.int ((start + counts.sum : Nat) : Int)) := by
  induction counts generalizing start with
  | nil => rfl
  | cons count counts ih =>
    have hadd : add (.int start) (.int count) = .ok (.int ((start + count : Nat) : Int)) := rfl
    rw [List.map_cons, List.foldlM_cons, hadd, List.sum_cons, ← Nat.add_assoc]
    exact ih (start + count)

/-- Whole numbers that count are added up exactly. -/
theorem sumNumbers_counts (counts : List Nat) :
    sumNumbers (counts.map fun count : Nat => .int count) = .ok (.int counts.sum) := by
  have hfold := foldlM_add_counts counts 0
  rwa [Nat.zero_add] at hfold

theorem filter_mapGroups (f : α → β) (p : GroupKey → Bool) (groups : Groups α) :
    (mapGroups f groups).filter (fun group => p group.1) =
      mapGroups f (groups.filter fun group => p group.1) := by
  simp [mapGroups, List.filter_map, Function.comp_def]

end Aggregation

/-! ## Counts do not depend on the grouping

Groups by month and groups by year hold the same transactions, each once; so the counts of either
add up to the count of all, and those of the months of a year to that of the year. Turning the
transactions or the groups round changes none of this. -/

/-- Each transaction is in one group, that of its key, and no group is without transactions. -/
structure Partitions (keyOf : Transaction → GroupKey) (items : List Transaction)
    (groups : Groups (List Transaction)) : Prop where
  some : ∀ group ∈ groups, group.2 ≠ []
  held : ∀ group ∈ groups, group.2.Perm (items.filter (keyOf · = group.1))
  perm : (flatten groups).Perm items

def turned (back : Bool) (value : Value) : Except Failure Value :=
  if back then reverse value else .ok value

variable {keyOf : Transaction → GroupKey} {items : List Transaction}
  {groups : Groups (List Transaction)}

/-- Of groups that each hold one key, those whose keys pass a test hold the transactions whose keys
do. -/
theorem flatten_filter (own : ∀ group ∈ groups, ∀ t ∈ group.2, keyOf t = group.1)
    (p : GroupKey → Bool) :
    flatten (groups.filter fun group => p group.1) =
      (flatten groups).filter fun t => p (keyOf t) := by
  induction groups with
  | nil => rfl
  | cons group rest ih =>
    obtain ⟨hgroup, hrest⟩ := List.forall_mem_cons.mp own
    have hkept := ih hrest
    simp only [flatten] at hkept ⊢
    rw [List.flatMap_cons, List.filter_append, ← hkept]
    by_cases hp : p group.1 = true
    · have hall : group.2.filter (fun t => p (keyOf t)) = group.2 := by
        rw [List.filter_eq_self]
        exact fun t ht => hgroup t ht ▸ hp
      simp [hp, hall]
    · have hnone : group.2.filter (fun t => p (keyOf t)) = [] := by
        rw [List.filter_eq_nil_iff]
        exact fun t ht => hgroup t ht ▸ hp
      simp [hp, hnone]

namespace Partitions

theorem own_key (h : Partitions keyOf items groups) {group : GroupKey × List Transaction}
    (hgroup : group ∈ groups) {t : Transaction} (ht : t ∈ group.2) : keyOf t = group.1 :=
  of_decide_eq_true (List.mem_filter.mp ((h.held group hgroup).subset ht)).2

theorem congr_perm (h : Partitions keyOf items groups) {others : List Transaction}
    (same : items.Perm others) : Partitions keyOf others groups :=
  ⟨h.some, fun group hgroup => (h.held group hgroup).trans (same.filter _), h.perm.trans same⟩

theorem reverse (h : Partitions keyOf items groups) : Partitions keyOf items groups.reverse := by
  refine ⟨fun group hgroup => h.some group (List.mem_reverse.mp hgroup),
    fun group hgroup => h.held group (List.mem_reverse.mp hgroup), ?_⟩
  have hback : (flatten groups.reverse).Perm (flatten groups) :=
    (List.reverse_perm groups).flatMap_right Prod.snd
  exact hback.trans h.perm

theorem mem_keys_iff (h : Partitions keyOf items groups) {key : GroupKey} :
    key ∈ groups.map Prod.fst ↔ ∃ t ∈ items, keyOf t = key := by
  constructor
  · intro hkey
    obtain ⟨group, hgroup, rfl⟩ := List.mem_map.mp hkey
    obtain ⟨t, ht⟩ := List.exists_mem_of_ne_nil _ (h.some group hgroup)
    have hm := (h.held group hgroup).subset ht
    exact ⟨t, (List.mem_filter.mp hm).1, h.own_key hgroup ht⟩
  · rintro ⟨t, ht, rfl⟩
    obtain ⟨group, hgroup, htgroup⟩ := List.mem_flatMap.mp (h.perm.symm.subset ht)
    rw [h.own_key hgroup htgroup]
    exact List.mem_map_of_mem hgroup

theorem perm_filter (h : Partitions keyOf items groups) (p : GroupKey → Bool) :
    (flatten (groups.filter fun group => p group.1)).Perm (items.filter fun t => p (keyOf t)) := by
  rw [flatten_filter fun group hgroup t ht => h.own_key hgroup ht]
  exact h.perm.filter _

end Partitions

theorem partitions_buckets (kind : KeyKind) (items : List Transaction) :
    Partitions kind.keyOf items (buckets kind.keyOf items) where
  some _ hgroup := (mem_buckets.mp hgroup).2
  held _ hgroup := List.Perm.of_eq (mem_buckets.mp hgroup).1
  perm := flatten_buckets_perm kind.kind_keyOf

/-- Transactions, turned round or not, come in groups that hold each of them once. -/
theorem exists_partition (kind : KeyKind) (some : items ≠ []) (back backGroups : Bool) :
    ∃ groups, (turned back (.transactions items) >>= grouping kind >>= turned backGroups) =
      .ok (.groupedTransactions groups) ∧ Partitions kind.keyOf items groups := by
  obtain ⟨others, hothers, same⟩ : ∃ others, others ≠ [] ∧
      turned back (.transactions items) = .ok (.transactions others) ∧ others.Perm items := by
    cases back with
    | false => exact ⟨items, some, rfl, List.Perm.refl items⟩
    | true => exact ⟨items.reverse, by simpa using some, rfl, List.reverse_perm items⟩
  have parts := (partitions_buckets kind others).congr_perm same.2
  have hgroups : (turned back (.transactions items) >>= grouping kind) =
      .ok (.groupedTransactions (buckets kind.keyOf others)) := by
    rw [same.1]
    exact grouping_of_some kind hothers
  rw [hgroups]
  cases backGroups with
  | false => exact ⟨_, rfl, parts⟩
  | true => exact ⟨_, rfl, parts.reverse⟩

def sizes (groups : Groups (List Transaction)) : Groups Number :=
  mapGroups (fun held => .int held.length) groups

theorem count_groups (groups : Groups (List Transaction)) :
    count (.groupedTransactions groups) = .ok (.groupedNumbers (sizes groups)) := rfl

theorem sumNumbers_sizes (groups : Groups (List Transaction)) :
    sumNumbers ((sizes groups).map Prod.snd) = .ok (.int (flatten groups).length) := by
  have hcounts : (sizes groups).map Prod.snd =
      (groups.map fun group => group.2.length).map fun count : Nat => .int count := by
    simp [sizes, mapGroups]
  rw [hcounts, sumNumbers_counts, length_flatten]

theorem total_sizes (h : Partitions keyOf items groups) :
    total (.groupedNumbers (sizes groups)) = .ok (.number (.int items.length)) := by
  rw [total, sumNumbers_sizes, h.perm.length_eq]
  rfl

/-- By month and by year, and in whatever direction, the counts add up to the number of all
transactions; and each year has the transactions of its months, as many as these count together. -/
theorem counts_agree (some : items ≠ []) (back backMonths backYears : Bool) :
    ∃ months years monthCounts yearCounts,
      (turned back (.transactions items) >>= monthly >>= turned backMonths) =
        .ok (.groupedTransactions months) ∧
      (turned back (.transactions items) >>= yearly >>= turned backYears) =
        .ok (.groupedTransactions years) ∧
      count (.groupedTransactions months) = .ok (.groupedNumbers monthCounts) ∧
      count (.groupedTransactions years) = .ok (.groupedNumbers yearCounts) ∧
      total (.groupedNumbers monthCounts) = count (.transactions items) ∧
      total (.groupedNumbers yearCounts) = count (.transactions items) ∧
      count (.transactions items) = .ok (.number (.int items.length)) ∧
      ∀ year : Int,
        (GroupKey.year year ∈ years.map Prod.fst ↔
          ∃ key ∈ months.map Prod.fst, key.yearNumber = year) ∧
        (∀ held, (GroupKey.year year, held) ∈ years →
          held.Perm (flatten (months.filter (·.1.yearNumber = year)))) ∧
        (∀ n, (GroupKey.year year, n) ∈ yearCounts →
          sumNumbers ((monthCounts.filter (·.1.yearNumber = year)).map Prod.snd) = .ok n) := by
  obtain ⟨months, hmonths, byMonth⟩ := exists_partition .month some back backMonths
  obtain ⟨years, hyears, byYear⟩ := exists_partition .year some back backYears
  have hyear : ∀ (t : Transaction) (year : Int),
      KeyKind.year.keyOf t = .year year ↔ (KeyKind.month.keyOf t).yearNumber = year :=
    fun t year => ⟨GroupKey.year.inj, congrArg GroupKey.year⟩
  refine ⟨months, years, sizes months, sizes years, hmonths, hyears, count_groups months,
    count_groups years, total_sizes byMonth, total_sizes byYear, rfl, fun year => ?_⟩
  have same : items.filter (KeyKind.year.keyOf · = .year year) =
      items.filter fun t => decide ((KeyKind.month.keyOf t).yearNumber = year) :=
    List.filter_congr fun t _ => decide_eq_decide.mpr (hyear t year)
  have hheld : ∀ held, (GroupKey.year year, held) ∈ years →
      held.Perm (flatten (months.filter (·.1.yearNumber = year))) := by
    intro held hmem
    have here := byYear.held _ hmem
    rw [same] at here
    exact here.trans (byMonth.perm_filter fun key => decide (key.yearNumber = year)).symm
  refine ⟨?_, hheld, fun n hn => ?_⟩
  · rw [byYear.mem_keys_iff]
    constructor
    · rintro ⟨t, ht, he⟩
      exact ⟨_, byMonth.mem_keys_iff.mpr ⟨t, ht, rfl⟩, (hyear t year).mp he⟩
    · rintro ⟨key, hkey, he⟩
      obtain ⟨t, ht, rfl⟩ := byMonth.mem_keys_iff.mp hkey
      exact ⟨t, ht, (hyear t year).mpr he⟩
  · obtain ⟨⟨key, held⟩, hmem, he⟩ := List.mem_map.mp hn
    cases he
    have hsizes : (sizes months).filter (·.1.yearNumber = year) =
        sizes (months.filter (·.1.yearNumber = year)) :=
      filter_mapGroups _ (fun key => decide (key.yearNumber = year)) months
    rw [hsizes, sumNumbers_sizes, ← (hheld held hmem).length_eq]

/-- Three transactions of two months, turned round before they are grouped. -/
theorem counts_agree_turned :
    let first : Transaction :=
      { hash := "h1", account := "Checking", date := ⟨2023, ⟨1, by decide⟩, 5, by decide⟩,
        amount := -10, description := "Corner Deli" }
    let second := { first with hash := "h2", date := ⟨2023, ⟨2, by decide⟩, 1, by decide⟩ }
    let items := [second, first, second]
    items ≠ [] ∧ ∃ months counts,
      (turned true (.transactions items) >>= monthly >>= turned false) =
        .ok (.groupedTransactions months) ∧
      count (.groupedTransactions months) = .ok (.groupedNumbers counts) ∧
      total (.groupedNumbers counts) = .ok (.number (.int 3)) := by
  intro first second items
  have hsome : items ≠ [] := List.cons_ne_nil _ _
  obtain ⟨months, years, monthCounts, yearCounts, hmonths, -, hcount, -, htotal, -⟩ :=
    counts_agree hsome true false false
  exact ⟨hsome, months, monthCounts, hmonths, hcount, htotal⟩

end LedgerQuery.Operation
