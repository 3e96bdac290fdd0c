import LedgerQuery.Value.Grouped
import Mathlib.Algebra.Order.BigOperators.Group.List
import Mathlib.Algebra.Order.Ring.Nat
import Mathlib.Data.List.Induction

/-! # Grouping -/

namespace LedgerQuery

/-! ## Keys and buckets

Keys of one kind are in a strict order, and grouping puts each key once, in that order, in front
of the transactions whose date it covers. While transactions are collected, the groups are those of
the transactions so far, under the keys in the order in which these came up. -/

namespace GroupKey

def Covers : GroupKey → Date → Prop
  | .month y m, date => (date.year : Int) = y ∧ date.month = m
  | .year y, date => (date.year : Int) = y

theorem monthOf_covers (date : Date) : (monthOf date).Covers date := ⟨rfl, rfl⟩

theorem yearOf_covers (date : Date) : (yearOf date).Covers date := rfl

theorem before_iff {a b : GroupKey} : a.before b = true ↔ a.yearNumber < b.yearNumber ∨
    (a.yearNumber = b.yearNumber ∧ a.monthNumber < b.monthNumber) := by
  simp [before]

theorem notAfter_iff {a b : GroupKey} : a.notAfter b = true ↔ a.yearNumber < b.yearNumber ∨
    (a.yearNumber = b.yearNumber ∧ a.monthNumber ≤ b.monthNumber) := by
  simp only [notAfter, Bool.not_eq_true', ← Bool.not_eq_true, before_iff]
  omega

theorem notAfter_trans {a b c : GroupKey} (h : a.notAfter b = true) (k : b.notAfter c = true) :
    a.notAfter c = true := by
  rw [notAfter_iff] at *
  omega

theorem notAfter_total (a b : GroupKey) : (a.notAfter b || b.notAfter a) = true := by
  rw [Bool.or_eq_true, notAfter_iff, notAfter_iff]
  omega

theorem eq_of_numbers {a b : GroupKey} (hk : a.kind = b.kind) (hy : a.yearNumber = b.yearNumber)
    (hm : a.monthNumber = b.monthNumber) : a = b := by
  cases a with
  | month y m =>
    cases b with
    | month y' m' =>
      obtain ⟨number, _⟩ := m
      obtain ⟨number', _⟩ := m'
      simp only [yearNumber, monthNumber] at hy hm
      subst hy hm
      rfl
    | year y' => cases hk
  | year y =>
    cases b with
    | month y' m' => cases hk
    | year y' => exact congrArg _ hy

theorem before_of_notAfter {a b : GroupKey} (hk : a.kind = b.kind) (h : a.notAfter b = true)
    (hne : a ≠ b) : a.before b = true := by
  rw [notAfter_iff] at h
  rw [before_iff]
  rcases h with hy | ⟨hy, hm⟩
  · exact Or.inl hy
  · exact Or.inr ⟨hy, Nat.lt_of_le_of_ne hm fun he => hne (eq_of_numbers hk hy he)⟩

end GroupKey

def KeyKind.keyOf : KeyKind → Transaction → GroupKey
  | .month, t => .monthOf t.date
  | .year, t => .yearOf t.date

theorem KeyKind.kind_keyOf (kind : KeyKind) (t : Transaction) : (kind.keyOf t).kind = kind := by
  cases kind <;> rfl

theorem sortedByKey_eq_ok {α : Type} {groups : Groups α} {kind : KeyKind}
    (one : ∀ group ∈ groups, group.1.kind = kind) :
    sortedByKey groups = .ok (groups.mergeSort fun a b => a.1.notAfter b.1) := by
  unfold sortedByKey
  cases groups with
  | nil => simp
  | cons first others =>
    have hnone : others.find? (·.1.kind ≠ first.1.kind) = none := by
      rw [List.find?_eq_none]
      intro other hother
      simp [one first, one other (List.mem_cons_of_mem first hother)]
    simp only [hnone]

theorem Value.ofGroups_transactions {groups : Groups (List Transaction)} (some : groups ≠ []) :
    Value.ofGroups (groups.map fun group => (group.1, .transactions group.2)) =
      .ok (.groupedTransactions groups) := by
  have hlists : groups.mapM Option.some = Option.some groups :=
    List.mapM_pure.trans (by simp)
  cases groups with
  | nil => exact absurd rfl some
  | cons group groups =>
    simp only [Value.ofGroups, List.mapM_map, Function.comp_def, transactions?, Option.map_some,
      hlists]
    simp [List.mapM_cons, number?]

namespace Operation

variable {keyOf : Transaction → GroupKey} {items : List Transaction} {keys : List GroupKey}
  {t : Transaction}

/-- Keys, each with the transactions that have it. -/
def heldUnder (keyOf : Transaction → GroupKey) (items : List Transaction)
    (keys : List GroupKey) : Groups (List Transaction) :=
  keys.map fun key => (key, items.filter (keyOf · = key))

theorem heldUnder_concat (h : keyOf t ∉ keys) :
    heldUnder keyOf (items ++ [t]) keys = heldUnder keyOf items keys := by
  refine List.map_congr_left fun key hkey => ?_
  have hne : keyOf t ≠ key := fun he => h (he ▸ hkey)
  simp [hne]

theorem addTo_of_mem (once : keys.Nodup) (h : keyOf t ∈ keys) :
    addTo (keyOf t) t (heldUnder keyOf items keys) = heldUnder keyOf (items ++ [t]) keys := by
  induction keys with
  | nil => cases h
  | cons key keys ih =>
    obtain ⟨hkey, honce⟩ := List.nodup_cons.mp once
    by_cases he : key = keyOf t
    · subst he
      have hrest : heldUnder keyOf (items ++ [t]) keys = heldUnder keyOf items keys :=
        heldUnder_concat hkey
      simp only [heldUnder] at hrest ⊢
      simp [addTo, ← hrest]
    · have hne : keyOf t ≠ key := Ne.symm he
      have hrest := ih honce (List.mem_of_ne_of_mem hne h)
      simp only [heldUnder] at hrest ⊢
      simp [addTo, he, hne, hrest]

theorem addTo_of_not_mem (h : keyOf t ∉ keys) :
    addTo (keyOf t) t (heldUnder keyOf items keys) =
      heldUnder keyOf items keys ++ [(keyOf t, [t])] := by
  induction keys with
  | nil => rfl
  | cons key keys ih =>
    have hrest := ih fun hm => h (List.mem_cons_of_mem key hm)
    have hne : key ≠ keyOf t := fun he => h (he ▸ List.mem_cons_self)
    simp only [heldUnder] at hrest ⊢
    simp [addTo, hne, hrest]

/-- What has been collected are the groups of the transactions so far. -/
theorem collect_eq : collect keyOf items = heldUnder keyOf items (distinct (items.map keyOf)) := by
  induction items using List.reverseRecOn with
  | nil => rfl
  | append_singleton before t ih =>
    have hstep : collect keyOf (before ++ [t]) = addTo (keyOf t) t (collect keyOf before) := by
      simp [collect]
    rw [hstep, ih, List.map_append, List.map_singleton, distinct_concat]
    by_cases h : keyOf t ∈ before.map keyOf
    · rw [if_pos h]
      exact addTo_of_mem (nodup_distinct _) (mem_distinct.mpr h)
    · have hfresh : keyOf t ∉ distinct (before.map keyOf) := fun hm => h (mem_distinct.mp hm)
      have hnone : before.filter (keyOf · = keyOf t) = [] := by
        rw [List.filter_eq_nil_iff]
        intro other hother he
        exact h (List.mem_map.mpr ⟨other, hother, of_decide_eq_true he⟩)
      rw [if_neg h, addTo_of_not_mem hfresh, ← heldUnder_concat hfresh]
      simp [heldUnder, hnone]

def sortedKeys (keyOf : Transaction → GroupKey) (items : List Transaction) : List GroupKey :=
  (distinct (items.map keyOf)).mergeSort GroupKey.notAfter

def buckets (keyOf : Transaction → GroupKey) (items : List Transaction) :
    Groups (List Transaction) :=
  heldUnder keyOf items (sortedKeys keyOf items)

theorem mem_sortedKeys {key : GroupKey} :
    key ∈ sortedKeys keyOf items ↔ ∃ t ∈ items, keyOf t = key := by
  simp [sortedKeys]

theorem sortedKeys_ascend {kind : KeyKind} (hk : ∀ t ∈ items, (keyOf t).kind = kind) :
    (sortedKeys keyOf items).Pairwise fun a b => a.before b = true := by
  have sorted : (sortedKeys keyOf items).Pairwise (GroupKey.notAfter · ·) := by
    unfold sortedKeys
    apply List.pairwise_mergeSort
    · intro a b c hab hbc
      exact GroupKey.notAfter_trans hab hbc
    · exact GroupKey.notAfter_total
  have apart : (sortedKeys keyOf items).Nodup :=
    (List.mergeSort_perm _ _).nodup_iff.mpr (nodup_distinct _)
  have kinds : ∀ key ∈ sortedKeys keyOf items, key.kind = kind := by
    intro key hmem
    obtain ⟨t, ht, rfl⟩ := mem_sortedKeys.mp hmem
    exact hk t ht
  refine (sorted.and apart).imp_of_mem ?_
  rintro a b ha hb ⟨hle, hne⟩
  exact GroupKey.before_of_notAfter ((kinds a ha).trans (kinds b hb).symm) hle hne

theorem keys_buckets : (buckets keyOf items).map Prod.fst = sortedKeys keyOf items := by
  simp [buckets, heldUnder, Function.comp_def]

/-- A group holds, in order, all transactions that have its key, of which there are some. -/
theorem mem_buckets {group : GroupKey × List Transaction} :
    group ∈ buckets keyOf items ↔
      group.2 = items.filter (keyOf · = group.1) ∧ group.2 ≠ [] := by
  obtain ⟨key, held⟩ := group
  simp only [buckets, heldUnder, List.mem_map, mem_sortedKeys, Prod.mk.injEq]
  constructor
  · rintro ⟨_, ⟨t, ht, hkey⟩, rfl, rfl⟩
    refine ⟨rfl, List.ne_nil_of_mem (a := t) ?_⟩
    exact List.mem_filter.mpr ⟨ht, by simpa using hkey⟩
  · rintro ⟨hheld, hne⟩
    obtain ⟨t, ht⟩ := List.exists_mem_of_ne_nil _ hne
    have hm := List.mem_filter.mp (hheld ▸ ht)
    exact ⟨key, ⟨t, hm.1, by simpa using hm.2⟩, rfl, hheld.symm⟩

theorem buckets_eq_nil_iff : buckets keyOf items = [] ↔ items = [] := by
  constructor
  · intro hnone
    rw [List.eq_nil_iff_forall_not_mem]
    intro t ht
    have hkey : keyOf t ∈ (buckets keyOf items).map Prod.fst := by
      rw [keys_buckets]
      exact mem_sortedKeys.mpr ⟨t, ht, rfl⟩
    rw [hnone] at hkey
    cases hkey
  · rintro rfl
    simp [buckets, heldUnder, sortedKeys, distinct]

theorem sortedByKey_collect {kind : KeyKind} (one : ∀ t, (keyOf t).kind = kind)
    (items : List Transaction) :
    sortedByKey ((collect keyOf items).map fun group => (group.1, Value.transactions group.2)) =
      .ok ((buckets keyOf items).map fun group => (group.1, .transactions group.2)) := by
  let pair := fun key => (key, Value.transactions (items.filter (keyOf · = key)))
  have hcollect : ((collect keyOf items).map fun group => (group.1, Value.transactions group.2)) =
      (distinct (items.map keyOf)).map pair := by
    simp [collect_eq, heldUnder, pair]
  have hkinds : ∀ group ∈ (distinct (items.map keyOf)).map pair, group.1.kind = kind := by
    intro group hgroup
    obtain ⟨key, hkey, rfl⟩ := List.mem_map.mp hgroup
    obtain ⟨t, -, rfl⟩ := List.mem_map.mp (mem_distinct.mp hkey)
    exact one t
  have hsort : ((distinct (items.map keyOf)).map pair).mergeSort (fun a b => a.1.notAfter b.1) =
      (sortedKeys keyOf items).map pair := by
    refine (List.map_mergeSort ?_).symm
    intro a _ b _
    rfl
  rw [hcollect, sortedByKey_eq_ok hkinds, hsort]
  simp [buckets, heldUnder, pair]

/-- Grouping by keys of one kind gives the buckets, and never fails. -/
theorem groupBy_transactions {kind : KeyKind} (one : ∀ t, (keyOf t).kind = kind)
    (operation : String) (items : List Transaction) :
    groupBy operation keyOf (.transactions items) =
      .ok (.ofTransactionGroups (buckets keyOf items)) := by
  unfold groupBy Value.ofPairs Value.ofTransactionGroups
  cases items with
  | nil => simp [collect, buckets_eq_nil_iff]
  | cons t rest =>
    have hcollect : collect keyOf (t :: rest) ≠ [] := by
      simp [collect_eq, heldUnder, distinct]
    have hbuckets : buckets keyOf (t :: rest) ≠ [] := by
      simp [buckets_eq_nil_iff]
    simp [sortedByKey_collect one, Except.bind, Value.ofGroups_transactions, hcollect, hbuckets]

def grouping : KeyKind → Value → Except Failure Value
  | .month => monthly
  | .year => yearly

theorem grouping_transactions (kind : KeyKind) (items : List Transaction) :
    grouping kind (.transactions items) =
      .ok (.ofTransactionGroups (buckets kind.keyOf items)) := by
  cases kind with
  | month => exact groupBy_transactions KeyKind.month.kind_keyOf "monthly" items
  | year => exact groupBy_transactions KeyKind.year.kind_keyOf "yearly" items

theorem grouping_of_some (kind : KeyKind) (some : items ≠ []) :
    grouping kind (.transactions items) =
      .ok (.groupedTransactions (buckets kind.keyOf items)) := by
  have hsome : ¬ buckets kind.keyOf items = [] := fun hnone => some (buckets_eq_nil_iff.mp hnone)
  simp [grouping_transactions, Value.ofTransactionGroups, hsome]

end Operation

/-! ## Grouping is a stable bucket sort

The groups put together are the transactions in the order of their keys, those of one key in the
order in which they came; there is one such list. Dates and keys go the same way, so that
transactions in the order of their dates come out as they were. -/

def Date.NotAfter (a b : Date) : Prop :=
  a.year < b.year ∨ (a.year = b.year ∧ (a.month.number < b.month.number ∨
    (a.month.number = b.month.number ∧ a.day ≤ b.day)))

instance (a b : Date) : Decidable (a.NotAfter b) :=
  inferInstanceAs (Decidable (_ < _ ∨ (_ = _ ∧ (_ < _ ∨ (_ = _ ∧ _ ≤ _)))))

theorem KeyKind.notAfter_keyOf (kind : KeyKind) {a b : Transaction} (h : a.date.NotAfter b.date) :
    (kind.keyOf a).notAfter (kind.keyOf b) = true := by
  unfold Date.NotAfter at h
  rw [GroupKey.notAfter_iff]
  cases kind with
  | month =>
    simp only [keyOf, GroupKey.monthOf, GroupKey.yearNumber, GroupKey.monthNumber]
    omega
  | year =>
    simp only [keyOf, GroupKey.yearOf, GroupKey.yearNumber, GroupKey.monthNumber]
    omega

theorem GroupKey.ne_of_before {a b : GroupKey} (h : a.before b = true) : a ≠ b := by
  rintro rfl
  rw [before_iff] at h
  omega

theorem GroupKey.not_notAfter_of_before {a b : GroupKey} (h : a.before b = true) :
    ¬ b.notAfter a = true := by
  rw [before_iff] at h
  rw [notAfter_iff]
  omega

namespace Operation

/-- The transactions in the order of their keys, those of one key in the order that they had. -/
structure StablySorted (keyOf : Transaction → GroupKey) (items sorted : List Transaction) :
    Prop where
  perm : sorted.Perm items
  ordered : sorted.Pairwise fun a b => (keyOf a).notAfter (keyOf b) = true
  stable : ∀ key, sorted.filter (keyOf · = key) = items.filter (keyOf · = key)

def flatten (groups : Groups (List Transaction)) : List Transaction :=
  groups.flatMap Prod.snd

variable {keyOf : Transaction → GroupKey} {items sorted : List Transaction}
  {keys : List GroupKey}

theorem stablySorted_mergeSort (keyOf : Transaction → GroupKey) (items : List Transaction) :
    StablySorted keyOf items (items.mergeSort fun a b => (keyOf a).notAfter (keyOf b)) := by
  have trans : ∀ a b c : Transaction, (keyOf a).notAfter (keyOf b) = true →
      (keyOf b).notAfter (keyOf c) = true → (keyOf a).notAfter (keyOf c) = true :=
    fun _ _ _ => GroupKey.notAfter_trans
  have total : ∀ a b : Transaction,
      ((keyOf a).notAfter (keyOf b) || (keyOf b).notAfter (keyOf a)) = true :=
    fun _ _ => GroupKey.notAfter_total _ _
  have perm := List.mergeSort_perm items fun a b => (keyOf a).notAfter (keyOf b)
  refine ⟨perm, List.pairwise_mergeSort trans total items, fun key => ?_⟩
  have one : (items.filter (keyOf · = key)).Pairwise
      fun a b => (keyOf a).notAfter (keyOf b) = true := by
    refine List.pairwise_of_forall_mem_list ?_
    intro a ha b hb
    rw [of_decide_eq_true (List.mem_filter.mp ha).2, of_decide_eq_true (List.mem_filter.mp hb).2,
      GroupKey.notAfter_iff]
    omega
  -- Those of one key are sorted already, so that they are a sublist of the result, and of its part
  -- with this key, which is as long.
  have inside := (List.sublist_mergeSort trans total one List.filter_sublist).filter
    (keyOf · = key)
  rw [List.filter_filter] at inside
  simp only [Bool.and_self] at inside
  exact (inside.eq_of_length (perm.filter _).length_eq.symm).symm

/-- What holds of an item of an ordered list if it holds of a later one, holds of a front part. -/
theorem eq_filter_append {p : Transaction → Bool}
    (h : items.Pairwise fun a b => p b = true → p a = true) :
    items = items.filter p ++ items.filter (!p ·) := by
  induction items with
  | nil => rfl
  | cons t rest ih =>
    obtain ⟨ht, hrest⟩ := List.pairwise_cons.mp h
    by_cases hp : p t = true
    · simpa [hp] using ih hrest
    · have hnone : rest.filter p = [] := by
        rw [List.filter_eq_nil_iff]
        exact fun a ha hpa => hp (ht a ha hpa)
      have hall := ih hrest
      rw [hnone] at hall
      simpa [hp, hnone] using hall

/-- Among the transactions with another key, those of a key are the same. -/
theorem filter_filter_other {key other : GroupKey} (h : other ≠ key) :
    (items.filter fun t => !decide (keyOf t = key)).filter (keyOf · = other) =
      items.filter (keyOf · = other) := by
  rw [List.filter_filter]
  refine List.filter_congr fun t _ => ?_
  by_cases ht : keyOf t = other
  · simp [ht, h]
  · simp [ht]

/-- In order of their keys, transactions stand as their groups do. -/
theorem eq_flatten_of_ordered (ascend : keys.Pairwise fun a b => a.before b = true)
    (covered : ∀ t ∈ items, keyOf t ∈ keys)
    (ordered : items.Pairwise fun a b => (keyOf a).notAfter (keyOf b) = true) :
    items = flatten (heldUnder keyOf items keys) := by
  induction keys generalizing items with
  | nil =>
    rw [List.eq_nil_iff_forall_not_mem.mpr fun t ht => nomatch covered t ht]
    rfl
  | cons key keys ih =>
    obtain ⟨hkey, hkeys⟩ := List.pairwise_cons.mp ascend
    -- The first key is before all others, so the transactions that have it stand in front.
    let others := items.filter fun t => !decide (keyOf t = key)
    have hsplit : items = items.filter (keyOf · = key) ++ others := by
      refine eq_filter_append (ordered.imp_of_mem ?_)
      intro a b ha hb hab hp
      rw [decide_eq_true_eq] at hp ⊢
      rcases List.mem_cons.mp (covered a ha) with hhere | hlater
      · exact hhere
      · rw [hp] at hab
        exact absurd hab (GroupKey.not_notAfter_of_before (hkey _ hlater))
    have hcovered : ∀ t ∈ others, keyOf t ∈ keys := by
      intro t ht
      have hm := List.mem_filter.mp ht
      refine List.mem_of_ne_of_mem ?_ (covered t hm.1)
      simpa using hm.2
    have hothers : others = flatten (heldUnder keyOf others keys) :=
      ih hkeys hcovered (ordered.sublist List.filter_sublist)
    have hsame : heldUnder keyOf others keys = heldUnder keyOf items keys := by
      refine List.map_congr_left fun other hother => ?_
      rw [filter_filter_other (Ne.symm (GroupKey.ne_of_before (hkey other hother)))]
    calc items = items.filter (keyOf · = key) ++ others := hsplit
      _ = items.filter (keyOf · = key) ++ flatten (heldUnder keyOf items keys) := by
        rw [← hsame, ← hothers]
      _ = flatten (heldUnder keyOf items (key :: keys)) := rfl

/-- There is one stable order, that of the groups. -/
theorem StablySorted.eq_flatten {kind : KeyKind} (one : ∀ t, (keyOf t).kind = kind)
    (h : StablySorted keyOf items sorted) : sorted = flatten (buckets keyOf items) := by
  have ascend : (sortedKeys keyOf items).Pairwise fun a b => a.before b = true :=
    sortedKeys_ascend fun t _ => one t
  have covered : ∀ t ∈ sorted, keyOf t ∈ sortedKeys keyOf items :=
    fun t ht => mem_sortedKeys.mpr ⟨t, h.perm.subset ht, rfl⟩
  have hsame : heldUnder keyOf sorted (sortedKeys keyOf items) = buckets keyOf items := by
    refine List.map_congr_left fun key _ => ?_
    rw [h.stable key]
  rw [← hsame]
  exact eq_flatten_of_ordered ascend covered h.ordered

theorem flatten_buckets_perm {kind : KeyKind} (one : ∀ t, (keyOf t).kind = kind) :
    (flatten (buckets keyOf items)).Perm items := by
  have sorted := stablySorted_mergeSort keyOf items
  exact sorted.eq_flatten one ▸ sorted.perm

theorem length_flatten (groups : Groups (List Transaction)) :
    (flatten groups).length = (groups.map fun group => group.2.length).sum := by
  simp [flatten, List.length_flatMap]

theorem sum_length_buckets {kind : KeyKind} (one : ∀ t, (keyOf t).kind = kind) :
    ((buckets keyOf items).map fun group => group.2.length).sum = items.length := by
  rw [← length_flatten, (flatten_buckets_perm one).length_eq]

theorem length_buckets_le {kind : KeyKind} (one : ∀ t, (keyOf t).kind = kind) :
    (buckets keyOf items).length ≤ items.length := by
  have hsome : ∀ size ∈ (buckets keyOf items).map fun group => group.2.length, 1 ≤ size := by
    intro size hmem
    obtain ⟨group, hgroup, rfl⟩ := List.mem_map.mp hmem
    exact List.length_pos_iff.mpr (mem_buckets.mp hgroup).2
  have hle := List.length_le_sum_of_one_le _ hsome
  rwa [List.length_map, sum_length_buckets one] at hle

theorem stablySorted_of_dates (kind : KeyKind)
    (h : items.Pairwise fun a b => a.date.NotAfter b.date) :
    StablySorted kind.keyOf items items :=
  ⟨List.Perm.refl items, h.imp kind.notAfter_keyOf, fun _ => rfl⟩

/-- Grouping sorts transactions by their keys and keeps the order of those with one key. The keys
ascend strictly, and under each of them stand some transactions that have it. -/
theorem grouping_sorts_stably (kind : KeyKind) (some : items ≠ []) :
    ∃ groups, grouping kind (.transactions items) = .ok (.groupedTransactions groups) ∧
      (groups.map Prod.fst).Pairwise (fun a b => a.before b = true) ∧
      (∀ group ∈ groups, group.2 ≠ [] ∧ ∀ t ∈ group.2, kind.keyOf t = group.1) ∧
      StablySorted kind.keyOf items (flatten groups) ∧
      flatten groups =
        items.mergeSort (fun a b => (kind.keyOf a).notAfter (kind.keyOf b)) ∧
      (items.Pairwise (fun a b => a.date.NotAfter b.date) → flatten groups = items) := by
  have hsorted := stablySorted_mergeSort kind.keyOf items
  have hflat := hsorted.eq_flatten kind.kind_keyOf
  refine ⟨buckets kind.keyOf items, grouping_of_some kind some, ?_, ?_, ?_, ?_, ?_⟩
  · rw [keys_buckets]
    exact sortedKeys_ascend fun t _ => kind.kind_keyOf t
  · intro group hgroup
    obtain ⟨hheld, hne⟩ := mem_buckets.mp hgroup
    refine ⟨hne, fun t ht => ?_⟩
    rw [hheld] at ht
    exact of_decide_eq_true (List.mem_filter.mp ht).2
  · exact hflat ▸ hsorted
  · exact hflat.symm
  · intro hdates
    exact ((stablySorted_of_dates kind hdates).eq_flatten kind.kind_keyOf).symm

theorem grouping_sorts_stably_dated :
    let first : Transaction :=
      { hash := "h1", account := "Checking", date := ⟨2023, ⟨1, by decide⟩, 5, by decide⟩,
        amount := -10, description := "Corner Deli" }
    let second := { first with hash := "h2", date := ⟨2023, ⟨12, by decide⟩, 31, by decide⟩ }
    let third := { first with hash := "h3", date := ⟨2024, ⟨1, by decide⟩, 1, by decide⟩ }
    let items := [first, first, second, third]
    items ≠ [] ∧ items.Pairwise (fun a b => a.date.NotAfter b.date) ∧
      ∃ groups, monthly (.transactions items) = .ok (.groupedTransactions groups) ∧
        flatten groups = items := by
  intro first second third items
  have hsome : items ≠ [] := List.cons_ne_nil _ _
  have hdates : items.Pairwise (fun a b => a.date.NotAfter b.date) := by decide
  obtain ⟨groups, hgroups, -, -, -, -, hflat⟩ := grouping_sorts_stably .month hsome
  exact ⟨hsome, hdates, groups, hgroups, hflat hdates⟩

end Operation

end LedgerQuery
