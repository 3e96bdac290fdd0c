import LedgerQuery.Proofs.Decimal.Digits
import LedgerQuery.Proofs.Evaluation.Answer
import LedgerQuery.Proofs.Evaluation.Register
import LedgerQuery.Proofs.Operation.Grouping
import LedgerQuery.Proofs.Query.Grammar
import Mathlib.Algebra.Order.Ring.Nat

/-! # Types and sizes of registers -/

namespace LedgerQuery

/-! ## Types

The types of values and a table of what each builtin command does to them. Whatever is drawn from
transactions has a type, and it is the one that is shown. -/

inductive Value.Typed : Value → Descriptor → Prop where
  | integer (n : Int) : Typed (.number (.int n)) .integer
  | float (x : Float) : Typed (.number (.float x)) .float
  | transactions {items : List Transaction} (some : items ≠ []) :
      Typed (.transactions items) .transactions
  | empty : Typed .empty .empty
  | groupedTransactions {groups : Groups (List Transaction)} {kind : KeyKind} (some : groups ≠ [])
      (keys : ∀ key ∈ groups.map Prod.fst, key.kind = kind)
      (held : ∀ list ∈ groups.map Prod.snd, list ≠ []) :
      Typed (.groupedTransactions groups) (.grouped kind .transactions)
  | groupedIntegers {groups : Groups Number} {kind : KeyKind} (some : groups ≠ [])
      (keys : ∀ key ∈ groups.map Prod.fst, key.kind = kind)
      (held : ∀ number ∈ groups.map Prod.snd, ∃ n, number = .int n) :
      Typed (.groupedNumbers groups) (.grouped kind .integer)
  | groupedFloats {groups : Groups Number} {kind : KeyKind} (some : groups ≠ [])
      (keys : ∀ key ∈ groups.map Prod.fst, key.kind = kind)
      (held : ∀ number ∈ groups.map Prod.snd, ∃ x, number = .float x) :
      Typed (.groupedNumbers groups) (.grouped kind .float)

namespace Builtin

def operation (builtin : Builtin) : String :=
  if builtin = .tags then "tag_filter" else builtin.keyword

def refusal : Builtin → Descriptor → Refusal
  | .avg, .empty => .noTransactions "avg"
  | builtin, type => .typeMismatch builtin.operation type

/-- The types of what a command may make of a value of a type, or the refusal of such values. -/
def typing (initial : Descriptor) (argument : Argument) (builtin : Builtin) (type : Descriptor) :
    Except Refusal (List Descriptor) :=
  let refused := .error (builtin.refusal type)
  match builtin with
  | .reset => .ok [initial]
  | .print => .ok [type]
  | .search | .tags =>
    match type with
    | .transactions => .ok [.transactions, .empty]
    | _ => refused
  | .monthly =>
    match type with
    | .transactions => .ok [.grouped .month .transactions]
    | _ => refused
  | .yearly =>
    match type with
    | .transactions => .ok [.grouped .year .transactions]
    | _ => refused
  | .reverse =>
    match type with
    | .transactions | .empty | .grouped _ _ => .ok [type]
    | _ => refused
  | .last =>
    match type with
    | .transactions | .empty | .grouped _ _ =>
      .ok [if argument = .count 0 then .empty else type]
    | _ => refused
  | .avg =>
    match type with
    | .integer | .float | .transactions => .ok [.float]
    | .grouped key .transactions => .ok [.grouped key .float]
    | .grouped _ .integer | .grouped _ .float => .ok [.float]
    | _ => refused
  | .sum =>
    match type with
    | .integer | .grouped _ .integer => .ok [.integer]
    | .float | .transactions | .grouped _ .float => .ok [.float]
    | .grouped key .transactions => .ok [.grouped key .float]
    | _ => refused
  | .count =>
    match type with
    | .integer | .float | .transactions | .empty => .ok [.integer]
    | .grouped key .transactions => .ok [.grouped key .integer]
    | .grouped _ .integer | .grouped _ .float => .ok [.integer]
    | _ => refused

/-- The command may leave nothing of something. -/
def Selects (builtin : Builtin) (argument : Argument) : Prop :=
  builtin = .search ∨ builtin = .tags ∨ builtin = .last ∧ argument = .count 0

variable {initial type : Descriptor} {argument : Argument} {builtin : Builtin}

/-- What the table refuses is of the wrong type, or there is nothing to take the average of. -/
theorem typing_error {cause : Refusal} (h : builtin.typing initial argument type = .error cause) :
    cause = .typeMismatch builtin.operation type ∨
      builtin = .avg ∧ type = .empty ∧ cause = .noTransactions "avg" := by
  have hcause : cause = builtin.refusal type := by
    cases builtin with
    | reset => cases h
    | print => cases h
    | _ =>
      simp only [typing] at h
      split at h <;> cases h
      rfl
  rw [hcause]
  unfold refusal
  split
  · exact Or.inr ⟨rfl, rfl, rfl⟩
  · exact Or.inl rfl

/-- A command that does not select makes values of one type, and something of something. -/
theorem typing_ok {types : List Descriptor} (h : builtin.typing initial argument type = .ok types)
    (hkeeps : ¬ builtin.Selects argument) :
    ∃ next, types = [next] ∧
      (next = .empty → type = .empty ∨ builtin = .reset ∧ initial = .empty) := by
  cases builtin with
  | search => exact absurd (Or.inl rfl) hkeeps
  | tags => exact absurd (Or.inr (Or.inl rfl)) hkeeps
  | reset =>
    cases h
    exact ⟨initial, rfl, fun he => Or.inr ⟨rfl, he⟩⟩
  | print =>
    cases h
    exact ⟨type, rfl, Or.inl⟩
  | last =>
    have hsome : argument ≠ .count 0 := fun he => hkeeps (Or.inr (Or.inr ⟨rfl, he⟩))
    simp only [typing, if_neg hsome] at h
    split at h <;> cases h <;> exact ⟨_, rfl, by simp⟩
  | _ =>
    simp only [typing] at h
    split at h <;> cases h <;> exact ⟨_, rfl, by simp⟩

end Builtin

namespace Value

theorem ofTransactions_of_ne_nil {items : List Transaction} (h : items ≠ []) :
    ofTransactions items = .transactions items :=
  if_neg (by simpa using h)

theorem ofTransactionGroups_of_ne_nil {groups : Groups (List Transaction)} (h : groups ≠ []) :
    ofTransactionGroups groups = .groupedTransactions groups :=
  if_neg (by simpa using h)

theorem ofNumberGroups_of_ne_nil {groups : Groups Number} (h : groups ≠ []) :
    ofNumberGroups groups = .groupedNumbers groups :=
  if_neg (by simpa using h)

end Value

namespace Value.Typed

variable {items : List Transaction} {value : Value} {type : Descriptor} {kind : KeyKind}

theorem number (n : Number) : (Value.number n).Typed n.descriptor := by
  cases n with
  | int n => exact .integer n
  | float x => exact .float x

theorem descriptor? (h : value.Typed type) : value.descriptor? = some type := by
  cases h with
  | integer n => rfl
  | float x => rfl
  | transactions some => rfl
  | empty => rfl
  | @groupedTransactions groups kind some keys held =>
    cases groups with
    | nil => exact absurd rfl some
    | cons group rest =>
      rw [← keys group.1 List.mem_cons_self]
      rfl
  | @groupedIntegers groups kind some keys held =>
    cases groups with
    | nil => exact absurd rfl some
    | cons group rest =>
      obtain ⟨key, number⟩ := group
      obtain ⟨n, rfl⟩ := held number List.mem_cons_self
      rw [← keys key List.mem_cons_self]
      rfl
  | @groupedFloats groups kind some keys held =>
    cases groups with
    | nil => exact absurd rfl some
    | cons group rest =>
      obtain ⟨key, number⟩ := group
      obtain ⟨x, rfl⟩ := held number List.mem_cons_self
      rw [← keys key List.mem_cons_self]
      rfl

theorem descriptor (h : value.Typed type) : value.descriptor = .ok type := by
  rw [Value.descriptor, h.descriptor?]

theorem mismatch {α : Type} (h : value.Typed type) (operation : String) :
    (value.mismatch operation : Except Failure α) =
      .error (.refusal (.typeMismatch operation type)) := by
  rw [Value.mismatch, h.descriptor?]

theorem ofTransactions (h : items ≠ []) : (Value.ofTransactions items).Typed .transactions := by
  rw [ofTransactions_of_ne_nil h]
  exact .transactions h

theorem groupedTransactions_of_subset {groups part : Groups (List Transaction)}
    (h : (Value.groupedTransactions groups).Typed type) (some : part ≠ []) (hs : part ⊆ groups) :
    (Value.groupedTransactions part).Typed type := by
  have hkeys := List.map_subset Prod.fst hs
  have hheld := List.map_subset Prod.snd hs
  cases h with
  | groupedTransactions _ keys held =>
    exact .groupedTransactions some (fun key hm => keys key (hkeys hm))
      fun list hm => held list (hheld hm)

theorem groupedNumbers_of_subset {groups part : Groups Number}
    (h : (Value.groupedNumbers groups).Typed type) (some : part ≠ []) (hs : part ⊆ groups) :
    (Value.groupedNumbers part).Typed type := by
  have hkeys := List.map_subset Prod.fst hs
  have hheld := List.map_subset Prod.snd hs
  cases h with
  | groupedIntegers _ keys held =>
    exact .groupedIntegers some (fun key hm => keys key (hkeys hm))
      fun number hm => held number (hheld hm)
  | groupedFloats _ keys held =>
    exact .groupedFloats some (fun key hm => keys key (hkeys hm))
      fun number hm => held number (hheld hm)

end Value.Typed

theorem Value.DrawnFrom.typed {items : List Transaction} {value : Value}
    (h : value.DrawnFrom items) : ∃ type, value.Typed type := by
  cases h with
  | empty => exact ⟨_, .empty⟩
  | number n => exact ⟨_, .number n⟩
  | transactions some drawn => exact ⟨_, .transactions some⟩
  | groupedTransactions some keys held drawn =>
    obtain ⟨kind, hkind⟩ := keys.one_kind
    refine ⟨_, .groupedTransactions some hkind fun list hm => ?_⟩
    obtain ⟨group, hgroup, rfl⟩ := List.mem_map.mp hm
    exact (held group hgroup).1
  | groupedNumbers some keys held =>
    obtain ⟨kind, hkind⟩ := keys.one_kind
    rcases held with hints | hfloats
    · exact ⟨_, .groupedIntegers some hkind hints⟩
    · exact ⟨_, .groupedFloats some hkind hfloats⟩

/-! ## How far the whole numbers of a register go

They count transactions or groups, of which there are no more than there were transactions at the
start; so each of them has a nearest double, and so has their sum. -/

/-- The numbers are doubles, or they count no more than `n` things all together. -/
def CountsWithin (n : Nat) (numbers : List Number) : Prop :=
  (∃ counts : List Nat, numbers = counts.map (fun count : Nat => .int count) ∧ counts.sum ≤ n) ∨
    ∀ number ∈ numbers, ∃ x, number = .float x

/-- The value has no more than `n` items or groups and counts no more. -/
def Value.Within (n : Nat) : Value → Prop
  | .number m => CountsWithin n [m]
  | .transactions items => items.length ≤ n
  | .groupedTransactions groups =>
    groups.length ≤ n ∧ (groups.map fun group => group.2.length).sum ≤ n
  | .groupedNumbers groups => groups.length ≤ n ∧ CountsWithin n (groups.map Prod.snd)
  | .empty => True
  | .foreign _ => True

variable {n : Nat}

theorem countsWithin_int {count : Nat} (h : count ≤ n) : CountsWithin n [.int count] :=
  Or.inl ⟨[count], rfl, h⟩

theorem countsWithin_float (x : Float) : CountsWithin n [.float x] :=
  Or.inr fun _ hm => ⟨x, List.mem_singleton.mp hm⟩

theorem CountsWithin.natAbs_le {numbers : List Number} (h : CountsWithin n numbers) {count : Int}
    (hm : .int count ∈ numbers) : count.natAbs ≤ n := by
  rcases h with ⟨counts, rfl, hsum⟩ | h
  · obtain ⟨counted, hcounted, hint⟩ := List.mem_map.mp hm
    cases hint
    exact Nat.le_trans (List.le_sum_of_mem hcounted) hsum
  · obtain ⟨x, hx⟩ := h _ hm
    cases hx

theorem sum_le_of_sublist {part whole : List Nat} (h : part.Sublist whole) :
    part.sum ≤ whole.sum :=
  h.sum_le_sum fun _ _ => Nat.zero_le _

theorem CountsWithin.sublist {numbers part : List Number} (h : CountsWithin n numbers)
    (hs : part.Sublist numbers) : CountsWithin n part := by
  rcases h with ⟨counts, rfl, hsum⟩ | h
  · obtain ⟨rest, hrest, rfl⟩ := List.sublist_map_iff.mp hs
    exact Or.inl ⟨rest, rfl, Nat.le_trans (sum_le_of_sublist hrest) hsum⟩
  · exact Or.inr fun number hm => h number (hs.subset hm)

theorem CountsWithin.reverse {numbers : List Number} (h : CountsWithin n numbers) :
    CountsWithin n numbers.reverse := by
  rcases h with ⟨counts, rfl, hsum⟩ | h
  · refine Or.inl ⟨counts.reverse, by rw [List.map_reverse], ?_⟩
    rwa [List.sum_reverse]
  · exact Or.inr fun number hm => h number (List.mem_reverse.mp hm)

namespace Operation

theorem foldlM_add_floats {numbers : List Number} (h : ∀ number ∈ numbers, ∃ x, number = .float x)
    (start : Float) : ∃ x, numbers.foldlM add (.float start) = .ok (.float x) := by
  induction numbers generalizing start with
  | nil => exact ⟨start, rfl⟩
  | cons number numbers ih =>
    obtain ⟨⟨x, rfl⟩, hrest⟩ := List.forall_mem_cons.mp h
    exact ih hrest (start + x)

/-- The sum of the numbers counts no more than they do, and is a number like them. -/
theorem exists_sumNumbers {numbers : List Number} (h : CountsWithin n numbers) :
    ∃ sum, sumNumbers numbers = .ok sum ∧ CountsWithin n [sum] ∧
      ∀ number ∈ numbers, sum.descriptor = number.descriptor := by
  rcases h with ⟨counts, rfl, hsum⟩ | h
  · refine ⟨.int counts.sum, sumNumbers_counts counts, countsWithin_int hsum, fun number hm => ?_⟩
    obtain ⟨count, -, rfl⟩ := List.mem_map.mp hm
    rfl
  · cases numbers with
    | nil => exact ⟨.int 0, rfl, countsWithin_int (Nat.zero_le n), fun _ hm => nomatch hm⟩
    | cons number numbers =>
      obtain ⟨⟨x, rfl⟩, hrest⟩ := List.forall_mem_cons.mp h
      obtain ⟨zero, hzero⟩ : ∃ zero, Decimal.Binary64.ofInt? 0 = some zero :=
        Decimal.Binary64.exists_ofInt? (Decimal.Binary64.lt_wholeLimit (Nat.zero_le _))
      have hadd : add (.int 0) (.float x) = .ok (.float (zero.toFloat + x)) := by
        simp only [add, toFloat, hzero]
        rfl
      obtain ⟨y, hy⟩ := foldlM_add_floats hrest (zero.toFloat + x)
      refine ⟨.float y, ?_, countsWithin_float y, fun number hm => ?_⟩
      · rw [sumNumbers, List.foldlM_cons, hadd]
        exact hy
      · obtain ⟨z, rfl⟩ := h number hm
        rfl

theorem exists_toFloat (hn : n < Decimal.Binary64.wholeLimit) {numbers : List Number}
    (h : CountsWithin n numbers) {number : Number} (hm : number ∈ numbers) :
    ∃ x, toFloat number = .ok x := by
  rcases h with ⟨counts, rfl, hsum⟩ | h
  · obtain ⟨count, hcount, rfl⟩ := List.mem_map.mp hm
    have hle : count ≤ n := Nat.le_trans (List.le_sum_of_mem hcount) hsum
    have habs : (count : Int).natAbs < Decimal.Binary64.wholeLimit := by
      rw [Int.natAbs_natCast]
      exact lt_of_le_of_lt hle hn
    obtain ⟨x, hx⟩ := Decimal.Binary64.exists_ofInt? habs
    exact ⟨x.toFloat, by rw [toFloat, hx]⟩
  · obtain ⟨x, rfl⟩ := h number hm
    exact ⟨x, rfl⟩

end Operation

namespace Value.Within

theorem ofTransactions {items : List Transaction} (h : items.length ≤ n) :
    (Value.ofTransactions items).Within n := by
  unfold Value.ofTransactions
  cases items with
  | nil => trivial
  | cons t rest => exact h

theorem ofTransactionGroups {groups : Groups (List Transaction)}
    (h : (Value.groupedTransactions groups).Within n) :
    (Value.ofTransactionGroups groups).Within n := by
  unfold Value.ofTransactionGroups
  cases groups with
  | nil => trivial
  | cons group rest => exact h

theorem ofNumberGroups {groups : Groups Number} (h : (Value.groupedNumbers groups).Within n) :
    (Value.ofNumberGroups groups).Within n := by
  unfold Value.ofNumberGroups
  cases groups with
  | nil => trivial
  | cons group rest => exact h

theorem groupedTransactions_sublist {groups part : Groups (List Transaction)}
    (h : (Value.groupedTransactions groups).Within n) (hs : part.Sublist groups) :
    (Value.groupedTransactions part).Within n :=
  ⟨Nat.le_trans hs.length_le h.1, Nat.le_trans (sum_le_of_sublist (hs.map _)) h.2⟩

theorem groupedNumbers_sublist {groups part : Groups Number}
    (h : (Value.groupedNumbers groups).Within n) (hs : part.Sublist groups) :
    (Value.groupedNumbers part).Within n :=
  ⟨Nat.le_trans hs.length_le h.1, h.2.sublist (hs.map _)⟩

theorem makes {initial value result : Value} (hpos : 0 < n) (hi : initial.Within n)
    (h : value.Within n) (hm : Builtin.Makes initial value result) : result.Within n := by
  cases hm with
  | same => exact h
  | reset => exact hi
  | select test items => exact ofTransactions (Nat.le_trans (List.length_filter_le test items) h)
  | group one covers items =>
    exact ofTransactionGroups ⟨Nat.le_trans (Operation.length_buckets_le one) h,
      Nat.le_trans (Nat.le_of_eq (Operation.sum_length_buckets one)) h⟩
  | lastItems count items =>
    exact ofTransactions (Nat.le_trans (List.drop_sublist _ items).length_le h)
  | lastGroups count groups =>
    exact ofTransactionGroups (groupedTransactions_sublist h (List.drop_sublist _ groups))
  | lastNumbers count groups =>
    exact ofNumberGroups (groupedNumbers_sublist h (List.drop_sublist _ groups))
  | reverseItems items => exact Nat.le_trans (Nat.le_of_eq List.length_reverse) h
  | reverseGroups groups =>
    refine ⟨Nat.le_trans (Nat.le_of_eq List.length_reverse) h.1, ?_⟩
    rw [List.map_reverse, List.sum_reverse]
    exact h.2
  | reverseNumbers groups =>
    refine ⟨Nat.le_trans (Nat.le_of_eq List.length_reverse) h.1, ?_⟩
    rw [List.map_reverse]
    exact h.2.reverse
  | countNumber number => exact countsWithin_int hpos
  | countNothing => exact countsWithin_int (Nat.zero_le n)
  | countItems items => exact countsWithin_int h
  | countNumbers groups => exact countsWithin_int h.1
  | countGroups groups =>
    refine ⟨Nat.le_trans (Nat.le_of_eq (Operation.length_mapGroups _ _)) h.1, Or.inl ⟨_, ?_, h.2⟩⟩
    simp [Operation.mapGroups, Function.comp_def]
  | addItems items => exact countsWithin_float _
  | addNumbers hsum =>
    obtain ⟨sum, hsum', hwithin, -⟩ := Operation.exists_sumNumbers h.2
    cases hsum.symm.trans hsum'
    exact hwithin
  | average => exact countsWithin_float _
  | floats keys floats =>
    have hlength := congrArg List.length keys
    rw [List.length_map, List.length_map] at hlength
    exact ⟨Nat.le_trans (Nat.le_of_eq hlength) h.1, Or.inr floats⟩

theorem transform {builtin : Builtin} {argument : Argument} {initial value result : Value}
    (hpos : 0 < n) (hi : initial.Within n) (h : value.Within n)
    (hr : builtin.transform initial argument value = .ok result) : result.Within n :=
  makes hpos hi h (makes_of_transform hr)

end Value.Within

structure Value.IsRegister (items : List Transaction) (value : Value) : Prop where
  drawn : value.DrawnFrom items
  within : value.Within (max 1 items.length)

namespace Value.IsRegister

variable {items : List Transaction} {value : Value}

theorem start (items : List Transaction) : (Value.ofTransactions items).IsRegister items :=
  ⟨.ofTransactions (Or.inl (List.Sublist.refl items)),
    .ofTransactions (Nat.le_max_right 1 items.length)⟩

theorem transform {builtin : Builtin} {argument : Argument} {initial result : Value}
    (hi : initial.IsRegister items) (h : value.IsRegister items)
    (hr : builtin.transform initial argument value = .ok result) : result.IsRegister items :=
  ⟨hi.drawn.transform h.drawn hr,
    hi.within.transform (Nat.le_max_left 1 items.length) h.within hr⟩

/-- Lines that begin with transactions come to nothing but registers. -/
theorem evaluateLines {α : Type} (printer : Option (Value → Except Failure α))
    (items : List Transaction) (lines : List Line) :
    ((Workspace.start (.ofTransactions items)).evaluateLines printer lines).register.IsRegister
      items := by
  have hstart := start items
  exact Workspace.evaluateLines_preserves printer (.start (.ofTransactions items))
    (fun _ _ _ _ => hstart.transform) lines hstart

end Value.IsRegister

end LedgerQuery
