/-!
# Lists without repetition

Items that are distinct, and entries whose keys are.
-/
namespace LedgerQuery

/-! ## Items without repetition

The distinct items of a list stand in the order in which they first occur. -/

/-- The items in order of first occurrence, later repetitions left out. -/
def distinct {α : Type} [DecidableEq α] : List α → List α
  | [] => []
  | x :: xs => x :: (distinct xs).filter (· ≠ x)

@[simp] theorem mem_distinct {α : Type} [DecidableEq α] {x : α} {xs : List α} :
    x ∈ distinct xs ↔ x ∈ xs := by
  induction xs with
  | nil => simp [distinct]
  | cons y ys ih => by_cases h : x = y <;> simp [distinct, ih, h]

theorem nodup_distinct {α : Type} [DecidableEq α] (xs : List α) : (distinct xs).Nodup := by
  induction xs with
  | nil => simp [distinct]
  | cons x xs ih =>
    simp only [distinct, List.nodup_cons, List.mem_filter]
    exact ⟨by simp, ih.filter _⟩

/-- The items stand in the order in which they are first met. -/
theorem pairwise_distinct {α : Type} [DecidableEq α] (xs : List α) :
    (distinct xs).Pairwise fun x y => xs.idxOf x < xs.idxOf y := by
  induction xs with
  | nil => exact List.Pairwise.nil
  | cons x xs ih =>
    have hlater : ∀ y ∈ (distinct xs).filter (· ≠ x), (x :: xs).idxOf y = xs.idxOf y + 1 := by
      intro y hy
      have hne : x ≠ y := by
        rintro rfl
        simp at hy
      rw [List.idxOf_cons, beq_false_of_ne hne]
      rfl
    refine List.pairwise_cons.2 ⟨fun y hy => ?_, (ih.filter _).imp_of_mem fun hy hz h => ?_⟩
    · rw [List.idxOf_cons_self, hlater y hy]
      exact Nat.succ_pos _
    · rw [hlater _ hy, hlater _ hz]
      exact Nat.succ_lt_succ h

theorem distinct_of_nodup {α : Type} [DecidableEq α] {xs : List α} (h : xs.Nodup) :
    distinct xs = xs := by
  induction xs with
  | nil => rfl
  | cons x xs ih =>
    obtain ⟨hx, hxs⟩ := List.nodup_cons.1 h
    have hne : ∀ y ∈ xs, decide (y ≠ x) = true := fun y hy =>
      decide_eq_true fun e => hx (e ▸ hy)
    simp only [distinct, ih hxs]
    rw [List.filter_eq_self.2 hne]

theorem distinct_concat {α : Type} [DecidableEq α] (xs : List α) (x : α) :
    distinct (xs ++ [x]) = if x ∈ xs then distinct xs else distinct xs ++ [x] := by
  induction xs with
  | nil => simp [distinct]
  | cons y ys ih =>
    by_cases hx : x ∈ ys
    · simp [distinct, ih, hx]
    · by_cases hy : x = y
      · subst hy
        simp [distinct, ih, hx]
      · simp [distinct, ih, hx, hy]

theorem distinct_append {α : Type} [DecidableEq α] (xs ys : List α) :
    distinct (xs ++ ys) = distinct xs ++ (distinct ys).filter (· ∉ xs) := by
  induction xs with
  | nil => simp [distinct, List.filter_eq_self.2]
  | cons x xs ih => simp [distinct, ih, List.filter_filter]

theorem distinct_again {α : Type} [DecidableEq α] {xs : List α} {x : α} (h : x ∈ xs)
    (ys : List α) : distinct (xs ++ x :: ys) = distinct (xs ++ ys) := by
  have hother : ∀ y ∈ distinct ys, (decide (y ∉ xs) && decide (y ≠ x)) = decide (y ∉ xs) := by
    intro y _
    by_cases hy : y = x
    · simp [hy, h]
    · simp [hy]
  rw [distinct_append, distinct_append, distinct, List.filter_cons_of_neg (by simpa using h),
    List.filter_filter, List.filter_congr hother]

/-! ## Dictionaries in order of insertion

A dictionary is a list of entries with distinct keys. Writing a key that is there keeps its place
and changes its value; a new key goes to the end. -/

/-- Entries in the order in which their keys were first written. -/
abbrev Dictionary (α : Type) := List (String × α)

namespace Dictionary

def get? {α : Type} (entries : Dictionary α) (key : String) : Option α :=
  entries.lookup key

def put {α : Type} : Dictionary α → String → α → Dictionary α
  | [], key, value => [(key, value)]
  | (k, v) :: entries, key, value =>
    if k = key then (k, value) :: entries else (k, v) :: put entries key value

def ofPairs {α : Type} (pairs : List (String × α)) : Dictionary α :=
  pairs.foldl (fun entries (key, value) => put entries key value) []

def keys {α : Type} (entries : Dictionary α) : List String :=
  entries.map Prod.fst

theorem keys_put_of_mem {α : Type} {entries : Dictionary α} {key : String} {value : α}
    (h : key ∈ keys entries) : keys (put entries key value) = keys entries := by
  induction entries with
  | nil => simp [keys] at h
  | cons entry entries ih =>
    obtain ⟨k, v⟩ := entry
    by_cases hk : k = key
    · simp [put, keys, hk]
    · have : key ∈ keys entries := by
        simp only [keys, List.map_cons, List.mem_cons] at h
        exact h.resolve_left fun e => hk e.symm
      simpa [put, keys, hk] using ih this

theorem put_of_not_mem {α : Type} {entries : Dictionary α} {key : String} {value : α}
    (h : key ∉ keys entries) : put entries key value = entries ++ [(key, value)] := by
  induction entries with
  | nil => rfl
  | cons entry entries ih =>
    obtain ⟨k, v⟩ := entry
    simp only [keys, List.map_cons, List.mem_cons, not_or] at h
    simp [put, Ne.symm h.1, ih h.2]

theorem nodup_keys_put {α : Type} {entries : Dictionary α} {key : String} {value : α}
    (h : (keys entries).Nodup) : (keys (put entries key value)).Nodup := by
  by_cases hk : key ∈ keys entries
  · rwa [keys_put_of_mem hk]
  · rw [put_of_not_mem hk]
    simp only [keys, List.map_append, List.map_cons, List.map_nil]
    refine List.nodup_append.2 ⟨h, by simp, fun a ha b hb e => hk ?_⟩
    rw [← List.mem_singleton.1 hb, ← e]
    exact ha

theorem mem_put {α : Type} {entries : Dictionary α} {key : String} {value : α}
    {entry : String × α} (h : entry ∈ put entries key value) :
    entry = (key, value) ∨ entry ∈ entries := by
  induction entries with
  | nil => exact Or.inl (List.mem_singleton.mp h)
  | cons first entries ih =>
    obtain ⟨k, v⟩ := first
    by_cases hk : k = key
    · subst hk
      rw [put, if_pos rfl] at h
      exact (List.mem_cons.mp h).imp_right (List.mem_cons_of_mem _)
    · rw [put, if_neg hk] at h
      rcases List.mem_cons.mp h with rfl | h
      · exact Or.inr List.mem_cons_self
      · exact (ih h).imp_right (List.mem_cons_of_mem _)

theorem mem_foldl_put {α : Type} {pairs : List (String × α)} {entries : Dictionary α}
    {entry : String × α}
    (h : entry ∈ pairs.foldl (fun entries (key, value) => put entries key value) entries) :
    entry ∈ entries ∨ entry ∈ pairs := by
  induction pairs generalizing entries with
  | nil => exact Or.inl h
  | cons pair pairs ih =>
    rcases ih h with hput | hmem
    · rcases mem_put hput with rfl | hold
      · exact Or.inr List.mem_cons_self
      · exact Or.inl hold
    · exact Or.inr (List.mem_cons_of_mem _ hmem)

theorem mem_of_mem_ofPairs {α : Type} {pairs : List (String × α)} {entry : String × α}
    (h : entry ∈ ofPairs pairs) : entry ∈ pairs :=
  (mem_foldl_put h).resolve_left List.not_mem_nil

theorem foldl_put_of_nodup {α : Type} {pairs : List (String × α)} (entries : Dictionary α)
    (h : (keys (entries ++ pairs)).Nodup) :
    pairs.foldl (fun entries (key, value) => put entries key value) entries = entries ++ pairs := by
  induction pairs generalizing entries with
  | nil => rw [List.foldl_nil, List.append_nil]
  | cons pair pairs ih =>
    obtain ⟨key, value⟩ := pair
    have hnew : key ∉ keys entries := by
      intro hmem
      rw [keys, List.map_append, List.map_cons, List.nodup_append] at h
      exact h.2.2 key hmem key List.mem_cons_self rfl
    rw [List.append_cons] at h ⊢
    rw [List.foldl_cons]
    dsimp only
    rw [put_of_not_mem hnew, ih _ h]

theorem ofPairs_of_nodup {α : Type} {pairs : List (String × α)}
    (h : (keys (α := α) pairs).Nodup) : ofPairs pairs = pairs :=
  foldl_put_of_nodup [] h

theorem get?_of_mem {α : Type} {entries : Dictionary α} {key : String} {value : α}
    (h : (keys entries).Nodup) (hmem : (key, value) ∈ entries) :
    get? entries key = some value := by
  induction entries with
  | nil => cases hmem
  | cons entry entries ih =>
    obtain ⟨hnew, hrest⟩ := List.nodup_cons.mp h
    rcases List.mem_cons.mp hmem with rfl | hmem
    · exact List.lookup_cons_self
    · have hne : key ≠ entry.1 := by
        intro he
        exact hnew (he ▸ List.mem_map_of_mem hmem)
      rw [get?, List.lookup_cons, beq_false_of_ne hne]
      exact ih hrest hmem

theorem get?_of_not_mem {α : Type} {entries : Dictionary α} {key : String}
    (h : key ∉ keys entries) : get? entries key = none := by
  rw [get?, List.lookup_eq_none_iff]
  intro entry hentry
  rw [bne_iff_ne]
  rintro rfl
  exact h (List.mem_map_of_mem hentry)

/-- The order of entries with distinct keys does not matter. -/
theorem get?_of_perm {α : Type} {entries others : Dictionary α} (hkeys : (keys entries).Nodup)
    (h : entries.Perm others) (key : String) : get? entries key = get? others key := by
  have hperm : (keys entries).Perm (keys others) := h.map Prod.fst
  by_cases hmem : key ∈ keys entries
  · obtain ⟨⟨_, value⟩, hentry, rfl⟩ := List.mem_map.mp hmem
    rw [get?_of_mem hkeys hentry, get?_of_mem (hperm.nodup_iff.mp hkeys) (h.mem_iff.mp hentry)]
  · rw [get?_of_not_mem hmem, get?_of_not_mem fun hin => hmem (hperm.mem_iff.mpr hin)]

end Dictionary

end LedgerQuery
