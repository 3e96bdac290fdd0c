import LedgerQuery.Proofs.Database.Records
import Mathlib.Data.Set.List
import Mathlib.Logic.Relation

/-! One record can be put down in many ways. The order of its keys, keys that are no fields, a null
in place of a field that is left out, a blank text in place of a null, a number in place of the text
of a balance, and a tag that is listed again all leave the same to be read: the same transaction, or
the same findings. So documents that put down the same records are loaded alike. -/

namespace LedgerQuery.Database
open Decimal Text

def requiredNames : List String :=
  ["hash", "account", "date", "amount", "description"]

def blankableNames : List String :=
  ["check_number", "transaction_type", "post_date"]

def optionalNames : List String :=
  blankableNames ++ ["running_balance", "tags"]

/-- The fields of a record, and others that put down the same. -/
inductive SameFields : List (String × Json) → List (String × Json) → Prop where
  | reordered {fields others : List (String × Json)} (hkeys : (Dictionary.keys fields).Nodup)
      (hperm : fields.Perm others) : SameFields fields others
  | extended (before after : List (String × Json)) {name : String} (value : Json)
      (hname : name ∉ requiredNames ++ optionalNames) :
      SameFields (before ++ after) (before ++ (name, value) :: after)
  -- Were the name there again, what stands behind it would come to light.
  | omitted (before after : List (String × Json)) {name : String} (hname : name ∈ optionalNames)
      (honce : name ∉ Dictionary.keys (before ++ after)) :
      SameFields (before ++ (name, .null) :: after) (before ++ after)
  | blanked (before after : List (String × Json)) {name text : String}
      (hname : name ∈ blankableNames) (hblank : isAllBlank text.toList = true) :
      SameFields (before ++ (name, .null) :: after) (before ++ (name, .string text) :: after)
  | whole (before after : List (String × Json)) (n : Int) {text : String}
      (htext : text.toList = ofInt n) :
      SameFields (before ++ ("running_balance", .string text) :: after)
        (before ++ ("running_balance", .int n) :: after)
  | fractional (before after : List (String × Json)) (x : Float) {text : String}
      (htext : text.toList = shortestText (.ofFloat x)) :
      SameFields (before ++ ("running_balance", .string text) :: after)
        (before ++ ("running_balance", .float x) :: after)
  -- In a list with an item that is no text, the items behind would be found in other places.
  | repeated (before after : List (String × Json)) (earlier later : List Json) {tag : String}
      (hloads : ∃ t, readFields (before ++ ("tags", .array (earlier ++ later)) :: after) = .ok t)
      (htag : .string tag ∈ earlier) :
      SameFields (before ++ ("tags", .array (earlier ++ later)) :: after)
        (before ++ ("tags", .array (earlier ++ .string tag :: later)) :: after)

/-- A document, and the same document with one record put down in another way. -/
inductive Restated : Json → Json → Prop where
  | record (accounts : List (String × Json)) (account : String) (more : List (String × Json))
      (earlier later : List Json) {fields others : List (String × Json)}
      (h : SameFields fields others) :
      Restated
        (.object (accounts ++ (account, .array (earlier ++ .object fields :: later)) :: more))
        (.object (accounts ++ (account, .array (earlier ++ .object others :: later)) :: more))

variable {α : Type} {fields others before after : List (String × Json)} {name : String}

section Fields

theorem required_congr {read : Json → Reading α} (h : fields.lookup name = others.lookup name) :
    required fields name read = required others name read := by
  rw [required, required, h]

theorem blankable_congr {read : Json → Reading α} (h : fields.lookup name = others.lookup name) :
    blankable fields name read = blankable others name read := by
  rw [blankable, blankable, optional, optional, h]

theorem balance_congr
    (h : fields.lookup "running_balance" = others.lookup "running_balance") :
    balance fields = balance others := by
  rw [balance, balance, optional, optional, h]

theorem distinctTags_congr (h : fields.lookup "tags" = others.lookup "tags") :
    distinctTags fields = distinctTags others := by
  rw [distinctTags, distinctTags, readTags, readTags, h]

def Lacks (fields : List (String × Json)) (name : String) : Prop :=
  fields.lookup name = none ∨ fields.lookup name = some .null

theorem blankable_of_lacks {read : Json → Reading α} (h : Lacks fields name) :
    blankable fields name read = .ok none := by
  rcases h with h | h
  · rw [blankable, optional, h]
    rfl
  · rw [blankable, optional, h]
    rfl

theorem blankable_of_blank {read : Json → Reading α} {text : String}
    (hblank : isAllBlank text.toList = true) (h : fields.lookup name = some (.string text)) :
    blankable fields name read = .ok none := by
  have hnull : blankToNull (.string text) = .null := by rw [blankToNull, if_pos hblank]
  rw [blankable, optional, h]
  simp only [readOptional, hnull]
  rfl

theorem balance_of_lacks (h : Lacks fields "running_balance") : balance fields = .ok none := by
  rcases h with h | h
  · rw [balance, optional, h]
  · rw [balance, optional, h]
    rfl

theorem balance_of_text {value : Json} {text : String}
    (hvalue : balanceText value = .string text)
    (h : fields.lookup "running_balance" = some value) : balance fields = .ok (some text) := by
  rw [balance, optional, h]
  cases value with
  | null => cases hvalue
  | bool | array | object => cases hvalue
  | int | float | string =>
    simp only [readOptional, hvalue]
    rfl

end Fields

section Tags

inductive Lists (fields : List (String × Json)) : List String → Prop where
  | nothing (h : Lacks fields "tags") : Lists fields []
  | texts {tags : List String} (h : fields.lookup "tags" = some (.array (tags.map .string))) :
      Lists fields tags

theorem readText_eq_ok_iff {value : Json} {text : String} :
    readText value = .ok text ↔ value = .string text := by
  cases value <;> simp [readText]

theorem readItems_eq_ok_iff {items : List Json} {tags : List String} :
    Checked.all (items.zipIdx.map fun (item, i) =>
      Checked.under (.position i) ((readText item).mapError fun kind => [⟨[], kind⟩])) = .ok tags ↔
      items = tags.map .string := by
  have hitem : ∀ (item : Json) (i : Nat) (tag : String),
      Checked.under (.position i) ((readText item).mapError fun kind => [⟨[], kind⟩]) = .ok tag ↔
        item = .string tag := by
    intro item i tag
    rw [Checked.under_eq_ok_iff, ← readText_eq_ok_iff]
    cases readText item <;> simp [Except.mapError]
  have hfirst := List.forall₂_map_left_iff (R := fun item tag => item = Json.string tag)
    (f := Prod.fst) (l := items.zipIdx) (u := tags)
  rw [List.zipIdx_map_fst] at hfirst
  rw [Checked.all_map_eq_ok_iff]
  simp only [hitem]
  rw [← hfirst, ← List.forall₂_map_right_iff (R := Eq) (f := Json.string), List.forall₂_eq_eq_eq]

theorem readTags_eq_ok_iff {tags : List String} :
    readTags fields = .ok tags ↔ Lists fields tags := by
  constructor
  · intro h
    unfold readTags at h
    split at h
    · rename_i hnone
      obtain rfl := Except.ok.inj h
      exact .nothing (.inl hnone)
    · rename_i hnull
      obtain rfl := Except.ok.inj h
      exact .nothing (.inr hnull)
    · rename_i items hlist
      rw [Checked.under_eq_ok_iff, readItems_eq_ok_iff] at h
      exact .texts (h ▸ hlist)
    · cases h
  · rintro (h | h)
    · rcases h with h | h
      · rw [readTags, h]
      · rw [readTags, h]
    · rw [readTags, h]
      simp only [readItems_eq_ok_iff.mpr rfl]
      rfl

theorem Lists.distinctTags {tags : List String} (h : Lists fields tags) :
    distinctTags fields = .ok (distinct tags) := by
  rw [Database.distinctTags, readTags_eq_ok_iff.mpr h]
  rfl

end Tags

section Alike

structure ReadAlike (fields others : List (String × Json)) : Prop where
  required : ∀ {α : Type} (read : Json → Reading α), ∀ name ∈ requiredNames,
    required fields name read = required others name read
  blankable : ∀ {α : Type} (read : Json → Reading α), ∀ name ∈ blankableNames,
    blankable fields name read = blankable others name read
  balance : balance fields = balance others
  tags : distinctTags fields = distinctTags others

theorem ReadAlike.readFields (h : ReadAlike fields others) :
    readFields fields = readFields others := by
  have hhash := h.required readText "hash" (by decide)
  have haccount := h.required readText "account" (by decide)
  have hdate := h.required readDate "date" (by decide)
  have hamount := h.required readFloat "amount" (by decide)
  have hdescription := h.required readText "description" (by decide)
  have hcheckNumber := h.blankable readInteger "check_number" (by decide)
  have hkind := h.blankable readText "transaction_type" (by decide)
  have hpostDate := h.blankable readDate "post_date" (by decide)
  apply Checked.ext
  · intro t
    rw [readFields_eq_ok_iff, readFields_eq_ok_iff, hhash, haccount, hdate, hamount, hdescription,
      hcheckNumber, hkind, h.balance, hpostDate, h.tags]
  · rw [findings_readFields, findings_readFields, hhash, haccount, hdate, hamount, hdescription,
      hcheckNumber, hkind, h.balance, hpostDate, h.tags]

/-- Records that differ in one field only are read alike if that field is. -/
theorem ReadAlike.of_field (name : String) (hrequired : name ∉ requiredNames)
    (hother : ∀ other, other ≠ name → fields.lookup other = others.lookup other)
    (hblankable : name ∈ blankableNames → ∀ {α : Type} (read : Json → Reading α),
      Database.blankable fields name read = Database.blankable others name read)
    (hbalance : name = "running_balance" → Database.balance fields = Database.balance others)
    (htags : name = "tags" → distinctTags fields = distinctTags others) :
    ReadAlike fields others where
  required read other hin :=
    required_congr (hother other fun e => hrequired (e ▸ hin))
  blankable read other hin := by
    by_cases h : other = name
    · subst h
      exact hblankable hin read
    · exact blankable_congr (hother other h)
  balance := by
    by_cases h : "running_balance" = name
    · exact hbalance h.symm
    · exact balance_congr (hother _ h)
  tags := by
    by_cases h : "tags" = name
    · exact htags h.symm
    · exact distinctTags_congr (hother _ h)

theorem ReadAlike.of_lookup
    (h : ∀ name ∈ requiredNames ++ optionalNames, fields.lookup name = others.lookup name) :
    ReadAlike fields others where
  required _ name hin := required_congr (h name (List.mem_append_left _ hin))
  blankable _ name hin :=
    blankable_congr (h name (List.mem_append_right _ (List.mem_append_left _ hin)))
  balance := balance_congr (h _ (by decide))
  tags := distinctTags_congr (h _ (by decide))

theorem lookup_of_ne {value : Json} {other : String} (h : other ≠ name) :
    (before ++ (name, value) :: after).lookup other = (before ++ after).lookup other := by
  rw [List.lookup_append, List.lookup_append, List.lookup_cons, beq_false_of_ne h]

/-- Putting another value in the place of one changes what is found, unless an earlier one hides
both. -/
theorem lookup_replaced (before after : List (String × Json)) (name : String)
    (value other : Json) :
    (before ++ (name, value) :: after).lookup name =
        (before ++ (name, other) :: after).lookup name ∨
      (before ++ (name, value) :: after).lookup name = some value ∧
        (before ++ (name, other) :: after).lookup name = some other := by
  simp only [List.lookup_append, List.lookup_cons_self]
  cases before.lookup name with
  | none => exact Or.inr ⟨rfl, rfl⟩
  | some first => exact Or.inl rfl

theorem lacks_of_not_mem (h : name ∉ Dictionary.keys fields) : Lacks fields name :=
  Or.inl (Dictionary.get?_of_not_mem h)

theorem lacks_null (h : name ∉ Dictionary.keys (before ++ after)) :
    Lacks (before ++ (name, .null) :: after) name := by
  have hbefore : name ∉ Dictionary.keys before := fun hmem =>
    h (by rw [Dictionary.keys, List.map_append]; exact List.mem_append_left _ hmem)
  right
  rw [List.lookup_append, show before.lookup name = none from Dictionary.get?_of_not_mem hbefore,
    List.lookup_cons_self]
  rfl

theorem distinctTags_repeated {earlier later : List Json} {tag : String}
    (hloads : ∃ t, readFields (before ++ ("tags", .array (earlier ++ later)) :: after) = .ok t)
    (htag : .string tag ∈ earlier) :
    distinctTags (before ++ ("tags", .array (earlier ++ later)) :: after) =
      distinctTags (before ++ ("tags", .array (earlier ++ .string tag :: later)) :: after) := by
  rcases lookup_replaced before after "tags" (.array (earlier ++ later))
    (.array (earlier ++ .string tag :: later)) with hsame | ⟨hlist, hagain⟩
  · exact distinctTags_congr hsame
  · obtain ⟨t, hloads⟩ := hloads
    obtain ⟨-, -, -, -, -, -, -, -, -, htags⟩ := readFields_eq_ok_iff.mp hloads
    obtain ⟨tags, hread, -⟩ := Query.eq_ok_of_map_eq_ok htags
    have hlists := readTags_eq_ok_iff.mp hread
    cases hlists with
    | nothing hlacks => rcases hlacks with h | h <;> cases hlist.symm.trans h
    | texts htexts =>
      obtain htexts := Json.array.inj (Option.some.inj (hlist.symm.trans htexts))
      obtain ⟨first, rest, rfl, rfl, rfl⟩ := List.map_eq_append_iff.mp htexts.symm
      have hmem : tag ∈ first := by
        obtain ⟨text, hin, htext⟩ := List.mem_map.mp htag
        exact Json.string.inj htext ▸ hin
      have honce : Lists _ (first ++ rest) := .texts (by rw [hlist, List.map_append])
      have htwice : Lists _ (first ++ tag :: rest) :=
        .texts (by rw [hagain, List.map_append, List.map_cons])
      rw [honce.distinctTags, htwice.distinctTags, distinct_again hmem]

theorem ReadAlike.of_balance (before after : List (String × Json)) {value other : Json}
    {text : String} (hvalue : balanceText value = .string text)
    (hother : balanceText other = .string text) :
    ReadAlike (before ++ ("running_balance", value) :: after)
      (before ++ ("running_balance", other) :: after) := by
  refine .of_field "running_balance" (by decide) (fun _ hne => ?_)
    (fun h => absurd h (by decide)) (fun _ => ?_) (fun h => absurd h (by decide))
  · rw [lookup_of_ne hne, lookup_of_ne hne]
  · rcases lookup_replaced before after "running_balance" value other with
      hsame | ⟨hfirst, hsecond⟩
    · exact balance_congr hsame
    · rw [balance_of_text hvalue hfirst, balance_of_text hother hsecond]

theorem SameFields.readAlike (h : SameFields fields others) : ReadAlike fields others := by
  cases h with
  | reordered hkeys hperm =>
    exact .of_lookup fun name _ => Dictionary.get?_of_perm hkeys hperm name
  | extended before after value hname =>
    refine .of_lookup fun other hother => (lookup_of_ne ?_).symm
    rintro rfl
    exact hname hother
  | omitted before after hname honce =>
    have hrequired : ∀ name ∈ optionalNames, name ∉ requiredNames := by decide
    refine .of_field _ (hrequired _ hname) (fun other hne => lookup_of_ne hne) ?_ ?_ ?_
    · intro _ α read
      rw [blankable_of_lacks (lacks_null honce), blankable_of_lacks (lacks_of_not_mem honce)]
    · rintro rfl
      rw [balance_of_lacks (lacks_null honce), balance_of_lacks (lacks_of_not_mem honce)]
    · rintro rfl
      rw [(Lists.nothing (lacks_null honce)).distinctTags,
        (Lists.nothing (lacks_of_not_mem honce)).distinctTags]
  | blanked before after hname hblank =>
    have hrequired : ∀ name ∈ blankableNames, name ∉ requiredNames := by decide
    refine .of_field _ (hrequired _ hname) (fun other hne => ?_) ?_ ?_ ?_
    · rw [lookup_of_ne hne, lookup_of_ne hne]
    · intro _ α read
      rcases lookup_replaced before after _ .null (.string _) with hsame | ⟨hnull, htext⟩
      · exact blankable_congr hsame
      · rw [blankable_of_lacks (.inr hnull), blankable_of_blank hblank htext]
    · rintro rfl
      exact absurd hname (by decide)
    · rintro rfl
      exact absurd hname (by decide)
  | whole before after n htext =>
    exact .of_balance before after rfl (by rw [balanceText, ← htext, String.ofList_toList])
  | fractional before after x htext =>
    exact .of_balance before after rfl (by rw [balanceText, ← htext, String.ofList_toList])
  | repeated before after earlier later hloads htag =>
    refine .of_field "tags" (by decide) (fun _ hne => ?_)
      (fun h => absurd h (by decide)) (fun h => absurd h (by decide))
      fun _ => distinctTags_repeated hloads htag
    rw [lookup_of_ne hne, lookup_of_ne hne]

end Alike

section Documents
variable {record other document document' : Json} {t : Transaction}

theorem readAccount_congr (earlier later : List Json) (h : readRecord record = readRecord other) :
    readAccount (.array (earlier ++ record :: later)) =
      readAccount (.array (earlier ++ other :: later)) := by
  simp only [readAccount, List.zipIdx_append, List.zipIdx_cons, List.map_append, List.map_cons, h]

/-- One record put down in another way leaves what a document is read as. -/
theorem Restated.readAccounts (h : Restated document document') :
    readAccounts document = readAccounts document' := by
  cases h with
  | record accounts account more earlier later h =>
    have hrecord := readAccount_congr earlier later (show readRecord (.object _) =
      readRecord (.object _) from h.readAlike.readFields)
    simp only [Database.readAccounts, List.map_append, List.map_cons, hrecord]

/-- So do any records, each put down in another way any number of times. -/
theorem readAccounts_of_restated (h : Relation.EqvGen Restated document document') :
    readAccounts document = readAccounts document' := by
  induction h with
  | rel _ _ hstep => exact hstep.readAccounts
  | refl => rfl
  | symm _ _ _ ih => exact ih.symm
  | trans _ _ _ _ _ ih ih' => exact ih.trans ih'

theorem exists_documentOf {transactions : List (List Transaction)}
    (h : readAccounts document = .ok transactions) :
    ∃ accounts, document = documentOf accounts := by
  cases document with
  | object fields =>
    have hlists : fields ∈ Set.range (List.map fun account : String × List Json =>
        (account.1, Json.array account.2)) := by
      rw [Set.range_list_map]
      intro field hfield
      obtain ⟨values, hread⟩ := Checked.exists_all_iff.mp ⟨_, h⟩ _ (List.mem_map_of_mem hfield)
      rw [Checked.under_eq_ok_iff] at hread
      obtain ⟨name, value⟩ := field
      cases value with
      | array records => exact ⟨(name, records), rfl⟩
      | null | bool | int | float | string | object => cases hread
    obtain ⟨accounts, rfl⟩ := hlists
    exact ⟨accounts, rfl⟩
  | null | bool | int | float | string | array => cases h

/-- The tags that are kept of those that are given: each of them once, in the order in which they
are first met. -/
structure FirstSeen (given kept : List String) : Prop where
  mem_iff : ∀ tag, tag ∈ kept ↔ tag ∈ given
  ascending : kept.Pairwise fun x y => given.idxOf x < given.idxOf y

theorem firstSeen_of_readRecord (h : readRecord record = .ok t) :
    ∃ fields tags, record = .object fields ∧ Lists fields tags ∧ FirstSeen tags t.tags := by
  cases record with
  | object fields =>
    obtain ⟨-, -, -, -, -, -, -, -, -, htags⟩ := readFields_eq_ok_iff.mp h
    obtain ⟨tags, hread, hkept⟩ := Query.eq_ok_of_map_eq_ok htags
    refine ⟨fields, tags, rfl, readTags_eq_ok_iff.mp hread, ?_⟩
    rw [← hkept]
    exact ⟨fun _ => mem_distinct, pairwise_distinct tags⟩
  | null | bool | int | float | string | array => cases h

/-- Documents that put down the same records are loaded alike: as the same transactions, or with the
same findings. And of the tags that a record lists, its transaction has each once, in the order in
which they are first met. -/
theorem load_restated {path : Path} {content content' : Except FileFault Content}
    (hread : readDocument path content = .ok document)
    (hread' : readDocument path content' = .ok document')
    (h : Relation.EqvGen Restated document document') :
    load path content' = load path content ∧
    ∀ loaded, load path content = .ok loaded → ∃ accounts, document = documentOf accounts ∧
      List.Forall₂ (fun p t => ∃ fields tags, p.record = .object fields ∧ Lists fields tags ∧
        FirstSeen tags t.tags) (placed accounts) loaded.1 := by
  have hload : ∀ {found : Except FileFault Content} {d : Json}, readDocument path found = .ok d →
      load path found = loadDocument path d := by
    intro found d hfound
    rw [load_eq, hfound]
    rfl
  rw [hload hread, hload hread']
  constructor
  · rw [loadDocument, loadDocument, transactionsOf, transactionsOf, readAccounts_of_restated h]
  · intro loaded hloaded
    cases haccounts : readAccounts document with
    | error found =>
      rw [loadDocument, transactionsOf, haccounts] at hloaded
      cases hloaded
    | ok transactions =>
      obtain ⟨accounts, rfl⟩ := exists_documentOf haccounts
      exact ⟨accounts, rfl, (loadDocument_ok hloaded).imp fun _ _ => firstSeen_of_readRecord⟩

/-- A note, and the tags moved to the front and one of them listed again. -/
theorem load_restated_noted :
    let path := Path.ofString "t.db"
    let content : Except FileFault Content := .ok (.text ("\x7b\"A\": [\x7b\"hash\": \"h\", " ++
      "\"account\": \"A\", \"date\": \"2024-01-05\", \"amount\": 5, \"description\": \"x\", " ++
      "\"tags\": [\"a\", \"b\"]\x7d]\x7d").toList)
    let content' : Except FileFault Content := .ok (.text ("\x7b\"A\": [\x7b\"tags\": [\"a\", " ++
      "\"b\", \"a\"], \"hash\": \"h\", \"account\": \"A\", \"date\": \"2024-01-05\", " ++
      "\"amount\": 5, \"description\": \"x\", \"note\": 1\x7d]\x7d").toList)
    (∃ document document', readDocument path content = .ok document ∧
      readDocument path content' = .ok document' ∧ Relation.EqvGen Restated document document') ∧
    load path content' = load path content ∧
    (load path content').map (fun loaded => loaded.1.map (·.tags)) = .ok [["a", "b"]] := by
  intro path content content'
  let front : List (String × Json) := [("hash", .string "h"), ("account", .string "A"),
    ("date", .string "2024-01-05"), ("amount", .int 5), ("description", .string "x")]
  let note : String × Json := ("note", .int 1)
  let once : Json := .array [.string "a", .string "b"]
  let again : Json := .array [.string "a", .string "b", .string "a"]
  have hread : readDocument path content =
      .ok (.object [("A", .array [.object (front ++ [("tags", once)])])]) := by
    decide +kernel
  have hread' : readDocument path content' =
      .ok (.object [("A", .array [.object (("tags", again) :: (front ++ [note]))])]) := by
    decide +kernel
  have hrepeated : SameFields (front ++ [("tags", once)]) (front ++ [("tags", again)]) :=
    .repeated front [] [_, _] [] (telling_readFields (by decide +kernel)) List.mem_cons_self
  have hextended : SameFields (front ++ [("tags", again)]) (front ++ [note, ("tags", again)]) :=
    .extended front [_] _ (by decide)
  have hreordered : SameFields (front ++ [note, ("tags", again)])
      (("tags", again) :: (front ++ [note])) :=
    .reordered (by decide) (@List.perm_middle _ _ (front ++ [note]) [])
  have hrecord : ∀ {fields others : List (String × Json)}, SameFields fields others →
      Relation.EqvGen Restated (.object [("A", .array [.object fields])])
        (.object [("A", .array [.object others])]) :=
    fun h => .rel _ _ (.record [] "A" [] [] [] h)
  have hrestated := (hrecord hrepeated).trans _ _ _
    ((hrecord hextended).trans _ _ _ (hrecord hreordered))
  have hload := (load_restated hread hread' hrestated).1
  refine ⟨⟨_, _, hread, hread', hrestated⟩, hload, ?_⟩
  rw [hload]
  decide +kernel

end Documents

end LedgerQuery.Database
