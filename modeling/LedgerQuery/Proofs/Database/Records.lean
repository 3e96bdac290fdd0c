import LedgerQuery.Database.Load
import LedgerQuery.Proofs.Json.Stopping
import LedgerQuery.Proofs.Text.Search
import LedgerQuery.Query.Line
import Mathlib.Data.List.Forall2

/-! # Checking and loading records -/

namespace LedgerQuery.Database

/-! ## Parts of a document that are checked together

All parts are read, in their order, if each is, and otherwise all that is wrong with any of them is
found, in the same order. A part that is not read says why. -/

section Checking
variable {α β γ : Type}

namespace Checked
variable {part : Checked α} {other : Checked β} {parts others : List (Checked α)}

theorem ext {first second : Checked α} (hok : ∀ value, first = .ok value ↔ second = .ok value)
    (hfindings : first.findings = second.findings) : first = second := by
  cases first with
  | ok value => exact ((hok value).mp rfl).symm
  | error found =>
    cases second with
    | ok value => exact (hok value).mpr rfl
    | error others => exact congrArg Except.error hfindings

def both (join : α → β → γ) : Checked α → Checked β → Checked γ
  | .ok value, .ok rest => .ok (join value rest)
  | part, rest => .error (part.findings ++ rest.findings)

theorem both_eq_ok_iff {join : α → β → γ} {value : γ} :
    both join part other = .ok value ↔
      ∃ a b, part = .ok a ∧ other = .ok b ∧ value = join a b := by
  cases part <;> cases other <;> simp [both, eq_comm]

theorem findings_both (join : α → β → γ) :
    (both join part other).findings = part.findings ++ other.findings := by
  cases part <;> cases other <;> rfl

theorem all_cons : all (part :: parts) = both List.cons part (all parts) := by
  cases part <;> cases h : all parts <;> simp [all, h, both]

theorem all_append : all (parts ++ others) = both (· ++ ·) (all parts) (all others) := by
  induction parts with
  | nil => cases h : all others <;> simp [all, h, both, findings]
  | cons part parts ih =>
    rw [List.cons_append, all_cons, all_cons, ih]
    cases part <;> cases all parts <;> cases all others <;> simp [both, findings]

theorem all_flatten (lists : List (List (Checked α))) :
    (all (lists.map all)).map List.flatten = all lists.flatten := by
  induction lists with
  | nil => rfl
  | cons parts lists ih =>
    rw [List.flatten_cons, all_append, ← ih, List.map_cons, all_cons]
    cases all parts <;> cases all (lists.map all) <;> rfl

theorem under_eq_ok_iff {step : LocationStep} {value : α} :
    part.under step = .ok value ↔ part = .ok value := by
  cases part <;> simp [under, Except.mapError]

theorem under_all (step : LocationStep) :
    (all parts).under step = all (parts.map (under step)) := by
  induction parts with
  | nil => rfl
  | cons part parts ih =>
    rw [List.map_cons, all_cons, all_cons, ← ih]
    cases part <;> cases all parts <;> simp [both, findings, under, Except.mapError]

theorem exists_all_iff :
    (∃ values, all parts = .ok values) ↔ ∀ part ∈ parts, ∃ value, part = .ok value := by
  induction parts with
  | nil => simp [all]
  | cons part parts ih =>
    simp only [all_cons, both_eq_ok_iff, List.forall_mem_cons, ← ih]
    constructor
    · rintro ⟨values, a, rest, ha, hrest, rfl⟩
      exact ⟨⟨a, ha⟩, rest, hrest⟩
    · rintro ⟨⟨a, ha⟩, rest, hrest⟩
      exact ⟨a :: rest, a, rest, ha, hrest, rfl⟩

theorem all_map_eq_ok_iff {read : β → Checked α} {items : List β} {values : List α} :
    all (items.map read) = .ok values ↔
      List.Forall₂ (fun item value => read item = .ok value) items values := by
  induction items generalizing values with
  | nil => simp [all, eq_comm]
  | cons item items ih =>
    simp only [List.map_cons, all_cons, both_eq_ok_iff, ih, List.forall₂_cons_left_iff]

theorem findings_all (parts : List (Checked α)) :
    (all parts).findings = parts.flatMap findings := by
  induction parts with
  | nil => rfl
  | cons part parts ih => rw [all_cons, findings_both, ih, List.flatMap_cons]

theorem findings_under (step : LocationStep) (part : Checked α) :
    (part.under step).findings = part.findings.map (.under step) := by
  cases part <;> rfl

theorem findings_map (f : α → β) (part : Checked α) :
    findings (part.map f) = part.findings := by
  cases part <;> rfl

/-- A part that is not read says why. -/
def Telling (part : Checked α) : Prop :=
  part.findings = [] → ∃ value, part = .ok value

theorem telling_of_mapError {reading : Reading α} {place : FindingKind → Finding} :
    Telling (reading.mapError fun kind => [place kind]) := by
  intro h
  cases reading with
  | ok value => exact ⟨value, rfl⟩
  | error kind => cases h

theorem Telling.under (step : LocationStep) (h : Telling part) : Telling (part.under step) := by
  intro hnone
  rw [findings_under, List.map_eq_nil_iff] at hnone
  obtain ⟨value, rfl⟩ := h hnone
  exact ⟨value, rfl⟩

theorem Telling.map (f : α → β) (h : Telling part) : Telling (α := β) (part.map f) := by
  intro hnone
  rw [findings_map] at hnone
  obtain ⟨value, rfl⟩ := h hnone
  exact ⟨f value, rfl⟩

theorem telling_all (h : ∀ part ∈ parts, Telling part) : Telling (all parts) := by
  intro hnone
  rw [findings_all, List.flatMap_eq_nil_iff] at hnone
  exact exists_all_iff.mpr fun part hpart => h part hpart (hnone part hpart)

end Checked

section Fields
open Checked
variable {fields : List (String × Json)} {name : String}

theorem telling_required {read : Json → Reading α} : Telling (required fields name read) := by
  unfold required
  split
  · exact fun h => absurd h (List.cons_ne_nil _ _)
  · exact telling_of_mapError

theorem telling_optional {read : Json → Reading α} : Telling (optional fields name read) := by
  unfold optional
  split
  · exact fun _ => ⟨none, rfl⟩
  · exact telling_of_mapError

theorem telling_readTags : Telling (readTags fields) := by
  unfold readTags
  split
  · exact fun _ => ⟨[], rfl⟩
  · exact fun _ => ⟨[], rfl⟩
  · refine (telling_all fun part hpart => ?_).under _
    obtain ⟨⟨item, i⟩, -, rfl⟩ := List.mem_map.mp hpart
    exact telling_of_mapError.under _
  · exact fun h => absurd h (List.cons_ne_nil _ _)

def blankable (fields : List (String × Json)) (name : String) (read : Json → Reading α) :
    Checked (Option α) :=
  (optional fields name fun value => readOptional read (blankToNull value)).map Option.join

def balance (fields : List (String × Json)) : Checked (Option String) :=
  optional fields "running_balance" fun value => readText (balanceText value)

def distinctTags (fields : List (String × Json)) : Checked (List String) :=
  (readTags fields).map distinct

/-- A record is read if and only if each of its fields is. -/
theorem readFields_eq_ok_iff {t : Transaction} :
    readFields fields = .ok t ↔
      required fields "hash" readText = .ok t.hash ∧
      required fields "account" readText = .ok t.account ∧
      required fields "date" readDate = .ok t.date ∧
      required fields "amount" readFloat = .ok t.amount ∧
      required fields "description" readText = .ok t.description ∧
      blankable fields "check_number" readInteger = .ok t.checkNumber ∧
      blankable fields "transaction_type" readText = .ok t.kind ∧
      balance fields = .ok t.runningBalance ∧
      blankable fields "post_date" readDate = .ok t.postDate ∧
      distinctTags fields = .ok t.tags := by
  unfold blankable balance distinctTags
  constructor
  · intro h
    simp only [readFields] at h
    split at h
    · rename_i h₁ h₂ h₃ h₄ h₅ h₆ h₇ h₈ h₉ h₁₀
      obtain rfl := Except.ok.inj h
      rw [h₆, h₇, h₉, h₁₀]
      exact ⟨h₁, h₂, h₃, h₄, h₅, rfl, rfl, h₈, rfl, rfl⟩
    · cases h
  · rintro ⟨h₁, h₂, h₃, h₄, h₅, h₆, h₇, h₈, h₉, h₁₀⟩
    obtain ⟨_, h₆, hcheckNumber⟩ := Query.eq_ok_of_map_eq_ok h₆
    obtain ⟨_, h₇, hkind⟩ := Query.eq_ok_of_map_eq_ok h₇
    obtain ⟨_, h₉, hpostDate⟩ := Query.eq_ok_of_map_eq_ok h₉
    obtain ⟨_, h₁₀, htags⟩ := Query.eq_ok_of_map_eq_ok h₁₀
    simp only [readFields, h₁, h₂, h₃, h₄, h₅, h₆, h₇, h₈, h₉, h₁₀, hcheckNumber, hkind, hpostDate,
      Transaction.withTags, htags]

theorem findings_readFields :
    (readFields fields).findings =
      (required fields "hash" readText).findings ++
      (required fields "account" readText).findings ++
      (required fields "date" readDate).findings ++
      (required fields "amount" readFloat).findings ++
      (required fields "description" readText).findings ++
      (blankable fields "check_number" readInteger).findings ++
      (blankable fields "transaction_type" readText).findings ++
      (balance fields).findings ++ (blankable fields "post_date" readDate).findings ++
      (distinctTags fields).findings := by
  unfold blankable balance distinctTags
  simp only [findings_map, readFields]
  split
  · rename_i h₁ h₂ h₃ h₄ h₅ h₆ h₇ h₈ h₉ h₁₀
    simp only [h₁, h₂, h₃, h₄, h₅, h₆, h₇, h₈, h₉, h₁₀, findings, List.append_nil]
  · rfl

theorem telling_blankable {read : Json → Reading α} : Telling (blankable fields name read) :=
  telling_optional.map Option.join

theorem telling_readFields : Telling (readFields fields) := by
  intro h
  simp only [findings_readFields, List.append_eq_nil_iff, and_assoc] at h
  obtain ⟨h₁, h₂, h₃, h₄, h₅, h₆, h₇, h₈, h₉, h₁₀⟩ := h
  obtain ⟨hash, h₁⟩ := telling_required h₁
  obtain ⟨account, h₂⟩ := telling_required h₂
  obtain ⟨date, h₃⟩ := telling_required h₃
  obtain ⟨amount, h₄⟩ := telling_required h₄
  obtain ⟨description, h₅⟩ := telling_required h₅
  obtain ⟨checkNumber, h₆⟩ := telling_blankable h₆
  obtain ⟨kind, h₇⟩ := telling_blankable h₇
  obtain ⟨runningBalance, h₈⟩ := telling_optional h₈
  obtain ⟨postDate, h₉⟩ := telling_blankable h₉
  rw [distinctTags, findings_map] at h₁₀
  obtain ⟨tags, h₁₀⟩ := telling_readTags h₁₀
  have htags : distinctTags fields = .ok (distinct tags) := by rw [distinctTags, h₁₀]; rfl
  let untagged : Transaction :=
    { hash := hash, account, date, amount, description, checkNumber, kind, runningBalance,
      postDate }
  exact ⟨untagged.withTags tags,
    readFields_eq_ok_iff.mpr ⟨h₁, h₂, h₃, h₄, h₅, h₆, h₇, h₈, h₉, htags⟩⟩

theorem telling_readRecord (record : Json) : Telling (readRecord record) := by
  unfold readRecord
  split
  · exact telling_readFields
  · exact fun h => absurd h (List.cons_ne_nil _ _)

end Fields

end Checking

/-! ## What loading a database comes to

A file that is not there, a text that is no JSON and records that are not valid are refused in
words. A directory in the place of the file, a path through another file, octets that are no text
and a number that is too long are not. -/

open Text

def loadedRecord (accounts : List (List Transaction)) : Log.Record :=
  ⟨.store, .info,
    "Loaded " ++ toString accounts.flatten.length ++ " transactions from " ++
      toString accounts.length ++ " accounts"⟩

/-- What loading the content that was found at a path comes to. -/
inductive Verdict (path : Path) (content : Except FileFault Content) :
    Except Failure (List Transaction × Log.Record) → Prop where
  | loaded {chars : List Char} {document : Json} {accounts : List (List Transaction)}
      (htext : content = .ok (.text chars))
      (hread : Json.read (unifyNewlines chars) = .ok document)
      (hvalid : readAccounts document = .ok accounts) :
      Verdict path content (.ok (accounts.flatten, loadedRecord accounts))
  | missing {place : Path} (hmissing : content = .error ⟨.missing, place⟩) :
      Verdict path content (.error (.refused (.databaseMissing path)))
  | malformed {chars : List Char} {cause : Json.Cause} {place : Json.Place}
      (htext : content = .ok (.text chars))
      (hread : Json.read (unifyNewlines chars) = .error (.malformed cause place)) :
      Verdict path content (.error (.refused (.databaseMalformed path cause place)))
  | invalid {chars : List Char} {document : Json} {findings : List Finding}
      (htext : content = .ok (.text chars))
      (hread : Json.read (unifyNewlines chars) = .ok document)
      (hinvalid : readAccounts document = .error findings) :
      Verdict path content (.error (.refused (.invalidRecords path findings)))
  | blocked {fault : FileFault} (hfault : content = .error fault)
      (hreason : fault.reason ≠ .missing) :
      Verdict path content (.error (.unreadable (.file fault)))
  | undecodable {octets : List UInt8} {fault : Utf8.Fault}
      (hoctets : content = .ok (.undecodable octets fault)) :
      Verdict path content (.error (.unreadable (.undecodable fault)))
  | longNumber {chars : List Char} {digitCount : Nat} (htext : content = .ok (.text chars))
      (hread : Json.read (unifyNewlines chars) = .error (.numberTooLong digitCount))
      (hlong : Decimal.digitLimit < digitCount)
      (hdigits : Json.HoldsDigits (unifyNewlines chars) digitCount) :
      Verdict path content (.error (.numberTooLong digitCount))

theorem verdict_load (path : Path) (content : Except FileFault Content) :
    Verdict path content (load path content) := by
  match content with
  | .error fault =>
    by_cases hreason : fault.reason = .missing
    · obtain ⟨reason, place⟩ := fault
      cases hreason
      exact .missing rfl
    · have hload : load path (.error fault) = .error (.unreadable (.file fault)) := by
        obtain ⟨reason, place⟩ := fault
        cases reason with
        | missing => exact absurd rfl hreason
        | «exists» | notDirectory | isDirectory | denied => rfl
      exact hload ▸ .blocked rfl hreason
  | .ok (.undecodable octets fault) => exact .undecodable rfl
  | .ok (.text chars) =>
    cases hread : Json.read (unifyNewlines chars) with
    | error fault =>
      cases fault with
      | malformed cause place =>
        have hload : load path (.ok (.text chars)) =
            .error (.refused (.databaseMalformed path cause place)) := by
          simp only [load, readDocument, textOf, hread]
          rfl
        exact hload ▸ .malformed rfl hread
      | numberTooLong digitCount =>
        have hload : load path (.ok (.text chars)) = .error (.numberTooLong digitCount) := by
          simp only [load, readDocument, textOf, hread]
          rfl
        obtain ⟨hlong, hdigits⟩ := Json.holdsDigits_of_read hread
        exact hload ▸ .longNumber rfl hread hlong hdigits
    | ok document =>
      cases hvalid : readAccounts document with
      | error findings =>
        have hload : load path (.ok (.text chars)) =
            .error (.refused (.invalidRecords path findings)) := by
          simp only [load, readDocument, textOf, hread, transactionsOf, hvalid, bind, Except.bind]
        exact hload ▸ .invalid rfl hread hvalid
      | ok accounts =>
        have hload : load path (.ok (.text chars)) =
            .ok (accounts.flatten, loadedRecord accounts) := by
          simp only [load, readDocument, textOf, hread, transactionsOf, hvalid, bind, Except.bind]
          rfl
        exact hload ▸ .loaded rfl hread hvalid

/-- A database that is a number and nothing else is not loaded if the number is too long. -/
theorem load_digits (path : Path) {digits : List Char}
    (hdigits : ∀ c ∈ digits, isAsciiDigit c = true) (hzero : digits.head? ≠ some '0')
    (hlong : Decimal.digitLimit < digits.length) :
    load path (.ok (.text digits)) = .error (.numberTooLong digits.length) := by
  have hreturn : '\r' ∉ digits := by
    intro hmem
    exact absurd (hdigits _ hmem) (by decide)
  simp only [load, readDocument, textOf, unifyNewlines_of_not_mem hreturn,
    Json.read_digits hdigits hzero hlong]
  rfl

/-! ## A database is loaded record by record

What a document is read as is what its records are read as one after another, and what is wrong with
it is all that is wrong with each of them, found behind the name of the account and the index of the
record. -/

def Finding.below (location : Location) (finding : Finding) : Finding :=
  { finding with location := location ++ finding.location }

/-- A record of a document: the name of its account, and its index among the records of it. -/
structure Placed where
  account : String
  index : Nat
  record : Json

def documentOf (accounts : List (String × List Json)) : Json :=
  .object (accounts.map fun (name, records) => (name, .array records))

def recordsOf? : Json → Option (List Json)
  | .array records => some records
  | _ => none

def accountsOf? : Json → Option (List (String × List Json))
  | .object fields => fields.mapM fun field => (recordsOf? field.2).map (field.1, ·)
  | _ => none

theorem eq_array_of_recordsOf? {value : Json} {records : List Json}
    (h : recordsOf? value = some records) : value = .array records := by
  unfold recordsOf? at h
  split at h
  · rw [Option.some.inj h]
  · cases h

theorem eq_documentOf_of_accountsOf? {document : Json} {accounts : List (String × List Json)}
    (h : accountsOf? document = some accounts) : document = documentOf accounts := by
  unfold accountsOf? at h
  split at h
  · rename_i fields
    rw [documentOf]
    congr 1
    induction fields generalizing accounts with
    | nil =>
      obtain rfl := Option.some.inj h
      rfl
    | cons field fields ih =>
      simp only [List.mapM_cons, Option.bind_eq_bind, Option.pure_def, Option.bind_eq_some_iff,
        Option.map_eq_some_iff, Option.some.injEq] at h
      obtain ⟨_, ⟨records, hrecords, rfl⟩, rest, hrest, rfl⟩ := h
      rw [List.map_cons, ← ih hrest]
      exact congrArg (fun value => (field.1, value) :: fields) (eq_array_of_recordsOf? hrecords)
  · cases h

def placed (accounts : List (String × List Json)) : List Placed :=
  accounts.flatMap fun (name, records) => records.zipIdx.map fun (record, i) => ⟨name, i, record⟩

namespace Placed

def location (p : Placed) : Location :=
  [.key p.account, .position p.index]

def alone (p : Placed) : Json :=
  documentOf [(p.account, [p.record])]

def findings (p : Placed) : List Finding :=
  (readRecord p.record).findings

def read (p : Placed) : Checked Transaction :=
  ((readRecord p.record).under (.position p.index)).under (.key p.account)

theorem findings_read (p : Placed) : p.read.findings = p.findings.map (.below p.location) := by
  rw [read, Checked.findings_under, Checked.findings_under, List.map_map]
  rfl

theorem read_eq_ok_iff {p : Placed} {t : Transaction} :
    p.read = .ok t ↔ readRecord p.record = .ok t := by
  rw [read, Checked.under_eq_ok_iff, Checked.under_eq_ok_iff]

theorem findings_eq_nil_iff {p : Placed} :
    p.findings = [] ↔ ∃ t, readRecord p.record = .ok t := by
  constructor
  · exact telling_readRecord p.record
  · rintro ⟨t, ht⟩
    rw [findings, ht]
    rfl

end Placed

def findingsOf (accounts : List (String × List Json)) : List Finding :=
  (placed accounts).flatMap fun p => p.findings.map (.below p.location)

/-- A document is read as its records are, one after another. -/
theorem readAccounts_documentOf (accounts : List (String × List Json)) :
    (readAccounts (documentOf accounts)).map List.flatten =
      Checked.all ((placed accounts).map Placed.read) := by
  -- One account by itself; the accounts are then put together by `Checked.all_flatten`.
  have haccount : ∀ account : String × List Json,
      (readAccount (.array account.2)).under (.key account.1) =
        Checked.all ((placed [account]).map Placed.read) := by
    intro account
    rw [readAccount, Checked.under_all, placed, List.flatMap_singleton, List.map_map, List.map_map]
    rfl
  have hparts : (placed accounts).map Placed.read =
      (accounts.map fun account => (placed [account]).map Placed.read).flatten := by
    simp [placed, List.flatMap_def, List.map_flatten, Function.comp_def]
  rw [hparts, ← Checked.all_flatten, List.map_map]
  simp only [readAccounts, documentOf, List.map_map, Function.comp_def, haccount]

def loadDocument (path : Path) (document : Json) :
    Except Failure (List Transaction × Log.Record) :=
  (transactionsOf path document).map fun accounts => (accounts.flatten, loadedRecord accounts)

theorem load_eq (path : Path) (content : Except FileFault Content) :
    load path content = (readDocument path content).bind (loadDocument path) := by
  unfold load
  cases readDocument path content with
  | error failure => rfl
  | ok document =>
    simp only [bind, Except.bind, loadDocument]
    cases transactionsOf path document <;> rfl

section Document
variable {path : Path} {accounts : List (String × List Json)} {p : Placed} {t : Transaction}
  {failure : Failure} {loaded : List Transaction × Log.Record}

theorem loadDocument_fst (path : Path) (accounts : List (String × List Json)) :
    (loadDocument path (documentOf accounts)).map Prod.fst =
      (Checked.all ((placed accounts).map Placed.read)).mapError
        fun findings => .refused (.invalidRecords path findings) := by
  rw [← readAccounts_documentOf, loadDocument, transactionsOf]
  cases readAccounts (documentOf accounts) <;> rfl

theorem loadDocument_ok (h : loadDocument path (documentOf accounts) = .ok loaded) :
    List.Forall₂ (fun p t => readRecord p.record = .ok t) (placed accounts) loaded.1 := by
  have hfst := loadDocument_fst path accounts
  rw [h] at hfst
  cases hall : Checked.all ((placed accounts).map Placed.read) with
  | error found =>
    rw [hall] at hfst
    cases hfst
  | ok transactions =>
    rw [hall] at hfst
    rw [show loaded.1 = transactions from Except.ok.inj hfst]
    exact (Checked.all_map_eq_ok_iff.mp hall).imp fun _ _ => Placed.read_eq_ok_iff.mp

theorem loadDocument_error (h : loadDocument path (documentOf accounts) = .error failure) :
    failure = .refused (.invalidRecords path (findingsOf accounts)) := by
  have hfst := loadDocument_fst path accounts
  have hfound := Checked.findings_all ((placed accounts).map Placed.read)
  simp only [List.flatMap_map, Placed.findings_read] at hfound
  rw [h] at hfst
  cases hall : Checked.all ((placed accounts).map Placed.read) with
  | ok transactions =>
    rw [hall] at hfst
    cases hfst
  | error found =>
    rw [hall] at hfst
    rw [findingsOf, ← hfound, hall]
    exact Except.error.inj hfst

theorem exists_loadDocument_iff :
    (∃ loaded, loadDocument path (documentOf accounts) = .ok loaded) ↔
      ∀ p ∈ placed accounts, p.findings = [] := by
  have hfst := loadDocument_fst path accounts
  have hread : (∃ transactions, Checked.all ((placed accounts).map Placed.read) =
      .ok transactions) ↔ ∀ p ∈ placed accounts, p.findings = [] := by
    simp only [Checked.exists_all_iff, List.forall_mem_map, Placed.read_eq_ok_iff,
      Placed.findings_eq_nil_iff]
  rw [← hread]
  cases hload : loadDocument path (documentOf accounts) <;>
    cases hall : Checked.all ((placed accounts).map Placed.read) <;>
      simp [hload, hall, Except.map, Except.mapError] at hfst ⊢

theorem placed_alone (p : Placed) :
    placed [(p.account, [p.record])] = [⟨p.account, 0, p.record⟩] := rfl

theorem exists_loadDocument_alone_iff :
    (∃ single, loadDocument path p.alone = .ok single) ↔ p.findings = [] := by
  rw [Placed.alone, exists_loadDocument_iff, placed_alone, List.forall_mem_singleton]
  rfl

theorem loadDocument_alone_ok (path : Path) (h : readRecord p.record = .ok t) :
    ∃ log, loadDocument path p.alone = .ok ([t], log) := by
  obtain ⟨⟨transactions, log⟩, hload⟩ : ∃ single, loadDocument path p.alone = .ok single :=
    exists_loadDocument_alone_iff.mpr (Placed.findings_eq_nil_iff.mpr ⟨t, h⟩)
  have hread := loadDocument_ok hload
  rw [placed_alone, List.forall₂_cons_left_iff] at hread
  obtain ⟨t', rest, ht', hrest, rfl⟩ := hread
  obtain rfl := List.forall₂_nil_left_iff.mp hrest
  obtain rfl : t = t' := Except.ok.inj (h.symm.trans ht')
  exact ⟨log, hload⟩

theorem loadDocument_alone_error (h : loadDocument path p.alone = .error failure) :
    failure = .refused (.invalidRecords path
      (p.findings.map (.below [.key p.account, .position 0]))) := by
  have hfound := loadDocument_error h
  rwa [findingsOf, placed_alone, List.flatMap_singleton] at hfound

/-- A database is loaded if and only if each of its records is when it stands alone. Each record
then gives the transaction that it gives alone, in the order of the document. Else what is found is
what is found of each record, behind its account and its index. -/
theorem load_records {content : Except FileFault Content}
    (hread : readDocument path content = .ok (documentOf accounts)) :
    ((∃ loaded, load path content = .ok loaded) ↔
      ∀ p ∈ placed accounts, ∃ single, loadDocument path p.alone = .ok single) ∧
    (∀ loaded, load path content = .ok loaded →
      List.Forall₂ (fun p t => ∃ log, loadDocument path p.alone = .ok ([t], log))
        (placed accounts) loaded.1) ∧
    (∀ failure, load path content = .error failure →
      failure = .refused (.invalidRecords path (findingsOf accounts))) ∧
    (∀ p : Placed, ((∃ single, loadDocument path p.alone = .ok single) ↔ p.findings = []) ∧
      ∀ failure, loadDocument path p.alone = .error failure →
        failure = .refused (.invalidRecords path
          (p.findings.map (.below [.key p.account, .position 0])))) := by
  have hload : load path content = loadDocument path (documentOf accounts) := by
    rw [load_eq, hread]
    rfl
  rw [hload]
  refine ⟨?_, fun loaded h => ?_, fun failure h => loadDocument_error h, fun p => ⟨?_, ?_⟩⟩
  · simp only [exists_loadDocument_iff, exists_loadDocument_alone_iff]
  · exact (loadDocument_ok h).imp fun p t ht => loadDocument_alone_ok path ht
  · exact exists_loadDocument_alone_iff
  · exact fun failure h => loadDocument_alone_error h

/-- An account with a good record in front of one that is none, and one whose only record has tags
and nothing else. -/
theorem load_records_mixed :
    let path := Path.ofString "t.db"
    let content : Except FileFault Content := .ok (.text ("\x7b\"A\": [\x7b\"hash\": \"h\", " ++
      "\"account\": \"A\", \"date\": \"2024-01-05\", \"amount\": 5, " ++
      "\"description\": \"x\"\x7d, null], \"B\": [\x7b\"tags\": [\"a\", 1]\x7d]\x7d").toList)
    let found : List Finding :=
      [⟨[.key "A", .position 1], .recordExpected⟩,
       ⟨[.key "B", .position 0, .key "hash"], .missing⟩,
       ⟨[.key "B", .position 0, .key "account"], .missing⟩,
       ⟨[.key "B", .position 0, .key "date"], .missing⟩,
       ⟨[.key "B", .position 0, .key "amount"], .missing⟩,
       ⟨[.key "B", .position 0, .key "description"], .missing⟩,
       ⟨[.key "B", .position 0, .key "tags", .position 1], .textExpected⟩]
    ∃ accounts, readDocument path content = .ok (documentOf accounts) ∧
      load path content = .error (.refused (.invalidRecords path found)) := by
  intro path content found
  have h : (readDocument path content).map (fun document =>
      (accountsOf? document).map findingsOf) = .ok (some found) := by
    decide +kernel
  cases hread : readDocument path content with
  | error failure =>
    rw [hread] at h
    cases h
  | ok document =>
    rw [hread] at h
    obtain ⟨accounts, haccounts, hfound⟩ := Option.map_eq_some_iff.mp (Except.ok.inj h)
    obtain rfl := eq_documentOf_of_accountsOf? haccounts
    obtain ⟨hall, -, herror, halone⟩ := load_records hread
    refine ⟨accounts, rfl, ?_⟩
    cases hload : load path content with
    | error failure => rw [herror failure hload, hfound]
    | ok loaded =>
      have hnone : findingsOf accounts = [] := by
        refine List.flatMap_eq_nil_iff.mpr fun p hp => ?_
        rw [(halone p).1.mp (hall.mp ⟨loaded, hload⟩ p hp)]
        rfl
      exact absurd (hfound.symm.trans hnone) (List.cons_ne_nil _ _)

end Document

end LedgerQuery.Database
