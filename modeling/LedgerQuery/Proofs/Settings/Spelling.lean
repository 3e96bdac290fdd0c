import LedgerQuery.Proofs.Decimal.Digits
import LedgerQuery.Proofs.Files.FileSystem
import LedgerQuery.Proofs.Settings.Loading
import Mathlib.Logic.Relation

/-! # Spellings of settings -/

namespace LedgerQuery.Settings

/-! ## Lists in variables

Tags and account aliases are written as entries with marks between them, and read from them again.
What is read stays the same when blanks are put around an entry or around the parts of an equation,
when a blank entry is put in, and when a tag is listed once more. -/

open Text

def joined (mark : Char) (entries : List (List Char)) : String :=
  String.ofList (joinWith [mark] entries)

def equation (entry : String × String) : List Char :=
  entry.1.toList ++ '=' :: entry.2.toList

inductive LooserTags : List (List Char) → List (List Char) → Prop where
  | pad {before after : List Char} (hb : IsGap before) (ha : IsGap after)
      (front : List (List Char)) (entry : List Char) (back : List (List Char)) :
      LooserTags (front ++ entry :: back) (front ++ (before ++ entry ++ after) :: back)
  | blank {gap : List Char} (h : IsGap gap) (front back : List (List Char)) :
      LooserTags (front ++ back) (front ++ gap :: back)
  | again {front : List (List Char)} {entry : List Char} (h : entry ∈ front)
      (back : List (List Char)) : LooserTags (front ++ back) (front ++ entry :: back)

inductive LooserAliases : List (List Char) → List (List Char) → Prop where
  | pad {beforeAccount afterAccount beforeName afterName account : List Char}
      (hba : IsGap beforeAccount) (haa : IsGap afterAccount) (hbn : IsGap beforeName)
      (han : IsGap afterName) (free : '=' ∉ account)
      (front : List (List Char)) (name : List Char) (back : List (List Char)) :
      LooserAliases (front ++ (account ++ '=' :: name) :: back)
        (front ++ (beforeAccount ++ account ++ afterAccount ++
          '=' :: (beforeName ++ name ++ afterName)) :: back)
  | blank {gap : List Char} (h : IsGap gap) (front back : List (List Char)) :
      LooserAliases (front ++ back) (front ++ gap :: back)

def tidied (entries : List (List Char)) : List String :=
  ((entries.map trim).filter (· ≠ [])).map String.ofList

def listedTags (entries : List (List Char)) : List String :=
  distinct (tidied entries)

def listedAliases (entries : List (List Char)) : Except SettingsFault (List (String × String)) :=
  (entries.filter (!isAllBlank ·)).mapM readAccountAlias

/-- No entry holds the mark that would end it. -/
def FreeOf (mark : Char) (entries : List (List Char)) : Prop :=
  ∀ entry ∈ entries, mark ∉ entry

section Lists
variable {mark : Char} {entries looser : List (List Char)}

theorem freeOf_append {front back : List (List Char)} :
    FreeOf mark (front ++ back) ↔ FreeOf mark front ∧ FreeOf mark back :=
  List.forall_mem_append

theorem freeOf_cons {entry : List Char} {back : List (List Char)} :
    FreeOf mark (entry :: back) ↔ mark ∉ entry ∧ FreeOf mark back :=
  List.forall_mem_cons

theorem not_mem_of_isGap {gap : List Char} (h : IsGap gap) (hmark : isBlank mark = false) :
    mark ∉ gap := by
  intro hmem
  rw [h mark hmem] at hmark
  cases hmark

theorem trim_pad {before after : List Char} (hb : IsGap before) (ha : IsGap after)
    (text : List Char) : trim (before ++ text ++ after) = trim text := by
  rw [trim_append_gap _ ha, trim, trimStart_gap_append hb]
  rfl

/-- The pieces between the marks of joined entries are the entries; no entries are joined to one
blank piece. -/
theorem splitAt_joined (free : FreeOf mark entries) :
    splitAt (· = mark) (joined mark entries).toList = if entries = [] then [[]] else entries := by
  rw [joined, String.toList_ofList]
  split
  · rename_i hnil
    rw [hnil]
    rfl
  · rename_i hsome
    refine splitAt_joinWith (by simp) hsome fun entry hentry c hc => ?_
    rw [decide_eq_false_iff_not]
    rintro rfl
    exact free entry hentry hc

theorem splitList_joined (free : FreeOf ',' entries) :
    splitList (joined ',' entries) = listedTags entries := by
  simp only [splitList, splitAt_joined free]
  split
  · rename_i hnil
    rw [hnil]
    rfl
  · rfl

theorem readAccountAliases_joined (free : FreeOf ';' entries) :
    readAccountAliases (joined ';' entries) = (listedAliases entries).map .ofPairs := by
  simp only [readAccountAliases, splitAt_joined free]
  split
  · rename_i hnil
    rw [hnil]
    rfl
  · rfl

theorem LooserTags.free (h : LooserTags entries looser) (free : FreeOf ',' entries) :
    FreeOf ',' looser := by
  have hcomma : isBlank ',' = false := by decide
  cases h with
  | pad hb ha front entry back =>
    rw [freeOf_append, freeOf_cons] at free ⊢
    have hentry := free.2.1
    refine ⟨free.1, ?_, free.2.2⟩
    simp [not_mem_of_isGap hb hcomma, not_mem_of_isGap ha hcomma, hentry]
  | blank hgap front back =>
    rw [freeOf_append] at free
    exact freeOf_append.mpr ⟨free.1, freeOf_cons.mpr ⟨not_mem_of_isGap hgap hcomma, free.2⟩⟩
  | again hmem back =>
    rw [freeOf_append] at free
    exact freeOf_append.mpr ⟨free.1, freeOf_cons.mpr ⟨free.1 _ hmem, free.2⟩⟩

theorem tidied_append (front back : List (List Char)) :
    tidied (front ++ back) = tidied front ++ tidied back := by
  simp [tidied]

theorem tidied_cons (entry : List Char) (back : List (List Char)) :
    tidied (entry :: back) =
      if trim entry = [] then tidied back else String.ofList (trim entry) :: tidied back := by
  unfold tidied
  by_cases h : trim entry = [] <;> simp [h]

theorem LooserTags.listedTags_eq (h : LooserTags entries looser) :
    listedTags looser = listedTags entries := by
  unfold listedTags
  cases h with
  | pad hb ha front entry back =>
    rw [tidied_append, tidied_append, tidied_cons, tidied_cons, trim_pad hb ha]
  | blank hgap front back =>
    rw [tidied_append, tidied_append, tidied_cons, if_pos (trim_gap hgap)]
  | @again front entry hmem back =>
    rw [tidied_append, tidied_append, tidied_cons]
    split
    · rfl
    · rename_i hsolid
      refine distinct_again (List.mem_map_of_mem (List.mem_filter.mpr ⟨?_, ?_⟩)) (tidied back)
      · exact List.mem_map_of_mem hmem
      · exact decide_eq_true hsolid

theorem LooserAliases.free (h : LooserAliases entries looser) (free : FreeOf ';' entries) :
    FreeOf ';' looser := by
  have hsemicolon : isBlank ';' = false := by decide
  cases h with
  | pad hba haa hbn han hout front name back =>
    rw [freeOf_append, freeOf_cons] at free ⊢
    have hentry := free.2.1
    refine ⟨free.1, ?_, free.2.2⟩
    simp only [List.mem_append, List.mem_cons, not_or] at hentry ⊢
    exact ⟨⟨⟨not_mem_of_isGap hba hsemicolon, hentry.1⟩, not_mem_of_isGap haa hsemicolon⟩,
      hentry.2.1, ⟨not_mem_of_isGap hbn hsemicolon, hentry.2.2⟩, not_mem_of_isGap han hsemicolon⟩
  | blank hgap front back =>
    rw [freeOf_append] at free
    exact freeOf_append.mpr ⟨free.1, freeOf_cons.mpr ⟨not_mem_of_isGap hgap hsemicolon, free.2⟩⟩

theorem isAllBlank_equation (account name : List Char) :
    isAllBlank (account ++ '=' :: name) = false := by
  rw [Bool.eq_false_iff, ne_eq, isAllBlank_iff]
  intro hgap
  exact not_mem_of_isGap hgap (by decide) (List.mem_append_right account List.mem_cons_self)

/-- An equation with blanks around its account and its name is read like the one without. -/
theorem readAccountAlias_pad {beforeAccount afterAccount beforeName afterName account : List Char}
    (hba : IsGap beforeAccount) (haa : IsGap afterAccount) (hbn : IsGap beforeName)
    (han : IsGap afterName) (free : '=' ∉ account) {name : List Char} {pair : String × String}
    (h : readAccountAlias (account ++ '=' :: name) = .ok pair) :
    readAccountAlias (beforeAccount ++ account ++ afterAccount ++
      '=' :: (beforeName ++ name ++ afterName)) = .ok pair := by
  have hequal : isBlank '=' = false := by decide
  have hfree : '=' ∉ beforeAccount ++ account ++ afterAccount := by
    simp [not_mem_of_isGap hba hequal, not_mem_of_isGap haa hequal, free]
  rw [readAccountAlias_equation free] at h
  rw [readAccountAlias_equation hfree, trim_pad hba haa, trim_pad hbn han]
  split at h
  · cases h
  · rename_i hsome
    rw [if_neg hsome]
    exact h

theorem LooserAliases.listedAliases_eq (h : LooserAliases entries looser)
    {aliases : List (String × String)} (hlisted : listedAliases entries = .ok aliases) :
    listedAliases looser = .ok aliases := by
  unfold listedAliases at *
  cases h with
  | @pad _ _ _ _ account hba haa hbn han hout front name back =>
    rw [List.filter_append, List.filter_cons_of_pos (by rw [isAllBlank_equation]; rfl),
      List.mapM_append, List.mapM_cons] at hlisted ⊢
    cases hread : readAccountAlias (account ++ '=' :: name) with
    | ok pair =>
      rw [readAccountAlias_pad hba haa hbn han hout hread]
      rwa [hread] at hlisted
    | error fault =>
      rw [hread] at hlisted
      cases hfront : (front.filter (!isAllBlank ·)).mapM readAccountAlias with
      | ok pairs =>
        rw [hfront] at hlisted
        cases hlisted
      | error other =>
        rw [hfront] at hlisted
        cases hlisted
  | blank hgap front back =>
    rw [List.filter_append, List.filter_cons_of_neg (by simp [isAllBlank_iff.mpr hgap]),
      ← List.filter_append]
    exact hlisted

end Lists

structure ListTags (entries : List (List Char)) (tags : List String) : Prop where
  free : FreeOf ',' entries
  listed : listedTags entries = tags

structure ListAliases (entries : List (List Char)) (aliases : Dictionary String) : Prop where
  free : FreeOf ';' entries
  listed : listedAliases entries = .ok aliases

structure AreWritableTags (tags : List String) : Prop where
  list : IsTagList tags
  free : ∀ tag ∈ tags, ',' ∉ tag.toList

structure IsWritableAlias (entry : String × String) : Prop where
  account : IsTidy entry.1 ∧ '=' ∉ entry.1.toList ∧ ';' ∉ entry.1.toList
  name : IsTidy entry.2 ∧ ';' ∉ entry.2.toList

theorem AreWritableTags.listTags {tags : List String} (h : AreWritableTags tags) :
    ListTags (tags.map String.toList) tags where
  free := List.forall_mem_map.mpr h.free
  listed := by
    have htidied : tidied (tags.map String.toList) = tags := by
      obtain ⟨⟨-, htidy⟩, -⟩ := h
      induction tags with
      | nil => rfl
      | cons tag tags ih =>
        obtain ⟨⟨hsolid, htrim⟩, hrest⟩ := List.forall_mem_cons.mp htidy
        rw [List.map_cons, tidied_cons, if_neg (mt trim_eq_nil_iff.mp hsolid), htrim, ih hrest,
          String.ofList_toList]
    rw [listedTags, htidied, distinct_of_nodup h.list.1]

theorem IsWritableAlias.read {entry : String × String} (h : IsWritableAlias entry) :
    readAccountAlias (equation entry) = .ok entry := by
  obtain ⟨⟨⟨haccount, htrimAccount⟩, hequal, -⟩, ⟨hname, htrimName⟩, -⟩ := h
  have hsome := not_or.mpr ⟨mt trim_eq_nil_iff.mp haccount, mt trim_eq_nil_iff.mp hname⟩
  rw [equation, readAccountAlias_equation hequal, if_neg hsome, htrimAccount, htrimName,
    String.ofList_toList, String.ofList_toList]

theorem mapM_readAccountAlias {aliases : Dictionary String}
    (h : ∀ entry ∈ aliases, IsWritableAlias entry) :
    (aliases.map equation).mapM readAccountAlias = .ok aliases := by
  induction aliases with
  | nil => rfl
  | cons entry aliases ih =>
    obtain ⟨hentry, hrest⟩ := List.forall_mem_cons.mp h
    rw [List.map_cons, List.mapM_cons, hentry.read, ih hrest]
    rfl

theorem listAliases_equations {aliases : Dictionary String}
    (h : ∀ entry ∈ aliases, IsWritableAlias entry) :
    ListAliases (aliases.map equation) aliases where
  free := by
    refine List.forall_mem_map.mpr fun entry hentry => ?_
    obtain ⟨⟨-, -, haccount⟩, -, hname⟩ := h entry hentry
    simp [equation, haccount, hname]
  listed := by
    have hsolid : (aliases.map equation).filter (!isAllBlank ·) = aliases.map equation := by
      refine List.filter_eq_self.mpr (List.forall_mem_map.mpr fun entry _ => ?_)
      rw [equation, isAllBlank_equation]
      rfl
    rw [listedAliases, hsolid, mapM_readAccountAlias h]

theorem ListTags.read {given : Variables} {name : String} {entries : List (List Char)}
    {tags : List String} (h : ListTags entries tags)
    (hget : given.get? name = some (joined ',' entries)) (default : List String) :
    readTags given name default = tags := by
  simp only [readTags, hget]
  rw [splitList_joined h.free, h.listed]

theorem ListAliases.read {entries : List (List Char)} {aliases : Dictionary String}
    (h : ListAliases entries aliases) (once : aliases.keys.Nodup) :
    readAccountAliases (joined ';' entries) = .ok aliases := by
  rw [readAccountAliases_joined h.free, h.listed]
  exact congrArg Except.ok (Dictionary.ofPairs_of_nodup once)

/-! ## Settings as variables

Settings are written into variables, and loading these gives the settings back. They can be written
more loosely, with blanks, blank entries and repeated tags; every single step of this leaves what
the variables spell, and so does any number of them. -/

/-- What is written into variables. A list stands as its entries, which are joined at the end. -/
structure Spelling where
  transactionsPath : String
  aliasesPath : String
  separator : List Char
  primaryTags : List (List Char)
  tags : List (List Char)
  descriptionWidth : Nat
  accountWidth : Nat
  accountAliases : List (List Char)

def Spelling.variables (spelling : Spelling) : Variables :=
  [("BUFFET_TRANSACTIONS_DB", spelling.transactionsPath),
   ("BUFFET_ENV_PATH", spelling.aliasesPath),
   ("BUFFET_SEPARATOR", String.ofList spelling.separator),
   ("BUFFET_PRIMARY_TAGS", joined ',' spelling.primaryTags),
   ("BUFFET_TAGS", joined ',' spelling.tags),
   ("BUFFET_MAX_DESCRIPTION_LENGTH", String.ofList (Decimal.digits spelling.descriptionWidth)),
   ("BUFFET_MAX_ACCOUNT_LENGTH", String.ofList (Decimal.digits spelling.accountWidth)),
   ("BUFFET_ACCOUNT_ALIASES", joined ';' spelling.accountAliases)]

def spelling (settings : Settings) : Spelling where
  transactionsPath := settings.transactionsPath.text
  aliasesPath := settings.aliasesPath.text
  separator := settings.separator.toList
  primaryTags := settings.primaryTags.map String.toList
  tags := settings.tags.map String.toList
  descriptionWidth := settings.descriptionWidth
  accountWidth := settings.accountWidth
  accountAliases := settings.accountAliases.map equation

/-- A spelling, and one that is looser in one place. -/
inductive Spelling.Looser (spelling : Spelling) : Spelling → Prop where
  | transactionsPath {text : String} (some : text ≠ "")
      (same : Path.ofString text = .ofString spelling.transactionsPath) :
      Looser spelling { spelling with transactionsPath := text }
  | aliasesPath {text : String} (some : text ≠ "")
      (same : Path.ofString text = .ofString spelling.aliasesPath) :
      Looser spelling { spelling with aliasesPath := text }
  | separator {before after : List Char} (hb : IsGap before) (ha : IsGap after) :
      Looser spelling { spelling with separator := before ++ spelling.separator ++ after }
  | primaryTags {entries : List (List Char)} (h : LooserTags spelling.primaryTags entries) :
      Looser spelling { spelling with primaryTags := entries }
  | tags {entries : List (List Char)} (h : LooserTags spelling.tags entries) :
      Looser spelling { spelling with tags := entries }
  | accountAliases {entries : List (List Char)}
      (h : LooserAliases spelling.accountAliases entries) :
      Looser spelling { spelling with accountAliases := entries }

structure NamesPath (text : String) (path : Path) : Prop where
  not_empty : text ≠ ""
  named : Path.ofString text = path

structure Spelling.Spells (spelling : Spelling) (settings : Settings) : Prop where
  transactionsPath : NamesPath spelling.transactionsPath settings.transactionsPath
  aliasesPath : NamesPath spelling.aliasesPath settings.aliasesPath
  separator : trim spelling.separator = settings.separator.toList
  primaryTags : ListTags spelling.primaryTags settings.primaryTags
  tags : ListTags spelling.tags settings.tags
  descriptionWidth : spelling.descriptionWidth = settings.descriptionWidth
  accountWidth : spelling.accountWidth = settings.accountWidth
  accountAliases : ListAliases spelling.accountAliases settings.accountAliases

/-- One looser place leaves what is spelled. -/
theorem Spelling.Spells.looser {spelling next : Spelling} {settings : Settings}
    (h : spelling.Spells settings) (step : spelling.Looser next) : next.Spells settings := by
  cases step with
  | transactionsPath some same =>
    exact { h with transactionsPath := ⟨some, same.trans h.transactionsPath.named⟩ }
  | aliasesPath some same => exact { h with aliasesPath := ⟨some, same.trans h.aliasesPath.named⟩ }
  | separator hb ha => exact { h with separator := (trim_pad hb ha _).trans h.separator }
  | primaryTags step =>
    obtain ⟨free, listed⟩ := h.primaryTags
    exact { h with primaryTags := ⟨step.free free, step.listedTags_eq.trans listed⟩ }
  | tags step =>
    obtain ⟨free, listed⟩ := h.tags
    exact { h with tags := ⟨step.free free, step.listedTags_eq.trans listed⟩ }
  | accountAliases step =>
    obtain ⟨free, listed⟩ := h.accountAliases
    exact { h with accountAliases := ⟨step.free free, step.listedAliases_eq listed⟩ }

/-- So do any number of them. -/
theorem Spelling.Spells.loosened {spelling last : Spelling} {settings : Settings}
    (h : spelling.Spells settings) (steps : Relation.ReflTransGen Looser spelling last) :
    last.Spells settings := by
  induction steps with
  | refl => exact h
  | tail _ step ih => exact ih.looser step

def IsWritableWidth (width : Nat) : Prop :=
  width < 10 ^ Decimal.digitLimit

instance (width : Nat) : Decidable (IsWritableWidth width) :=
  inferInstanceAs (Decidable (_ < _))

structure Writable (settings : Settings) : Prop where
  transactionsPath : settings.transactionsPath.IsNamed
  aliasesPath : settings.aliasesPath.IsNamed
  separator : IsTidy settings.separator
  primaryTags : AreWritableTags settings.primaryTags
  tags : AreWritableTags settings.tags
  descriptionWidth : IsWritableWidth settings.descriptionWidth
  accountWidth : IsWritableWidth settings.accountWidth
  accounts : settings.accountAliases.keys.Nodup
  accountAliases : ∀ entry ∈ settings.accountAliases, IsWritableAlias entry

theorem Writable.spells {settings : Settings} (h : settings.Writable) :
    settings.spelling.Spells settings where
  transactionsPath := ⟨Path.text_ne_empty h.transactionsPath, Path.ofString_text h.transactionsPath⟩
  aliasesPath := ⟨Path.text_ne_empty h.aliasesPath, Path.ofString_text h.aliasesPath⟩
  separator := h.separator.2
  primaryTags := h.primaryTags.listTags
  tags := h.tags.listTags
  descriptionWidth := rfl
  accountWidth := rfl
  accountAliases := listAliases_equations h.accountAliases

def fields (settings : Settings) : Fields where
  transactionsPath := settings.transactionsPath
  aliasesPath := settings.aliasesPath
  separator := settings.separator
  primaryTags := settings.primaryTags
  tags := settings.tags
  descriptionWidth := settings.descriptionWidth
  accountWidth := settings.accountWidth
  accountAliases := settings.accountAliases

theorem check_fields (settings : Settings) : settings.fields.check = .ok settings := by
  have htags : ∀ tag ∈ settings.fields.primaryTags, tag ∉ settings.fields.tags :=
    settings.tags_disjoint
  have hseparator : trim settings.fields.separator.toList ≠ [] := settings.separator_not_blank
  have hdescription : 0 < settings.fields.descriptionWidth :=
    Int.natCast_pos.mpr settings.descriptionWidth_pos
  have haccount : 0 < settings.fields.accountWidth :=
    Int.natCast_pos.mpr settings.accountWidth_pos
  rw [Fields.check, dif_pos htags, dif_pos hseparator, dif_pos hdescription, dif_pos haccount]
  rfl

theorem readWidth_digits {given : Variables} {name : String} {width : Nat}
    (hget : given.get? name = some (String.ofList (Decimal.digits width)))
    (h : IsWritableWidth width) (default : Int) :
    readWidth given name default = .ok width := by
  have hsolid : isAllBlank (Decimal.digits width) = false := by
    rw [Bool.eq_false_iff, ne_eq, isAllBlank_iff]
    intro hgap
    obtain ⟨c, hc⟩ := List.exists_mem_of_ne_nil _ (Decimal.digits_ne_nil width)
    have hdigit := isBlank_of_isDigit (Decimal.isDigit_of_mem_digits hc)
    rw [hgap c hc] at hdigit
    cases hdigit
  simp only [readWidth, hget, String.toList_ofList, hsolid, Decimal.readInt_digits h]
  rfl

theorem NamesPath.read {given : Variables} {name text : String} {path : Path}
    (h : NamesPath text path) (hget : given.get? name = some text) (default : Path) :
    readPath given name default = path := by
  have hsome : text.isEmpty = false := by simpa using h.not_empty
  simp only [readPath, hget, hsome]
  exact h.named

theorem readSeparator_spelled {given : Variables} {text : List Char} {settings : Settings}
    (h : trim text = settings.separator.toList)
    (hget : given.get? "BUFFET_SEPARATOR" = some (String.ofList text)) :
    readSeparator given = settings.separator := by
  have hsolid : settings.separator.toList ≠ [] := by
    intro hnil
    have hblank := settings.separator_not_blank
    rw [hnil] at hblank
    exact hblank rfl
  simp only [readSeparator, hget, Option.getD_some, String.toList_ofList, h, if_neg hsolid,
    String.ofList_toList]

/-- Loading what spells settings gives them back. -/
theorem load_of_spells {spelling : Spelling} {settings : Settings} (h : spelling.Spells settings)
    (writable : settings.Writable) : load spelling.variables = .ok settings := by
  have htransactions : ∀ default,
      readPath spelling.variables "BUFFET_TRANSACTIONS_DB" default = settings.transactionsPath :=
    h.transactionsPath.read rfl
  have haliasesPath : ∀ default,
      readPath spelling.variables "BUFFET_ENV_PATH" default = settings.aliasesPath :=
    h.aliasesPath.read rfl
  have hseparator : readSeparator spelling.variables = settings.separator :=
    readSeparator_spelled h.separator rfl
  have hprimaryTags : ∀ default,
      readTags spelling.variables "BUFFET_PRIMARY_TAGS" default = settings.primaryTags :=
    h.primaryTags.read rfl
  have htags : ∀ default, readTags spelling.variables "BUFFET_TAGS" default = settings.tags :=
    h.tags.read rfl
  have hdescription : ∀ default, readWidth spelling.variables "BUFFET_MAX_DESCRIPTION_LENGTH"
      default = .ok settings.descriptionWidth :=
    readWidth_digits (by rw [← h.descriptionWidth]; rfl) writable.descriptionWidth
  have haccount : ∀ default, readWidth spelling.variables "BUFFET_MAX_ACCOUNT_LENGTH"
      default = .ok settings.accountWidth :=
    readWidth_digits (by rw [← h.accountWidth]; rfl) writable.accountWidth
  have haliases : readAccountAliases
      ((spelling.variables.get? "BUFFET_ACCOUNT_ALIASES").getD "") = .ok settings.accountAliases :=
    h.accountAliases.read writable.accounts
  have hfields : readFields spelling.variables = .ok settings.fields := by
    simp only [readFields, htransactions, haliasesPath, hseparator, hprimaryTags, htags,
      hdescription, haccount, haliases]
    rfl
  rw [load, hfields]
  exact check_fields settings

/-- Settings that variables can hold are loaded from what they are written as, and from every looser
spelling; their account aliases then act on the accounts that they name, and on no other. -/
theorem load_variables {settings : Settings} (h : settings.Writable) :
    load settings.spelling.variables = .ok settings ∧
      (∀ spelling, Relation.ReflTransGen Spelling.Looser settings.spelling spelling →
        load spelling.variables = .ok settings) ∧
      (∀ entry ∈ settings.accountAliases, settings.accountName entry.1 = entry.2) ∧
      ∀ account ∉ settings.accountAliases.keys, settings.accountName account = account := by
  refine ⟨load_of_spells h.spells h, fun spelling steps => ?_, fun entry hentry => ?_,
    fun account hother => ?_⟩
  · exact load_of_spells (h.spells.loosened steps) h
  · rw [accountName, Dictionary.get?_of_mem h.accounts hentry]
    rfl
  · rw [accountName, Dictionary.get?_of_not_mem hother]
    rfl

/-- Settings without regular tags and with a name that holds a sign of equality; they are spelled
with blanks, a blank entry, a tag that is listed twice and another text of a path. -/
theorem load_variables_loosened :
    let settings : Settings := {
      transactionsPath := .ofString "ledger/t.db"
      aliasesPath := .ofString "/etc/envrc"
      separator := "|>"
      primaryTags := ["food", "atm rebate"]
      tags := []
      descriptionWidth := 40
      accountWidth := 1
      accountAliases := [("1234", "Main = 1"), ("Visa", "Card")]
      tags_disjoint := by decide
      separator_not_blank := by decide
      descriptionWidth_pos := by decide
      accountWidth_pos := by decide }
    settings.Writable ∧ load settings.spelling.variables = .ok settings ∧
      load [("BUFFET_TRANSACTIONS_DB", "./ledger//t.db"), ("BUFFET_ENV_PATH", "/etc/envrc"),
        ("BUFFET_SEPARATOR", " |>\t"), ("BUFFET_PRIMARY_TAGS", "food, ,atm rebate,food"),
        ("BUFFET_TAGS", ""), ("BUFFET_MAX_DESCRIPTION_LENGTH", "40"),
        ("BUFFET_MAX_ACCOUNT_LENGTH", "1"),
        ("BUFFET_ACCOUNT_ALIASES", "1234 =Main = 1 ;Visa=Card")] = .ok settings ∧
      settings.accountName "1234" = "Main = 1" ∧ settings.accountName "Cash" = "Cash" := by
  intro settings
  have hwritable : settings.Writable := {
    transactionsPath := ⟨_, rfl⟩
    aliasesPath := ⟨_, rfl⟩
    separator := by decide
    primaryTags := ⟨by decide, by decide⟩
    tags := ⟨by decide, by decide⟩
    descriptionWidth := by decide +kernel
    accountWidth := by decide +kernel
    accounts := by decide
    accountAliases := by
      refine List.forall_mem_cons.mpr ⟨⟨by decide, by decide⟩, ?_⟩
      exact List.forall_mem_cons.mpr ⟨⟨by decide, by decide⟩, nofun⟩ }
  obtain ⟨hplain, hloose, hnamed, hother⟩ := load_variables hwritable
  have hblank : IsGap [' '] := .space
  have htab : IsGap ['\t'] := by decide
  have hpath : Path.ofString "./ledger//t.db" = .ofString settings.spelling.transactionsPath := by
    decide
  have hlisted : "food".toList ∈ ["food".toList, "atm rebate".toList] := List.mem_cons_self
  have hequal : '=' ∉ "1234".toList := by decide
  have hloaded := hloose _ (.tail (.tail (.tail (.tail (.single
    (.transactionsPath (by decide) hpath))
    (.separator hblank htab))
    (.primaryTags (.again hlisted [])))
    (.primaryTags (.blank hblank ["food".toList] ["atm rebate".toList, "food".toList])))
    (.accountAliases (.pad .nil hblank .nil hblank hequal [] "Main = 1".toList
      ["Visa=Card".toList])))
  refine ⟨hwritable, hplain, (congrArg load ?_).trans hloaded, ?_, hother "Cash" (by decide)⟩
  · decide
  · exact hnamed ("1234", "Main = 1") (by decide)

end LedgerQuery.Settings
