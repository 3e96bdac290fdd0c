import LedgerQuery.Failure
import LedgerQuery.Proofs.Text.Blank
import LedgerQuery.Settings.Load

/-! Settings from variables. Every reader gives values that are tidy, or a fault that tells of a
defect of the variables; what has been read is checked together. So loading either finds a defect,
and there is one, or there is none and the settings are consistent. -/

namespace LedgerQuery

/-- A value of the one kind, or a fault of the other. -/
def Yields {ε α : Type} (good : α → Prop) (bad : ε → Prop) : Except ε α → Prop
  | .ok value => good value
  | .error fault => bad fault

section
variable {ε α β : Type} {good : α → Prop} {bad : ε → Prop} {result : Except ε α}

theorem Yields.bind {better : β → Prop} {next : α → Except ε β} (h : Yields good bad result)
    (k : ∀ value, good value → Yields better bad (next value)) :
    Yields better bad (result >>= next) := by
  cases result with
  | ok value => exact k value h
  | error fault => exact h

theorem Yields.imp {better : α → Prop} {worse : ε → Prop} (h : Yields good bad result)
    (hgood : ∀ value, good value → better value) (hbad : ∀ fault, bad fault → worse fault) :
    Yields better worse result := by
  cases result with
  | ok value => exact hgood value h
  | error fault => exact hbad fault h

theorem Yields.mapM {goodItem : α → Prop} {goodValue : β → Prop} {read : α → Except ε β}
    {items : List α}
    (h : ∀ item ∈ items, Yields (fun value => goodItem item ∧ goodValue value) bad (read item)) :
    Yields (fun values => (∀ item ∈ items, goodItem item) ∧ ∀ value ∈ values, goodValue value) bad
      (items.mapM read) := by
  induction items with
  | nil => exact ⟨nofun, nofun⟩
  | cons item items ih =>
    obtain ⟨hitem, hitems⟩ := List.forall_mem_cons.mp h
    rw [List.mapM_cons]
    refine hitem.bind fun value hvalue => (ih hitems).bind fun values hvalues => ?_
    exact ⟨List.forall_mem_cons.mpr ⟨hvalue.1, hvalues.1⟩,
      List.forall_mem_cons.mpr ⟨hvalue.2, hvalues.2⟩⟩

theorem Yields.cases (h : Yields good bad result) :
    (∃ fault, result = .error fault ∧ bad fault) ∨ ∃ value, result = .ok value ∧ good value := by
  cases result with
  | ok value => exact Or.inr ⟨value, rfl, h⟩
  | error fault => exact Or.inl ⟨fault, rfl, h⟩

end

namespace Settings
open Text

variable {given : Variables}

/-- Neither blank nor with blanks at an end. -/
def IsTidy (text : String) : Prop :=
  ¬ IsGap text.toList ∧ trim text.toList = text.toList

instance (text : String) : Decidable (IsTidy text) :=
  inferInstanceAs (Decidable (_ ∧ _))

theorem isTidy_trim {text : List Char} (h : trim text ≠ []) :
    IsTidy (String.ofList (trim text)) := by
  rw [IsTidy, String.toList_ofList, trim_trim]
  refine ⟨fun hgap => h ?_, rfl⟩
  rw [← trim_trim, trim_gap hgap]

def IsTagList (tags : List String) : Prop :=
  tags.Nodup ∧ ∀ tag ∈ tags, IsTidy tag

instance (tags : List String) : Decidable (IsTagList tags) :=
  inferInstanceAs (Decidable (_ ∧ _))

theorem isTagList_splitList (text : String) : IsTagList (splitList text) := by
  refine ⟨nodup_distinct _, ?_⟩
  intro tag htag
  rw [splitList, mem_distinct, List.mem_map] at htag
  obtain ⟨item, hitem, rfl⟩ := htag
  obtain ⟨hmem, hsome⟩ := List.mem_filter.mp hitem
  obtain ⟨piece, -, rfl⟩ := List.mem_map.mp hmem
  exact isTidy_trim (of_decide_eq_true hsome)

theorem isTagList_readTags {default : List String} (h : IsTagList default) (name : String) :
    IsTagList (readTags given name default) := by
  rw [readTags]
  cases given.get? name with
  | none => exact h
  | some text => exact isTagList_splitList text

theorem isTidy_readSeparator (given : Variables) : IsTidy (readSeparator given) := by
  rw [readSeparator]
  split
  · decide
  · rename_i hsome
    exact isTidy_trim hsome

def written (given : Variables) (name : String) : Option String :=
  (given.get? name).filter (!isAllBlank ·.toList)

def widthFields : List (String × String) :=
  [("BUFFET_MAX_DESCRIPTION_LENGTH", "max_description_length"),
   ("BUFFET_MAX_ACCOUNT_LENGTH", "max_account_length")]

def IsEquation (entry : List Char) : Prop :=
  ∃ account name, entry = account ++ '=' :: name ∧ '=' ∉ account ∧ ¬ IsGap account ∧ ¬ IsGap name

/-- What is wrong with variables, by the fault that tells of it. -/
inductive Defect (given : Variables) : SettingsFault → Prop where
  | sharedTags {tags : List String} : tags ≠ [] →
      (∀ tag, tag ∈ tags ↔ tag ∈ readTags given "BUFFET_PRIMARY_TAGS" defaultPrimaryTags ∧
        tag ∈ readTags given "BUFFET_TAGS" defaultTags) →
      Defect given (.sharedTags tags)
  | notAnInteger {name field text : String} : (name, field) ∈ widthFields →
      written given name = some text → (∀ n, Decimal.readInt text.toList ≠ .ok n) →
      Defect given (.notAnInteger name text)
  | widthNotPositive {name field text : String} {n : Int} : (name, field) ∈ widthFields →
      written given name = some text → Decimal.readInt text.toList = .ok n → n < 1 →
      Defect given (.widthNotPositive field)
  | badAccountAlias {text : String} {entry : List Char} :
      given.get? "BUFFET_ACCOUNT_ALIASES" = some text → entry ∈ splitAt (· = ';') text.toList →
      ¬ IsGap entry → ¬ IsEquation entry →
      Defect given (.badAccountAlias (String.ofList (trim entry)))

def IsWidth (given : Variables) (name : String) (default n : Int) : Prop :=
  (written given name = none ∧ n = default) ∨
    ∃ text, written given name = some text ∧ Decimal.readInt text.toList = .ok n

theorem yields_readWidth {name field : String} (hname : (name, field) ∈ widthFields)
    (default : Int) :
    Yields (IsWidth given name default) (Defect given) (readWidth given name default) := by
  rw [readWidth]
  cases hget : given.get? name with
  | none => exact Or.inl ⟨by rw [written, hget]; rfl, rfl⟩
  | some text =>
    dsimp only
    split
    · rename_i hblank
      exact Or.inl ⟨by rw [written, hget]; simp [hblank], rfl⟩
    · rename_i hblank
      have hwritten : written given name = some text := by
        rw [written, hget]
        simp [hblank]
      cases hread : Decimal.readInt text.toList with
      | ok n => exact Or.inr ⟨text, hwritten, hread⟩
      | error fault =>
        refine Defect.notAnInteger hname hwritten fun n hn => ?_
        rw [hread] at hn
        cases hn

/-- The first sign of equality parts an account from its name. -/
theorem readAccountAlias_equation {account : List Char} (h : '=' ∉ account) (name : List Char) :
    readAccountAlias (account ++ '=' :: name) =
      if trim account = [] ∨ trim name = [] then
        .error (.badAccountAlias (String.ofList (trim (account ++ '=' :: name))))
      else .ok (String.ofList (trim account), String.ofList (trim name)) := by
  have hrun : ∀ c ∈ account, decide (c ≠ '=') = true := by
    intro c hc
    rw [decide_eq_true_eq]
    rintro rfl
    exact h hc
  have hsign : Stops (fun c => decide (c ≠ '=')) ('=' :: name) := stops_cons.mpr (by decide)
  rw [readAccountAlias, takeWhile_run hrun hsign, dropWhile_run hrun hsign]
  rfl

theorem yields_readAccountAlias (entry : List Char) :
    Yields (fun pair => IsEquation entry ∧ IsTidy pair.1 ∧ IsTidy pair.2)
      (fun fault => fault = .badAccountAlias (String.ofList (trim entry)) ∧ ¬ IsEquation entry)
      (readAccountAlias entry) := by
  obtain ⟨hfree, hstop, hentry⟩ := exists_run (· ≠ '=') entry
  have hequal : '=' ∉ entry.takeWhile (· ≠ '=') := fun hmem => by simpa using hfree '=' hmem
  by_cases hequation : IsEquation entry
  · obtain ⟨account, name, rfl, hout, haccount, hname⟩ := id hequation
    have hsome := not_or.mpr ⟨mt trim_eq_nil_iff.mp haccount, mt trim_eq_nil_iff.mp hname⟩
    rw [readAccountAlias_equation hout, if_neg hsome]
    exact ⟨hequation, isTidy_trim (not_or.mp hsome).1, isTidy_trim (not_or.mp hsome).2⟩
  · rw [readAccountAlias]
    split
    · exact ⟨rfl, hequation⟩
    · rename_i hsome
      obtain ⟨haccount, hname⟩ := not_or.mp hsome
      refine absurd ?_ hequation
      cases hrest : entry.dropWhile (· ≠ '=') with
      | nil =>
        rw [hrest] at hname
        exact absurd rfl hname
      | cons sign name =>
        rw [hrest] at hname hentry hstop
        obtain rfl : sign = '=' := by simpa using stops_cons.mp hstop
        exact ⟨_, name, hentry, hequal, mt trim_gap haccount, mt trim_gap hname⟩

structure AreAccountAliases (given : Variables) (aliases : Dictionary String) : Prop where
  tidy : ∀ entry ∈ aliases, IsTidy entry.1 ∧ IsTidy entry.2
  equations : ∀ text, given.get? "BUFFET_ACCOUNT_ALIASES" = some text →
    ∀ entry ∈ splitAt (· = ';') text.toList, ¬ IsGap entry → IsEquation entry

theorem yields_readAccountAliases (given : Variables) :
    Yields (AreAccountAliases given) (Defect given)
      (readAccountAliases ((given.get? "BUFFET_ACCOUNT_ALIASES").getD "")) := by
  cases hget : given.get? "BUFFET_ACCOUNT_ALIASES" with
  | none =>
    refine ⟨nofun, fun text htext => ?_⟩
    rw [hget] at htext
    cases htext
  | some text =>
    have hentries : ∀ entry ∈ (splitAt (· = ';') text.toList).filter (!isAllBlank ·),
        Yields (fun pair => IsEquation entry ∧ IsTidy pair.1 ∧ IsTidy pair.2) (Defect given)
          (readAccountAlias entry) := by
      intro entry hentry
      obtain ⟨hmem, hsolid⟩ := List.mem_filter.mp hentry
      refine (yields_readAccountAlias entry).imp (fun _ h => h) ?_
      rintro fault ⟨rfl, hnone⟩
      refine Defect.badAccountAlias hget hmem ?_ hnone
      rw [← isAllBlank_iff]
      simpa using hsolid
    refine (Yields.mapM hentries).bind fun pairs hpairs => ⟨?_, ?_⟩
    · exact fun entry hentry => hpairs.2 entry (Dictionary.mem_of_mem_ofPairs hentry)
    · intro other hother entry hentry hsolid
      rw [hget] at hother
      cases hother
      rw [← isAllBlank_iff] at hsolid
      exact hpairs.1 entry (List.mem_filter.mpr ⟨hentry, by simpa using hsolid⟩)

structure Fields.ReadFrom (given : Variables) (fields : Fields) : Prop where
  separator : fields.separator = readSeparator given
  primaryTags : fields.primaryTags = readTags given "BUFFET_PRIMARY_TAGS" defaultPrimaryTags
  tags : fields.tags = readTags given "BUFFET_TAGS" defaultTags
  descriptionWidth : IsWidth given "BUFFET_MAX_DESCRIPTION_LENGTH" 52 fields.descriptionWidth
  accountWidth : IsWidth given "BUFFET_MAX_ACCOUNT_LENGTH" 15 fields.accountWidth
  accountAliases : AreAccountAliases given fields.accountAliases

theorem yields_readFields (given : Variables) :
    Yields (Fields.ReadFrom given) (Defect given) (readFields given) := by
  rw [readFields]
  refine (yields_readWidth List.mem_cons_self _).bind fun descriptionWidth hdescription => ?_
  refine (yields_readWidth (List.mem_cons_of_mem _ List.mem_cons_self) _).bind
    fun accountWidth haccount => ?_
  refine (yields_readAccountAliases given).bind fun accountAliases haliases => ?_
  exact ⟨rfl, rfl, rfl, hdescription, haccount, haliases⟩

theorem IsWidth.read {name text : String} {default n : Int} (h : IsWidth given name default n)
    (hwritten : written given name = some text) : Decimal.readInt text.toList = .ok n := by
  rcases h with ⟨hnone, -⟩ | ⟨other, hother, hread⟩
  · rw [hwritten] at hnone
    cases hnone
  · rw [hwritten] at hother
    cases hother
    exact hread

theorem IsWidth.defect {name field : String} {default n : Int} (h : IsWidth given name default n)
    (hdefault : 0 < default) (hname : (name, field) ∈ widthFields) (hn : ¬ 0 < n) :
    Defect given (.widthNotPositive field) := by
  rcases h with ⟨-, rfl⟩ | ⟨text, hwritten, hread⟩
  · exact absurd hdefault hn
  · exact Defect.widthNotPositive hname hwritten hread (by omega)

theorem mem_sharedTags_iff {fields : Fields} {tag : String} :
    tag ∈ fields.sharedTags ↔ tag ∈ fields.primaryTags ∧ tag ∈ fields.tags := by
  simp [Fields.sharedTags]

structure Consistent (settings : Settings) : Prop where
  tags_nodup : settings.allTags.Nodup
  tags_tidy : ∀ tag ∈ settings.allTags, IsTidy tag
  tags_apart : ∀ tag ∈ settings.primaryTags, tag ∉ settings.tags
  separator_tidy : IsTidy settings.separator
  mark_read : Separator.ofText settings.separator = .ok settings.mark
  mark_typed : settings.mark.mark = settings.separator.toList
  widths : 1 ≤ settings.descriptionWidth ∧ 1 ≤ settings.accountWidth
  accounts_tidy : ∀ entry ∈ settings.accountAliases, IsTidy entry.1 ∧ IsTidy entry.2

theorem isTagList_defaults : IsTagList defaultPrimaryTags ∧ IsTagList defaultTags := by
  decide +kernel

theorem Consistent.of_tidy {settings : Settings} (hprimary : IsTagList settings.primaryTags)
    (htags : IsTagList settings.tags) (hseparator : IsTidy settings.separator)
    (haccounts : ∀ entry ∈ settings.accountAliases, IsTidy entry.1 ∧ IsTidy entry.2) :
    settings.Consistent where
  tags_nodup := by
    rw [allTags, List.nodup_append]
    refine ⟨hprimary.1, htags.1, ?_⟩
    rintro tag hmem other hother rfl
    exact settings.tags_disjoint tag hmem hother
  tags_tidy := by
    intro tag htag
    exact (List.mem_append.mp htag).elim (hprimary.2 tag) (htags.2 tag)
  tags_apart := settings.tags_disjoint
  separator_tidy := hseparator
  mark_read := by
    rw [Separator.ofText, Separator.of?, dif_pos settings.separator_not_blank]
    rfl
  mark_typed := hseparator.2
  widths := ⟨settings.descriptionWidth_pos, settings.accountWidth_pos⟩
  accounts_tidy := haccounts

theorem Fields.ReadFrom.no_defect {fields : Fields} (h : fields.ReadFrom given)
    (hapart : ∀ tag ∈ fields.primaryTags, tag ∉ fields.tags)
    (hdescription : 0 < fields.descriptionWidth) (haccount : 0 < fields.accountWidth)
    (fault : SettingsFault) : ¬ Defect given fault := by
  have hwidths : ∀ name field, (name, field) ∈ widthFields →
      ∃ default n, IsWidth given name default n ∧ 0 < n := by
    intro name field hname
    rw [widthFields, List.mem_cons, List.mem_singleton] at hname
    rcases hname with heq | heq
    · cases heq
      exact ⟨_, _, h.descriptionWidth, hdescription⟩
    · cases heq
      exact ⟨_, _, h.accountWidth, haccount⟩
  intro hdefect
  cases hdefect with
  | sharedTags hsome hshared =>
    obtain ⟨tag, htag⟩ := List.exists_mem_of_ne_nil _ hsome
    obtain ⟨hprimary, hregular⟩ := (hshared tag).mp htag
    exact hapart tag (h.primaryTags ▸ hprimary) (h.tags ▸ hregular)
  | notAnInteger hname hwritten hnone =>
    obtain ⟨default, n, hwidth, -⟩ := hwidths _ _ hname
    exact hnone n (hwidth.read hwritten)
  | widthNotPositive hname hwritten hread hn =>
    obtain ⟨default, m, hwidth, hpos⟩ := hwidths _ _ hname
    rw [hwidth.read hwritten] at hread
    cases hread
    omega
  | badAccountAlias hget hentry hsolid hnone =>
    exact hnone (h.accountAliases.equations _ hget _ hentry hsolid)

theorem Fields.ReadFrom.yields_check {fields : Fields} (h : fields.ReadFrom given) :
    Yields (fun settings => settings.Consistent ∧ ∀ fault, ¬ Defect given fault) (Defect given)
      fields.check := by
  have hseparator : IsTidy fields.separator := h.separator ▸ isTidy_readSeparator given
  have hprimary : IsTagList fields.primaryTags :=
    h.primaryTags ▸ isTagList_readTags isTagList_defaults.1 _
  have htags : IsTagList fields.tags := h.tags ▸ isTagList_readTags isTagList_defaults.2 _
  rw [Fields.check]
  by_cases hapart : ∀ tag ∈ fields.primaryTags, tag ∉ fields.tags
  · rw [dif_pos hapart, dif_pos (mt trim_eq_nil_iff.mp hseparator.1)]
    by_cases hdescription : 0 < fields.descriptionWidth
    · rw [dif_pos hdescription]
      by_cases haccount : 0 < fields.accountWidth
      · rw [dif_pos haccount]
        exact ⟨.of_tidy hprimary htags hseparator h.accountAliases.tidy,
          h.no_defect hapart hdescription haccount⟩
      · rw [dif_neg haccount]
        exact h.accountWidth.defect (by decide) (List.mem_cons_of_mem _ List.mem_cons_self) haccount
    · rw [dif_neg hdescription]
      exact h.descriptionWidth.defect (by decide) List.mem_cons_self hdescription
  · rw [dif_neg hapart]
    refine Defect.sharedTags ?_ ?_
    · intro hnil
      refine hapart fun tag htag hother => ?_
      have hshared := mem_sharedTags_iff.mpr ⟨htag, hother⟩
      rw [hnil] at hshared
      cases hshared
    · intro tag
      rw [mem_sharedTags_iff, h.primaryTags, h.tags]

/-- Loading finds a defect of the variables, or there is none and the settings are consistent. -/
theorem load_consistent (given : Variables) :
    (∃ fault, load given = .error fault ∧ Defect given fault) ∨
      ∃ settings, load given = .ok settings ∧ settings.Consistent ∧
        ∀ fault, ¬ Defect given fault :=
  ((yields_readFields given).bind fun _ h => h.yields_check).cases

end Settings
end LedgerQuery
