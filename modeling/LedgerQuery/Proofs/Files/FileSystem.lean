import LedgerQuery.Files.FileSystem
import LedgerQuery.Proofs.Text.Blank

/-! # Paths and files -/

namespace LedgerQuery.Path

/-! ## Paths and their texts

The components of a path are not empty, are no single dots and hold no slash, so they are read again
from the text of the path, and its root is read from the slashes in front. -/

open Text

structure IsComponent (part : List Char) : Prop where
  some : part ≠ []
  not_dot : part ≠ ['.']
  no_slash : ∀ c ∈ part, decide (c = '/') = false

def IsNamed (path : Path) : Prop :=
  ∃ text, ofString text = path

theorem IsNamed.isComponent {path : Path} (h : path.IsNamed) :
    ∀ part ∈ path.parts, IsComponent part.toList := by
  obtain ⟨text, rfl⟩ := h
  intro part hpart
  obtain ⟨piece, hpiece, rfl⟩ := List.mem_map.mp hpart
  obtain ⟨hmem, hkept⟩ := List.mem_filter.mp hpiece
  obtain ⟨hsome, hdot⟩ : piece ≠ [] ∧ piece ≠ ['.'] := by simpa using hkept
  rw [String.toList_ofList]
  exact ⟨hsome, hdot, fun c hc => (of_mem_splitAt hmem c hc).2⟩

def partsOf (text : List Char) : List (List Char) :=
  (splitAt (· = '/') text).filter fun part => part ≠ [] && part ≠ ['.']

theorem partsOf_slash_append (text : List Char) : partsOf ('/' :: text) = partsOf text := by
  rw [partsOf, partsOf, splitAt]
  rfl

theorem partsOf_joined {parts : List (List Char)} (h : ∀ part ∈ parts, IsComponent part) :
    partsOf (joinWith ['/'] parts) = parts := by
  by_cases hnil : parts = []
  · subst hnil
    rfl
  · have hsplit : splitAt (· = '/') (joinWith ['/'] parts) = parts :=
      splitAt_joinWith (by decide) hnil fun part hp => (h part hp).no_slash
    rw [partsOf, hsplit, List.filter_eq_self]
    intro part hp
    simp [(h part hp).some, (h part hp).not_dot]

theorem stops_joined {parts : List (List Char)} (h : ∀ part ∈ parts, IsComponent part) :
    Stops (· = '/') (joinWith ['/'] parts) := by
  cases parts with
  | nil => exact Stops.nil
  | cons part parts =>
    obtain ⟨hsome, -, hslash⟩ := h part List.mem_cons_self
    cases parts with
    | nil =>
      have hstop := stops_of_forall hsome hslash []
      rwa [List.append_nil] at hstop
    | cons second parts =>
      rw [joinWith, List.append_assoc]
      · exact stops_of_forall hsome hslash _
      · exact List.cons_ne_nil second parts

def slashes : PathRoot → List Char
  | .workingDirectory => []
  | .root => ['/']
  | .doubleRoot => ['/', '/']

theorem rootOf_slashes_append (start : PathRoot) {text : List Char} (h : Stops (· = '/') text) :
    rootOf (slashes start ++ text) = start := by
  have hslashes : ∀ c ∈ slashes start, decide (c = '/') = true := by
    cases start <;> simp [slashes]
  rw [rootOf, takeWhile_run hslashes h]
  cases start <;> rfl

theorem partsOf_slashes_append (start : PathRoot) (text : List Char) :
    partsOf (slashes start ++ text) = partsOf text := by
  cases start with
  | workingDirectory => rfl
  | root => exact partsOf_slash_append text
  | doubleRoot => exact (partsOf_slash_append _).trans (partsOf_slash_append text)

theorem toList_text (path : Path) (h : path.root ≠ .workingDirectory ∨ path.parts ≠ []) :
    path.text.toList = slashes path.root ++ joinWith ['/'] (path.parts.map String.toList) := by
  obtain ⟨start, parts⟩ := path
  cases start with
  | workingDirectory =>
    have hsome : parts ≠ [] := h.resolve_left fun hstart => hstart rfl
    simp [text, hsome, slashes, joinWith_eq_intercalate]
  | root => simp [text, slashes, joinWith_eq_intercalate]
  | doubleRoot => simp [text, slashes, joinWith_eq_intercalate]

theorem ofString_text {path : Path} (h : path.IsNamed) : ofString path.text = path := by
  by_cases hempty : path.root = .workingDirectory ∧ path.parts = []
  · obtain ⟨start, parts⟩ := path
    obtain ⟨rfl, rfl⟩ := hempty
    decide
  · have hparts : ∀ part ∈ path.parts.map String.toList, IsComponent part := by
      intro part hpart
      obtain ⟨name, hname, rfl⟩ := List.mem_map.mp hpart
      exact h.isComponent name hname
    have htext := toList_text path (not_and_or.mp hempty)
    have hroot : rootOf path.text.toList = path.root := by
      rw [htext]
      exact rootOf_slashes_append path.root (stops_joined hparts)
    have hread : partsOf path.text.toList = path.parts.map String.toList := by
      rw [htext, partsOf_slashes_append, partsOf_joined hparts]
    rw [partsOf] at hread
    rw [ofString, hroot]
    simp only [hread, List.map_map, Function.comp_def, String.ofList_toList, List.map_id']

theorem text_ne_empty {path : Path} (h : path.IsNamed) : path.text ≠ "" := by
  intro he
  have hself := ofString_text h
  rw [he] at hself
  subst hself
  exact absurd he (by decide)

end LedgerQuery.Path

namespace LedgerQuery.FileSystem

/-! ## Reading what was written

Writing a file changes no other place, and no path leads through a file; so the path that was
written still leads to the file, which holds what was written. A directory is made only where
nothing was, on the way of the path that it is made for, so every file is still read as it was. -/

variable {files : FileSystem} {place : Place}

theorem lookup_filter_of_ne (entries : List (Place × FileNode)) {other : Place}
    (h : other ≠ place) :
    (entries.filter (·.1 ≠ place)).lookup other = entries.lookup other := by
  induction entries with
  | nil => rfl
  | cons entry entries ih =>
    obtain ⟨key, node⟩ := entry
    by_cases hk : key = place
    · have hkey : (other == key) = false := beq_eq_false_iff_ne.mpr (hk ▸ h)
      rw [List.filter_cons_of_neg (by simp [hk]), ih, List.lookup_cons, hkey]
    · rw [List.filter_cons_of_pos (by simp [hk]), List.lookup_cons, List.lookup_cons, ih]

theorem node?_put_self (node : FileNode) (h : place ≠ []) :
    (files.put place node).node? place = some node := by
  simp [node?, put, h]

theorem node?_put_of_ne (node : FileNode) {other : Place} (h : other ≠ place) :
    (files.put place node).node? other = files.node? other := by
  have hplace : (other == place) = false := beq_eq_false_iff_ne.mpr h
  simp only [node?, put, List.lookup_cons, hplace, lookup_filter_of_ne _ h]

/-- A path leads where it led if every directory is still there. -/
theorem follow_mono {after : FileSystem}
    (h : ∀ place, files.node? place = some .directory → after.node? place = some .directory)
    {start final : Place} {parts : List String} (hf : files.follow start parts = .ok final) :
    after.follow start parts = .ok final := by
  induction parts generalizing start with
  | nil => exact hf
  | cons part parts ih =>
    unfold follow at hf ⊢
    cases hn : files.node? start with
    | none =>
      rw [hn] at hf
      cases hf
    | some found =>
      cases found with
      | file content =>
        rw [hn] at hf
        cases hf
      | directory =>
        rw [hn] at hf
        rw [h start hn]
        exact ih hf

/-- A path leads to the same place after something was put where no directory was. -/
theorem follow_put {node : FileNode} (h : files.node? place ≠ some .directory)
    {start final : Place} {parts : List String} (hf : files.follow start parts = .ok final) :
    (files.put place node).follow start parts = .ok final := by
  refine follow_mono (fun other hd => ?_) hf
  have hne : other ≠ place := fun he => h (he ▸ hd)
  rw [node?_put_of_ne node hne, hd]

theorem locate_eq_ok_iff {path : Path} :
    files.locate path = .ok place ↔ files.follow [] path.parts = .ok place := by
  unfold locate
  cases files.follow [] path.parts with
  | error reason => exact ⟨nofun, nofun⟩
  | ok found => exact ⟨fun h => by cases h; rfl, fun h => by cases h; rfl⟩

theorem read_eq_ok_iff {path : Path} {content : Content} :
    files.read path = .ok content ↔
      ∃ place, files.locate path = .ok place ∧ files.node? place = some (.file content) := by
  unfold read
  cases files.locate path with
  | error fault => exact ⟨nofun, nofun⟩
  | ok place =>
    simp only [bind, Except.bind, Except.ok.injEq, exists_eq_left']
    cases files.node? place with
    | none => exact ⟨nofun, nofun⟩
    | some node =>
      cases node with
      | directory => exact ⟨nofun, nofun⟩
      | file found => simp [pure, Except.pure]

theorem locate_put {node : FileNode} (h : files.node? place ≠ some .directory) {path : Path}
    {final : Place} (hl : files.locate path = .ok final) :
    (files.put place node).locate path = .ok final :=
  locate_eq_ok_iff.mpr (follow_put h (locate_eq_ok_iff.mp hl))

/-- Writing puts the text where the path leads, unless a directory is there. -/
theorem put_of_write {after : FileSystem} {path : Path} {chars : List Char}
    (h : files.write path chars = .ok after) :
    ∃ place, files.locate path = .ok place ∧ files.node? place ≠ some .directory ∧
      after = files.put place (.file (.text chars)) := by
  unfold write at h
  cases hl : files.locate path with
  | error fault =>
    rw [hl] at h
    cases h
  | ok place =>
    rw [hl] at h
    have hfile : files.node? place ≠ some .directory := by
      intro hd
      simp only [bind, Except.bind, hd] at h
      cases h
    simp only [bind, Except.bind] at h
    exact ⟨place, rfl, hfile, (Except.ok.inj h).symm⟩

theorem read_of_write {after : FileSystem} {path : Path} {chars : List Char}
    (h : files.write path chars = .ok after) : after.read path = .ok (.text chars) := by
  obtain ⟨place, hl, hfile, rfl⟩ := put_of_write h
  have hsome : place ≠ [] := by
    rintro rfl
    exact hfile rfl
  exact read_eq_ok_iff.mpr ⟨place, locate_put hfile hl, node?_put_self _ hsome⟩

/-- Every file that can be read is still there and holds what it held. -/
def KeptIn (files after : FileSystem) : Prop :=
  ∀ path content, files.read path = .ok content → after.read path = .ok content

theorem KeptIn.refl (files : FileSystem) : files.KeptIn files :=
  fun _ _ h => h

theorem KeptIn.trans {first second third : FileSystem} (h : first.KeptIn second)
    (k : second.KeptIn third) : first.KeptIn third :=
  fun path content hread => k path content (h path content hread)

/-- Directories were made at most on the way of a path, each where nothing was; every other place is
as it was. -/
def MakesWay (files after : FileSystem) (path : Path) : Prop :=
  ∀ place, after.node? place = files.node? place ∨
    (files.node? place = none ∧ after.node? place = some .directory ∧
      ∃ lead, lead <+: path.parts ∧ after.follow [] lead = .ok place)

theorem MakesWay.refl (files : FileSystem) (path : Path) : files.MakesWay files path :=
  fun _ => Or.inl rfl

theorem MakesWay.node?_eq {after : FileSystem} {path : Path} (h : files.MakesWay after path)
    {node : FileNode} (hn : files.node? place = some node) : after.node? place = some node := by
  rcases h place with he | ⟨hnone, -, -⟩
  · rw [he, hn]
  · rw [hn] at hnone
    cases hnone

theorem MakesWay.trans {middle after : FileSystem} {path : Path} (h : files.MakesWay middle path)
    (k : middle.MakesWay after path) : files.MakesWay after path := by
  intro place
  rcases h place with he | ⟨hnone, hmade, lead, hlead, hfollow⟩
  · rw [← he]
    exact k place
  · exact Or.inr ⟨hnone, k.node?_eq hmade, lead, hlead, follow_mono (fun _ => k.node?_eq) hfollow⟩

theorem MakesWay.below {after : FileSystem} {path lower : Path} (h : files.MakesWay after path)
    (hparts : path.parts <+: lower.parts) : files.MakesWay after lower := by
  intro place
  rcases h place with he | ⟨hnone, hmade, lead, hlead, hfollow⟩
  · exact Or.inl he
  · exact Or.inr ⟨hnone, hmade, lead, hlead.trans hparts, hfollow⟩

theorem MakesWay.keptIn {after : FileSystem} {path : Path} (h : files.MakesWay after path) :
    files.KeptIn after := by
  intro other content hread
  obtain ⟨final, hfinal, hnode⟩ := read_eq_ok_iff.mp hread
  have hstill := follow_mono (fun _ => h.node?_eq) (locate_eq_ok_iff.mp hfinal)
  exact read_eq_ok_iff.mpr ⟨final, locate_eq_ok_iff.mpr hstill, h.node?_eq hnode⟩

theorem makesWay_makeDirectory {after : FileSystem} {path : Path}
    (h : files.makeDirectory path = .ok after) : files.MakesWay after path := by
  unfold makeDirectory at h
  cases hl : files.locate path with
  | error fault =>
    rw [hl] at h
    cases h
  | ok place =>
    simp only [hl, bind, Except.bind] at h
    cases hn : files.node? place with
    | some node =>
      rw [hn] at h
      cases h
    | none =>
      rw [hn] at h
      cases h
      have hsome : place ≠ [] := by
        rintro rfl
        cases hn
      have hfollow : (files.put place .directory).follow [] path.parts = .ok place :=
        follow_put (by rw [hn]; exact nofun) (locate_eq_ok_iff.mp hl)
      intro other
      by_cases he : other = place
      · subst he
        exact Or.inr ⟨hn, node?_put_self _ hsome, path.parts, List.prefix_refl _, hfollow⟩
      · exact Or.inl (node?_put_of_ne _ he)

theorem makesWay_ensureDirectory {after : FileSystem} {path : Path}
    (h : files.ensureDirectory path = .ok after) : files.MakesWay after path := by
  unfold ensureDirectory at h
  split at h
  · rename_i hmade
    cases h
    exact makesWay_makeDirectory hmade
  · split at h
    · cases h
      exact .refl files path
    · cases h

theorem makesWay_ensureBelow (files : FileSystem) (start : PathRoot) (parts : List String) :
    files.MakesWay (files.ensureBelow start parts).1 ⟨start, parts.reverse⟩ := by
  induction parts generalizing files with
  | nil =>
    unfold ensureBelow
    split
    · rename_i hmade
      exact makesWay_ensureDirectory hmade
    · exact .refl files _
  | cons part parts ih =>
    have hparts : parts.reverse <+: (part :: parts).reverse := by simp
    have hbelow : files.MakesWay (files.ensureBelow start parts).1
        ⟨start, (part :: parts).reverse⟩ :=
      (ih files).below hparts
    unfold ensureBelow
    dsimp only
    split
    · rename_i hmade
      exact makesWay_ensureDirectory hmade
    · split
      · split
        · rename_i hrest
          rwa [hrest] at hbelow
        · rename_i hrest
          rw [hrest] at hbelow
          split
          · rename_i hmade
            exact hbelow.trans (makesWay_ensureDirectory hmade)
          · exact hbelow
      · exact .refl files _

theorem makesWay_ensureDirectories (files : FileSystem) (path : Path) :
    files.MakesWay (files.ensureDirectories path).1 path := by
  have h := makesWay_ensureBelow files path.root path.parts.reverse
  rwa [List.reverse_reverse] at h

theorem keptIn_ensureDirectories (files : FileSystem) (path : Path) :
    files.KeptIn (files.ensureDirectories path).1 :=
  (makesWay_ensureDirectories files path).keptIn

end LedgerQuery.FileSystem
