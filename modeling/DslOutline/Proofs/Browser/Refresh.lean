import DslOutline.Browser
import DslOutline.Proofs.Cache.Transparency
import DslOutline.Proofs.Files.Source

/-!
# What a browser shows

Every key press ends with a refresh: the selected file is read, and its outline is asked for under
the version that the file has now. `refresh_cases` says what that can do; all else follows from it.
The settings and the selection stay. The selected file is shown as it is on the disk if what the
cache holds under its key is the outline of its text (`showsDisk_refresh`). That is so if each
outline cached was read from a source file at some moment (`Seen`) and no file had two contents
under one version (`VersionsTell`, `Seen.eq_outline`).

The next file and the previous one are those one further and one less far, modulo the number of
files (`next_of_selected`, `previous_of_selected`), so that the two undo each other.
-/

namespace DslOutline

/-! ### What is shown -/

/-- What is to be seen of a source file as it is on a disk, without any cache: the lines of its
outline, with a remark if it has no sections, or one line on why it cannot be read. -/
def freshLines (r : Registry) (fallback : Bool) (limit : Nat) (project : String) (fs : FileSystem)
    (file : List String) : List String :=
  match fs.readSource project file limit with
  | .error e => ["Error reading file: " ++ e.message]
  | .ok text =>
    let o := outline r fallback (Document.ofString text)
    o.render ++ if o.result.sections = [] then ["", "No structure found"] else []

namespace Browser

/-- The key under which the outline of a source file is cached. -/
def key (b : Browser) (fs : FileSystem) (file : List String) : DocumentKey :=
  ⟨Path.render file, fs.version (Path.below b.project file)⟩

/-- The selected file, if there is one, is shown as it is on a disk. -/
def ShowsDisk (b : Browser) (fs : FileSystem) : Prop :=
  ∀ file, b.selectedFile? = some file →
    b.content = freshLines b.registry b.fallback b.maxFileBytes b.project fs file

/-- What stays as it is while a project is open. -/
def settings (b : Browser) : Browser :=
  { b with selected := none, cache := {}, content := [] }

/-- With the same settings the list of files is the same. -/
theorem files_of_settings {b b' : Browser} (h : b.settings = b'.settings) : b.files = b'.files := by
  have hfiles := congrArg Browser.files h
  exact hfiles

/-- What is shown of an outline, as it is defined for a file without the cache. -/
theorem shown_eq (o : Outline) :
    shown o = o.render ++ if o.result.sections = [] then ["", "No structure found"] else [] := by
  unfold shown
  cases o.result.sections <;> simp

/-- Without a selected file nothing happens, without its text only an error is shown, and with it
the outline is asked for. -/
theorem refresh_cases (b : Browser) (fs : FileSystem) :
    (b.selectedFile? = none ∧ b.refresh fs = b) ∨
    ∃ file, b.selectedFile? = some file ∧
      ((∃ e, fs.readSource b.project file b.maxFileBytes = .error e ∧
        b.refresh fs = { b with content := ["Error reading file: " ++ e.message] }) ∨
      ∃ text, fs.readSource b.project file b.maxFileBytes = .ok text ∧
        let asked := cachedOutline b.registry b.fallback b.cache (b.key fs file)
          (Document.ofString text)
        b.refresh fs = { b with cache := asked.2, content := shown asked.1 }) := by
  unfold refresh
  cases hfile : b.selectedFile? with
  | none => exact Or.inl ⟨rfl, rfl⟩
  | some file =>
      refine Or.inr ⟨file, rfl, ?_⟩
      dsimp only
      cases hread : fs.readSource b.project file b.maxFileBytes with
      | error e => exact Or.inl ⟨e, rfl, rfl⟩
      | ok text => exact Or.inr ⟨text, rfl, rfl⟩

/-- A refresh changes no setting. -/
theorem settings_refresh (b : Browser) (fs : FileSystem) :
    (b.refresh fs).settings = b.settings := by
  rcases b.refresh_cases fs with ⟨-, h⟩ | ⟨file, -, ⟨e, -, h⟩ | ⟨text, -, h⟩⟩ <;> rw [h] <;> rfl

theorem selected_refresh (b : Browser) (fs : FileSystem) :
    (b.refresh fs).selected = b.selected := by
  rcases b.refresh_cases fs with ⟨-, h⟩ | ⟨file, -, ⟨e, -, h⟩ | ⟨text, -, h⟩⟩ <;> rw [h]

/-- After a refresh the same file is selected. -/
theorem selectedFile?_refresh (b : Browser) (fs : FileSystem) :
    (b.refresh fs).selectedFile? = b.selectedFile? := by
  unfold selectedFile?
  rw [selected_refresh, files_of_settings (b.settings_refresh fs)]

/-- If what the cache holds for the selected file, as it is now, is the outline of its text, then
the file is shown as it is. -/
theorem showsDisk_refresh {b : Browser} {fs : FileSystem}
    (hget : ∀ file text o, b.selectedFile? = some file →
      fs.readSource b.project file b.maxFileBytes = .ok text →
      b.cache.get? (b.key fs file) = some o →
      o = outline b.registry b.fallback (Document.ofString text)) :
    (b.refresh fs).ShowsDisk fs := by
  intro file hfile
  rw [selectedFile?_refresh] at hfile
  rcases b.refresh_cases fs with ⟨hnone, -⟩ | ⟨other, hother, hshown⟩
  · rw [hnone] at hfile
    cases hfile
  · obtain rfl : other = file := Option.some.inj (hother.symm.trans hfile)
    rcases hshown with ⟨e, hread, h⟩ | ⟨text, hread, h⟩
    · rw [h]
      simp only [freshLines, hread]
    · have hasked := fst_cachedOutline fun o => hget other text o hother hread
      rw [h]
      simp only [freshLines, hread, shown_eq, hasked]

/-! ### The selection -/

/-- A file is selected, unless there is none. -/
def SelectionOk (b : Browser) : Prop :=
  match b.selected with
  | none => b.files = []
  | some i => i < b.files.length

/-- Without files nothing is selected, and with files one of them is. -/
theorem SelectionOk.cases {b : Browser} (h : b.SelectionOk) :
    (b.files = [] ∧ b.selected = none) ∨ ∃ i < b.files.length, b.selected = some i := by
  unfold SelectionOk at h
  cases hselected : b.selected with
  | none =>
      rw [hselected] at h
      exact Or.inl ⟨h, rfl⟩
  | some i =>
      rw [hselected] at h
      exact Or.inr ⟨i, h, rfl⟩

/-- The next file is one further, and behind the last comes the first. -/
theorem next_of_selected {b : Browser} {i : Nat} (h : b.selected = some i)
    (hi : i < b.files.length) (fs : FileSystem) :
    b.next fs = b.select fs ((i + 1) % b.files.length) := by
  have hfiles : b.files.isEmpty = false := by
    simpa using List.ne_nil_of_length_pos (Nat.zero_lt_of_lt hi)
  simp only [next, hfiles, h, Bool.false_eq_true, if_false]

/-- The previous file is one less far, and in front of the first comes the last. -/
theorem previous_of_selected {b : Browser} {i : Nat} (h : b.selected = some i)
    (hi : i < b.files.length) (fs : FileSystem) :
    b.previous fs = b.select fs ((i + (b.files.length - 1)) % b.files.length) := by
  have hfiles : b.files.isEmpty = false := by
    simpa using List.ne_nil_of_length_pos (Nat.zero_lt_of_lt hi)
  cases i with
  | zero =>
      have hlast : (0 + (b.files.length - 1)) % b.files.length = b.files.length - 1 := by
        rw [Nat.zero_add, Nat.mod_eq_of_lt (by omega)]
      simp only [previous, hfiles, h, hlast, Bool.false_eq_true, if_false]
  | succ i =>
      have hone : (i + 1 + (b.files.length - 1)) % b.files.length = i := by
        rw [show i + 1 + (b.files.length - 1) = i + b.files.length by omega, Nat.add_mod_right,
          Nat.mod_eq_of_lt (by omega)]
      simp only [previous, hfiles, h, hone, Bool.false_eq_true, if_false]

theorem next_of_no_files {b : Browser} (h : b.files = []) (fs : FileSystem) : b.next fs = b := by
  simp [next, h]

theorem previous_of_no_files {b : Browser} (h : b.files = []) (fs : FileSystem) :
    b.previous fs = b := by
  simp [previous, h]

theorem settings_select (b : Browser) (fs : FileSystem) (i : Nat) :
    (b.select fs i).settings = b.settings :=
  settings_refresh { b with selected := some i } fs

theorem files_select (b : Browser) (fs : FileSystem) (i : Nat) :
    (b.select fs i).files = b.files :=
  files_of_settings (b.settings_select fs i)

theorem selected_select (b : Browser) (fs : FileSystem) (i : Nat) :
    (b.select fs i).selected = some i :=
  selected_refresh { b with selected := some i } fs

/-- Going to the next file and back selects the same file again. -/
theorem selected_previous_next {b : Browser} (h : b.SelectionOk) (fs fs' : FileSystem) :
    ((b.next fs).previous fs').selected = b.selected := by
  rcases h.cases with ⟨hnone, -⟩ | ⟨i, hi, hselected⟩
  · rw [next_of_no_files hnone, previous_of_no_files hnone]
  · have hnext : (i + 1) % b.files.length < b.files.length := Nat.mod_lt _ (Nat.zero_lt_of_lt hi)
    have hback : ((i + 1) % b.files.length + (b.files.length - 1)) % b.files.length = i := by
      rw [Nat.mod_add_mod, show i + 1 + (b.files.length - 1) = i + b.files.length by omega,
        Nat.add_mod_right, Nat.mod_eq_of_lt hi]
    rw [next_of_selected hselected hi,
      previous_of_selected (selected_select ..) (by rwa [files_select]), selected_select,
      files_select, hback, hselected]

/-- Going to the previous file and on selects the same file again. -/
theorem selected_next_previous {b : Browser} (h : b.SelectionOk) (fs fs' : FileSystem) :
    ((b.previous fs).next fs').selected = b.selected := by
  rcases h.cases with ⟨hnone, -⟩ | ⟨i, hi, hselected⟩
  · rw [previous_of_no_files hnone, next_of_no_files hnone]
  · have hprevious : (i + (b.files.length - 1)) % b.files.length < b.files.length :=
      Nat.mod_lt _ (Nat.zero_lt_of_lt hi)
    have hback : ((i + (b.files.length - 1)) % b.files.length + 1) % b.files.length = i := by
      rw [Nat.mod_add_mod, show i + (b.files.length - 1) + 1 = i + b.files.length by omega,
        Nat.add_mod_right, Nat.mod_eq_of_lt hi]
    rw [previous_of_selected hselected hi,
      next_of_selected (selected_select ..) (by rwa [files_select]), selected_select, files_select,
      hback, hselected]

/-! ### The outlines cached -/

/-- An outline that was read from a source file at one of several moments, and the key under which
it was cached then. -/
def Seen (b : Browser) (disks : List FileSystem) (key : DocumentKey) (o : Outline) : Prop :=
  ∃ fs ∈ disks, ∃ file ∈ b.files, ∃ text,
    key = b.key fs file ∧ fs.readSource b.project file b.maxFileBytes = .ok text ∧
      o = outline b.registry b.fallback (Document.ofString text)

/-- Which outlines have been seen depends on the settings only. -/
theorem seen_congr {b b' : Browser} (h : b.settings = b'.settings) (disks : List FileSystem) :
    b.Seen disks = b'.Seen disks :=
  congrArg (fun b => b.Seen disks) h

/-- The selected file is one of the list. -/
theorem mem_files_of_selectedFile? {b : Browser} {file : List String}
    (h : b.selectedFile? = some file) : file ∈ b.files := by
  obtain ⟨i, -, hi⟩ := Option.bind_eq_some_iff.mp h
  exact List.mem_of_getElem? hi

/-- The outlines cached after a refresh have been seen, at an earlier moment or now. -/
theorem all_seen_refresh {b : Browser} {fs : FileSystem} {disks : List FileSystem}
    (hc : b.cache.All (b.Seen disks)) (hfs : fs ∈ disks) :
    (b.refresh fs).cache.All (b.Seen disks) := by
  rcases b.refresh_cases fs with ⟨-, h⟩ | ⟨file, hfile, ⟨e, -, h⟩ | ⟨text, hread, h⟩⟩ <;> rw [h]
  · exact hc
  · exact hc
  · have hnow : b.Seen disks (b.key fs file)
        (outline b.registry b.fallback (Document.ofString text)) :=
      ⟨fs, hfs, file, mem_files_of_selectedFile? hfile, text, rfl, hread, rfl⟩
    exact (hc.cachedOutline b.registry b.fallback _ hnow).2

/-- No source file has two contents under one version, on any two of several disks. -/
def VersionsTell (project : String) (files : List (List String)) (disks : List FileSystem) : Prop :=
  ∀ fs ∈ disks, ∀ fs' ∈ disks, ∀ file ∈ files,
    fs.version (Path.below project file) = fs'.version (Path.below project file) →
      ∀ content ∈ fs.content? (Path.below project file),
        ∀ content' ∈ fs'.content? (Path.below project file), content = content'

/-- Under that condition, an outline that was seen under the key which a source file has now is the
outline of its present text. -/
theorem Seen.eq_outline {b : Browser} {disks : List FileSystem}
    (htell : VersionsTell b.project b.files disks) (hproject : b.project ≠ "")
    (hfiles : ∀ file ∈ b.files, file ≠ []) {fs : FileSystem} (hfs : fs ∈ disks)
    {file : List String} (hfile : file ∈ b.files) {text : String}
    (hread : fs.readSource b.project file b.maxFileBytes = .ok text) {o : Outline}
    (h : b.Seen disks (b.key fs file) o) :
    o = outline b.registry b.fallback (Document.ofString text) := by
  obtain ⟨fs', hfs', file', hfile', text', hkey, hread', rfl⟩ := h
  simp only [key, DocumentKey.mk.injEq] at hkey
  -- different files of the list have different keys, because the key spells the path
  have hpath : Path.below b.project file = Path.below b.project file' := by
    rw [Path.below_eq hproject (hfiles file hfile), Path.below_eq hproject (hfiles file' hfile'),
      hkey.1]
  obtain ⟨content, hcontent, htext⟩ := FileSystem.exists_content_of_readSource hread
  obtain ⟨content', hcontent', htext'⟩ := FileSystem.exists_content_of_readSource hread'
  rw [← hpath] at hkey hcontent'
  have hsame : content = content' :=
    htell fs hfs fs' hfs' file hfile hkey.2 content hcontent content' hcontent'
  rw [hsame, htext', Option.some.injEq] at htext
  rw [htext]

end Browser

end DslOutline
