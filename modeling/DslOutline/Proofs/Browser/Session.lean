import DslOutline.Proofs.Browser.Refresh

/-!
# The browser shows what is on the disk

While a project is open, its files may change. What is shown is right after each key press all the
same, on one condition: the cache is asked by the version of a file, so a file must not have two
contents under one version. A reload needs no such condition.

A session is a browser with the disk it looks at, and a run is a list of events: key presses and
changes of the disk from outside. The invariant of a run (`Session.Inv`) is that the settings and
the list of files stay, that the selection is a file of the list, and that each outline cached was
seen at some moment of the run. `Session.Inv.step` and `Session.Inv.run` carry it along; the main
statement is `Session.shows_disk`.
-/

namespace DslOutline

/-! ### Sessions -/

/-- A browser with the disk it looks at. -/
structure Session where
  /-- The disk. -/
  fs : FileSystem
  /-- The browser. -/
  browser : Browser

/-- What may happen while a project is open. -/
inductive SessionEvent where
  /-- The user goes to the next file. -/
  | next
  /-- The user goes to the previous file. -/
  | previous
  /-- The user has the selected file read again. -/
  | reload
  /-- The disk changes from outside: files are written (`FileSystem.save`), removed
  (`FileSystem.remove`) or changed in any other way. -/
  | disk (change : FileSystem → FileSystem)

namespace Session

/-- The session after an event. -/
def step (s : Session) : SessionEvent → Session
  | .next => { s with browser := s.browser.next s.fs }
  | .previous => { s with browser := s.browser.previous s.fs }
  | .reload => { s with browser := s.browser.reload s.fs }
  | .disk change => { s with fs := change s.fs }

/-- The session after a run of events. -/
def run (s : Session) (events : List SessionEvent) : Session :=
  events.foldl step s

/-- The disk at each moment of a run, the first and the last one included. -/
def disks (s : Session) (events : List SessionEvent) : List FileSystem :=
  (events.scanl step s).map Session.fs

/-- What is true throughout a run that starts with the browser `b`, where `disks` are those of the
run. -/
structure Inv (b : Browser) (disks : List FileSystem) (s : Session) : Prop where
  /-- The settings and the list of files stay. -/
  settings : s.browser.settings = b.settings
  /-- The selection is a file of the list. -/
  selection : s.browser.SelectionOk
  /-- The outlines cached have been seen in this run. -/
  cache : s.browser.cache.All (b.Seen disks)
  /-- The disk is one of those of the run. -/
  disk : s.fs ∈ disks

variable {b : Browser} {disks : List FileSystem} {s : Session}

/-- A refresh keeps the invariant: an outline that it adds to the cache is that of a file on the
present disk. -/
theorem Inv.refresh (h : s.Inv b disks) :
    ({ s with browser := s.browser.refresh s.fs } : Session).Inv b disks where
  settings := (s.browser.settings_refresh s.fs).trans h.settings
  selection := by
    have hfiles := Browser.files_of_settings (s.browser.settings_refresh s.fs)
    unfold Browser.SelectionOk
    rw [Browser.selected_refresh, hfiles]
    exact h.selection
  cache := by
    have hc := h.cache
    rw [← Browser.seen_congr h.settings] at hc ⊢
    exact Browser.all_seen_refresh hc h.disk
  disk := h.disk

/-- Any file of the list may be selected. -/
theorem Inv.select (h : s.Inv b disks) {i : Nat} (hi : i < s.browser.files.length) :
    ({ s with browser := { s.browser with selected := some i } } : Session).Inv b disks :=
  ⟨h.settings, hi, h.cache, h.disk⟩

/-- Dropping an outline from the cache keeps the invariant. -/
theorem Inv.invalidate (h : s.Inv b disks) (uri : String) :
    ({ s with browser := { s.browser with cache := s.browser.cache.invalidate uri } } :
      Session).Inv b disks :=
  ⟨h.settings, h.selection, h.cache.invalidate uri, h.disk⟩

/-- Going to the next or the previous file is to select one, unless there is none. -/
theorem Inv.turn_cases (h : s.Inv b disks) {e : SessionEvent} (he : e = .next ∨ e = .previous) :
    (s.browser.files = [] ∧ s.step e = s) ∨
    ∃ i, i < s.browser.files.length ∧
      s.step e = { s with browser := s.browser.select s.fs i } := by
  rcases h.selection.cases with ⟨hnone, -⟩ | ⟨i, hi, hselected⟩
  · left
    rcases he with rfl | rfl
    · exact ⟨hnone, by rw [step, Browser.next_of_no_files hnone]⟩
    · exact ⟨hnone, by rw [step, Browser.previous_of_no_files hnone]⟩
  · have hpos : 0 < s.browser.files.length := Nat.zero_lt_of_lt hi
    right
    rcases he with rfl | rfl
    · exact ⟨_, Nat.mod_lt _ hpos, by rw [step, Browser.next_of_selected hselected hi]⟩
    · exact ⟨_, Nat.mod_lt _ hpos, by rw [step, Browser.previous_of_selected hselected hi]⟩

/-- An event keeps the invariant, if the disk after it is one of those of the run. -/
theorem Inv.step (h : s.Inv b disks) (e : SessionEvent) (hdisk : (s.step e).fs ∈ disks) :
    (s.step e).Inv b disks := by
  have hturn : ∀ {e : SessionEvent}, e = .next ∨ e = .previous → (s.step e).Inv b disks := by
    intro e he
    rcases h.turn_cases he with ⟨-, heq⟩ | ⟨i, hi, heq⟩
    · rw [heq]
      exact h
    · rw [heq]
      exact (h.select hi).refresh
  cases e with
  | next => exact hturn (Or.inl rfl)
  | previous => exact hturn (Or.inr rfl)
  | reload =>
      unfold Session.step Browser.reload
      cases s.browser.selectedFile? with
      | none => exact h.refresh
      | some file => exact (h.invalidate (Path.render file)).refresh
  | disk change => exact ⟨h.settings, h.selection, h.cache, hdisk⟩

theorem mem_disks (s : Session) (events : List SessionEvent) : s.fs ∈ s.disks events := by
  cases events <;> simp [disks]

/-- The disks of a run are the one at the start and those of the remaining run. -/
theorem disks_cons (s : Session) (e : SessionEvent) (events : List SessionEvent) :
    s.disks (e :: events) = s.fs :: (s.step e).disks events := by
  simp [disks]

/-- By induction on the events, the invariant holds throughout a run. -/
theorem Inv.run (h : s.Inv b disks) {events : List SessionEvent}
    (hdisks : ∀ fs ∈ s.disks events, fs ∈ disks) : (s.run events).Inv b disks := by
  induction events generalizing s with
  | nil => exact h
  | cons e events ih =>
      have hafter : ∀ fs ∈ (s.step e).disks events, fs ∈ disks := by
        intro fs hfs
        rw [disks_cons] at hdisks
        exact hdisks fs (List.mem_cons_of_mem _ hfs)
      exact ih (h.step e (hafter _ (mem_disks _ events))) hafter

section

variable (h : s.Inv b disks) (hproject : b.project ≠ "") (hfiles : ∀ file ∈ b.files, file ≠ [])
  (htell : Browser.VersionsTell b.project b.files disks)

include h hproject hfiles htell

/-- If versions tell contents apart, a refresh shows the selected file as it is. -/
theorem Inv.showsDisk_refresh : (s.browser.refresh s.fs).ShowsDisk s.fs := by
  apply Browser.showsDisk_refresh
  intro file text o hfile hread hget
  have hseen : s.browser.Seen disks (s.browser.key s.fs file) o := by
    rw [Browser.seen_congr h.settings]
    exact h.cache.get? hget
  have hproject' : s.browser.settings.project ≠ "" := by rwa [h.settings]
  have hfiles' : ∀ file ∈ s.browser.settings.files, file ≠ [] := by rwa [h.settings]
  have htell' : Browser.VersionsTell s.browser.settings.project s.browser.settings.files disks := by
    rwa [h.settings]
  have hmem : file ∈ s.browser.files := Browser.mem_files_of_selectedFile? hfile
  exact hseen.eq_outline htell' hproject' hfiles' h.disk hmem hread

/-- The same after going to the next or the previous file. -/
theorem Inv.showsDisk_turn {e : SessionEvent} (he : e = .next ∨ e = .previous) :
    (s.step e).browser.ShowsDisk (s.step e).fs := by
  rcases h.turn_cases he with ⟨hnone, heq⟩ | ⟨i, hi, heq⟩
  · rw [heq]
    intro file hfile
    have hmem := Browser.mem_files_of_selectedFile? hfile
    rw [hnone] at hmem
    cases hmem
  · rw [heq]
    exact (h.select hi).showsDisk_refresh hproject hfiles htell

end

/-- A reload shows the selected file as it is, because nothing of it is left in the cache. -/
theorem showsDisk_reload (s : Session) : (s.step .reload).browser.ShowsDisk (s.step .reload).fs := by
  unfold step Browser.reload
  cases hfile : s.browser.selectedFile? with
  | none =>
      apply Browser.showsDisk_refresh
      intro file text o hselected
      rw [hfile] at hselected
      cases hselected
  | some file =>
      apply Browser.showsDisk_refresh
      intro other text o hselected hread hget
      have hsame : file = other := Option.some.inj (hfile.symm.trans hselected)
      rw [Cache.get?_eq_some_iff, Cache.held?_invalidate, Browser.key, hsame, if_pos rfl] at hget
      cases hget

end Session

/-! ### Opening a project -/

/-- A project before a file is selected. -/
def Browser.opened (c : Config) (r : Registry) (project : String) (files : List (List String)) :
    Browser where
  project := project
  registry := r
  fallback := c.heuristicFallback
  maxFileBytes := c.maxFileBytes
  files := files
  selected := none
  cache := {}
  content := []

/-- Opening a project lists its files and selects the first one. -/
theorem Browser.open_eq_ok {fs : FileSystem} {c : Config} {r : Registry} {project : String}
    {b : Browser} (h : Browser.open fs c r project = .ok b) :
    ∃ files, fs.sourceFiles project c.fileExtensions = .ok files ∧
      ((files = [] ∧ b = opened c r project files) ∨
        (files ≠ [] ∧ b = (opened c r project files).select fs 0)) := by
  unfold Browser.open at h
  cases hfiles : fs.sourceFiles project c.fileExtensions with
  | error e =>
      rw [hfiles] at h
      cases h
  | ok files =>
      simp only [hfiles, Except.ok.injEq] at h
      refine ⟨files, rfl, ?_⟩
      cases files with
      | nil => exact Or.inl ⟨rfl, h.symm⟩
      | cons file files => exact Or.inr ⟨List.cons_ne_nil _ _, h.symm⟩

namespace Session

/-- The selected file, if there is one, is shown as it is on the disk, read with the schemas and the
limits that the project was opened with. -/
def Shows (c : Config) (r : Registry) (project : String) (s : Session) : Prop :=
  ∀ file, s.browser.selectedFile? = some file →
    s.browser.content =
      freshLines r c.heuristicFallback c.maxFileBytes project s.fs file

variable {fs : FileSystem} {c : Config} {r : Registry} {project : String} {b : Browser}
  {files : List (List String)}

/-- What a session should show of a project is what its browser should show. -/
theorem shows_iff {s : Session} (h : s.browser.settings = Browser.opened c r project files) :
    s.Shows c r project ↔ s.browser.ShowsDisk s.fs := by
  have hfresh : freshLines s.browser.registry s.browser.fallback s.browser.maxFileBytes
      s.browser.project = freshLines r c.heuristicFallback c.maxFileBytes project :=
    congrArg (fun b : Browser => freshLines b.registry b.fallback b.maxFileBytes b.project) h
  unfold Shows Browser.ShowsDisk
  rw [hfresh]

/-- Opening a project establishes the invariant, and shows the first file as it is. -/
theorem inv_of_open (h : Browser.open fs c r project = .ok b)
    {disks : List FileSystem} (hfs : fs ∈ disks) :
    fs.sourceFiles project c.fileExtensions = .ok b.files ∧
      (⟨fs, b⟩ : Session).Inv (Browser.opened c r project b.files) disks ∧ b.ShowsDisk fs := by
  obtain ⟨files, hfiles, ⟨rfl, rfl⟩ | ⟨hne, rfl⟩⟩ := Browser.open_eq_ok h
  · refine ⟨hfiles, ⟨rfl, rfl, Cache.All.empty, hfs⟩, ?_⟩
    rintro file ⟨⟩
  · have hsame : ((Browser.opened c r project files).select fs 0).files = files :=
      Browser.files_select ..
    have hinv : (⟨fs, { Browser.opened c r project files with selected := some 0 }⟩ : Session).Inv
        (Browser.opened c r project files) disks :=
      ⟨rfl, List.length_pos_of_ne_nil hne, Cache.All.empty, hfs⟩
    rw [hsame]
    refine ⟨hfiles, hinv.refresh, ?_⟩
    apply Browser.showsDisk_refresh
    -- the cache is empty, so nothing is found in it
    rintro file text o - - ⟨⟩

/-- **The browser shows what is on the disk.** Let a project be opened, and let any events follow.
The list of files stays what it was; a file of it is selected, unless it is empty; going to the next
file and going to the previous one undo each other. A reload shows the selected file as it is. If no
file ever has two contents under one version, going to another file shows that file as it is, and
opening the project does so in any case. Only files of the list are in the cache. -/
theorem shows_disk (hopen : Browser.open fs c r project = .ok b) (events : List SessionEvent) :
    let s := run ⟨fs, b⟩ events
    (fs.sourceFiles project c.fileExtensions = .ok s.browser.files ∧ s.browser.files = b.files ∧
      (b.files = [] → s.browser.selected = none) ∧
      (b.files ≠ [] → ∃ i < b.files.length, s.browser.selected = some i) ∧
      ∀ fs' fs'', ((s.browser.next fs').previous fs'').selected = s.browser.selected ∧
        ((s.browser.previous fs').next fs'').selected = s.browser.selected) ∧
    Shows c r project (s.step .reload) ∧
    (Shows c r project ⟨fs, b⟩ ∧
      (Browser.VersionsTell project b.files (disks ⟨fs, b⟩ events) →
        Shows c r project (s.step .next) ∧ Shows c r project (s.step .previous))) ∧
    ∀ uri ∈ s.browser.cache.uris, ∃ file ∈ b.files, uri = Path.render file := by
  intro s
  obtain ⟨hsource, hstart, hshown⟩ := inv_of_open hopen (mem_disks ⟨fs, b⟩ events)
  have hs : s.Inv (Browser.opened c r project b.files) (disks ⟨fs, b⟩ events) :=
    hstart.run fun _ => id
  have hfiles : s.browser.files = (Browser.opened c r project b.files).files :=
    Browser.files_of_settings hs.settings
  change s.browser.files = b.files at hfiles
  obtain ⟨hproject, hpaths⟩ := FileSystem.of_sourceFiles hsource
  -- the disk after a key press is the one before it, so the invariant holds there too
  have hpress : ∀ e, (s.step e).fs = s.fs →
      (s.step e).browser.settings = Browser.opened c r project b.files := by
    intro e he
    exact (hs.step e (he ▸ hs.disk)).settings
  have hselection := hs.selection.cases
  rw [hfiles] at hselection
  refine ⟨⟨by rw [hfiles]; exact hsource, hfiles, ?_, ?_, ?_⟩, ?_, ⟨?_, ?_⟩, ?_⟩
  · intro hnone
    rcases hselection with ⟨-, hselected⟩ | ⟨i, hi, -⟩
    · exact hselected
    · rw [hnone] at hi
      cases hi
  · intro hsome
    exact hselection.resolve_left fun h => hsome h.1
  · intro fs' fs''
    exact ⟨Browser.selected_previous_next hs.selection fs' fs'',
      Browser.selected_next_previous hs.selection fs' fs''⟩
  · exact (shows_iff (hpress .reload rfl)).mpr (showsDisk_reload s)
  · exact (shows_iff hstart.settings).mpr hshown
  · intro htell
    exact ⟨(shows_iff (hpress .next rfl)).mpr (hs.showsDisk_turn hproject hpaths htell (Or.inl rfl)),
      (shows_iff (hpress .previous rfl)).mpr
        (hs.showsDisk_turn hproject hpaths htell (Or.inr rfl))⟩
  · intro uri huri
    obtain ⟨⟨_, version, o⟩, hentry, rfl⟩ := List.mem_map.mp huri
    obtain ⟨fs', -, file, hfile, text, hkey, -⟩ := hs.cache _ version o hentry
    exact ⟨file, hfile, congrArg DocumentKey.uri hkey⟩

/-- Of two files, the first one is written again while the second one is shown, and the second one
is removed. A reload then says that the second one is missing, and going back shows the new text of
the first one. -/
theorem shows_disk_rewritten :
    let fs : FileSystem :=
      { root := .folder [("p", .folder
          [("a.ex", .file "use A".toUTF8 5), ("b.ex", .file "".toUTF8 7)])] }
    let b := (Browser.opened {} {} "p" [["a.ex"], ["b.ex"]]).select fs 0
    let events : List SessionEvent :=
      [.next, .disk fun fs => (fs.save "p/a.ex" "use B".toUTF8 6).toOption.getD fs,
        .disk fun fs => fs.remove "p/b.ex"]
    let s := run ⟨fs, b⟩ events
    Browser.open fs {} {} "p" = .ok b ∧
      Browser.VersionsTell "p" b.files (disks ⟨fs, b⟩ events) ∧
      (s.step .reload).browser.content = ["Error reading file: File not found: p/b.ex"] ∧
      (s.fs.readSource "p" ["a.ex"] 100).toOption = some "use B" ∧
      (s.step .previous).browser.content =
        freshLines {} true (2 * 1024 * 1024) "p" s.fs ["a.ex"] := by
  intro fs b events s
  have hnode : fs.node? "p" =
      some (.folder [("a.ex", .file "use A".toUTF8 5), ("b.ex", .file "".toUTF8 7)]) := rfl
  have hext : hasExtension ["ex", "exs"] "a.ex" ∧ hasExtension ["ex", "exs"] "b.ex" := by
    decide +kernel
  have hsorted : List.mergeSort [["a.ex"], ["b.ex"]] Path.lessEq = [["a.ex"], ["b.ex"]] :=
    List.mergeSort_of_pairwise (by decide +kernel)
  have hsource : fs.sourceFiles "p" ["ex", "exs"] = .ok [["a.ex"], ["b.ex"]] := by
    simp only [FileSystem.sourceFiles, hnode, sourcesAmong, hext, if_true, List.nil_append, hsorted]
  have hopen : Browser.open fs {} {} "p" = .ok b := by
    unfold Browser.open
    rw [hsource]
    rfl
  have hreload : (s.step .reload).browser.selectedFile? = some ["b.ex"] := by decide +kernel
  have hprevious : (s.step .previous).browser.selectedFile? = some ["a.ex"] := by decide +kernel
  have htell : Browser.VersionsTell "p" b.files (disks ⟨fs, b⟩ events) := by
    unfold Browser.VersionsTell
    decide +kernel
  obtain ⟨-, hshows, ⟨-, hturn⟩, -⟩ := shows_disk hopen events
  refine ⟨hopen, htell, ?_, by decide +kernel, (hturn htell).2 ["a.ex"] hprevious⟩
  rw [hshows ["b.ex"] hreload]
  decide +kernel

end Session

end DslOutline
