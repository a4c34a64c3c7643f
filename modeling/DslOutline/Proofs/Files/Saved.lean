import DslOutline.Files.Tree
import Mathlib.Tactic.SplitIfs

/-!
# Files that are saved are read back

A path is followed name by name through folders, so a change elsewhere in the tree matters to it
only if it takes a folder away. Putting a file where no folder is takes none away
(`keepsFolders_put`). Therefore the path under which a file was saved leads to it afterwards
(`node_of_save`), also if it goes through `..` or through folders that had to be made.
-/

namespace DslOutline

namespace Tree

/-- An entry of a name is there exactly if something is found under the name. -/
theorem any_eq_isSome_child? (entries : List (String × Tree)) (name : String) :
    entries.any (fun e => e.1 == name) = ((folder entries).child? name).isSome := by
  rw [Bool.eq_iff_iff]
  simp [child?]

/-- An entry that is put in is found under its name, and the others are where they were. -/
theorem child?_setEntry (name : String) (t : Tree) (entries : List (String × Tree)) (s : String) :
    (folder (setEntry name t entries)).child? s =
      if name = s then some t else (folder entries).child? s := by
  induction entries with
  | nil =>
    by_cases hs : name = s <;> simp [setEntry, child?, hs]
  | cons e es ih =>
    unfold setEntry
    split_ifs with he hs hs
    · simp [child?, hs]
    · have : e.1 ≠ s := he ▸ hs
      simp [child?, hs, this]
    · subst hs
      simpa [child?, he] using ih
    · by_cases hes : e.1 = s
      · simp [child?, hes]
      · simpa [child?, hes, hs] using ih

/-- A tree put deep into a folder is put into the entry on the way. -/
theorem put_cons {entries : List (String × Tree)} {name : String} {inner : Tree}
    (h : (folder entries).child? name = some inner) (new : Tree) {path : List String}
    (hpath : path ≠ []) :
    put new (name :: path) (folder entries) =
      folder (setEntry name (put new path inner) entries) := by
  cases path with
  | nil => exact absurd rfl hpath
  | cons n ns => simp [put, h]

/-- Every folder of a tree is still there in another tree, with an entry for each of its names. -/
def KeepsFolders (t u : Tree) : Prop :=
  ∀ (names : List String) (entries : List (String × Tree)), t.at? names = some (folder entries) →
    ∃ entries', u.at? names = some (folder entries') ∧
      ∀ name, ((folder entries).child? name).isSome → ((folder entries').child? name).isSome

/-- Replacing an entry takes no folder away if what replaces it keeps the folders of the old
entry. -/
theorem keepsFolders_setEntry {entries : List (String × Tree)} {name : String} {new : Tree}
    (h : ∀ old, (folder entries).child? name = some old → KeepsFolders old new) :
    KeepsFolders (folder entries) (folder (setEntry name new entries)) := by
  intro names es hes
  cases names with
  | nil =>
    cases hes
    refine ⟨setEntry name new entries, rfl, ?_⟩
    intro s hs
    rw [child?_setEntry]
    split_ifs
    · rfl
    · exact hs
  | cons s names =>
    rw [at?, child?_setEntry]
    rw [at?, Option.bind_eq_some_iff] at hes
    obtain ⟨old, hold, hes⟩ := hes
    split_ifs with hs
    · subst hs
      exact h old hold names es hes
    · exact ⟨es, by rw [hold]; exact hes, fun _ hname => hname⟩

/-- In place of a file anything may be put without a folder getting lost. -/
theorem keepsFolders_of_not_isFolder {old new : Tree} (h : old.isFolder = false) :
    KeepsFolders old new := by
  intro names entries hat
  cases old with
  | folder entries => cases h
  | file content modified => cases names <;> cases hat

/-- Putting something in place of what is no folder loses no folder. -/
theorem keepsFolders_put {t : Tree} {names : List String} {entries : List (String × Tree)}
    (hat : t.at? names = some (folder entries)) {name : String}
    (hold : ((folder entries).child? name).any isFolder = false) (new : Tree) :
    KeepsFolders t (put new (names ++ [name]) t) := by
  induction names generalizing t with
  | nil =>
    cases hat
    rw [List.nil_append, put]
    apply keepsFolders_setEntry
    intro old hchild
    rw [hchild] at hold
    exact keepsFolders_of_not_isFolder hold
  | cons n names ih =>
    rw [at?, Option.bind_eq_some_iff] at hat
    obtain ⟨inner, hchild, hat⟩ := hat
    cases t with
    | file content modified => cases hchild
    | folder es =>
      rw [List.cons_append, put_cons hchild new (by simp)]
      apply keepsFolders_setEntry
      intro old hold
      rw [hchild] at hold
      cases hold
      exact ih hat

/-- What is put at a path is found there. -/
theorem at?_put {t : Tree} {names : List String} {entries : List (String × Tree)}
    (hat : t.at? names = some (folder entries)) (name : String) (new : Tree) :
    (put new (names ++ [name]) t).at? (names ++ [name]) = some new := by
  induction names generalizing t with
  | nil =>
    cases hat
    rw [List.nil_append, put, at?, child?_setEntry, if_pos rfl]
    rfl
  | cons n names ih =>
    rw [at?, Option.bind_eq_some_iff] at hat
    obtain ⟨inner, hchild, hat⟩ := hat
    cases t with
    | file content modified => cases hchild
    | folder es =>
      rw [List.cons_append, put_cons hchild new (by simp), at?, child?_setEntry, if_pos rfl]
      exact ih hat

theorem at?_append (names more : List String) (t : Tree) :
    t.at? (names ++ more) = (t.at? names).bind (at? more) := by
  induction names generalizing t with
  | nil => rfl
  | cons n names ih =>
    rw [List.cons_append, at?, at?, Option.bind_assoc]
    congr 1
    funext t
    exact ih t

end Tree

namespace FileSystem

/-- Walking along a path in two parts. -/
theorem walk_append (fs : FileSystem) (here front rest : List String) :
    fs.walk here (front ++ rest) = (fs.walk here front).bind fun here => fs.walk here rest := by
  induction front generalizing here with
  | nil => rfl
  | cons s front ih =>
    rw [List.cons_append, walk.eq_2, walk.eq_2]
    split
    · rfl
    · rfl
    · split_ifs
      · exact ih here
      · exact ih _
      · exact ih _
      · rfl

/-- A path that can be followed can be followed to the same place if no folder is taken away. -/
theorem walk_of_keepsFolders {fs fs' : FileSystem} (hkeeps : fs.root.KeepsFolders fs'.root)
    {here segments names : List String} (h : fs.walk here segments = .ok names) :
    fs'.walk here segments = .ok names := by
  induction segments generalizing here with
  | nil => exact h
  | cons s segments ih =>
    unfold walk at h ⊢
    split at h
    · cases h
    · cases h
    · rename_i entries hat
      obtain ⟨entries', hat', hnames⟩ := hkeeps here entries hat
      rw [hat']
      simp only [Tree.any_eq_isSome_child?] at h ⊢
      split_ifs at h with hidle hup hname
      · rw [if_pos hidle]
        exact ih h
      · rw [if_neg hidle, if_pos hup]
        exact ih h
      · rw [if_neg hidle, if_neg hup, if_pos (hnames s hname)]
        exact ih h

/-- A folder that is reached is one of the tree, under the names walked along. -/
theorem folderAt_eq_ok {fs : FileSystem} {start segments names : List String}
    {entries : List (String × Tree)} (h : fs.folderAt start segments = .ok (names, entries)) :
    fs.walk start segments = .ok names ∧ fs.root.at? names = some (.folder entries) := by
  unfold folderAt at h
  split at h
  · cases h
  · rename_i reached hwalk
    split at h
    · rename_i es hat
      cases h
      exact ⟨hwalk, hat⟩
    · cases h
    · cases h

/-- If no empty segment stands at the end, the last name that is not empty is the last segment. -/
theorem segments_eq_of_last {segments named : List String} {name : String}
    (hnamed : (segments.reverse.dropWhile (· == "")).reverse = named)
    (hlast : named.getLast? = some name) (hlength : ¬named.length < segments.length) :
    segments = named.dropLast ++ [name] ∧ name ≠ "" := by
  have hname : name ≠ "" := by
    have h := List.head?_dropWhile_not (· == "") segments.reverse
    rw [← hnamed, List.getLast?_reverse] at hlast
    rw [hlast] at h
    simpa using h
  have hall : named = segments := by
    have hsuffix := List.dropWhile_suffix (· == "") (l := segments.reverse)
    rw [← hnamed, List.length_reverse, Nat.not_lt, ← List.length_reverse] at hlength
    rw [← hnamed, hsuffix.eq_of_length_le hlength, List.reverse_reverse]
  obtain ⟨front, rfl⟩ := List.getLast?_eq_some_iff.mp hlast
  rw [← hall]
  simpa using hname

/-- Writing a file puts it under a name into a folder to which the rest of its path leads, and the
name does not stand for a folder there. -/
theorem writeFile_cases {fs fs' : FileSystem} {path : String} {content : ByteArray} {modified : Int}
    (h : fs.writeFile path content modified = .ok fs') :
    ∃ (front names : List String) (name : String) (entries : List (String × Tree)),
      Path.segments path = front ++ [name] ∧ name ≠ "" ∧ name ≠ "." ∧ name ≠ ".." ∧
      fs.walk (fs.start path) front = .ok names ∧ fs.root.at? names = some (.folder entries) ∧
      ((Tree.folder entries).child? name).any Tree.isFolder = false ∧
      fs' = { fs with root := Tree.put (.file content modified) (names ++ [name]) fs.root } := by
  simp only [writeFile] at h
  generalize hnamed : ((Path.segments path).reverse.dropWhile (· == "")).reverse = named at h
  cases hlast : named.getLast? with
  | none =>
    rw [hlast] at h
    cases h
  | some name =>
    rw [hlast] at h
    cases hfolder : fs.folderAt (fs.start path) named.dropLast with
    | error e =>
      rw [hfolder] at h
      cases h
    | ok found =>
      obtain ⟨names, entries⟩ := found
      obtain ⟨hwalk, hat⟩ := folderAt_eq_ok hfolder
      simp only [hfolder, bind, Except.bind] at h
      split_ifs at h with hbad
      cases h
      simp only [Bool.or_eq_true, decide_eq_true_eq, not_or, Bool.not_eq_true] at hbad
      obtain ⟨⟨⟨hdot, hup⟩, hlength⟩, hold⟩ := hbad
      obtain ⟨hsegments, hname⟩ := segments_eq_of_last hnamed hlast hlength
      exact ⟨_, names, name, entries, hsegments, hname, hdot, hup, hwalk, hat, hold, rfl⟩

/-- After a file was written its path leads to it. -/
theorem node_of_writeFile {fs fs' : FileSystem} {path : String} {content : ByteArray}
    {modified : Int} (h : fs.writeFile path content modified = .ok fs') :
    fs'.node path = .ok (.file content modified) := by
  obtain ⟨front, names, name, entries, hsegments, hname, hdot, hup, hwalk, hat, hold, rfl⟩ :=
    writeFile_cases h
  generalize hfs : FileSystem.mk (Tree.put (.file content modified) (names ++ [name]) fs.root)
    fs.current = fs'
  have hroot : fs'.root = Tree.put (.file content modified) (names ++ [name]) fs.root := by
    rw [← hfs]
  have hstart : fs'.start path = fs.start path := by
    rw [← hfs]
    rfl
  have hpath : path.isEmpty = false := by
    rw [Bool.eq_false_iff]
    intro hempty
    rw [String.isEmpty_iff.mp hempty] at hsegments
    have hlast := congrArg List.getLast? hsegments
    rw [List.getLast?_concat] at hlast
    exact hname (Option.some.inj hlast).symm
  have hkeeps : fs.root.KeepsFolders fs'.root := hroot ▸ Tree.keepsFolders_put hat hold _
  have hput : fs'.root.at? (names ++ [name]) = some (.file content modified) :=
    hroot ▸ Tree.at?_put hat name _
  obtain ⟨entries', hat', -⟩ := hkeeps names entries hat
  have hentry : (entries'.any fun e => e.1 == name) = true := by
    have hfound := hput
    rw [Tree.at?_append, hat'] at hfound
    rw [Tree.any_eq_isSome_child?]
    cases hchild : (Tree.folder entries').child? name with
    | none => simp [Tree.at?, hchild] at hfound
    | some t => rfl
  have hlast : fs'.walk names [name] = .ok (names ++ [name]) := by
    simp [walk, hat', hname, hdot, hup, hentry]
  have hreach : fs'.walk (fs'.start path) (Path.segments path) = .ok (names ++ [name]) := by
    rw [hsegments, hstart, walk_append, walk_of_keepsFolders hkeeps hwalk]
    exact hlast
  simp [node, hpath, hreach, hput]

/-- A file that was saved is what its path leads to. -/
theorem node_of_save {fs fs' : FileSystem} {path : String} {content : ByteArray} {modified : Int}
    (h : fs.save path content modified = .ok fs') :
    fs'.node path = .ok (.file content modified) := by
  unfold save at h
  cases hfolders : fs.addFolders (fs.start path) (Path.parts path).dropLast.reverse with
  | error e =>
    rw [hfolders] at h
    cases h
  | ok fs₁ =>
    rw [hfolders] at h
    exact node_of_writeFile h

/-- A text that was saved is the text that is read. -/
theorem readText_of_save {fs fs' : FileSystem} {path text : String} {modified : Int}
    (h : fs.save path text.toUTF8 modified = .ok fs') : fs'.readText path = .ok text := by
  have hvalid : String.fromUTF8? text.toUTF8 = some text := by
    have hbytes : text.toUTF8.IsValidUTF8 := text.isValidUTF8
    unfold String.fromUTF8?
    rw [dif_pos hbytes]
    rfl
  rw [readText, node_of_save h]
  simp only [hvalid]

end FileSystem

end DslOutline
