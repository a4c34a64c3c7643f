import DslOutline.Proofs.Files.Saved
import DslOutline.Proofs.Files.Source
import Mathlib.Data.List.Lex
import Mathlib.Data.List.Nodup
import Mathlib.Data.String.Basic

/-!
# Which source files a project has

The search for source files goes through folders in the order in which their entries happen to be
listed and sorts what it found. This module says what it finds, without the search: the paths that
lead to a file with one of the extensions and pass no folder that is left out (`Tree.IsSource`).
Each such path is found once (`Tree.mem_sources_iff`, `Tree.nodup_sources`), provided that no
folder has two entries of one name. So the sorted list is determined by the tree and not by the
order of its entries (`Tree.Reordered`). The main statement is `sourceFiles_discovers`.
-/

namespace DslOutline

/-! ### Trees whose names are distinct -/

namespace Tree

/-- No folder of the tree has two entries of one name. -/
inductive DistinctNames : Tree → Prop
  | file (content : ByteArray) (modified : Int) : DistinctNames (file content modified)
  | folder {entries : List (String × Tree)} (names : (entries.map Prod.fst).Nodup)
      (inner : ∀ e ∈ entries, DistinctNames e.2) : DistinctNames (folder entries)

/-- The second tree has the files and folders of the first one, with the entries of each folder in
an order of its own. -/
inductive Reordered : Tree → Tree → Prop
  | file (content : ByteArray) (modified : Int) :
      Reordered (file content modified) (file content modified)
  | folder {entries entries' : List (String × Tree)}
      (names : (entries.map Prod.fst).Perm (entries'.map Prod.fst))
      (inner : ∀ e ∈ entries, ∀ e' ∈ entries', e.1 = e'.1 → Reordered e.2 e'.2) :
      Reordered (folder entries) (folder entries')

/-- A folder has nothing under a name exactly if no entry has the name. -/
theorem child?_eq_none_iff {entries : List (String × Tree)} {name : String} :
    (folder entries).child? name = none ↔ name ∉ entries.map Prod.fst := by
  rw [← Option.not_isSome_iff_eq_none, ← any_eq_isSome_child?]
  simp

/-- With distinct names, the entry under a name is the entry of that name. -/
theorem child?_eq_some_iff {entries : List (String × Tree)} (h : (entries.map Prod.fst).Nodup)
    {name : String} {t : Tree} :
    (folder entries).child? name = some t ↔ (name, t) ∈ entries := by
  induction entries with
  | nil => simp [child?]
  | cons e entries ih =>
      obtain ⟨hnew, h⟩ := List.nodup_cons.mp h
      by_cases he : e.1 = name
      · subst he
        have hlater : (e.1, t) ∉ entries := fun hmem =>
          hnew (List.mem_map.mpr ⟨_, hmem, rfl⟩)
        simp [child?, hlater, Prod.ext_iff, eq_comm]
      · have hne : (name, t) ≠ e := fun heq => he (by rw [← heq])
        rw [List.mem_cons, or_iff_right hne, ← ih h]
        simp [child?, he]

/-- Names are distinct in the subfolders, too. -/
theorem DistinctNames.child? {t u : Tree} {name : String} (h : t.DistinctNames)
    (hchild : t.child? name = some u) : u.DistinctNames := by
  cases h with
  | file content modified => cases hchild
  | folder names inner => exact inner _ ((child?_eq_some_iff names).mp hchild)

/-- What a path leads to has distinct names. -/
theorem DistinctNames.at? {t u : Tree} {path : List String} (h : t.DistinctNames)
    (hat : t.at? path = some u) : u.DistinctNames := by
  induction path generalizing t with
  | nil =>
      cases hat
      exact h
  | cons name path ih =>
      obtain ⟨inner, hchild, hat⟩ := Option.bind_eq_some_iff.mp hat
      exact ih (h.child? hchild) hat

namespace Reordered

/-- Entries of one name are found in both trees or in none. -/
theorem child? {t u : Tree} (ht : t.DistinctNames) (h : Reordered t u) (name : String) :
    Option.Rel Reordered (t.child? name) (u.child? name) := by
  cases h with
  | file content modified => exact .none
  | @folder entries entries' names inner =>
      cases ht with
      | folder hnodup _ =>
      cases hchild : (Tree.folder entries).child? name with
      | none =>
          have hnone := child?_eq_none_iff.mp hchild
          rw [names.mem_iff] at hnone
          rw [child?_eq_none_iff.mpr hnone]
          exact .none
      | some t =>
          have hmem := (child?_eq_some_iff hnodup).mp hchild
          have hname : name ∈ entries'.map Prod.fst :=
            names.mem_iff.mp (List.mem_map_of_mem (f := Prod.fst) hmem)
          obtain ⟨e', hmem', rfl⟩ := List.mem_map.mp hname
          rw [(child?_eq_some_iff (names.nodup_iff.mp hnodup)).mpr hmem']
          exact .some (inner _ hmem _ hmem' rfl)

/-- A path leads to reordered trees, or in neither tree to anything. -/
theorem at? {t u : Tree} (ht : t.DistinctNames) (h : Reordered t u) (path : List String) :
    Option.Rel Reordered (t.at? path) (u.at? path) := by
  induction path generalizing t u with
  | nil => exact .some h
  | cons name path ih =>
      have hrel := child? ht h name
      rw [Tree.at?, Tree.at?]
      generalize hchild : t.child? name = found at hrel
      generalize u.child? name = found' at hrel
      cases hrel with
      | none => exact .none
      | some hinner => exact ih (ht.child? hchild) hinner

/-- Listing entries in another order keeps the names distinct. -/
theorem distinctNames {t u : Tree} (h : Reordered t u) (ht : t.DistinctNames) :
    u.DistinctNames := by
  induction h with
  | file content modified => exact ht
  | folder names inner ih =>
      cases ht with
      | folder hnodup hinner =>
      refine .folder (names.nodup_iff.mp hnodup) ?_
      intro e' he'
      have hname := names.mem_iff.mpr (List.mem_map_of_mem (f := Prod.fst) he')
      obtain ⟨e, he, heq⟩ := List.mem_map.mp hname
      exact ih e he e' he' heq (hinner e he)

theorem refl {t : Tree} (h : t.DistinctNames) : Reordered t t := by
  induction h with
  | file content modified => exact .file content modified
  | folder names inner ih =>
      refine .folder (List.Perm.refl _) ?_
      intro e he e' he' heq
      rw [← List.inj_on_of_nodup_map names he he' heq]
      exact ih e he

/-- Entries of a folder may be listed in any order. -/
theorem of_perm {entries entries' : List (String × Tree)}
    (h : (Tree.folder entries).DistinctNames) (hperm : entries.Perm entries') :
    Reordered (Tree.folder entries) (Tree.folder entries') := by
  cases h with
  | folder names inner =>
  refine .folder (hperm.map Prod.fst) ?_
  intro e he e' he' heq
  rw [← List.inj_on_of_nodup_map names he (hperm.mem_iff.mpr he') heq]
  exact refl (inner e he)

end Reordered

end Tree

/-! ### Names of files and folders -/

namespace Path

/-- A file name has an extension: something, a dot and the extension, which has no dot in it. The
name `..` has none. -/
def IsExtension (ext name : String) : Prop :=
  name ≠ ".." ∧ ∃ stem, stem ≠ "" ∧ name = stem ++ "." ++ ext ∧ '.' ∉ ext.toList

/-- A name without a dot has no extension. -/
theorem extension?_of_not_mem {name : String} (h : '.' ∉ name.toList) : extension? name = none := by
  have hdot : name.toList.contains '.' = false := by simpa using h
  simp only [extension?, hdot, Bool.false_and, Bool.false_eq_true, if_false]

/-- The extension is what follows the last dot. -/
theorem extension?_of_dot {name : String} {stem ext : List Char}
    (h : name.toList = stem ++ '.' :: ext) (hext : '.' ∉ ext) :
    extension? name = if stem ≠ [] ∧ name ≠ ".." then some (String.ofList ext) else none := by
  have hlast : (name.toList.reverse.takeWhile (· != '.')).reverse = ext := by
    have hall : ∀ c ∈ ext.reverse, (c != '.') = true := by
      intro c hc
      rw [bne_iff_ne]
      rintro rfl
      exact hext (List.mem_reverse.mp hc)
    rw [h, List.reverse_append, List.reverse_cons, List.append_assoc,
      List.takeWhile_append_of_pos hall, List.singleton_append,
      List.takeWhile_cons_of_neg (by decide), List.append_nil, List.reverse_reverse]
  have hstem : name.toList.take (name.toList.length - ext.length - 1) = stem := by
    have hlen : name.toList.length - ext.length - 1 = stem.length := by
      rw [h, List.length_append, List.length_cons]
      omega
    rw [hlen, h, List.take_left]
  have hdot : name.toList.contains '.' = true := by simp [h]
  simp only [extension?, hlast, hstem, hdot, Bool.true_and, Bool.and_eq_true, Bool.not_eq_true',
    List.isEmpty_eq_false_iff, bne_iff_ne]

/-- The extension that is computed is what stands behind the last dot, if the dot does not come
first. -/
theorem extension?_eq_some_iff {name ext : String} :
    extension? name = some ext ↔ IsExtension ext name := by
  constructor
  · intro h
    by_cases hdot : '.' ∈ name.toList
    · -- the last dot is the first one from behind
      obtain ⟨e, s, hsplit, he⟩ := List.eq_append_cons_of_mem (List.mem_reverse.mpr hdot)
      have hname : name.toList = s.reverse ++ '.' :: e.reverse := by
        rw [← List.reverse_reverse name.toList, hsplit]
        simp
      rw [extension?_of_dot hname (by simpa using he)] at h
      split_ifs at h with hcond
      rw [Option.some.injEq] at h
      refine ⟨hcond.2, String.ofList s.reverse, ?_, ?_, ?_⟩
      · rw [ne_eq, ← String.toList_inj, String.toList_ofList]
        exact hcond.1
      · rw [← String.toList_inj, hname, ← h]
        simp
      · rw [← h, String.toList_ofList]
        simpa using he
    · rw [extension?_of_not_mem hdot] at h
      cases h
  · rintro ⟨hname, stem, hstem, heq, hext⟩
    have hsplit : name.toList = stem.toList ++ '.' :: ext.toList := by
      rw [heq]
      simp
    rw [extension?_of_dot hsplit hext, if_pos, String.ofList_toList]
    refine ⟨?_, hname⟩
    rw [ne_eq, ← String.toList_inj] at hstem
    exact hstem

end Path

/-- A file is taken for its extension, which must be one of those asked for. -/
theorem hasExtension_iff {extensions : List String} {name : String} :
    hasExtension extensions name = true ↔ ∃ ext ∈ extensions, Path.IsExtension ext name := by
  simp only [← Path.extension?_eq_some_iff]
  rw [hasExtension, Option.any_eq_true]
  simp [and_comm]

/-- The folders that are not skipped. -/
theorem isSkippedFolder_eq_false_iff {name : String} :
    isSkippedFolder name = false ↔ name.toList.head? ≠ some '.' ∧
      name ≠ "_build" ∧ name ≠ "deps" ∧ name ≠ "node_modules" := by
  simp [isSkippedFolder]

/-! ### What is found -/

namespace Tree

/-- The source files at and below a node, each as its names after `path`. -/
def sources (extensions path : List String) : Tree → List (List String)
  | file .. => []
  | folder entries => sourcesAmong extensions path entries

/-- The source files that an entry of a folder adds. -/
def sourcesOfEntry (extensions path : List String) (e : String × Tree) : List (List String) :=
  match e.2 with
  | file .. => if hasExtension extensions e.1 then [path ++ [e.1]] else []
  | folder _ => if isSkippedFolder e.1 then [] else e.2.sources extensions (path ++ [e.1])

/-- The search takes the entries of a folder one by one. -/
theorem sources_folder (extensions path : List String) (entries : List (String × Tree)) :
    (folder entries).sources extensions path =
      entries.flatMap (sourcesOfEntry extensions path) := by
  show sourcesAmong extensions path entries = _
  induction entries with
  | nil => rw [sourcesAmong, List.flatMap_nil]
  | cons e entries ih =>
      rw [List.flatMap_cons, ← ih]
      obtain ⟨name, t⟩ := e
      cases t with
      | file content modified =>
          simp only [sourcesAmong, sourcesOfEntry]
          split_ifs <;> rfl
      | folder inner => simp only [sourcesAmong, sourcesOfEntry, sources]

/-- A path leads to a source file: to a file whose name has one of the extensions, through folders
none of which is hidden or holds build output or dependencies. -/
def IsSource (extensions : List String) (t : Tree) (path : List String) : Prop :=
  ∃ folders name, path = folders ++ [name] ∧
    (∃ content modified, t.at? path = some (file content modified)) ∧
    (∃ ext ∈ extensions, Path.IsExtension ext name) ∧
    ∀ f ∈ folders, f.toList.head? ≠ some '.' ∧ f ≠ "_build" ∧ f ≠ "deps" ∧ f ≠ "node_modules"

theorem not_isSource_file (extensions : List String) (content : ByteArray) (modified : Int)
    (path : List String) : ¬ IsSource extensions (file content modified) path := by
  rintro ⟨folders, name, rfl, ⟨_, _, hat⟩, -⟩
  cases folders <;> cases hat

/-- A source file of a folder is an entry of it, or a source file of an entry that is not left
out. -/
theorem isSource_folder_iff {extensions : List String} {entries : List (String × Tree)}
    (h : (entries.map Prod.fst).Nodup) {path : List String} :
    IsSource extensions (folder entries) path ↔
      ∃ e ∈ entries,
        (∃ content modified, e.2 = file content modified ∧ path = [e.1] ∧
          hasExtension extensions e.1 = true) ∨
        ∃ rest, path = e.1 :: rest ∧ isSkippedFolder e.1 = false ∧
          IsSource extensions e.2 rest := by
  constructor
  · rintro ⟨folders, name, rfl, ⟨content, modified, hat⟩, hext, hfolders⟩
    cases folders with
    | nil =>
        obtain ⟨t, hchild, hfile⟩ := Option.bind_eq_some_iff.mp hat
        cases hfile
        refine ⟨_, (child?_eq_some_iff h).mp hchild, Or.inl ⟨content, modified, rfl, rfl, ?_⟩⟩
        exact hasExtension_iff.mpr hext
    | cons f folders =>
        obtain ⟨t, hchild, hinner⟩ := Option.bind_eq_some_iff.mp hat
        obtain ⟨hf, hfolders⟩ := List.forall_mem_cons.mp hfolders
        refine ⟨_, (child?_eq_some_iff h).mp hchild, Or.inr ⟨folders ++ [name], rfl, ?_, ?_⟩⟩
        · exact isSkippedFolder_eq_false_iff.mpr hf
        · exact ⟨folders, name, rfl, ⟨content, modified, hinner⟩, hext, hfolders⟩
  · rintro ⟨⟨name, t⟩, hmem, hentry⟩
    have hchild := (child?_eq_some_iff h).mpr hmem
    rcases hentry with ⟨content, modified, rfl, rfl, hext⟩ | ⟨rest, rfl, hskip, hrest⟩
    · refine ⟨[], name, rfl, ⟨content, modified, ?_⟩, hasExtension_iff.mp hext, by simp⟩
      rw [at?, hchild]
      rfl
    · obtain ⟨folders, last, rfl, ⟨content, modified, hat⟩, hext, hfolders⟩ := hrest
      refine ⟨name :: folders, last, rfl, ⟨content, modified, ?_⟩, hext, ?_⟩
      · rw [at?, hchild]
        exact hat
      · exact List.forall_mem_cons.mpr ⟨isSkippedFolder_eq_false_iff.mp hskip, hfolders⟩

/-- An entry gives the file that it is, or the source files of the folder that it is. -/
theorem mem_sourcesOfEntry_iff {extensions path file : List String} {e : String × Tree} :
    file ∈ sourcesOfEntry extensions path e ↔
      (∃ content modified, e.2 = Tree.file content modified ∧ file = path ++ [e.1] ∧
        hasExtension extensions e.1 = true) ∨
      isSkippedFolder e.1 = false ∧ file ∈ e.2.sources extensions (path ++ [e.1]) := by
  obtain ⟨name, t⟩ := e
  cases t with
  | file content modified => simp [sourcesOfEntry, sources, and_comm]
  | folder inner => simp [sourcesOfEntry]

/-- **The search finds the source files**, each under its path. -/
theorem mem_sources_iff {extensions : List String} {t : Tree} (h : t.DistinctNames)
    {path file : List String} :
    file ∈ t.sources extensions path ↔
      ∃ rest, file = path ++ rest ∧ IsSource extensions t rest := by
  induction h generalizing path with
  | file content modified => simp [sources, not_isSource_file]
  | @folder entries names inner ih =>
      rw [sources_folder, List.mem_flatMap]
      constructor
      · rintro ⟨e, he, hfile⟩
        rcases mem_sourcesOfEntry_iff.mp hfile with ⟨content, modified, htree, rfl, hext⟩ |
          ⟨hskip, hfile⟩
        · refine ⟨[e.1], rfl, (isSource_folder_iff names).mpr ⟨e, he, Or.inl ?_⟩⟩
          exact ⟨content, modified, htree, rfl, hext⟩
        · obtain ⟨rest, rfl, hrest⟩ := (ih e he).mp hfile
          refine ⟨e.1 :: rest, by simp, (isSource_folder_iff names).mpr ⟨e, he, Or.inr ?_⟩⟩
          exact ⟨rest, rfl, hskip, hrest⟩
      · rintro ⟨rest, rfl, hsource⟩
        obtain ⟨e, he, hentry⟩ := (isSource_folder_iff names).mp hsource
        refine ⟨e, he, mem_sourcesOfEntry_iff.mpr ?_⟩
        rcases hentry with ⟨content, modified, htree, rfl, hext⟩ | ⟨rest, rfl, hskip, hrest⟩
        · exact Or.inl ⟨content, modified, htree, rfl, hext⟩
        · exact Or.inr ⟨hskip, (ih e he).mpr ⟨rest, by simp, hrest⟩⟩

/-- The files of an entry have its name next in their paths. -/
theorem prefix_of_mem_sourcesOfEntry {extensions path file : List String} {e : String × Tree}
    (h : e.2.DistinctNames) (hfile : file ∈ sourcesOfEntry extensions path e) :
    path ++ [e.1] <+: file := by
  rcases mem_sourcesOfEntry_iff.mp hfile with ⟨-, -, -, rfl, -⟩ | ⟨-, hfile⟩
  · exact List.prefix_rfl
  · obtain ⟨rest, rfl, -⟩ := (mem_sources_iff h).mp hfile
    exact List.prefix_append _ rest

/-- No file is found twice. -/
theorem nodup_sources {extensions : List String} {t : Tree} (h : t.DistinctNames)
    (path : List String) : (t.sources extensions path).Nodup := by
  induction h generalizing path with
  | file content modified => exact List.nodup_nil
  | @folder entries names inner ih =>
      rw [sources_folder, List.nodup_flatMap]
      constructor
      · rintro ⟨name, t⟩ he
        cases t with
        | file content modified =>
            simp only [sourcesOfEntry]
            split_ifs <;> simp
        | folder entries =>
            simp only [sourcesOfEntry]
            split_ifs
            · exact List.nodup_nil
            · exact ih _ he _
      · -- entries have different names, so paths through them are different
        refine (List.pairwise_map.mp names).imp_of_mem ?_
        intro e e' he he' hne file hfile hfile'
        have hprefix := prefix_of_mem_sourcesOfEntry (inner e he) hfile
        have hprefix' := prefix_of_mem_sourcesOfEntry (inner e' he') hfile'
        have hsame := List.prefix_of_prefix_length_le hprefix hprefix' (by simp)
        have heq := hsame.eq_of_length (by simp)
        exact hne (by simpa using heq)

end Tree

/-! ### The sorted list -/

/-- The order that paths are sorted by is the lexicographic one. -/
theorem Path.lessEq_iff (a b : List String) : lessEq a b = true ↔ a ≤ b := by
  rw [← not_lt]
  induction a generalizing b with
  | nil => simp [lessEq]
  | cons s a ih =>
      cases b with
      | nil => simp [lessEq]
      | cons t b =>
          rw [lessEq, List.cons_lt_cons_iff, Bool.or_eq_true, Bool.and_eq_true, decide_eq_true_eq,
            beq_iff_eq, ih]
          rcases lt_trichotomy s t with h | rfl | h
          · simp only [h, h.ne', h.not_gt, true_or, false_and, or_self, not_false_eq_true]
          · simp only [lt_irrefl, false_or, true_and]
          · simp only [h, h.ne', h.not_gt, true_or, false_and, or_self, not_true_eq_false]

/-- Paths without repetitions are sorted into a strictly increasing list. -/
theorem Path.pairwise_mergeSort {files : List (List String)} (h : files.Nodup) :
    (files.mergeSort lessEq).Pairwise (· < ·) := by
  have hsorted := @List.pairwise_mergeSort _ lessEq
    (fun a b c => by simpa only [lessEq_iff] using le_trans)
    (fun a b => by simpa only [Bool.or_eq_true, lessEq_iff] using le_total a b) files
  refine hsorted.imp₂ ?_ (List.nodup_mergeSort.mpr h)
  intro a b hle hne
  apply lt_of_le_of_ne _ hne
  exact (lessEq_iff a b).mp hle

namespace Tree

/-- Reordered trees have the same source files. -/
theorem Reordered.isSource_iff {extensions : List String} {t u : Tree} (ht : t.DistinctNames)
    (h : Reordered t u) {path : List String} :
    u.IsSource extensions path ↔ t.IsSource extensions path := by
  have hfile : (∃ content modified, u.at? path = some (Tree.file content modified)) ↔
      ∃ content modified, t.at? path = some (Tree.file content modified) := by
    have hrel := h.at? ht path
    generalize t.at? path = found at hrel
    generalize u.at? path = found' at hrel
    cases hrel with
    | none => rfl
    | some hnode =>
        cases hnode with
        | file content modified => rfl
        | folder names inner => simp
  simp only [IsSource, hfile]

/-- The sorted list of source files does not depend on the order of entries. -/
theorem Reordered.mergeSort_sources {t u : Tree} (ht : t.DistinctNames) (h : Reordered t u)
    (extensions : List String) :
    (u.sources extensions []).mergeSort Path.lessEq =
      (t.sources extensions []).mergeSort Path.lessEq := by
  have hnodup : (t.sources extensions []).Nodup := nodup_sources ht []
  have hnodup' : (u.sources extensions []).Nodup := nodup_sources (h.distinctNames ht) []
  have hperm : (u.sources extensions []).Perm (t.sources extensions []) := by
    rw [List.perm_ext_iff_of_nodup hnodup' hnodup]
    intro file
    rw [mem_sources_iff (h.distinctNames ht), mem_sources_iff ht]
    simp only [h.isSource_iff ht]
  -- strictly increasing lists with the same members are equal
  refine List.Perm.eq_of_pairwise (fun a b _ _ hab hba => absurd hba (lt_asymm hab))
    (Path.pairwise_mergeSort hnodup') (Path.pairwise_mergeSort hnodup) ?_
  exact (List.mergeSort_perm _ _).trans (hperm.trans (List.mergeSort_perm _ _).symm)

end Tree

/-! ### Projects of a file system -/

namespace FileSystem

variable {fs fs' : FileSystem}

/-- Paths are followed in the same way, whatever the order of entries is. -/
theorem walk_of_reordered (hfs : fs.root.DistinctNames) (h : fs.root.Reordered fs'.root)
    (here segments : List String) : fs'.walk here segments = fs.walk here segments := by
  induction segments generalizing here with
  | nil => rfl
  | cons s segments ih =>
      rw [walk.eq_2, walk.eq_2]
      have hrel := h.at? hfs here
      generalize fs.root.at? here = found at hrel
      generalize fs'.root.at? here = found' at hrel
      cases hrel with
      | none => rfl
      | some hnode =>
          cases hnode with
          | file content modified => rfl
          | @folder entries entries' names inner =>
              have hany : (entries'.any fun e => e.1 == s) = entries.any fun e => e.1 == s := by
                have hmem := names.mem_iff (a := s)
                rw [List.mem_map, List.mem_map] at hmem
                rw [Bool.eq_iff_iff, List.any_eq_true, List.any_eq_true]
                simpa using hmem.symm
              simp only [hany, ih]

/-- A path leads to reordered trees, or in neither file system to anything. -/
theorem node?_of_reordered (hfs : fs.root.DistinctNames) (hcurrent : fs'.current = fs.current)
    (h : fs.root.Reordered fs'.root) (path : String) :
    Option.Rel Tree.Reordered (fs.node? path) (fs'.node? path) := by
  have hstart : fs'.start path = fs.start path := by
    unfold start
    rw [hcurrent]
  unfold node? node
  rw [hstart, walk_of_reordered hfs h]
  split_ifs
  · exact .none
  · cases fs.walk (fs.start path) (Path.segments path) with
    | error e => exact .none
    | ok names =>
        have hrel := h.at? hfs names
        dsimp only
        generalize fs.root.at? names = found at hrel
        generalize fs'.root.at? names = found' at hrel
        cases hrel with
        | none => exact .none
        | some hnode => exact .some hnode

/-- What a path leads to is a part of the tree. -/
theorem exists_at?_of_node? {path : String} {t : Tree} (h : fs.node? path = some t) :
    ∃ names, fs.root.at? names = some t := by
  have h := node_of_node? h
  unfold node at h
  split_ifs at h
  cases hwalk : fs.walk (fs.start path) (Path.segments path) with
  | error e =>
      rw [hwalk] at h
      cases h
  | ok names =>
      refine ⟨names, ?_⟩
      rw [hwalk] at h
      dsimp only at h
      cases hat : fs.root.at? names with
      | none =>
          rw [hat] at h
          cases h
      | some found =>
          rw [hat] at h
          cases h
          rfl

/-- For a folder that is found, the search gives its source files in order. -/
theorem sourceFiles_of_node? {project : String} {entries : List (String × Tree)}
    (h : fs.node? project = some (.folder entries)) (extensions : List String) :
    fs.sourceFiles project extensions =
      .ok (((Tree.folder entries).sources extensions []).mergeSort Path.lessEq) := by
  rw [sourceFiles, h]
  rfl

/-- **The source files of a project.** Let no folder have two entries of one name. A path that does
not lead to a folder is refused, and no other one. For a folder the list of its source files is
returned: strictly increasing, name by name, with exactly the paths below the folder that lead to a
file with one of the extensions and through no folder that is left out. The same list is returned
for a folder of any name with the same content in another order, and a file system with its entries
in another order gives the same answer for every path. -/
theorem sourceFiles_discovers {fs : FileSystem} (hfs : fs.root.DistinctNames) (project : String)
    (extensions : List String) :
    (fs.sourceFiles project extensions = .error (.notAProject project) ↔
      fs.isFolder project = false) ∧
    (∀ entries, fs.node? project = some (.folder entries) →
      ∃ files, fs.sourceFiles project extensions = .ok files ∧
        files.Pairwise (· < ·) ∧
        (∀ file, file ∈ files ↔ (Tree.folder entries).IsSource extensions file) ∧
        ∀ (fs' : FileSystem) (project' : String) (t : Tree), fs'.node? project' = some t →
          (Tree.folder entries).Reordered t → fs'.sourceFiles project' extensions = .ok files) ∧
    ∀ fs' : FileSystem, fs'.current = fs.current → fs.root.Reordered fs'.root →
      fs'.sourceFiles project extensions = fs.sourceFiles project extensions := by
  refine ⟨?_, ?_, ?_⟩
  · unfold sourceFiles isFolder
    cases fs.node? project with
    | none => simp
    | some t =>
        cases t with
        | file content modified => simp [Tree.isFolder]
        | folder entries => simp [Tree.isFolder]
  · intro entries hnode
    obtain ⟨names, hat⟩ := exists_at?_of_node? hnode
    have hdistinct := hfs.at? hat
    refine ⟨_, sourceFiles_of_node? hnode extensions, ?_, ?_, ?_⟩
    · exact Path.pairwise_mergeSort (Tree.nodup_sources hdistinct [])
    · intro file
      rw [List.mem_mergeSort, Tree.mem_sources_iff hdistinct]
      simp
    · intro fs' project' t hnode' hreordered
      have hsorted := hreordered.mergeSort_sources hdistinct extensions
      cases hreordered with
      | folder names inner => rw [sourceFiles_of_node? hnode', hsorted]
  · intro fs' hcurrent hreordered
    have hrel := node?_of_reordered hfs hcurrent hreordered project
    unfold sourceFiles
    generalize hnode : fs.node? project = found at hrel
    generalize fs'.node? project = found' at hrel
    cases hrel with
    | none => rfl
    | some hinner =>
        obtain ⟨names, hat⟩ := exists_at?_of_node? hnode
        have hsorted := hinner.mergeSort_sources (hfs.at? hat) extensions
        cases hinner with
        | file content modified => rfl
        | folder names inner => exact congrArg Except.ok hsorted

/-- A project whose own name is that of a folder that is left out, with such a folder in it and a
file that is all extension. With its entries the other way round and under another name, it has the
same source files. -/
theorem sourceFiles_discovers_skipped :
    let empty : Tree := .file ByteArray.empty 0
    let lib : Tree := .folder [("_build", .folder [("x.ex", empty)]), ("a.exs", empty)]
    let fs : FileSystem := ⟨.folder [("deps", .folder [("lib", lib), (".ex", empty)])], []⟩
    let fs' : FileSystem := ⟨.folder [(".deps", .folder [(".ex", empty), ("lib", lib)])], []⟩
    fs.root.DistinctNames ∧
      ∃ files, fs.sourceFiles "deps" ["ex", "exs"] = .ok files ∧ files.Pairwise (· < ·) ∧
        ["lib", "a.exs"] ∈ files ∧ ["lib", "_build", "x.ex"] ∉ files ∧ [".ex"] ∉ files ∧
        fs'.sourceFiles "/.deps" ["ex", "exs"] = .ok files := by
  intro empty lib fs fs'
  have hlib : lib.DistinctNames := by
    refine .folder (by decide) ?_
    simp only [List.mem_cons, List.not_mem_nil, or_false, forall_eq_or_imp, forall_eq]
    refine ⟨.folder (by decide) ?_, .file _ _⟩
    rw [List.forall_mem_singleton]
    exact .file _ _
  have hproject : (Tree.folder [("lib", lib), (".ex", empty)]).DistinctNames := by
    refine .folder (by decide) ?_
    simp only [List.mem_cons, List.not_mem_nil, or_false, forall_eq_or_imp, forall_eq]
    exact ⟨hlib, .file _ _⟩
  have hfs : fs.root.DistinctNames := by
    refine .folder (by decide) ?_
    rw [List.forall_mem_singleton]
    exact hproject
  obtain ⟨-, hfolder, -⟩ := sourceFiles_discovers hfs "deps" ["ex", "exs"]
  obtain ⟨files, hfiles, hsorted, hmem, hsame⟩ := hfolder _ rfl
  refine ⟨hfs, files, hfiles, hsorted, ?_, ?_, ?_, ?_⟩
  · rw [hmem]
    refine ⟨["lib"], "a.exs", rfl, ⟨_, _, rfl⟩, ⟨"exs", by simp, ?_⟩, by decide⟩
    exact ⟨by decide, "a", by decide, by decide, by decide⟩
  · rw [hmem]
    rintro ⟨folders, name, hpath, -, -, hfolders⟩
    have hfront : folders = ["lib", "_build"] := by
      rw [← @List.dropLast_concat _ folders name, ← hpath]
      rfl
    exact (hfolders "_build" (by simp [hfront])).2.1 rfl
  · rw [hmem]
    rintro ⟨folders, name, hpath, -, ⟨ext, -, hext⟩, -⟩
    have hname : name = ".ex" := by
      have hlast := congrArg List.getLast? hpath
      rw [List.getLast?_append_cons] at hlast
      exact (Option.some.inj hlast).symm
    have hnone : Path.extension? ".ex" = none := by decide +kernel
    rw [hname, ← Path.extension?_eq_some_iff, hnone] at hext
    cases hext
  · exact hsame fs' "/.deps" _ rfl (.of_perm hproject (List.Perm.swap _ _ []))

end FileSystem

end DslOutline
