import DslOutline.Files.Source
import Mathlib.Data.List.Basic

/-!
# Source files and what is read from them

A source file is known by its path below the project. The written form of that path says where the
file is (`Path.below_eq`), because a project that can be listed has a name and each of its source
files has a path (`FileSystem.of_sourceFiles`). If the text of a source file can be read, it is the
content of the file (`FileSystem.exists_content_of_readSource`).
-/

namespace DslOutline

/-- Below a folder, the written form of a relative path leads to the file. -/
theorem Path.below_eq {folder : String} (hfolder : folder ≠ "") {file : List String}
    (hfile : file ≠ []) : below folder file = folder ++ "/" ++ render file := by
  induction file generalizing folder with
  | nil => exact absurd rfl hfile
  | cons part rest ih =>
      have hpart : below folder (part :: rest) = below (folder ++ "/" ++ part) rest := by
        unfold below
        rw [List.foldl_cons, if_neg (by simpa using hfolder)]
      rw [hpart]
      by_cases hrest : rest = []
      · simp [hrest, below, render]
      · rw [ih (by simp) hrest, render, render, String.intercalate_cons_of_ne_nil hrest]
        simp only [String.append_assoc]

/-- A source file inside a folder has a name. -/
theorem ne_nil_of_mem_sourcesAmong {extensions path file : List String}
    {entries : List (String × Tree)} (h : file ∈ sourcesAmong extensions path entries) :
    file ≠ [] := by
  fun_induction sourcesAmong extensions path entries with
  | case1 => cases h
  | case2 path name content modified rest others hext ih =>
      rcases List.mem_cons.mp h with rfl | h
      · simp
      · exact ih h
  | case3 path name content modified rest others hext ih => exact ih h
  | case4 path name entries rest inner ih₁ ih₂ =>
      rcases List.mem_append.mp h with h | h
      · dsimp only [inner] at h
        split_ifs at h
        · cases h
        · exact ih₁ h
      · exact ih₂ h

namespace FileSystem

/-- A project has a name, and each of its source files has a path. -/
theorem of_sourceFiles {fs : FileSystem} {project : String} {extensions : List String}
    {files : List (List String)} (h : fs.sourceFiles project extensions = .ok files) :
    project ≠ "" ∧ ∀ file ∈ files, file ≠ [] := by
  unfold sourceFiles at h
  split at h
  · rename_i entries hnode
    cases h
    refine ⟨?_, ?_⟩
    · rintro rfl
      cases hnode
    · intro file hfile
      exact ne_nil_of_mem_sourcesAmong (List.mem_mergeSort.mp hfile)
  · cases h

/-- The content of the file that a path leads to. -/
def content? (fs : FileSystem) (path : String) : Option ByteArray :=
  match fs.node? path with
  | some (.file content _) => some content
  | _ => none

/-- What is found at a path is what a look at the path gives. -/
theorem node_of_node? {fs : FileSystem} {path : String} {t : Tree} (h : fs.node? path = some t) :
    fs.node path = .ok t := by
  unfold node? at h
  cases hnode : fs.node path with
  | error e =>
      rw [hnode] at h
      cases h
  | ok found =>
      rw [hnode] at h
      cases h
      rfl

/-- The text of a source file is its content. -/
theorem exists_content_of_readSource {fs : FileSystem} {project : String} {file : List String}
    {limit : Nat} {text : String} (h : fs.readSource project file limit = .ok text) :
    ∃ content, fs.content? (Path.below project file) = some content ∧
      String.fromUTF8? content = some text := by
  unfold readSource at h
  dsimp only at h
  cases hnode : fs.node? (Path.below project file) with
  | none => simp [hnode] at h
  | some t =>
      simp only [hnode, readText, node_of_node? hnode] at h
      split_ifs at h
      cases t with
      | folder entries => cases h
      | file content modified =>
          refine ⟨content, by simp [content?, hnode], ?_⟩
          dsimp only at h
          cases htext : String.fromUTF8? content with
          | none => simp [htext] at h
          | some found =>
              simp only [htext, Except.ok.injEq] at h
              rw [h]

end FileSystem

end DslOutline
