import DslOutline.Proofs.Outline.SectionStart
import DslOutline.Schema.Basic

/-!
# What compiling a schema guarantees

Compiling stops at the first defect, so a schema that was compiled has passed every check: the
result of each part is known from its definition (`exists_of_bind_eq_ok`,
`exists_of_mem_mapM_eq_ok`). Here it is followed for the keywords of entries: they are trimmed and
not empty (`Schema.isTrimmed_of_compile`), in every registry that is made from definitions
(`Registry.compiled_ofDefinitions`).
-/

namespace DslOutline

open Text

/-! ### Steps that can be refused -/

/-- If two steps in a row succeed, both of them do. -/
theorem exists_of_bind_eq_ok {ε α β : Type} {x : Except ε α} {f : α → Except ε β} {b : β}
    (h : x >>= f = .ok b) : ∃ a, x = .ok a ∧ f a = .ok b := by
  cases x with
  | error e => cases h
  | ok a => exact ⟨a, rfl, h⟩

/-- Each result of a successful map comes from an item of the list. -/
theorem exists_of_mem_mapM_eq_ok {ε α β : Type} {f : α → Except ε β} {l : List α} {ys : List β}
    (h : l.mapM f = .ok ys) {y : β} (hy : y ∈ ys) : ∃ x ∈ l, f x = .ok y := by
  induction l generalizing ys with
  | nil =>
      cases h
      cases hy
  | cons x l ih =>
      rw [List.mapM_cons] at h
      obtain ⟨z, hz, h⟩ := exists_of_bind_eq_ok h
      obtain ⟨zs, hzs, h⟩ := exists_of_bind_eq_ok h
      cases h
      rcases List.mem_cons.mp hy with rfl | hy
      · exact ⟨x, List.mem_cons_self, hz⟩
      · obtain ⟨w, hw, hfw⟩ := ih hzs hy
        exact ⟨w, List.mem_cons_of_mem x hw, hfw⟩

/-! ### Keywords -/

/-- A keyword that is not empty and does not end with white space. -/
def ChildPattern.IsTrimmed (p : ChildPattern) : Prop :=
  ∃ k c, p.keyword.toList = k ++ [c] ∧ isBlank c = false

/-- A keyword without white space around it has a first letter. -/
theorem ChildPattern.IsTrimmed.keyword_ne_nil {p : ChildPattern} (h : p.IsTrimmed) :
    p.keyword.toList ≠ [] := by
  obtain ⟨k, c, hk, -⟩ := h
  simp [hk]

/-- A text that is not blank is not blank when trimmed, and then ends with what is not white
space. -/
theorem exists_trim_eq_append {cs : List Char} (h : cs.all isBlank = false) :
    ∃ k c, trim cs = k ++ [c] ∧ isBlank c = false := by
  rcases (trim cs).eq_nil_or_concat with hnil | ⟨k, c, hk⟩
  · obtain ⟨t, hcs, ht⟩ := exists_eq_append_trim cs
    have hall : cs.all isBlank = true := by
      rw [List.all_eq_true]
      intro c hc
      rw [hcs, hnil, List.nil_append, List.mem_append] at hc
      rcases hc with hc | hc
      · exact List.mem_takeWhile_imp hc
      · exact ht c hc
    rw [h] at hall
    cases hall
  · rw [List.concat_eq_append] at hk
    have hlast : (trim cs).getLast? = some c := by simp [hk]
    exact ⟨k, c, hk, isBlank_of_getLast?_trim hlast⟩

/-- A keyword is trimmed when it is compiled, and refused when nothing is left of it. -/
theorem ChildPattern.isTrimmed_of_compile {schema sectionName : String} {d : ChildDef}
    {p : ChildPattern} (h : ChildPattern.compile schema sectionName d = .ok p) : p.IsTrimmed := by
  unfold ChildPattern.compile at h
  split_ifs at h with hblank
  obtain ⟨name, -, h⟩ := exists_of_bind_eq_ok h
  obtain ⟨detail, -, h⟩ := exists_of_bind_eq_ok h
  obtain ⟨reference, -, h⟩ := exists_of_bind_eq_ok h
  cases h
  obtain ⟨k, c, hk, hc⟩ := exists_trim_eq_append (Bool.eq_false_iff.mpr hblank)
  exact ⟨k, c, by rw [← hk]; exact String.toList_ofList, hc⟩

/-- The keywords of a compiled schema are trimmed. -/
theorem Schema.isTrimmed_of_compile {d : SchemaDef} {schema : Schema}
    (h : Schema.compile d = .ok schema) :
    ∀ sec ∈ schema.sections, ∀ p ∈ sec.children, p.IsTrimmed := by
  unfold Schema.compile at h
  split_ifs at h
  obtain ⟨sections, hsections, h⟩ := exists_of_bind_eq_ok h
  cases h
  intro sec hsec p hp
  obtain ⟨secDef, -, hsec⟩ := exists_of_mem_mapM_eq_ok hsections hsec
  obtain ⟨children, hchildren, hsec⟩ := exists_of_bind_eq_ok hsec
  cases hsec
  obtain ⟨childDef, -, hchild⟩ := exists_of_mem_mapM_eq_ok hchildren hp
  exact ChildPattern.isTrimmed_of_compile hchild

/-! ### Registries -/

namespace Registry

/-- Every schema of the registry was compiled from a definition. -/
def Compiled (r : Registry) : Prop :=
  ∀ schema ∈ r.schemas, ∃ d, Schema.compile d = .ok schema

/-- Adding a compiled schema leaves a registry of compiled schemas. -/
theorem Compiled.insert {r r' : Registry} (hr : r.Compiled) {d : SchemaDef} {schema : Schema}
    (hschema : Schema.compile d = .ok schema) (h : r.insert schema = .ok r') : r'.Compiled := by
  unfold Registry.insert at h
  split_ifs at h
  cases h
  intro s hs
  rcases List.mem_append.mp hs with hs | hs
  · exact hr s hs
  · rw [List.mem_singleton.mp hs]
    exact ⟨d, hschema⟩

/-- Adding the schemas of definitions leaves a registry of compiled schemas. -/
theorem Compiled.insertDefinitions {r r' : Registry} (hr : r.Compiled) {ds : List SchemaDef}
    (h : r.insertDefinitions ds = .ok r') : r'.Compiled := by
  induction ds generalizing r with
  | nil =>
      cases h
      exact hr
  | cons d ds ih =>
      obtain ⟨schema, hschema, h⟩ := exists_of_bind_eq_ok h
      obtain ⟨next, hnext, h⟩ := exists_of_bind_eq_ok h
      exact ih (hr.insert hschema hnext) h

/-- The registry of definitions holds compiled schemas. -/
theorem compiled_ofDefinitions {ds : List SchemaDef} {r : Registry} (h : ofDefinitions ds = .ok r) :
    r.Compiled := by
  have hempty : empty.Compiled := by
    intro schema hschema
    cases hschema
  exact hempty.insertDefinitions h

end Registry

end DslOutline
