import DslOutline.Proofs.Schema.Compiled
import DslOutline.Schema.Load
import Mathlib.Data.List.Nodup

/-!
# A registry knows its schemas by their patterns

A registry grows by insertions and by merging other registries, and each of these calls may fail. A
merge is not undone when it fails: what was inserted before the clash stays. So the invariants have
to hold after any mix of calls, and the state after a failure has to be known exactly.

Everything comes from what one insertion does (`insert_of_mem`, `insert_of_not_mem`): schemas with
new patterns are appended (`insertAll_append`), and the first one whose pattern is held stops a
merge. `Reaches` is a run of calls, in which the registries that are merged are themselves the
results of runs. `call_of_reaches` says what holds after every run and what each further call does;
the registry that a configuration asks for is such a result (`reaches_ofConfig`).
-/

namespace DslOutline.Registry

/-! ### Insertions -/

/-- A schema is found under the declaration patterns that are held, and under no other. -/
theorem isSome_get? {r : Registry} {pattern : String} :
    (r.get? pattern).isSome ↔ pattern ∈ r.patterns := by
  simp [get?, patterns, List.find?_isSome]

/-- A pattern that is held already is refused. -/
theorem insert_of_mem {r : Registry} {s : Schema} (h : s.declarationPattern ∈ r.patterns) :
    r.insert s = .error (.duplicatePattern s.declarationPattern) := by
  unfold insert
  rw [if_pos (isSome_get?.mpr h)]

/-- A schema with a new pattern is put behind the others. -/
theorem insert_of_not_mem {r : Registry} {s : Schema} (h : s.declarationPattern ∉ r.patterns) :
    r.insert s = .ok ⟨r.schemas ++ [s]⟩ := by
  unfold insert
  rw [if_neg (mt isSome_get?.mp h)]

/-- Adding schemas stops at one whose pattern is held, and goes on after any other. -/
theorem insertAll_cons (r : Registry) (s : Schema) (ss : List Schema) :
    r.insertAll (s :: ss) =
      if s.declarationPattern ∈ r.patterns then (r, some (.duplicatePattern s.declarationPattern))
      else insertAll ⟨r.schemas ++ [s]⟩ ss := by
  rw [insertAll]
  split_ifs with h
  · simp only [insert_of_mem h]
  · simp only [insert_of_not_mem h]

theorem patterns_append (schemas more : List Schema) :
    patterns ⟨schemas ++ more⟩ = patterns ⟨schemas⟩ ++ more.map Schema.declarationPattern :=
  List.map_append

/-- Schemas whose patterns are new, and distinct from each other, are all added. -/
theorem insertAll_append {r : Registry} {new : List Schema}
    (hnew : ∀ s ∈ new, s.declarationPattern ∉ r.patterns)
    (hdistinct : (new.map Schema.declarationPattern).Nodup) (rest : List Schema) :
    r.insertAll (new ++ rest) = insertAll ⟨r.schemas ++ new⟩ rest := by
  induction new generalizing r with
  | nil => simp
  | cons s new ih =>
      obtain ⟨hs, hnew⟩ := List.forall_mem_cons.mp hnew
      rw [List.map_cons, List.nodup_cons] at hdistinct
      have hstill : ∀ t ∈ new, t.declarationPattern ∉ patterns ⟨r.schemas ++ [s]⟩ := by
        intro t ht hmem
        rw [patterns_append, List.map_singleton, List.mem_append, List.mem_singleton] at hmem
        rcases hmem with hmem | heq
        · exact hnew t ht hmem
        · exact hdistinct.1 (heq ▸ List.mem_map_of_mem ht)
      rw [List.cons_append, insertAll_cons, if_neg hs, ih hstill hdistinct.2, List.append_assoc,
        List.singleton_append]

/-- Whatever is added comes after what was there. -/
theorem prefix_insertAll (r : Registry) (ss : List Schema) :
    r.schemas <+: (r.insertAll ss).1.schemas := by
  induction ss generalizing r with
  | nil => exact List.prefix_rfl
  | cons s ss ih =>
      rw [insertAll_cons]
      split_ifs
      · exact List.prefix_rfl
      · exact (List.prefix_append r.schemas [s]).trans (ih ⟨r.schemas ++ [s]⟩)

/-- Adding schemas one after the other keeps the patterns distinct, also when it stops early. -/
theorem nodup_patterns_insertAll {r : Registry} (hr : r.patterns.Nodup) (ss : List Schema) :
    (r.insertAll ss).1.patterns.Nodup := by
  induction ss generalizing r with
  | nil => exact hr
  | cons s ss ih =>
      rw [insertAll_cons]
      split_ifs with h
      · exact hr
      · apply ih
        rw [patterns_append, List.map_singleton, ← List.concat_eq_append]
        exact hr.concat h

/-- A schema is found as long as those in front of it stay. -/
theorem get?_of_prefix {r r' : Registry} (h : r.schemas <+: r'.schemas) {pattern : String}
    (hpattern : pattern ∈ r.patterns) : r'.get? pattern = r.get? pattern := by
  obtain ⟨s, hs⟩ := Option.isSome_iff_exists.mp (isSome_get?.mpr hpattern)
  rw [hs]
  exact h.find?_eq_some hs

/-! ### Merging -/

/-- If no pattern clashes, a merge adds everything. -/
theorem merge_of_new {r other : Registry} (hother : other.patterns.Nodup)
    (hnew : ∀ s ∈ other.schemas, s.declarationPattern ∉ r.patterns) :
    r.merge other = (⟨r.schemas ++ other.schemas⟩, none) := by
  have hall := insertAll_append hnew hother []
  rw [List.append_nil] at hall
  exact hall

/-- A merge stops at the first schema whose pattern is held; those in front of it stay. -/
theorem merge_of_clash {r other : Registry} (hother : other.patterns.Nodup) {s : Schema}
    {before after : List Schema} (hsplit : other.schemas = before ++ s :: after)
    (hbefore : ∀ t ∈ before, t.declarationPattern ∉ r.patterns)
    (hs : s.declarationPattern ∈ r.patterns) :
    r.merge other = (⟨r.schemas ++ before⟩, some (.duplicatePattern s.declarationPattern)) := by
  have hdistinct : (before.map Schema.declarationPattern).Nodup := by
    have hall := hother
    rw [patterns, hsplit, List.map_append] at hall
    exact hall.of_append_left
  have hheld : s.declarationPattern ∈ patterns ⟨r.schemas ++ before⟩ := by
    rw [patterns_append]
    exact List.mem_append_left _ hs
  rw [merge, hsplit, insertAll_append hbefore hdistinct, insertAll_cons, if_pos hheld]

/-- Where something clashes, there is a first one that does. -/
theorem exists_first_clash {r : Registry} {ss : List Schema}
    (h : ∃ s ∈ ss, s.declarationPattern ∈ r.patterns) :
    ∃ before s after, ss = before ++ s :: after ∧
      (∀ t ∈ before, t.declarationPattern ∉ r.patterns) ∧ s.declarationPattern ∈ r.patterns := by
  obtain ⟨s, hs⟩ : ∃ s, (ss.find? fun s => s.declarationPattern ∈ r.patterns) = some s := by
    rw [← Option.isSome_iff_exists, List.find?_isSome]
    simpa using h
  obtain ⟨hheld, before, after, hsplit, hbefore⟩ := List.find?_eq_some_iff_append.mp hs
  exact ⟨before, s, after, hsplit, by simpa using hbefore, by simpa using hheld⟩

/-! ### Runs -/

/-- A call that may change a registry. -/
inductive Call where
  /-- A schema is inserted. -/
  | insert (s : Schema)
  /-- The schemas of another registry are added. -/
  | merge (other : Registry)

/-- The registry after a call, and the error if the call failed. -/
def call (r : Registry) : Call → Registry × Option SchemaError
  | .insert s =>
    match r.insert s with
    | .ok r' => (r', none)
    | .error e => (r, some e)
  | .merge other => r.merge other

/-- Some calls, of which any may fail, lead from one registry to another. A registry that is merged
has itself come about in this way, from nothing. -/
inductive Reaches : Registry → Registry → Prop where
  | refl (r : Registry) : Reaches r r
  | insert {r r' : Registry} (s : Schema) : Reaches r r' → Reaches r (r'.call (.insert s)).1
  | merge {r r' other : Registry} :
      Reaches r r' → Reaches empty other → Reaches r (r'.call (.merge other)).1

/-- An insertion fails if the pattern is held, and then changes nothing. -/
theorem call_insert (r : Registry) (s : Schema) :
    r.call (.insert s) =
      if s.declarationPattern ∈ r.patterns then (r, some (.duplicatePattern s.declarationPattern))
      else (⟨r.schemas ++ [s]⟩, none) := by
  split_ifs with h
  · simp only [call, insert_of_mem h]
  · simp only [call, insert_of_not_mem h]

theorem call_insert_eq_insertAll (r : Registry) (s : Schema) :
    r.call (.insert s) = r.insertAll [s] := by
  rw [call_insert, insertAll_cons]
  rfl

/-- A registry only grows at its end. -/
theorem Reaches.isPrefix {r r' : Registry} (h : Reaches r r') : r.schemas <+: r'.schemas := by
  induction h with
  | refl r => exact List.prefix_rfl
  | insert s _ ih =>
      rw [call_insert_eq_insertAll]
      exact ih.trans (prefix_insertAll _ [s])
  | merge _ _ ih => exact ih.trans (prefix_insertAll _ _)

/-- Distinct patterns stay distinct. -/
theorem Reaches.nodup_patterns {r r' : Registry} (h : Reaches r r') (hr : r.patterns.Nodup) :
    r'.patterns.Nodup := by
  induction h with
  | refl r => exact hr
  | insert s _ ih =>
      rw [call_insert_eq_insertAll]
      exact nodup_patterns_insertAll (ih hr) [s]
  | merge _ _ ih => exact nodup_patterns_insertAll (ih hr) _

/-- A registry that was built from the empty one has distinct patterns. -/
theorem nodup_patterns_of_reaches {r : Registry} (h : Reaches empty r) : r.patterns.Nodup :=
  h.nodup_patterns List.nodup_nil

/-- **Patterns identify the schemas of a registry, in every run of calls.** They are distinct; what
was held stays in front, so that a pattern keeps its schema; an insertion fails exactly if the
pattern is held, and then changes nothing; a merge fails exactly if it brings a pattern that is
held, and then it has added the schemas in front of the first such one, whose pattern the error
names. -/
theorem call_of_reaches {r r' : Registry} (hr : Reaches empty r) (hr' : Reaches r r') :
    r.patterns.Nodup ∧ r.schemas <+: r'.schemas ∧
    (∀ pattern ∈ r.patterns, r'.get? pattern = r.get? pattern) ∧
    (∀ s, r.call (.insert s) =
      if s.declarationPattern ∈ r.patterns then (r, some (.duplicatePattern s.declarationPattern))
      else (⟨r.schemas ++ [s]⟩, none)) ∧
    ∀ other, Reaches empty other →
      ((r.call (.merge other)).2 ≠ none ↔
        ∃ s ∈ other.schemas, s.declarationPattern ∈ r.patterns) ∧
      ((r.call (.merge other)).2 = none →
        r.call (.merge other) = (⟨r.schemas ++ other.schemas⟩, none)) ∧
      ((r.call (.merge other)).2 ≠ none →
        ∃ before s after, other.schemas = before ++ s :: after ∧
          (∀ t ∈ before, t.declarationPattern ∉ r.patterns) ∧
          s.declarationPattern ∈ r.patterns ∧
          r.call (.merge other) =
            (⟨r.schemas ++ before⟩, some (.duplicatePattern s.declarationPattern))) := by
  refine ⟨nodup_patterns_of_reaches hr, hr'.isPrefix, fun pattern => get?_of_prefix hr'.isPrefix,
    call_insert r, ?_⟩
  intro other hother
  have hdistinct := nodup_patterns_of_reaches hother
  by_cases hclash : ∃ s ∈ other.schemas, s.declarationPattern ∈ r.patterns
  · obtain ⟨before, s, after, hsplit, hbefore, hs⟩ := exists_first_clash hclash
    have hmerge : r.call (.merge other) =
        (⟨r.schemas ++ before⟩, some (.duplicatePattern s.declarationPattern)) :=
      merge_of_clash hdistinct hsplit hbefore hs
    have hfails : (r.call (.merge other)).2 ≠ none := by simp [hmerge]
    exact ⟨iff_of_true hfails hclash, fun h => absurd h hfails,
      fun _ => ⟨before, s, after, hsplit, hbefore, hs, hmerge⟩⟩
  · have hmerge : r.call (.merge other) = (⟨r.schemas ++ other.schemas⟩, none) := by
      apply merge_of_new hdistinct
      intro s hs hheld
      exact hclash ⟨s, hs, hheld⟩
    have hworks : (r.call (.merge other)).2 = none := by rw [hmerge]
    exact ⟨iff_of_false (absurd hworks) hclash, fun _ => hmerge, fun h => absurd hworks h⟩

/-- A registry with two schemas merges one whose second schema clashes with its first: the schema in
front of the clash is added, the one behind it is not, and the look-ups stay. -/
theorem call_of_reaches_clash :
    let schema (name pattern : String) : Schema := ⟨name, pattern, []⟩
    let r : Registry := ⟨[schema "A" "Ash", schema "B" "Bel"]⟩
    let other : Registry := ⟨[schema "C" "Cyd", schema "D" "Ash", schema "E" "Eli"]⟩
    let merged : Registry := ⟨[schema "A" "Ash", schema "B" "Bel", schema "C" "Cyd"]⟩
    Reaches empty r ∧ Reaches empty other ∧ Reaches r merged ∧
      (r.call (.merge other)).2 ≠ none ∧
      r.call (.merge other) = (merged, some (.duplicatePattern "Ash")) ∧
      merged.get? "Ash" = r.get? "Ash" := by
  intro schema r other merged
  have hr : Reaches empty r :=
    .insert (schema "B" "Bel") (.insert (schema "A" "Ash") (.refl empty))
  have hother : Reaches empty other :=
    .insert (schema "E" "Eli") (.insert (schema "D" "Ash")
      (.insert (schema "C" "Cyd") (.refl empty)))
  have hmerged : Reaches r merged := .merge (.refl r) hother
  obtain ⟨-, -, hget, -, hmerge⟩ := call_of_reaches hr hmerged
  have hfails : (r.call (.merge other)).2 ≠ none :=
    (hmerge other hother).1.mpr ⟨schema "D" "Ash", by decide, by decide⟩
  exact ⟨hr, hother, hmerged, hfails, by decide, hget "Ash" (by decide)⟩

/-! ### Loaded registries -/

/-- Adding a schema leads on from a registry that was reached. -/
theorem Reaches.of_insert {r₀ r r' : Registry} (h : Reaches r₀ r) {s : Schema}
    (hinsert : r.insert s = .ok r') : Reaches r₀ r' := by
  have hcall := h.insert s
  simp only [call, hinsert] at hcall
  exact hcall

/-- Adding all schemas of a registry leads on, if that registry was built from the empty one. -/
theorem Reaches.of_merged {r₀ r r' other : Registry} (h : Reaches r₀ r)
    (hother : Reaches empty other) (hmerged : r.merged other = .ok r') : Reaches r₀ r' := by
  have hcall := h.merge hother
  unfold merged at hmerged
  split at hmerged
  · rename_i heq
    cases hmerged
    simpa only [call, heq] using hcall
  · cases hmerged

/-- Adding the schemas of definitions leads on. -/
theorem Reaches.insertDefinitions {r₀ r r' : Registry} (h : Reaches r₀ r) {ds : List SchemaDef}
    (hds : r.insertDefinitions ds = .ok r') : Reaches r₀ r' := by
  induction ds generalizing r with
  | nil =>
      cases hds
      exact h
  | cons d ds ih =>
      obtain ⟨s, -, hds⟩ := exists_of_bind_eq_ok hds
      obtain ⟨next, hnext, hds⟩ := exists_of_bind_eq_ok hds
      exact ih (h.of_insert hnext) hds

/-- The registry of definitions is built from the empty one. -/
theorem reaches_ofDefinitions {ds : List SchemaDef} {r : Registry} (h : ofDefinitions ds = .ok r) :
    Reaches empty r :=
  (Reaches.refl empty).insertDefinitions h

/-- The registry of a schema file is built from the empty one. -/
theorem reaches_loadFile {fs : FileSystem} {path : String} {r : Registry}
    (h : loadFile fs path = .ok r) : Reaches empty r := by
  unfold loadFile at h
  split at h
  · cases h
  · unfold ofToml at h
    split at h
    · exact reaches_ofDefinitions h
    · cases h

/-- Adding the schemas of files leads on, file by file. -/
theorem Reaches.loadFiles {fs : FileSystem} {r₀ r r' : Registry} (h : Reaches r₀ r)
    {paths : List String} (hload : Registry.loadFiles fs r paths = .ok r') : Reaches r₀ r' := by
  induction paths generalizing r with
  | nil =>
      cases hload
      exact h
  | cons path paths ih =>
      unfold Registry.loadFiles at hload
      split at hload
      · cases hload
      · rename_i extra hextra
        split at hload
        · cases hload
        · rename_i next hnext
          exact ih (h.of_merged (reaches_loadFile hextra) hnext) hload

/-- The registry that a configuration asks for comes about by such calls, so that its patterns are
distinct. -/
theorem reaches_ofConfig {fs : FileSystem} {c : Config} {r : Registry}
    (h : ofConfig fs c = .ok r) : Reaches empty r := by
  unfold ofConfig at h
  split_ifs at h
  · split at h
    · rename_i builtin hbuiltin
      exact (reaches_ofDefinitions hbuiltin).loadFiles h
    · cases h
  · exact (Reaches.refl empty).loadFiles h

end DslOutline.Registry
