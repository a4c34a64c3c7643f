import DslOutline.Proofs.Schema.Identity
import Mathlib.Data.Option.Basic

/-!
# The first defect of schema definitions

Loading stops at the first defect, wherever it stands: in a definition, in one of its sections, in
an entry keyword of a section or in one of the keyword's patterns. The defects of all definitions in
reading order are a list (`defects`), written down here without regard to how loading proceeds. A
step `Reports` a list of defects if it fails with the first of them, and gives a result as it should
be if there is none. Steps in a row report their defects in a row (`Reports.bind`), and so does one
step for each item of a list (`Reports.mapM`); each level of a definition is put together from these
two. `Registry.ofDefinitions_reports` says what this comes to for whole registries.
-/

namespace DslOutline

open Text

/-! ### Steps and their defects -/

/-- A step fails with the first of some defects, or gives a result with a property if there is no
defect. -/
def Reports {α : Type} (x : Except SchemaError α) (defects : List SchemaError) (P : α → Prop) :
    Prop :=
  match defects with
  | [] => ∃ a, x = .ok a ∧ P a
  | e :: _ => x = .error e

namespace Reports

variable {α β : Type} {x : Except SchemaError α} {first second : List SchemaError}
  {P : α → Prop}

theorem ok {a : α} (ha : P a) : Reports (.ok a) [] P :=
  ⟨a, rfl, ha⟩

/-- A result that is as it should be has every weaker property. -/
theorem imp {Q : α → Prop} (hx : Reports x first P) (hPQ : ∀ a, P a → Q a) : Reports x first Q := by
  cases first with
  | nil =>
      obtain ⟨a, hxa, ha⟩ := hx
      exact ⟨a, hxa, hPQ a ha⟩
  | cons e first => exact hx

/-- Of two steps in a row, the defects of the second one count if the first one has none. -/
theorem bind {f : α → Except SchemaError β} {Q : β → Prop} (hx : Reports x first P)
    (hf : ∀ a, P a → Reports (f a) second Q) : Reports (x >>= f) (first ++ second) Q := by
  cases first with
  | nil =>
      obtain ⟨a, rfl, ha⟩ := hx
      exact hf a ha
  | cons e first =>
      have hx : x = .error e := hx
      rw [hx]
      rfl

/-- Turning a result into another one adds no defect. -/
theorem map {f : α → β} {Q : β → Prop} (hx : Reports x first P) (hf : ∀ a, P a → Q (f a)) :
    Reports (x >>= fun a => pure (f a)) first Q := by
  have hall : Reports (x >>= fun a => pure (f a)) (first ++ []) Q :=
    hx.bind fun a ha => ok (hf a ha)
  rwa [List.append_nil] at hall

/-- A step for each item of a list reports the defects of the items in order. -/
theorem mapM {f : α → Except SchemaError β} {defects : α → List SchemaError} {R : α → β → Prop}
    (l : List α) (hf : ∀ a, Reports (f a) (defects a) (R a)) :
    Reports (l.mapM f) (l.flatMap defects) (List.Forall₂ R l) := by
  induction l with
  | nil => exact ok List.Forall₂.nil
  | cons a l ih =>
      rw [List.mapM_cons, List.flatMap_cons]
      refine (hf a).bind fun b hb => ?_
      exact ih.map fun bs hbs => List.Forall₂.cons hb hbs

/-- A step fails exactly if there is a defect, with the first one. -/
theorem eq_error_iff (hx : Reports x first P) (e : SchemaError) :
    x = .error e ↔ first.head? = some e := by
  cases first with
  | nil =>
      obtain ⟨a, rfl, -⟩ := hx
      simp
  | cons e' first =>
      have hx : x = .error e' := hx
      simp [hx]

/-- A step succeeds exactly if there is no defect. -/
theorem exists_ok_iff (hx : Reports x first P) : (∃ a, x = .ok a) ↔ first = [] := by
  cases first with
  | nil =>
      obtain ⟨a, rfl, -⟩ := hx
      simp
  | cons e first =>
      have hx : x = .error e := hx
      simp [hx]

/-- If a step succeeds, its result is as it should be. -/
theorem of_ok {a : α} (hx : Reports x first P) (ha : x = .ok a) : P a := by
  have hnil := hx.exists_ok_iff.mp ⟨a, ha⟩
  subst hnil
  obtain ⟨b, hb, hPb⟩ := hx
  rw [ha] at hb
  cases hb
  exact hPb

end Reports

/-! ### The defects of a definition -/

/-- The pattern that a definition gives for one of an entry's fields. -/
def ChildDef.pattern? (c : ChildDef) : PatternField → Option String
  | .name => c.namePattern
  | .detail => c.detailPattern
  | .reference => c.referencePattern

/-- A pattern that is left out or can be compiled. -/
def IsValid (source : Option String) : Prop :=
  ∀ s, source = some s → (Pattern.compile? s).isSome = true

instance (source : Option String) : Decidable (IsValid source) :=
  decidable_of_iff ((source.all fun s => (Pattern.compile? s).isSome) = true) (by
    cases source <;> simp [IsValid])

namespace ChildDef

/-- What is wrong with an entry keyword: it is blank, or a pattern of it is refused. -/
def defects (schema sectionName : String) (c : ChildDef) : List SchemaError :=
  (if isBlankString c.keyword then [.blankKeyword schema sectionName] else []) ++
    [PatternField.name, .detail, .reference].flatMap fun field =>
      if IsValid (c.pattern? field) then []
      else [.invalidPattern schema sectionName c.keyword field]

end ChildDef

/-- What is wrong with the entry keywords of a section. -/
def SectionDef.defects (schema : String) (s : SectionDef) : List SchemaError :=
  s.children.flatMap (ChildDef.defects schema s.name)

/-- What is wrong with a definition by itself. -/
def SchemaDef.defects (d : SchemaDef) : List SchemaError :=
  (if isBlankString d.declarationPattern then [.blankPattern d.name] else []) ++
    d.sections.flatMap (SectionDef.defects d.name)

/-- What is wrong with definitions, in reading order, if some patterns are taken already: each one's
own defects, and then the clash of its pattern with an earlier one. -/
def defects (taken : List String) : List SchemaDef → List SchemaError
  | [] => []
  | d :: ds =>
    d.defects ++
      ((if d.declarationPattern ∈ taken then [.duplicatePattern d.declarationPattern] else []) ++
        defects (taken ++ [d.declarationPattern]) ds)

/-- A definition without defects of its own. -/
structure SchemaDef.Sound (d : SchemaDef) : Prop where
  pattern_not_blank : isBlankString d.declarationPattern = false
  keyword_not_blank : ∀ s ∈ d.sections, ∀ c ∈ s.children, isBlankString c.keyword = false
  patterns_valid : ∀ s ∈ d.sections, ∀ c ∈ s.children, ∀ field, IsValid (c.pattern? field)

/-- An entry keyword is all right if it is not blank and its patterns are valid. -/
theorem ChildDef.defects_eq_nil_iff {schema sectionName : String} {c : ChildDef} :
    c.defects schema sectionName = [] ↔
      isBlankString c.keyword = false ∧ ∀ field, IsValid (c.pattern? field) := by
  have hfields : (∀ field, IsValid (c.pattern? field)) ↔
      ∀ field ∈ [PatternField.name, .detail, .reference], IsValid (c.pattern? field) := by
    refine forall_congr' fun field => ?_
    cases field <;> simp
  rw [hfields, ChildDef.defects, List.append_eq_nil_iff, List.flatMap_eq_nil_iff]
  simp

/-- A definition is sound exactly if the list of its defects is empty. -/
theorem SchemaDef.defects_eq_nil_iff {d : SchemaDef} : d.defects = [] ↔ d.Sound := by
  simp only [SchemaDef.defects, SectionDef.defects, List.append_eq_nil_iff,
    List.flatMap_eq_nil_iff, ChildDef.defects_eq_nil_iff]
  constructor
  · rintro ⟨hpattern, hchildren⟩
    refine ⟨by simpa using hpattern, ?_, ?_⟩
    · intro s hs c hc
      exact (hchildren s hs c hc).1
    · intro s hs c hc
      exact (hchildren s hs c hc).2
  · rintro ⟨hpattern, hkeyword, hvalid⟩
    exact ⟨by simp [hpattern], fun s hs c hc => ⟨hkeyword s hs c hc, hvalid s hs c hc⟩⟩

/-- Definitions have no defects if each is sound and the patterns are new and distinct. -/
theorem defects_eq_nil_iff {taken : List String} {ds : List SchemaDef} :
    defects taken ds = [] ↔
      (∀ d ∈ ds, d.Sound) ∧ (∀ d ∈ ds, d.declarationPattern ∉ taken) ∧
        (ds.map SchemaDef.declarationPattern).Nodup := by
  induction ds generalizing taken with
  | nil => simp [defects]
  | cons d ds ih =>
      have hnew : (∀ e ∈ ds, e.declarationPattern ∉ taken ++ [d.declarationPattern]) ↔
          (∀ e ∈ ds, e.declarationPattern ∉ taken) ∧
            d.declarationPattern ∉ ds.map SchemaDef.declarationPattern := by
        simp only [List.mem_append, List.mem_singleton, not_or, List.mem_map, not_exists, not_and,
          ← forall_and]
      rw [defects, List.append_eq_nil_iff, List.append_eq_nil_iff, ih, hnew,
        SchemaDef.defects_eq_nil_iff, List.forall_mem_cons, List.forall_mem_cons, List.map_cons,
        List.nodup_cons]
      simp only [ite_eq_right_iff, List.cons_ne_nil, imp_false]
      tauto

/-! ### What a definition becomes -/

/-- A pattern is compiled if the definition gives one. -/
def IsCompiled : Option String → Option Pattern → Prop :=
  Option.Rel fun source p => Pattern.compile? source = some p

/-- A compiled entry keyword says what its definition says. -/
structure ChildPattern.Mirrors (d : ChildDef) (p : ChildPattern) : Prop where
  keyword_eq : p.keyword = trimString d.keyword
  name : IsCompiled d.namePattern p.namePattern
  detail : IsCompiled d.detailPattern p.detailPattern
  isDefinition_eq : p.isDefinition = d.definition
  reference : Option.Rel
    (fun target r => r.target = target ∧ IsCompiled d.referencePattern r.namePattern)
    d.references p.reference

/-- A compiled section has the name, the tool and the entry keywords of its definition, in order. -/
structure SectionSchema.Mirrors (d : SectionDef) (s : SectionSchema) : Prop where
  name_eq : s.name = d.name
  diagram_eq : s.diagram = d.diagram
  children : List.Forall₂ ChildPattern.Mirrors d.children s.children

/-- A schema has the name, the pattern and the sections of its definition, in order. -/
structure Schema.Mirrors (d : SchemaDef) (s : Schema) : Prop where
  name_eq : s.name = d.name
  pattern_eq : s.declarationPattern = d.declarationPattern
  sections : List.Forall₂ SectionSchema.Mirrors d.sections s.sections

/-! ### What compiling reports -/

/-- Compiling a pattern reports that it is refused, or gives what it is compiled to. -/
theorem compilePattern_reports (refused : SchemaError) (source : Option String) :
    Reports (compilePattern refused source) (if IsValid source then [] else [refused])
      (IsCompiled source) := by
  cases source with
  | none =>
      rw [if_pos (by simp [IsValid])]
      exact Reports.ok Option.Rel.none
  | some s =>
      cases hs : Pattern.compile? s with
      | none =>
          rw [if_neg (by simp [IsValid, hs])]
          simp only [Reports, compilePattern, hs]
      | some p =>
          rw [if_pos (by simp [IsValid, hs])]
          exact ⟨some p, by simp only [compilePattern, hs], Option.Rel.some hs⟩

/-- Compiling an entry keyword reports its defects, or gives a mirror of its definition. -/
theorem ChildPattern.compile_reports (schema sectionName : String) (d : ChildDef) :
    Reports (ChildPattern.compile schema sectionName d) (d.defects schema sectionName)
      (ChildPattern.Mirrors d) := by
  unfold ChildPattern.compile ChildDef.defects
  split_ifs with hblank
  · rfl
  · simp only [List.nil_append, List.flatMap_cons, List.flatMap_nil, List.append_nil]
    refine (compilePattern_reports _ d.namePattern).bind fun name hname => ?_
    refine (compilePattern_reports _ d.detailPattern).bind fun detail hdetail => ?_
    refine (compilePattern_reports _ d.referencePattern).map fun reference hreference => ?_
    refine ⟨rfl, hname, hdetail, rfl, ?_⟩
    cases d.references with
    | none => exact Option.Rel.none
    | some target => exact Option.Rel.some ⟨rfl, hreference⟩

/-- Compiling a section reports the defects of its keywords in order. -/
theorem SectionSchema.compile_reports (schema : String) (d : SectionDef) :
    Reports (SectionSchema.compile schema d) (d.defects schema) (SectionSchema.Mirrors d) :=
  (Reports.mapM d.children (ChildPattern.compile_reports schema d.name)).map
    fun _ hchildren => ⟨rfl, rfl, hchildren⟩

/-- Compiling a schema reports a blank declaration pattern first, then the defects of its
sections. -/
theorem Schema.compile_reports (d : SchemaDef) :
    Reports (Schema.compile d) d.defects (Schema.Mirrors d) := by
  unfold Schema.compile SchemaDef.defects
  split_ifs with hblank
  · rfl
  · rw [List.nil_append]
    exact (Reports.mapM d.sections (SectionSchema.compile_reports d.name)).map
      fun _ hsections => ⟨rfl, rfl, hsections⟩

/-! ### Registries -/

namespace Registry

/-- Adding a schema reports that its pattern is held already, or puts it behind the others. -/
theorem insert_reports (r : Registry) (s : Schema) :
    Reports (r.insert s)
      (if s.declarationPattern ∈ r.patterns then [.duplicatePattern s.declarationPattern] else [])
      (· = ⟨r.schemas ++ [s]⟩) := by
  split_ifs with h
  · exact insert_of_mem h
  · exact ⟨_, insert_of_not_mem h, rfl⟩

/-- Each definition is compiled and inserted before the next one is looked at. -/
theorem insertDefinitions_reports (r : Registry) (ds : List SchemaDef) :
    Reports (r.insertDefinitions ds) (defects r.patterns ds)
      (fun r' => ∃ new, r'.schemas = r.schemas ++ new ∧ List.Forall₂ Schema.Mirrors ds new) := by
  induction ds generalizing r with
  | nil => exact Reports.ok ⟨[], (List.append_nil _).symm, List.Forall₂.nil⟩
  | cons d ds ih =>
      rw [insertDefinitions, defects]
      refine (Schema.compile_reports d).bind fun s hs => ?_
      rw [← hs.pattern_eq]
      refine (insert_reports r s).bind fun next hnext => ?_
      subst hnext
      have hrest := ih ⟨r.schemas ++ [s]⟩
      rw [patterns_append, List.map_singleton] at hrest
      refine hrest.imp ?_
      rintro r' ⟨new, hnew, hmirrors⟩
      refine ⟨s :: new, ?_, List.Forall₂.cons hs hmirrors⟩
      rw [hnew, List.append_assoc, List.singleton_append]

/-- **Loading definitions fails with their first defect and otherwise loses nothing.** It succeeds
exactly if every definition is sound and no two have the same declaration pattern; then the schemas
mirror the definitions one to one and in order, at every level. Otherwise the error is the first of
the defects in reading order. -/
theorem ofDefinitions_reports (ds : List SchemaDef) :
    ((∃ r, ofDefinitions ds = .ok r) ↔
      (∀ d ∈ ds, d.Sound) ∧ (ds.map SchemaDef.declarationPattern).Nodup) ∧
    (∀ r, ofDefinitions ds = .ok r → List.Forall₂ Schema.Mirrors ds r.schemas) ∧
    ∀ e, ofDefinitions ds = .error e ↔ (defects [] ds).head? = some e := by
  have hreports : Reports (ofDefinitions ds) (defects [] ds)
      (fun r => ∃ new, r.schemas = [] ++ new ∧ List.Forall₂ Schema.Mirrors ds new) :=
    insertDefinitions_reports empty ds
  refine ⟨?_, ?_, hreports.eq_error_iff⟩
  · rw [hreports.exists_ok_iff, defects_eq_nil_iff]
    simp
  · intro r hr
    obtain ⟨new, hnew, hmirrors⟩ := hreports.of_ok hr
    rw [hnew]
    exact hmirrors

end Registry

end DslOutline
