import DslOutline.Proofs.Outline.Links
import Mathlib.Data.List.Nodup

/-!
# Sections that several schemas declare

Several schemas may declare sections of one name, and one schema may do so more than once. The
specs are built by adding one section after the other, to the spec of its name or at the end.
`Groups` says what comes out: one spec for each name, in the order in which the names come up, with
everything that the sections of this name declare. One more section keeps it (`Groups.add`), so it
holds of the specs of any schemas (`groups_sectionSpecs`), and the tools of a parse follow
(`sectionSpecs_grouped`).

A registry can also be asked for the tool of a name, and then only the first section of that name in
each schema counts. The two answers are the same if no schema puts a section without a tool in front
of one that has it (`diagramTool?_eq_diagram`).
-/

namespace DslOutline

/-! ### Sections of one name -/

/-- The sections of a name. -/
def namesakes (name : String) (secs : List SectionSchema) : List SectionSchema :=
  secs.filter fun s => s.name == name

/-- The first tool that a section of a name declares. -/
def firstTool? (name : String) (secs : List SectionSchema) : Option String :=
  (namesakes name secs).findSome? SectionSchema.diagram

/-- One more section is one more namesake, or none. -/
theorem namesakes_concat (name : String) (secs : List SectionSchema) (s : SectionSchema) :
    namesakes name (secs ++ [s]) =
      if s.name = name then namesakes name secs ++ [s] else namesakes name secs := by
  unfold namesakes
  rw [List.filter_append]
  split_ifs with h
  · simp [h]
  · simp [h]

theorem namesakes_eq_nil {name : String} {secs : List SectionSchema}
    (h : name ∉ secs.map SectionSchema.name) : namesakes name secs = [] := by
  unfold namesakes
  rw [List.filter_eq_nil_iff]
  intro s hs hname
  apply h
  rw [← beq_iff_eq.mp hname]
  exact List.mem_map_of_mem hs

/-- There is a first tool for a name exactly if some section of that name has one. -/
theorem isSome_firstTool?_iff (name : String) (schemas : List Schema) :
    (firstTool? name (schemas.flatMap Schema.sections)).isSome = true ↔
      ∃ schema ∈ schemas, ∃ sec ∈ schema.sections, sec.name = name ∧ sec.diagram.isSome = true := by
  unfold firstTool? namesakes
  simp only [List.findSome?_isSome_iff, List.mem_filter, List.mem_flatMap, beq_iff_eq]
  constructor
  · rintro ⟨sec, ⟨⟨schema, hschema, hsec⟩, hname⟩, htool⟩
    exact ⟨schema, hschema, sec, hsec, hname, htool⟩
  · rintro ⟨schema, hschema, sec, hsec, hname, htool⟩
    exact ⟨sec, ⟨⟨schema, hschema, hsec⟩, hname⟩, htool⟩

/-! ### Adding a section -/

/-- A name that came up before is not listed again. -/
theorem eraseDups_concat (names : List String) (name : String) :
    (names ++ [name]).eraseDups =
      if name ∈ names then names.eraseDups else names.eraseDups ++ [name] := by
  rw [List.eraseDups_append]
  split_ifs with h
  · simp [List.removeAll, h]
  · simp [List.removeAll, h, List.eraseDups_cons]

/-- The specs put sections together by name: names come in the order in which the sections bring
them up, patterns one section after the other, and the tool is the first one. -/
structure Groups (specs : List SectionSpec) (secs : List SectionSchema) : Prop where
  names : specs.map SectionSpec.name = (secs.map SectionSchema.name).eraseDups
  distinct : (specs.map SectionSpec.name).Nodup
  patterns : ∀ spec ∈ specs,
    spec.patterns = (namesakes spec.name secs).flatMap SectionSchema.children
  diagram : ∀ spec ∈ specs, spec.diagram = firstTool? spec.name secs

/-- A name is added behind the others, unless it is there already. -/
theorem map_name_addSection (s : SectionSchema) (specs : List SectionSpec) :
    (addSection s specs).map SectionSpec.name =
      if s.name ∈ specs.map SectionSpec.name then specs.map SectionSpec.name
      else specs.map SectionSpec.name ++ [s.name] := by
  induction specs with
  | nil => rfl
  | cons spec specs ih =>
      unfold addSection
      split_ifs with hsame hmem hmem
      · rfl
      · simp [hsame] at hmem
      · have hlater : s.name ∈ specs.map SectionSpec.name := by
          simpa [Ne.symm hsame] using hmem
        rw [List.map_cons, ih, if_pos hlater, List.map_cons]
      · have hnew : s.name ∉ specs.map SectionSpec.name := by
          intro h
          exact hmem (List.mem_cons_of_mem _ h)
        rw [List.map_cons, ih, if_neg hnew, List.map_cons, List.cons_append]

/-- A spec after a section was added: it is of another name and was there before, or it is the one
that the section was added to, or the section is the first of its name. -/
theorem of_mem_addSection {s : SectionSchema} {specs : List SectionSpec}
    (hdistinct : (specs.map SectionSpec.name).Nodup) {spec : SectionSpec}
    (h : spec ∈ addSection s specs) :
    (spec ∈ specs ∧ spec.name ≠ s.name) ∨
      (∃ old ∈ specs, old.name = s.name ∧
        spec = ⟨old.name, old.patterns ++ s.children, old.diagram <|> s.diagram⟩) ∨
      (s.name ∉ specs.map SectionSpec.name ∧ spec = ⟨s.name, s.children, s.diagram⟩) := by
  induction specs with
  | nil =>
      right; right
      exact ⟨List.not_mem_nil, List.mem_singleton.mp h⟩
  | cons old specs ih =>
      rw [List.map_cons, List.nodup_cons] at hdistinct
      unfold addSection at h
      split_ifs at h with hsame
      · rcases List.mem_cons.mp h with rfl | hmem
        · right; left
          exact ⟨old, List.mem_cons_self, hsame, rfl⟩
        · left
          refine ⟨List.mem_cons_of_mem old hmem, ?_⟩
          intro hname
          apply hdistinct.1
          rw [hsame, ← hname]
          exact List.mem_map_of_mem hmem
      · rcases List.mem_cons.mp h with rfl | hmem
        · left
          exact ⟨List.mem_cons_self, hsame⟩
        · rcases ih hdistinct.2 hmem with ⟨hold, hname⟩ | ⟨found, hfound, hname, heq⟩ | ⟨hnew, heq⟩
          · left
            exact ⟨List.mem_cons_of_mem old hold, hname⟩
          · right; left
            exact ⟨found, List.mem_cons_of_mem old hfound, hname, heq⟩
          · right; right
            refine ⟨?_, heq⟩
            rw [List.map_cons, List.mem_cons, not_or]
            exact ⟨Ne.symm hsame, hnew⟩

/-- The sections to look for have the names of the sections that were put together. -/
theorem Groups.mem_names_iff {specs : List SectionSpec} {secs : List SectionSchema}
    (h : Groups specs secs) (name : String) :
    name ∈ specs.map SectionSpec.name ↔ name ∈ secs.map SectionSchema.name := by
  rw [h.names, List.mem_eraseDups]

/-- One more section goes to the spec of its name, or to a new spec at the end. -/
theorem Groups.add {specs : List SectionSpec} {secs : List SectionSchema} (h : Groups specs secs)
    (s : SectionSchema) : Groups (addSection s specs) (secs ++ [s]) := by
  have hnames := map_name_addSection s specs
  refine ⟨?_, ?_, ?_, ?_⟩
  · rw [hnames, h.names, List.map_append, List.map_singleton, eraseDups_concat]
    simp only [List.mem_eraseDups]
  · rw [hnames]
    split_ifs with hmem
    · exact h.distinct
    · rw [List.nodup_append]
      refine ⟨h.distinct, List.nodup_singleton _, ?_⟩
      rintro name hname _ hlast rfl
      exact hmem (List.mem_singleton.mp hlast ▸ hname)
  · intro spec hspec
    rcases of_mem_addSection h.distinct hspec with ⟨hold, hname⟩ | ⟨old, hold, hname, rfl⟩ |
      ⟨hnew, rfl⟩
    · rw [namesakes_concat, if_neg (Ne.symm hname)]
      exact h.patterns spec hold
    · simp [namesakes_concat, hname, h.patterns old hold]
    · rw [h.mem_names_iff] at hnew
      simp [namesakes_concat, namesakes_eq_nil hnew]
  · intro spec hspec
    rcases of_mem_addSection h.distinct hspec with ⟨hold, hname⟩ | ⟨old, hold, hname, rfl⟩ |
      ⟨hnew, rfl⟩
    · rw [firstTool?, namesakes_concat, if_neg (Ne.symm hname)]
      exact h.diagram spec hold
    · have htool := h.diagram old hold
      rw [firstTool?, hname] at htool
      rw [firstTool?, namesakes_concat, hname, if_pos rfl, List.findSome?_append, ← htool]
      simp
    · rw [h.mem_names_iff] at hnew
      simp [firstTool?, namesakes_concat, namesakes_eq_nil hnew]

/-- The specs of schemas put their sections together by name. -/
theorem groups_sectionSpecs (schemas : List Schema) :
    Groups (sectionSpecs schemas) (schemas.flatMap Schema.sections) := by
  unfold sectionSpecs
  induction schemas.flatMap Schema.sections using List.reverseRecOn with
  | nil => exact ⟨rfl, List.nodup_nil, by simp, by simp⟩
  | append_singleton secs s ih =>
      rw [List.foldl_append]
      exact ih.add s

/-- The tool of the spec of a name is the first one that a section of this name declares. -/
theorem diagram_find?_sectionSpecs (schemas : List Schema) (name : String) :
    ((sectionSpecs schemas).find? fun spec => spec.name == name).bind SectionSpec.diagram =
      firstTool? name (schemas.flatMap Schema.sections) := by
  have hgroups := groups_sectionSpecs schemas
  cases hfind : (sectionSpecs schemas).find? fun spec => spec.name == name with
  | some spec =>
      have hname := List.find?_some hfind
      rw [beq_iff_eq] at hname
      rw [Option.bind_some, hgroups.diagram spec (List.mem_of_find?_eq_some hfind), hname]
  | none =>
      have hnew : name ∉ (schemas.flatMap Schema.sections).map SectionSchema.name := by
        rw [← hgroups.mem_names_iff]
        intro hmem
        obtain ⟨spec, hspec, hname⟩ := List.mem_map.mp hmem
        exact List.find?_eq_none.mp hfind spec hspec (beq_iff_eq.mpr hname)
      rw [firstTool?, namesakes_eq_nil hnew]
      rfl

/-! ### The tools of a parse -/

/-- The target of a section that a tool can draw. -/
def Section.target (s : Section) (tool : String) : DiagramTarget :=
  ⟨s.name, tool, s.start⟩

/-- A section of a name among the schemas declares a tool. -/
def Drawable (schemas : List Schema) (name : String) : Prop :=
  ∃ schema ∈ schemas, ∃ sec ∈ schema.sections, sec.name = name ∧ sec.diagram.isSome = true

instance (schemas : List Schema) (name : String) : Decidable (Drawable schemas name) :=
  inferInstanceAs (Decidable (∃ schema ∈ schemas, ∃ sec ∈ schema.sections,
    sec.name = name ∧ sec.diagram.isSome = true))

/-- A section gets the first tool that the active schemas declare for its name. -/
theorem diagrams_extract (r : Registry) (d : Document) :
    (extract r d).diagrams = (extract r d).sections.filterMap fun s =>
      (firstTool? s.name ((d.activeSchemas r).flatMap Schema.sections)).map s.target := by
  change diagramsOf (sectionSpecs (d.activeSchemas r)) (extract r d).sections = _
  unfold diagramsOf
  apply List.filterMap_congr
  intro s hs
  rw [← diagram_find?_sectionSpecs]
  cases (sectionSpecs (d.activeSchemas r)).find? fun spec => spec.name == s.name with
  | none => rfl
  | some spec => cases hdiagram : spec.diagram <;> simp [hdiagram, Section.target]

/-- **Sections of one name are put together and nothing is lost or said twice.** The specs have
distinct names, in the order in which the sections of the schemas bring them up, and every name of a
section has one. The patterns of a spec are those of all sections of its name, one section after the
other, and its tool is the first one that such a section declares. So a parse has one target for
each section whose name has a tool among the active schemas, in the order of the sections. -/
theorem sectionSpecs_grouped (schemas : List Schema) (r : Registry) (d : Document) :
    let secs := schemas.flatMap Schema.sections
    let e := extract r d
    ((sectionSpecs schemas).map SectionSpec.name).Nodup ∧
    (sectionSpecs schemas).map SectionSpec.name = (secs.map SectionSchema.name).eraseDups ∧
    (∀ sec ∈ secs, ∃ spec ∈ sectionSpecs schemas, spec.name = sec.name) ∧
    (∀ spec ∈ sectionSpecs schemas,
      spec.patterns =
        (secs.filter fun sec => sec.name == spec.name).flatMap SectionSchema.children ∧
      spec.diagram =
        (secs.filter fun sec => sec.name == spec.name).findSome? SectionSchema.diagram) ∧
    List.Forall₂ (fun t s => t.sectionName = s.name ∧ t.position = s.start ∧
        firstTool? s.name ((d.activeSchemas r).flatMap Schema.sections) = some t.tool)
      e.diagrams (e.sections.filter fun s => Drawable (d.activeSchemas r) s.name) := by
  intro secs e
  have hgroups := groups_sectionSpecs schemas
  refine ⟨hgroups.distinct, hgroups.names, ?_, ?_, ?_⟩
  · intro sec hsec
    obtain ⟨schema, hschema, hsec⟩ := List.mem_flatMap.mp hsec
    rw [exists_mem_sectionSpecs_name]
    exact ⟨schema, hschema, sec, hsec, rfl⟩
  · intro spec hspec
    exact ⟨hgroups.patterns spec hspec, hgroups.diagram spec hspec⟩
  · have hdrawable : e.sections.filter (fun s => decide (Drawable (d.activeSchemas r) s.name)) =
        e.sections.filter fun s =>
          ((firstTool? s.name ((d.activeSchemas r).flatMap Schema.sections)).map
            s.target).isSome := by
      apply List.filter_congr
      intro s hs
      rw [Option.isSome_map, Bool.eq_iff_iff, isSome_firstTool?_iff, decide_eq_true_eq]
      rfl
    have hdiagrams : e.diagrams = _ := diagrams_extract r d
    rw [hdrawable, hdiagrams]
    refine (forall₂_filterMap _ _).imp ?_
    rintro t s ⟨-, ht⟩
    obtain ⟨tool, htool, rfl⟩ := Option.map_eq_some_iff.mp ht
    exact ⟨rfl, rfl, htool⟩

/-! ### Asking a registry for a tool -/

/-- If a schema's first section of a name has no tool, then no section of this name in it has
one. -/
def Schema.ToolFirst (s : Schema) (name : String) : Prop :=
  ∀ first ∈ s.section? name, first.diagram = none →
    ∀ sec ∈ s.sections, sec.name = name → sec.diagram = none

instance (s : Schema) (name : String) : Decidable (s.ToolFirst name) :=
  inferInstanceAs (Decidable (∀ first ∈ s.section? name, first.diagram = none →
    ∀ sec ∈ s.sections, sec.name = name → sec.diagram = none))

/-- A schema is asked for its first section of a name. -/
theorem Schema.section?_eq_head? (s : Schema) (name : String) :
    s.section? name = (namesakes name s.sections).head? := by
  rw [namesakes, List.head?_filter]
  rfl

/-- In such a schema, the tool of the first section of a name is the first tool of the name. -/
theorem Schema.ToolFirst.firstTool?_eq {s : Schema} {name : String} (h : s.ToolFirst name) :
    (s.section? name).bind SectionSchema.diagram = firstTool? name s.sections := by
  unfold ToolFirst at h
  unfold firstTool?
  rw [section?_eq_head?] at h ⊢
  cases hnamesakes : namesakes name s.sections with
  | nil => rfl
  | cons first rest =>
      rw [List.head?_cons, Option.bind_some, List.findSome?_cons]
      cases htool : first.diagram with
      | some tool => rfl
      | none =>
          symm
          rw [List.findSome?_eq_none_iff]
          intro sec hsec
          have hmem : sec ∈ namesakes name s.sections := by
            rw [hnamesakes]
            exact List.mem_cons_of_mem first hsec
          rw [namesakes, List.mem_filter, beq_iff_eq] at hmem
          exact h first (by rw [hnamesakes]; rfl) htool sec hmem.1 hmem.2

/-- A registry in which no schema hides a tool reports the first one that a section declares. -/
theorem Registry.diagramTool?_eq_firstTool? {schemas : List Schema} {name : String}
    (h : ∀ s ∈ schemas, s.ToolFirst name) :
    (Registry.mk schemas).diagramTool? name =
      firstTool? name (schemas.flatMap Schema.sections) := by
  unfold diagramTool?
  induction schemas with
  | nil => rfl
  | cons s schemas ih =>
      have hfirst := (h s List.mem_cons_self).firstTool?_eq
      have hrest := ih fun t ht => h t (List.mem_cons_of_mem s ht)
      have hsplit : firstTool? name ((s :: schemas).flatMap Schema.sections) =
          (firstTool? name s.sections).or (firstTool? name (schemas.flatMap Schema.sections)) := by
        simp only [firstTool?, namesakes, List.flatMap_cons, List.filter_append,
          List.findSome?_append]
      rw [hsplit, ← hfirst, ← hrest, List.filterMap_cons]
      cases s.section? name with
      | none => rfl
      | some first => cases hfind : first.diagram <;> simp [hfind]

/-- The targets of a section in a parse are those of the tool for its name. -/
theorem target_mem_diagrams_iff {r : Registry} {d : Document} {sec : Section}
    (h : sec ∈ (extract r d).sections) (tool : String) :
    sec.target tool ∈ (extract r d).diagrams ↔
      firstTool? sec.name ((d.activeSchemas r).flatMap Schema.sections) = some tool := by
  rw [diagrams_extract, List.mem_filterMap]
  constructor
  · rintro ⟨s, hs, htarget⟩
    obtain ⟨found, hfound, heq⟩ := Option.map_eq_some_iff.mp htarget
    rw [Section.target, Section.target, DiagramTarget.mk.injEq] at heq
    rw [← heq.1, ← heq.2.1]
    exact hfound
  · intro htool
    exact ⟨sec, h, by rw [htool]; rfl⟩

/-- **A registry and the specs name the same tool, where no schema hides one.** Let no schema put a
section of a name without a tool in front of one that has it. Then the tool that the registry
reports for this name is the tool of the spec that its schemas have for it. A parse gives a section
the tool that the active schemas report, asked in the order of their activation; if all schemas are
active in the order of the registry, this is what the registry reports. -/
theorem diagramTool?_eq_diagram (r : Registry) :
    (∀ name, (∀ s ∈ r.schemas, s.ToolFirst name) →
      r.diagramTool? name =
        ((sectionSpecs r.schemas).find? fun spec => spec.name == name).bind
          SectionSpec.diagram) ∧
    ∀ d : Document, ∀ sec ∈ (extract r d).sections,
      (∀ s ∈ d.activeSchemas r, s.ToolFirst sec.name) → ∀ tool,
        (sec.target tool ∈ (extract r d).diagrams ↔
          (Registry.mk (d.activeSchemas r)).diagramTool? sec.name = some tool) ∧
        (d.activeSchemas r = r.schemas →
          (sec.target tool ∈ (extract r d).diagrams ↔ r.diagramTool? sec.name = some tool)) := by
  constructor
  · intro name h
    rw [diagram_find?_sectionSpecs]
    exact Registry.diagramTool?_eq_firstTool? h
  · intro d sec hsec h tool
    have hactive : sec.target tool ∈ (extract r d).diagrams ↔
        (Registry.mk (d.activeSchemas r)).diagramTool? sec.name = some tool := by
      rw [target_mem_diagrams_iff hsec, Registry.diagramTool?_eq_firstTool? h]
    refine ⟨hactive, ?_⟩
    intro hall
    rwa [hall] at hactive

/-- The first schema names no tool for the section and the second one names it twice; a section of
another name has a tool behind one without. -/
theorem diagramTool?_eq_diagram_second :
    let plain : SectionSchema := ⟨"things", none, []⟩
    let r : Registry := ⟨[⟨"A", "A", [plain, ⟨"plans", none, []⟩, ⟨"plans", some "p", []⟩]⟩,
      ⟨"B", "B", [⟨"things", some "t", []⟩, plain, ⟨"things", some "u", []⟩]⟩]⟩
    let d := Document.ofString "use A
use B
things do
end"
    r.diagramTool? "things" = some "t" ∧
      ((sectionSpecs r.schemas).find? fun spec => spec.name == "things").bind
        SectionSpec.diagram = some "t" ∧
      (extract r d).sections = [⟨"things", [], ⟨3, 1⟩, ⟨4, 4⟩, true⟩] ∧
      ⟨"things", "t", ⟨3, 1⟩⟩ ∈ (extract r d).diagrams := by
  intro plain r d
  have hfirst : ∀ s ∈ r.schemas, s.ToolFirst "things" := by decide +kernel
  have hall : d.activeSchemas r = r.schemas := by decide +kernel
  have hsections : (extract r d).sections = [⟨"things", [], ⟨3, 1⟩, ⟨4, 4⟩, true⟩] := by
    decide +kernel
  have htool : r.diagramTool? "things" = some "t" := by decide +kernel
  obtain ⟨hspecs, hparse⟩ := diagramTool?_eq_diagram r
  refine ⟨htool, (hspecs "things" hfirst).symm.trans htool, hsections, ?_⟩
  have hsec := hparse d ⟨"things", [], ⟨3, 1⟩, ⟨4, 4⟩, true⟩
    (hsections ▸ List.mem_singleton.mpr rfl) (hall ▸ hfirst) "t"
  exact (hsec.2 hall).mpr htool

/-- The registry misses the tool of the second section of a name in one schema, which the specs
have. And with all schemas active, but not in the order of the registry, a section gets another tool
than the one that the registry reports. -/
theorem diagramTool?_ne_diagram :
    let first : SchemaDef := ⟨"A", "A", [⟨"things", some "a", []⟩, ⟨"plans", none, []⟩,
      ⟨"plans", some "p", []⟩]⟩
    let second : SchemaDef := ⟨"B", "B", [⟨"things", some "b", []⟩]⟩
    let d := Document.ofString "use B
use A
things do
end"
    ∃ r, Registry.ofDefinitions [first, second] = .ok r ∧
      r.diagramTool? "plans" = none ∧
      ((sectionSpecs r.schemas).find? fun spec => spec.name == "plans").bind
        SectionSpec.diagram = some "p" ∧
      (∀ s ∈ r.schemas, s ∈ d.activeSchemas r) ∧ r.diagramTool? "things" = some "a" ∧
      (extract r d).diagrams = [⟨"things", "b", ⟨3, 1⟩⟩] := by
  intro first second d
  refine ⟨⟨[⟨"A", "A", [⟨"things", some "a", []⟩, ⟨"plans", none, []⟩, ⟨"plans", some "p", []⟩]⟩,
    ⟨"B", "B", [⟨"things", some "b", []⟩]⟩]⟩, ?_⟩
  decide +kernel

end DslOutline
