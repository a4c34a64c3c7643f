import DslOutline.Proofs.Outline.Positions
import Mathlib.Data.List.Nodup

/-!
# Only active schemas matter

A registry may hold schemas that a document does not use. This module says what of a registry
reaches an extraction. The schemas that become active are those whose declaration pattern occurs in
a `use` declaration, if no two schemas share a pattern (`mem_activeSchemas_iff`); the others might
as well not be there (`activeSchemas_filter`). The lines on which sections start depend on the names
that are looked for, in whatever order (`map_line_sectionStarts`), and the range of a section on the
lines alone (`map_range_sectionsFrom`).

So two registries with the same active schemas give the same ranges, and the same extraction if the
active schemas are in the same order (`extract_of_same_active`).
-/

namespace DslOutline

open Text

/-! ### The schemas that a document activates -/

/-- Whether the declaration pattern of a schema occurs in a `use` declaration of a document. -/
def Document.activates (d : Document) (s : Schema) : Bool :=
  d.useDeclarations.any fun u => occursIn s.declarationPattern.toList u.text

/-- A declaration activates the schemas whose pattern occurs in it, besides those that are active
already. Here `all` are schemas of which no two share a pattern. -/
theorem mem_activate_iff {all : List Schema} (hall : (all.map Schema.declarationPattern).Nodup)
    {active schemas : List Schema} (hactive : active ⊆ all) (hschemas : schemas ⊆ all)
    {text : List Char} {s : Schema} :
    s ∈ activate active text schemas ↔
      s ∈ active ∨ s ∈ schemas ∧ occursIn s.declarationPattern.toList text = true := by
  induction schemas generalizing active with
  | nil => simp [activate]
  | cons t schemas ih =>
      obtain ⟨ht, hschemas⟩ := List.cons_subset.mp hschemas
      -- a schema with the pattern of `t` that is active already is `t`
      have hseen : (active.any fun a => a.declarationPattern == t.declarationPattern) = true ↔
          t ∈ active := by
        rw [List.any_eq_true]
        constructor
        · rintro ⟨a, ha, heq⟩
          rw [← List.inj_on_of_nodup_map hall (hactive ha) ht (beq_iff_eq.mp heq)]
          exact ha
        · intro h
          exact ⟨t, h, beq_self_eq_true _⟩
      simp only [activate]
      split_ifs with hnew
      · rw [Bool.and_eq_true] at hnew
        rw [ih (List.append_subset.mpr ⟨hactive, by simpa using ht⟩) hschemas]
        rw [List.mem_append, List.mem_singleton, List.mem_cons]
        constructor
        · rintro ((h | rfl) | h)
          · exact Or.inl h
          · exact Or.inr ⟨Or.inl rfl, hnew.2⟩
          · exact Or.inr ⟨Or.inr h.1, h.2⟩
        · rintro (h | ⟨rfl | h, hoccurs⟩)
          · exact Or.inl (Or.inl h)
          · exact Or.inl (Or.inr rfl)
          · exact Or.inr ⟨h, hoccurs⟩
      · rw [ih hactive hschemas, List.mem_cons]
        constructor
        · rintro (h | h)
          · exact Or.inl h
          · exact Or.inr ⟨Or.inr h.1, h.2⟩
        · rintro (h | ⟨rfl | h, hoccurs⟩)
          · exact Or.inl h
          · left
            rw [← hseen]
            by_contra hnot
            exact hnew (by simp [hnot, hoccurs])
          · exact Or.inr ⟨h, hoccurs⟩

/-- With distinct declaration patterns, the active schemas are those whose pattern occurs in one of
the texts. -/
theorem mem_activeSchemas_iff {r : Registry} (hr : r.patterns.Nodup) {texts : List (List Char)}
    {s : Schema} :
    s ∈ activeSchemas r texts ↔
      s ∈ r.schemas ∧ ∃ text ∈ texts, occursIn s.declarationPattern.toList text = true := by
  have hall : ∀ (texts : List (List Char)) (active : List Schema), active ⊆ r.schemas →
      (s ∈ texts.foldl (fun active text => activate active text r.schemas) active ↔
        s ∈ active ∨
          s ∈ r.schemas ∧ ∃ text ∈ texts, occursIn s.declarationPattern.toList text = true) := by
    intro texts
    induction texts with
    | nil => simp
    | cons text texts ih =>
        intro active hactive
        have hsub : activate active text r.schemas ⊆ r.schemas := fun t ht =>
          (mem_of_mem_activate ht).elim (fun h => hactive h) id
        rw [List.foldl_cons, ih _ hsub, mem_activate_iff hr hactive (List.Subset.refl _),
          List.exists_mem_cons_iff, or_assoc, and_or_left]
  rw [activeSchemas, hall texts [] (List.nil_subset _)]
  simp

/-- The schemas that a document activates are those of the registry that occur in its
declarations. -/
theorem Document.mem_activeSchemas_iff {r : Registry} (hr : r.patterns.Nodup) (d : Document)
    (s : Schema) : s ∈ d.activeSchemas r ↔ s ∈ r.schemas.filter d.activates := by
  rw [Document.activeSchemas, DslOutline.mem_activeSchemas_iff hr, List.mem_filter]
  simp [Document.activates]

/-- Schemas that a declaration does not activate might as well not be there. -/
theorem activate_filter {active schemas : List Schema} {text : List Char} {p : Schema → Bool}
    (h : ∀ s ∈ schemas, occursIn s.declarationPattern.toList text = true → p s = true) :
    activate active text (schemas.filter p) = activate active text schemas := by
  induction schemas generalizing active with
  | nil => rfl
  | cons t schemas ih =>
      have htail : ∀ {active : List Schema},
          activate active text (schemas.filter p) = activate active text schemas :=
        ih fun s hs => h s (List.mem_cons_of_mem t hs)
      by_cases ht : p t = true
      · simp only [List.filter_cons_of_pos ht, activate, htail]
      · have hoccurs : occursIn t.declarationPattern.toList text = false := by
          rw [Bool.eq_false_iff]
          exact fun hoccurs => ht (h t List.mem_cons_self hoccurs)
        simp only [List.filter_cons_of_neg ht, activate, hoccurs, Bool.and_false, htail]
        rfl

/-- What is active does not depend on schemas that no declaration activates. -/
theorem Document.activeSchemas_filter (d : Document) (r : Registry) :
    d.activeSchemas ⟨r.schemas.filter d.activates⟩ = d.activeSchemas r := by
  unfold Document.activeSchemas DslOutline.activeSchemas
  refine List.foldl_ext _ _ _ ?_
  intro active text htext
  refine activate_filter ?_
  intro s _ hoccurs
  obtain ⟨u, hu, rfl⟩ := List.mem_map.mp htext
  exact List.any_eq_true.mpr ⟨u, hu, hoccurs⟩

/-! ### Ranges without specs -/

/-- The lines on which sections start: those that read `name do` for one of the names. -/
theorem map_line_sectionStarts (d : Document) (specs : List SectionSpec) :
    (sectionStarts d specs).map SectionStart.line =
      (List.range' 1 d.lineCount).filter fun n =>
        (specs.map SectionSpec.name).any fun name =>
          isSectionStart name.toList (trim (d.maskedLine n)) := by
  rw [sectionStarts]
  induction List.range' 1 d.lineCount with
  | nil => rfl
  | cons n ns ih =>
      have hany : ((specs.map SectionSpec.name).any fun name =>
          isSectionStart name.toList (trim (d.maskedLine n))) =
            (sectionStart? d specs n).isSome := by
        rw [sectionStart?, Option.isSome_map, List.isSome_find?, List.any_map]
        rfl
      rw [List.filterMap_cons, List.filter_cons, hany]
      cases hstart : sectionStart? d specs n with
      | none => simpa using ih
      | some s =>
          obtain ⟨spec, -, rfl⟩ := Option.map_eq_some_iff.mp hstart
          simpa using ih

/-- Where a section starts and ends. -/
def Section.range (s : Section) : Position × Position :=
  (s.start, s.stop)

/-- The range of a section depends on its line and not on what the section is. -/
theorem SectionStart.range_toSection {s t : SectionStart} (h : s.line = t.line) (d : Document)
    (last : Nat) : (s.toSection d last).range = (t.toSection d last).range := by
  simp only [SectionStart.toSection, h]
  split <;> rfl

/-- The ranges of sections depend on the lines on which they start. -/
theorem map_range_sectionsFrom (d : Document) {starts starts' : List SectionStart}
    (h : starts.map SectionStart.line = starts'.map SectionStart.line) :
    (sectionsFrom d starts).map Section.range = (sectionsFrom d starts').map Section.range := by
  induction starts generalizing starts' with
  | nil =>
      rw [List.map_nil, eq_comm, List.map_eq_nil_iff] at h
      rw [h]
  | cons s starts ih =>
      obtain ⟨s', starts', rfl, hline, hrest⟩ := List.map_eq_cons_iff.mp h.symm
      have htail := ih hrest.symm
      have hhead := SectionStart.range_toSection hline.symm d
      cases starts with
      | nil =>
          rw [List.map_nil, List.map_eq_nil_iff] at hrest
          rw [hrest]
          simp only [sectionsFrom, List.map_singleton, hhead]
      | cons t rest =>
          obtain ⟨t', rest', rfl, hnext, -⟩ := List.map_eq_cons_iff.mp hrest
          simp only [sectionsFrom, List.map_cons] at htail ⊢
          rw [htail, hhead, hnext]

/-- With the same names to look for, sections have the same ranges. -/
theorem map_range_findSections (d : Document) {specs specs' : List SectionSpec}
    (h : ∀ name, (∃ spec ∈ specs, spec.name = name) ↔ ∃ spec ∈ specs', spec.name = name) :
    (findSections d specs).map Section.range = (findSections d specs').map Section.range := by
  have hany : ∀ p : String → Bool,
      (specs.map SectionSpec.name).any p = (specs'.map SectionSpec.name).any p := by
    intro p
    rw [Bool.eq_iff_iff, List.any_eq_true, List.any_eq_true]
    simp only [List.mem_map, h]
  refine map_range_sectionsFrom d ?_
  simp only [map_line_sectionStarts, hany]

/-! ### Two registries -/

/-- Extraction reads the registry only through the schemas that are active. -/
theorem extract_congr {r₁ r₂ : Registry} {d : Document}
    (h : d.activeSchemas r₁ = d.activeSchemas r₂) : extract r₁ d = extract r₂ d := by
  unfold extract
  rw [h]

/-- The strategy depends on the registry through the number of sections only. -/
theorem outline_strategy (r : Registry) (fallback : Bool) (d : Document) :
    (outline r fallback d).strategy = chooseStrategy fallback (extract r d).sections := by
  unfold outline
  dsimp only
  split <;> rename_i h <;> exact h.symm

/-- Whether the sections are guessed depends on whether there are any, and not on what is in
them. -/
theorem chooseStrategy_congr {fallback : Bool} {sections sections' : List Section}
    (h : sections.map Section.range = sections'.map Section.range) :
    chooseStrategy fallback sections = chooseStrategy fallback sections' := by
  have hempty : sections.isEmpty = sections'.isEmpty := by
    rw [← List.isEmpty_map (f := Section.range), h, List.isEmpty_map]
  rw [chooseStrategy, hempty, chooseStrategy]

/-- **An extraction depends on the active schemas only.** Let two registries, each with distinct
declaration patterns, hold the same active schemas of a document, among whatever others and in
whatever order. Then the `use` declarations, the module name, the ranges of the sections and the
strategy are the same. If moreover the active schemas are in the same order, the two extractions are
equal. -/
theorem extract_of_same_active {r₁ r₂ : Registry} (h₁ : r₁.patterns.Nodup)
    (h₂ : r₂.patterns.Nodup) (d : Document)
    (hactive : ∀ s, s ∈ r₁.schemas.filter d.activates ↔ s ∈ r₂.schemas.filter d.activates) :
    (extract r₁ d).uses = (extract r₂ d).uses ∧
    (extract r₁ d).moduleName = (extract r₂ d).moduleName ∧
    (extract r₁ d).sections.map Section.range = (extract r₂ d).sections.map Section.range ∧
    (∀ fallback, (outline r₁ fallback d).strategy = (outline r₂ fallback d).strategy) ∧
    (r₁.schemas.filter d.activates = r₂.schemas.filter d.activates →
      extract r₁ d = extract r₂ d) := by
  have hranges : (extract r₁ d).sections.map Section.range =
      (extract r₂ d).sections.map Section.range := by
    refine map_range_findSections d fun name => ?_
    simp only [exists_mem_sectionSpecs_name, Document.mem_activeSchemas_iff h₁,
      Document.mem_activeSchemas_iff h₂, hactive]
  refine ⟨rfl, rfl, hranges, ?_, ?_⟩
  · intro fallback
    rw [outline_strategy, outline_strategy, chooseStrategy_congr hranges]
  · intro horder
    refine extract_congr ?_
    rw [← d.activeSchemas_filter r₁, horder, d.activeSchemas_filter]

/-- Two schemas give entries to one section. In the second registry they are in the other order, so
that the entries differ, but the ranges do not; in the third one they are in the same order, behind
another unused schema. -/
theorem extract_of_same_active_reordered :
    let a : Schema := ⟨"A", "Ash", [⟨"things", none, [⟨"x", none, none, true, none⟩]⟩]⟩
    let b : Schema :=
      ⟨"B", "Bel", [⟨"more", none, []⟩, ⟨"things", none, [⟨"x", none, none, false, none⟩]⟩]⟩
    let unused : Schema := ⟨"C", "Cyd", [⟨"other", none, []⟩]⟩
    let d := Document.ofString "use Ash, Bel\nother do\nend\nthings do\n x\nend\nmore do"
    (extract ⟨[a, unused, b]⟩ d).sections ≠ (extract ⟨[b, a]⟩ d).sections ∧
      (extract ⟨[a, unused, b]⟩ d).sections.map Section.range =
        (extract ⟨[b, a]⟩ d).sections.map Section.range ∧
      extract ⟨[a, unused, b]⟩ d = extract ⟨[unused, a, b]⟩ d := by
  intro a b unused d
  have h₁ : (⟨[a, unused, b]⟩ : Registry).patterns.Nodup := by decide +kernel
  have h₂ : (⟨[b, a]⟩ : Registry).patterns.Nodup := by decide +kernel
  have h₃ : (⟨[unused, a, b]⟩ : Registry).patterns.Nodup := by decide +kernel
  have hfirst : [a, unused, b].filter d.activates = [a, b] := by decide +kernel
  have hsecond : [b, a].filter d.activates = [b, a] := by decide +kernel
  have hthird : [unused, a, b].filter d.activates = [a, b] := by decide +kernel
  have hswap : ∀ s, s ∈ [a, unused, b].filter d.activates ↔ s ∈ [b, a].filter d.activates := by
    intro s
    rw [hfirst, hsecond, List.mem_pair, List.mem_pair, or_comm]
  refine ⟨by decide +kernel, (extract_of_same_active h₁ h₂ d hswap).2.2.1, ?_⟩
  exact (extract_of_same_active h₁ h₃ d fun s => by rw [hfirst, hthird]).2.2.2.2
    (hfirst.trans hthird.symm)

end DslOutline
