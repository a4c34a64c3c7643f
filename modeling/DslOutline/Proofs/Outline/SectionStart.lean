import DslOutline.Outline.Basic
import DslOutline.Proofs.Lexeme.Mask

/-!
# Lines on which sections start

A section starts on a line that reads `name do`. `Opens name line` says so of the line as a text:
the name, white space, and the word `do`, with nothing else on the line. The test on trimmed lines
comes to the same (`isSectionStart_trim_iff`). The names looked for are those of the sections of the
active schemas (`exists_mem_sectionSpecs_name`), and every line that reads so for one of them is
among the section starts (`mem_sectionStarts_line`).
-/

namespace DslOutline

open Text

/-! ### Lines that read `name do` -/

/-- A line without white space around it reads `name do`. -/
def Opens (name line : List Char) : Prop :=
  ∃ blanks, blanks ≠ [] ∧ (∀ c ∈ blanks, isBlank c = true) ∧ line = name ++ (blanks ++ ['d', 'o'])

/-- A trimmed text does not end with white space. -/
theorem isBlank_of_getLast?_trim {cs : List Char} {c : Char} (h : (trim cs).getLast? = some c) :
    isBlank c = false := by
  have hne : trim cs ≠ [] := by
    intro hnil
    rw [hnil] at h
    cases h
  have hlast := List.rdropWhile_last_not isBlank (trimStart cs) hne
  rw [List.getLast?_eq_some_getLast hne, Option.some.injEq] at h
  rw [← h]
  exact Bool.eq_false_iff.mpr hlast

/-- Without the white space at its end, a text is its indentation and what trimming keeps. -/
theorem trimEnd_eq {cs : List Char} (h : trim cs ≠ []) :
    trimEnd cs = cs.takeWhile isBlank ++ trim cs := by
  obtain ⟨t, hcs, ht⟩ := exists_eq_append_trim cs
  have hnil : trimEnd t = [] := List.rdropWhile_eq_nil_iff.mpr ht
  nth_rewrite 1 [hcs]
  rw [← List.append_assoc, trimEnd, dropEndWhile_append _ t, ← trimEnd, hnil, List.append_nil]
  intro c hc
  rw [List.getLast?_append_of_ne_nil _ h] at hc
  exact isBlank_of_getLast?_trim hc

/-- White space in front of `do` is trimmed. -/
theorem trim_append_do {blanks : List Char} (h : ∀ c ∈ blanks, isBlank c = true) :
    trim (blanks ++ ['d', 'o']) = ['d', 'o'] := by
  have hstart : trimStart (blanks ++ ['d', 'o']) = ['d', 'o'] := by
    rw [trimStart, List.dropWhile_append_of_pos h]
    rfl
  rw [trim, hstart]
  rfl

/-- On a trimmed line, the test for `name do` is exact. -/
theorem isSectionStart_trim_iff (name cs : List Char) :
    isSectionStart name (trim cs) = true ↔ Opens name (trim cs) := by
  unfold isSectionStart
  constructor
  · intro h
    split at h
    · rename_i c rest hprefix
      rw [List.isPrefixOf?_eq_some_iff_append_eq] at hprefix
      rw [Bool.and_eq_true, beq_iff_eq] at h
      obtain ⟨hc, hdo⟩ := h
      obtain ⟨t, hrest, ht⟩ := exists_eq_append_trim rest
      rw [hdo] at hrest
      -- white space after `do` would be white space at the end of the trimmed line
      have htnil : t = [] := by
        by_contra hne
        have hlast : (trim cs).getLast? = some (t.getLast hne) := by
          rw [← hprefix, hrest, ← List.getLast?_eq_some_getLast hne]
          simp [List.getLast?_append, List.getLast?_cons, List.getLast?_eq_some_getLast hne]
        have hblank := ht _ (List.getLast_mem hne)
        rw [isBlank_of_getLast?_trim hlast] at hblank
        cases hblank
      subst htnil
      rw [List.append_nil] at hrest
      refine ⟨c :: rest.takeWhile isBlank, List.cons_ne_nil _ _, ?_, ?_⟩
      · intro e he
        rcases List.mem_cons.mp he with rfl | he
        · exact hc
        · exact List.mem_takeWhile_imp he
      · rw [List.cons_append, ← hrest, hprefix]
    · cases h
  · rintro ⟨blanks, hne, hblank, hline⟩
    obtain ⟨c, blanks, rfl⟩ := List.exists_cons_of_ne_nil hne
    rw [List.isPrefixOf?_eq_some_iff_append_eq.mpr hline.symm]
    have hdo := trim_append_do fun e he => hblank e (List.mem_cons_of_mem c he)
    simp only [List.cons_append, hdo, hblank c List.mem_cons_self, Bool.true_and, beq_self_eq_true]

/-! ### The names that are looked for -/

/-- A name that a section of an active schema has. -/
def ActiveName (r : Registry) (d : Document) (name : String) : Prop :=
  ∃ schema ∈ d.activeSchemas r, ∃ sec ∈ schema.sections, sec.name = name

/-- Adding a section adds its name and no other. -/
theorem mem_name_addSection (name : String) (s : SectionSchema) (specs : List SectionSpec) :
    (∃ spec ∈ addSection s specs, spec.name = name) ↔
      (∃ spec ∈ specs, spec.name = name) ∨ s.name = name := by
  induction specs with
  | nil => simp [addSection]
  | cons old specs ih =>
      rw [addSection]
      split
      · rename_i hname
        simp only [List.exists_mem_cons_iff, hname]
        rw [or_right_comm, or_self]
      · rw [List.exists_mem_cons_iff, ih, List.exists_mem_cons_iff, or_assoc]

/-- Adding a section adds its entry keywords and no others. -/
theorem mem_patterns_addSection (p : ChildPattern) (s : SectionSchema) (specs : List SectionSpec) :
    (∃ spec ∈ addSection s specs, p ∈ spec.patterns) ↔
      (∃ spec ∈ specs, p ∈ spec.patterns) ∨ p ∈ s.children := by
  induction specs with
  | nil => simp [addSection]
  | cons old specs ih =>
      rw [addSection]
      split
      · simp only [List.exists_mem_cons_iff, List.mem_append]
        exact or_right_comm
      · rw [List.exists_mem_cons_iff, ih, List.exists_mem_cons_iff, or_assoc]

/-- What each added section contributes is what all of them contribute. -/
theorem foldl_addSection_iff {f : List SectionSpec → Prop} {g : SectionSchema → Prop}
    (h : ∀ s specs, f (addSection s specs) ↔ f specs ∨ g s) (secs : List SectionSchema)
    (specs : List SectionSpec) :
    f (secs.foldl (fun specs s => addSection s specs) specs) ↔ f specs ∨ ∃ s ∈ secs, g s := by
  induction secs generalizing specs with
  | nil => simp
  | cons s secs ih =>
      rw [List.foldl_cons, ih, h, List.exists_mem_cons_iff, or_assoc]

/-- What the specs have is what the sections of the schemas contribute. -/
theorem sectionSpecs_iff {f : List SectionSpec → Prop} {g : SectionSchema → Prop} (hnil : ¬ f [])
    (h : ∀ s specs, f (addSection s specs) ↔ f specs ∨ g s) (schemas : List Schema) :
    f (sectionSpecs schemas) ↔ ∃ schema ∈ schemas, ∃ sec ∈ schema.sections, g sec := by
  rw [sectionSpecs, foldl_addSection_iff h]
  constructor
  · rintro (hf | ⟨sec, hsec, hg⟩)
    · exact absurd hf hnil
    · obtain ⟨schema, hschema, hsec⟩ := List.mem_flatMap.mp hsec
      exact ⟨schema, hschema, sec, hsec, hg⟩
  · rintro ⟨schema, hschema, sec, hsec, hg⟩
    exact Or.inr ⟨sec, List.mem_flatMap.mpr ⟨schema, hschema, hsec⟩, hg⟩

/-- The names looked for are the names of the schemas' sections. -/
theorem exists_mem_sectionSpecs_name (schemas : List Schema) (name : String) :
    (∃ spec ∈ sectionSpecs schemas, spec.name = name) ↔
      ∃ schema ∈ schemas, ∃ sec ∈ schema.sections, sec.name = name :=
  sectionSpecs_iff (f := fun specs => ∃ spec ∈ specs, spec.name = name) (by simp)
    (mem_name_addSection name) schemas

/-- The keywords looked for are the keywords of the schemas' sections. -/
theorem exists_mem_sectionSpecs_patterns (schemas : List Schema) (p : ChildPattern) :
    (∃ spec ∈ sectionSpecs schemas, p ∈ spec.patterns) ↔
      ∃ schema ∈ schemas, ∃ sec ∈ schema.sections, p ∈ sec.children :=
  sectionSpecs_iff (f := fun specs => ∃ spec ∈ specs, p ∈ spec.patterns) (by simp)
    (mem_patterns_addSection p) schemas

/-! ### The section starts of a document -/

/-- A section start is the number of a line that reads as its spec says. -/
theorem of_mem_sectionStarts {d : Document} {specs : List SectionSpec} {s : SectionStart}
    (h : s ∈ sectionStarts d specs) :
    1 ≤ s.line ∧ s.line ≤ d.lineCount ∧ s.spec ∈ specs ∧
      Opens s.spec.name.toList (trim (d.maskedLine s.line)) := by
  obtain ⟨n, hn, hs⟩ := List.mem_filterMap.mp h
  obtain ⟨spec, hspec, rfl⟩ := Option.map_eq_some_iff.mp hs
  rw [List.mem_range'_1] at hn
  have hopens := List.find?_some hspec
  have hcount : n ≤ d.lineCount := by omega
  exact ⟨hn.1, hcount, List.mem_of_find?_eq_some hspec, (isSectionStart_trim_iff _ _).mp hopens⟩

/-- Every line that reads `name do` for a name that is looked for is a section start. -/
theorem mem_sectionStarts_line (d : Document) (specs : List SectionSpec) (n : Nat) :
    n ∈ (sectionStarts d specs).map SectionStart.line ↔
      1 ≤ n ∧ n ≤ d.lineCount ∧ ∃ spec ∈ specs, Opens spec.name.toList (trim (d.maskedLine n)) := by
  constructor
  · intro h
    obtain ⟨s, hs, rfl⟩ := List.mem_map.mp h
    obtain ⟨h1, hcount, hspec, hopens⟩ := of_mem_sectionStarts hs
    exact ⟨h1, hcount, s.spec, hspec, hopens⟩
  · rintro ⟨h1, hcount, spec, hspec, hopens⟩
    have hfound : (specs.find? fun spec =>
        isSectionStart spec.name.toList (trim (d.maskedLine n))).isSome = true := by
      rw [List.find?_isSome]
      exact ⟨spec, hspec, (isSectionStart_trim_iff _ _).mpr hopens⟩
    obtain ⟨found, hfound⟩ := Option.isSome_iff_exists.mp hfound
    refine List.mem_map.mpr ⟨⟨n, found⟩, List.mem_filterMap.mpr ⟨n, ?_, ?_⟩, rfl⟩
    · rw [List.mem_range'_1]
      omega
    · rw [sectionStart?, hfound]
      rfl

/-- The section starts are in line order. -/
theorem pairwise_sectionStarts (d : Document) (specs : List SectionSpec) :
    (sectionStarts d specs).Pairwise fun s t => s.line < t.line := by
  rw [sectionStarts, List.pairwise_filterMap]
  refine (List.pairwise_lt_range' 1).imp ?_
  intro m n hlt s hs t ht
  obtain ⟨_, _, rfl⟩ := Option.map_eq_some_iff.mp hs
  obtain ⟨_, _, rfl⟩ := Option.map_eq_some_iff.mp ht
  exact hlt

end DslOutline
