import DslOutline.Proofs.Outline.Positions
import Mathlib.Data.List.Forall2
import Mathlib.Order.Bounds.Defs

/-!
# Which definitions and links there are

Definitions and links are read off the entries of all sections, in the order of the document. That
order is the order of positions (`pairwise_entries`), because sections do not overlap and entries
stand on lines of their own. So the first definition of a name is the one at the least position
(`isLeast_of_find?`), and a link leads to it. The main statement (`definitions_and_links`) pairs the
definitions with the entries that define a name, and the links with the entries whose reference has
a definition.
-/

namespace DslOutline

open Text

/-! ### Positions in order -/

theorem Text.Position.le_of_lt {p q : Position} (h : p < q) : p ≤ q :=
  h.imp_right fun ⟨hline, hcolumn⟩ => ⟨hline, Nat.le_of_lt hcolumn⟩

theorem Text.Position.le_refl (p : Position) : p ≤ p :=
  Or.inr ⟨rfl, Nat.le_refl _⟩

/-! ### Entries in document order -/

/-- The entries of all sections, each with the name of its section, in document order. -/
def Extraction.entries (e : Extraction) : List (String × Child) :=
  e.sections.flatMap fun s => s.children.map (s.name, ·)

/-- An entry of an extraction is an entry of one of its sections. -/
theorem exists_of_mem_entries {e : Extraction} {x : String × Child} (h : x ∈ e.entries) :
    ∃ s ∈ e.sections, x.2 ∈ s.children := by
  obtain ⟨s, hs, hx⟩ := List.mem_flatMap.mp h
  obtain ⟨c, hc, rfl⟩ := List.mem_map.mp hx
  exact ⟨s, hs, hc⟩

/-- Sections that are arranged have their entries in order of position. -/
theorem Arranged.pairwise_entries {e : Extraction} {last : Nat} (h : Arranged e.sections last) :
    e.entries.Pairwise fun x y => x.2.start < y.2.start := by
  rw [Extraction.entries, List.pairwise_flatMap]
  constructor
  · intro s hs
    have hsorted := (h.placed s hs).children_sorted
    rw [List.pairwise_map] at hsorted ⊢
    exact hsorted.imp fun hlt => Or.inl hlt
  · -- an entry of an earlier section is above the end of that section
    refine h.apart.imp_of_mem ?_
    intro s t hs ht hapart x hx y hy
    obtain ⟨c, hc, rfl⟩ := List.mem_map.mp hx
    obtain ⟨c', hc', rfl⟩ := List.mem_map.mp hy
    have hbefore := ((h.placed s hs).children_inside c hc).2
    have hafter := ((h.placed t ht).children_inside c' hc').1
    left
    show c.start.line < c'.start.line
    omega

/-! ### What is read off the entries -/

/-- What a partial function gives on a list stands in the order of what it is given for. -/
theorem forall₂_filterMap {α β : Type} (f : α → Option β) (l : List α) :
    List.Forall₂ (fun b a => a ∈ l ∧ f a = some b) (l.filterMap f)
      (l.filter fun a => (f a).isSome) := by
  induction l with
  | nil => exact List.Forall₂.nil
  | cons a l ih =>
      have htail : List.Forall₂ (fun b c => c ∈ a :: l ∧ f c = some b) (l.filterMap f)
          (l.filter fun c => (f c).isSome) :=
        ih.imp fun _ _ h => h.imp_left (List.mem_cons_of_mem a)
      cases ha : f a with
      | none => simpa [ha] using htail
      | some b => simpa [ha] using htail

/-- The definitions come from the entries in document order. -/
theorem definitionsOf_eq (e : Extraction) :
    definitionsOf e.sections = e.entries.filterMap fun x => x.2.definition? x.1 := by
  rw [definitionsOf, Extraction.entries, List.filterMap_flatMap]
  simp only [List.filterMap_map]
  rfl

theorem linksOf_eq (e : Extraction) (definitions : List DefinitionEntry) :
    linksOf e.sections definitions = e.entries.filterMap fun x => x.2.link? definitions := by
  rw [linksOf, Extraction.entries, List.filterMap_flatMap, List.filterMap_flatMap]
  simp only [List.filterMap_map]
  rfl

/-- What an entry that is marked as a definition defines: its name, in its section, at its place. -/
theorem Child.definition?_eq_some_iff {sectionName : String} {c : Child} {x : DefinitionEntry} :
    c.definition? sectionName = some x ↔
      c.isDefinition = true ∧ x.sectionName = sectionName ∧ c.name = some x.name ∧
        x.position = c.start := by
  obtain ⟨s, name, p⟩ := x
  unfold Child.definition?
  split_ifs with hdef
  · simp only [Option.map_eq_some_iff, DefinitionEntry.mk.injEq, hdef, true_and]
    constructor
    · rintro ⟨n, hn, rfl, rfl, rfl⟩
      exact ⟨rfl, hn, rfl⟩
    · rintro ⟨rfl, hn, rfl⟩
      exact ⟨name, hn, rfl, rfl, rfl⟩
  · simp [hdef]

/-- An entry defines something if it is marked as a definition and has a name. -/
theorem Child.isSome_definition? (sectionName : String) (c : Child) :
    (c.definition? sectionName).isSome = (c.isDefinition && c.name.isSome) := by
  unfold Child.definition?
  cases c.isDefinition <;> simp

/-- The definitions are in order of position. -/
theorem Arranged.pairwise_definitions {e : Extraction} {last : Nat}
    (h : Arranged e.sections last) :
    (definitionsOf e.sections).Pairwise fun x y => x.position < y.position := by
  rw [definitionsOf_eq, List.pairwise_filterMap]
  refine h.pairwise_entries.imp ?_
  intro a b hlt x hx y hy
  rw [(Child.definition?_eq_some_iff.mp hx).2.2.2, (Child.definition?_eq_some_iff.mp hy).2.2.2]
  exact hlt

/-! ### Names that are referred to -/

/-- What a pattern captures is not empty. -/
theorem isEmpty_of_capture? {p : Option Pattern} {text : List Char} {s : String}
    (h : capture? p text = some s) : s.isEmpty = false := by
  obtain ⟨pattern, -, h⟩ := Option.bind_eq_some_iff.mp h
  obtain ⟨value, -, h⟩ := Option.bind_eq_some_iff.mp h
  dsimp only at h
  split_ifs at h with hempty
  cases h
  rw [Bool.eq_false_iff]
  intro hnil
  rw [String.isEmpty_iff, ← String.ofList_nil, String.ofList_inj] at hnil
  simp [hnil] at hempty

/-- The name that an entry refers to is not empty. -/
theorem isEmpty_of_reference {p : ChildPattern} {l : SourceLine} {indent : Nat}
    {ref : ChildReference} (h : (p.child l indent).reference = some ref) :
    ref.name.isEmpty = false := by
  obtain ⟨target, -, h⟩ := Option.bind_eq_some_iff.mp h
  obtain ⟨name, hname, rfl⟩ := Option.map_eq_some_iff.mp h
  rw [Option.orElse_eq_orElse, Option.orElse_eq_or, Option.or_eq_some_iff] at hname
  rcases hname with hname | ⟨-, hname⟩
  · exact isEmpty_of_capture? hname
  · exact isEmpty_of_capture? hname

/-- An entry of a section was found on a line, for one of the patterns of the section. -/
theorem exists_child_of_mem_toSection {s : SectionStart} {d : Document} {last : Nat} {c : Child}
    (h : c ∈ (s.toSection d last).children) :
    ∃ p ∈ s.spec.patterns, ∃ l indent, c = p.child l indent := by
  simp only [SectionStart.toSection] at h
  split at h
  · cases h
  · obtain ⟨l, -, hmatch⟩ := List.mem_filterMap.mp h
    obtain ⟨-, p, hp, -, hchild⟩ := of_matchChild hmatch
    exact ⟨p, hp, l, _, hchild⟩

/-- Where an entry refers to something, the name referred to is not empty. -/
theorem isEmpty_of_mem_entries {r : Registry} {d : Document} {x : String × Child}
    (h : x ∈ (extract r d).entries) {ref : ChildReference} (href : x.2.reference = some ref) :
    ref.name.isEmpty = false := by
  obtain ⟨sec, hsec, hc⟩ := exists_of_mem_entries h
  obtain ⟨s, -, last, -, -, rfl⟩ := exists_of_mem_findSections hsec
  obtain ⟨p, -, l, indent, hchild⟩ := exists_child_of_mem_toSection hc
  rw [hchild] at href
  exact isEmpty_of_reference href

/-! ### Where links lead -/

namespace Extraction

/-- The positions at which a name of a section is defined. -/
def definedAt (e : Extraction) (sectionName name : String) : Set Position :=
  {p | ∃ x ∈ e.definitions, x.sectionName = sectionName ∧ x.name = name ∧ x.position = p}

/-- What an entry refers to is defined. -/
def Resolves (e : Extraction) (c : Child) : Prop :=
  ∃ ref ∈ c.reference, ∃ x ∈ e.definitions, x.sectionName = ref.target ∧ x.name = ref.name

instance (e : Extraction) (c : Child) : Decidable (e.Resolves c) :=
  inferInstanceAs (Decidable (∃ ref ∈ c.reference, ∃ x ∈ e.definitions,
    x.sectionName = ref.target ∧ x.name = ref.name))

end Extraction

/-- In a list in order of position, the first element with a property is the one at the least
position. -/
theorem isLeast_of_find? {l : List DefinitionEntry}
    (hsorted : l.Pairwise fun x y => x.position < y.position) {p : DefinitionEntry → Bool}
    {x : DefinitionEntry} (h : l.find? p = some x) :
    IsLeast {q | ∃ y ∈ l, p y = true ∧ y.position = q} x.position := by
  refine ⟨⟨x, List.mem_of_find?_eq_some h, List.find?_some h, rfl⟩, ?_⟩
  rintro q ⟨y, hy, hpy, rfl⟩
  obtain ⟨-, before, after, rfl, hbefore⟩ := List.find?_eq_some_iff_append.mp h
  rcases List.mem_append.mp hy with hy | hy
  · have hnot := hbefore y hy
    rw [hpy] at hnot
    cases hnot
  · rcases List.mem_cons.mp hy with rfl | hy
    · exact Position.le_refl _
    · have hafter := (List.pairwise_append.mp hsorted).2.1
      exact Position.le_of_lt (List.rel_of_pairwise_cons hafter hy)

/-- An entry with a reference that is defined has a link, which leads to the least position at which
it is defined; an entry without one has none. -/
theorem link?_spec {definitions : List DefinitionEntry} {c : Child}
    (hsorted : definitions.Pairwise fun x y => x.position < y.position)
    (hname : ∀ ref, c.reference = some ref → ref.name.isEmpty = false) :
    ((c.link? definitions).isSome = true ↔ ∃ ref ∈ c.reference, ∃ x ∈ definitions,
      x.sectionName = ref.target ∧ x.name = ref.name) ∧
    ∀ l, c.link? definitions = some l →
      c.reference = some ⟨l.targetSection, l.name⟩ ∧ l.source = c.start ∧
        IsLeast {p | ∃ x ∈ definitions, x.sectionName = l.targetSection ∧ x.name = l.name ∧
          x.position = p} l.target := by
  cases href : c.reference with
  | none => simp [Child.link?, href]
  | some ref =>
      have hlink : c.link? definitions =
          (definitions.find? fun x => x.sectionName == ref.target && x.name == ref.name).map
            fun x => ⟨ref.name, c.start, x.position, x.sectionName⟩ := by
        simp only [Child.link?, href, Option.bind_eq_bind, Option.bind_some, hname ref href]
        cases definitions.find? fun x => x.sectionName == ref.target && x.name == ref.name <;> rfl
      rw [hlink]
      constructor
      · simp [List.find?_isSome]
      · intro l hl
        obtain ⟨x, hx, rfl⟩ := Option.map_eq_some_iff.mp hl
        have hfound := List.find?_some hx
        rw [Bool.and_eq_true, beq_iff_eq, beq_iff_eq] at hfound
        refine ⟨by rw [hfound.1], rfl, ?_⟩
        have hleast := isLeast_of_find? hsorted hx
        simpa only [Bool.and_eq_true, beq_iff_eq, and_assoc, hfound.1] using hleast

/-- **Definitions and links are exact.** The entries of a document are in strictly increasing order
of position, and so are the definitions, which are one for each entry that defines a name. There is
one link for each entry whose reference is defined, in the order of these entries, and it leads to
the least position at which the name is defined in sections of that name. -/
theorem definitions_and_links (r : Registry) (cs : List Char) :
    let e := extract r (.ofText cs)
    (e.entries.Pairwise fun x y => x.2.start < y.2.start) ∧
    (e.definitions.Pairwise fun x y => x.position < y.position) ∧
    List.Forall₂ (fun x (a : String × Child) =>
        x.sectionName = a.1 ∧ a.2.name = some x.name ∧ x.position = a.2.start)
      e.definitions (e.entries.filter fun a => a.2.isDefinition && a.2.name.isSome) ∧
    List.Forall₂ (fun l (a : String × Child) =>
        a.2.reference = some ⟨l.targetSection, l.name⟩ ∧ l.source = a.2.start ∧
          IsLeast (e.definedAt l.targetSection l.name) l.target)
      e.links (e.entries.filter fun a => e.Resolves a.2) := by
  intro e
  have harranged : Arranged e.sections (Document.ofText cs).lineCount := arranged_findSections cs _
  have hdefinitions : e.definitions = definitionsOf e.sections := rfl
  have hlinks : e.links = linksOf e.sections e.definitions := rfl
  have hsorted : e.definitions.Pairwise fun x y => x.position < y.position := by
    rw [hdefinitions]
    exact harranged.pairwise_definitions
  refine ⟨harranged.pairwise_entries, hsorted, ?_, ?_⟩
  · have hdefines : (fun a : String × Child => a.2.isDefinition && a.2.name.isSome) =
        fun a => (a.2.definition? a.1).isSome := by
      funext a
      rw [Child.isSome_definition?]
    rw [hdefinitions, definitionsOf_eq, hdefines]
    refine (forall₂_filterMap _ _).imp ?_
    intro x a ha
    exact (Child.definition?_eq_some_iff.mp ha.2).2
  · have hresolves : e.entries.filter (fun a => decide (e.Resolves a.2)) =
        e.entries.filter fun a => (a.2.link? e.definitions).isSome := by
      refine List.filter_congr ?_
      intro a ha
      have hspec := (link?_spec hsorted fun ref href => isEmpty_of_mem_entries ha href).1
      rw [Bool.eq_iff_iff, hspec, decide_eq_true_eq]
      rfl
    rw [hlinks, linksOf_eq, hresolves]
    refine (forall₂_filterMap _ _).imp ?_
    intro l a ha
    exact (link?_spec hsorted fun ref href => isEmpty_of_mem_entries ha.1 href).2 l ha.2

end DslOutline
