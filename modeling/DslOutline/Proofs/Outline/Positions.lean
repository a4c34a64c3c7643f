import DslOutline.Proofs.Outline.Ranges

/-!
# What stands at the positions of an outline

Words are looked for on the masked lines, and their positions are computed from what the search
measures there. `CodeWordAt cs p word` says of the text as written that the word stands at the
position, which is one place only (`Text.PlaceAt.unique`), and that it is code. This holds of the
first word of every line that is not blank on the mask (`Document.IsCodeLine.codeWordAt`), so it
holds of section names and of entry keywords, which are first words of such lines. The position just
past a closed section comes after the word `end`. Definitions and links have no positions of their
own: they take them from entries.
-/

namespace DslOutline

open Text

/-! ### Words at positions -/

/-- The text at a position starts with a word that is code. -/
def CodeWordAt (cs : List Char) (p : Position) (word : List Char) : Prop :=
  ∃ pre before after, PlaceAt cs p pre before after ∧ word <+: after ∧
    ∀ i, byteLength (pre ++ before) ≤ i → i < byteLength (pre ++ before) + byteLength word →
      InCode cs i

/-- The text on the line in front of a position ends with a word. -/
def WordBefore (cs : List Char) (p : Position) (word : List Char) : Prop :=
  ∃ pre before after, PlaceAt cs p pre before after ∧ word <:+ before

namespace Document

/-- A word that begins a masked line stands in the text where the line's indentation ends. -/
theorem IsCodeLine.codeWordAt {cs : List Char} {n : Nat} (h : (ofText cs).IsCodeLine n)
    {word : List Char} (hword : word <+: trimStart ((ofText cs).maskedLine n))
    (hblank : ∀ c ∈ word, isBlank c = false) :
    CodeWordAt cs ((ofText cs).firstNonBlank n) word := by
  obtain ⟨a, c, b, hcs, -, hafter, hlen, -, hcode⟩ :=
    exists_word_at_indentation h.one_le h.le_lineCount h.trimStart_ne_nil hword hblank
  obtain ⟨pre, before, rfl, hplace⟩ := exists_placeAt hcs
  rw [hlen] at hplace
  exact ⟨pre, before, c :: b, hplace, hafter, hcode⟩

/-- The indentation has as many characters on the line as written. -/
theorem IsCodeLine.firstNonBlank_eq {cs : List Char} {n : Nat} (h : (ofText cs).IsCodeLine n) :
    (ofText cs).firstNonBlank n =
      ⟨n, (takeBytes ((ofText cs).indentation n) ((ofText cs).line n)).length + 1⟩ := by
  obtain ⟨a, c, b, hcs, hblank, -, hlen, -, -⟩ :=
    exists_word_at_indentation h.one_le h.le_lineCount h.trimStart_ne_nil List.nil_prefix (by simp)
  obtain ⟨pre, before, rfl, hplace⟩ := exists_placeAt hcs
  rw [hlen] at hplace
  change PlaceAt cs ((ofText cs).firstNonBlank n) pre before (c :: b) at hplace
  have hfeed : c ≠ '\n' := by
    rintro rfl
    cases hblank
  have hreturn : c ≠ '\r' := by
    rintro rfl
    cases hblank
  obtain ⟨hstart, more, htext⟩ := hplace.exists_lineText hfeed hreturn
  rw [h.firstNonBlank_line] at hstart htext
  have hindent : (ofText cs).indentation n = byteLength before := by
    change (ofText cs).lineStart n = byteLength pre at hstart
    rw [byteLength_append, hstart] at hlen
    exact (Nat.add_left_cancel hlen).symm
  have hcolumn : takeBytes ((ofText cs).indentation n) ((ofText cs).line n) = before := by
    rw [hindent, show (ofText cs).line n = _ from htext, takeBytes_append]
  have hline := h.firstNonBlank_line
  rw [hcolumn]
  rw [hplace.position_eq] at hline ⊢
  rw [← hline]

end Document

/-! ### Sections and entries -/

/-- A name or keyword without white space. -/
def IsWord (s : String) : Prop :=
  ∀ c ∈ s.toList, isBlank c = false

instance (s : String) : Decidable (IsWord s) :=
  List.decidableBAll (fun c => isBlank c = false) s.toList

/-- The positions of a section and its entries point at what they are positions of. -/
structure Section.Faithful (s : Section) (cs : List Char) : Prop where
  name : CodeWordAt cs s.start s.name.toList
  keywords : ∀ c ∈ s.children, CodeWordAt cs c.start c.keyword.toList
  ending : s.closed = true → WordBefore cs s.stop ['e', 'n', 'd']

/-- The line of a section start begins with the name of the section. -/
theorem name_prefix_of_mem_sectionStarts {d : Document} {specs : List SectionSpec}
    {s : SectionStart} (hs : s ∈ sectionStarts d specs) :
    s.spec.name.toList <+: trimStart (d.maskedLine s.line) := by
  obtain ⟨-, -, -, blanks, -, -, hopens⟩ := of_mem_sectionStarts hs
  have htrim : trim (d.maskedLine s.line) <+: trimStart (d.maskedLine s.line) :=
    List.rdropWhile_prefix isBlank _
  rw [hopens] at htrim
  exact (List.prefix_append _ _).trans htrim

/-- An entry starts with its keyword. -/
theorem codeWordAt_of_mem_matchChildren {cs : List Char} {patterns : List ChildPattern}
    (hwords : ∀ p ∈ patterns, IsWord p.keyword) {first stop : Nat} (h1 : 1 ≤ first)
    (hstop : stop ≤ (Document.ofText cs).lineCount) {c : Child}
    (hc : c ∈ matchChildren patterns ((Document.ofText cs).linesBetween first stop)) :
    CodeWordAt cs c.start c.keyword.toList := by
  obtain ⟨l, hl, hmatch⟩ := List.mem_filterMap.mp hc
  obtain ⟨n, hn, rfl⟩ := List.mem_map.mp hl
  obtain ⟨hne, p, hp, hkeyword, rfl⟩ := of_matchChild hmatch
  rw [List.mem_range'_1] at hn
  have hcode : (Document.ofText cs).IsCodeLine n := ⟨by omega, by omega, hne⟩
  have hword := hcode.codeWordAt hkeyword (hwords p hp)
  rw [hcode.firstNonBlank_eq] at hword
  exact hword

/-- The end of a block comes after the word `end`. -/
theorem wordBefore_of_blockEnd? {cs : List Char} {first last : Nat} {stop : Position}
    (h : (Document.ofText cs).blockEnd? first last = some stop) :
    WordBefore cs stop ['e', 'n', 'd'] := by
  obtain ⟨e, he, rfl⟩ := Option.map_eq_some_iff.mp h
  obtain ⟨p, q, hcs, rfl, -, -⟩ := exists_end_of_blockEndWithin he
  obtain ⟨pre, before, hsplit, hplace⟩ := exists_placeAt hcs
  exact ⟨pre, before, q, hplace, hplace.whole.suffix_of_append_eq hsplit.symm (by decide)⟩

/-- A section and its entries stand where their positions say. -/
theorem SectionStart.toSection_faithful {cs : List Char} {specs : List SectionSpec}
    {s : SectionStart} (hs : s ∈ sectionStarts (.ofText cs) specs) (hname : IsWord s.spec.name)
    (hwords : ∀ p ∈ s.spec.patterns, IsWord p.keyword) {last : Nat} (hle : s.line ≤ last)
    (hlast : last ≤ (Document.ofText cs).lineCount) :
    (s.toSection (.ofText cs) last).Faithful cs := by
  have hcode := isCodeLine_of_mem_sectionStarts hs
  have hstart := hcode.codeWordAt (name_prefix_of_mem_sectionStarts hs) hname
  simp only [toSection]
  split
  · exact ⟨hstart, by simp, by simp⟩
  · rename_i stop hstop
    have hline := (Document.line_of_blockEnd? hcode.one_le hle hlast hstop).2
    refine ⟨hstart, ?_, fun _ => wordBefore_of_blockEnd? hstop⟩
    intro c hc
    exact codeWordAt_of_mem_matchChildren hwords (Nat.le_add_left 1 s.line)
      (Nat.le_trans hline hlast) hc

/-! ### Schemas that are active -/

/-- No section name and no entry keyword has white space in it. -/
def Registry.HasWords (r : Registry) : Prop :=
  ∀ schema ∈ r.schemas, ∀ sec ∈ schema.sections,
    IsWord sec.name ∧ ∀ p ∈ sec.children, IsWord p.keyword

instance (r : Registry) : Decidable r.HasWords :=
  inferInstanceAs (Decidable (∀ schema ∈ r.schemas, ∀ sec ∈ schema.sections,
    IsWord sec.name ∧ ∀ p ∈ sec.children, IsWord p.keyword))

/-- Declarations activate schemas of the registry only. -/
theorem mem_of_mem_activate {active schemas : List Schema} {text : List Char} {schema : Schema}
    (h : schema ∈ activate active text schemas) : schema ∈ active ∨ schema ∈ schemas := by
  induction schemas generalizing active with
  | nil => exact Or.inl h
  | cons s schemas ih =>
      simp only [activate] at h
      split at h
      · rcases ih h with h | h
        · rcases List.mem_append.mp h with h | h
          · exact Or.inl h
          · exact Or.inr (List.mem_cons.mpr (Or.inl (List.mem_singleton.mp h)))
        · exact Or.inr (List.mem_cons_of_mem s h)
      · rcases ih h with h | h
        · exact Or.inl h
        · exact Or.inr (List.mem_cons_of_mem s h)

/-- Only schemas of the registry are active. -/
theorem mem_of_mem_activeSchemas {r : Registry} {texts : List (List Char)} {schema : Schema}
    (h : schema ∈ activeSchemas r texts) : schema ∈ r.schemas := by
  have hall : ∀ s ∈ activeSchemas r texts, s ∈ r.schemas := by
    refine List.foldlRecOn (motive := fun active => ∀ s ∈ active, s ∈ r.schemas) texts _ ?_ ?_
    · intro s hs
      cases hs
    · intro active hactive text _ s hs
      rcases mem_of_mem_activate hs with hs | hs
      · exact hactive s hs
      · exact hs
  exact hall schema h

/-- The specs of a document inherit the words of the registry. -/
theorem isWord_of_mem_sectionSpecs {r : Registry} (hr : r.HasWords) {d : Document}
    {spec : SectionSpec} (h : spec ∈ sectionSpecs (d.activeSchemas r)) :
    IsWord spec.name ∧ ∀ p ∈ spec.patterns, IsWord p.keyword := by
  constructor
  · obtain ⟨schema, hschema, sec, hsec, hname⟩ :=
      (exists_mem_sectionSpecs_name _ spec.name).mp ⟨spec, h, rfl⟩
    rw [← hname]
    exact (hr schema (mem_of_mem_activeSchemas hschema) sec hsec).1
  · intro p hp
    obtain ⟨schema, hschema, sec, hsec, hmem⟩ :=
      (exists_mem_sectionSpecs_patterns _ p).mp ⟨spec, h, hp⟩
    exact (hr schema (mem_of_mem_activeSchemas hschema) sec hsec).2 p hmem

/-! ### Definitions and links -/

namespace Extraction

/-- An entry of a section defines a name at a position. -/
def Defines (e : Extraction) (sectionName name : String) (p : Position) : Prop :=
  ∃ s ∈ e.sections, s.name = sectionName ∧
    ∃ c ∈ s.children, c.isDefinition = true ∧ c.name = some name ∧ c.start = p

/-- An entry refers to a name of a section at a position. -/
def Refers (e : Extraction) (target name : String) (p : Position) : Prop :=
  ∃ s ∈ e.sections, ∃ c ∈ s.children, c.reference = some ⟨target, name⟩ ∧ c.start = p

end Extraction

/-- Each definition is an entry of a section that defines its name. -/
theorem defines_of_mem_definitions {r : Registry} {d : Document} {x : DefinitionEntry}
    (h : x ∈ (extract r d).definitions) :
    (extract r d).Defines x.sectionName x.name x.position := by
  obtain ⟨s, hs, hx⟩ := List.mem_flatMap.mp h
  obtain ⟨c, hc, hdef⟩ := List.mem_filterMap.mp hx
  unfold Child.definition? at hdef
  split at hdef
  · rename_i hisDef
    obtain ⟨name, hname, rfl⟩ := Option.map_eq_some_iff.mp hdef
    exact ⟨s, hs, rfl, c, hc, hisDef, hname, rfl⟩
  · cases hdef

/-- A link goes from an entry that refers to a name to the definition of that name. -/
theorem of_link? {definitions : List DefinitionEntry} {c : Child} {l : Link}
    (h : c.link? definitions = some l) :
    c.reference = some ⟨l.targetSection, l.name⟩ ∧ c.start = l.source ∧
      ∃ x ∈ definitions, x.sectionName = l.targetSection ∧ x.name = l.name ∧
        x.position = l.target := by
  obtain ⟨ref, href, hlink⟩ := Option.bind_eq_some_iff.mp h
  split at hlink
  · cases hlink
  · obtain ⟨x, hx, hsome⟩ := Option.bind_eq_some_iff.mp hlink
    have hfound := List.find?_some hx
    rw [Bool.and_eq_true, beq_iff_eq, beq_iff_eq] at hfound
    cases hsome
    refine ⟨?_, rfl, x, List.mem_of_find?_eq_some hx, rfl, hfound.2, rfl⟩
    rw [href, hfound.1]

/-- Each link leads from an entry that refers to a name to one that defines it. -/
theorem of_mem_links {r : Registry} {d : Document} {l : Link} (h : l ∈ (extract r d).links) :
    (extract r d).Refers l.targetSection l.name l.source ∧
      (extract r d).Defines l.targetSection l.name l.target := by
  obtain ⟨c, hc, hlink⟩ := List.mem_filterMap.mp h
  obtain ⟨s, hs, hc⟩ := List.mem_flatMap.mp hc
  obtain ⟨href, hstart, x, hx, hsection, hname, hposition⟩ := of_link? hlink
  refine ⟨⟨s, hs, c, hc, href, hstart⟩, ?_⟩
  rw [← hsection, ← hname, ← hposition]
  exact defines_of_mem_definitions hx

/-- **The positions of an extraction point at what they are positions of.** If no name and no
keyword of the registry has white space in it, the text at the start of a section spells its name
and the text at the start of an entry its keyword, all of it code; a closed section ends just after
the word `end`. The positions of definitions and links are starts of entries that define or refer to
the name in question. -/
theorem extract_positions {r : Registry} (hr : r.HasWords) (cs : List Char) :
    (∀ s ∈ (extract r (.ofText cs)).sections, s.Faithful cs) ∧
    (∀ x ∈ (extract r (.ofText cs)).definitions,
      (extract r (.ofText cs)).Defines x.sectionName x.name x.position) ∧
    ∀ l ∈ (extract r (.ofText cs)).links,
      (extract r (.ofText cs)).Refers l.targetSection l.name l.source ∧
        (extract r (.ofText cs)).Defines l.targetSection l.name l.target := by
  refine ⟨?_, fun x hx => defines_of_mem_definitions hx, fun l hl => of_mem_links hl⟩
  intro sec hsec
  obtain ⟨s, hs, last, hle, hlast, rfl⟩ := exists_of_mem_findSections hsec
  obtain ⟨-, -, hspec, -⟩ := of_mem_sectionStarts hs
  obtain ⟨hname, hwords⟩ := isWord_of_mem_sectionSpecs hr hspec
  exact SectionStart.toSection_faithful hs hname hwords hle hlast

/-- The text starts with a byte order mark, and a literal with a character of two bytes stands in
front of the entry that is linked to. -/
theorem extract_positions_after_literal :
    let defining : ChildPattern := ⟨"x", Pattern.compile? "(a)", none, true, none⟩
    let referring : ChildPattern :=
      ⟨"y", Pattern.compile? "(a)", none, false, some ⟨"things", none⟩⟩
    let r : Registry := ⟨[⟨"A", "A", [⟨"things", none, [defining, referring]⟩]⟩]⟩
    let cs := "\ufeffuse A\r\nthings do\r\n \"é\" x a\r\n y a # a\nend".toList
    let e := extract r (.ofText cs)
    r.HasWords ∧ e.links = [⟨"a", ⟨4, 2⟩, ⟨3, 6⟩, "things"⟩] ∧ e.sections.length = 1 ∧
      (∀ s ∈ e.sections, s.Faithful cs) ∧ e.Defines "things" "a" ⟨3, 6⟩ := by
  intro defining referring r cs e
  have hr : r.HasWords := by decide +kernel
  have hlinks : e.links = [⟨"a", ⟨4, 2⟩, ⟨3, 6⟩, "things"⟩] := by decide +kernel
  obtain ⟨hsections, -, htargets⟩ := extract_positions hr cs
  refine ⟨hr, hlinks, by decide +kernel, hsections, ?_⟩
  exact (htargets _ (hlinks ▸ List.mem_singleton.mpr rfl)).2

end DslOutline
