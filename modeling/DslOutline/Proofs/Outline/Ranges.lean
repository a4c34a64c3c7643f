import DslOutline.Proofs.Block.Matching
import DslOutline.Proofs.Outline.SectionStart

/-!
# Line ranges of sections

Sections come from two readers, one that follows schemas and one that guesses. Both put the end of
a section where a search limited to the section's lines finds it, or at the last of these lines.
`Section.Placed` says what the line numbers of one section obey whichever reader made it: the
section lies within the document and its entries lie strictly inside it, one to a line and in order.
That sections do not overlap is where the readers differ. By schemas, a section may not extend to
the line on which the next one starts (`pairwise_sectionsFrom`); by guessing, the reader goes on
after the last line of the section it has just found (`pairwise_heuristicSectionsOn`). `Arranged`
joins the two statements, and the lookup of a section by line rests on it alone.
-/

namespace DslOutline

open Text

/-! ### Where a block ends -/

namespace Document

/-- A block that is searched for between two lines ends on one of these lines. -/
theorem line_of_blockEnd? {cs : List Char} {first last : Nat} {stop : Position} (h1 : 1 ≤ first)
    (hle : first ≤ last) (hlast : last ≤ (ofText cs).lineCount)
    (h : (ofText cs).blockEnd? first last = some stop) :
    first ≤ stop.line ∧ stop.line ≤ last := by
  obtain ⟨e, he, rfl⟩ := Option.map_eq_some_iff.mp h
  obtain ⟨p, q, hcs, rfl, hstart, hlimit⟩ := exists_end_of_blockEndWithin he
  obtain ⟨pre, body, rest, hfirst⟩ := exists_lineAt h1 (Nat.le_trans hle hlast)
  obtain ⟨pre', body', rest', hend⟩ := exists_lineAt (Nat.le_trans h1 hle) hlast
  have hpre : byteLength pre ≤ byteLength (p ++ ['e', 'n', 'd']) := by
    rw [byteLength_append, ← hfirst.lineStart]
    exact Nat.le_trans hstart (Nat.le_add_right _ _)
  have hnot : (p ++ ['e', 'n', 'd']).getLast? ≠ some '\n' := by simp
  exact ⟨hfirst.le_position_line hcs hpre, hend.position_line_le hcs hnot hlimit⟩

/-- The end of a line is on that line. -/
theorem endOfLine_line (d : Document) {n : Nat} (h1 : 1 ≤ n) : (d.endOfLine n).line = n :=
  Nat.max_eq_left h1

end Document

/-! ### The lines of one section -/

/-- The line numbers of a section and its entries are as they should be in a document with `last`
lines. -/
structure Section.Placed (s : Section) (last : Nat) : Prop where
  one_le_start : 1 ≤ s.start.line
  start_le_stop : s.start.line ≤ s.stop.line
  stop_le : s.stop.line ≤ last
  children_sorted : (s.children.map fun c => c.start.line).Pairwise (· < ·)
  children_inside : ∀ c ∈ s.children, s.start.line < c.start.line ∧ c.start.line < s.stop.line

/-- Entries whose lines are some of the lines of the body are in order and inside the section. -/
theorem Section.placed_of_sublist {s : Section} {last : Nat} (h1 : 1 ≤ s.start.line)
    (hle : s.start.line ≤ s.stop.line) (hlast : s.stop.line ≤ last)
    (hbody : List.Sublist (s.children.map fun c => c.start.line)
      (List.range' (s.start.line + 1) (s.stop.line - (s.start.line + 1)))) : s.Placed last := by
  refine ⟨h1, hle, hlast, (List.pairwise_lt_range' 1).sublist hbody, ?_⟩
  intro c hc
  have hmem := hbody.subset (List.mem_map_of_mem hc)
  rw [List.mem_range'_1] at hmem
  omega

/-! ### Lines with code on them -/

theorem trimStart_ne_nil_of_trim {cs : List Char} (h : trim cs ≠ []) : trimStart cs ≠ [] := by
  intro hnil
  rw [trim, hnil] at h
  exact h rfl

/-- A line of a document that is not blank on the mask. -/
structure Document.IsCodeLine (d : Document) (n : Nat) : Prop where
  one_le : 1 ≤ n
  le_lineCount : n ≤ d.lineCount
  trimStart_ne_nil : trimStart (d.maskedLine n) ≠ []

/-- The first character on a line that is not blank on the mask is on that line. -/
theorem Document.IsCodeLine.firstNonBlank_line {cs : List Char} {n : Nat}
    (h : (ofText cs).IsCodeLine n) : ((ofText cs).firstNonBlank n).line = n :=
  Document.firstNonBlank_line h.one_le h.le_lineCount h.trimStart_ne_nil

/-! ### Sections found by schemas -/

/-- A keyword starts a line if the line goes on with no more of an identifier and no colon. -/
theorem startsWithKeyword_iff {word line : List Char} :
    startsWithKeyword word line = true ↔ ∃ rest, line = word ++ rest ∧
      (rest.head?.all fun c => !isIdentChar c && c != ':') = true := by
  unfold startsWithKeyword
  constructor
  · intro h
    split at h
    · cases h
    · rename_i rest hrest
      exact ⟨rest, (List.isPrefixOf?_eq_some_iff_append_eq.mp hrest).symm, h⟩
  · rintro ⟨rest, hrest, h⟩
    rw [List.isPrefixOf?_eq_some_iff_append_eq.mpr hrest.symm]
    exact h

/-- A line that a keyword starts has the keyword in front. -/
theorem prefix_of_startsWithKeyword {word line : List Char}
    (h : startsWithKeyword word line = true) : word <+: line := by
  obtain ⟨rest, hrest, -⟩ := startsWithKeyword_iff.mp h
  exact ⟨rest, hrest.symm⟩

/-- An entry that a schema finds is for a keyword with which the masked line starts. -/
theorem of_matchChild {patterns : List ChildPattern} {l : SourceLine} {c : Child}
    (h : matchChild patterns l = some c) :
    trimStart l.masked ≠ [] ∧ ∃ p ∈ patterns, p.keyword.toList <+: trimStart l.masked ∧
      c = p.child l (byteLength (l.masked.takeWhile isBlank)) := by
  simp only [matchChild] at h
  split at h
  · cases h
  · rename_i hcode
    obtain ⟨p, hp, rfl⟩ := Option.map_eq_some_iff.mp h
    have hkeyword := List.find?_some hp
    exact ⟨by simpa using hcode, p, List.mem_of_find?_eq_some hp,
      prefix_of_startsWithKeyword hkeyword, rfl⟩

/-- The lines of the entries on some lines are some of these lines. -/
theorem sublist_matchChildren (patterns : List ChildPattern) (d : Document) (first stop : Nat) :
    List.Sublist ((matchChildren patterns (d.linesBetween first stop)).map fun c => c.start.line)
      (List.range' first (stop - first)) := by
  have hlines : (d.linesBetween first stop).map SourceLine.number =
      List.range' first (stop - first) := by
    simp [Document.linesBetween, Function.comp_def]
  rw [← hlines]
  generalize d.linesBetween first stop = lines
  induction lines with
  | nil => exact List.Sublist.slnil
  | cons l lines ih =>
      rw [matchChildren, List.filterMap_cons, List.map_cons]
      split
      · exact ih.cons l.number
      · rename_i c hc
        obtain ⟨-, p, -, -, rfl⟩ := of_matchChild hc
        exact ih.cons_cons l.number

namespace SectionStart

theorem toSection_name (s : SectionStart) (d : Document) (last : Nat) :
    (s.toSection d last).name = s.spec.name := by
  simp only [toSection]
  split <;> rfl

theorem toSection_start (s : SectionStart) (d : Document) (last : Nat) :
    (s.toSection d last).start = d.firstNonBlank s.line := by
  simp only [toSection]
  split <;> rfl

/-- A section ends on one of the lines it may extend to. -/
theorem toSection_stop_line {cs : List Char} {s : SectionStart} {last : Nat} (h1 : 1 ≤ s.line)
    (hle : s.line ≤ last) (hlast : last ≤ (Document.ofText cs).lineCount) :
    s.line ≤ (s.toSection (.ofText cs) last).stop.line ∧
      (s.toSection (.ofText cs) last).stop.line ≤ last := by
  simp only [toSection]
  split
  · rw [Document.endOfLine_line _ (Nat.le_trans h1 hle)]
    exact ⟨hle, Nat.le_refl last⟩
  · rename_i stop hstop
    exact Document.line_of_blockEnd? h1 hle hlast hstop

/-- The entries of a section are on lines of its body. -/
theorem sublist_toSection_children (s : SectionStart) (d : Document) (last : Nat) :
    List.Sublist ((s.toSection d last).children.map fun c => c.start.line)
      (List.range' (s.line + 1) ((s.toSection d last).stop.line - (s.line + 1))) := by
  simp only [toSection]
  split
  · exact List.nil_sublist _
  · exact sublist_matchChildren _ d _ _

/-- A section lies within the document, with its entries strictly inside. -/
theorem toSection_placed {cs : List Char} {s : SectionStart} {last : Nat}
    (hs : (Document.ofText cs).IsCodeLine s.line) (hle : s.line ≤ last)
    (hlast : last ≤ (Document.ofText cs).lineCount) :
    (s.toSection (.ofText cs) last).Placed (Document.ofText cs).lineCount := by
  have hstart : (s.toSection (.ofText cs) last).start.line = s.line := by
    rw [toSection_start, hs.firstNonBlank_line]
  have hstop := toSection_stop_line hs.one_le hle hlast
  have hbody := sublist_toSection_children s (.ofText cs) last
  refine Section.placed_of_sublist ?_ ?_ (Nat.le_trans hstop.2 hlast) ?_
  · rw [hstart]
    exact hs.one_le
  · rw [hstart]
    exact hstop.1
  · rw [hstart]
    exact hbody

end SectionStart

/-- Every section comes from one of the starts and may extend to some line of the document. -/
theorem exists_of_mem_sectionsFrom {d : Document} {starts : List SectionStart}
    (hsorted : starts.Pairwise fun s t => s.line < t.line)
    (hcount : ∀ s ∈ starts, s.line ≤ d.lineCount) {sec : Section}
    (h : sec ∈ sectionsFrom d starts) :
    ∃ s ∈ starts, ∃ last, s.line ≤ last ∧ last ≤ d.lineCount ∧ sec = s.toSection d last := by
  induction starts with
  | nil => cases h
  | cons s starts ih =>
      rw [List.pairwise_cons] at hsorted
      cases starts with
      | nil =>
          rw [sectionsFrom, List.mem_singleton] at h
          exact ⟨s, List.mem_cons_self, _, hcount s List.mem_cons_self, Nat.le_refl _, h⟩
      | cons t rest =>
          rw [sectionsFrom, List.mem_cons] at h
          rcases h with rfl | h
          · have hnext := hsorted.1 t List.mem_cons_self
            have ht := hcount t (by simp)
            exact ⟨s, List.mem_cons_self, t.line - 1, by omega, by omega, rfl⟩
          · obtain ⟨u, hu, hsec⟩ :=
              ih hsorted.2 (fun u hu => hcount u (List.mem_cons_of_mem s hu)) h
            exact ⟨u, List.mem_cons_of_mem s hu, hsec⟩

/-- There is one section for each start. -/
theorem map_start_sectionsFrom (d : Document) (starts : List SectionStart) :
    (sectionsFrom d starts).map Section.start = starts.map fun s => d.firstNonBlank s.line := by
  fun_induction sectionsFrom d starts with
  | case1 => rfl
  | case2 s => simp [SectionStart.toSection_start]
  | case3 s t rest ih => simp only [List.map_cons, ih, SectionStart.toSection_start]

/-- A section ends before the line on which the next one starts. -/
theorem pairwise_sectionsFrom {cs : List Char} {starts : List SectionStart}
    (hsorted : starts.Pairwise fun s t => s.line < t.line)
    (hcode : ∀ s ∈ starts, (Document.ofText cs).IsCodeLine s.line) :
    (sectionsFrom (.ofText cs) starts).Pairwise fun s t => s.stop.line < t.start.line := by
  induction starts with
  | nil => exact List.Pairwise.nil
  | cons s starts ih =>
      rw [List.pairwise_cons] at hsorted
      have htail := ih hsorted.2 fun u hu => hcode u (List.mem_cons_of_mem s hu)
      cases starts with
      | nil => exact List.pairwise_singleton _ _
      | cons t rest =>
          have hnext := hsorted.1 t List.mem_cons_self
          have ht := (hcode t (by simp)).le_lineCount
          rw [sectionsFrom, List.pairwise_cons]
          refine ⟨?_, htail⟩
          intro sec hsec
          -- the next start is the first of the lines on which the remaining sections start
          have hmem := List.mem_map_of_mem (f := Section.start) hsec
          rw [map_start_sectionsFrom, List.mem_map] at hmem
          obtain ⟨u, hu, hstart⟩ := hmem
          have hu' : t.line ≤ u.line := by
            rcases List.mem_cons.mp hu with rfl | hu
            · exact Nat.le_refl _
            · exact Nat.le_of_lt (List.rel_of_pairwise_cons hsorted.2 hu)
          have hline := (hcode u (List.mem_cons_of_mem s hu)).firstNonBlank_line
          have hstop : (s.toSection (.ofText cs) (t.line - 1)).stop.line ≤ t.line - 1 :=
            (SectionStart.toSection_stop_line (hcode s List.mem_cons_self).one_le
              (by omega) (by omega)).2
          rw [← hstart, hline]
          omega

/-! ### Sections found by guessing -/

/-- The name of a call has at least one character. -/
theorem exists_cons_of_callHead? {line word arg : List Char}
    (h : callHead? line = some (word, arg)) : ∃ c cs, word = c :: cs := by
  unfold callHead? at h
  split at h
  · cases h
  · split at h
    · obtain ⟨n, -, hn⟩ := List.exists_of_findSome?_eq_some h
      obtain ⟨arg', -, heq⟩ := Option.map_eq_some_iff.mp hn
      exact ⟨_, _, (congrArg Prod.fst heq).symm⟩
    · cases h

/-- A guessed entry stands at the start of a line that is not blank on the mask. -/
theorem of_heuristicChild? {d : Document} {n : Nat} {masked : List Char} {c : Child}
    (h : heuristicChild? d n masked = some c) : c.start = d.firstNonBlank n ∧ masked ≠ [] := by
  obtain ⟨⟨word, arg⟩, hhead, hchild⟩ := Option.bind_eq_some_iff.mp h
  obtain ⟨e, es, rfl⟩ := exists_cons_of_callHead? hhead
  dsimp only at hchild
  split at hchild
  · rename_i hword
    rw [Bool.and_eq_true] at hword
    cases hchild
    refine ⟨rfl, ?_⟩
    rintro rfl
    exact List.cons_ne_nil e es (List.prefix_nil.mp (prefix_of_startsWithKeyword hword.2))
  · cases hchild

/-- The lines of the guessed entries on some lines are some of these lines. -/
theorem sublist_firstLevelChildren {cs : List Char} {ns : List Nat}
    (hns : ∀ n ∈ ns, 1 ≤ n ∧ n ≤ (Document.ofText cs).lineCount) (depth : Nat) :
    List.Sublist ((firstLevelChildren (.ofText cs) depth ns).map fun c => c.start.line) ns := by
  induction ns generalizing depth with
  | nil => exact List.Sublist.slnil
  | cons n ns ih =>
      have htail := ih (fun m hm => hns m (List.mem_cons_of_mem n hm))
      obtain ⟨h1, hcount⟩ := hns n List.mem_cons_self
      rw [firstLevelChildren, List.map_append, ← List.singleton_append]
      refine List.Sublist.append ?_ (htail _)
      split
      · cases hc : heuristicChild? (.ofText cs) n (trim ((Document.ofText cs).maskedLine n)) with
        | none => exact List.nil_sublist _
        | some c =>
            obtain ⟨hstart, hne⟩ := of_heuristicChild? hc
            have hcode : (Document.ofText cs).IsCodeLine n :=
              ⟨h1, hcount, trimStart_ne_nil_of_trim hne⟩
            rw [Option.toList_some, List.map_singleton, hstart, hcode.firstNonBlank_line]
      · exact List.nil_sublist _

theorem heuristicSection_start (d : Document) (name : List Char) (n last : Nat) :
    (heuristicSection d name n last).start = d.firstNonBlank n := by
  simp only [heuristicSection]
  split <;> rfl

/-- A guessed section lies within the document, with its entries strictly inside. -/
theorem heuristicSection_placed {cs name : List Char} {n last : Nat}
    (hn : (Document.ofText cs).IsCodeLine n) (hle : n ≤ last)
    (hlast : last ≤ (Document.ofText cs).lineCount) :
    (heuristicSection (.ofText cs) name n last).Placed (Document.ofText cs).lineCount := by
  have hline := hn.firstNonBlank_line
  have h1 := hn.one_le
  simp only [heuristicSection]
  split
  · have hend := Document.endOfLine_line (.ofText cs) (Nat.le_trans h1 hle)
    refine Section.placed_of_sublist ?_ ?_ ?_ (List.nil_sublist _)
    · rwa [hline]
    · rwa [hline, hend]
    · rwa [hend]
  · rename_i stop hstop
    obtain ⟨hfirst, hend⟩ := Document.line_of_blockEnd? h1 hle hlast hstop
    refine Section.placed_of_sublist ?_ ?_ (Nat.le_trans hend hlast) ?_
    · rwa [hline]
    · rwa [hline]
    · rw [hline]
      refine sublist_firstLevelChildren ?_ 0
      intro m hm
      rw [List.mem_range'_1] at hm
      omega

/-- Every guessed section comes from a line that is not blank and not before `resume`. -/
theorem exists_of_mem_heuristicSectionsOn {d : Document} {last depth resume : Nat} {ns : List Nat}
    (hsorted : ns.Pairwise (· < ·)) {sec : Section}
    (h : sec ∈ heuristicSectionsOn d last depth resume ns) :
    ∃ n ∈ ns, resume ≤ n ∧ trim (d.maskedLine n) ≠ [] ∧
      ∃ name, sec = heuristicSection d name n last := by
  induction ns generalizing depth resume with
  | nil => cases h
  | cons n ns ih =>
      rw [List.pairwise_cons] at hsorted
      rw [heuristicSectionsOn] at h
      split at h
      · obtain ⟨m, hm, hsec⟩ := ih hsorted.2 h
        exact ⟨m, List.mem_cons_of_mem n hm, hsec⟩
      · rename_i hresume
        dsimp only at h
        split at h
        · rename_i name hname
          rcases List.mem_cons.mp h with rfl | h
          · refine ⟨n, List.mem_cons_self, Nat.le_of_not_lt hresume, ?_, name, rfl⟩
            intro hnil
            rw [hnil] at hname
            cases hname
          · obtain ⟨m, hm, -, hsec⟩ := ih hsorted.2 h
            have hlt := hsorted.1 m hm
            exact ⟨m, List.mem_cons_of_mem n hm, by omega, hsec⟩
        · obtain ⟨m, hm, hsec⟩ := ih hsorted.2 h
          exact ⟨m, List.mem_cons_of_mem n hm, hsec⟩

/-- The search for further sections goes on after the last line of the section just found. -/
theorem pairwise_heuristicSectionsOn {cs : List Char} {last : Nat}
    (hlast : last ≤ (Document.ofText cs).lineCount) {ns : List Nat} (hsorted : ns.Pairwise (· < ·))
    (hns : ∀ n ∈ ns, 1 ≤ n ∧ n ≤ last) (depth resume : Nat) :
    (heuristicSectionsOn (.ofText cs) last depth resume ns).Pairwise
      fun s t => s.stop.line < t.start.line := by
  induction ns generalizing depth resume with
  | nil => exact List.Pairwise.nil
  | cons n ns ih =>
      rw [List.pairwise_cons] at hsorted
      have htail := ih hsorted.2 fun m hm => hns m (List.mem_cons_of_mem n hm)
      rw [heuristicSectionsOn]
      split
      · exact htail depth resume
      · dsimp only
        split
        · refine List.pairwise_cons.mpr ⟨?_, htail 0 _⟩
          intro sec hsec
          obtain ⟨m, hm, hresume, hne, name, rfl⟩ :=
            exists_of_mem_heuristicSectionsOn hsorted.2 hsec
          obtain ⟨h1, hm⟩ := hns m (List.mem_cons_of_mem n hm)
          have hcode : (Document.ofText cs).IsCodeLine m :=
            ⟨h1, Nat.le_trans hm hlast, trimStart_ne_nil_of_trim hne⟩
          rw [heuristicSection_start, hcode.firstNonBlank_line]
          exact hresume
        · exact htail _ resume

/-- The body of a module ends within the document. -/
theorem moduleBodyEnd_le (cs : List Char) (n : Nat) :
    moduleBodyEnd (.ofText cs) n ≤ (Document.ofText cs).lineCount := by
  unfold moduleBodyEnd
  split
  · rename_i stop hstop
    obtain ⟨p, q, hcs, rfl, -, -⟩ := exists_end_of_blockEndWithin hstop
    have hline : ((Document.ofText cs).position (byteLength (p ++ ['e', 'n', 'd']))).line ≤
        (Document.ofText cs).lineCount := by
      have := LineIndex.position_line_le_lineCount (p := p ++ ['e', 'n', 'd']) (by simp)
        (by simp) q
      change cs = _ at hcs
      rwa [← hcs] at this
    omega
  · exact Nat.le_refl _

/-! ### Sections of an outline -/

/-- Sections of a document with `last` lines that are in order and do not overlap. -/
structure Arranged (sections : List Section) (last : Nat) : Prop where
  placed : ∀ s ∈ sections, s.Placed last
  apart : sections.Pairwise fun s t => s.stop.line < t.start.line

/-- A line on which a section starts is not blank on the mask. -/
theorem isCodeLine_of_mem_sectionStarts {d : Document} {specs : List SectionSpec} {s : SectionStart}
    (h : s ∈ sectionStarts d specs) : d.IsCodeLine s.line := by
  obtain ⟨h1, hcount, -, blanks, -, -, hline⟩ := of_mem_sectionStarts h
  exact ⟨h1, hcount, trimStart_ne_nil_of_trim (by simp [hline])⟩

/-- Every section comes from one of the lines on which sections start. -/
theorem exists_of_mem_findSections {d : Document} {specs : List SectionSpec} {sec : Section}
    (h : sec ∈ findSections d specs) :
    ∃ s ∈ sectionStarts d specs, ∃ last, s.line ≤ last ∧ last ≤ d.lineCount ∧
      sec = s.toSection d last :=
  exists_of_mem_sectionsFrom (pairwise_sectionStarts d specs)
    (fun _ hs => (isCodeLine_of_mem_sectionStarts hs).le_lineCount) h

/-- The sections that the schemas find follow one another. -/
theorem arranged_findSections (cs : List Char) (specs : List SectionSpec) :
    Arranged (findSections (.ofText cs) specs) (Document.ofText cs).lineCount := by
  refine ⟨?_, pairwise_sectionsFrom (pairwise_sectionStarts _ specs) ?_⟩
  · intro sec hsec
    obtain ⟨s, hs, last, hle, hlast, rfl⟩ := exists_of_mem_findSections hsec
    exact SectionStart.toSection_placed (isCodeLine_of_mem_sectionStarts hs) hle hlast
  · intro s hs
    exact isCodeLine_of_mem_sectionStarts hs

/-- The guessed sections follow one another. -/
theorem arranged_heuristicSections (cs : List Char) :
    Arranged (heuristicSections (.ofText cs)) (Document.ofText cs).lineCount := by
  unfold heuristicSections
  split
  · exact ⟨by simp, List.Pairwise.nil⟩
  · rename_i n name hhead
    have hlast := moduleBodyEnd_le cs n
    dsimp only
    generalize moduleBodyEnd (.ofText cs) n = last at hlast ⊢
    have hns : ∀ m ∈ List.range' (n + 1) (last - n), 1 ≤ m ∧ m ≤ last := by
      intro m hm
      rw [List.mem_range'_1] at hm
      omega
    have hsorted : (List.range' (n + 1) (last - n)).Pairwise (· < ·) := List.pairwise_lt_range' 1
    refine ⟨?_, pairwise_heuristicSectionsOn hlast hsorted hns 0 0⟩
    intro sec hsec
    obtain ⟨m, hm, -, hne, name, rfl⟩ := exists_of_mem_heuristicSectionsOn hsorted hsec
    obtain ⟨h1, hm⟩ := hns m hm
    have hcode : (Document.ofText cs).IsCodeLine m :=
      ⟨h1, Nat.le_trans hm hlast, trimStart_ne_nil_of_trim hne⟩
    exact heuristicSection_placed hcode hm hlast

/-- An outline is what the schemas find, or what is guessed. -/
theorem outline_cases (r : Registry) (fallback : Bool) (d : Document) :
    outline r fallback d = ⟨.configured, extract r d⟩ ∨
      outline r fallback d = ⟨.heuristic, (extract r d).withGuess (heuristicSections d)⟩ := by
  simp only [outline]
  split
  · exact Or.inl rfl
  · exact Or.inr rfl

/-- However they were found, the sections of an outline follow one another. -/
theorem arranged_outline (r : Registry) (fallback : Bool) (cs : List Char) :
    Arranged (outline r fallback (.ofText cs)).result.sections (Document.ofText cs).lineCount := by
  rcases outline_cases r fallback (.ofText cs) with h | h
  · rw [h]
    exact arranged_findSections cs _
  · rw [h]
    exact arranged_heuristicSections cs

namespace Arranged

variable {sections : List Section} {last : Nat}

/-- A line of a section is not a line of a later one. -/
theorem not_both {s t : Section} (h : s.stop.line < t.start.line) {line : Nat}
    (hs : s.containsLine line = true) : t.containsLine line = false := by
  simp only [Section.containsLine, Bool.and_eq_true, decide_eq_true_eq] at hs
  simp only [Section.containsLine, Bool.and_eq_false_iff, decide_eq_false_iff_not]
  omega

/-- Of sections that follow one another, at most one contains a line. -/
theorem countP_containsLine_le (h : Arranged sections last) (line : Nat) :
    sections.countP (fun s => s.containsLine line) ≤ 1 := by
  obtain ⟨-, hapart⟩ := h
  induction sections with
  | nil => exact Nat.zero_le 1
  | cons s sections ih =>
      rw [List.pairwise_cons] at hapart
      by_cases hs : s.containsLine line = true
      · have hrest : sections.countP (fun s => s.containsLine line) = 0 := by
          rw [List.countP_eq_zero]
          intro t ht htl
          rw [not_both (hapart.1 t ht) hs] at htl
          cases htl
        rw [List.countP_cons, if_pos hs, hrest]
      · rw [List.countP_cons, if_neg hs]
        exact ih hapart.2

/-- The first section that contains a line is the only one. -/
theorem find?_containsLine_iff (h : Arranged sections last) (line : Nat) (s : Section) :
    sections.find? (fun s => s.containsLine line) = some s ↔
      s ∈ sections ∧ s.containsLine line = true := by
  constructor
  · intro hfind
    have hline := List.find?_some hfind
    exact ⟨List.mem_of_find?_eq_some hfind, hline⟩
  · rintro ⟨hmem, hline⟩
    obtain ⟨-, hapart⟩ := h
    induction sections with
    | nil => cases hmem
    | cons t sections ih =>
        rw [List.pairwise_cons] at hapart
        rcases List.mem_cons.mp hmem with rfl | hmem
        · rw [List.find?_cons, hline]
        · have ht : t.containsLine line = false := by
            by_contra ht
            rw [not_both (hapart.1 s hmem) (eq_true_of_ne_false ht)] at hline
            cases hline
          rw [List.find?_cons, ht]
          exact ih hmem hapart.2

end Arranged

/-! ### Which lines have a section of a schema -/

/-- The sections start on the lines of their starts. -/
theorem map_start_line_findSections (cs : List Char) (specs : List SectionSpec) :
    (findSections (.ofText cs) specs).map (fun s => s.start.line) =
      (sectionStarts (.ofText cs) specs).map SectionStart.line := by
  have hstart := congrArg (List.map Position.line)
    (map_start_sectionsFrom (.ofText cs) (sectionStarts (.ofText cs) specs))
  rw [List.map_map, List.map_map] at hstart
  refine hstart.trans (List.map_congr_left ?_)
  intro s hs
  exact (isCodeLine_of_mem_sectionStarts hs).firstNonBlank_line

/-- A section by a schema starts on each line that reads `name do` for a section of an active
schema, and on no other line. -/
theorem mem_start_line_extract (r : Registry) (cs : List Char) (n : Nat) :
    n ∈ (extract r (.ofText cs)).sections.map (fun s => s.start.line) ↔
      1 ≤ n ∧ n ≤ (Document.ofText cs).lineCount ∧ ∃ name, ActiveName r (.ofText cs) name ∧
        Opens name.toList (trim ((Document.ofText cs).maskedLine n)) := by
  rw [extract, map_start_line_findSections, mem_sectionStarts_line]
  have hnames := exists_mem_sectionSpecs_name ((Document.ofText cs).activeSchemas r)
  constructor
  · rintro ⟨h1, hcount, spec, hspec, hopens⟩
    exact ⟨h1, hcount, spec.name, (hnames spec.name).mp ⟨spec, hspec, rfl⟩, hopens⟩
  · rintro ⟨h1, hcount, name, hname, hopens⟩
    obtain ⟨spec, hspec, rfl⟩ := (hnames name).mpr hname
    exact ⟨h1, hcount, spec, hspec, hopens⟩

/-- The line on which a section by a schema starts reads `name do` for the name of the section. -/
theorem opens_of_mem_extract {r : Registry} {cs : List Char} {sec : Section}
    (h : sec ∈ (extract r (.ofText cs)).sections) :
    ActiveName r (.ofText cs) sec.name ∧
      Opens sec.name.toList (trim ((Document.ofText cs).maskedLine sec.start.line)) := by
  obtain ⟨s, hs, last, -, -, rfl⟩ := exists_of_mem_findSections h
  obtain ⟨-, -, hspec, hopens⟩ := of_mem_sectionStarts hs
  rw [SectionStart.toSection_name, SectionStart.toSection_start,
    (isCodeLine_of_mem_sectionStarts hs).firstNonBlank_line]
  exact ⟨(exists_mem_sectionSpecs_name _ _).mp ⟨s.spec, hspec, rfl⟩, hopens⟩

/-- **The sections of an outline lie in the document, in order and apart from each other, with their
entries strictly inside.** So a line belongs to at most one section, and the lookup finds it. If the
sections come from schemas, there is exactly one for each line that opens one. -/
theorem outline_sections (r : Registry) (fallback : Bool) (cs : List Char) :
    let d := Document.ofText cs
    let o := outline r fallback d
    let sections := o.result.sections
    Arranged sections d.lineCount ∧
    (∀ line, sections.countP (fun s => s.containsLine line) ≤ 1 ∧
      (∀ s, o.result.sectionAt? line = some s ↔ s ∈ sections ∧ s.containsLine line = true) ∧
      (o.result.sectionAt? line = none ↔ ∀ s ∈ sections, s.containsLine line = false)) ∧
    (o.strategy = .configured →
      (sections.map fun s => s.start.line).Pairwise (· < ·) ∧
      (∀ s ∈ sections, ActiveName r d s.name ∧
        Opens s.name.toList (trim (d.maskedLine s.start.line))) ∧
      ∀ n, n ∈ sections.map (fun s => s.start.line) ↔
        1 ≤ n ∧ n ≤ d.lineCount ∧
          ∃ name, ActiveName r d name ∧ Opens name.toList (trim (d.maskedLine n))) := by
  intro d o sections
  have harranged : Arranged sections d.lineCount := arranged_outline r fallback cs
  refine ⟨harranged, ?_, ?_⟩
  · intro line
    refine ⟨harranged.countP_containsLine_le line, harranged.find?_containsLine_iff line, ?_⟩
    simp [Extraction.sectionAt?, sections, List.find?_eq_none]
  · intro hconfigured
    have hsections : sections = (extract r d).sections := by
      rcases outline_cases r fallback d with h | h
      · exact congrArg (fun o => o.result.sections) h
      · rw [show o = _ from h] at hconfigured
        cases hconfigured
    rw [hsections]
    refine ⟨?_, fun s hs => opens_of_mem_extract hs, mem_start_line_extract r cs⟩
    rw [extract, map_start_line_findSections, List.pairwise_map]
    exact pairwise_sectionStarts d _

/-- The lines end with a carriage return too, a literal reads `end`, and the last section has
no `end`. -/
theorem outline_sections_unterminated :
    let schema : Schema := ⟨"A", "A", [⟨"things", none, [⟨"x", none, none, true, none⟩]⟩]⟩
    let cs := "use A\r\nthings do\r\n x \"end\"\r\nend\r\n\tthings  do".toList
    let o := outline ⟨[schema]⟩ true (.ofText cs)
    o.strategy = .configured ∧ Arranged o.result.sections (Document.ofText cs).lineCount ∧
      o.result.sections.map (fun s => (s.start.line, s.stop.line)) = [(2, 4), (5, 5)] ∧
      5 ∈ o.result.sections.map fun s => s.start.line := by
  intro schema cs o
  have hconfigured : o.strategy = .configured := by decide +kernel
  have hactive : ActiveName ⟨[schema]⟩ (.ofText cs) "things" :=
    ⟨schema, by decide +kernel, _, List.mem_singleton.mpr rfl, rfl⟩
  have hopens : Opens "things".toList (trim ((Document.ofText cs).maskedLine 5)) :=
    ⟨List.replicate 2 ' ', by decide, fun c hc => List.eq_of_mem_replicate hc ▸ rfl,
      by decide +kernel⟩
  obtain ⟨harranged, -, hschemas⟩ := outline_sections ⟨[schema]⟩ true cs
  refine ⟨hconfigured, harranged, by decide +kernel, ?_⟩
  exact ((hschemas hconfigured).2.2 5).mpr ⟨by decide, by decide +kernel, "things", hactive, hopens⟩

end DslOutline
