import DslOutline.Proofs.Outline.BlockHeads

/-!
# The nesting level of guessed sections

The guess for a module counts the depth on the masked lines, one after the other, and never below
zero; where it finds a section, it takes the end of the section from a search in the text and goes
on with the line behind it. This module compares the count with the depth in the text.

Inside a block the count does not need its lower bound, and it is the depth at the start of each
line if the keywords on the masked lines are keywords in the text (`Inside.depthAfter_eq`). A
section keeps the depth above zero up to its last line, and the depth is zero behind that line if
the rest of the line behind the `end` is balanced (`Inside.depth_section`). So the count is right at
every line that is looked at (`Inside.mem_heuristicSectionsOn_iff`). `heuristicSections_firstLevel`
is the result: the sections are the named blocks at the first nesting level, and so are the entries
in each of them.
-/

namespace DslOutline

open Text

/-! ### Counting the depth line by line -/

/-- Lines `first` to `last` are inside a block whose keyword ends at offset `a`, and their keywords
are seen on the mask. -/
structure Inside (cs : List Char) (a first last : Nat) : Prop where
  one_le : 1 ≤ first
  last_le : last ≤ (Document.ofText cs).lineCount
  start_le : a ≤ (Document.ofText cs).lineStart first
  nonneg : ∀ k, first ≤ k → k ≤ last + 1 →
    0 ≤ depthBetween cs a ((Document.ofText cs).lineStart k)
  lines : ∀ k, first ≤ k → k ≤ last →
    ∀ t ∈ (Document.ofText cs).lineTokens k, t ∈ codeTokensFrom cs 0

namespace Inside

variable {cs : List Char} {a first last k : Nat}

/-- The lines of a body start behind the opener of its block. -/
theorem start_le_lineStart (h : Inside cs a first last) (hk : first ≤ k) (hle : k ≤ last + 1) :
    a ≤ (Document.ofText cs).lineStart k :=
  h.start_le.trans (Document.lineStart_le h.one_le hk (hle.trans (Nat.succ_le_succ h.last_le)))

/-- The count after a line is the depth at the start of the next one. -/
theorem depthAfter_eq (h : Inside cs a first last) (hk : first ≤ k) (hle : k ≤ last) {depth : Nat}
    (hdepth : depthBetween cs a ((Document.ofText cs).lineStart k) = depth) :
    depthBetween cs a ((Document.ofText cs).lineStart (k + 1)) =
      depthAfter depth (trim ((Document.ofText cs).maskedLine k)) := by
  have h1 := h.one_le.trans hk
  have hn := hle.trans h.last_le
  have hnext := h.nonneg (k + 1) (by omega) (by omega)
  have hmono : (Document.ofText cs).lineStart k ≤ (Document.ofText cs).lineStart (k + 1) :=
    Document.lineStart_le h1 (Nat.le_succ k) (by omega)
  have hline := Document.netDepth_eq_depthBetween h1 hn (h.lines k hk hle)
  have hadd := depthBetween_add cs (h.start_le_lineStart hk (by omega)) hmono
  rw [hdepth] at hadd
  rw [show (Document.ofText cs).lineEnd k = (Document.ofText cs).lineStart (k + 1) from rfl] at hline
  rw [depthAfter, hline]
  omega

/-- A guessed entry is on a line with which no block is open. -/
theorem depth_of_mem_firstLevelChildren (h : Inside cs a first last) (hk : first ≤ k) {depth : Nat}
    (hdepth : depthBetween cs a ((Document.ofText cs).lineStart k) = depth) {c : Child}
    (hc : c ∈ firstLevelChildren (.ofText cs) depth (List.range' k (last + 1 - k))) :
    depthBetween cs a ((Document.ofText cs).lineStart c.start.line) = 0 := by
  induction hlen : last + 1 - k generalizing k depth with
  | zero =>
      rw [hlen] at hc
      cases hc
  | succ len ih =>
      rw [hlen, List.range'_succ, firstLevelChildren, List.mem_append] at hc
      rcases hc with hc | hc
      · split_ifs at hc with hzero
        · obtain ⟨hstart, hne⟩ := of_heuristicChild? (Option.mem_toList.mp hc)
          have hcode : (Document.ofText cs).IsCodeLine k :=
            ⟨h.one_le.trans hk, by have := h.last_le; omega, trimStart_ne_nil_of_trim hne⟩
          rw [hstart, hcode.firstNonBlank_line, hdepth, hzero]
          rfl
        · cases hc
      · have hrest : last + 1 - (k + 1) = len := by omega
        refine ih (by omega) (h.depthAfter_eq hk (by omega) hdepth) ?_ hrest
        rwa [hrest]

end Inside

/-! ### The block of a module and of a section -/

namespace Document

variable {cs : List Char} {m n last : Nat}

/-- Line `n` is in the body of the block that opens on line `m`: after that line, and before the
line of the `end` that closes the block. -/
def InBody (d : Document) (m n : Nat) : Prop :=
  m < n ∧ n ≤ d.lineCount ∧
    ∀ t ∈ codeTokensFrom d.text 0, (d.opener m).stop ≤ t.start → t.start < d.lineEnd n →
      0 ≤ depthBetween d.text (d.opener m).stop t.stop

instance (d : Document) (m n : Nat) : Decidable (d.InBody m n) :=
  inferInstanceAs (Decidable (_ ∧ _ ∧ ∀ t ∈ codeTokensFrom d.text 0, _ → _ → _))

/-- If `c` is the first token that closes the block, its body ends on the line before that of
`c`. -/
theorem inBody_iff {c : PlacedToken} (hc : c ∈ codeTokensFrom cs 0)
    (hstart : ((ofText cs).opener m).stop ≤ c.start)
    (hnonneg : ∀ x, ((ofText cs).opener m).stop ≤ x → x ≤ c.start →
      0 ≤ depthBetween cs ((ofText cs).opener m).stop x)
    (hclose : depthBetween cs ((ofText cs).opener m).stop c.stop = -1) :
    (ofText cs).InBody m n ↔ m < n ∧ n < ((ofText cs).position c.stop).line := by
  obtain ⟨-, hlast, hon, hend, -⟩ := line_position_stop hc
  generalize ((ofText cs).position c.stop).line = last at hlast hon hend ⊢
  constructor
  · rintro ⟨hlt, hn, hbody⟩
    refine ⟨hlt, ?_⟩
    -- on a later line, the depth is below zero behind `c`
    by_contra hlater
    have hle : (ofText cs).lineEnd last ≤ (ofText cs).lineEnd n :=
      lineStart_le (Nat.succ_pos last) (by omega) (Nat.succ_le_succ hn)
    have hpos := c.token.size_pos
    have hdepth := hbody c hc hstart (by rw [PlacedToken.stop] at hend; omega)
    change 0 ≤ depthBetween cs _ _ at hdepth
    omega
  · rintro ⟨hlt, hle⟩
    refine ⟨hlt, by omega, ?_⟩
    intro t ht hbehind hline
    have hbefore : (ofText cs).lineEnd n ≤ (ofText cs).lineStart last :=
      lineStart_le (Nat.succ_pos n) hle (by omega)
    have htstop : t.start ≤ t.stop := Nat.le_add_right _ _
    have hcstop : c.start ≤ c.stop := Nat.le_add_right _ _
    rcases eq_or_stop_le ht hc with rfl | hfront | hback
    · omega
    · exact hnonneg _ (hbehind.trans htstop) hfront
    · omega

namespace OpensAt

/-- The body of a module extends to the line in front of the `end` that closes the module. -/
theorem moduleBodyEnd_spec (h : (ofText cs).OpensAt m)
    (hclosed : ¬ OpenAt cs ((ofText cs).lineStart m)) :
    (∀ k, m < k → k ≤ moduleBodyEnd (.ofText cs) m + 1 →
      0 ≤ depthBetween cs ((ofText cs).opener m).stop ((ofText cs).lineStart k)) ∧
    ∀ n, (ofText cs).InBody m n ↔ m < n ∧ n ≤ moduleBodyEnd (.ofText cs) m := by
  have hbytes : ∀ k, 1 ≤ k → k ≤ (ofText cs).lineCount → (ofText cs).lineEnd k ≤ byteLength cs :=
    fun _ => lineEnd_le_byteLength
  have hsearch : blockEnd (ofText cs).text ((ofText cs).lineStart m) = _ :=
    h.blockEndWithin_eq hclosed (h.opener_stop_le.trans (hbytes m h.one_le h.le_lineCount))
      (Nat.le_refl _) fun t ht _ => stop_le_of_mem_codeTokensFrom ht
  unfold moduleBodyEnd
  split
  · rename_i e he
    rw [hsearch] at he
    obtain ⟨c, hc, -, rfl, hstart, -, hnonneg, hclose⟩ := exists_of_closeOf_some he
    obtain ⟨hfirst, hlast, hon, -, -⟩ := line_position_stop hc
    constructor
    · intro k hk hle
      have hline : (ofText cs).lineStart k ≤ _ := lineStart_le (by omega) hle (by omega)
      rw [Nat.sub_add_cancel hfirst] at hline
      exact hnonneg _ (h.stop_le_lineStart hk (by omega)) (hline.trans hon)
    · intro n
      rw [inBody_iff hc hstart hnonneg hclose]
      omega
  · rename_i hnone
    rw [hsearch] at hnone
    have hcount := h.one_le.trans h.le_lineCount
    constructor
    · intro k hk hle
      refine depthBetween_of_closeOf_none hnone (h.stop_le_lineStart hk hle) ?_
      exact (lineStart_le (Nat.one_le_of_lt hk) hle (Nat.le_refl _)).trans
        (hbytes _ hcount (Nat.le_refl _))
    · intro n
      refine and_congr_right fun _ => ⟨And.left, fun hn => ⟨hn, ?_⟩⟩
      intro t ht hle _
      have htstop : t.start ≤ t.stop := Nat.le_add_right _ _
      exact depthBetween_of_closeOf_none hnone (hle.trans htstop)
        (stop_le_of_mem_codeTokensFrom ht)

/-- Inside a guessed section one block is open, at least, and behind its last line none, if the rest
of the line behind the `end` is balanced. -/
theorem depth_heuristicSection (h : (ofText cs).OpensAt n)
    (hclosed : ¬ OpenAt cs ((ofText cs).lineStart n)) (hle : n ≤ last)
    (hlast : last ≤ (ofText cs).lineCount) (name : List Char) :
    let s := heuristicSection (.ofText cs) name n last
    (∀ k, n < k → k ≤ s.stop.line →
      0 ≤ depthBetween cs ((ofText cs).opener n).stop ((ofText cs).lineStart k)) ∧
    (s.closed = false → s.stop.line = last) ∧
    (s.closed = true →
      depthBetween cs ((ofText cs).offsetOf s.stop) ((ofText cs).lineEnd s.stop.line) = 0 →
      depthBetween cs ((ofText cs).opener n).stop ((ofText cs).lineEnd s.stop.line) = -1) := by
  have h1 := h.one_le
  have hline : (ofText cs).lineEnd n ≤ (ofText cs).lineEnd last :=
    lineStart_le (Nat.succ_pos n) (Nat.succ_le_succ hle) (Nat.succ_le_succ hlast)
  have hsearch := h.blockEndWithin_eq hclosed (h.opener_stop_le.trans hline)
    (lineEnd_le_byteLength (h1.trans hle) hlast) fun t => stop_le_lineEnd (h1.trans hle) hlast
  change blockEndWithin (ofText cs).text _ _ = _ at hsearch
  simp only [heuristicSection, blockEnd?]
  split
  · rename_i hnone
    rw [hsearch, Option.map_eq_none_iff] at hnone
    have hend := endOfLine_line (.ofText cs) (h1.trans hle)
    refine ⟨?_, fun _ => hend, ?_⟩
    · intro k hk hkl
      rw [hend] at hkl
      refine depthBetween_of_closeOf_none hnone (h.stop_le_lineStart hk (by omega)) ?_
      exact lineStart_le (by omega) (Nat.le_succ_of_le hkl) (Nat.succ_le_succ hlast)
    · intro hfound
      cases hfound
  · rename_i stop hstop
    rw [hsearch] at hstop
    obtain ⟨e, he, rfl⟩ := Option.map_eq_some_iff.mp hstop
    obtain ⟨c, hc, -, rfl, hstart, -, hnonneg, hclose⟩ := exists_of_closeOf_some he
    obtain ⟨hfirst, hcount, hon, hend, hoffset⟩ := line_position_stop hc
    refine ⟨?_, ?_, ?_⟩
    · intro k hk hkl
      have hkc := Nat.le_succ_of_le (hkl.trans hcount)
      refine hnonneg _ (h.stop_le_lineStart hk hkc) (le_trans ?_ hon)
      exact lineStart_le (by omega) hkl (Nat.le_succ_of_le hcount)
    · intro hmissing
      cases hmissing
    · intro _ hrest
      have hcstop : c.start ≤ c.stop := Nat.le_add_right _ _
      rw [hoffset] at hrest
      rw [depthBetween_add cs (hstart.trans hcstop) hend, hclose, hrest]
      rfl

end OpensAt

end Document

/-! ### Sections in step with the text -/

/-- A guessed section is in step with the text: its line begins outside of every literal, its `do`
is a keyword in the text, its name is no keyword, and the rest of the line behind its `end` is
balanced. -/
structure Section.InStep (s : Section) (d : Document) : Prop where
  notOpen : ¬ OpenAt d.text (d.lineStart s.start.line)
  opener_mem : d.opener s.start.line ∈ codeTokensFrom d.text 0
  name : s.name ∉ ["do", "fn", "end"]
  balanced : s.closed = true →
    depthBetween d.text (d.offsetOf s.stop) (d.lineEnd s.stop.line) = 0

instance (s : Section) (d : Document) : Decidable (s.InStep d) :=
  decidable_of_iff
    (¬ OpenAt d.text (d.lineStart s.start.line) ∧
      d.opener s.start.line ∈ codeTokensFrom d.text 0 ∧ s.name ∉ ["do", "fn", "end"] ∧
      (s.closed = true → depthBetween d.text (d.offsetOf s.stop) (d.lineEnd s.stop.line) = 0))
    ⟨fun h => ⟨h.1, h.2.1, h.2.2.1, h.2.2.2⟩, fun h => ⟨h.1, h.2, h.3, h.4⟩⟩

/-- A line that reads like the head of a block is not blank on the mask. -/
theorem isCodeLine_of_blockHead? {d : Document} {n : Nat} {word : List Char} (h1 : 1 ≤ n)
    (hn : n ≤ d.lineCount) (hhead : blockHead? (trim (d.maskedLine n)) = some word) :
    d.IsCodeLine n := by
  refine ⟨h1, hn, trimStart_ne_nil_of_trim ?_⟩
  intro hnil
  rw [hnil] at hhead
  cases hhead

theorem heuristicSection_name (d : Document) (name : List Char) (n last : Nat) :
    (heuristicSection d name n last).name = String.ofList name := by
  simp only [heuristicSection]
  split <;> rfl

namespace Section.InStep

variable {cs : List Char} {n last : Nat} {word : List Char}

/-- Its line opens one block. -/
theorem opensAt (h1 : 1 ≤ n) (hn : n ≤ (Document.ofText cs).lineCount)
    (hhead : blockHead? (trim ((Document.ofText cs).maskedLine n)) = some word)
    (hs : (heuristicSection (.ofText cs) word n last).InStep (.ofText cs)) :
    (Document.ofText cs).OpensAt n ∧ ¬ OpenAt cs ((Document.ofText cs).lineStart n) := by
  obtain ⟨hopen, hmem, hname, -⟩ := hs
  rw [heuristicSection_start, (isCodeLine_of_blockHead? h1 hn hhead).firstNonBlank_line]
    at hopen hmem
  refine ⟨⟨h1, hn, ⟨word, opensPlainly_of_blockHead? hhead ?_⟩, hmem⟩, hopen⟩
  rintro t rfl
  rw [heuristicSection_name] at hname
  revert hname
  cases t <;> decide

/-- Counted from the start of its line, the depth is above zero inside the section, and zero behind
its last line. -/
theorem depthBetween_lineStart {s : Section} (h1 : 1 ≤ n) (hle : n ≤ last)
    (hlast : last ≤ (Document.ofText cs).lineCount)
    (hhead : blockHead? (trim ((Document.ofText cs).maskedLine n)) = some word)
    (hsec : s = heuristicSection (.ofText cs) word n last) (hs : s.InStep (.ofText cs)) :
    n ≤ s.stop.line ∧
    (∀ k, n < k → k ≤ s.stop.line → 0 < depthBetween cs ((Document.ofText cs).lineStart n)
      ((Document.ofText cs).lineStart k)) ∧
    (s.stop.line < last → depthBetween cs ((Document.ofText cs).lineStart n)
      ((Document.ofText cs).lineStart (s.stop.line + 1)) = 0) := by
  have hn := hle.trans hlast
  have hcode := isCodeLine_of_blockHead? h1 hn hhead
  obtain ⟨hopens, hopen⟩ := opensAt h1 hn hhead (hsec ▸ hs)
  obtain ⟨hinside, hmissing, hfound⟩ := hopens.depth_heuristicSection hopen hle hlast word
  have hplaced : s.Placed (Document.ofText cs).lineCount :=
    hsec ▸ heuristicSection_placed hcode hle hlast
  have hstart : s.start.line = n := by
    rw [hsec, heuristicSection_start, hcode.firstNonBlank_line]
  have hfirst := hplaced.start_le_stop
  have hstop := hplaced.stop_le
  rw [← hsec] at hinside hmissing hfound
  refine ⟨by omega, ?_, ?_⟩
  · intro k hk hkl
    have hnonneg := hinside k hk hkl
    rw [hopens.depthBetween_eq (hopens.stop_le_lineStart hk (by omega))]
    omega
  · intro hlt
    have hclosed : s.closed = true := by
      by_contra hfalse
      have hline := hmissing (by simpa using hfalse)
      omega
    have hclose := hfound hclosed (hs.balanced hclosed)
    rw [hopens.depthBetween_eq (hopens.stop_le_lineStart (by omega) (by omega))]
    change depthBetween cs _ ((Document.ofText cs).lineStart (s.stop.line + 1)) = -1 at hclose
    rw [hclose]
    rfl

end Section.InStep

/-! ### The sections of a module body -/

/-- A line that is looked at heads a section, or it counts for the depth of the remaining lines. -/
theorem heuristicSectionsOn_cons_cases (d : Document) (last depth : Nat) {resume n : Nat}
    (hresume : ¬ n < resume) (ns : List Nat) :
    (∃ name, depth = 0 ∧ blockHead? (trim (d.maskedLine n)) = some name ∧
      heuristicSectionsOn d last depth resume (n :: ns) =
        heuristicSection d name n last ::
          heuristicSectionsOn d last 0 ((heuristicSection d name n last).stop.line + 1) ns) ∨
    ((∀ name, blockHead? (trim (d.maskedLine n)) = some name → isDslWord name = true → depth ≠ 0) ∧
      heuristicSectionsOn d last depth resume (n :: ns) =
        heuristicSectionsOn d last (depthAfter depth (trim (d.maskedLine n))) resume ns) := by
  rw [heuristicSectionsOn, if_neg hresume]
  dsimp only
  split
  · rename_i name hname
    exact Or.inl ⟨name, rfl, (Option.filter_eq_some_iff.mp hname).1, rfl⟩
  · rename_i hpass
    refine Or.inr ⟨?_, rfl⟩
    rintro name hname hdsl rfl
    exact hpass name (Option.filter_eq_some_iff.mpr ⟨hname, hdsl⟩) rfl

/-- A section on lines behind `n` does not start on line `n`. -/
theorem lt_start_line {cs : List Char} {last bound depth resume n : Nat}
    (hbound : bound ≤ (Document.ofText cs).lineCount) {s : Section}
    (hs : s ∈ heuristicSectionsOn (.ofText cs) last depth resume
      (List.range' (n + 1) (bound + 1 - (n + 1)))) : n < s.start.line := by
  obtain ⟨j, hj, -, hne, name, rfl⟩ :=
    exists_of_mem_heuristicSectionsOn (List.pairwise_lt_range' 1) hs
  rw [List.mem_range'_1] at hj
  have hcode : (Document.ofText cs).IsCodeLine j :=
    ⟨by omega, by omega, trimStart_ne_nil_of_trim hne⟩
  rw [heuristicSection_start, hcode.firstNonBlank_line]
  omega

namespace Inside

variable {cs : List Char} {a first last n : Nat}

/-- A section that starts with no block open keeps one open, at least, up to its last line, and
leaves none open behind it. -/
theorem depth_section (h : Inside cs a first last) (hn : first ≤ n) (hle : n ≤ last)
    (hdepth : depthBetween cs a ((Document.ofText cs).lineStart n) = 0) {word : List Char}
    (hhead : blockHead? (trim ((Document.ofText cs).maskedLine n)) = some word) {s : Section}
    (hsec : s = heuristicSection (.ofText cs) word n last) (hs : s.InStep (.ofText cs)) :
    s.start.line = n ∧ n ≤ s.stop.line ∧
    (∀ k, n < k → k ≤ last → k ≤ s.stop.line →
      depthBetween cs a ((Document.ofText cs).lineStart k) ≠ 0) ∧
    (s.stop.line + 1 ≤ last →
      depthBetween cs a ((Document.ofText cs).lineStart (s.stop.line + 1)) = 0) := by
  have h1 := h.one_le.trans hn
  have hlast := h.last_le
  have hcode := isCodeLine_of_blockHead? h1 (hle.trans hlast) hhead
  obtain ⟨hstop, hinside, hbehind⟩ := hs.depthBetween_lineStart h1 hle hlast hhead hsec
  have hadd : ∀ k, n < k → k ≤ last →
      depthBetween cs a ((Document.ofText cs).lineStart k) =
        depthBetween cs ((Document.ofText cs).lineStart n) ((Document.ofText cs).lineStart k) := by
    intro k hk hkl
    rw [depthBetween_add cs (h.start_le_lineStart hn (by omega))
      (Document.lineStart_le h1 (Nat.le_of_lt hk) (by omega)), hdepth, Int.zero_add]
  refine ⟨?_, hstop, ?_, ?_⟩
  · rw [hsec, heuristicSection_start, hcode.firstNonBlank_line]
  · intro k hk hkl hks
    have hpos := hinside k hk hks
    rw [hadd k hk hkl]
    omega
  · intro hsl
    rw [hadd _ (by omega) hsl]
    exact hbehind hsl

/-- The lines that head a section are those with which no block is open. The count of the depth is
right at the next line that is looked at; the lines in front of that one are inside a section. -/
theorem mem_heuristicSectionsOn_iff (h : Inside cs a first last) {depth resume : Nat}
    (hn : first ≤ n)
    (hdepth : max n resume ≤ last →
      depthBetween cs a ((Document.ofText cs).lineStart (max n resume)) = (depth : Int))
    (hs : ∀ s ∈ heuristicSectionsOn (.ofText cs) last depth resume (List.range' n (last + 1 - n)),
      s.InStep (.ofText cs)) {k : Nat} {word : List Char} (hk : n ≤ k) (hkl : k ≤ last)
    (hhead : blockHead? (trim ((Document.ofText cs).maskedLine k)) = some word)
    (hdsl : isDslWord word = true) :
    (∃ s ∈ heuristicSectionsOn (.ofText cs) last depth resume (List.range' n (last + 1 - n)),
        s.start.line = k ∧ s.name = String.ofList word) ↔
      max n resume ≤ k ∧ depthBetween cs a ((Document.ofText cs).lineStart k) = 0 := by
  have hlast := h.last_le
  have h1 := h.one_le
  induction hlen : last + 1 - n generalizing n depth resume with
  | zero => omega
  | succ len ih =>
    have hrest : last + 1 - (n + 1) = len := by omega
    rw [hlen, List.range'_succ] at hs
    rw [List.range'_succ]
    -- no section of the remaining lines is one of this line
    have hnone : ∀ depth' resume', ¬ ∃ s ∈ heuristicSectionsOn (.ofText cs) last depth' resume'
        (List.range' (n + 1) len), s.start.line = n ∧ s.name = String.ofList word := by
      rintro depth' resume' ⟨s, hs', hline, -⟩
      rw [← hrest] at hs'
      have hlt := lt_start_line hlast hs'
      omega
    by_cases hresume : n < resume
    · have hmax : max n resume = max (n + 1) resume := by omega
      rw [heuristicSectionsOn, if_pos hresume] at hs ⊢
      rw [hmax] at hdepth ⊢
      rcases Nat.eq_or_lt_of_le hk with rfl | hlt
      · exact iff_of_false (hnone depth resume) (by omega)
      · exact ih (by omega) hdepth (by rwa [hrest]) hlt hrest
    · have hmax : max n resume = n := by omega
      rw [hmax] at hdepth ⊢
      have hdepth := hdepth (by omega)
      rcases heuristicSectionsOn_cons_cases (.ofText cs) last depth hresume
        (List.range' (n + 1) len) with ⟨name, rfl, hname, heq⟩ | ⟨hpass, heq⟩
      · obtain ⟨sec, hsec⟩ : ∃ sec, sec = heuristicSection (.ofText cs) name n last := ⟨_, rfl⟩
        rw [heq, ← hsec, List.forall_mem_cons] at hs
        rw [heq, ← hsec, List.exists_mem_cons_iff]
        obtain ⟨hline, hstop, hinside, hbehind⟩ :=
          h.depth_section hn (by omega) hdepth hname hsec hs.1
        rcases Nat.eq_or_lt_of_le hk with rfl | hlt
        · rw [hhead, Option.some.injEq] at hname
          have hsame : sec.name = String.ofList word := by rw [hsec, heuristicSection_name, hname]
          exact iff_of_true (Or.inl ⟨hline, hsame⟩) ⟨Nat.le_refl _, hdepth⟩
        · have hmax' : max (n + 1) (sec.stop.line + 1) = sec.stop.line + 1 := by omega
          have hnext : max (n + 1) (sec.stop.line + 1) ≤ last → depthBetween cs a
              ((Document.ofText cs).lineStart (max (n + 1) (sec.stop.line + 1))) = (0 : Nat) := by
            rwa [hmax']
          have hiff := ih (by omega) hnext (by rw [hrest]; exact hs.2) hlt hrest
          rw [hmax'] at hiff
          rw [or_iff_right (by omega)]
          refine hiff.trans (and_congr_left fun hzero => ⟨fun _ => hk, fun _ => ?_⟩)
          by_contra hle
          exact hinside k hlt hkl (by omega) hzero
      · rw [heq] at hs ⊢
        rcases Nat.eq_or_lt_of_le hk with rfl | hlt
        · refine iff_of_false (hnone _ resume) ?_
          have hpos := hpass word hhead hdsl
          rw [hdepth]
          omega
        · have hmax' : max (n + 1) resume = n + 1 := by omega
          have hnext : max (n + 1) resume ≤ last → depthBetween cs a
              ((Document.ofText cs).lineStart (max (n + 1) resume)) =
                depthAfter depth (trim ((Document.ofText cs).maskedLine n)) := by
            rw [hmax']
            exact fun _ => h.depthAfter_eq hn (by omega) hdepth
          refine (ih (by omega) hnext (by rwa [hrest]) hlt hrest).trans ?_
          rw [hmax']
          omega

/-- The entries of a section are on lines with which no block inside the section is open. -/
theorem depth_of_mem_children (h : Inside cs a first last) (hn : first ≤ n) (hle : n ≤ last)
    {word : List Char} (hhead : blockHead? (trim ((Document.ofText cs).maskedLine n)) = some word)
    (hs : (heuristicSection (.ofText cs) word n last).InStep (.ofText cs)) {c : Child}
    (hc : c ∈ (heuristicSection (.ofText cs) word n last).children) :
    depthBetween cs ((Document.ofText cs).opener n).stop
      ((Document.ofText cs).lineStart c.start.line) = 0 := by
  have h1 := h.one_le.trans hn
  have hlast := h.last_le
  obtain ⟨hopens, hopen⟩ := hs.opensAt h1 (hle.trans hlast) hhead
  have hnonneg := (hopens.depth_heuristicSection hopen hle hlast word).1
  simp only [heuristicSection] at hc hnonneg
  cases hstop : (Document.ofText cs).blockEnd? n last with
  | none =>
      rw [hstop] at hc
      cases hc
  | some stop =>
      rw [hstop] at hc hnonneg
      dsimp only at hnonneg
      obtain ⟨hfirst, hend⟩ := Document.line_of_blockEnd? h1 hle hlast hstop
      have hbody : Inside cs ((Document.ofText cs).opener n).stop (n + 1) (stop.line - 1) :=
        { one_le := Nat.succ_pos n
          last_le := by omega
          start_le := hopens.opener_stop_le
          nonneg := fun k hk hkl => hnonneg k hk (by omega)
          lines := fun k hk hkl => h.lines k (by omega) (by omega) }
      have hlength : stop.line - 1 + 1 - (n + 1) = stop.line - (n + 1) := by omega
      refine hbody.depth_of_mem_firstLevelChildren (Nat.le_refl _)
        (hopens.depthBetween_stop_lineEnd) ?_
      rwa [hlength]

end Inside

/-- Every guessed section comes from a line that heads a block. -/
theorem exists_blockHead?_of_mem {d : Document} {last depth resume : Nat} {ns : List Nat}
    {s : Section} (hs : s ∈ heuristicSectionsOn d last depth resume ns) :
    ∃ n ∈ ns, ∃ word, blockHead? (trim (d.maskedLine n)) = some word ∧
      s = heuristicSection d word n last := by
  induction ns generalizing depth resume with
  | nil => cases hs
  | cons n ns ih =>
      have hlater : ∀ depth' resume', s ∈ heuristicSectionsOn d last depth' resume' ns →
          ∃ n' ∈ n :: ns, ∃ word, blockHead? (trim (d.maskedLine n')) = some word ∧
            s = heuristicSection d word n' last := by
        intro depth' resume' hs
        obtain ⟨n', hn', hsec⟩ := ih hs
        exact ⟨n', List.mem_cons_of_mem n hn', hsec⟩
      by_cases hresume : n < resume
      · rw [heuristicSectionsOn, if_pos hresume] at hs
        exact hlater depth resume hs
      · rcases heuristicSectionsOn_cons_cases d last depth hresume ns with
          ⟨word, -, hword, heq⟩ | ⟨-, heq⟩
        · rw [heq] at hs
          rcases List.mem_cons.mp hs with rfl | hs
          · exact ⟨n, List.mem_cons_self, word, hword, rfl⟩
          · exact hlater _ _ hs
        · rw [heq] at hs
          exact hlater _ _ hs

/-- The guess for the first module, which opens on line `m`, is in step with the text: that line
begins outside of every literal and its `do` is a keyword in the text, every keyword on a masked
line of the module body is a keyword in the text, and so are the sections. -/
structure Document.InStep (d : Document) (m : Nat) : Prop where
  notOpen : ¬ OpenAt d.text (d.lineStart m)
  opener_mem : d.opener m ∈ codeTokensFrom d.text 0
  lines : ∀ n, d.InBody m n → ∀ t ∈ d.lineTokens n, t ∈ codeTokensFrom d.text 0
  sections : ∀ s ∈ heuristicSections d, s.InStep d

namespace Document

variable {cs : List Char} {m : Nat} {name : List Char}

/-- A module's line opens a block, if its `do` counts as a keyword. -/
theorem opensAt_of_moduleHead? (hhead : (ofText cs).moduleHead? = some (m, name))
    (hmem : (ofText cs).opener m ∈ codeTokensFrom cs 0) : (ofText cs).OpensAt m := by
  obtain ⟨n, hn, hname⟩ := List.exists_of_findSome?_eq_some hhead
  obtain ⟨name', hname', heq⟩ := Option.map_eq_some_iff.mp hname
  cases heq
  rw [List.mem_range'_1] at hn
  exact ⟨hn.1, by omega, opensPlainly_of_moduleHead? hname', hmem⟩

/-- The depth can be counted on the masked lines of the module body. -/
theorem InStep.inside (h : (ofText cs).InStep m) (hopens : (ofText cs).OpensAt m) :
    Inside cs ((ofText cs).opener m).stop (m + 1) (moduleBodyEnd (.ofText cs) m) := by
  obtain ⟨hnonneg, hbody⟩ := hopens.moduleBodyEnd_spec h.notOpen
  refine ⟨Nat.succ_pos m, moduleBodyEnd_le cs m, hopens.opener_stop_le, hnonneg, ?_⟩
  intro k hk hkl
  exact h.lines k ((hbody k).mpr ⟨hk, hkl⟩)

end Document

/-- **The guess takes the first nesting level, where it is in step with the text.** A line of the
module body that reads `name do`, for a name that may head a section, does so exactly if the net
depth between the `do` of the module and the start of the line is zero. Each entry of a section is
on a line with net depth zero between the `do` of the section and the start of the line. -/
theorem heuristicSections_firstLevel {cs : List Char} {m : Nat} {name : List Char}
    (hhead : (Document.ofText cs).moduleHead? = some (m, name))
    (h : (Document.ofText cs).InStep m) :
    let d := Document.ofText cs
    (∀ n word, d.InBody m n → blockHead? (trim (d.maskedLine n)) = some word →
      isDslWord word = true →
      ((∃ s ∈ heuristicSections d, s.start.line = n ∧ s.name = String.ofList word) ↔
        depthBetween cs (d.opener m).stop (d.lineStart n) = 0)) ∧
    ∀ s ∈ heuristicSections d, ∀ c ∈ s.children,
      depthBetween cs (d.opener s.start.line).stop (d.lineStart c.start.line) = 0 := by
  intro d
  have hopens := Document.opensAt_of_moduleHead? hhead h.opener_mem
  have hinside := h.inside hopens
  have hbody := (hopens.moduleBodyEnd_spec h.notOpen).2
  have hinStep := h.sections
  have hsections : heuristicSections d = heuristicSectionsOn d (moduleBodyEnd d m) 0 0
      (List.range' (m + 1) (moduleBodyEnd d m + 1 - (m + 1))) := by
    rw [heuristicSections, hhead, Nat.add_sub_add_right]
  change ∀ s ∈ heuristicSections d, _ at hinStep
  rw [hsections] at hinStep ⊢
  constructor
  · intro n word hn hword hdsl
    obtain ⟨hlt, hle⟩ := (hbody n).mp hn
    have hzero : max (m + 1) 0 ≤ moduleBodyEnd d m →
        depthBetween cs (d.opener m).stop (d.lineStart (max (m + 1) 0)) = (0 : Nat) :=
      fun _ => hopens.depthBetween_stop_lineEnd
    have hiff := hinside.mem_heuristicSectionsOn_iff (Nat.le_refl _) hzero hinStep hlt hle hword hdsl
    refine hiff.trans (and_iff_right ?_)
    exact Nat.max_le.mpr ⟨hlt, Nat.zero_le n⟩
  · intro s hs c hc
    obtain ⟨n, hn, word, hword, rfl⟩ := exists_blockHead?_of_mem hs
    rw [List.mem_range'_1] at hn
    have hle : n ≤ moduleBodyEnd d m := by omega
    have hcode := isCodeLine_of_blockHead? (by omega) (hle.trans hinside.last_le) hword
    rw [heuristicSection_start, hcode.firstNonBlank_line]
    exact hinside.depth_of_mem_children hn.1 hle hword (hinStep _ hs) hc

/-- A block of the language in front of the section, blocks inside it, more code behind an `end`,
and keywords in a literal and a comment. -/
theorem heuristicSections_firstLevel_nested :
    let cs :=
      "defmodule A do\n fn -> 1 end\n foo do # do\n  x :a do\n   bar do\n   end\n  end; y\n end\nend".toList
    let d := Document.ofText cs
    (∃ s ∈ heuristicSections d, s.start.line = 3 ∧ s.name = "foo") ∧
      (¬ ∃ s ∈ heuristicSections d, s.start.line = 5 ∧ s.name = "bar") ∧
      (∀ s ∈ heuristicSections d, ∀ c ∈ s.children,
        depthBetween cs (d.opener s.start.line).stop (d.lineStart c.start.line) = 0) := by
  intro cs d
  have hmodule : d.moduleHead? = some (1, ['A']) ∧ ¬ OpenAt d.text (d.lineStart 1) ∧
      d.opener 1 ∈ codeTokensFrom d.text 0 ∧
      (∀ n ≤ d.lineCount, ∀ t ∈ d.lineTokens n, t ∈ codeTokensFrom d.text 0) ∧
      ∀ s ∈ heuristicSections d, s.InStep d := by decide +kernel
  have hlines : (d.InBody 1 3 ∧ blockHead? (trim (d.maskedLine 3)) = some "foo".toList ∧
      depthBetween cs (d.opener 1).stop (d.lineStart 3) = 0) ∧
      d.InBody 1 5 ∧ blockHead? (trim (d.maskedLine 5)) = some "bar".toList ∧
      depthBetween cs (d.opener 1).stop (d.lineStart 5) ≠ 0 := by decide +kernel
  obtain ⟨hhead, hopen, hmem, htokens, hsections⟩ := hmodule
  obtain ⟨⟨hfoo, hfooHead, hfooDepth⟩, hbar, hbarHead, hbarDepth⟩ := hlines
  have h : d.InStep 1 := ⟨hopen, hmem, fun n hn => htokens n (And.left (And.right hn)), hsections⟩
  obtain ⟨hfirst, hchildren⟩ := heuristicSections_firstLevel hhead h
  refine ⟨?_, ?_, hchildren⟩
  · exact (hfirst 3 _ hfoo hfooHead (by decide)).mpr hfooDepth
  · exact (hfirst 5 _ hbar hbarHead (by decide)).not.mpr hbarDepth

/-- A block opens behind the `end` of a section, on the same line. The guess goes on with the next
line as if nothing were open, so the block inside that one becomes a section, too. -/
theorem heuristicSections_behind_end :
    let cs := "defmodule A do\n  foo do\n  end; bar do\n    baz do\n    end\n  end\nend".toList
    let d := Document.ofText cs
    d.moduleHead? = some (1, ['A']) ∧ d.InBody 1 4 ∧
      depthBetween cs (d.opener 1).stop (d.lineStart 4) = 1 ∧
      (heuristicSections d).map (fun s => (s.name, s.start.line)) = [("foo", 2), ("baz", 4)] := by
  decide +kernel

end DslOutline
