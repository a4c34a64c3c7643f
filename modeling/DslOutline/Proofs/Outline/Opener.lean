import DslOutline.Proofs.Block.MaskedTokens
import DslOutline.Proofs.Lexeme.Restart
import DslOutline.Proofs.Outline.Positions

/-!
# The `do` that opens a section

A section start is recognised on the mask, and the end of the section is searched for in the text as
written, by a reading that starts afresh at the start of that line. This module says when the two
speak of the same block.

If no literal is open at the start of the line, the fresh reading sees what a reading of the whole
text sees (`Document.filter_spansFrom_lineStart`). Then nothing that the search finds stands in
front of the name, and the section does not end before it starts (`sections_in_step`). The `do` on
the line is a keyword for the search if its neighbours in the text allow it
(`opener_of_sectionStart`); white space that is not ASCII, or a literal right next to it, does not.
If they do and the name holds no opener of its own, the section ends with the `end` of this very
`do`.
-/

namespace DslOutline

open Text

/-! ### Reading from the start of a line -/

namespace Document

variable {cs : List Char} {n : Nat}

/-- The text in front of a line is made of whole lines. -/
theorem exists_wholeLines_lineStart (h1 : 1 ≤ n) (hn : n ≤ (ofText cs).lineCount) :
    ∃ pre q, cs = pre ++ q ∧ WholeLines pre ∧ byteLength pre = (ofText cs).lineStart n := by
  obtain ⟨pre, body, rest, hline⟩ := exists_lineAt h1 hn
  exact ⟨pre, body ++ rest, hline.text_eq, hline.whole, hline.lineStart.symm⟩

/-- A fresh reading at the start of a line, outside of every literal, gives the spans of the whole
text from there on. -/
theorem filter_spansFrom_lineStart (h1 : 1 ≤ n) (hn : n ≤ (ofText cs).lineCount)
    (hclosed : ¬ OpenAt cs ((ofText cs).lineStart n)) :
    (spansFrom cs 0).filter (fun s => (ofText cs).lineStart n ≤ s.start) =
      spansFrom cs ((ofText cs).lineStart n) := by
  obtain ⟨pre, q, hcs, hpre, hlen⟩ := exists_wholeLines_lineStart h1 hn
  rw [← hlen] at hclosed ⊢
  rw [hcs] at hclosed ⊢
  exact filter_spansFrom_of_not_openAt hpre hclosed

/-- Its keywords are the keywords of the whole text from there on. -/
theorem mem_codeTokensFrom_lineStart_iff (h1 : 1 ≤ n) (hn : n ≤ (ofText cs).lineCount)
    (hclosed : ¬ OpenAt cs ((ofText cs).lineStart n)) {t : PlacedToken} :
    t ∈ codeTokensFrom cs ((ofText cs).lineStart n) ↔
      t ∈ codeTokensFrom cs 0 ∧ (ofText cs).lineStart n ≤ t.start := by
  rw [codeTokensFrom_eq, codeTokensFrom_eq, ← filter_spansFrom_lineStart h1 hn hclosed,
    List.mem_filterMap, List.mem_filterMap]
  constructor
  · rintro ⟨s, hs, hst⟩
    obtain ⟨hmem, hle⟩ := List.mem_filter.mp hs
    obtain ⟨hstart, -⟩ := Span.blockTokenAt?_of_token? hst
    rw [hstart]
    exact ⟨⟨s, hmem, hst⟩, of_decide_eq_true hle⟩
  · rintro ⟨⟨s, hs, hst⟩, hle⟩
    obtain ⟨hstart, -⟩ := Span.blockTokenAt?_of_token? hst
    rw [hstart] at hle
    exact ⟨s, List.mem_filter.mpr ⟨hs, decide_eq_true hle⟩, hst⟩

/-- A masked line is a part of the masked text that begins where the line does. -/
theorem exists_masked_eq (h1 : 1 ≤ n) (hn : n ≤ (ofText cs).lineCount) :
    ∃ pre rest, (ofText cs).masked = pre ++ ((ofText cs).maskedLine n ++ rest) ∧
      byteLength pre = (ofText cs).lineStart n := by
  rw [lineCount, index_eq_ofText_masked] at hn
  obtain ⟨pre, body, rest, hline⟩ := exists_lineAt h1 hn
  obtain ⟨t, ht⟩ := trimTerminator_prefix body
  have htext : (ofText cs).maskedLine n ++ t = body := by
    rw [maskedLine, index_eq_ofText_masked, hline.lineText]
    exact ht
  refine ⟨pre, t ++ rest, ?_, ?_⟩
  · rw [← List.append_assoc (maskedLine _ n), htext]
    exact hline.text_eq
  · rw [lineStart, index_eq_ofText_masked, hline.lineStart]

end Document

/-! ### Keywords on the masked text of a document -/

/-- A character other than a space stands at one place before and after a byte order mark is
blanked. -/
theorem exists_of_blankByteOrderMark {ms m n : List Char} {c : Char} (hc : c ≠ ' ')
    (h : blankByteOrderMark ms = m ++ c :: n) :
    ∃ m', ms = m' ++ c :: n ∧ byteLength m' = byteLength m := by
  rcases blankByteOrderMark_cases ms with hsame | ⟨rest, rfl, hblank⟩
  · exact ⟨m, hsame.symm.trans h, rfl⟩
  · rw [hblank] at h
    rcases split_blankChar hc h.symm with ⟨-, -, hfeed, -⟩ | ⟨m', rfl, rfl⟩
    · exact absurd hfeed (by decide)
    · refine ⟨byteOrderMark :: m', rfl, ?_⟩
      rw [byteLength_append, byteLength_blankChar, byteLength_cons]

namespace BlockToken

theorem isBlank_of_mem_word {t : BlockToken} {c : Char} (h : c ∈ t.word) : isBlank c = false := by
  have hall : t.word.all (fun c => !isBlank c) = true := by cases t <;> rfl
  simpa using List.all_eq_true.mp hall c h

end BlockToken

/-- A keyword in the code of a text is a whole word on the masked text of its document. -/
theorem exists_masked_of_mem_codeTokensFrom {cs : List Char} {t : PlacedToken}
    (h : t ∈ codeTokensFrom cs 0) :
    ∃ p q, (Document.ofText cs).masked = p ++ (t.token.word ++ q) ∧ byteLength p = t.start ∧
      admitsBefore p.getLast? = true ∧ admitsAfter q.head? = true := by
  obtain ⟨p, q, hmask, hstart, hbefore, hafter⟩ :=
    mem_tokensIn_iff.mp (mem_tokensIn_mask_of_mem h)
  rw [Option.or_none] at hbefore
  rw [Nat.zero_add] at hstart
  change ∃ p q, blankByteOrderMark (mask cs) = _ ∧ _
  rcases blankByteOrderMark_cases (mask cs) with hsame | ⟨rest, hmark, hblank⟩
  · exact ⟨p, q, hsame.trans hmask, hstart.symm, hbefore, hafter⟩
  · rw [hmask] at hmark
    cases p with
    | nil =>
        -- the mark is no letter of a keyword
        obtain ⟨c, w, hw⟩ := t.token.exists_word_eq_cons
        rw [hw, List.nil_append, List.cons_append, List.cons.injEq] at hmark
        have halpha := BlockToken.isAlpha_of_mem_word (t := t.token) (c := c) (by simp [hw])
        rw [hmark.1] at halpha
        cases halpha
    | cons c p =>
        rw [List.cons_append, List.cons.injEq] at hmark
        obtain ⟨rfl, rfl⟩ := hmark
        refine ⟨blankChar byteOrderMark ++ p, q, ?_, ?_, ?_, hafter⟩
        · rw [hblank, List.append_assoc]
        · rw [hstart, byteLength_append, byteLength_blankChar, byteLength_cons]
        · by_cases hne : p = []
          · subst hne
            rfl
          · rw [List.getLast?_append_of_ne_nil _ hne]
            rwa [List.getLast?_cons_of_ne_nil hne] at hbefore

/-- What may stand in front of a keyword in a text may do so in the part that begins later. -/
theorem admitsBefore_of_append {a x : List Char} (h : admitsBefore (a ++ x).getLast? = true) :
    admitsBefore x.getLast? = true := by
  by_cases hx : x = []
  · subst hx
    rfl
  · rwa [List.getLast?_append_of_ne_nil a hx] at h

/-- What may stand behind a keyword in a text may do so in the part that ends earlier. -/
theorem admitsAfter_of_append {y b : List Char} (h : admitsAfter (y ++ b).head? = true) :
    admitsAfter y.head? = true := by
  by_cases hy : y = []
  · subst hy
    rfl
  · rwa [List.head?_append_of_ne_nil y hy] at h

/-! ### What is on the line -/

/-- What is not blank does not stand inside a run of white space. -/
theorem byteLength_append_le_of_blank {pre run more p q : List Char} {c : Char}
    (h : pre ++ (run ++ more) = p ++ c :: q) (hrun : ∀ e ∈ run, isBlank e = true)
    (hc : isBlank c = false) (hle : byteLength pre ≤ byteLength p) :
    byteLength (pre ++ run) ≤ byteLength p := by
  obtain ⟨x, rfl⟩ := prefix_of_byteLength_le ⟨_, rfl⟩ ⟨_, h.symm⟩ hle
  rw [List.append_assoc, List.append_cancel_left_eq] at h
  rcases append_eq_append_cons_iff.mp h with ⟨y, rfl, -⟩ | ⟨y, rfl, -⟩
  · rw [hrun c (by simp)] at hc
    cases hc
  · simp only [byteLength_append]
    omega

/-- A word that starts before white space or in it ends before the white space. -/
theorem exists_of_word_before_blank {name blanks more x w q : List Char}
    (h : name ++ (blanks ++ more) = x ++ (w ++ q)) (hne : blanks ≠ [])
    (hblank : ∀ e ∈ blanks, isBlank e = true) (hw : w ≠ []) (hword : ∀ e ∈ w, isBlank e = false)
    (hlt : byteLength x < byteLength (name ++ blanks)) :
    ∃ y, name = x ++ (w ++ y) ∧ q = y ++ (blanks ++ more) := by
  rcases List.append_eq_append_iff.mp h with ⟨u, rfl, -⟩ | ⟨u, rfl, hu⟩
  · obtain ⟨c, w, rfl⟩ := List.exists_cons_of_ne_nil hw
    have hname := byteLength_le_of_prefix (List.prefix_append name u)
    have hle := byteLength_append_le_of_blank h hblank (hword c List.mem_cons_self) hname
    omega
  · rcases List.append_eq_append_iff.mp hu with ⟨v, rfl, hv⟩ | ⟨v, rfl, hv⟩
    · exact ⟨v, rfl, hv⟩
    · cases v with
      | nil => exact ⟨[], by simp, hv.symm⟩
      | cons e v =>
          -- the first letter after the name would be the first of the blanks
          obtain ⟨e', blanks, rfl⟩ := List.exists_cons_of_ne_nil hne
          rw [List.cons_append, List.cons_append, List.cons.injEq] at hv
          have hblank := hblank e' List.mem_cons_self
          rw [hv.1, hword e (by simp)] at hblank
          cases hblank

namespace SectionStart

/-- The `do` on the line of a section start: the last word of the masked line. -/
def opener (s : SectionStart) (d : Document) : PlacedToken :=
  ⟨d.lineStart s.line + byteLength (trimEnd (d.maskedLine s.line)) - BlockToken.doBlock.size,
    .doBlock⟩

/-- The masked text of a document around the line of a section start: `pre` is what comes before the
line, `indent` the white space in front of the name, `blanks` the white space between the name and
the `do`, and `after` all that follows. -/
structure LineParts (s : SectionStart) (d : Document) (pre indent blanks after : List Char) :
    Prop where
  masked_eq : d.masked = pre ++ (indent ++ (s.spec.name.toList ++ (blanks ++ ('d' :: 'o' :: after))))
  lineStart_eq : d.lineStart s.line = byteLength pre
  indentation_eq : d.indentation s.line = byteLength indent
  indent_blank : ∀ c ∈ indent, isBlank c = true
  blanks_ne_nil : blanks ≠ []
  blanks_blank : ∀ c ∈ blanks, isBlank c = true
  opener_start : (s.opener d).start =
    byteLength (pre ++ (indent ++ (s.spec.name.toList ++ blanks)))

/-- Every line on which a section starts has these parts. -/
theorem exists_lineParts {cs : List Char} {specs : List SectionSpec} {s : SectionStart}
    (hs : s ∈ sectionStarts (.ofText cs) specs) :
    ∃ pre indent blanks after, s.LineParts (.ofText cs) pre indent blanks after := by
  obtain ⟨h1, hcount, -, blanks, hne, hblank, hopens⟩ := of_mem_sectionStarts hs
  obtain ⟨pre, rest, hmasked, hpre⟩ := Document.exists_masked_eq h1 hcount
  obtain ⟨t, hline, -⟩ := exists_eq_append_trim ((Document.ofText cs).maskedLine s.line)
  have htrim : trimEnd ((Document.ofText cs).maskedLine s.line) = _ :=
    trimEnd_eq (by simp [hopens])
  rw [hopens] at hline htrim
  have hindent : ∀ c ∈ ((Document.ofText cs).maskedLine s.line).takeWhile isBlank,
      isBlank c = true := fun c hc => List.mem_takeWhile_imp hc
  have hlen : (Document.ofText cs).indentation s.line =
      byteLength (((Document.ofText cs).maskedLine s.line).takeWhile isBlank) := rfl
  generalize ((Document.ofText cs).maskedLine s.line).takeWhile isBlank = indent
    at hline htrim hindent hlen
  refine ⟨pre, indent, blanks, t ++ rest, ?_, hpre.symm, hlen, hindent, hne, hblank, ?_⟩
  · rw [hmasked, hline]
    simp
  · have hsize : BlockToken.doBlock.size = byteLength ['d', 'o'] := rfl
    show (Document.ofText cs).lineStart s.line + byteLength (trimEnd _) - _ = _
    rw [htrim, hsize, ← hpre]
    simp only [byteLength_append]
    omega

namespace LineParts

variable {cs pre indent blanks after : List Char} {s : SectionStart} {t : PlacedToken}

/-- A keyword in code that is not before the line is not before the name either. -/
theorem le_start (h : s.LineParts (.ofText cs) pre indent blanks after)
    (ht : t ∈ codeTokensFrom cs 0) (hle : byteLength pre ≤ t.start) :
    byteLength (pre ++ indent) ≤ t.start := by
  obtain ⟨p, q, hmasked, hp, -, -⟩ := exists_masked_of_mem_codeTokensFrom ht
  obtain ⟨c, w, hw⟩ := t.token.exists_word_eq_cons
  have hc : isBlank c = false := BlockToken.isBlank_of_mem_word (t := t.token) (by simp [hw])
  rw [h.masked_eq, hw, List.cons_append] at hmasked
  rw [← hp] at hle ⊢
  exact byteLength_append_le_of_blank hmasked h.indent_blank hc hle

/-- A keyword in code between the start of the line and the `do` is a whole word of the name. -/
theorem exists_mem_tokensIn_name (h : s.LineParts (.ofText cs) pre indent blanks after)
    (ht : t ∈ codeTokensFrom cs 0) (hle : byteLength pre ≤ t.start)
    (hlt : t.start < (s.opener (.ofText cs)).start) :
    ∃ u ∈ tokensIn none 0 s.spec.name.toList, u.token = t.token := by
  have hindent := h.le_start ht hle
  obtain ⟨p, q, hmasked, hp, hbefore, hafter⟩ := exists_masked_of_mem_codeTokensFrom ht
  rw [h.masked_eq, ← List.append_assoc] at hmasked
  rw [h.opener_start, ← hp, ← List.append_assoc] at hlt
  rw [← hp] at hindent
  obtain ⟨x, rfl⟩ := prefix_of_byteLength_le ⟨_, rfl⟩ ⟨_, hmasked.symm⟩ hindent
  rw [List.append_assoc (pre ++ indent), List.append_cancel_left_eq] at hmasked
  rw [byteLength_append, byteLength_append (pre ++ indent), Nat.add_lt_add_iff_left] at hlt
  obtain ⟨c, w, hw⟩ := t.token.exists_word_eq_cons
  obtain ⟨y, hname, rfl⟩ := exists_of_word_before_blank hmasked h.blanks_ne_nil h.blanks_blank
    (by simp [hw]) (fun _ => BlockToken.isBlank_of_mem_word) hlt
  refine ⟨⟨byteLength x, t.token⟩, mem_tokensIn_iff.mpr ⟨x, y, hname, ?_, ?_, ?_⟩, rfl⟩
  · exact (Nat.zero_add _).symm
  · rw [Option.or_none]
    exact admitsBefore_of_append hbefore
  · exact admitsAfter_of_append hafter

end LineParts

/-- The `do` on the line of a section start is spelled in the code of the text. -/
theorem exists_marks_opener {cs : List Char} {specs : List SectionSpec}
    {s : SectionStart} (hs : s ∈ sectionStarts (.ofText cs) specs) :
    ∃ a b, marks (lexemes cs) = a ++ (['d', 'o'].map .code ++ b) ∧
      byteLength (a.map MarkedChar.char) = (s.opener (.ofText cs)).start := by
  obtain ⟨pre, indent, blanks, after, hparts⟩ := exists_lineParts hs
  have hmasked : blankByteOrderMark (mask cs) =
      (pre ++ (indent ++ (s.spec.name.toList ++ blanks))) ++ ('d' :: 'o' :: after) := by
    rw [show blankByteOrderMark (mask cs) = _ from hparts.masked_eq]
    simp
  obtain ⟨m, hmask, hm⟩ := exists_of_blankByteOrderMark (by decide) hmasked
  rw [mask_eq_flatMap_masked] at hmask
  obtain ⟨a, b, hmarks, rfl, hb⟩ := exists_split_of_masked (by decide) (by decide) hmask
  have hletter : ∀ c ∈ ['o'], c.isAlpha = true := by
    intro c hc
    rw [List.mem_singleton.mp hc]
    rfl
  obtain ⟨b', rfl⟩ := exists_letters_of_masked hletter ⟨after, hb.symm⟩
  refine ⟨a, b', hmarks, ?_⟩
  rw [hparts.opener_start, ← hm, byteLength_flatMap_masked]

/-- The `do` on the line of a section start is a keyword for a search that starts with the line,
outside of every literal, if its neighbours in the text allow it. -/
theorem opener_mem_codeTokensFrom_iff {cs : List Char} {specs : List SectionSpec}
    {s : SectionStart} (hs : s ∈ sectionStarts (.ofText cs) specs)
    (hclosed : ¬ OpenAt cs ((Document.ofText cs).lineStart s.line)) :
    ∃ p q, cs = p ++ (['d', 'o'] ++ q) ∧ byteLength p = (s.opener (.ofText cs)).start ∧
      (s.opener (.ofText cs) ∈ codeTokensFrom cs ((Document.ofText cs).lineStart s.line) ↔
        admitsBefore p.getLast? = true ∧ admitsAfter q.head? = true) := by
  have hcode := isCodeLine_of_mem_sectionStarts hs
  obtain ⟨a, b, hmarks, ha⟩ := exists_marks_opener hs
  have hcs : cs = a.map MarkedChar.char ++ (['d', 'o'] ++ b.map MarkedChar.char) := by
    rw [← map_char_marks_lexemes cs, hmarks, List.map_append, List.map_append, map_char_map_code]
  refine ⟨a.map MarkedChar.char, b.map MarkedChar.char, hcs, ha, ?_⟩
  rw [Document.mem_codeTokensFrom_lineStart_iff hcode.one_le hcode.le_lineCount hclosed]
  constructor
  · rintro ⟨hmem, -⟩
    obtain ⟨a', b', hmarks', ha', hbefore, hafter⟩ := mem_codeTokensFrom_zero_iff.mp hmem
    have hcs' : cs = a'.map MarkedChar.char ++ (['d', 'o'] ++ b'.map MarkedChar.char) := by
      rw [← map_char_marks_lexemes cs, hmarks', List.map_append, List.map_append,
        map_char_map_code]
      rfl
    have haa : a.map MarkedChar.char = a'.map MarkedChar.char :=
      prefix_eq_of_byteLength_eq ⟨_, hcs.symm⟩ ⟨_, hcs'.symm⟩ (ha.trans ha'.symm)
    rw [hcs, haa, List.append_cancel_left_eq, List.append_cancel_left_eq] at hcs'
    rw [haa, hcs']
    exact ⟨hbefore, hafter⟩
  · rintro ⟨hbefore, hafter⟩
    refine ⟨mem_codeTokensFrom_zero_iff.mpr ⟨a, b, hmarks, ha, hbefore, hafter⟩, ?_⟩
    obtain ⟨pre, indent, blanks, after, hparts⟩ := exists_lineParts hs
    rw [hparts.lineStart_eq, hparts.opener_start, byteLength_append]
    exact Nat.le_add_right _ _

end SectionStart

/-! ### Sections do not end before they start -/

/-- A section whose `end` was not found ends on its last line, which has its name on it or comes
later. -/
theorem SectionStart.firstNonBlank_le_endOfLine {cs : List Char} {s : SectionStart} {last : Nat}
    (hs : (Document.ofText cs).IsCodeLine s.line) (hle : s.line ≤ last) :
    (Document.ofText cs).firstNonBlank s.line ≤ (Document.ofText cs).endOfLine last := by
  have hline := Document.endOfLine_line (.ofText cs) (Nat.le_trans hs.one_le hle)
  rw [hs.firstNonBlank_eq]
  rcases Nat.eq_or_lt_of_le hle with heq | hlt
  · right
    refine ⟨heq.trans hline.symm, ?_⟩
    have hcolumn := takeBytes_prefix ((Document.ofText cs).indentation s.line)
      ((Document.ofText cs).line s.line)
    rw [← heq]
    exact Nat.succ_le_succ hcolumn.length_le
  · left
    exact hlt.trans_eq hline.symm

/-- An `end` that was found from a line start outside of every literal comes after the name. -/
theorem SectionStart.firstNonBlank_le_blockEnd? {cs : List Char} {specs : List SectionSpec}
    {s : SectionStart} (hs : s ∈ sectionStarts (.ofText cs) specs)
    (hclosed : ¬ OpenAt cs ((Document.ofText cs).lineStart s.line)) {last : Nat} {stop : Position}
    (hstop : (Document.ofText cs).blockEnd? s.line last = some stop) :
    (Document.ofText cs).firstNonBlank s.line ≤ stop := by
  have hcode := isCodeLine_of_mem_sectionStarts hs
  obtain ⟨e, he, rfl⟩ := Option.map_eq_some_iff.mp hstop
  obtain ⟨c, hc, -, rfl, -⟩ := exists_of_blockEndWithin he
  obtain ⟨hmem, hline⟩ :=
    (Document.mem_codeTokensFrom_lineStart_iff hcode.one_le hcode.le_lineCount hclosed).mp hc
  obtain ⟨pre, indent, blanks, after, hparts⟩ := exists_lineParts hs
  have hstart := hparts.le_start hmem (hparts.lineStart_eq ▸ hline)
  -- both places are prefixes of the text, and the one in front of the name is the shorter one
  obtain ⟨a, d, b, hcs, -, -, hlen, -, -⟩ := Document.exists_word_at_indentation hcode.one_le
    hcode.le_lineCount hcode.trimStart_ne_nil List.nil_prefix (by simp)
  obtain ⟨p, q, hcs', hp, -⟩ := exists_of_mem_codeTokensFrom hmem
  have hword : byteLength (p ++ c.token.word) = c.stop := by
    rw [byteLength_append, hp, c.token.byteLength_word, PlacedToken.stop]
  have hle : byteLength a ≤ byteLength (p ++ c.token.word) := by
    rw [hlen, hparts.lineStart_eq, hparts.indentation_eq, byteLength_append, hp]
    rw [byteLength_append] at hstart
    exact Nat.le_trans hstart (Nat.le_add_right _ _)
  obtain ⟨x, hx⟩ := prefix_of_byteLength_le ⟨_, hcs.symm⟩
    ⟨q, (List.append_assoc _ _ _).trans hcs'.symm⟩ hle
  have hall : cs = a ++ (x ++ q) := by
    rw [← List.append_assoc, hx, List.append_assoc, ← hcs']
  have hposition := LineIndex.position_le_position hall
  rw [hx, hword, hlen] at hposition
  exact hposition

/-- **Sections found from line starts outside of every literal are in step with the text.** A
section start is recognised on the mask. If no literal is open where its line begins, the reading
that searches for the end of the section, which starts afresh there, gives exactly the spans that a
reading of the whole text gives from there on, and the section does not end before it starts. -/
theorem sections_in_step (cs : List Char) (specs : List SectionSpec) :
    let d := Document.ofText cs
    (∀ s ∈ sectionStarts d specs, ¬ OpenAt cs (d.lineStart s.line) →
      (spansFrom cs 0).filter (fun x => d.lineStart s.line ≤ x.start) =
        spansFrom cs (d.lineStart s.line)) ∧
    ∀ sec ∈ findSections d specs, ¬ OpenAt cs (d.lineStart sec.start.line) →
      sec.start ≤ sec.stop := by
  intro d
  constructor
  · intro s hs hclosed
    have hcode := isCodeLine_of_mem_sectionStarts hs
    exact Document.filter_spansFrom_lineStart hcode.one_le hcode.le_lineCount hclosed
  · intro sec hsec hclosed
    obtain ⟨s, hs, last, hle, -, rfl⟩ := exists_of_mem_findSections hsec
    have hcode := isCodeLine_of_mem_sectionStarts hs
    rw [SectionStart.toSection_start, hcode.firstNonBlank_line] at hclosed
    simp only [SectionStart.toSection]
    split
    · exact SectionStart.firstNonBlank_le_endOfLine hcode hle
    · rename_i stop hstop
      exact SectionStart.firstNonBlank_le_blockEnd? hs hclosed hstop

/-- The first section follows a heredoc that reads like one, on the line on which a string ends that
started there; the second one has no `end`. -/
theorem sections_in_step_after_heredoc :
    let specs : List SectionSpec := [⟨"things", [], none⟩]
    let cs := "\"\"\"\nthings do\n\"\"\"\n \"end\" things do\n end\nthings do".toList
    let sections := findSections (.ofText cs) specs
    sections.map (fun s => (s.start, s.stop)) = [(⟨4, 8⟩, ⟨5, 5⟩), (⟨6, 1⟩, ⟨6, 10⟩)] ∧
      ∀ s ∈ sections, s.start ≤ s.stop := by
  intro specs cs sections
  have hclosed : ∀ s ∈ sections,
      ¬ OpenAt cs ((Document.ofText cs).lineStart s.start.line) := by decide +kernel
  refine ⟨by decide +kernel, ?_⟩
  intro s hs
  exact (sections_in_step cs specs).2 s hs (hclosed s hs)

/-- The line on which a string ends reads as a section start. Read afresh, the `do end` in the
string comes first, so the section ends before its name. -/
theorem section_ends_in_string :
    let specs : List SectionSpec := [⟨"things", [], none⟩]
    let cs := "\"\n do end \" things do\nend".toList
    OpenAt cs ((Document.ofText cs).lineStart 2) ∧
      spansFrom cs 2 ≠ (spansFrom cs 0).filter (fun x => 2 ≤ x.start) ∧
      (findSections (.ofText cs) specs).map (fun s => (s.start, s.stop)) =
        [(⟨2, 11⟩, ⟨2, 8⟩)] := by
  decide +kernel

/-! ### The block of the opener -/

/-- Nothing is open after tokens that only close. -/
theorem skipping_of_closers {ts : List PlacedToken} (h : ∀ t ∈ ts, t.token = .close) :
    skipping 0 ts = 0 := by
  induction ts with
  | nil => rfl
  | cons t ts ih =>
      have ht : skipToken 0 t = 0 := by simp [skipToken, h t List.mem_cons_self]
      show skipping (skipToken 0 t) ts = 0
      rw [ht]
      exact ih fun u hu => h u (List.mem_cons_of_mem t hu)

/-- If only closing tokens stand in front of a `do`, it is the one that a search takes. -/
theorem Leading.eq_of_closers {before before' rest rest' : List PlacedToken} {o o' : PlacedToken}
    (h : before ++ o :: rest = before' ++ o' :: rest') (hclosers : ∀ t ∈ before, t.token = .close)
    (ho : o.token = .doBlock) (hlead : Leading 0 before') (ho' : o'.token = .doBlock) :
    o = o' ∧ rest = rest' := by
  rcases List.append_eq_append_iff.mp h with ⟨x, rfl, hx⟩ | ⟨x, rfl, hx⟩
  · cases x with
    | nil => exact List.cons.inj hx
    | cons u x =>
        rw [List.cons_append, List.cons.injEq] at hx
        obtain ⟨rfl, -⟩ := hx
        have hpos := hlead.first before o x rfl ho
        rw [skipping_of_closers hclosers] at hpos
        cases hpos
  · cases x with
    | nil =>
        obtain ⟨rfl, rfl⟩ := List.cons.inj hx
        exact ⟨rfl, rfl⟩
    | cons u x =>
        rw [List.cons_append, List.cons.injEq] at hx
        obtain ⟨rfl, -⟩ := hx
        have hclose := hclosers o' (by simp)
        rw [ho'] at hclose
        cases hclose

/-- If the `do` of a section start is a keyword for the search, and the name has no opener in it,
the search ends with the `end` of this `do`. -/
theorem SectionStart.exists_block_of_opener {cs : List Char} {specs : List SectionSpec}
    {s : SectionStart} (hs : s ∈ sectionStarts (.ofText cs) specs)
    (hclosed : ¬ OpenAt cs ((Document.ofText cs).lineStart s.line))
    (hmem : s.opener (.ofText cs) ∈ codeTokensFrom cs ((Document.ofText cs).lineStart s.line))
    (hname : ∀ t ∈ tokensIn none 0 s.spec.name.toList, t.token = .close) {limit e : Nat}
    (he : blockEndWithin cs ((Document.ofText cs).lineStart s.line) limit = some e) :
    ∃ before body c after,
      codeTokensFrom cs ((Document.ofText cs).lineStart s.line) =
        before ++ s.opener (.ofText cs) :: (body ++ c :: after) ∧
      IsFirstBlock [] (s.opener (.ofText cs)) body c ∧ e = c.stop := by
  have hcode := isCodeLine_of_mem_sectionStarts hs
  obtain ⟨pre, indent, blanks, after, hparts⟩ := exists_lineParts hs
  obtain ⟨before, rest, htokens⟩ := List.append_of_mem hmem
  have hclosers : ∀ t ∈ before, t.token = .close := by
    intro t ht
    have hsorted := pairwise_codeTokensFrom cs ((Document.ofText cs).lineStart s.line)
    rw [htokens, List.pairwise_append] at hsorted
    have hstop := hsorted.2.2 t ht _ List.mem_cons_self
    have hsize := t.token.size_pos
    have ht : t ∈ codeTokensFrom cs ((Document.ofText cs).lineStart s.line) := by simp [htokens, ht]
    rw [Document.mem_codeTokensFrom_lineStart_iff hcode.one_le hcode.le_lineCount hclosed,
      hparts.lineStart_eq] at ht
    obtain ⟨u, hu, huv⟩ := hparts.exists_mem_tokensIn_name ht.1 ht.2
      (by rw [PlacedToken.stop] at hstop; omega)
    rw [← huv]
    exact hname u hu
  obtain ⟨before', o, rest', htake, hlead, ho, hclose⟩ :=
    (endOfFirstBlock_eq_some_iff 0 _ _).mp he
  obtain ⟨body, c, after, rfl, hclosing, rfl⟩ := (closeOf_eq_some_iff Nat.one_pos _ _).mp hclose
  obtain ⟨dropped, hall⟩ := List.takeWhile_prefix (fun t => decide (t.stop ≤ limit))
    (l := codeTokensFrom cs ((Document.ofText cs).lineStart s.line))
  rw [htake, htokens, List.append_assoc, List.cons_append, List.append_assoc,
    List.cons_append] at hall
  obtain ⟨rfl, rfl⟩ := Leading.eq_of_closers hall.symm hclosers rfl hlead ho
  exact ⟨before, body, c, _, htokens,
    isFirstBlock_iff.mpr ⟨Leading.nil_iff.mpr rfl, rfl, hclosing⟩, rfl⟩

/-- **The `do` that makes a line a section start is the one that the search for its end takes, if
the text next to it allows it.** Let the line begin outside of every literal. The `do` stands in the
text at the place of `opener`, and it is a keyword for the search if and only if its two neighbours
there are among the characters that may stand next to one. If it is, and the name of the section
holds no `do` or `fn` of its own, a section whose end was found ends with the first `end` at which
as many blocks have closed as have opened from this `do` on. -/
theorem opener_of_sectionStart {cs : List Char} {specs : List SectionSpec} {s : SectionStart}
    (hs : s ∈ sectionStarts (.ofText cs) specs)
    (hclosed : ¬ OpenAt cs ((Document.ofText cs).lineStart s.line)) :
    let d := Document.ofText cs
    let tokens := codeTokensFrom cs (d.lineStart s.line)
    (∃ p q, cs = p ++ (['d', 'o'] ++ q) ∧ byteLength p = (s.opener d).start ∧
      (s.opener d ∈ tokens ↔ admitsBefore p.getLast? = true ∧ admitsAfter q.head? = true)) ∧
    (s.opener d ∈ tokens → (∀ t ∈ tokensIn none 0 s.spec.name.toList, t.token = .close) →
      ∀ last, (s.toSection d last).closed = true →
        ∃ before body c after, tokens = before ++ s.opener d :: (body ++ c :: after) ∧
          IsFirstBlock [] (s.opener d) body c ∧ (s.toSection d last).stop = d.position c.stop) := by
  intro d tokens
  refine ⟨SectionStart.opener_mem_codeTokensFrom_iff hs hclosed, ?_⟩
  intro hmem hname last hfound
  simp only [SectionStart.toSection] at hfound ⊢
  split at hfound
  · cases hfound
  · rename_i stop hstop
    obtain ⟨e, he, rfl⟩ := Option.map_eq_some_iff.mp hstop
    obtain ⟨before, body, c, after, htokens, hblock, rfl⟩ :=
      SectionStart.exists_block_of_opener hs hclosed hmem hname he
    exact ⟨before, body, c, after, htokens, hblock, rfl⟩

/-- A literal in front of the name, a tab in front of the `do`, a comment right after it, and a
block inside the section. -/
theorem opener_of_sectionStart_nested :
    let s : SectionStart := ⟨1, ⟨"things", [], none⟩⟩
    let cs := "\"do\" things\u00a0\tdo# end\n x do\n end\nend".toList
    let d := Document.ofText cs
    s ∈ sectionStarts d [s.spec] ∧ (s.toSection d 4).stop = ⟨4, 4⟩ ∧
      ∃ before body c after,
        codeTokensFrom cs (d.lineStart 1) = before ++ s.opener d :: (body ++ c :: after) ∧
          IsFirstBlock [] (s.opener d) body c ∧ (s.toSection d 4).stop = d.position c.stop := by
  intro s cs d
  have hs : s ∈ sectionStarts d [s.spec] := by decide +kernel
  have hclosed : ¬ OpenAt cs (d.lineStart 1) := by decide +kernel
  refine ⟨hs, by decide +kernel, ?_⟩
  exact (opener_of_sectionStart hs hclosed).2 (by decide +kernel) (by decide +kernel) 4
    (by decide +kernel)

/-- A no-break space separates the name from the `do` for the test of the line, but not for the
search, which takes the next `do`. The section ends with the block inside it. -/
theorem opener_after_noBreakSpace :
    let s : SectionStart := ⟨1, ⟨"things", [], none⟩⟩
    let cs := "things\u00a0do\n x do\n end\nend".toList
    let d := Document.ofText cs
    s ∈ sectionStarts d [s.spec] ∧ ¬ OpenAt cs (d.lineStart 1) ∧
      s.opener d ∉ codeTokensFrom cs (d.lineStart 1) ∧
      (findSections d [s.spec]).map Section.stop = [⟨3, 5⟩] := by
  decide +kernel

end DslOutline
