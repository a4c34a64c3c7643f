import DslOutline.Proofs.Block.Depth
import DslOutline.Proofs.Outline.Opener

/-!
# Nesting depth, line by line

The depth of a document is counted on the masked lines, without the white space around them. No
keyword reaches from one line into the next, and every keyword in the code of a line is seen on its
masked line (`Document.mem_lineTokens`). The other direction need not hold: next to a literal or to
white space that is not ASCII, a word may be a keyword on the masked line only. Where it does hold,
the masked line counts what the code of the line adds to the depth
(`Document.netDepth_eq_depthBetween`).

Line starts and positions are brought together with the keywords in between: a keyword stands on the
line of its end (`Document.line_position_stop`).
-/

namespace DslOutline

open Text

namespace Document

/-- The keywords on a masked line, without the white space around it. -/
def lineTokens (d : Document) (n : Nat) : List PlacedToken :=
  tokensIn none (d.lineStart n + d.indentation n) (trim (d.maskedLine n))

/-- The masked text of a document around line `n`: `pre` is what comes before the line, `indent` and
`blanks` are the white space before and after the text on the line, its terminator included, and
`rest` is all that follows. -/
structure MaskedLineAt (d : Document) (n : Nat) (pre indent blanks rest : List Char) : Prop where
  masked_eq : d.masked = pre ++ (indent ++ (trim (d.maskedLine n) ++ (blanks ++ rest)))
  start_eq : d.lineStart n = byteLength pre
  indentation_eq : d.indentation n = byteLength indent
  indent_blank : ∀ c ∈ indent, isBlank c = true
  blanks_blank : ∀ c ∈ blanks, isBlank c = true
  stop_eq : d.lineEnd n = byteLength (pre ++ (indent ++ (trim (d.maskedLine n) ++ blanks)))
  ended : blanks ≠ [] ∨ rest = []

variable {cs : List Char} {n : Nat}

/-- Every line stands somewhere in the text and, with its white space split off, on the mask. -/
theorem exists_maskedLineAt (h1 : 1 ≤ n) (hn : n ≤ (ofText cs).lineCount) :
    ∃ pre indent blanks rest, (ofText cs).MaskedLineAt n pre indent blanks rest := by
  rw [lineCount, index_eq_ofText_masked] at hn
  obtain ⟨pre, body, rest, hline⟩ := exists_lineAt h1 hn
  have hterminator : ∃ t, body = (ofText cs).maskedLine n ++ t ∧ ∀ c ∈ t, isBlank c = true := by
    refine ⟨body.rtakeWhile fun c => c == '\r' || c == '\n', ?_, ?_⟩
    · rw [maskedLine, index_eq_ofText_masked, hline.lineText]
      exact List.rdropWhile_append_rtakeWhile.symm
    · intro c hc
      have hend := List.mem_rtakeWhile_imp hc
      simp only [Bool.or_eq_true, beq_iff_eq] at hend
      rcases hend with rfl | rfl <;> decide
  obtain ⟨t, hbody, ht⟩ := hterminator
  obtain ⟨tail, hsplit, htail⟩ := exists_eq_append_trim ((ofText cs).maskedLine n)
  have hall : body = ((ofText cs).maskedLine n).takeWhile isBlank ++
      (trim ((ofText cs).maskedLine n) ++ (tail ++ t)) := by
    rw [hbody]
    nth_rewrite 1 [hsplit]
    simp only [List.append_assoc]
  have hfeed : ∀ c ∈ rest.take 1, isBlank c = true := by
    intro c hc
    rcases hline.ended with hfeed | ⟨rfl, -⟩
    · rw [List.take_one, hfeed] at hc
      rw [List.mem_singleton.mp hc]
      decide
    · cases hc
  refine ⟨pre, ((ofText cs).maskedLine n).takeWhile isBlank, tail ++ (t ++ rest.take 1),
    rest.drop 1, ?_, ?_, rfl, fun c hc => List.mem_takeWhile_imp hc, ?_, ?_, ?_⟩
  · rw [hline.text_eq, hall]
    simp only [List.append_assoc, List.take_append_drop]
  · rw [lineStart, index_eq_ofText_masked, hline.lineStart]
  · intro c hc
    rw [List.mem_append, List.mem_append] at hc
    rcases hc with hc | hc | hc
    · exact htail c hc
    · exact ht c hc
    · exact hfeed c hc
  · rw [lineEnd, index_eq_ofText_masked, hline.lineEnd, hall]
    simp only [List.append_assoc]
  · rcases hline.ended with hfeed | ⟨rfl, -⟩
    · left
      simp [List.take_one, hfeed]
    · exact Or.inr rfl

/-! ### Keywords and lines -/

/-- Every keyword in the code of a line is a keyword on the masked line. -/
theorem mem_lineTokens (h1 : 1 ≤ n) (hn : n ≤ (ofText cs).lineCount) {t : PlacedToken}
    (ht : t ∈ codeTokensFrom cs 0) (hle : (ofText cs).lineStart n ≤ t.start)
    (hlt : t.start < (ofText cs).lineEnd n) : t ∈ (ofText cs).lineTokens n := by
  obtain ⟨pre, indent, blanks, rest, hline⟩ := exists_maskedLineAt h1 hn
  obtain ⟨p, q, hmasked, hp, hbefore, hafter⟩ := exists_masked_of_mem_codeTokensFrom ht
  obtain ⟨c, w, hw⟩ := t.token.exists_word_eq_cons
  have hc : isBlank c = false := BlockToken.isBlank_of_mem_word (t := t.token) (by simp [hw])
  rw [hline.start_eq, ← hp] at hle
  rw [hline.stop_eq, ← hp] at hlt
  rw [hline.masked_eq] at hmasked
  have hindent : byteLength (pre ++ indent) ≤ byteLength p := by
    rw [hw, List.cons_append] at hmasked
    exact byteLength_append_le_of_blank hmasked hline.indent_blank hc hle
  rw [← List.append_assoc] at hmasked hlt
  obtain ⟨x, rfl⟩ := prefix_of_byteLength_le ⟨_, rfl⟩ ⟨_, hmasked.symm⟩ hindent
  rw [List.append_assoc (pre ++ indent), List.append_cancel_left_eq] at hmasked
  rw [byteLength_append (pre ++ indent), byteLength_append (pre ++ indent),
    Nat.add_lt_add_iff_left] at hlt
  obtain ⟨y, hy, hq⟩ : ∃ y, trim ((ofText cs).maskedLine n) = x ++ (t.token.word ++ y) ∧
      q = y ++ (blanks ++ rest) := by
    by_cases hne : blanks = []
    · have hrest := hline.ended.resolve_left (not_not_intro hne)
      rw [hne, hrest, List.append_nil, List.append_nil] at hmasked
      exact ⟨q, hmasked, by rw [hne, hrest, List.append_nil, List.append_nil]⟩
    · exact exists_of_word_before_blank hmasked hne hline.blanks_blank (by simp [hw])
        (fun _ => BlockToken.isBlank_of_mem_word) hlt
  refine mem_tokensIn_iff.mpr ⟨x, y, hy, ?_, ?_, ?_⟩
  · rw [← hp, hline.start_eq, hline.indentation_eq, byteLength_append, byteLength_append]
  · rw [Option.or_none]
    exact admitsBefore_of_append hbefore
  · rw [hq] at hafter
    exact admitsAfter_of_append hafter

/-- The keywords of a line stand on it. -/
theorem start_of_mem_lineTokens (h1 : 1 ≤ n) (hn : n ≤ (ofText cs).lineCount) {t : PlacedToken}
    (ht : t ∈ (ofText cs).lineTokens n) :
    (ofText cs).lineStart n ≤ t.start ∧ t.start < (ofText cs).lineEnd n := by
  obtain ⟨pre, indent, blanks, rest, hline⟩ := exists_maskedLineAt h1 hn
  obtain ⟨p, q, hword, hstart, -, -⟩ := mem_tokensIn_iff.mp ht
  have hpos := t.token.size_pos
  rw [← t.token.byteLength_word] at hpos
  have hstop := hline.stop_eq
  rw [hword] at hstop
  simp only [byteLength_append] at hstop
  rw [hline.indentation_eq] at hstart
  have hpre := hline.start_eq
  omega

/-- If the keywords on the masked line are keywords in the text, they are the keywords of the
line. -/
theorem lineTokens_eq (h1 : 1 ≤ n) (hn : n ≤ (ofText cs).lineCount)
    (hline : ∀ t ∈ (ofText cs).lineTokens n, t ∈ codeTokensFrom cs 0) :
    tokensBetween cs ((ofText cs).lineStart n) ((ofText cs).lineEnd n) =
      (ofText cs).lineTokens n := by
  refine tokensBetween_eq (pairwise_tokensIn _ _ _) ?_
  intro t
  constructor
  · intro ht
    exact ⟨hline t ht, start_of_mem_lineTokens h1 hn ht⟩
  · rintro ⟨ht, hle, hlt⟩
    exact mem_lineTokens h1 hn ht hle hlt

/-- In this case the masked line counts what the code of the line adds to the depth. -/
theorem netDepth_eq_depthBetween (h1 : 1 ≤ n) (hn : n ≤ (ofText cs).lineCount)
    (hline : ∀ t ∈ (ofText cs).lineTokens n, t ∈ codeTokensFrom cs 0) :
    netDepth (trim ((ofText cs).maskedLine n)) =
      depthBetween cs ((ofText cs).lineStart n) ((ofText cs).lineEnd n) := by
  rw [depthBetween, lineTokens_eq h1 hn hline, lineTokens, netDepth_eq]

end Document

/-- No keyword reaches past the end of a line. -/
theorem stop_lt_of_wholeLines {pre q : List Char} (hpre : WholeLines pre) {t : PlacedToken}
    (ht : t ∈ codeTokensFrom (pre ++ q) 0) (hlt : t.start < byteLength pre) :
    t.stop < byteLength pre := by
  obtain ⟨p, r, hcs, hp, -⟩ := exists_of_mem_codeTokensFrom ht
  by_contra hover
  have hword : byteLength (p ++ t.token.word) = t.stop := by
    rw [byteLength_append, hp, t.token.byteLength_word, PlacedToken.stop]
  have hprefix : pre <+: pre ++ q := List.prefix_append pre q
  -- some letters of the keyword would end a line
  obtain ⟨x, rfl⟩ := prefix_of_byteLength_le ⟨_, hcs.symm⟩ hprefix (by omega)
  have hx : x <+: t.token.word := by
    have := prefix_of_byteLength_le hprefix ⟨r, by rw [List.append_assoc, hcs]⟩ (by omega)
    rwa [List.prefix_append_right_inj] at this
  have hne : x ≠ [] := by
    rintro rfl
    rw [List.append_nil] at hlt
    omega
  have hlast := List.getLast?_eq_some_getLast hne
  have hfeed := hpre (x.getLast hne) (by rw [List.getLast?_append_of_ne_nil p hne, hlast])
  have halpha := BlockToken.isAlpha_of_mem_word (hx.subset (List.getLast_mem hne))
  rw [hfeed] at halpha
  cases halpha

namespace Document

/-- A line ends with a line feed, or with the text. -/
theorem exists_prefix_lineEnd (h1 : 1 ≤ n) (hn : n ≤ (ofText cs).lineCount) :
    ∃ pre q, cs = pre ++ q ∧ byteLength pre = (ofText cs).lineEnd n ∧
      (ofText cs).lineStart n ≤ (ofText cs).lineEnd n ∧ (WholeLines pre ∨ q = []) := by
  obtain ⟨pre, body, rest, hline⟩ := exists_lineAt h1 hn
  have hstart : (ofText cs).lineStart n = byteLength pre := hline.lineStart
  have hend : (ofText cs).lineEnd n = byteLength (pre ++ (body ++ rest.take 1)) := hline.lineEnd
  refine ⟨pre ++ (body ++ rest.take 1), rest.drop 1, ?_, hend.symm, ?_, ?_⟩
  · rw [List.append_assoc, List.append_assoc, List.take_append_drop]
    exact hline.text_eq
  · rw [hstart, hend, byteLength_append]
    exact Nat.le_add_right _ _
  · rcases hline.ended with hfeed | ⟨rfl, -⟩
    · left
      rw [List.take_one, hfeed, ← List.append_assoc]
      exact wholeLines_append_newline _
    · exact Or.inr rfl

/-- A line ends within the text. -/
theorem lineEnd_le_byteLength (h1 : 1 ≤ n) (hn : n ≤ (ofText cs).lineCount) :
    (ofText cs).lineEnd n ≤ byteLength cs := by
  obtain ⟨pre, q, hcs, hlen, -, -⟩ := exists_prefix_lineEnd h1 hn
  rw [← hlen]
  exact byteLength_le_of_prefix ⟨q, hcs.symm⟩

/-- A keyword that starts on a line ends on it. -/
theorem stop_le_lineEnd (h1 : 1 ≤ n) (hn : n ≤ (ofText cs).lineCount) {t : PlacedToken}
    (ht : t ∈ codeTokensFrom cs 0) (hlt : t.start < (ofText cs).lineEnd n) :
    t.stop ≤ (ofText cs).lineEnd n := by
  obtain ⟨pre, q, hcs, hlen, -, hwhole | rfl⟩ := exists_prefix_lineEnd h1 hn
  · rw [← hlen] at hlt ⊢
    rw [hcs] at ht
    exact Nat.le_of_lt (stop_lt_of_wholeLines hwhole ht hlt)
  · have hstop := stop_le_of_mem_codeTokensFrom ht
    rw [List.append_nil] at hcs
    rwa [hcs, hlen] at hstop

/-- Lines start in order. -/
theorem lineStart_le {m : Nat} (h1 : 1 ≤ m) (hle : m ≤ n) (hn : n ≤ (ofText cs).lineCount + 1) :
    (ofText cs).lineStart m ≤ (ofText cs).lineStart n := by
  induction n, hle using Nat.le_induction with
  | base => exact Nat.le_refl _
  | succ n hle ih =>
      have hcount : n ≤ (ofText cs).lineCount := by omega
      obtain ⟨-, -, -, -, hstart, -⟩ := exists_prefix_lineEnd (h1.trans hle) hcount
      exact (ih (by omega)).trans hstart

/-- The offset of a position: of the first byte of the line, and the bytes in front of the
column. -/
def offsetOf (d : Document) (p : Position) : Nat :=
  d.lineStart p.line +
    byteLength ((dropBytes (d.lineStart p.line) d.text).take (p.column - 1))

/-- A keyword stands on the line of its end. -/
theorem line_position_stop {t : PlacedToken} (ht : t ∈ codeTokensFrom cs 0) :
    let last := (ofText cs).position t.stop
    1 ≤ last.line ∧ last.line ≤ (ofText cs).lineCount ∧
      (ofText cs).lineStart last.line ≤ t.start ∧ t.stop ≤ (ofText cs).lineEnd last.line ∧
      (ofText cs).offsetOf last = t.stop := by
  intro last
  obtain ⟨p, q, hcs, hp, -⟩ := exists_of_mem_codeTokensFrom ht
  have hword : byteLength (p ++ t.token.word) = t.stop := by
    rw [byteLength_append, hp, t.token.byteLength_word, PlacedToken.stop]
  rw [← List.append_assoc] at hcs
  have hnoFeed : '\n' ∉ t.token.word := by
    intro hmem
    exact absurd (BlockToken.isAlpha_of_mem_word hmem) (by decide)
  obtain ⟨pre, before, hsplit, hplace⟩ := exists_placeAt hcs
  rw [hword] at hplace
  change PlaceAt cs last _ _ _ at hplace
  have hstart : (ofText cs).lineStart last.line = byteLength pre := by
    have := LineIndex.lineStart_wholeLines hplace.whole (before ++ q)
    rw [← hplace.text_eq] at this
    rw [hplace.position_eq]
    exact this
  have h1 : 1 ≤ last.line := by
    rw [hplace.position_eq]
    exact Nat.succ_pos _
  have hcount : last.line ≤ (ofText cs).lineCount := by
    obtain ⟨c, w, hw⟩ := t.token.exists_word_eq_cons
    have hne : t.token.word ≠ [] := by simp [hw]
    have hlast : (p ++ t.token.word).getLast? ≠ some '\n' := by
      rw [List.getLast?_append_of_ne_nil p hne]
      exact fun h => hnoFeed (List.mem_of_getLast? h)
    have hle := LineIndex.position_line_le_lineCount (by simp [hne]) hlast q
    rw [← hcs, hword] at hle
    exact hle
  refine ⟨h1, hcount, ?_, ?_, ?_⟩
  · obtain ⟨x, rfl⟩ := hplace.whole.suffix_of_append_eq hsplit.symm hnoFeed
    rw [← List.append_assoc, List.append_cancel_right_eq] at hsplit
    rw [hstart, ← hp, hsplit]
    exact byteLength_le_of_prefix (List.prefix_append pre x)
  · obtain ⟨_, _, _, hline⟩ := exists_lineAt h1 hcount
    have hle := hline.le_lineEnd hcs (by rw [hword]; exact Nat.le_refl _)
    rwa [hword] at hle
  · have hdrop : dropBytes (byteLength pre) cs = before ++ q := by
      rw [hplace.text_eq, dropBytes_append]
    have hcolumn : last.column - 1 = before.length := by
      rw [hplace.position_eq, Nat.add_sub_cancel]
    rw [offsetOf, hstart]
    change byteLength pre + byteLength ((dropBytes (byteLength pre) cs).take _) = _
    rw [hdrop, hcolumn, List.take_left, ← byteLength_append, ← hsplit, hword]

end Document

end DslOutline
