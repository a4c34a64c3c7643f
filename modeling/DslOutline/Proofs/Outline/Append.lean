import DslOutline.Proofs.Block.MaskedTokens
import DslOutline.Proofs.Lexeme.Lookahead
import DslOutline.Proofs.Outline.Checked
import DslOutline.Proofs.Outline.Opener

/-!
# Text that is added at the end

Let a text end with a line feed, and let more text be added to it. The lines that were there stay
as they are, on the mask too, because whole lines are read as they are whatever follows them. So do
the section starts on these lines and the keywords on them (`exists_sectionStarts_append`,
`exists_codeTokensFrom_append`). What may change is how far the last section can extend, and a block
that was closed before the limit stays closed when there is more text and a higher limit
(`blockEndWithin_append`). Hence a closed section stays what it was (`findSections_append`).
-/

namespace DslOutline

open Text

/-! ### Lines -/

/-- A line of a text that ends with a line feed ends with one itself. -/
theorem Text.LineAt.head?_rest {cs pre body rest : List Char} {n : Nat}
    (h : LineAt cs n pre body rest) (hcs : cs.getLast? = some '\n') : rest.head? = some '\n' := by
  rcases h.ended with hfeed | ⟨rfl, hne⟩
  · exact hfeed
  · rw [h.text_eq, List.append_nil, List.getLast?_append_of_ne_nil _ hne] at hcs
    exact absurd (List.mem_of_getLast? hcs) h.noFeed

/-- The lines of a text that ends with a line feed stay where they are. -/
theorem Text.LineAt.append {cs pre body rest : List Char} {n : Nat}
    (h : LineAt cs n pre body rest) (hcs : cs.getLast? = some '\n') (t : List Char) :
    LineAt (cs ++ t) n pre body (rest ++ t) := by
  refine ⟨?_, h.whole, h.number, h.noFeed, Or.inl ?_⟩
  · rw [h.text_eq, List.append_assoc, List.append_assoc]
  · rw [List.head?_append, h.head?_rest hcs]
    rfl

/-- The lines of a text that ends with a line feed and of what is appended add up. -/
theorem Text.LineIndex.lineCount_append {cs : List Char} (hcs : cs.getLast? = some '\n')
    (t : List Char) :
    (ofText (cs ++ t)).lineCount = (ofText cs).lineCount + (ofText t).lineCount := by
  have hne : cs ≠ [] := by
    rintro rfl
    cases hcs
  simp only [lineCount_eq, List.append_eq_nil_iff, hne, false_and, if_false, hcs, if_true,
    List.count_append]
  by_cases ht : t = []
  · simp [ht, hcs]
  · rw [List.getLast?_append_of_ne_nil _ ht, if_neg ht]
    split_ifs
    · rfl
    · exact Nat.add_assoc _ _ _

namespace Document

variable {cs : List Char} {n : Nat}

/-- The mask of a document that ends with a line feed stays as it is. -/
theorem exists_masked_append (hcs : cs.getLast? = some '\n') (t : List Char) :
    ∃ m, (ofText (cs ++ t)).masked = (ofText cs).masked ++ m := by
  have hwhole : WholeLines cs := fun c hc => Option.some.inj (hc.symm.trans hcs)
  have hne : mask cs ≠ [] := by
    intro hnil
    have hlen := (masks_mask cs).byteLength_eq
    rw [hnil, byteLength_nil, eq_comm, byteLength_eq_zero] at hlen
    rw [hlen] at hcs
    cases hcs
  obtain ⟨c, rest, hmask⟩ := List.exists_cons_of_ne_nil hne
  refine ⟨(lex (stateAfter .start (lexemes cs)) (cs.getLast?.or none) t).flatMap Lexeme.masked, ?_⟩
  have happend : mask (cs ++ t) = mask cs ++
      (lex (stateAfter .start (lexemes cs)) (cs.getLast?.or none) t).flatMap Lexeme.masked := by
    rw [mask, lexemes, lex_append .start none hwhole, List.flatMap_append]
    rfl
  show blankByteOrderMark (mask (cs ++ t)) = blankByteOrderMark (mask cs) ++ _
  rw [happend, hmask, List.cons_append, blankByteOrderMark, blankByteOrderMark]
  split_ifs
  · rw [List.append_assoc]
  · rfl

/-- The mask ends with a line feed if the text does. -/
theorem getLast?_masked (hcs : cs.getLast? = some '\n') :
    (ofText cs).masked.getLast? = some '\n' := by
  have hends := congrArg LineIndex.endsWithNewline (index_eq_ofText_masked cs)
  change (cs.getLast? == some '\n') = ((ofText cs).masked.getLast? == some '\n') at hends
  rw [hcs, beq_self_eq_true, eq_comm, beq_iff_eq] at hends
  exact hends

theorem lineCount_append (hcs : cs.getLast? = some '\n') (t : List Char) :
    (ofText (cs ++ t)).lineCount = (ofText cs).lineCount + (ofText t).lineCount :=
  LineIndex.lineCount_append hcs t

/-- The lines of a document start where they did before something was appended. -/
theorem lineStart_append (hcs : cs.getLast? = some '\n') (h1 : 1 ≤ n)
    (hn : n ≤ (ofText cs).lineCount) (t : List Char) :
    (ofText (cs ++ t)).lineStart n = (ofText cs).lineStart n := by
  obtain ⟨pre, body, rest, hline⟩ := exists_lineAt h1 hn
  exact (hline.append hcs t).lineStart.trans hline.lineStart.symm

theorem lineEnd_append (hcs : cs.getLast? = some '\n') (h1 : 1 ≤ n)
    (hn : n ≤ (ofText cs).lineCount) (t : List Char) :
    (ofText (cs ++ t)).lineEnd n = (ofText cs).lineEnd n := by
  obtain ⟨pre, body, rest, hline⟩ := exists_lineAt h1 hn
  have htake : (rest ++ t).take 1 = rest.take 1 := by
    rw [List.take_one, List.take_one, List.head?_append, hline.head?_rest hcs]
    rfl
  rw [lineEnd, lineEnd, show (ofText (cs ++ t)).index = .ofText (cs ++ t) from rfl,
    (hline.append hcs t).lineEnd, htake]
  exact hline.lineEnd.symm

/-- Later lines end later. -/
theorem lineEnd_mono (cs : List Char) {m n : Nat} (h : m ≤ n) :
    (ofText cs).lineEnd m ≤ (ofText cs).lineEnd n := by
  obtain ⟨p, x, q, -, hm, hn⟩ := Checked.exists_getD_starts cs h
  change (ofText cs).lineEnd m = _ at hm
  change (ofText cs).lineEnd n = _ at hn
  rw [hm, hn, byteLength_append]
  exact Nat.le_add_right _ _

/-- The lines of a document that ends with a line feed stay as they are, on the mask too. -/
theorem sourceLine_append (hcs : cs.getLast? = some '\n') (h1 : 1 ≤ n)
    (hn : n ≤ (ofText cs).lineCount) (t : List Char) :
    (ofText (cs ++ t)).sourceLine n = (ofText cs).sourceLine n := by
  have htext : (ofText (cs ++ t)).line n = (ofText cs).line n := by
    obtain ⟨pre, body, rest, hline⟩ := exists_lineAt h1 hn
    exact (hline.append hcs t).lineText.trans hline.lineText.symm
  have hmasked : (ofText (cs ++ t)).maskedLine n = (ofText cs).maskedLine n := by
    obtain ⟨m, hm⟩ := exists_masked_append hcs t
    rw [lineCount, index_eq_ofText_masked] at hn
    obtain ⟨pre, body, rest, hline⟩ := exists_lineAt h1 hn
    have hmore := hline.append (getLast?_masked hcs) m
    rw [← hm] at hmore
    rw [maskedLine, maskedLine, index_eq_ofText_masked, index_eq_ofText_masked, hline.lineText,
      hmore.lineText]
  rw [sourceLine, sourceLine, htext, hmasked]

/-- A line of code stays one when something is appended. -/
theorem IsCodeLine.append (h : (ofText cs).IsCodeLine n) (hcs : cs.getLast? = some '\n')
    (t : List Char) : (ofText (cs ++ t)).IsCodeLine n := by
  have hline := congrArg SourceLine.masked (sourceLine_append hcs h.one_le h.le_lineCount t)
  refine ⟨h.one_le, ?_, ?_⟩
  · rw [lineCount_append hcs]
    exact Nat.le_trans h.le_lineCount (Nat.le_add_right _ _)
  · rw [show (ofText (cs ++ t)).maskedLine n = _ from hline]
    exact h.trimStart_ne_nil

/-- What comes first on a line of code stays in its place. -/
theorem IsCodeLine.firstNonBlank_append (h : (ofText cs).IsCodeLine n)
    (hcs : cs.getLast? = some '\n') (t : List Char) :
    (ofText (cs ++ t)).firstNonBlank n = (ofText cs).firstNonBlank n := by
  have hline := sourceLine_append hcs h.one_le h.le_lineCount t
  have htext : (ofText (cs ++ t)).line n = (ofText cs).line n := congrArg SourceLine.text hline
  have hmasked : (ofText (cs ++ t)).maskedLine n = (ofText cs).maskedLine n :=
    congrArg SourceLine.masked hline
  rw [(h.append hcs t).firstNonBlank_eq, h.firstNonBlank_eq, indentation, indentation, htext,
    hmasked]

end Document

/-! ### Keywords and blocks -/

/-- A keyword that starts in whole lines is in them, with the character that follows it. -/
theorem BlockToken.here?_append {x : List Char} (hx : x.getLast? = some '\n')
    (before : Option Char) (t : List Char) : here? before (x ++ t) = here? before x := by
  refine Option.ext fun token => ?_
  have hfeed : '\n' ∉ token.word := by cases token <;> decide
  rw [here?_eq_some_iff, here?_eq_some_iff, wordHere_iff, wordHere_iff]
  refine and_congr_right fun _ => ?_
  have hmore : ∀ {y : List Char}, x = token.word ++ y → (y ++ t).head? = y.head? := by
    rintro y rfl
    cases y with
    | nil =>
        rw [List.append_nil] at hx
        exact absurd (List.mem_of_getLast? hx) hfeed
    | cons c y => rfl
  constructor
  · rintro ⟨rest, hrest, hafter⟩
    rcases List.append_eq_append_iff.mp hrest with ⟨y, hword, -⟩ | ⟨y, hword, rfl⟩
    · refine absurd ?_ hfeed
      rw [hword]
      exact List.mem_append_left _ (List.mem_of_getLast? hx)
    · rw [hmore hword] at hafter
      exact ⟨y, hword, hafter⟩
  · rintro ⟨y, hy, hafter⟩
    refine ⟨y ++ t, by rw [hy, List.append_assoc], ?_⟩
    rwa [hmore hy]

/-- The keywords in the lexemes of whole lines are also those that come first when more text
follows. -/
theorem exists_codeTokens_append {before : Option Char} {offset : Nat} {x : List Char}
    {ls : List Lexeme} (hls : ∀ l ∈ ls, l.text ≠ []) (hx : ls.flatMap Lexeme.text = x)
    (hwhole : WholeLines x) (t : List Char) (ks : List Lexeme) :
    ∃ more, codeTokens before offset (x ++ t) (ls ++ ks) =
      codeTokens before offset x ls ++ more := by
  induction ls generalizing before offset x with
  | nil =>
      refine ⟨codeTokens before offset t ks, ?_⟩
      rw [← hx]
      rfl
  | cons l ls ih =>
      rw [List.flatMap_cons] at hx
      subst hx
      have hne : l.text ++ ls.flatMap Lexeme.text ≠ [] := by
        simp [hls l List.mem_cons_self]
      have hlast : (l.text ++ ls.flatMap Lexeme.text).getLast? = some '\n' := by
        rw [List.getLast?_eq_some_getLast hne,
          hwhole _ (List.getLast?_eq_some_getLast hne)]
      obtain ⟨more, hmore⟩ : ∃ more, codeTokens l.text.getLast? (offset + byteLength l.text)
          (ls.flatMap Lexeme.text ++ t) (ls ++ ks) =
          codeTokens l.text.getLast? (offset + byteLength l.text) (ls.flatMap Lexeme.text) ls ++
            more :=
        ih (fun k hk => hls k (List.mem_cons_of_mem l hk)) rfl hwhole.of_append
      refine ⟨more, ?_⟩
      rw [List.cons_append, codeTokens, codeTokens, PlacedToken.here?, PlacedToken.here?,
        BlockToken.here?_append hlast, List.append_assoc, List.drop_left, List.drop_left, hmore,
        List.append_assoc]

/-- The keywords from the start of a line on stay, and others may follow. -/
theorem exists_codeTokensFrom_append {cs pre q : List Char} (hcs : cs.getLast? = some '\n')
    (hsplit : cs = pre ++ q) (t : List Char) :
    ∃ more, codeTokensFrom (cs ++ t) (byteLength pre) =
      codeTokensFrom cs (byteLength pre) ++ more := by
  have hwhole : WholeLines (pre ++ q) := by
    rw [← hsplit]
    exact fun c hc => Option.some.inj (hc.symm.trans hcs)
  rw [hsplit, List.append_assoc, codeTokensFrom_append, codeTokensFrom_append,
    lex_append _ _ hwhole.of_append]
  exact exists_codeTokens_append (fun l hl => text_ne_nil_of_mem_lex hl) (flatMap_text_lex _ _ _)
    hwhole.of_append t _

/-- Tokens behind the end of a block do not change it. -/
theorem endOfFirstBlock_append {k e : Nat} {ts : List PlacedToken}
    (h : endOfFirstBlock k ts = some e) (us : List PlacedToken) :
    endOfFirstBlock k (ts ++ us) = some e := by
  obtain ⟨before, o, rest, rfl, hlead, ho, hclose⟩ := (endOfFirstBlock_eq_some_iff k ts e).mp h
  obtain ⟨body, c, after, rfl, hclosing, he⟩ := (closeOf_eq_some_iff Nat.one_pos rest e).mp hclose
  refine (endOfFirstBlock_eq_some_iff _ _ _).mpr
    ⟨before, o, body ++ c :: (after ++ us), by simp, hlead, ho, ?_⟩
  exact (closeOf_eq_some_iff Nat.one_pos _ _).mpr ⟨body, c, after ++ us, rfl, hclosing, he⟩

/-- A longer list and a weaker condition make the part at the start no shorter. -/
theorem takeWhile_prefix_takeWhile_append {α : Type} {p p' : α → Bool}
    (h : ∀ a, p a = true → p' a = true) (l m : List α) :
    l.takeWhile p <+: (l ++ m).takeWhile p' := by
  induction l with
  | nil => exact List.nil_prefix
  | cons a l ih =>
      by_cases ha : p a = true
      · rw [List.cons_append, List.takeWhile_cons_of_pos ha, List.takeWhile_cons_of_pos (h a ha)]
        exact List.cons_prefix_cons.mpr ⟨rfl, ih⟩
      · rw [List.takeWhile_cons_of_neg ha]
        exact List.nil_prefix

/-- A block that is closed before the limit stays so when more text follows and the limit is
higher. -/
theorem blockEndWithin_append {cs pre q : List Char} (hcs : cs.getLast? = some '\n')
    (hsplit : cs = pre ++ q) {limit limit' e : Nat} (hlimit : limit ≤ limit')
    (h : blockEndWithin cs (byteLength pre) limit = some e) (t : List Char) :
    blockEndWithin (cs ++ t) (byteLength pre) limit' = some e := by
  obtain ⟨more, hmore⟩ := exists_codeTokensFrom_append hcs hsplit t
  have himp : ∀ u : PlacedToken, decide (u.stop ≤ limit) = true →
      decide (u.stop ≤ limit') = true := by
    intro u hu
    have := of_decide_eq_true hu
    exact decide_eq_true (by omega)
  obtain ⟨after, hafter⟩ :=
    takeWhile_prefix_takeWhile_append himp (codeTokensFrom cs (byteLength pre)) more
  rw [blockEndWithin, hmore, ← hafter]
  exact endOfFirstBlock_append h after

/-- A block that ends within the document is found with the same end when something is appended. -/
theorem Document.blockEnd?_append {cs : List Char} (hcs : cs.getLast? = some '\n') (t : List Char)
    {first last last' : Nat} (h1 : 1 ≤ first) (hle : first ≤ last)
    (hlast : last ≤ (ofText cs).lineCount)
    (hlimit : (ofText cs).lineEnd last ≤ (ofText (cs ++ t)).lineEnd last') {stop : Position}
    (h : (ofText cs).blockEnd? first last = some stop) :
    (ofText (cs ++ t)).blockEnd? first last' = some stop := by
  have hfirst := Nat.le_trans hle hlast
  obtain ⟨e, he, rfl⟩ := Option.map_eq_some_iff.mp h
  obtain ⟨pre, q, hsplit, -, hpre⟩ := exists_wholeLines_lineStart h1 hfirst
  obtain ⟨p, r, hp, hend, -, -⟩ := exists_end_of_blockEndWithin he
  rw [← hpre] at he
  have hfound := blockEndWithin_append hcs hsplit hlimit he t
  have hposition : (ofText (cs ++ t)).position e = (ofText cs).position e := by
    have hcongr := (LineIndex.position_append (p ++ ['e', 'n', 'd']) (r ++ t)).trans
      (LineIndex.position_append (p ++ ['e', 'n', 'd']) r).symm
    change cs = _ at hp
    rw [← List.append_assoc, ← hp, hend] at hcongr
    exact hcongr
  rw [blockEnd?, lineStart_append hcs h1 hfirst, ← hpre]
  change Option.map _ (blockEndWithin (cs ++ t) _ _) = _
  rw [hfound, Option.map_some, hposition]

/-! ### Sections -/

/-- The last line to which the section of the `i`-th start may extend. -/
def lastLine (d : Document) (starts : List SectionStart) (i : Nat) : Nat :=
  match starts[i + 1]? with
  | some next => next.line - 1
  | none => d.lineCount

/-- The section at an index comes from the start at that index and extends to the line before the
next. -/
theorem getElem?_sectionsFrom (d : Document) (starts : List SectionStart) (i : Nat) :
    (sectionsFrom d starts)[i]? = starts[i]?.map fun s => s.toSection d (lastLine d starts i) := by
  induction starts generalizing i with
  | nil => rfl
  | cons s starts ih =>
      cases starts with
      | nil => cases i <;> simp [sectionsFrom, lastLine]
      | cons t rest =>
          rw [sectionsFrom]
          cases i with
          | zero => simp [lastLine]
          | succ i =>
              rw [List.getElem?_cons_succ, ih, List.getElem?_cons_succ]
              rfl

/-- The section starts of a document that ends with a line feed stay, and those that follow are on
later lines. -/
theorem exists_sectionStarts_append {cs : List Char} (hcs : cs.getLast? = some '\n')
    (t : List Char) (specs : List SectionSpec) :
    ∃ later, sectionStarts (.ofText (cs ++ t)) specs = sectionStarts (.ofText cs) specs ++ later ∧
      ∀ s ∈ later, (Document.ofText cs).lineCount < s.line := by
  refine ⟨(List.range' (1 + (Document.ofText cs).lineCount)
    (Document.ofText t).lineCount).filterMap (sectionStart? (.ofText (cs ++ t)) specs), ?_, ?_⟩
  · rw [sectionStarts, Document.lineCount_append hcs, ← List.range'_append_1,
      List.filterMap_append, sectionStarts]
    congr 1
    refine List.filterMap_congr ?_
    intro n hn
    rw [List.mem_range'_1] at hn
    have hline := Document.sourceLine_append hcs hn.1 (by omega) t
    have hmasked : (Document.ofText (cs ++ t)).maskedLine n = (Document.ofText cs).maskedLine n :=
      congrArg SourceLine.masked hline
    rw [sectionStart?, sectionStart?, hmasked]
  · intro s hs
    obtain ⟨n, hn, hstart⟩ := List.mem_filterMap.mp hs
    obtain ⟨spec, -, rfl⟩ := Option.map_eq_some_iff.mp hstart
    rw [List.mem_range'_1] at hn
    show _ < n
    omega

/-- A closed section is the same one in a longer document, with a limit that is not lower. -/
theorem SectionStart.toSection_append {cs : List Char} (hcs : cs.getLast? = some '\n')
    (t : List Char) {s : SectionStart} (hs : (Document.ofText cs).IsCodeLine s.line)
    {last last' : Nat} (hle : s.line ≤ last) (hlast : last ≤ (Document.ofText cs).lineCount)
    (hlimit : (Document.ofText cs).lineEnd last ≤ (Document.ofText (cs ++ t)).lineEnd last')
    (hclosed : (s.toSection (.ofText cs) last).closed = true) :
    s.toSection (.ofText (cs ++ t)) last' = s.toSection (.ofText cs) last := by
  unfold SectionStart.toSection at hclosed ⊢
  cases hstop : (Document.ofText cs).blockEnd? s.line last with
  | none =>
      simp only [hstop] at hclosed
      cases hclosed
  | some stop =>
      have hstop' := Document.blockEnd?_append hcs t hs.one_le hle hlast hlimit hstop
      have hline := (Document.line_of_blockEnd? hs.one_le hle hlast hstop).2
      have hbody : (Document.ofText (cs ++ t)).linesBetween (s.line + 1) stop.line =
          (Document.ofText cs).linesBetween (s.line + 1) stop.line := by
        refine List.map_congr_left ?_
        intro n hn
        rw [List.mem_range'_1] at hn
        exact Document.sourceLine_append hcs (by omega) (by omega) t
      simp only [hstop', hs.firstNonBlank_append hcs t, hbody]

/-- The section of a start may extend at least as far in the longer document. -/
theorem lastLine_le_append {cs : List Char} (hcs : cs.getLast? = some '\n') (t : List Char)
    (starts : List SectionStart) {later : List SectionStart}
    (hlater : ∀ s ∈ later, (Document.ofText cs).lineCount < s.line) (i : Nat) :
    lastLine (.ofText cs) starts i ≤ lastLine (.ofText (cs ++ t)) (starts ++ later) i := by
  cases hnext : starts[i + 1]? with
  | some next =>
      obtain ⟨hi, -⟩ := List.getElem?_eq_some_iff.mp hnext
      rw [lastLine, lastLine, List.getElem?_append_left hi, hnext]
  | none =>
      rw [lastLine, lastLine, hnext,
        List.getElem?_append_right (List.getElem?_eq_none_iff.mp hnext)]
      cases hmore : later[i + 1 - starts.length]? with
      | some next =>
          have := hlater next (List.mem_of_getElem? hmore)
          show (Document.ofText cs).lineCount ≤ next.line - 1
          omega
      | none =>
          show (Document.ofText cs).lineCount ≤ (Document.ofText (cs ++ t)).lineCount
          rw [Document.lineCount_append hcs]
          exact Nat.le_add_right _ _

/-- The section of a start may extend over the line of the start, and not past the document. -/
theorem lastLine_bounds {d : Document} {specs : List SectionSpec} {i : Nat} {s : SectionStart}
    (h : (sectionStarts d specs)[i]? = some s) :
    s.line ≤ lastLine d (sectionStarts d specs) i ∧
      lastLine d (sectionStarts d specs) i ≤ d.lineCount := by
  have hs := (isCodeLine_of_mem_sectionStarts (List.mem_of_getElem? h)).le_lineCount
  cases hnext : (sectionStarts d specs)[i + 1]? with
  | none =>
      rw [lastLine, hnext]
      exact ⟨hs, Nat.le_refl _⟩
  | some next =>
      have hnextLine :=
        (isCodeLine_of_mem_sectionStarts (List.mem_of_getElem? hnext)).le_lineCount
      obtain ⟨hi, hsi⟩ := List.getElem?_eq_some_iff.mp h
      obtain ⟨hj, hnextj⟩ := List.getElem?_eq_some_iff.mp hnext
      have hlt := List.pairwise_iff_getElem.mp (pairwise_sectionStarts d specs) i (i + 1) hi hj
        (Nat.lt_succ_self i)
      rw [hsi, hnextj] at hlt
      rw [lastLine, hnext]
      show s.line ≤ next.line - 1 ∧ next.line - 1 ≤ d.lineCount
      omega

/-- **A closed section stays what it was when text is added at the end**, at the same place in the
list of sections. -/
theorem findSections_append {cs : List Char} (hcs : cs.getLast? = some '\n') (t : List Char)
    {specs : List SectionSpec} {i : Nat} {sec : Section}
    (hsec : (findSections (.ofText cs) specs)[i]? = some sec) (hclosed : sec.closed = true) :
    (findSections (.ofText (cs ++ t)) specs)[i]? = some sec := by
  rw [findSections, getElem?_sectionsFrom] at hsec
  obtain ⟨s, hs, rfl⟩ := Option.map_eq_some_iff.mp hsec
  obtain ⟨later, hstarts, hlater⟩ := exists_sectionStarts_append hcs t specs
  have hcode := isCodeLine_of_mem_sectionStarts (List.mem_of_getElem? hs)
  obtain ⟨hle, hlast⟩ := lastLine_bounds hs
  have hlimit := Document.lineEnd_mono (cs ++ t)
    (lastLine_le_append hcs t (sectionStarts (.ofText cs) specs) hlater i)
  rw [Document.lineEnd_append hcs (Nat.le_trans hcode.one_le hle) hlast t] at hlimit
  obtain ⟨hi, -⟩ := List.getElem?_eq_some_iff.mp hs
  rw [findSections, getElem?_sectionsFrom, hstarts, List.getElem?_append_left hi, hs,
    Option.map_some, SectionStart.toSection_append hcs t hcode hle hlast hlimit hclosed]

/-- The text added here opens a literal and another section of the same name. -/
theorem findSections_append_reopened :
    let specs : List SectionSpec := [⟨"things", [⟨"x", none, none, true, none⟩], none⟩]
    let cs := "things do\n x \"do\" # do\nend\n".toList
    let t := "end things do\nthings do\n \"end".toList
    let sec : Section := ⟨"things", [⟨"x", none, none, ⟨2, 2⟩, true, none⟩], ⟨1, 1⟩, ⟨3, 4⟩, true⟩
    cs.getLast? = some '\n' ∧ (findSections (.ofText cs) specs)[0]? = some sec ∧
      sec.closed = true ∧ (findSections (.ofText (cs ++ t)) specs)[0]? = some sec := by
  intro specs cs t sec
  have hcs : cs.getLast? = some '\n' := by decide +kernel
  have hsec : (findSections (.ofText cs) specs)[0]? = some sec := by decide +kernel
  exact ⟨hcs, hsec, rfl, findSections_append hcs t hsec rfl⟩

end DslOutline
