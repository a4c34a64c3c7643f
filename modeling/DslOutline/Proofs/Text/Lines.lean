import DslOutline.Proofs.Text.Bytes
import DslOutline.Proofs.Text.Trim
import DslOutline.Text.Position

/-!
# Lines and positions of a text

The line index keeps offsets only. This module says what they are offsets of. `LineAt cs n pre body
rest` reads: line `n` of `cs` is `body`, with `pre` in front of it and `rest`, which starts with the
line feed if there is one, behind it. Each number from 1 to the line count has such a reading
(`exists_lineAt`), and all that the index computes for a line follows from it. Cutting the text into
lines gives the same lines (`numberedLines_eq`). A position is read off the text in front of it: its
line counts the line feeds, its column the characters since the last of them (`position_eq`).
-/

namespace DslOutline.Text

/-! ### Texts made of whole lines -/

/-- A text made of whole lines is empty or ends with a line feed. -/
def WholeLines (p : List Char) : Prop :=
  ∀ c, p.getLast? = some c → c = '\n'

theorem wholeLines_nil : WholeLines [] := by
  intro c hc
  cases hc

/-- A text with a line feed at its end consists of whole lines. -/
theorem wholeLines_append_newline (p : List Char) : WholeLines (p ++ ['\n']) := by
  intro c hc
  rw [List.getLast?_append_cons] at hc
  cases hc
  rfl

/-- A character in front of whole lines becomes part of the first one. -/
theorem WholeLines.cons {p : List Char} (hp : WholeLines p) (hne : p ≠ []) (c : Char) :
    WholeLines (c :: p) := by
  intro d hd
  rw [List.getLast?_cons_of_ne_nil hne] at hd
  exact hp d hd

theorem wholeLines_newline_cons {p : List Char} (hp : WholeLines p) : WholeLines ('\n' :: p) := by
  rcases p.eq_nil_or_concat with rfl | ⟨q, c, rfl⟩
  · exact wholeLines_append_newline []
  · exact hp.cons (by simp) '\n'

/-- What comes after whole lines ends with each part without line feeds that the text ends with. -/
theorem WholeLines.suffix_of_append_eq {pre a p w : List Char} (hpre : WholeLines pre)
    (h : pre ++ a = p ++ w) (hw : '\n' ∉ w) : w <:+ a := by
  rcases List.append_eq_append_iff.mp h with ⟨x, -, rfl⟩ | ⟨x, rfl, rfl⟩
  · exact List.suffix_append x w
  · rcases x.eq_nil_or_concat with rfl | ⟨y, c, rfl⟩
    · exact List.suffix_rfl
    · have hc : c = '\n' := hpre c (by simp)
      simp [hc] at hw

/-- Every text is a number of whole lines and the start of one more. -/
theorem exists_wholeLines_append (p : List Char) :
    ∃ pre a, p = pre ++ a ∧ WholeLines pre ∧ '\n' ∉ a := by
  induction p with
  | nil => exact ⟨[], [], rfl, wholeLines_nil, by simp⟩
  | cons c p ih =>
      obtain ⟨pre, a, rfl, hpre, ha⟩ := ih
      by_cases hc : c = '\n'
      · subst hc
        exact ⟨'\n' :: pre, a, rfl, wholeLines_newline_cons hpre, ha⟩
      · by_cases hne : pre = []
        · subst hne
          exact ⟨[], c :: a, rfl, wholeLines_nil, by simpa [Ne.symm hc] using ha⟩
        · exact ⟨c :: pre, a, rfl, hpre.cons hne c, ha⟩

/-- A text has a prefix of `k` whole lines for each `k` up to the number of its line feeds. -/
theorem exists_wholeLines_prefix (cs : List Char) (k : Nat) (hk : k ≤ cs.count '\n') :
    ∃ pre rest, cs = pre ++ rest ∧ WholeLines pre ∧ pre.count '\n' = k := by
  induction cs generalizing k with
  | nil => exact ⟨[], [], rfl, wholeLines_nil, (Nat.le_zero.mp hk).symm⟩
  | cons c cs ih =>
      cases k with
      | zero => exact ⟨[], c :: cs, rfl, wholeLines_nil, rfl⟩
      | succ k =>
          by_cases hc : c = '\n'
          · subst hc
            rw [List.count_cons_self] at hk
            obtain ⟨pre, rest, rfl, hpre, hcount⟩ := ih k (by omega)
            exact ⟨'\n' :: pre, rest, rfl, wholeLines_newline_cons hpre, by simp [hcount]⟩
          · rw [List.count_cons_of_ne hc] at hk
            obtain ⟨pre, rest, rfl, hpre, hcount⟩ := ih (k + 1) hk
            have hne : pre ≠ [] := by
              rintro rfl
              simp at hcount
            exact ⟨c :: pre, rest, rfl, hpre.cons hne c, by rw [List.count_cons_of_ne hc, hcount]⟩

/-! ### The offsets in the index -/

/-- The line starts of a text with more text behind it. -/
theorem startsAfterNewlines_append (offset : Nat) (p q : List Char) :
    startsAfterNewlines offset (p ++ q) =
      startsAfterNewlines offset p ++ startsAfterNewlines (offset + byteLength p) q := by
  induction p generalizing offset with
  | nil => rfl
  | cons c p ih =>
      simp only [List.cons_append, startsAfterNewlines, byteLength_cons, ih, Nat.add_assoc]
      split <;> rfl

/-- There are as many line starts behind line feeds as there are line feeds. -/
theorem length_startsAfterNewlines (offset : Nat) (cs : List Char) :
    (startsAfterNewlines offset cs).length = cs.count '\n' := by
  induction cs generalizing offset with
  | nil => rfl
  | cons c cs ih =>
      by_cases hc : c = '\n'
      · subst hc
        simp [startsAfterNewlines, ih]
      · rw [startsAfterNewlines, if_neg hc, ih, List.count_cons_of_ne hc]

/-- A line start lies after the offset at which the text starts and not past its end. -/
theorem mem_startsAfterNewlines {offset o : Nat} {cs : List Char}
    (h : o ∈ startsAfterNewlines offset cs) : offset < o ∧ o ≤ offset + byteLength cs := by
  induction cs generalizing offset with
  | nil => cases h
  | cons c cs ih =>
      have hc := c.utf8Size_pos
      rw [byteLength_cons]
      rw [startsAfterNewlines] at h
      split at h
      · rcases List.mem_cons.mp h with rfl | h
        · omega
        · have := ih h
          omega
      · have := ih h
        omega

/-- A text ends with a line feed exactly if a line would start at its end. -/
theorem byteLength_mem_startsAfterNewlines (cs : List Char) :
    byteLength cs ∈ startsAfterNewlines 0 cs ↔ cs.getLast? = some '\n' := by
  rcases cs.eq_nil_or_concat with rfl | ⟨p, c, rfl⟩
  · simp [startsAfterNewlines]
  · have hlen : byteLength (p ++ [c]) = byteLength p + c.utf8Size := by simp
    have hbefore : byteLength p + c.utf8Size ∉ startsAfterNewlines 0 p := by
      intro hmem
      have := (mem_startsAfterNewlines hmem).2
      have := c.utf8Size_pos
      omega
    rw [List.concat_eq_append, startsAfterNewlines_append, List.mem_append,
      List.getLast?_append_cons, hlen]
    by_cases hc : c = '\n'
    · subst hc
      simp [startsAfterNewlines]
    · simp [startsAfterNewlines, hc, hbefore]

namespace LineIndex

/-- Whole lines at the start of a text end where the index says the next line starts. -/
theorem getElem?_starts {p : List Char} (hp : WholeLines p) (q : List Char) :
    (ofText (p ++ q)).starts[p.count '\n']? = some (byteLength p) := by
  rcases p.eq_nil_or_concat with rfl | ⟨p, c, rfl⟩
  · rfl
  · have hc : c = '\n' := hp c (by simp)
    subst hc
    have hlen : (startsAfterNewlines 0 p).length = p.count '\n' := length_startsAfterNewlines 0 p
    have hsize : ('\n' : Char).utf8Size = 1 := rfl
    simp only [List.concat_eq_append, ofText, List.append_assoc, List.count_append,
      List.count_singleton_self, List.getElem?_cons_succ]
    rw [startsAfterNewlines_append, List.getElem?_append_right (by omega), hlen, Nat.sub_self]
    simp [startsAfterNewlines, hsize]

/-- The line behind some whole lines starts where they end, and its number is one more than
theirs. -/
theorem lineStart_wholeLines {p : List Char} (hp : WholeLines p) (q : List Char) :
    (ofText (p ++ q)).lineStart (p.count '\n' + 1) = byteLength p := by
  rw [lineStart, Nat.add_sub_cancel, List.getD_eq_getElem?_getD, getElem?_starts hp]
  rfl

/-- There is one line start more than there are line feeds. -/
theorem length_starts (cs : List Char) : (ofText cs).starts.length = cs.count '\n' + 1 := by
  simp [ofText, length_startsAfterNewlines]

/-- The number of lines, read off the line feeds of a text. -/
theorem lineCount_eq (cs : List Char) :
    (ofText cs).lineCount =
      if cs = [] then 0
      else if cs.getLast? = some '\n' then cs.count '\n' else cs.count '\n' + 1 := by
  rw [lineCount, length_starts]
  simp [ofText, byteLength_eq_zero]

/-- The starts up to an offset are those in front of it. -/
theorem lineCount_wholeLines {p : List Char} (hp : WholeLines p) :
    (ofText p).lineCount = p.count '\n' := by
  rw [lineCount_eq]
  rcases p.eq_nil_or_concat with rfl | ⟨q, c, rfl⟩
  · rfl
  · rw [List.concat_eq_append] at hp ⊢
    have hlast : (q ++ [c]).getLast? = some c := List.getLast?_concat
    rw [if_neg (by simp), if_pos (by rw [hlast, hp c hlast])]

/-- The line starts up to the length of a prefix are those of the prefix. -/
theorem takeWhile_starts (p q : List Char) :
    (ofText (p ++ q)).starts.takeWhile (· ≤ byteLength p) = 0 :: startsAfterNewlines 0 p := by
  have hlow : ∀ o ∈ startsAfterNewlines 0 p, decide (o ≤ byteLength p) = true := by
    intro o ho
    have := mem_startsAfterNewlines ho
    simp only [decide_eq_true_eq]
    omega
  have hhigh : (startsAfterNewlines (0 + byteLength p) q).takeWhile (· ≤ byteLength p) = [] := by
    rw [List.takeWhile_eq_nil_iff]
    intro hpos
    have := mem_startsAfterNewlines (List.get_mem _ ⟨0, hpos⟩)
    simp only [decide_eq_true_eq]
    omega
  rw [ofText, startsAfterNewlines_append, List.takeWhile_cons_of_pos (by simp),
    List.takeWhile_append_of_pos hlow, hhigh, List.append_nil]

/-! ### Positions -/

/-- The line of a position is one more than the number of line feeds in front of it. -/
theorem position_line (p q : List Char) :
    ((ofText (p ++ q)).position (p ++ q) (byteLength p)).line = p.count '\n' + 1 := by
  have hmin : min (byteLength p) (ofText (p ++ q)).length = byteLength p := by
    simp [ofText]
  simp only [position, hmin, takeWhile_starts, List.length_cons, length_startsAfterNewlines]

/-- A place that is not right after a line feed is on one of the lines that are counted. -/
theorem position_line_le_lineCount {p : List Char} (hne : p ≠ []) (hlast : p.getLast? ≠ some '\n')
    (q : List Char) :
    ((ofText (p ++ q)).position (p ++ q) (byteLength p)).line ≤ (ofText (p ++ q)).lineCount := by
  rw [position_line, lineCount_eq, if_neg (by simp [hne]), List.count_append]
  split_ifs with hend
  · -- the line feed at the end of the text comes after the place
    have hq : q ≠ [] := by
      rintro rfl
      rw [List.append_nil] at hend
      exact hlast hend
    rw [List.getLast?_append_of_ne_nil p hq] at hend
    have hpos := List.count_pos_iff.mpr (List.mem_of_getLast? hend)
    omega
  · omega

/-- The column of a position is one more than the number of characters since the last line feed in
front of it. -/
theorem position_eq {pre a : List Char} (hpre : WholeLines pre) (ha : '\n' ∉ a) (q : List Char) :
    (ofText (pre ++ (a ++ q))).position (pre ++ (a ++ q)) (byteLength (pre ++ a)) =
      ⟨pre.count '\n' + 1, a.length + 1⟩ := by
  have hcount : (pre ++ a).count '\n' = pre.count '\n' := by
    rw [List.count_append, List.count_eq_zero.mpr ha, Nat.add_zero]
  have hline := position_line (pre ++ a) q
  rw [hcount, List.append_assoc] at hline
  have hmin : min (byteLength (pre ++ a)) (ofText (pre ++ (a ++ q))).length
      = byteLength (pre ++ a) := by
    simp only [ofText, byteLength_append]
    omega
  have hstart : (ofText (pre ++ (a ++ q))).lineStart (pre.count '\n' + 1) = byteLength pre := by
    rw [lineStart, Nat.add_sub_cancel, List.getD_eq_getElem?_getD, getElem?_starts hpre]
    rfl
  simp only [position] at hline ⊢
  rw [hline, hstart, hmin, slice_append]

end LineIndex

/-! ### Reading a text at a line -/

/-- Line `n` of `cs` is `body`, `pre` is what comes before it, and `rest` what comes after it, the
line feed included. -/
structure LineAt (cs : List Char) (n : Nat) (pre body rest : List Char) : Prop where
  text_eq : cs = pre ++ (body ++ rest)
  whole : WholeLines pre
  number : n = pre.count '\n' + 1
  noFeed : '\n' ∉ body
  ended : rest.head? = some '\n' ∨ (rest = [] ∧ body ≠ [])

/-- The line after a number of whole lines, unless the text ends there. -/
theorem lineAt_of_wholeLines {pre tail : List Char} (hpre : WholeLines pre) (hne : tail ≠ []) :
    LineAt (pre ++ tail) (pre.count '\n' + 1) pre (tail.takeWhile (· != '\n'))
      (tail.dropWhile (· != '\n')) := by
  have hsplit : tail.takeWhile (· != '\n') ++ tail.dropWhile (· != '\n') = tail :=
    List.takeWhile_append_dropWhile
  refine ⟨by rw [hsplit], hpre, rfl, ?_, ?_⟩
  · intro hmem
    have := List.mem_takeWhile_imp hmem
    simp at this
  · cases hrest : tail.dropWhile (· != '\n') with
    | cons c rest =>
        have hnot := List.head?_dropWhile_not (· != '\n') tail
        rw [hrest] at hnot
        left
        simpa using hnot
    | nil =>
        rw [hrest, List.append_nil] at hsplit
        exact Or.inr ⟨rfl, by rwa [hsplit]⟩

/-- Every line number has its line. -/
theorem exists_lineAt {cs : List Char} {n : Nat} (h1 : 1 ≤ n)
    (hn : n ≤ (LineIndex.ofText cs).lineCount) : ∃ pre body rest, LineAt cs n pre body rest := by
  rw [LineIndex.lineCount_eq] at hn
  have hcount : n - 1 ≤ cs.count '\n' := by
    split_ifs at hn <;> omega
  obtain ⟨pre, tail, rfl, hpre, hk⟩ := exists_wholeLines_prefix cs (n - 1) hcount
  have hne : tail ≠ [] := by
    -- with nothing left, `pre` is the whole text, whose last line has number `n - 1`
    rintro rfl
    rw [List.append_nil] at hn
    split_ifs at hn with hnil hlast
    · omega
    · omega
    · have hc := List.getLast?_eq_some_getLast hnil
      rw [hpre _ hc] at hc
      exact hlast hc
  have hline := lineAt_of_wholeLines hpre hne
  rw [hk, Nat.sub_add_cancel h1] at hline
  exact ⟨pre, _, _, hline⟩

namespace LineAt

variable {cs pre body rest : List Char} {n : Nat}

theorem lineStart (h : LineAt cs n pre body rest) :
    (LineIndex.ofText cs).lineStart n = byteLength pre := by
  rw [h.number, h.text_eq]
  exact LineIndex.lineStart_wholeLines h.whole (body ++ rest)

/-- A line ends just past its line feed, or with the text. -/
theorem lineEnd (h : LineAt cs n pre body rest) :
    (LineIndex.ofText cs).lineEnd n = byteLength (pre ++ (body ++ rest.take 1)) := by
  have hbody : body.count '\n' = 0 := List.count_eq_zero.mpr h.noFeed
  rw [LineIndex.lineEnd, List.getD_eq_getElem?_getD]
  rcases h.ended with hfeed | ⟨rfl, -⟩
  · obtain ⟨rest, rfl⟩ : ∃ r, rest = '\n' :: r := by
      cases rest with
      | nil => cases hfeed
      | cons c r => exact ⟨r, by rw [Option.some.inj hfeed]⟩
    have hsplit : cs = (pre ++ (body ++ ['\n'])) ++ rest := by simp [h.text_eq]
    have hwhole : WholeLines (pre ++ (body ++ ['\n'])) := by
      rw [← List.append_assoc]
      exact wholeLines_append_newline _
    have hcount : n = (pre ++ (body ++ ['\n'])).count '\n' := by
      simp only [List.count_append, List.count_singleton_self, hbody, h.number, Nat.zero_add]
    rw [hcount, hsplit, LineIndex.getElem?_starts hwhole]
    rfl
  · have hlen : (LineIndex.ofText cs).starts.length ≤ n := by
      rw [LineIndex.length_starts, h.text_eq, h.number]
      simp only [List.count_append, hbody, List.count_nil]
      omega
    rw [List.getElem?_eq_none hlen, Option.getD_none, List.take_nil, ← h.text_eq]
    rfl

/-- The text of a line is what stands there, without its terminator. -/
theorem lineText (h : LineAt cs n pre body rest) :
    (LineIndex.ofText cs).lineText cs n = trimTerminator body := by
  have hrest : rest = rest.take 1 ++ rest.drop 1 := (List.take_append_drop 1 rest).symm
  have hslice : slice (byteLength pre) (byteLength (pre ++ (body ++ rest.take 1))) cs
      = body ++ rest.take 1 := by
    have := slice_append pre (body ++ rest.take 1) (rest.drop 1)
    rwa [List.append_assoc, ← hrest, ← h.text_eq] at this
  rw [LineIndex.lineText, h.lineStart, h.lineEnd, hslice]
  rcases h.ended with hfeed | ⟨rfl, -⟩
  · rw [List.take_one, hfeed]
    exact trimTerminator_append_newline body
  · rw [List.take_nil, List.append_nil]

/-- What comes after the start of a line and has no line feed in it is on the line. -/
theorem prefix_body {a b : List Char} (h : LineAt cs n pre body rest) (hcs : cs = pre ++ (a ++ b))
    (ha : '\n' ∉ a) : a <+: body := by
  rw [h.text_eq, List.append_cancel_left_eq] at hcs
  rcases List.append_eq_append_iff.mp hcs with ⟨x, rfl, hrest⟩ | ⟨x, rfl, -⟩
  · cases x with
    | nil => simp
    | cons c x =>
        rcases h.ended with hfeed | ⟨hnil, -⟩
        · rw [hrest, List.cons_append, List.head?_cons, Option.some.injEq] at hfeed
          simp [hfeed] at ha
        · rw [hnil] at hrest
          cases hrest
  · exact List.prefix_append a x

/-- A place after the start of a line is on that line or on a later one. -/
theorem le_position_line {p q : List Char} (h : LineAt cs n pre body rest) (hcs : cs = p ++ q)
    (hle : byteLength pre ≤ byteLength p) :
    n ≤ ((LineIndex.ofText cs).position cs (byteLength p)).line := by
  have hpre : pre <+: cs := ⟨body ++ rest, h.text_eq.symm⟩
  have hp : p <+: cs := ⟨q, hcs.symm⟩
  have hcount := (prefix_of_byteLength_le hpre hp hle).sublist.count_le '\n'
  rw [h.number, hcs, LineIndex.position_line]
  omega

/-- A place at or before the end of a line, but not after its line feed, is on that line or on an
earlier one. -/
theorem position_line_le {p q : List Char} (h : LineAt cs n pre body rest) (hcs : cs = p ++ q)
    (hlast : p.getLast? ≠ some '\n') (hle : byteLength p ≤ (LineIndex.ofText cs).lineEnd n) :
    ((LineIndex.ofText cs).position cs (byteLength p)).line ≤ n := by
  have hp : p <+: cs := ⟨q, hcs.symm⟩
  have hline : pre ++ (body ++ rest.take 1) <+: cs := by
    refine ⟨rest.drop 1, ?_⟩
    rw [List.append_assoc, List.append_assoc, List.take_append_drop, h.text_eq]
  rw [h.lineEnd] at hle
  have hprefix := prefix_of_byteLength_le hp hline hle
  have hshort : p <+: pre ++ body := by
    rw [← List.append_assoc] at hprefix
    rcases h.ended with hfeed | ⟨rfl, -⟩
    · rw [List.take_one, hfeed] at hprefix
      rcases List.prefix_concat_iff.mp hprefix with rfl | hshort
      · simp at hlast
      · exact hshort
    · simpa using hprefix
  have hcount := hshort.sublist.count_le '\n'
  rw [List.count_append, List.count_eq_zero.mpr h.noFeed] at hcount
  rw [hcs, LineIndex.position_line, h.number]
  omega

/-- A place on a line or on an earlier one is not past the end of the line. -/
theorem le_lineEnd {p q : List Char} (h : LineAt cs n pre body rest) (hcs : cs = p ++ q)
    (hle : ((LineIndex.ofText cs).position cs (byteLength p)).line ≤ n) :
    byteLength p ≤ (LineIndex.ofText cs).lineEnd n := by
  rw [hcs, LineIndex.position_line, h.number] at hle
  rw [h.lineEnd]
  have hp : p <+: cs := ⟨q, hcs.symm⟩
  have hline : pre ++ (body ++ rest.take 1) <+: cs := by
    refine ⟨rest.drop 1, ?_⟩
    rw [List.append_assoc, List.append_assoc, List.take_append_drop, h.text_eq]
  rcases List.prefix_or_prefix_of_prefix hp hline with hshort | hlong
  · exact byteLength_le_of_prefix hshort
  · rcases h.ended with hfeed | ⟨rfl, -⟩
    · -- the line feed of the line would be counted
      have hcount := hlong.sublist.count_le '\n'
      rw [List.take_one, hfeed, List.count_append, List.count_append] at hcount
      simp at hcount
      omega
    · rw [List.take_nil, ← h.text_eq]
      exact byteLength_le_of_prefix hp

/-- The number of a line does not exceed the number of lines. -/
theorem le_lineCount (h : LineAt cs n pre body rest) : n ≤ (LineIndex.ofText cs).lineCount := by
  have hcount : cs.count '\n' = pre.count '\n' + rest.count '\n' := by
    rw [h.text_eq, List.count_append, List.count_append, List.count_eq_zero.mpr h.noFeed,
      Nat.zero_add]
  have hnumber := h.number
  rcases h.ended with hfeed | ⟨rfl, hne⟩
  · have hpos : 0 < rest.count '\n' := List.count_pos_iff.mpr (List.mem_of_mem_head? hfeed)
    have hcs : cs ≠ [] := by
      intro hnil
      rw [hnil, List.count_nil] at hcount
      omega
    rw [LineIndex.lineCount_eq, if_neg hcs]
    split_ifs <;> omega
  · have hcs : cs ≠ [] := by simp [h.text_eq, hne]
    have hlast : cs.getLast? ≠ some '\n' := by
      rw [h.text_eq, List.append_nil, List.getLast?_append_of_ne_nil _ hne]
      exact fun hmem => h.noFeed (List.mem_of_getLast? hmem)
    rw [LineIndex.lineCount_eq, if_neg hcs, if_neg hlast]
    rw [List.count_nil] at hcount
    omega

end LineAt

/-! ### Lines one by one -/

/-- The first line ends with the first line feed. -/
theorem splitLines_append_newline {body : List Char} (h : '\n' ∉ body) (rest : List Char) :
    splitLines (body ++ '\n' :: rest) = (body ++ ['\n']) :: splitLines rest := by
  induction body with
  | nil => simp [splitLines]
  | cons c body ih =>
      obtain ⟨hc, hbody⟩ := not_or.mp (mt List.mem_cons.mpr h)
      rw [List.cons_append, splitLines, if_neg (Ne.symm hc), ih hbody]
      rfl

/-- A text that is not empty and has no line feed is one line. -/
theorem splitLines_of_noFeed {body : List Char} (hne : body ≠ []) (h : '\n' ∉ body) :
    splitLines body = [body] := by
  induction body with
  | nil => exact absurd rfl hne
  | cons c body ih =>
      obtain ⟨hc, hbody⟩ := not_or.mp (mt List.mem_cons.mpr h)
      rw [splitLines, if_neg (Ne.symm hc)]
      cases body with
      | nil => rfl
      | cons d body => rw [ih (List.cons_ne_nil d body) hbody]

/-- The lines of what follows a number of whole lines are those that the index counts from there
on. -/
theorem numberFrom_eq {pre : List Char} (hpre : WholeLines pre) (tail : List Char) :
    numberFrom (pre.count '\n' + 1) (splitLines tail) =
      (List.range' (pre.count '\n' + 1)
        ((LineIndex.ofText (pre ++ tail)).lineCount - pre.count '\n')).map
        fun n => ⟨n, (LineIndex.ofText (pre ++ tail)).lineText (pre ++ tail) n⟩ := by
  induction hlength : tail.length using Nat.strong_induction_on generalizing pre tail with
  | _ length ih =>
  by_cases hne : tail = []
  · subst hne
    rw [List.append_nil, LineIndex.lineCount_wholeLines hpre, Nat.sub_self]
    rfl
  · have hline := lineAt_of_wholeLines hpre hne
    have htext := hline.lineText
    have hcount := hline.le_lineCount
    have hsplit : tail.takeWhile (· != '\n') ++ tail.dropWhile (· != '\n') = tail :=
      List.takeWhile_append_dropWhile
    generalize tail.takeWhile (· != '\n') = body at hline hsplit htext
    generalize tail.dropWhile (· != '\n') = rest at hline hsplit
    have hbody : body.count '\n' = 0 := List.count_eq_zero.mpr hline.noFeed
    subst hsplit
    rcases hline.ended with hfeed | ⟨rfl, hbodyne⟩
    · obtain ⟨rest, rfl⟩ : ∃ r, rest = '\n' :: r := by
        cases rest with
        | nil => cases hfeed
        | cons c r => exact ⟨r, by rw [Option.some.inj hfeed]⟩
      -- the line and its line feed are one more whole line
      have hwhole : WholeLines (pre ++ (body ++ ['\n'])) := by
        rw [← List.append_assoc]
        exact wholeLines_append_newline _
      have hshorter : rest.length < length := by
        simp only [← hlength, List.length_append, List.length_cons]
        omega
      have hnext := ih rest.length hshorter hwhole rest rfl
      have hall : pre ++ (body ++ ['\n']) ++ rest = pre ++ (body ++ '\n' :: rest) := by simp
      have hnumber : (pre ++ (body ++ ['\n'])).count '\n' = pre.count '\n' + 1 := by
        simp [List.count_append, hbody]
      rw [hall, hnumber] at hnext
      have hleft : (LineIndex.ofText (pre ++ (body ++ '\n' :: rest))).lineCount - pre.count '\n' =
          (LineIndex.ofText (pre ++ (body ++ '\n' :: rest))).lineCount - (pre.count '\n' + 1) + 1 := by
        omega
      rw [splitLines_append_newline hline.noFeed, numberFrom, hnext, trimTerminator_append_newline,
        ← htext, hleft, List.range'_succ, List.map_cons]
    · have hlast : (LineIndex.ofText (pre ++ (body ++ []))).lineCount = pre.count '\n' + 1 := by
        have hnil : pre ++ (body ++ []) ≠ [] := by simp [hbodyne]
        have hend : (pre ++ (body ++ [])).getLast? ≠ some '\n' := by
          rw [List.append_nil, List.getLast?_append_of_ne_nil _ hbodyne]
          exact fun hmem => hline.noFeed (List.mem_of_getLast? hmem)
        rw [LineIndex.lineCount_eq, if_neg hnil, if_neg hend]
        simp [List.count_append, hbody]
      rw [hlast, Nat.add_sub_cancel_left, List.range'_one, List.map_singleton, htext,
        List.append_nil, splitLines_of_noFeed hbodyne hline.noFeed]
      rfl

/-- Cutting a text into lines gives the lines that the index counts. -/
theorem numberedLines_eq (cs : List Char) :
    numberedLines cs = (List.range' 1 (LineIndex.ofText cs).lineCount).map
      fun n => ⟨n, (LineIndex.ofText cs).lineText cs n⟩ :=
  numberFrom_eq wholeLines_nil cs

/-! ### Reading a text at a position -/

/-- Position `p` of `cs` comes after `before` on its line, `pre` is what comes before the line, and
`after` is what is found at the position. -/
structure PlaceAt (cs : List Char) (p : Position) (pre before after : List Char) : Prop where
  text_eq : cs = pre ++ (before ++ after)
  whole : WholeLines pre
  noFeed : '\n' ∉ before
  position_eq : p = ⟨pre.count '\n' + 1, before.length + 1⟩

/-- The position of an offset is a position of the text at that offset. -/
theorem exists_placeAt {cs p q : List Char} (h : cs = p ++ q) :
    ∃ pre before, p = pre ++ before ∧
      PlaceAt cs ((LineIndex.ofText cs).position cs (byteLength p)) pre before q := by
  obtain ⟨pre, before, rfl, hpre, hbefore⟩ := exists_wholeLines_append p
  rw [List.append_assoc] at h
  refine ⟨pre, before, rfl, h, hpre, hbefore, ?_⟩
  rw [h]
  exact LineIndex.position_eq hpre hbefore q

/-- Positions are in the order of their offsets. -/
theorem LineIndex.position_le_position {cs p x q : List Char} (h : cs = p ++ (x ++ q)) :
    (ofText cs).position cs (byteLength p) ≤ (ofText cs).position cs (byteLength (p ++ x)) := by
  obtain ⟨pre, a, rfl, hpre, ha⟩ := exists_wholeLines_append p
  have hfirst := position_eq hpre ha (x ++ q)
  rw [List.append_assoc] at h
  rw [← h] at hfirst
  by_cases hx : '\n' ∈ x
  · -- a line feed in between: the second position is on a later line
    left
    have hsecond := position_line ((pre ++ a) ++ x) q
    rw [List.append_assoc, List.append_assoc, ← h] at hsecond
    have hpos := List.count_pos_iff.mpr hx
    rw [hfirst, hsecond]
    simp only [List.count_append]
    omega
  · right
    have hsecond := position_eq (a := a ++ x) hpre (by simp [ha, hx]) q
    rw [List.append_assoc, ← h, ← List.append_assoc] at hsecond
    rw [hfirst, hsecond]
    simp

/-- The line of a position begins with what comes before the position on the line, at least if it
goes on there. -/
theorem PlaceAt.exists_lineText {cs pre before after : List Char} {p : Position} {c : Char}
    (h : PlaceAt cs p pre before (c :: after)) (hfeed : c ≠ '\n') (hreturn : c ≠ '\r') :
    (LineIndex.ofText cs).lineStart p.line = byteLength pre ∧
      ∃ more, (LineIndex.ofText cs).lineText cs p.line = before ++ (c :: more) := by
  have hcs : cs = pre ++ ((before ++ [c]) ++ after) := by
    rw [h.text_eq, List.append_assoc, List.singleton_append]
  have hne : before ++ c :: after ≠ [] := by simp
  have hline := lineAt_of_wholeLines h.whole hne
  rw [← h.text_eq] at hline
  obtain ⟨more, hbody⟩ := hline.prefix_body hcs (by simp [h.noFeed, hfeed.symm])
  rw [h.position_eq]
  refine ⟨hline.lineStart, trimTerminator more, ?_⟩
  rw [hline.lineText, ← hbody, trimTerminator_append (by simp [hreturn]) (by simp [hfeed]),
    List.append_assoc, List.singleton_append]

/-- A position is a position of one place only. -/
theorem PlaceAt.unique {cs pre before after pre' before' after' : List Char} {p : Position}
    (h : PlaceAt cs p pre before after) (h' : PlaceAt cs p pre' before' after') :
    pre = pre' ∧ before = before' ∧ after = after' := by
  have hp := h.position_eq.symm.trans h'.position_eq
  rw [Position.mk.injEq] at hp
  obtain ⟨hline, hcolumn⟩ := hp
  have hlen : byteLength pre = byteLength pre' := by
    have hstart := LineIndex.getElem?_starts h.whole (before ++ after)
    have hstart' := LineIndex.getElem?_starts h'.whole (before' ++ after')
    rw [← h.text_eq, Nat.add_right_cancel hline] at hstart
    rw [← h'.text_eq, hstart] at hstart'
    exact Option.some.inj hstart'
  have hpre : pre = pre' :=
    prefix_eq_of_byteLength_eq ⟨_, h.text_eq.symm⟩ ⟨_, h'.text_eq.symm⟩ hlen
  subst hpre
  have hrest := h.text_eq.symm.trans h'.text_eq
  rw [List.append_cancel_left_eq] at hrest
  have hsame := List.append_inj hrest (Nat.add_right_cancel hcolumn)
  exact ⟨rfl, hsame⟩

/-! ### Positions, character by character -/

/-- The position behind a character at a position. -/
def Position.after (p : Position) (c : Char) : Position :=
  if c = '\n' then ⟨p.line + 1, 1⟩ else ⟨p.line, p.column + 1⟩

/-- The position just past a text. -/
def endPosition (cs : List Char) : Position :=
  cs.foldl Position.after ⟨1, 1⟩

/-- The end of a longer text is found by going on from where the shorter one ends. -/
theorem endPosition_append (p q : List Char) :
    endPosition (p ++ q) = q.foldl Position.after (endPosition p) :=
  List.foldl_append

/-- Every line feed on the way adds a line. -/
theorem Position.line_foldl_after (p : Position) (cs : List Char) :
    (cs.foldl Position.after p).line = p.line + cs.count '\n' := by
  induction cs generalizing p with
  | nil => rfl
  | cons c cs ih =>
      rw [List.foldl_cons, ih]
      by_cases hc : c = '\n'
      · rw [Position.after, if_pos hc, hc, List.count_cons_self]
        show p.line + 1 + _ = _
        omega
      · rw [Position.after, if_neg hc, List.count_cons_of_ne hc]

/-- On one line every character adds a column. -/
theorem Position.foldl_after {cs : List Char} (h : '\n' ∉ cs) (p : Position) :
    cs.foldl Position.after p = ⟨p.line, p.column + cs.length⟩ := by
  induction cs generalizing p with
  | nil => rfl
  | cons c cs ih =>
      obtain ⟨hc, hcs⟩ := not_or.mp (mt List.mem_cons.mpr h)
      rw [List.foldl_cons, ih hcs, Position.after, if_neg (Ne.symm hc)]
      simp only [List.length_cons, Position.mk.injEq, true_and]
      omega

/-- Whole lines end at the start of a line. -/
theorem WholeLines.endPosition {p : List Char} (hp : WholeLines p) :
    endPosition p = ⟨p.count '\n' + 1, 1⟩ := by
  rcases p.eq_nil_or_concat with rfl | ⟨q, c, rfl⟩
  · rfl
  · rw [List.concat_eq_append] at hp ⊢
    have hc : c = '\n' := hp c (by rw [List.getLast?_concat])
    have hline : (Text.endPosition q).line = 1 + q.count '\n' :=
      Position.line_foldl_after ⟨1, 1⟩ q
    rw [endPosition_append, hc, List.count_append, List.count_singleton_self]
    show Position.mk ((Text.endPosition q).line + 1) 1 = _
    rw [hline, Nat.add_comm 1]

/-- The position of an offset depends on what comes before it alone. -/
theorem LineIndex.position_append (p q : List Char) :
    (ofText (p ++ q)).position (p ++ q) (byteLength p) = endPosition p := by
  obtain ⟨pre, a, rfl, hpre, ha⟩ := exists_wholeLines_append p
  rw [List.append_assoc, position_eq hpre ha, endPosition_append, hpre.endPosition,
    Position.foldl_after ha, Nat.add_comm a.length]

end DslOutline.Text
