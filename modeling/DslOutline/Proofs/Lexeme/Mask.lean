import DslOutline.Document
import DslOutline.Proofs.Lexeme.Spans
import DslOutline.Proofs.Text.Lines

/-!
# A text and its mask

`Masks P o cs ms` says that `ms` arises from `cs`, whose first byte has offset `o`, by keeping some
characters and blanking the others, and that `P` holds of the offsets of all bytes that were kept.
The mask of a document is such a text, with code as `P` (`Document.masks_text`). What the
other modules need of masking follows from the relation: offsets of line feeds are the same in both
texts (`Masks.lineIndex_eq`), and a word without white space that is found on the mask stands at
the same offset in the text, and there it is code (`Masks.exists_word`).
-/

namespace DslOutline

open Text

/-- `ms` is `cs` with some characters blanked; `P` holds of the bytes that were not. -/
inductive Masks (P : Nat → Prop) : Nat → List Char → List Char → Prop
  | nil (o : Nat) : Masks P o [] []
  | keep {o : Nat} {c : Char} {cs ms : List Char}
      (kept : ∀ i, o ≤ i → i < o + c.utf8Size → P i)
      (tail : Masks P (o + c.utf8Size) cs ms) : Masks P o (c :: cs) (c :: ms)
  | blank {o : Nat} {c : Char} {cs ms : List Char}
      (tail : Masks P (o + c.utf8Size) cs ms) : Masks P o (c :: cs) (blankChar c ++ ms)

/-! ### Blanks -/

theorem byteLength_replicate_space (n : Nat) : byteLength (List.replicate n ' ') = n := by
  induction n with
  | zero => rfl
  | succ n ih =>
      have hsize : (' ' : Char).utf8Size = 1 := rfl
      rw [List.replicate_succ, byteLength_cons, ih, hsize]
      omega

/-- A blanked character takes as many bytes as before. -/
theorem byteLength_blankChar (c : Char) : byteLength (blankChar c) = c.utf8Size := by
  unfold blankChar
  split
  · rename_i hc
    rw [hc]
    rfl
  · exact byteLength_replicate_space _

theorem blankChar_ne_nil (c : Char) : blankChar c ≠ [] := by
  intro h
  have hlen := byteLength_blankChar c
  have hpos := c.utf8Size_pos
  rw [h, byteLength_nil] at hlen
  omega

/-- What stands for a character is a line feed for a line feed, and spaces otherwise. -/
theorem mem_blankChar {c d : Char} (h : d ∈ blankChar c) : d = '\n' ∧ c = '\n' ∨ d = ' ' := by
  unfold blankChar at h
  split at h
  · rename_i hc
    exact Or.inl ⟨List.mem_singleton.mp h, hc⟩
  · exact Or.inr (List.eq_of_mem_replicate h)

/-- A character other than a space in a blanked one is the blanked character, a line feed. -/
theorem eq_newline_of_mem_blankChar {c d : Char} (h : d ∈ blankChar c) (hd : d ≠ ' ') :
    d = '\n' ∧ c = '\n' := by
  rcases mem_blankChar h with hfeed | hspace
  · exact hfeed
  · exact absurd hspace hd

/-- Where a character other than a space can stand in a text that starts with a blanked one: it is
the blanked character itself, or it comes after the blanks. -/
theorem split_blankChar {c d : Char} (hc : c ≠ ' ') {m n ms : List Char}
    (h : m ++ c :: n = blankChar d ++ ms) :
    (m = [] ∧ c = '\n' ∧ d = '\n' ∧ n = ms) ∨ ∃ m', m = blankChar d ++ m' ∧ m' ++ c :: n = ms := by
  rcases List.append_eq_append_iff.mp h with ⟨x, hx, hcn⟩ | ⟨x, hx, hcn⟩
  · cases x with
    | nil =>
        rw [List.append_nil] at hx
        exact Or.inr ⟨[], by rw [hx, List.append_nil], hcn⟩
    | cons e x =>
        rw [List.cons_append, List.cons.injEq] at hcn
        obtain ⟨rfl, rfl⟩ := hcn
        have hmem : c ∈ blankChar d := by simp [hx]
        obtain ⟨rfl, rfl⟩ := eq_newline_of_mem_blankChar hmem hc
        have hm : m = [] ∧ x = [] := by
          have hlen := congrArg List.length hx
          simp only [blankChar, if_pos, List.length_append, List.length_cons,
            List.length_nil] at hlen
          exact ⟨List.eq_nil_of_length_eq_zero (by omega), List.eq_nil_of_length_eq_zero (by omega)⟩
        exact Or.inl ⟨hm.1, rfl, rfl, by rw [hm.2, List.nil_append]⟩
  · exact Or.inr ⟨x, hx, hcn.symm⟩

/-- Blanking keeps the line starts, because a line feed stays. -/
theorem startsAfterNewlines_blankChar (o : Nat) (c : Char) :
    startsAfterNewlines o (blankChar c) = startsAfterNewlines o [c] := by
  by_cases hc : c = '\n'
  · subst hc
    rfl
  · have hrep : ∀ n o, startsAfterNewlines o (List.replicate n ' ') = [] := by
      intro n
      induction n with
      | zero => intro o; rfl
      | succ n ih =>
          intro o
          rw [List.replicate_succ, startsAfterNewlines, if_neg (by decide), ih]
    rw [blankChar, if_neg hc, hrep, startsAfterNewlines, if_neg hc, startsAfterNewlines]

namespace Masks

variable {P : Nat → Prop} {o : Nat} {cs ms : List Char}

/-! ### Offsets and line feeds -/

/-- A text masks itself, if all of its bytes are allowed to stay. -/
theorem self (h : ∀ i, o ≤ i → i < o + byteLength cs → P i) : Masks P o cs cs := by
  induction cs generalizing o with
  | nil => exact nil o
  | cons c cs ih =>
      rw [byteLength_cons] at h
      refine keep (fun i hlo hhi => h i hlo (by omega)) (ih ?_)
      intro i hlo hhi
      exact h i (by omega) (by omega)

/-- A text that is blanked altogether masks the text. -/
theorem flatMap_blankChar (o : Nat) (cs : List Char) : Masks P o cs (cs.flatMap blankChar) := by
  induction cs generalizing o with
  | nil => exact nil o
  | cons c cs ih =>
      rw [List.flatMap_cons]
      exact blank (ih _)

/-- Masks of two parts make up a mask of the whole. -/
theorem append {a m b n : List Char} (ha : Masks P o a m) (hb : Masks P (o + byteLength a) b n) :
    Masks P o (a ++ b) (m ++ n) := by
  induction ha with
  | nil o => simpa using hb
  | keep kept tail ih =>
      rw [byteLength_cons, ← Nat.add_assoc] at hb
      exact keep kept (ih hb)
  | blank tail ih =>
      rw [byteLength_cons, ← Nat.add_assoc] at hb
      rw [List.append_assoc]
      exact blank (ih hb)

/-- A mask has the length of its text, so that offsets agree. -/
theorem byteLength_eq (h : Masks P o cs ms) : byteLength ms = byteLength cs := by
  induction h with
  | nil o => rfl
  | keep kept tail ih => rw [byteLength_cons, byteLength_cons, ih]
  | blank tail ih => rw [byteLength_append, byteLength_blankChar, byteLength_cons, ih]

/-- A mask has the line starts of its text. -/
theorem startsAfterNewlines_eq (h : Masks P o cs ms) (k : Nat) :
    startsAfterNewlines k ms = startsAfterNewlines k cs := by
  induction h generalizing k with
  | nil o => rfl
  | keep kept tail ih => simp only [startsAfterNewlines, ih]
  | @blank o c cs ms tail ih =>
      have hsplit := startsAfterNewlines_append k [c] cs
      rw [List.singleton_append, byteLength_cons, byteLength_nil, Nat.add_zero] at hsplit
      rw [startsAfterNewlines_append, startsAfterNewlines_blankChar, byteLength_blankChar, ih,
        hsplit]

/-- A mask has the line feeds of its text. -/
theorem count_newline (h : Masks P o cs ms) : ms.count '\n' = cs.count '\n' := by
  rw [← length_startsAfterNewlines 0 ms, ← length_startsAfterNewlines 0 cs,
    h.startsAfterNewlines_eq]

/-- A text and its mask have one line index. -/
theorem lineIndex_eq (h : Masks P o cs ms) : LineIndex.ofText ms = LineIndex.ofText cs := by
  have hlast : (ms.getLast? = some '\n') ↔ (cs.getLast? = some '\n') := by
    rw [← byteLength_mem_startsAfterNewlines, ← byteLength_mem_startsAfterNewlines,
      h.byteLength_eq, h.startsAfterNewlines_eq]
  have hends : (ms.getLast? == some '\n') = (cs.getLast? == some '\n') := by
    rw [Bool.eq_iff_iff, beq_iff_eq, beq_iff_eq]
    exact hlast
  simp only [LineIndex.ofText, h.byteLength_eq, h.startsAfterNewlines_eq, hends]

/-- A part at the start of the text has its part at the start of the mask. -/
theorem split {a b : List Char} (h : Masks P o (a ++ b) ms) :
    ∃ m n, ms = m ++ n ∧ Masks P o a m ∧ Masks P (o + byteLength a) b n := by
  induction a generalizing o ms with
  | nil => exact ⟨[], ms, rfl, nil o, h⟩
  | cons c a ih =>
      rw [byteLength_cons, ← Nat.add_assoc]
      cases h with
      | keep kept tail =>
          obtain ⟨m, n, rfl, ha, hb⟩ := ih tail
          exact ⟨c :: m, n, rfl, keep kept ha, hb⟩
      | blank tail =>
          obtain ⟨m, n, rfl, ha, hb⟩ := ih tail
          exact ⟨blankChar c ++ m, n, by rw [List.append_assoc], blank ha, hb⟩

/-! ### What is found on the mask -/

/-- A character of the mask other than a space stands in the text at the same offset; if it is no
line feed either, it was kept. -/
theorem exists_char {c : Char} (hc : c ≠ ' ') {m n : List Char} (h : Masks P o cs (m ++ c :: n)) :
    ∃ a b, cs = a ++ c :: b ∧ Masks P o a m ∧ Masks P (o + byteLength (a ++ [c])) b n ∧
      (c ≠ '\n' → ∀ i, o + byteLength a ≤ i → i < o + byteLength (a ++ [c]) → P i) := by
  generalize hms : m ++ c :: n = ms at h
  induction h generalizing m with
  | nil o => simp at hms
  | @keep o d cs ms kept tail ih =>
      cases m with
      | nil =>
          rw [List.nil_append, List.cons.injEq] at hms
          obtain ⟨rfl, rfl⟩ := hms
          refine ⟨[], cs, rfl, nil o, ?_, ?_⟩
          · simpa using tail
          · intro _ i hlo hhi
            simp only [byteLength_nil, List.nil_append, byteLength_cons] at hlo hhi
            exact kept i (by omega) (by omega)
      | cons e m =>
          rw [List.cons_append, List.cons.injEq] at hms
          obtain ⟨rfl, hms⟩ := hms
          obtain ⟨a, b, rfl, ha, hb, hP⟩ := ih hms
          refine ⟨e :: a, b, rfl, keep kept ha, ?_, ?_⟩
          · rwa [List.cons_append, byteLength_cons, ← Nat.add_assoc]
          · intro hne i hlo hhi
            simp only [List.cons_append, byteLength_cons] at hlo hhi
            exact hP hne i (by omega) (by omega)
  | @blank o d cs ms tail ih =>
      rcases split_blankChar hc hms with ⟨rfl, rfl, rfl, rfl⟩ | ⟨m', rfl, htail⟩
      · exact ⟨[], cs, rfl, nil o, by simpa using tail, fun hne => absurd rfl hne⟩
      · obtain ⟨a, b, rfl, ha, hb, hP⟩ := ih htail
        refine ⟨d :: a, b, rfl, blank ha, ?_, ?_⟩
        · rwa [List.cons_append, byteLength_cons, ← Nat.add_assoc]
        · intro hne i hlo hhi
          simp only [List.cons_append, byteLength_cons] at hlo hhi
          exact hP hne i (by omega) (by omega)

/-- A word without white space on the mask stands in the text at the same offset, and all of it was
kept. -/
theorem exists_word {w : List Char} (hne : w ≠ []) (hw : ∀ c ∈ w, isBlank c = false)
    {m n : List Char} (h : Masks P o cs (m ++ (w ++ n))) :
    ∃ a b, cs = a ++ (w ++ b) ∧ Masks P o a m ∧
      ∀ i, o + byteLength a ≤ i → i < o + byteLength (a ++ w) → P i := by
  induction w generalizing o cs m with
  | nil => exact absurd rfl hne
  | cons c w ih =>
      have hc : isBlank c = false := hw c List.mem_cons_self
      have hspace : c ≠ ' ' := by
        rintro rfl
        cases hc
      have hfeed : c ≠ '\n' := by
        rintro rfl
        cases hc
      obtain ⟨a, b, rfl, ha, hb, hP⟩ := exists_char hspace h
      have hPc := hP hfeed
      by_cases hnil : w = []
      · subst hnil
        exact ⟨a, b, rfl, ha, hPc⟩
      · obtain ⟨a', b', rfl, ha', hP'⟩ :=
          ih hnil (fun d hd => hw d (List.mem_cons_of_mem c hd)) (m := []) hb
        have ha'nil : a' = [] := byteLength_eq_zero.mp ha'.byteLength_eq.symm
        subst ha'nil
        refine ⟨a, b', rfl, ha, ?_⟩
        intro i hlo hhi
        simp only [byteLength_append, byteLength_cons, byteLength_nil, List.nil_append]
          at hPc hP' hlo hhi
        by_cases hi : i < o + (byteLength a + (c.utf8Size + 0))
        · exact hPc i hlo hi
        · exact hP' i (by omega) (by omega)

end Masks

/-! ### The mask of a document -/

/-- Masking lexeme by lexeme keeps code and blanks the rest. -/
theorem masks_flatMap_masked {P : Nat → Prop} (o : Nat) (ls : List Lexeme)
    (hP : ∀ s ∈ spansOf o ls, s.isCode = true → ∀ i, s.Covers i → P i) :
    Masks P o (ls.flatMap Lexeme.text) (ls.flatMap Lexeme.masked) := by
  induction ls generalizing o with
  | nil => exact Masks.nil o
  | cons l ls ih =>
      rw [List.flatMap_cons, List.flatMap_cons]
      refine Masks.append ?_ (ih _ fun s hs => hP s (List.mem_cons_of_mem _ hs))
      have hl := hP ⟨o, o + byteLength l.text, l.literal, l.comment, l.after.isOpen⟩
        List.mem_cons_self
      unfold Lexeme.masked
      split
      · rename_i hcode
        exact Masks.self fun i hlo hhi => hl hcode i ⟨hlo, hhi⟩
      · exact Masks.flatMap_blankChar o l.text

/-- The mask of a text keeps only code. -/
theorem masks_mask (cs : List Char) : Masks (InCode cs) 0 cs (mask cs) := by
  have hmask := masks_flatMap_masked (P := InCode cs) 0 (lexemes cs)
    fun s hs hcode i hi => inCode_of_covers hs hcode hi
  rwa [lexemes, flatMap_text_lex] at hmask

/-- Only a byte order mark at the start is blanked. -/
theorem blankByteOrderMark_cases (ms : List Char) :
    blankByteOrderMark ms = ms ∨
      ∃ rest, ms = byteOrderMark :: rest ∧
        blankByteOrderMark ms = blankChar byteOrderMark ++ rest := by
  cases ms with
  | nil => exact Or.inl rfl
  | cons c rest =>
      rw [blankByteOrderMark]
      split_ifs with hc
      · subst hc
        exact Or.inr ⟨rest, rfl, rfl⟩
      · exact Or.inl rfl

/-- Blanking a byte order mark blanks one more character at most. -/
theorem Masks.blankByteOrderMark {P : Nat → Prop} {o : Nat} {cs ms : List Char}
    (h : Masks P o cs ms) : Masks P o cs (blankByteOrderMark ms) := by
  cases h with
  | nil => exact Masks.nil o
  | @keep _ c cs ms kept tail =>
      rw [DslOutline.blankByteOrderMark]
      split
      · rename_i hc
        have hblank : blankChar c = List.replicate c.utf8Size ' ' := by
          rw [hc]
          rfl
        rw [← hblank]
        exact Masks.blank tail
      · exact Masks.keep kept tail
  | @blank _ c cs ms tail =>
      obtain ⟨d, ds, hds⟩ := List.exists_cons_of_ne_nil (blankChar_ne_nil c)
      have hd : d ≠ byteOrderMark := by
        have hmem : d ∈ blankChar c := by simp [hds]
        rcases mem_blankChar hmem with ⟨rfl, -⟩ | rfl <;> decide
      have hsame : DslOutline.blankByteOrderMark (blankChar c ++ ms) = blankChar c ++ ms := by
        rw [hds, List.cons_append, DslOutline.blankByteOrderMark, if_neg hd]
      rw [hsame]
      exact Masks.blank tail

namespace Document

/-- The masked text of a document is its text with everything but code blanked. -/
theorem masks_text (cs : List Char) : Masks (InCode cs) 0 cs (ofText cs).masked :=
  (masks_mask cs).blankByteOrderMark

/-- The line index of a document serves both of its texts. -/
theorem index_eq_ofText_masked (cs : List Char) :
    (ofText cs).index = LineIndex.ofText (ofText cs).masked :=
  (masks_text cs).lineIndex_eq.symm

/-- A word without white space on a masked line stands on that line of the text, at the same
distance from its start, and it is code. -/
theorem exists_word {cs : List Char} {n : Nat} (h1 : 1 ≤ n) (hn : n ≤ (ofText cs).lineCount)
    {m w more : List Char} (hmasked : (ofText cs).maskedLine n = m ++ (w ++ more)) (hne : w ≠ [])
    (hw : ∀ c ∈ w, isBlank c = false) :
    ∃ a b, cs = a ++ (w ++ b) ∧ byteLength a = (ofText cs).lineStart n + byteLength m ∧
      a.count '\n' + 1 = n ∧ ∀ i, byteLength a ≤ i → i < byteLength (a ++ w) → InCode cs i := by
  rw [lineCount, index_eq_ofText_masked] at hn
  obtain ⟨pre, body, rest, hline⟩ := exists_lineAt h1 hn
  rw [maskedLine, index_eq_ofText_masked, hline.lineText] at hmasked
  obtain ⟨t, hbody⟩ := trimTerminator_prefix body
  rw [hmasked] at hbody
  have hsplit : (ofText cs).masked = (pre ++ m) ++ (w ++ (more ++ (t ++ rest))) := by
    rw [hline.text_eq, ← hbody]
    simp only [List.append_assoc]
  have hmasks := masks_text cs
  rw [hsplit] at hmasks
  obtain ⟨a, b, hcs, ha, hcode⟩ := hmasks.exists_word hne hw
  refine ⟨a, b, hcs, ?_, ?_, ?_⟩
  · rw [← ha.byteLength_eq, byteLength_append, lineStart, index_eq_ofText_masked, hline.lineStart]
  · have hm : '\n' ∉ m := by
      intro hmem
      refine hline.noFeed ?_
      rw [← hbody]
      simp [hmem]
    rw [← ha.count_newline, List.count_append, List.count_eq_zero.mpr hm, hline.number]
  · intro i hlo hhi
    exact hcode i (by omega) (by omega)

/-- The first character of a masked line that is not blank stands in the text at the same distance
from the start of the line. A word without white space that begins there is code. -/
theorem exists_word_at_indentation {cs : List Char} {n : Nat} (h1 : 1 ≤ n)
    (hn : n ≤ (ofText cs).lineCount) (hne : trimStart ((ofText cs).maskedLine n) ≠ [])
    {w : List Char} (hword : w <+: trimStart ((ofText cs).maskedLine n))
    (hw : ∀ c ∈ w, isBlank c = false) :
    ∃ a c b, cs = a ++ c :: b ∧ isBlank c = false ∧ w <+: c :: b ∧
      byteLength a = (ofText cs).lineStart n + (ofText cs).indentation n ∧ a.count '\n' + 1 = n ∧
      ∀ i, byteLength a ≤ i → i < byteLength a + byteLength w → InCode cs i := by
  have hmasked := takeWhile_append_trimStart ((ofText cs).maskedLine n)
  cases w with
  | nil =>
      obtain ⟨c, more, hc⟩ := List.exists_cons_of_ne_nil hne
      have hblank : isBlank c = false := by
        have hnot := List.head?_dropWhile_not isBlank ((ofText cs).maskedLine n)
        rw [← trimStart, hc] at hnot
        exact hnot
      rw [hc, ← List.singleton_append] at hmasked
      obtain ⟨a, b, hcs, hlen, hcount, -⟩ :=
        exists_word h1 hn hmasked.symm (List.cons_ne_nil c []) (by simpa using hblank)
      refine ⟨a, c, b, hcs, hblank, List.nil_prefix, hlen, hcount, ?_⟩
      intro i hlo hhi
      rw [byteLength_nil] at hhi
      omega
  | cons c w =>
      obtain ⟨more, hmore⟩ := hword
      rw [← hmore] at hmasked
      obtain ⟨a, b, hcs, hlen, hcount, hcode⟩ :=
        exists_word h1 hn hmasked.symm (List.cons_ne_nil c w) hw
      refine ⟨a, c, w ++ b, hcs, hw c List.mem_cons_self, ⟨b, rfl⟩, hlen, hcount, ?_⟩
      rwa [byteLength_append] at hcode

/-- The first character of a line that is not blank on the mask is on that line. -/
theorem firstNonBlank_line {cs : List Char} {n : Nat} (h1 : 1 ≤ n) (hn : n ≤ (ofText cs).lineCount)
    (hne : trimStart ((ofText cs).maskedLine n) ≠ []) : ((ofText cs).firstNonBlank n).line = n := by
  obtain ⟨a, c, b, hcs, -, -, hlen, hcount, -⟩ :=
    exists_word_at_indentation h1 hn hne List.nil_prefix (by simp)
  have hpos := LineIndex.position_line a (c :: b)
  rw [← hcs, hlen, hcount] at hpos
  exact hpos

end Document

end DslOutline
