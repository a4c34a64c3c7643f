import DslOutline.Proofs.Lexeme.Marks
import DslOutline.Proofs.Text.Encoding

/-!
# The bytes of a text and of its mask

Offsets count bytes, and offsets found on the mask are used in the text. This module compares the
two texts byte by byte. Each character of the text has one piece of the mask at its offset: the
character itself if it is code, its blanks otherwise (`exists_mask_char`), and the bytes follow from
the pieces (`getElem?_bytes_mask`). A document blanks one character more at most; for its mask and
the lines of it the weaker relation `Masks` is enough (`Masks.getElem?_bytes`,
`Document.exists_line_masks`). The main statement is `mask_keeps_offsets`.
-/

namespace DslOutline

open Text

/-- A blanked character is one space for each of its bytes. -/
theorem bytes_blankChar {c : Char} (hc : c ≠ '\n') :
    bytes (blankChar c) = List.replicate c.utf8Size 32 := by
  have hspace : String.utf8EncodeChar ' ' = [32] := rfl
  rw [blankChar, if_neg hc, bytes, List.flatMap_replicate, hspace, List.flatten_replicate_singleton]

/-- Blanks of a character: its bytes become spaces, unless it is a line feed. -/
theorem getElem?_bytes_blankChar {c : Char} {k : Nat} {x : UInt8} (h : (bytes [c])[k]? = some x) :
    (bytes (blankChar c))[k]? = some (if x = 10 then x else 32) := by
  have hmem := List.mem_of_getElem? h
  by_cases hc : c = '\n'
  · subst hc
    have hfeed : bytes ['\n'] = [10] := rfl
    rw [hfeed, List.mem_singleton] at hmem
    rw [if_pos hmem]
    exact h
  · have hx : x ≠ 10 := by
      rintro rfl
      exact hc (eq_newline_of_mem_bytes hmem)
    obtain ⟨hk, -⟩ := List.getElem?_eq_some_iff.mp h
    rw [length_bytes, byteLength_cons, byteLength_nil, Nat.add_zero] at hk
    rw [bytes_blankChar hc, if_neg hx, List.getElem?_replicate, if_pos hk]

/-! ### The mask, character by character -/

/-- **A character is kept whole or blanked whole.** What the mask has at the offset of a character
is the character if all its bytes are code, and its blanks if none of them is. -/
theorem exists_mask_char {cs a b : List Char} {c : Char} (h : cs = a ++ c :: b) :
    ∃ m piece n, mask cs = m ++ (piece ++ n) ∧ byteLength m = byteLength a ∧
      ((piece = [c] ∧ ∀ k < c.utf8Size, InCode cs (byteLength a + k)) ∨
        (piece = blankChar c ∧ ∀ k < c.utf8Size, ¬ InCode cs (byteLength a + k))) := by
  have htext : (marks (lexemes cs)).map MarkedChar.char = a ++ c :: b := by
    rw [map_char_marks, lexemes, flatMap_text_lex, h]
  obtain ⟨before, rest, hmarks, hbefore, hrest⟩ := List.map_eq_append_iff.mp htext
  obtain ⟨m, after, rfl, hm, -⟩ := List.map_eq_cons_iff.mp hrest
  obtain ⟨s, hs, hliteral, hcomment, hcovers⟩ := exists_span_of_marks (o := 0) hmarks
  rw [hbefore, hm, Nat.zero_add] at hcovers
  have hspan : ∀ k < c.utf8Size, s.Covers (byteLength a + k) := by
    intro k hk
    exact hcovers _ (Nat.le_add_right _ _) (by omega)
  have hcode : s.isCode = m.isCode := by
    rw [Span.isCode, MarkedChar.isCode, hliteral, hcomment]
  refine ⟨before.flatMap MarkedChar.masked, m.masked, after.flatMap MarkedChar.masked, ?_, ?_, ?_⟩
  · rw [mask, ← flatMap_masked_marks, hmarks, List.flatMap_append, List.flatMap_cons]
  · rw [byteLength_flatMap_masked, hbefore]
  · rw [MarkedChar.masked, hm]
    split_ifs with hmcode
    · refine Or.inl ⟨rfl, ?_⟩
      intro k hk
      exact inCode_of_covers hs (hcode.trans hmcode) (hspan k hk)
    · refine Or.inr ⟨rfl, ?_⟩
      rintro k hk ⟨t, ht, hti, htcode, -⟩
      -- the span of the character is the only one that holds the byte
      rw [← spansFrom_zero] at hs
      rw [span_eq_of_covers ht hs hti (hspan k hk), hcode] at htcode
      exact hmcode htcode

/-- The bytes of the mask: code and line feeds stay, all else becomes spaces. -/
theorem getElem?_bytes_mask {cs : List Char} {i : Nat} {x : UInt8} (h : (bytes cs)[i]? = some x) :
    (InCode cs i ∨ x = 10 → (bytes (mask cs))[i]? = some x) ∧
      (¬ InCode cs i → x ≠ 10 → (bytes (mask cs))[i]? = some 32) := by
  obtain ⟨a, c, b, k, hcs, rfl, hk, hx⟩ := exists_char_of_getElem?_bytes h
  obtain ⟨m, piece, n, hmask, hlen, ⟨rfl, hcode⟩ | ⟨rfl, hcode⟩⟩ := exists_mask_char hcs
  · have hbyte := getElem?_bytes_append m [c] n (k := k) (by simpa using hk)
    rw [← hmask, hlen, hx] at hbyte
    exact ⟨fun _ => hbyte, fun hnot => absurd (hcode k hk) hnot⟩
  · have hbyte := getElem?_bytes_append m (blankChar c) n (k := k)
      (by rwa [byteLength_blankChar])
    rw [← hmask, hlen, getElem?_bytes_blankChar hx] at hbyte
    refine ⟨?_, ?_⟩
    · rintro (hin | rfl)
      · exact absurd hin (hcode k hk)
      · exact hbyte
    · intro _ hne
      rwa [if_neg hne] at hbyte

/-! ### The mask of a document -/

namespace Masks

variable {P : Nat → Prop} {o : Nat} {cs ms : List Char}

/-- A byte of the text stays or becomes a space, and a line feed stays. -/
theorem getElem?_bytes (h : Masks P o cs ms) {i : Nat} {x : UInt8} (hx : (bytes cs)[i]? = some x) :
    (bytes ms)[i]? = some x ∨ x ≠ 10 ∧ (bytes ms)[i]? = some 32 := by
  obtain ⟨a, c, b, k, rfl, rfl, hk, hx⟩ := exists_char_of_getElem?_bytes hx
  obtain ⟨m, n, rfl, ha, hb⟩ := h.split
  rw [← ha.byteLength_eq]
  cases hb with
  | @keep _ _ _ n _ _ =>
      rw [← List.singleton_append, getElem?_bytes_append m [c] n (by simpa using hk)]
      exact Or.inl hx
  | @blank _ _ _ n _ =>
      rw [getElem?_bytes_append m (blankChar c) n (by rwa [byteLength_blankChar]),
        getElem?_bytes_blankChar hx]
      by_cases hfeed : x = 10
      · exact Or.inl (by rw [if_pos hfeed])
      · exact Or.inr ⟨hfeed, by rw [if_neg hfeed]⟩

/-- Each byte of the mask stands for the byte of the text at its offset. -/
theorem exists_getElem?_bytes (h : Masks P o cs ms) {i : Nat} {y : UInt8}
    (hy : (bytes ms)[i]? = some y) : ∃ x, (bytes cs)[i]? = some x := by
  obtain ⟨hi, -⟩ := List.getElem?_eq_some_iff.mp hy
  rw [length_bytes, h.byteLength_eq, ← length_bytes] at hi
  exact ⟨_, List.getElem?_eq_getElem hi⟩

/-- A byte of the mask other than a space is the byte of the text. -/
theorem getElem?_bytes_of_ne_space (h : Masks P o cs ms) {i : Nat} {y : UInt8}
    (hy : (bytes ms)[i]? = some y) (hne : y ≠ 32) : (bytes cs)[i]? = some y := by
  obtain ⟨x, hx⟩ := h.exists_getElem?_bytes hy
  rcases h.getElem?_bytes hx with hsame | ⟨-, hspace⟩
  · rw [hx, ← hsame, hy]
  · rw [hspace] at hy
    exact absurd (Option.some.inj hy).symm hne

/-- Line feeds have the same offsets in the text and on the mask. -/
theorem getElem?_bytes_newline_iff (h : Masks P o cs ms) (i : Nat) :
    (bytes ms)[i]? = some 10 ↔ (bytes cs)[i]? = some 10 := by
  constructor
  · intro hfeed
    exact h.getElem?_bytes_of_ne_space hfeed (by decide)
  · intro hfeed
    rcases h.getElem?_bytes hfeed with hsame | ⟨hne, -⟩
    · exact hsame
    · exact absurd rfl hne

/-- A character with which no line ends has a piece of the mask with which none ends either. -/
theorem exists_piece {a b : List Char} {c : Char} (h : Masks P o (a ++ c :: b) ms)
    (hreturn : c ≠ '\r') (hfeed : c ≠ '\n') :
    ∃ m piece n, ms = (m ++ piece) ++ n ∧ byteLength (m ++ piece) = byteLength (a ++ [c]) ∧
      (m ++ piece).getLast? ≠ some '\r' ∧ (m ++ piece).getLast? ≠ some '\n' := by
  obtain ⟨m, n, rfl, ha, hb⟩ := h.split
  cases hb with
  | @keep _ _ _ n _ _ =>
      refine ⟨m, [c], n, by simp, ?_, ?_, ?_⟩
      · rw [byteLength_append, byteLength_append, ha.byteLength_eq]
      · simpa using hreturn
      · simpa using hfeed
  | @blank _ _ _ n _ =>
      obtain ⟨d, hd⟩ : ∃ d, (blankChar c).getLast? = some d :=
        ⟨_, List.getLast?_eq_some_getLast (blankChar_ne_nil c)⟩
      have hspace : d = ' ' := by
        rcases mem_blankChar (List.mem_of_getLast? hd) with ⟨-, hc⟩ | hspace
        · exact absurd hc hfeed
        · exact hspace
      have hlast : (m ++ blankChar c).getLast? = some ' ' := by
        rw [List.getLast?_append_of_ne_nil _ (blankChar_ne_nil c), hd, hspace]
      refine ⟨m, blankChar c, n, by rw [List.append_assoc], ?_, ?_, ?_⟩
      · rw [byteLength_append, byteLength_append, ha.byteLength_eq, byteLength_blankChar,
          byteLength_cons, byteLength_nil, Nat.add_zero]
      · rw [hlast]
        decide
      · rw [hlast]
        decide

/-- Trimming the line end takes no more bytes off the mask than off the text. -/
theorem byteLength_trimTerminator_le (h : Masks P o cs ms) :
    byteLength (trimTerminator cs) ≤ byteLength (trimTerminator ms) := by
  obtain ⟨t, ht⟩ := trimTerminator_prefix cs
  rcases (trimTerminator cs).eq_nil_or_concat with hnil | ⟨a, c, hlast⟩
  · rw [hnil]
    exact Nat.zero_le _
  · rw [List.concat_eq_append] at hlast
    have hc := getLast?_trimTerminator (show (trimTerminator cs).getLast? = some c by simp [hlast])
    rw [← ht, hlast, List.append_assoc, List.singleton_append] at h
    obtain ⟨m, piece, n, rfl, hlen, hreturn, hfeed⟩ := h.exists_piece hc.1 hc.2
    rw [trimTerminator_append hreturn hfeed, hlast, byteLength_append (m ++ piece), hlen]
    exact Nat.le_add_right _ _

end Masks

namespace Document

/-- A line as written and on the mask: two parts at one offset, the second of which masks the first.
This holds for every number, also if there is no such line. -/
theorem exists_line_masks (cs : List Char) (n : Nat) :
    ∃ pre part post pre' part' post', cs = pre ++ (part ++ post) ∧
      (ofText cs).masked = pre' ++ (part' ++ post') ∧
      byteLength pre = (ofText cs).lineStart n ∧ byteLength pre' = (ofText cs).lineStart n ∧
      Masks (InCode cs) ((ofText cs).lineStart n) part part' ∧
      (ofText cs).line n = trimTerminator part ∧
      (ofText cs).maskedLine n = trimTerminator part' := by
  obtain ⟨pre, part, post, hcs, hstart, hend⟩ := Checked.exists_getD_starts cs (Nat.sub_le n 1)
  have hmasks := masks_text cs
  nth_rewrite 2 [hcs] at hmasks
  obtain ⟨pre', more, hmasked, hpre, hmore⟩ := hmasks.split
  obtain ⟨part', post', rfl, hpart, -⟩ := hmore.split
  have hstart : (ofText cs).index.lineStart n = byteLength pre := hstart
  have hend : (ofText cs).index.lineEnd n = byteLength (pre ++ part) := hend
  rw [Nat.zero_add] at hpart
  refine ⟨pre, part, post, pre', part', post', hcs, hmasked, hstart.symm, ?_, ?_, ?_, ?_⟩
  · rw [hpre.byteLength_eq]
    exact hstart.symm
  · rwa [lineStart, hstart]
  · show trimTerminator (slice _ _ cs) = _
    rw [hstart, hend]
    nth_rewrite 1 [hcs]
    rw [slice_append]
  · show trimTerminator (slice _ _ (ofText cs).masked) = _
    rw [hstart, hend, hmasked, byteLength_append, ← hpre.byteLength_eq, ← hpart.byteLength_eq,
      ← byteLength_append, slice_append]

/-- What a masked line has besides spaces stands in the text at the same offset. -/
theorem getElem?_bytes_of_maskedLine {cs : List Char} {n i : Nat} {y : UInt8}
    (hy : (bytes ((ofText cs).maskedLine n))[i]? = some y) (hne : y ≠ 32) :
    (bytes cs)[(ofText cs).lineStart n + i]? = some y := by
  obtain ⟨pre, part, post, pre', part', post', -, hmasked, -, hpre, -, -, hline⟩ :=
    exists_line_masks cs n
  obtain ⟨t, ht⟩ := trimTerminator_prefix part'
  rw [← hline] at ht
  obtain ⟨hi, -⟩ := List.getElem?_eq_some_iff.mp hy
  rw [length_bytes] at hi
  have hbyte := getElem?_bytes_append pre' ((ofText cs).maskedLine n) (t ++ post') hi
  rw [← List.append_assoc _ t, ht, ← hmasked, hpre, hy] at hbyte
  exact (masks_text cs).getElem?_bytes_of_ne_space hbyte hne

end Document

open Document (ofText) in
/-- **Masking keeps every offset.** The mask of a text is UTF-8 of the same length: a byte that is
code or a line feed stays (10 is its byte), any other one becomes a space (32), and no character is
blanked in part. The masked text of a document differs from the mask in a byte order mark at the
start at most. Therefore line feeds have the same offsets in a document and on its mask, lines start
at the same offsets, and a masked line is no shorter than the line, with nothing but spaces and what
the text has at the same offset. -/
theorem mask_keeps_offsets (cs : List Char) :
    (bytes (mask cs)).toByteArray.IsValidUTF8 ∧
    (bytes (mask cs)).length = (bytes cs).length ∧
    (∀ (i : Nat) (x : UInt8), (bytes cs)[i]? = some x →
      (InCode cs i ∨ x = 10 → (bytes (mask cs))[i]? = some x) ∧
      (¬ InCode cs i → x ≠ 10 → (bytes (mask cs))[i]? = some 32)) ∧
    (∀ a c b, cs = a ++ c :: b →
      ∃ m piece n, mask cs = m ++ (piece ++ n) ∧ byteLength m = byteLength a ∧
        ((piece = [c] ∧ ∀ k < c.utf8Size, InCode cs (byteLength a + k)) ∨
          (piece = blankChar c ∧ ∀ k < c.utf8Size, ¬ InCode cs (byteLength a + k)))) ∧
    ((ofText cs).masked = mask cs ∨
      ∃ rest, mask cs = byteOrderMark :: rest ∧
        (ofText cs).masked = [' ', ' ', ' '] ++ rest) ∧
    (∀ i : Nat, (bytes (ofText cs).masked)[i]? = some 10 ↔ (bytes cs)[i]? = some 10) ∧
    (∀ n, (LineIndex.ofText (ofText cs).masked).lineStart n = (LineIndex.ofText cs).lineStart n) ∧
    ∀ n, byteLength ((ofText cs).line n) ≤ byteLength ((ofText cs).maskedLine n) ∧
      ∀ (i : Nat) (y : UInt8), (bytes ((ofText cs).maskedLine n))[i]? = some y → y ≠ 32 →
        (bytes cs)[(ofText cs).lineStart n + i]? = some y := by
  refine ⟨⟨mask cs, rfl⟩, ?_, ?_, ?_, ?_, ?_, ?_, ?_⟩
  · rw [length_bytes, length_bytes, (masks_mask cs).byteLength_eq]
  · intro i x hx
    exact getElem?_bytes_mask hx
  · intro a c b hcs
    exact exists_mask_char hcs
  · exact blankByteOrderMark_cases (mask cs)
  · exact (Document.masks_text cs).getElem?_bytes_newline_iff
  · intro n
    rw [(Document.masks_text cs).lineIndex_eq]
  · intro n
    refine ⟨?_, ?_⟩
    · obtain ⟨-, part, -, -, part', -, -, -, -, -, hmasks, hline, hmasked⟩ :=
        Document.exists_line_masks cs n
      rw [hline, hmasked]
      exact hmasks.byteLength_trimTerminator_le
    · intro i y hy hne
      exact Document.getElem?_bytes_of_maskedLine hy hne

open Document (ofText) in
/-- A byte order mark, a wide character in a literal, and a comment that ends with a carriage
return: the masked line is longer than the line. -/
theorem mask_keeps_offsets_comment :
    let cs := "\ufeffa \"é\" # b\r\nend".toList
    InCode cs 3 ∧ ¬ InCode cs 6 ∧
      (bytes (mask cs))[3]? = some 97 ∧ (bytes (mask cs))[6]? = some 32 ∧
      (bytes (mask cs))[14]? = some 10 ∧
      byteLength ((ofText cs).line 1) = 13 ∧ byteLength ((ofText cs).maskedLine 1) = 14 ∧
      (bytes cs)[(ofText cs).lineStart 1 + 3]? = some 97 := by
  intro cs
  have hcode : InCode cs 3 := by
    have hspan : ⟨3, 4, false, false, false⟩ ∈ spansOf 0 (lexemes cs) := by decide +kernel
    exact inCode_of_covers hspan rfl ⟨by decide, by decide⟩
  have hliteral : ¬ InCode cs 6 := by
    have hspans : ∀ s ∈ spansFrom cs 0, s.start ≤ 6 → 6 < s.stop → s.isCode = false := by
      decide +kernel
    rintro ⟨s, hs, ⟨hstart, hstop⟩, hcode, -⟩
    rw [hspans s hs hstart hstop] at hcode
    cases hcode
  obtain ⟨-, -, hbytes, -, -, -, -, hlines⟩ := mask_keeps_offsets cs
  refine ⟨hcode, hliteral, ?_, ?_, ?_, by decide +kernel, by decide +kernel, ?_⟩
  · exact (hbytes 3 97 (by decide +kernel)).1 (Or.inl hcode)
  · exact (hbytes 6 195 (by decide +kernel)).2 hliteral (by decide)
  · exact (hbytes 14 10 (by decide +kernel)).1 (Or.inr rfl)
  · exact (hlines 1).2 3 97 (by decide +kernel) (by decide)

end DslOutline
