import DslOutline.Proofs.Block.Tokens
import DslOutline.Proofs.Lexeme.Marks
import Mathlib.Data.List.Sort

/-!
# Block tokens of a text and of its mask

The block search looks for keywords in the code of the text as written; the depth of a line is
counted on the mask, where what was a literal or a comment is blank. Both see the same words: a word
in code stays on the mask, and a word on the mask is code (`mem_codeTokensFrom_zero_iff`,
`mem_tokensIn_masked_iff`). They differ in what they take a word's neighbours to be. A keyword with
a literal right next to it is a whole word on the mask, next to a blank, but not in the text, next
to a quotation mark. `keywords_mask` says that this is the only difference.

The mask can be read as a text again. Nothing in it starts a literal but a `?` that lost what stood
in front of it, and such a character literal hides no keyword (`codeTokens_eq_tokensIn`).
-/

namespace DslOutline

open Text

/-! ### Tokens as places of words -/

namespace BlockToken

/-- Keywords consist of letters. -/
theorem isAlpha_of_mem_word {t : BlockToken} {c : Char} (h : c ∈ t.word) : c.isAlpha = true := by
  have hall : t.word.all Char.isAlpha = true := by cases t <;> rfl
  exact List.all_eq_true.mp hall c h

theorem exists_word_eq_cons (t : BlockToken) : ∃ c w, t.word = c :: w := by
  cases t <;> exact ⟨_, _, rfl⟩

/-- No keyword starts like another one. -/
theorem eq_of_word_append {t u : BlockToken} {x y : List Char} (h : t.word ++ x = u.word ++ y) :
    t = u := by
  cases t <;> cases u <;> simp [word] at h ⊢

/-- At most one keyword stands at a place, so it makes no difference in which order they are
tried. -/
theorem here?_eq_some_iff {before : Option Char} {cs : List Char} {t : BlockToken} :
    here? before cs = some t ↔ wordHere t.word before cs = true := by
  refine ⟨wordHere_of_here?, ?_⟩
  intro h
  have hunique : ∀ {u : BlockToken}, wordHere u.word before cs = true → u = t := by
    intro u hu
    obtain ⟨-, x, hx, -⟩ := wordHere_iff.mp hu
    obtain ⟨-, y, hy, -⟩ := wordHere_iff.mp h
    exact eq_of_word_append (hx.symm.trans hy)
  unfold here?
  split_ifs with hdo hfn hend
  · rw [hunique hdo]
  · rw [hunique hfn]
  · rw [hunique hend]
  · cases t <;> contradiction

end BlockToken

/-- A keyword stands at the length of a prefix if it is spelled there as a whole word. -/
theorem blockTokenAt?_eq_some_iff {cs : List Char} {offset : Nat} {t : BlockToken} :
    blockTokenAt? cs offset = some t ↔
      ∃ p q, cs = p ++ (t.word ++ q) ∧ byteLength p = offset ∧ admitsBefore p.getLast? = true ∧
        admitsAfter q.head? = true := by
  refine ⟨exists_of_blockTokenAt?, ?_⟩
  rintro ⟨p, q, rfl, rfl, hbefore, hafter⟩
  rw [blockTokenAt?_append, BlockToken.here?_eq_some_iff, wordHere_iff]
  exact ⟨hbefore, q, rfl, hafter⟩

/-- The character in front of the rest of a text, when one more has been read. -/
theorem getLast?_cons_or (c : Char) (p : List Char) (before : Option Char) :
    (c :: p).getLast?.or before = p.getLast?.or (some c) := by
  rw [List.getLast?_cons]
  cases p.getLast? <;> rfl

/-- The tokens of a text, literals and comments included, are the whole words in it. -/
theorem mem_tokensIn_iff {before : Option Char} {offset : Nat} {cs : List Char} {t : PlacedToken} :
    t ∈ tokensIn before offset cs ↔
      ∃ p q, cs = p ++ (t.token.word ++ q) ∧ t.start = offset + byteLength p ∧
        admitsBefore (p.getLast?.or before) = true ∧ admitsAfter q.head? = true := by
  induction cs generalizing before offset with
  | nil =>
      obtain ⟨c, w, hw⟩ := t.token.exists_word_eq_cons
      simp [tokensIn, hw]
  | cons c cs ih =>
      rw [tokensIn, List.mem_append, ih, Option.mem_toList, PlacedToken.here?,
        Option.map_eq_some_iff]
      constructor
      · rintro (⟨token, htoken, rfl⟩ | ⟨p, q, rfl, hstart, hbefore, hafter⟩)
        · obtain ⟨hbefore, q, hq, hafter⟩ := wordHere_iff.mp (BlockToken.wordHere_of_here? htoken)
          exact ⟨[], q, hq, rfl, hbefore, hafter⟩
        · refine ⟨c :: p, q, rfl, ?_, ?_, hafter⟩
          · rw [hstart, byteLength_cons, Nat.add_assoc]
          · rwa [getLast?_cons_or]
      · rintro ⟨p, q, hcs, hstart, hbefore, hafter⟩
        cases p with
        | nil =>
            left
            refine ⟨t.token, BlockToken.here?_eq_some_iff.mpr ?_, ?_⟩
            · exact wordHere_iff.mpr ⟨hbefore, q, hcs, hafter⟩
            · rw [byteLength_nil, Nat.add_zero] at hstart
              rw [← hstart]
        | cons d p =>
            right
            rw [List.cons_append, List.cons.injEq] at hcs
            obtain ⟨rfl, rfl⟩ := hcs
            refine ⟨p, q, rfl, ?_, ?_, hafter⟩
            · rw [hstart, byteLength_cons, Nat.add_assoc]
            · rwa [getLast?_cons_or] at hbefore

/-- The tokens of a text are listed from left to right. -/
theorem pairwise_tokensIn (before : Option Char) (offset : Nat) (cs : List Char) :
    (tokensIn before offset cs).Pairwise fun t u => t.start < u.start := by
  induction cs generalizing before offset with
  | nil => exact List.Pairwise.nil
  | cons c cs ih =>
      rw [tokensIn, List.pairwise_append]
      refine ⟨?_, ih _ _, ?_⟩
      · cases PlacedToken.here? before offset (c :: cs) with
        | none => exact List.Pairwise.nil
        | some t => exact List.pairwise_singleton _ _
      · intro t ht u hu
        obtain ⟨token, -, rfl⟩ := Option.map_eq_some_iff.mp (Option.mem_toList.mp ht)
        obtain ⟨p, q, -, hstart, -, -⟩ := mem_tokensIn_iff.mp hu
        have := c.utf8Size_pos
        show offset < u.start
        omega

/-- Tokens in order are determined by which tokens there are. -/
theorem tokens_eq_of_mem_iff {ts us : List PlacedToken}
    (hts : ts.Pairwise fun t u => t.start < u.start)
    (hus : us.Pairwise fun t u => t.start < u.start) (h : ∀ t, t ∈ ts ↔ t ∈ us) : ts = us := by
  have : Std.Irrefl fun t u : PlacedToken => t.start < u.start := ⟨fun t => Nat.lt_irrefl _⟩
  have : Std.Asymm fun t u : PlacedToken => t.start < u.start := ⟨fun t u => Nat.lt_asymm⟩
  exact hts.eq_of_mem_iff hus h

/-! ### Words that both readings see -/

/-- The marks of a text have its characters. -/
theorem map_char_marks_lexemes (cs : List Char) :
    (marks (lexemes cs)).map MarkedChar.char = cs := by
  rw [map_char_marks, lexemes, flatMap_text_lex]

/-- The mask of a text, in terms of its marks. -/
theorem mask_eq_flatMap_masked (cs : List Char) :
    mask cs = (marks (lexemes cs)).flatMap MarkedChar.masked :=
  (flatMap_masked_marks (lexemes cs)).symm

theorem map_char_map_code (w : List Char) : (w.map MarkedChar.code).map MarkedChar.char = w := by
  rw [List.map_map]
  exact List.map_id w

theorem flatMap_masked_map_code (w : List Char) :
    (w.map MarkedChar.code).flatMap MarkedChar.masked = w := by
  rw [List.flatMap_map]
  simp

/-- The marks of a text are such as a reading gives. -/
theorem marked_lexemes (cs : List Char) : Marked true (marks (lexemes cs)) :=
  Marked.marks_lex .start none cs

/-- A span of code starts at an offset if a character of code does. -/
theorem exists_code_span_lexemes_iff {cs : List Char} {i : Nat} :
    (∃ s ∈ spansFrom cs 0, s.isCode = true ∧ s.start = i) ↔
      ∃ a c b, marks (lexemes cs) = a ++ .code c :: b ∧
        byteLength (a.map MarkedChar.char) = i := by
  rw [spansFrom_zero, lexemes, exists_code_span_iff fun l hl => exists_singleton_of_isCode hl]
  simp only [Nat.zero_add]

/-- The tokens in the code of a text are the words in its code that are whole words in the text. -/
theorem mem_codeTokensFrom_zero_iff {cs : List Char} {t : PlacedToken} :
    t ∈ codeTokensFrom cs 0 ↔
      ∃ a b, marks (lexemes cs) = a ++ (t.token.word.map .code ++ b) ∧
        byteLength (a.map MarkedChar.char) = t.start ∧
        admitsBefore (a.map MarkedChar.char).getLast? = true ∧
        admitsAfter (b.map MarkedChar.char).head? = true := by
  have hchars := map_char_marks_lexemes cs
  constructor
  · intro h
    rw [codeTokensFrom_eq] at h
    obtain ⟨s, hs, hst⟩ := List.mem_filterMap.mp h
    obtain ⟨hstart, htoken⟩ := Span.blockTokenAt?_of_token? hst
    have hcode : s.isCode = true := by
      by_contra hcode
      rw [Span.token?, if_neg hcode] at hst
      cases hst
    obtain ⟨p, q, hcs, hp, hbefore, hafter⟩ := exists_of_blockTokenAt? htoken
    obtain ⟨a, c, b, hmarks, ha⟩ := exists_code_span_lexemes_iff.mp ⟨s, hs, hcode, hstart.symm⟩
    rw [hmarks] at hchars
    rw [List.map_append] at hchars
    -- the character of code is the first letter of the word, and the other letters follow it
    have hap : a.map MarkedChar.char = p :=
      prefix_eq_of_byteLength_eq ⟨_, hchars⟩ ⟨_, hcs.symm⟩ (ha.trans hp.symm)
    rw [hap, hcs, List.append_cancel_left_eq] at hchars
    obtain ⟨d, w, hw⟩ := t.token.exists_word_eq_cons
    rw [hw, List.map_cons, List.cons_append, List.cons.injEq] at hchars
    obtain ⟨rfl, htail⟩ := hchars
    have hmarked := marked_lexemes cs
    rw [hmarks] at hmarked
    obtain ⟨_, hmarked⟩ := Marked.of_append hmarked
    obtain ⟨b', rfl, -⟩ := (hmarked.tail_of_isCode rfl).exists_letters
      (fun e he => BlockToken.isAlpha_of_mem_word (t := t.token) (by simp [hw, he]))
      ⟨q, htail.symm⟩
    rw [List.map_append, map_char_map_code, List.append_cancel_left_eq] at htail
    refine ⟨a, b', ?_, ha, by rwa [hap], by rwa [htail]⟩
    rw [hmarks, hw]
    rfl
  · rintro ⟨a, b, hmarks, ha, hbefore, hafter⟩
    obtain ⟨d, w, hw⟩ := t.token.exists_word_eq_cons
    rw [codeTokensFrom_eq, List.mem_filterMap]
    obtain ⟨s, hs, hcode, hstart⟩ := exists_code_span_lexemes_iff.mpr
      ⟨a, d, w.map .code ++ b, by rw [hmarks, hw]; rfl, ha⟩
    refine ⟨s, hs, ?_⟩
    have htoken : blockTokenAt? cs t.start = some t.token := by
      refine blockTokenAt?_eq_some_iff.mpr
        ⟨a.map MarkedChar.char, b.map MarkedChar.char, ?_, ha, hbefore, hafter⟩
      rw [← hchars, hmarks, List.map_append, List.map_append, map_char_map_code]
    rw [Span.token?, if_pos hcode, hstart, htoken]
    rfl

/-- The tokens of the mask are the words in the code of the text that are whole words on the
mask. -/
theorem mem_tokensIn_masked_iff {cs : List Char} {t : PlacedToken} :
    t ∈ tokensIn none 0 (mask cs) ↔
      ∃ a b, marks (lexemes cs) = a ++ (t.token.word.map .code ++ b) ∧
        byteLength (a.map MarkedChar.char) = t.start ∧
        admitsBefore (a.flatMap MarkedChar.masked).getLast? = true ∧
        admitsAfter (b.flatMap MarkedChar.masked).head? = true := by
  rw [mask_eq_flatMap_masked, mem_tokensIn_iff]
  simp only [Nat.zero_add, Option.or_none]
  constructor
  · rintro ⟨p, q, hmask, hstart, hbefore, hafter⟩
    obtain ⟨d, w, hw⟩ := t.token.exists_word_eq_cons
    have hletters : ∀ e ∈ d :: w, e.isAlpha = true := fun e he =>
      BlockToken.isAlpha_of_mem_word (t := t.token) (hw ▸ he)
    rw [hw, List.cons_append] at hmask
    have hd := hletters d List.mem_cons_self
    obtain ⟨a, b, hmarks, rfl, hb⟩ := exists_split_of_masked (by rintro rfl; cases hd)
      (by rintro rfl; cases hd) hmask
    obtain ⟨b', rfl⟩ := exists_letters_of_masked
      (fun e he => hletters e (List.mem_cons_of_mem d he)) ⟨q, hb.symm⟩
    rw [List.flatMap_append, flatMap_masked_map_code, List.append_cancel_left_eq] at hb
    refine ⟨a, b', ?_, ?_, hbefore, by rwa [hb]⟩
    · rw [hmarks, hw]
      rfl
    · rw [hstart, byteLength_flatMap_masked]
  · rintro ⟨a, b, hmarks, ha, hbefore, hafter⟩
    refine ⟨a.flatMap MarkedChar.masked, b.flatMap MarkedChar.masked, ?_, ?_, hbefore, hafter⟩
    · rw [hmarks, List.flatMap_append, List.flatMap_append, flatMap_masked_map_code]
    · rw [← ha, byteLength_flatMap_masked]

/-! ### Neighbours -/

/-- On the mask, the last character is the same, or blank in place of one that is not code. -/
theorem getLast?_flatMap_masked (a : List MarkedChar) :
    (a.flatMap MarkedChar.masked).getLast? = (a.map MarkedChar.char).getLast? ∨
      ∃ d, (a.flatMap MarkedChar.masked).getLast? = some d ∧ (d = '\n' ∨ d = ' ') ∧
        ∃ a' m, a = a' ++ [m] ∧ m.isCode = false := by
  rcases a.eq_nil_or_concat with rfl | ⟨a, m, rfl⟩
  · exact Or.inl rfl
  · rw [List.concat_eq_append, List.flatMap_append, List.map_append, List.flatMap_singleton,
      List.getLast?_append_of_ne_nil _ (masked_ne_nil m)]
    cases hm : m.isCode with
    | true =>
        left
        rw [MarkedChar.masked, if_pos hm]
        simp
    | false =>
        right
        exact ⟨_, List.getLast?_eq_some_getLast (masked_ne_nil m),
          mem_masked_of_not_isCode hm (List.getLast_mem (masked_ne_nil m)), a, m, rfl, hm⟩

/-- On the mask, the first character is the same, or blank in place of one that is not code. -/
theorem head?_flatMap_masked (b : List MarkedChar) :
    (b.flatMap MarkedChar.masked).head? = (b.map MarkedChar.char).head? ∨
      ∃ d, (b.flatMap MarkedChar.masked).head? = some d ∧ (d = '\n' ∨ d = ' ') ∧
        ∃ m b', b = m :: b' ∧ m.isCode = false := by
  cases b with
  | nil => exact Or.inl rfl
  | cons m b =>
      rw [List.flatMap_cons, List.head?_append_of_ne_nil _ (masked_ne_nil m), List.map_cons,
        List.head?_cons]
      cases hm : m.isCode with
      | true =>
          left
          rw [MarkedChar.masked, if_pos hm]
          rfl
      | false =>
          right
          exact ⟨_, List.head?_eq_some_head (masked_ne_nil m),
            mem_masked_of_not_isCode hm (List.head_mem (masked_ne_nil m)), m, b, rfl, hm⟩

/-- Behind a blanked character a keyword may start. -/
theorem admitsBefore_of_blank {d : Char} (h : d = '\n' ∨ d = ' ') :
    admitsBefore (some d) = true := by
  rcases h with rfl | rfl <;> rfl

/-- In front of a blanked character a keyword may end. -/
theorem admitsAfter_of_blank {d : Char} (h : d = '\n' ∨ d = ' ') :
    admitsAfter (some d) = true := by
  rcases h with rfl | rfl <;> rfl

/-- A keyword in the code of a text is a keyword of the mask. -/
theorem mem_tokensIn_mask_of_mem {cs : List Char} {t : PlacedToken} (h : t ∈ codeTokensFrom cs 0) :
    t ∈ tokensIn none 0 (mask cs) := by
  obtain ⟨a, b, hmarks, ha, hbefore, hafter⟩ := mem_codeTokensFrom_zero_iff.mp h
  refine mem_tokensIn_masked_iff.mpr ⟨a, b, hmarks, ha, ?_, ?_⟩
  · rcases getLast?_flatMap_masked a with hsame | ⟨d, hlast, hblank, -⟩
    · rwa [hsame]
    · rw [hlast]
      exact admitsBefore_of_blank hblank
  · rcases head?_flatMap_masked b with hsame | ⟨d, hhead, hblank, -⟩
    · rwa [hsame]
    · rw [hhead]
      exact admitsAfter_of_blank hblank

/-- Byte `i` of a text belongs to a literal. -/
def InLiteral (cs : List Char) (i : Nat) : Prop :=
  ∃ s ∈ spansFrom cs 0, s.Covers i ∧ s.literal = true

/-- A literal stands right before or right after a token. -/
def PlacedToken.TouchesLiteral (cs : List Char) (t : PlacedToken) : Prop :=
  (0 < t.start ∧ InLiteral cs (t.start - 1)) ∨ InLiteral cs t.stop

instance (cs : List Char) (i : Nat) : Decidable (InLiteral cs i) :=
  inferInstanceAs (Decidable (∃ s ∈ spansFrom cs 0, (s.start ≤ i ∧ i < s.stop) ∧ s.literal = true))

instance (cs : List Char) (t : PlacedToken) : Decidable (t.TouchesLiteral cs) :=
  inferInstanceAs (Decidable ((0 < t.start ∧ InLiteral cs (t.start - 1)) ∨ InLiteral cs t.stop))

/-- The bytes of a character that is marked as literal lie in a literal. -/
theorem inLiteral_of_marks {cs : List Char} {a b : List MarkedChar} {m : MarkedChar}
    (h : marks (lexemes cs) = a ++ m :: b) (hm : m.literal = true) {i : Nat}
    (hlo : byteLength (a.map MarkedChar.char) ≤ i)
    (hhi : i < byteLength (a.map MarkedChar.char) + m.char.utf8Size) : InLiteral cs i := by
  obtain ⟨s, hs, hlit, -, hcov⟩ := exists_span_of_marks (o := 0) h
  rw [← spansFrom_zero] at hs
  exact ⟨s, hs, hcov i (by omega) (by omega), hlit.trans hm⟩

/-- A keyword of the mask that is not one in the code of the text has a literal right next to it. -/
theorem touchesLiteral_of_not_mem {cs : List Char} {t : PlacedToken}
    (h : t ∈ tokensIn none 0 (mask cs)) (hnot : t ∉ codeTokensFrom cs 0) : t.TouchesLiteral cs := by
  obtain ⟨a, b, hmarks, ha, hbefore, hafter⟩ := mem_tokensIn_masked_iff.mp h
  have hmarked := marked_lexemes cs
  rw [hmarks] at hmarked
  obtain ⟨d, w, hw⟩ := t.token.exists_word_eq_cons
  have hd : d.isAlpha = true := BlockToken.isAlpha_of_mem_word (t := t.token) (by simp [hw])
  rcases getLast?_flatMap_masked a with hlast | ⟨-, -, -, a', m, rfl, hm⟩
  · rcases head?_flatMap_masked b with hhead | ⟨-, -, -, m, b', rfl, hm⟩
    · rw [hlast] at hbefore
      rw [hhead] at hafter
      exact absurd (mem_codeTokensFrom_zero_iff.mpr ⟨a, b, hmarks, ha, hbefore, hafter⟩) hnot
    · -- what follows the word is not code; after code it starts a comment or a literal
      obtain ⟨_, hword⟩ := Marked.of_append hmarked
      have hfresh : Marked true (m :: b') := by
        rw [hw, List.map_cons, List.cons_append] at hword
        obtain ⟨x, hx, htail⟩ := (hword.tail_of_isCode rfl).exists_letters (w := w)
          (fun e he => BlockToken.isAlpha_of_mem_word (t := t.token) (by simp [hw, he]))
          (by rw [List.map_append, map_char_map_code]; exact List.prefix_append _ _)
        rw [List.append_cancel_left_eq] at hx
        rwa [hx]
      rcases hfresh.hash_or_literal hm with hhash | hlit
      · rw [hlast] at hbefore
        refine absurd (mem_codeTokensFrom_zero_iff.mpr ⟨a, m :: b', hmarks, ha, hbefore, ?_⟩) hnot
        rw [List.map_cons, List.head?_cons, hhash]
        rfl
      · right
        have hstop : byteLength ((a ++ t.token.word.map MarkedChar.code).map MarkedChar.char) =
            t.stop := by
          rw [List.map_append, map_char_map_code, byteLength_append, ha,
            t.token.byteLength_word]
          rfl
        have hpos := m.char.utf8Size_pos
        rw [← List.append_assoc] at hmarks
        exact inLiteral_of_marks hmarks hlit (by omega) (by omega)
  · left
    have hlit : m.literal = true := by
      rw [hw, List.append_assoc] at hmarked
      have hfeed : d ≠ '\n' := by
        rintro rfl
        cases hd
      exact Marked.literal_of_code hmarked hm (MarkedChar.isCode_code d) hfeed
    have hpos := m.char.utf8Size_pos
    rw [List.map_append, byteLength_append, List.map_singleton, byteLength_cons,
      byteLength_nil] at ha
    rw [List.append_assoc] at hmarks
    exact ⟨by omega, inLiteral_of_marks hmarks hlit (by omega) (by omega)⟩

/-- If no keyword of the mask has a literal right next to it, the keywords of the mask are those in
the code of the text. -/
theorem codeTokensFrom_eq_tokensIn_mask {cs : List Char}
    (h : ∀ t ∈ tokensIn none 0 (mask cs), ¬ t.TouchesLiteral cs) :
    codeTokensFrom cs 0 = tokensIn none 0 (mask cs) := by
  refine tokens_eq_of_mem_iff ?_ (pairwise_tokensIn _ _ _) ?_
  · refine (pairwise_codeTokensFrom cs 0).imp ?_
    intro t u hle
    have := t.token.size_pos
    rw [PlacedToken.stop] at hle
    omega
  · intro t
    refine ⟨mem_tokensIn_mask_of_mem, ?_⟩
    intro ht
    by_contra hnot
    exact h t ht (touchesLiteral_of_not_mem ht hnot)

/-! ### The mask read as a text -/

/-- A text in which nothing starts a literal or a comment, unless a `?` does. -/
def Quiet (cs : List Char) : Prop :=
  ∀ a c b, cs = a ++ c :: b → Plain c b

namespace Quiet

variable {c : Char} {cs : List Char}

theorem nil : Quiet [] := by
  intro a c b h
  simp at h

theorem cons (hc : Plain c cs) (h : Quiet cs) : Quiet (c :: cs) := by
  intro a d b hsplit
  cases a with
  | nil =>
      rw [List.nil_append, List.cons.injEq] at hsplit
      obtain ⟨rfl, rfl⟩ := hsplit
      exact hc
  | cons e a =>
      rw [List.cons_append, List.cons.injEq] at hsplit
      exact h a d b hsplit.2

theorem of_append {a : List Char} (h : Quiet (a ++ cs)) : Quiet cs := by
  intro x c b hsplit
  exact h (a ++ x) c b (by rw [hsplit, List.append_assoc])

/-- Spaces and line feeds start nothing, so they may stand in front of a quiet text. -/
theorem blank_append {u : List Char} (hu : ∀ c ∈ u, c = '\n' ∨ c = ' ') (h : Quiet cs) :
    Quiet (u ++ cs) := by
  induction u with
  | nil => exact h
  | cons c u ih =>
      refine cons ?_ (ih fun d hd => hu d (List.mem_cons_of_mem c hd))
      rcases hu c List.mem_cons_self with rfl | rfl
      · exact ⟨rfl, by decide, fun h => absurd h (by decide)⟩
      · exact ⟨rfl, by decide, fun h => absurd h (by decide)⟩

end Quiet

/-- Whether a `~` opens a sigil is decided by the letters after it and the one character after
them. -/
theorem sigilOpening?_append_eq_none_iff {name rest : List Char}
    (hname : ∀ c ∈ name, c.isAlpha = true) (hrest : ∀ d ∈ rest.head?, d.isAlpha = false) :
    sigilOpening? (name ++ rest) = none ↔
      name = [] ∨ ∀ d ∈ rest.head?, Quote.ofChar? d = none ∧ sigilCloser? d = none := by
  have htake : (name ++ rest).takeWhile Char.isAlpha = name := by
    rw [List.takeWhile_append_of_pos hname]
    cases rest with
    | nil => simp
    | cons d rest => rw [List.takeWhile_cons_of_neg (by simp [hrest d rfl]), List.append_nil]
  rw [sigilOpening?, htake, List.drop_left]
  cases name with
  | nil => simp
  | cons c name =>
      cases rest with
      | nil => simp
      | cons d rest =>
          cases hq : Quote.ofChar? d with
          | none => simp [hq]
          | some q =>
              simp only [List.isEmpty_cons, Bool.false_eq_true, if_false, List.head?_cons,
                Option.mem_some_iff, forall_eq', hq, reduceCtorEq, false_and, or_false, iff_false]
              split_ifs <;> simp

namespace Marked

variable {fresh : Bool} {ms : List MarkedChar}

/-- A `~` that opens no sigil in the text opens none on the mask. -/
theorem sigilOpening?_masked (h : Marked true ms)
    (hnone : sigilOpening? (ms.map MarkedChar.char) = none) :
    sigilOpening? (ms.flatMap MarkedChar.masked) = none := by
  have hsplit : (ms.map MarkedChar.char).takeWhile Char.isAlpha ++
      (ms.map MarkedChar.char).dropWhile Char.isAlpha = ms.map MarkedChar.char :=
    List.takeWhile_append_dropWhile
  have hname : ∀ c ∈ (ms.map MarkedChar.char).takeWhile Char.isAlpha, c.isAlpha = true :=
    fun c hc => List.mem_takeWhile_imp hc
  have hnot := List.head?_dropWhile_not Char.isAlpha (ms.map MarkedChar.char)
  generalize (ms.map MarkedChar.char).takeWhile Char.isAlpha = name at hsplit hname
  generalize (ms.map MarkedChar.char).dropWhile Char.isAlpha = rest at hsplit hnot
  obtain ⟨ms', rfl, -⟩ := h.exists_letters hname ⟨rest, hsplit⟩
  rw [List.map_append, map_char_map_code, List.append_cancel_left_eq] at hsplit
  have hrest : ∀ d ∈ (ms'.map MarkedChar.char).head?, d.isAlpha = false := by
    intro d hd
    rw [← hsplit, Option.mem_def] at hd
    rw [hd] at hnot
    exact hnot
  rw [List.map_append, map_char_map_code, sigilOpening?_append_eq_none_iff hname hrest] at hnone
  rw [List.flatMap_append, flatMap_masked_map_code]
  rcases head?_flatMap_masked ms' with hsame | ⟨d, hhead, hblank, -⟩
  · rw [← hsame] at hrest hnone
    exact (sigilOpening?_append_eq_none_iff hname hrest).mpr hnone
  · refine (sigilOpening?_append_eq_none_iff hname ?_).mpr (Or.inr ?_)
    · rw [hhead]
      intro e he
      obtain rfl := Option.some.inj he
      rcases hblank with rfl | rfl <;> rfl
    · rw [hhead]
      intro e he
      obtain rfl := Option.some.inj he
      rcases hblank with rfl | rfl <;> exact ⟨rfl, rfl⟩

/-- The mask of a text is quiet. -/
theorem quiet_masked (h : Marked fresh ms) : Quiet (ms.flatMap MarkedChar.masked) := by
  have hblank : ∀ {m : MarkedChar} {cs : List Char}, m.isCode = false → Quiet cs →
      Quiet (m.masked ++ cs) :=
    fun hm hcs => hcs.blank_append fun c hc => mem_masked_of_not_isCode hm hc
  induction h with
  | nil => exact Quiet.nil
  | code plain tail ih =>
      exact Quiet.cons ⟨plain.quote, plain.hash, fun h => tail.sigilOpening?_masked (plain.sigil h)⟩
        ih
  | hash tail ih => exact hblank rfl ih
  | literal starts tail ih => exact hblank rfl ih
  | feed tail ih => exact Quiet.cons ⟨rfl, by decide, fun h => absurd h (by decide)⟩ ih
  | comment tail ih => exact hblank rfl ih
  | inside tail ih => exact hblank rfl ih

end Marked

/-- In a mask no literal and no comment is left to start. -/
theorem quiet_mask (cs : List Char) : Quiet (mask cs) := by
  rw [mask_eq_flatMap_masked]
  exact (marked_lexemes cs).quiet_masked

/-- A plain character is a unit of code, or the `?` of a character literal. -/
theorem move_of_plain {c : Char} {rest : List Char} (h : Plain c rest) (before : Option Char) :
    LexState.start.move before c rest = ⟨0, false, false, .start⟩ ∨
      c = '?' ∧ LexState.start.move before c rest = ⟨charLiteralBody rest, true, false, .start⟩ := by
  rcases move_start_cases before c rest with ⟨-, hmove⟩ | ⟨hhash, -⟩ | ⟨hstarts, -⟩
  · exact Or.inl hmove
  · exact absurd hhash h.hash
  · by_cases hc : c = '?'
    · subst hc
      by_cases hchar : startsCharLiteral before rest = true
      · right
        refine ⟨rfl, ?_⟩
        simp [LexState.move, LexState.moveInMode, LexState.moveInCode, LexState.start,
          Quote.ofChar?, hchar]
      · left
        simp [LexState.move, LexState.moveInMode, LexState.moveInCode, LexState.start,
          Quote.ofChar?, hchar]
    · left
      have htilde : c = '~' := by
        simp only [startsLiteral, List.contains_eq_mem, List.mem_cons, List.not_mem_nil, or_false,
          decide_eq_true_eq, hc, false_or] at hstarts
        rcases hstarts with rfl | rfl | rfl
        · cases h.quote
        · cases h.quote
        · rfl
      subst htilde
      simp [LexState.move, LexState.moveInMode, LexState.moveInCode, LexState.start,
        Quote.ofChar?, h.sigil rfl]

/-- Where no keyword stands, the tokens are those of the rest. -/
theorem tokensIn_cons_of_not_admits {before : Option Char} {c : Char} {cs : List Char}
    (h : BlockToken.here? before (c :: cs) = none) (offset : Nat) :
    tokensIn before offset (c :: cs) = tokensIn (some c) (offset + c.utf8Size) cs := by
  rw [tokensIn, PlacedToken.here?, h]
  rfl

/-- No keyword starts with a character that is no letter, or after one that admits none. -/
theorem here?_eq_none {before : Option Char} {c : Char} {cs : List Char}
    (h : c.isAlpha = false ∨ admitsBefore before = false) :
    BlockToken.here? before (c :: cs) = none := by
  rw [Option.eq_none_iff_forall_ne_some]
  intro t ht
  obtain ⟨hbefore, q, hq, -⟩ := wordHere_iff.mp (BlockToken.wordHere_of_here? ht)
  rcases h with halpha | hadmits
  · obtain ⟨d, w, hw⟩ := t.exists_word_eq_cons
    rw [hw, List.cons_append, List.cons.injEq] at hq
    have := BlockToken.isAlpha_of_mem_word (t := t) (c := d) (by simp [hw])
    rw [← hq.1, halpha] at this
    cases this
  · rw [hadmits] at hbefore
    cases hbefore

/-- A character literal hides no keyword. -/
theorem tokensIn_charLiteral (before : Option Char) (offset : Nat) (rest : List Char) :
    tokensIn before offset ('?' :: rest) =
      tokensIn ('?' :: rest.take (charLiteralBody rest)).getLast?
        (offset + byteLength ('?' :: rest.take (charLiteralBody rest)))
        (rest.drop (charLiteralBody rest)) := by
  rw [tokensIn_cons_of_not_admits (here?_eq_none (Or.inl rfl))]
  cases rest with
  | nil => simp [charLiteralBody, tokensIn]
  | cons x rest =>
      rw [tokensIn_cons_of_not_admits (here?_eq_none (Or.inr rfl))]
      by_cases hx : x = '\\'
      · subst hx
        cases rest with
        | nil => simp [charLiteralBody, tokensIn]
        | cons y rest =>
            rw [tokensIn_cons_of_not_admits (here?_eq_none (Or.inr rfl))]
            simp [charLiteralBody, Nat.add_assoc]
      · simp [charLiteralBody, hx, Nat.add_assoc]

/-- In a quiet text, the keywords in code are all the keywords. -/
theorem codeTokens_eq_tokensIn (s : LexState) (before : Option Char) (offset : Nat)
    (cs : List Char) (hs : s = .start) (h : Quiet cs) :
    codeTokens before offset cs (lex s before cs) = tokensIn before offset cs := by
  -- the induction follows the units; in a quiet text the reader never leaves its first state
  revert offset
  fun_induction lex s before cs with
  | case1 s before =>
      intro offset
      rfl
  | case2 s before c rest m unit ih =>
      intro offset
      subst hs
      have hplain : Plain c rest := h [] c rest rfl
      have hsplit : unit ++ rest.drop m.extra = c :: rest := by
        rw [List.cons_append, List.take_append_drop]
      have hdrop : (c :: rest).drop unit.length = rest.drop m.extra := by
        rw [← hsplit, List.drop_left]
      rw [codeTokens]
      dsimp only
      rw [hdrop]
      rcases move_of_plain hplain before with hmove | ⟨rfl, hmove⟩
      · have hm : m = ⟨0, false, false, .start⟩ := hmove
        rw [ih (by rw [hm]) (Quiet.of_append (hsplit ▸ h)), tokensIn]
        simp [unit, hm, Lexeme.isCode]
      · have hm : m = ⟨charLiteralBody rest, true, false, .start⟩ := hmove
        rw [ih (by rw [hm]) (Quiet.of_append (hsplit ▸ h)), tokensIn_charLiteral]
        simp [unit, hm, Lexeme.isCode]

/-- On the mask, the search for blocks and the count of the depth see the same keywords. -/
theorem codeTokensFrom_mask (cs : List Char) :
    codeTokensFrom (mask cs) 0 = tokensIn none 0 (mask cs) := by
  have henter : enterAt none 0 (mask cs) = ⟨none, 0, mask cs⟩ := enterAt_append none [] (mask cs)
  rw [codeTokensFrom, henter, Nat.zero_min]
  exact codeTokens_eq_tokensIn .start none 0 (mask cs) rfl (quiet_mask cs)

/-- **A text and its mask have the same keywords, except next to a literal.** Read as a text, the
mask has all the keywords that are spelled on it. Every keyword in the code of the text is one of
them, and any other one of them has a literal right next to it. So the two searches for blocks find
the same ends, within every limit, where no keyword touches a literal. -/
theorem keywords_mask (cs : List Char) :
    codeTokensFrom (mask cs) 0 = tokensIn none 0 (mask cs) ∧
    (∀ t ∈ codeTokensFrom cs 0, t ∈ codeTokensFrom (mask cs) 0) ∧
    (∀ t ∈ codeTokensFrom (mask cs) 0, t ∈ codeTokensFrom cs 0 ∨ t.TouchesLiteral cs) ∧
    ((∀ t ∈ codeTokensFrom (mask cs) 0, ¬ t.TouchesLiteral cs) →
      codeTokensFrom cs 0 = codeTokensFrom (mask cs) 0 ∧
      ∀ limit, blockEndWithin cs 0 limit = blockEndWithin (mask cs) 0 limit) := by
  refine ⟨codeTokensFrom_mask cs, ?_, ?_, ?_⟩
  · intro t ht
    rw [codeTokensFrom_mask]
    exact mem_tokensIn_mask_of_mem ht
  · intro t ht
    rw [codeTokensFrom_mask] at ht
    exact or_iff_not_imp_left.mpr (touchesLiteral_of_not_mem ht)
  · intro h
    rw [codeTokensFrom_mask] at h
    have htokens : codeTokensFrom cs 0 = codeTokensFrom (mask cs) 0 := by
      rw [codeTokensFrom_mask, codeTokensFrom_eq_tokensIn_mask h]
    refine ⟨htokens, ?_⟩
    intro limit
    rw [blockEndWithin, blockEndWithin, htokens]

/-- A literal reads `end`, a comment reads `do`, and a parenthesis stands between a keyword and a
literal. -/
theorem keywords_mask_apart :
    let cs := "f do g(\"end\", fn -> ?d end) end# do".toList
    ∀ limit, blockEndWithin cs 0 limit = blockEndWithin (mask cs) 0 limit := by
  intro cs
  exact ((keywords_mask cs).2.2.2 (by decide +kernel)).2

/-- A `do` right after a literal opens a block on the mask and none in the text. -/
theorem blockEndWithin_mask_after_literal :
    let cs := "\"a\"do end".toList
    blockEndWithin cs 0 9 = none ∧ blockEndWithin (mask cs) 0 9 = some 9 := by
  decide +kernel

end DslOutline
