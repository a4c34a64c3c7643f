import DslOutline.Block.Ending
import DslOutline.Proofs.Lexeme.Spans

/-!
# Where block tokens stand

`blockTokenAt?` is the block keyword at an offset of a text, whatever the text in front of it is.
The tokens that a search reads are those at the code spans from its start on
(`codeTokensFrom_eq`). Each of them is spelled at its offset, as a whole word
(`exists_of_mem_codeTokensFrom`), so no token reaches into the next one (`pairwise_codeTokensFrom`)
and a bound on where tokens stop cuts the sequence off instead of thinning it out
(`takeWhile_stop_le`).
-/

namespace DslOutline

open Text

/-- The block keyword at an offset; there is none inside a character. -/
def blockTokenAt? (cs : List Char) (offset : Nat) : Option BlockToken :=
  if (enterAt none offset cs).stray = 0 then
    BlockToken.here? (enterAt none offset cs).before (enterAt none offset cs).rest
  else none

/-! ### Whole words -/

/-- A whole word is spelled where it stands, between characters that may stand next to it. -/
theorem wordHere_iff {word cs : List Char} {before : Option Char} :
    wordHere word before cs = true ↔
      admitsBefore before = true ∧ ∃ rest, cs = word ++ rest ∧ admitsAfter rest.head? = true := by
  unfold wordHere
  rw [Bool.and_eq_true]
  refine and_congr_right fun _ => ?_
  constructor
  · intro h
    split at h
    · rename_i rest hrest
      rw [List.isPrefixOf?_eq_some_iff_append_eq] at hrest
      exact ⟨rest, hrest.symm, h⟩
    · cases h
  · rintro ⟨rest, hrest, h⟩
    rw [List.isPrefixOf?_eq_some_iff_append_eq.mpr hrest.symm]
    exact h

namespace BlockToken

/-- A keyword that is seen stands there as a whole word. -/
theorem wordHere_of_here? {before : Option Char} {cs : List Char} {t : BlockToken}
    (h : here? before cs = some t) : wordHere t.word before cs = true := by
  unfold here? at h
  split_ifs at h with hdo hfn hend
  · cases h
    exact hdo
  · cases h
    exact hfn
  · cases h
    exact hend

theorem byteLength_word (t : BlockToken) : byteLength t.word = t.size := by
  cases t <;> rfl

theorem size_pos (t : BlockToken) : 0 < t.size := by
  cases t <;> decide

/-- A keyword that is spelled in a text ends inside it. -/
theorem add_size_le {t : BlockToken} {cs p q : List Char} (h : cs = p ++ (t.word ++ q)) :
    byteLength p + t.size ≤ byteLength cs := by
  rw [h, byteLength_append, byteLength_append, t.byteLength_word]
  omega

/-- No keyword may start right after a letter of a keyword. -/
theorem admitsBefore_eq_false {t : BlockToken} {c : Char} (h : c ∈ t.word) :
    admitsBefore (some c) = false := by
  cases t <;> simp only [word, List.mem_cons, List.not_mem_nil, or_false] at h
  · rcases h with rfl | rfl <;> decide
  · rcases h with rfl | rfl <;> decide
  · rcases h with rfl | rfl | rfl <;> decide

end BlockToken

/-- The keyword at an offset is spelled there, as a whole word. -/
theorem exists_of_blockTokenAt? {cs : List Char} {offset : Nat} {t : BlockToken}
    (h : blockTokenAt? cs offset = some t) :
    ∃ p q, cs = p ++ (t.word ++ q) ∧ byteLength p = offset ∧ admitsBefore p.getLast? = true ∧
      admitsAfter q.head? = true := by
  unfold blockTokenAt? at h
  split_ifs at h with hstray
  obtain ⟨p, hcs, hbefore, hlen⟩ := enterAt_spec none offset cs
  obtain ⟨hadm, q, hrest, hafter⟩ := wordHere_iff.mp (BlockToken.wordHere_of_here? h)
  rw [hrest] at hcs
  rw [hbefore, Option.or_none] at hadm
  refine ⟨p, q, hcs, ?_, hadm, hafter⟩
  have hpos := t.size_pos
  have hend := BlockToken.add_size_le hcs
  omega

/-! ### The tokens of a search -/

/-- The block token at the start of a span of code. -/
def Span.token? (cs : List Char) (s : Span) : Option PlacedToken :=
  if s.isCode then (blockTokenAt? cs s.start).map (⟨s.start, ·⟩) else none

/-- The token at a span starts where the span does. -/
theorem Span.blockTokenAt?_of_token? {cs : List Char} {s : Span} {t : PlacedToken}
    (h : s.token? cs = some t) : t.start = s.start ∧ blockTokenAt? cs t.start = some t.token := by
  unfold Span.token? at h
  split_ifs at h
  obtain ⟨token, htoken, rfl⟩ := Option.map_eq_some_iff.mp h
  exact ⟨rfl, htoken⟩

/-- At the length of a prefix, the token is read off what follows. -/
theorem blockTokenAt?_append (p q : List Char) :
    blockTokenAt? (p ++ q) (byteLength p) = BlockToken.here? p.getLast? q := by
  rw [blockTokenAt?, enterAt_append, Option.or_none, if_pos rfl]

/-- The left-over bytes of a cut character hold no token. -/
theorem filterMap_token?_straySpans (cs : List Char) (start : Nat) :
    (straySpans (min start (byteLength cs)) (enterAt none start cs).stray).filterMap
      (Span.token? cs) = [] := by
  rw [List.filterMap_eq_nil_iff]
  intro s hs
  obtain ⟨k, hk, hstart, -⟩ := mem_straySpans hs
  obtain ⟨p, hcs, -, hlen⟩ := enterAt_spec none start cs
  have htotal : byteLength p ≤ byteLength cs := byteLength_le_of_prefix ⟨_, hcs.symm⟩
  have hmin : min start (byteLength cs) = start := by omega
  have hstray := enterAt_stray_add hk
  rw [hmin] at hstart
  have hnone : blockTokenAt? cs s.start = none := by
    rw [blockTokenAt?, hstart, hstray, if_neg (by omega)]
  rw [Span.token?, hnone, Option.map_none, ite_self]

/-- The tokens at consecutive lexemes are those at their spans. -/
theorem codeTokens_eq (p rest : List Char) (ls : List Lexeme) (hls : ∀ l ∈ ls, l.text ≠ [])
    (hrest : ls.flatMap Lexeme.text = rest) :
    codeTokens p.getLast? (byteLength p) rest ls =
      (spansOf (byteLength p) ls).filterMap (Span.token? (p ++ rest)) := by
  induction ls generalizing p rest with
  | nil => rfl
  | cons l ls ih =>
      rw [List.flatMap_cons] at hrest
      have hlast : (p ++ l.text).getLast? = l.text.getLast? :=
        List.getLast?_append_of_ne_nil p (hls l List.mem_cons_self)
      have htail := ih (p ++ l.text) (ls.flatMap Lexeme.text)
        (fun k hk => hls k (List.mem_cons_of_mem l hk)) rfl
      rw [hlast, byteLength_append, List.append_assoc, hrest] at htail
      have hdrop : rest.drop l.text.length = ls.flatMap Lexeme.text := by
        rw [← hrest, List.drop_left]
      rw [codeTokens, hdrop, htail, spansOf, List.filterMap_cons]
      have hhead : Span.token? (p ++ rest)
          ⟨byteLength p, byteLength p + byteLength l.text, l.literal, l.comment, l.after.isOpen⟩ =
          if l.isCode then PlacedToken.here? p.getLast? (byteLength p) rest else none := by
        rw [Span.token?, blockTokenAt?_append]
        rfl
      rw [hhead]
      cases l.isCode with
      | false => rfl
      | true => cases PlacedToken.here? p.getLast? (byteLength p) rest <;> rfl

/-- The tokens of a search are those at the code spans from its start on. -/
theorem codeTokensFrom_eq (cs : List Char) (start : Nat) :
    codeTokensFrom cs start = (spansFrom cs start).filterMap (Span.token? cs) := by
  obtain ⟨p, hcs, hbefore, hlen⟩ := enterAt_spec none start cs
  rw [Option.or_none] at hbefore
  have htokens := codeTokens_eq p (enterAt none start cs).rest
    (lex .start (enterAt none start cs).before (enterAt none start cs).rest)
    (fun l hl => text_ne_nil_of_mem_lex hl) (flatMap_text_lex _ _ _)
  rw [← hcs, ← hbefore, hlen] at htokens
  unfold codeTokensFrom spansFrom
  rw [List.filterMap_append, filterMap_token?_straySpans, List.nil_append, htokens]

/-- A token of a search is spelled at its offset, as a whole word, after the start of the search. -/
theorem codeTokensFrom_append (p q : List Char) :
    codeTokensFrom (p ++ q) (byteLength p) =
      codeTokens p.getLast? (byteLength p) q (lex .start p.getLast? q) := by
  have hmin : min (byteLength p) (byteLength (p ++ q)) = byteLength p := by
    rw [byteLength_append]
    omega
  simp only [codeTokensFrom, enterAt_append, Option.or_none, hmin, Nat.add_zero]

/-- A keyword in the code of a text is spelled out at its offset, which is not before the start. -/
theorem exists_of_mem_codeTokensFrom {cs : List Char} {start : Nat} {t : PlacedToken}
    (h : t ∈ codeTokensFrom cs start) :
    ∃ p q, cs = p ++ (t.token.word ++ q) ∧ byteLength p = t.start ∧ start ≤ t.start := by
  rw [codeTokensFrom_eq] at h
  obtain ⟨s, hs, hst⟩ := List.mem_filterMap.mp h
  obtain ⟨hstart, htoken⟩ := Span.blockTokenAt?_of_token? hst
  obtain ⟨p, q, hcs, hlen, -, -⟩ := exists_of_blockTokenAt? htoken
  refine ⟨p, q, hcs, hlen, ?_⟩
  have hle := le_start_of_mem_spansFrom hs
  have hpos := t.token.size_pos
  have hend := BlockToken.add_size_le hcs
  omega

/-- A token ends inside the text. -/
theorem stop_le_of_mem_codeTokensFrom {cs : List Char} {start : Nat} {t : PlacedToken}
    (h : t ∈ codeTokensFrom cs start) : t.stop ≤ byteLength cs := by
  obtain ⟨p, q, hcs, hlen, -⟩ := exists_of_mem_codeTokensFrom h
  have hend := BlockToken.add_size_le hcs
  rw [PlacedToken.stop]
  omega

/-! ### Tokens do not overlap -/

/-- A token ends before the next one starts: no keyword may follow a letter of another one. -/
theorem stop_le_of_blockTokenAt? {cs : List Char} {t u : PlacedToken}
    (ht : blockTokenAt? cs t.start = some t.token) (hu : blockTokenAt? cs u.start = some u.token)
    (hlt : t.start < u.start) : t.stop ≤ u.start := by
  obtain ⟨p, q, hcs, hp, -, -⟩ := exists_of_blockTokenAt? ht
  obtain ⟨p', q', hcs', hp', hadm, -⟩ := exists_of_blockTokenAt? hu
  by_contra hover
  have hlen : byteLength (p ++ t.token.word) = t.stop := by
    rw [byteLength_append, hp, t.token.byteLength_word, PlacedToken.stop]
  have hword : p ++ t.token.word <+: cs := ⟨q, by rw [List.append_assoc, hcs]⟩
  have hbefore : p' <+: cs := ⟨_, hcs'.symm⟩
  -- the text in front of `u` is the text in front of `t` and some letters of `t`
  obtain ⟨x, rfl⟩ := prefix_of_byteLength_le ⟨_, hcs.symm⟩ hbefore (by omega)
  have hx : x <+: t.token.word := by
    have := prefix_of_byteLength_le hbefore hword (by omega)
    rwa [List.prefix_append_right_inj] at this
  have hne : x ≠ [] := by
    rintro rfl
    rw [List.append_nil] at hp'
    omega
  rw [List.getLast?_append_of_ne_nil p hne, List.getLast?_eq_some_getLast hne,
    BlockToken.admitsBefore_eq_false (hx.subset (List.getLast_mem hne))] at hadm
  cases hadm

/-- The tokens of a search stand in order and do not overlap. -/
theorem pairwise_codeTokensFrom (cs : List Char) (start : Nat) :
    (codeTokensFrom cs start).Pairwise fun t u => t.stop ≤ u.start := by
  rw [codeTokensFrom_eq, List.pairwise_filterMap]
  refine (pairwise_spansFrom cs start).imp_of_mem ?_
  intro s s' hs _ hle t ht u hu
  obtain ⟨hts, htoken⟩ := Span.blockTokenAt?_of_token? ht
  obtain ⟨hus, utoken⟩ := Span.blockTokenAt?_of_token? hu
  have hlt := start_lt_stop_of_mem_spansFrom hs
  exact stop_le_of_blockTokenAt? htoken utoken (by omega)

/-- A test that fails for good once it fails cuts a list off. -/
theorem takeWhile_eq_filter {α : Type} {p : α → Bool} {l : List α}
    (h : l.Pairwise fun a b => p b = true → p a = true) : l.takeWhile p = l.filter p := by
  induction l with
  | nil => rfl
  | cons a l ih =>
      rw [List.pairwise_cons] at h
      by_cases ha : p a = true
      · rw [List.takeWhile_cons_of_pos ha, List.filter_cons_of_pos ha, ih h.2]
      · rw [List.takeWhile_cons_of_neg ha, List.filter_cons_of_neg ha, eq_comm,
          List.filter_eq_nil_iff]
        intro b hb hpb
        exact ha (h.1 b hb hpb)

/-- A limit on where tokens stop cuts off the tokens of a search. -/
theorem takeWhile_stop_le (cs : List Char) (start limit : Nat) :
    (codeTokensFrom cs start).takeWhile (fun t => t.stop ≤ limit) =
      (codeTokensFrom cs start).filter fun t => t.stop ≤ min limit (byteLength cs) := by
  have hsorted : (codeTokensFrom cs start).Pairwise
      fun t u => decide (u.stop ≤ limit) = true → decide (t.stop ≤ limit) = true := by
    refine (pairwise_codeTokensFrom cs start).imp ?_
    intro t u hle hu
    have hstart : u.start ≤ u.stop := Nat.le_add_right _ _
    simp only [decide_eq_true_eq] at hu ⊢
    omega
  rw [takeWhile_eq_filter hsorted]
  refine List.filter_congr ?_
  intro t ht
  have hstop := stop_le_of_mem_codeTokensFrom ht
  simp only [decide_eq_decide]
  omega

end DslOutline
