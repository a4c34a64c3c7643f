import DslOutline.Proofs.Block.Tokens

/-!
# The block that a search ends

`blockEndWithin` runs two counters over the tokens of a search. This module says what it finds
without them, by balance alone. The block that is sought starts at the first `do` that nothing in
front of it encloses (`Leading`), and it ends with the first `end` at which as many blocks have
closed as have opened since that `do` (`Closing`, `IsFirstBlock`). The two counters are the two
sides of these conditions: `skipping` on the tokens in front of the block, and the surplus of
openers over closers inside it.
-/

namespace DslOutline

open Text

/-! ### Counting tokens -/

/-- The number of tokens that open something: `do` and `fn`. -/
def openers (ts : List PlacedToken) : Nat :=
  ts.countP fun t => t.token != .close

/-- The number of `end` tokens. -/
def closers (ts : List PlacedToken) : Nat :=
  ts.countP fun t => t.token == .close

@[simp] theorem openers_nil : openers [] = 0 := rfl

@[simp] theorem closers_nil : closers [] = 0 := rfl

/-- A close opens nothing. -/
theorem openers_cons_of_close {t : PlacedToken} (ht : t.token = .close) (ts : List PlacedToken) :
    openers (t :: ts) = openers ts := by
  simp [openers, ht]

theorem closers_cons_of_close {t : PlacedToken} (ht : t.token = .close) (ts : List PlacedToken) :
    closers (t :: ts) = closers ts + 1 := by
  simp [closers, ht]

/-- A `do` or `fn` is counted among the openers. -/
theorem openers_cons_of_open {t : PlacedToken} (ht : t.token ≠ .close) (ts : List PlacedToken) :
    openers (t :: ts) = openers ts + 1 := by
  simp [openers, ht]

theorem closers_cons_of_open {t : PlacedToken} (ht : t.token ≠ .close) (ts : List PlacedToken) :
    closers (t :: ts) = closers ts := by
  simp [closers, ht]

theorem openers_concat_of_close {t : PlacedToken} (ht : t.token = .close) (ts : List PlacedToken) :
    openers (ts ++ [t]) = openers ts := by
  simp [openers, ht]

theorem closers_concat_of_close {t : PlacedToken} (ht : t.token = .close) (ts : List PlacedToken) :
    closers (ts ++ [t]) = closers ts + 1 := by
  simp [closers, ht]

/-- What is open in front of the block that is sought, after one more token: `fn` opens something,
`do` does so only inside something open, and `end` closes the last of it. -/
def skipToken (k : Nat) (t : PlacedToken) : Nat :=
  match t.token with
  | .fnBlock => k + 1
  | .doBlock => if k = 0 then 0 else k + 1
  | .close => k - 1

/-- What is open after some tokens in front of the block that is sought. -/
def skipping (k : Nat) (ts : List PlacedToken) : Nat :=
  ts.foldl skipToken k

/-! ### The end of an open block -/

/-- After `body`, the token `c` closes the last of `depth` open blocks, and none earlier does. -/
structure Closing (depth : Nat) (body : List PlacedToken) (c : PlacedToken) : Prop where
  closes : c.token = .close
  balanced : closers body + 1 = depth + openers body
  inside : ∀ run, run <+: body → closers run < depth + openers run

namespace Closing

variable {depth : Nat} {t c : PlacedToken} {body : List PlacedToken}

/-- With nothing in between, a close ends the block if this is the only one open. -/
theorem nil_iff : Closing depth [] c ↔ c.token = .close ∧ depth = 1 := by
  constructor
  · intro h
    have := h.balanced
    simp only [closers_nil, openers_nil] at this
    exact ⟨h.closes, by omega⟩
  · rintro ⟨hc, rfl⟩
    refine ⟨hc, rfl, ?_⟩
    intro run hrun
    rw [List.prefix_nil.mp hrun]
    exact Nat.one_pos

/-- A token that opens something adds to the depth of what follows. -/
theorem cons_open_iff (ht : t.token ≠ .close) (hd : 0 < depth) :
    Closing depth (t :: body) c ↔ Closing (depth + 1) body c := by
  constructor
  · rintro ⟨hc, hbal, hin⟩
    rw [closers_cons_of_open ht, openers_cons_of_open ht] at hbal
    refine ⟨hc, by omega, ?_⟩
    intro run hrun
    have := hin (t :: run) (List.cons_prefix_cons.mpr ⟨rfl, hrun⟩)
    rw [closers_cons_of_open ht, openers_cons_of_open ht] at this
    omega
  · rintro ⟨hc, hbal, hin⟩
    refine ⟨hc, by rw [closers_cons_of_open ht, openers_cons_of_open ht]; omega, ?_⟩
    intro run hrun
    rcases List.prefix_cons_iff.mp hrun with rfl | ⟨tail, rfl, htail⟩
    · simpa using hd
    · have := hin tail htail
      rw [closers_cons_of_open ht, openers_cons_of_open ht]
      omega

/-- A token that closes something inside takes from the depth of what follows. -/
theorem cons_close_iff (ht : t.token = .close) (hd : 0 < depth) :
    Closing depth (t :: body) c ↔ 1 < depth ∧ Closing (depth - 1) body c := by
  constructor
  · rintro ⟨hc, hbal, hin⟩
    rw [closers_cons_of_close ht, openers_cons_of_close ht] at hbal
    have hone := hin [t] (List.cons_prefix_cons.mpr ⟨rfl, List.nil_prefix⟩)
    rw [closers_cons_of_close ht, openers_cons_of_close ht, closers_nil, openers_nil] at hone
    refine ⟨by omega, hc, by omega, ?_⟩
    intro run hrun
    have := hin (t :: run) (List.cons_prefix_cons.mpr ⟨rfl, hrun⟩)
    rw [closers_cons_of_close ht, openers_cons_of_close ht] at this
    omega
  · rintro ⟨hdepth, hc, hbal, hin⟩
    refine ⟨hc, by rw [closers_cons_of_close ht, openers_cons_of_close ht]; omega, ?_⟩
    intro run hrun
    rcases List.prefix_cons_iff.mp hrun with rfl | ⟨tail, rfl, htail⟩
    · simpa using hd
    · have := hin tail htail
      rw [closers_cons_of_close ht, openers_cons_of_close ht]
      omega

end Closing

/-- A token of a sequence is its first one or a later one. -/
theorem exists_append_cons_iff {t : PlacedToken} {ts : List PlacedToken}
    {P : List PlacedToken → PlacedToken → List PlacedToken → Prop} :
    (∃ before u after, t :: ts = before ++ u :: after ∧ P before u after) ↔
      P [] t ts ∨ ∃ before u after, ts = before ++ u :: after ∧ P (t :: before) u after := by
  constructor
  · rintro ⟨before, u, after, hts, hP⟩
    cases before with
    | nil =>
        rw [List.nil_append, List.cons.injEq] at hts
        obtain ⟨rfl, rfl⟩ := hts
        exact Or.inl hP
    | cons v before =>
        rw [List.cons_append, List.cons.injEq] at hts
        obtain ⟨rfl, rfl⟩ := hts
        exact Or.inr ⟨before, u, after, rfl, hP⟩
  · rintro (hP | ⟨before, u, after, rfl, hP⟩)
    · exact ⟨[], t, ts, rfl, hP⟩
    · exact ⟨t :: before, u, after, rfl, hP⟩

/-- The counter of `closeOf` finds the `end` that balances. -/
theorem closeOf_eq_some_iff {depth : Nat} (hd : 0 < depth) (ts : List PlacedToken) (e : Nat) :
    closeOf depth ts = some e ↔
      ∃ body c after, ts = body ++ c :: after ∧ Closing depth body c ∧ e = c.stop := by
  induction ts generalizing depth with
  | nil => simp [closeOf]
  | cons t ts ih =>
      -- the closing token is the first one, or it comes after it
      rw [exists_append_cons_iff (P := fun body c _ => Closing depth body c ∧ e = c.stop),
        Closing.nil_iff]
      by_cases ht : t.token = .close
      · simp only [closeOf, ht, Closing.cons_close_iff ht hd, true_and]
        by_cases hone : depth ≤ 1
        · have hdepth : depth = 1 := by omega
          subst hdepth
          simp [eq_comm]
        · have hdepth : depth ≠ 1 := by omega
          rw [if_neg hone, ih (by omega)]
          simp [hdepth, Nat.lt_of_not_le hone]
      · have hopen : closeOf depth (t :: ts) = closeOf (depth + 1) ts := by
          rw [closeOf]
          cases htoken : t.token with
          | close => exact absurd htoken ht
          | doBlock => rfl
          | fnBlock => rfl
        rw [hopen, ih (by omega)]
        simp [ht, Closing.cons_open_iff ht hd]

/-! ### The start of the block -/

/-- The tokens of `before`, read with `k` blocks open, leave none open, and each `do` among them
stands inside an open one. -/
structure Leading (k : Nat) (before : List PlacedToken) : Prop where
  level : skipping k before = 0
  first : ∀ pre t post, before = pre ++ t :: post → t.token = .doBlock → 0 < skipping k pre

namespace Leading

variable {k : Nat} {t : PlacedToken} {before : List PlacedToken}

/-- Without tokens nothing is left open exactly if nothing was open. -/
theorem nil_iff : Leading k [] ↔ k = 0 := by
  constructor
  · intro h
    exact h.level
  · rintro rfl
    refine ⟨rfl, ?_⟩
    intro pre t post hnil
    simp at hnil

/-- A first token is no `do` at the outermost level, and the others lead on from the depth behind
it. -/
theorem cons_iff :
    Leading k (t :: before) ↔ (t.token = .doBlock → 0 < k) ∧ Leading (skipToken k t) before := by
  constructor
  · rintro ⟨hlevel, hfirst⟩
    refine ⟨hfirst [] t before rfl, hlevel, ?_⟩
    intro pre u post hbefore
    exact hfirst (t :: pre) u post (by rw [hbefore, List.cons_append])
  · rintro ⟨ht, hlevel, hfirst⟩
    refine ⟨hlevel, ?_⟩
    intro pre u post hbefore hu
    cases pre with
    | nil =>
        rw [List.nil_append, List.cons.injEq] at hbefore
        exact ht (hbefore.1 ▸ hu)
    | cons v pre =>
        rw [List.cons_append, List.cons.injEq] at hbefore
        obtain ⟨rfl, hbefore⟩ := hbefore
        exact hfirst pre u post hbefore hu

end Leading

/-- The counter of `endOfFirstBlock` finds the first `do` at its own level. -/
theorem endOfFirstBlock_eq_some_iff (k : Nat) (ts : List PlacedToken) (e : Nat) :
    endOfFirstBlock k ts = some e ↔
      ∃ before o rest, ts = before ++ o :: rest ∧ Leading k before ∧ o.token = .doBlock ∧
        closeOf 1 rest = some e := by
  induction ts generalizing k with
  | nil => simp [endOfFirstBlock]
  | cons t ts ih =>
      -- the block opens with the first token, or after it
      rw [exists_append_cons_iff (P := fun before o rest => Leading k before ∧
        o.token = .doBlock ∧ closeOf 1 rest = some e)]
      simp only [Leading.nil_iff, Leading.cons_iff, and_assoc]
      cases htoken : t.token with
      | doBlock =>
          by_cases hk : k = 0
          · simp [endOfFirstBlock, htoken, hk]
          · simp [endOfFirstBlock, skipToken, htoken, hk, Nat.pos_of_ne_zero hk, ih]
      | fnBlock => simp [endOfFirstBlock, skipToken, htoken, ih]
      | close => simp [endOfFirstBlock, skipToken, htoken, ih]

/-! ### The block that is found -/

/-- In the token sequence `before ++ o :: (body ++ c :: after)`, the block from `o` to `c` is the
first one at its own level: `o` is the first `do` that no `fn` in front of it encloses, and `c` is
the first `end` at which as many blocks have closed as have opened from `o` on. -/
structure IsFirstBlock (before : List PlacedToken) (o : PlacedToken) (body : List PlacedToken)
    (c : PlacedToken) : Prop where
  opens : o.token = .doBlock
  level : skipping 0 before = 0
  first : ∀ pre t post, before = pre ++ t :: post → t.token = .doBlock → 0 < skipping 0 pre
  closes : c.token = .close
  balanced : closers (o :: (body ++ [c])) = openers (o :: (body ++ [c]))
  inside : ∀ run, run <+: o :: body → run ≠ [] → closers run < openers run

/-- A block that opens with `o` is closed by what closes one open block after it. -/
theorem isFirstBlock_iff {before body : List PlacedToken} {o c : PlacedToken} :
    IsFirstBlock before o body c ↔
      Leading 0 before ∧ o.token = .doBlock ∧ Closing 1 body c := by
  constructor
  · rintro ⟨hopens, hlevel, hfirst, hcloses, hbal, hin⟩
    have ho : o.token ≠ .close := by simp [hopens]
    refine ⟨⟨hlevel, hfirst⟩, hopens, hcloses, ?_, ?_⟩
    · rw [closers_cons_of_open ho, openers_cons_of_open ho, closers_concat_of_close hcloses,
        openers_concat_of_close hcloses] at hbal
      omega
    · intro run hrun
      have := hin (o :: run) (List.cons_prefix_cons.mpr ⟨rfl, hrun⟩) (List.cons_ne_nil _ _)
      rw [closers_cons_of_open ho, openers_cons_of_open ho] at this
      omega
  · rintro ⟨⟨hlevel, hfirst⟩, hopens, hcloses, hbal, hin⟩
    have ho : o.token ≠ .close := by simp [hopens]
    refine ⟨hopens, hlevel, hfirst, hcloses, ?_, ?_⟩
    · rw [closers_cons_of_open ho, openers_cons_of_open ho, closers_concat_of_close hcloses,
        openers_concat_of_close hcloses]
      omega
    · intro run hrun hne
      rcases List.prefix_cons_iff.mp hrun with rfl | ⟨tail, rfl, htail⟩
      · exact absurd rfl hne
      · have := hin tail htail
        rw [closers_cons_of_open ho, openers_cons_of_open ho]
        omega

/-- The block tokens at the code spans of a text from `start` on that end within the text and not
past `limit`. -/
def blockTokensWithin (cs : List Char) (start limit : Nat) : List PlacedToken :=
  ((spansFrom cs start).filterMap (Span.token? cs)).filter fun t =>
    t.stop ≤ min limit (byteLength cs)

/-- The search for the end of a block, written with a filter in place of the cut at the limit. -/
theorem blockEndWithin_eq (cs : List Char) (start limit : Nat) :
    blockEndWithin cs start limit = endOfFirstBlock 0 (blockTokensWithin cs start limit) := by
  rw [blockEndWithin, takeWhile_stop_le, blockTokensWithin, codeTokensFrom_eq]

/-- The end that a search finds is the end of one of its tokens, within the limit. -/
theorem exists_of_blockEndWithin {cs : List Char} {start limit e : Nat}
    (h : blockEndWithin cs start limit = some e) :
    ∃ c ∈ codeTokensFrom cs start, c.token = .close ∧ c.stop = e ∧
      e ≤ min limit (byteLength cs) := by
  rw [blockEndWithin_eq, endOfFirstBlock_eq_some_iff] at h
  obtain ⟨before, o, rest, hts, -, -, hclose⟩ := h
  obtain ⟨body, c, after, rfl, hclosing, rfl⟩ := (closeOf_eq_some_iff Nat.one_pos _ _).mp hclose
  have hmem : c ∈ blockTokensWithin cs start limit := by simp [hts]
  rw [blockTokensWithin, ← codeTokensFrom_eq, List.mem_filter] at hmem
  exact ⟨c, hmem.1, hclosing.closes, rfl, of_decide_eq_true hmem.2⟩

/-- A search ends just past the word `end`, after its start and within its limit. -/
theorem exists_end_of_blockEndWithin {cs : List Char} {start limit e : Nat}
    (h : blockEndWithin cs start limit = some e) :
    ∃ p q, cs = (p ++ ['e', 'n', 'd']) ++ q ∧ byteLength (p ++ ['e', 'n', 'd']) = e ∧
      start ≤ byteLength p ∧ e ≤ limit := by
  obtain ⟨c, hmem, hclose, rfl, hle⟩ := exists_of_blockEndWithin h
  obtain ⟨p, q, hcs, hp, hstart⟩ := exists_of_mem_codeTokensFrom hmem
  have hsize := c.token.byteLength_word
  rw [hclose] at hcs hsize
  refine ⟨p, q, by rw [hcs, List.append_assoc]; rfl, ?_, by omega, by omega⟩
  rw [byteLength_append, hp, PlacedToken.stop, hclose, ← hsize]
  rfl

/-- **A search finds exactly the end of the first block at its own level.** With the tokens that
end within the limit, it succeeds if and only if they contain such a block, and its answer is the
offset just past the block's `end`; that offset lies after the start of the search and within the
limit. -/
theorem blockEndWithin_eq_some_iff (cs : List Char) (start limit e : Nat) :
    (blockEndWithin cs start limit = some e ↔
      ∃ before o body c after,
        blockTokensWithin cs start limit = before ++ o :: (body ++ c :: after) ∧
          IsFirstBlock before o body c ∧ e = c.stop) ∧
    (blockEndWithin cs start limit = some e → start < e ∧ e ≤ min limit (byteLength cs)) := by
  constructor
  · rw [blockEndWithin_eq, endOfFirstBlock_eq_some_iff]
    constructor
    · rintro ⟨before, o, rest, hts, hlead, ho, hclose⟩
      obtain ⟨body, c, after, rfl, hclosing, he⟩ := (closeOf_eq_some_iff Nat.one_pos _ _).mp hclose
      exact ⟨before, o, body, c, after, hts, isFirstBlock_iff.mpr ⟨hlead, ho, hclosing⟩, he⟩
    · rintro ⟨before, o, body, c, after, hts, hblock, he⟩
      obtain ⟨hlead, ho, hclosing⟩ := isFirstBlock_iff.mp hblock
      exact ⟨before, o, body ++ c :: after, hts, hlead, ho,
        (closeOf_eq_some_iff Nat.one_pos _ _).mpr ⟨body, c, after, rfl, hclosing, he⟩⟩
  · intro h
    obtain ⟨c, hmem, hclose, rfl, hle⟩ := exists_of_blockEndWithin h
    obtain ⟨-, -, -, -, hstart⟩ := exists_of_mem_codeTokensFrom hmem
    refine ⟨?_, hle⟩
    have hsize : c.token.size = 3 := by
      rw [hclose]
      rfl
    rw [PlacedToken.stop]
    omega

end DslOutline
