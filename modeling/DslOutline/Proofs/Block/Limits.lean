import DslOutline.Proofs.Block.Depth

/-!
# The limit of a search

A search for the end of a block can be run in one pass over the spans of the text (`searchSpans`).
It keeps two counters and has two ways to give up at its limit: in front of a span that starts
there, and at a keyword that reaches past it. Whether a word is a keyword is still read off the text
behind the limit, and so is what is code.

What one keyword does is said once (`Counters.endOf_cons`). It follows that the pass finds what the
search on the sequence of keywords finds (`searchSpans_eq`), and that keywords behind a limit can
only take an answer away that lies behind it (`Counters.endOf_takeWhile`). The main statement is
`limit_only_filters`.
-/

namespace DslOutline

open Text

/-! ### One keyword -/

/-- What a search has counted so far. -/
structure Counters where
  /-- What is open in front of the block that is sought. -/
  pending : Nat
  /-- The block and what is open inside it, or 0 if it has not been opened yet. -/
  depth : Nat
deriving Repr, DecidableEq

namespace Counters

/-- Reads a keyword: the end of the block if the keyword closes it, or the counters after it. -/
def read (k : Counters) (t : PlacedToken) : Nat ⊕ Counters :=
  match t.token with
  | .doBlock =>
    if 0 < k.depth then .inr ⟨k.pending, k.depth + 1⟩
    else if k.pending = 0 then .inr ⟨0, 1⟩
    else .inr ⟨k.pending + 1, 0⟩
  | .fnBlock =>
    if 0 < k.depth then .inr ⟨k.pending, k.depth + 1⟩ else .inr ⟨k.pending + 1, 0⟩
  | .close =>
    if 0 < k.depth then
      if k.depth = 1 then .inl t.stop else .inr ⟨k.pending, k.depth - 1⟩
    else .inr ⟨k.pending - 1, 0⟩

/-- The end of the block in a sequence of keywords that is read with these counters. -/
def endOf (k : Counters) (ts : List PlacedToken) : Option Nat :=
  if 0 < k.depth then closeOf k.depth ts else endOfFirstBlock k.pending ts

variable {k : Counters} {t : PlacedToken} {ts : List PlacedToken} {e limit : Nat}

@[simp] theorem endOf_nil (k : Counters) : k.endOf [] = none := by
  unfold endOf
  split_ifs <;> rfl

/-- Only the keyword that is read can be the end. -/
theorem eq_stop_of_read (h : k.read t = .inl e) : e = t.stop := by
  unfold read at h
  cases htoken : t.token with
  | doBlock =>
      simp only [htoken] at h
      split_ifs at h
  | fnBlock =>
      simp only [htoken] at h
      split_ifs at h
  | close =>
      simp only [htoken] at h
      split_ifs at h
      exact (Sum.inl.inj h).symm

/-- One keyword either ends the search or changes the counters. -/
theorem endOf_cons (k : Counters) (t : PlacedToken) (ts : List PlacedToken) :
    k.endOf (t :: ts) = (k.read t).elim some fun k' => k'.endOf ts := by
  unfold endOf read
  by_cases hd : 0 < k.depth
  · cases htoken : t.token with
    | doBlock => simp [closeOf, htoken, hd]
    | fnBlock => simp [closeOf, htoken, hd]
    | close =>
        by_cases hone : k.depth = 1
        · simp [closeOf, htoken, hone]
        · have hle : ¬ k.depth ≤ 1 := by omega
          have hpos : 0 < k.depth - 1 := by omega
          simp [closeOf, htoken, hd, hone, hle, hpos]
  · cases htoken : t.token with
    | doBlock =>
        by_cases hp : k.pending = 0
        · simp [endOfFirstBlock, htoken, hd, hp]
        · simp [endOfFirstBlock, htoken, hd, hp]
    | fnBlock => simp [endOfFirstBlock, htoken, hd]
    | close => simp [endOfFirstBlock, htoken, hd]

/-- The end that is found is the end of one of the keywords. -/
theorem exists_of_endOf (h : k.endOf ts = some e) : ∃ t ∈ ts, t.stop = e := by
  induction ts generalizing k with
  | nil =>
      rw [endOf_nil] at h
      cases h
  | cons t ts ih =>
      rw [endOf_cons] at h
      cases hread : k.read t with
      | inl stop =>
          rw [hread] at h
          refine ⟨t, List.mem_cons_self, ?_⟩
          rw [← eq_stop_of_read hread]
          exact Option.some.inj h
      | inr k' =>
          rw [hread] at h
          obtain ⟨u, hu, hstop⟩ := ih h
          exact ⟨u, List.mem_cons_of_mem t hu, hstop⟩

/-- **Cutting the keywords off at a limit filters the answer.** -/
theorem endOf_takeWhile (hts : ts.Pairwise fun t u => t.stop ≤ u.start) (k : Counters)
    (limit : Nat) :
    k.endOf (ts.takeWhile fun t => t.stop ≤ limit) = (k.endOf ts).filter (· ≤ limit) := by
  induction ts generalizing k with
  | nil => simp
  | cons t ts ih =>
      rw [List.pairwise_cons] at hts
      by_cases hle : t.stop ≤ limit
      · rw [List.takeWhile_cons_of_pos (by simpa using hle), endOf_cons, endOf_cons]
        cases hread : k.read t with
        | inl stop =>
            rw [eq_stop_of_read hread]
            exact (Option.filter_some_pos (by simpa using hle)).symm
        | inr k' => exact ih hts.2 k'
      · rw [List.takeWhile_cons_of_neg (by simpa using hle), endOf_nil, eq_comm,
          Option.filter_eq_none_iff]
        -- an answer would be the end of this keyword or of a later one
        intro e he
        obtain ⟨u, hu, rfl⟩ := exists_of_endOf he
        have hlater : t.stop ≤ u.stop := by
          rcases List.mem_cons.mp hu with rfl | hu
          · exact Nat.le_refl _
          · exact Nat.le_trans (hts.1 u hu) (Nat.le_add_right _ _)
        simp only [decide_eq_true_eq]
        omega

end Counters

/-! ### The pass over the spans -/

/-- Searches in one pass over the spans of `cs`, up to `limit`. -/
def searchSpans (cs : List Char) (limit : Nat) (k : Counters) : List Span → Option Nat
  | [] => none
  | s :: ss =>
    if limit ≤ s.start then none
    else
      match s.token? cs with
      | none => searchSpans cs limit k ss
      | some t =>
        if limit < t.stop then none
        else
          match k.read t with
          | .inl stop => some stop
          | .inr k' => searchSpans cs limit k' ss

/-- A keyword at one of the spans starts where the first of them does, or behind it. -/
theorem lt_stop_of_mem_filterMap {cs : List Char} {s : Span} {ss : List Span}
    (hss : ∀ s' ∈ ss, s.start ≤ s'.start) {t : PlacedToken}
    (ht : t ∈ (s :: ss).filterMap (Span.token? cs)) : s.start < t.stop := by
  obtain ⟨s', hs', htoken⟩ := List.mem_filterMap.mp ht
  have hfirst : s.start ≤ s'.start := by
    rcases List.mem_cons.mp hs' with rfl | hs'
    · exact Nat.le_refl _
    · exact hss s' hs'
  have hstart := (Span.blockTokenAt?_of_token? htoken).1
  have hsize := t.token.size_pos
  rw [PlacedToken.stop]
  omega

/-- The pass over the spans reads their keywords, up to the first one that reaches past the
limit. -/
theorem searchSpans_eq (cs : List Char) (limit : Nat) {ss : List Span}
    (hss : ss.Pairwise fun s s' => s.start ≤ s'.start) (k : Counters) :
    searchSpans cs limit k ss =
      k.endOf ((ss.filterMap (Span.token? cs)).takeWhile fun t => t.stop ≤ limit) := by
  induction ss generalizing k with
  | nil => simp [searchSpans]
  | cons s ss ih =>
      rw [List.pairwise_cons] at hss
      unfold searchSpans
      split_ifs with hstart
      · -- every keyword from here on reaches past the limit
        cases htokens : (s :: ss).filterMap (Span.token? cs) with
        | nil => simp
        | cons t ts =>
            have hlt := lt_stop_of_mem_filterMap hss.1 (by rw [htokens]; exact List.mem_cons_self)
            rw [List.takeWhile_cons_of_neg (by rw [decide_eq_true_eq]; omega),
              Counters.endOf_nil]
      · cases htoken : s.token? cs with
        | none =>
            rw [List.filterMap_cons_none htoken]
            exact ih hss.2 k
        | some t =>
            rw [List.filterMap_cons_some htoken]
            dsimp only
            split_ifs with hstop
            · rw [List.takeWhile_cons_of_neg (by simpa using hstop), Counters.endOf_nil]
            · rw [List.takeWhile_cons_of_pos (by simpa using hstop), Counters.endOf_cons]
              cases k.read t with
              | inl stop => rfl
              | inr k' => exact ih hss.2 k'

/-! ### What a limit does -/

/-- The end of the first block, without a limit, is read off all the keywords. -/
theorem blockEnd_eq (cs : List Char) (start : Nat) :
    blockEnd cs start = endOfFirstBlock 0 (codeTokensFrom cs start) := by
  rw [blockEnd, blockEndWithin, takeWhile_stop_le, List.filter_eq_self.mpr]
  intro t ht
  rw [Nat.min_self, decide_eq_true_eq]
  exact stop_le_of_mem_codeTokensFrom ht

/-- A limit takes away the answers behind it. -/
theorem blockEndWithin_eq_filter (cs : List Char) (start limit : Nat) :
    blockEndWithin cs start limit = (blockEnd cs start).filter (· ≤ limit) := by
  rw [blockEnd_eq]
  exact Counters.endOf_takeWhile (pairwise_codeTokensFrom cs start) ⟨0, 0⟩ limit

/-- The pass over the spans from `start` on finds what the search finds. -/
theorem searchSpans_spansFrom (cs : List Char) (start limit : Nat) :
    searchSpans cs (min limit (byteLength cs)) ⟨0, 0⟩ (spansFrom cs start) =
      blockEndWithin cs start limit := by
  have hspans : (spansFrom cs start).Pairwise fun s s' => s.start ≤ s'.start := by
    refine (pairwise_spansFrom cs start).imp_of_mem ?_
    intro s s' hs _ hle
    have hlt := start_lt_stop_of_mem_spansFrom hs
    omega
  rw [searchSpans_eq _ _ hspans, ← codeTokensFrom_eq, takeWhile_stop_le, Nat.min_assoc,
    Nat.min_self, ← takeWhile_stop_le]
  rfl

/-- **The limit of a search only filters its answer.** The pass over the spans, with its two ways to
give up at the limit, finds what the search finds. That is the end that is found without a limit,
if it lies within the limit, and nothing otherwise. So what is found within a limit is found within
each larger one, and a limit inside a keyword is as good as one in front of it. -/
theorem limit_only_filters (cs : List Char) (start limit : Nat) :
    searchSpans cs (min limit (byteLength cs)) ⟨0, 0⟩ (spansFrom cs start) =
      blockEndWithin cs start limit ∧
    blockEndWithin cs start limit = (blockEnd cs start).filter (· ≤ limit) ∧
    (∀ limit' e, limit ≤ limit' → blockEndWithin cs start limit = some e →
      blockEndWithin cs start limit' = some e) ∧
    ∀ t ∈ codeTokensFrom cs start, t.start ≤ limit → limit < t.stop →
      blockEndWithin cs start limit = blockEndWithin cs start t.start := by
  refine ⟨searchSpans_spansFrom cs start limit, blockEndWithin_eq_filter cs start limit,
    ?_, ?_⟩
  · intro limit' e hle h
    rw [blockEndWithin_eq_filter, Option.filter_eq_some_iff, decide_eq_true_eq] at h ⊢
    exact ⟨h.1, Nat.le_trans h.2 hle⟩
  · intro t ht hstart hstop
    rw [blockEndWithin_eq_filter, blockEndWithin_eq_filter]
    cases hend : blockEnd cs start with
    | none => rfl
    | some e =>
        -- the end is the end of a keyword, which is not cut in two
        rw [blockEnd_eq] at hend
        obtain ⟨u, hu, rfl⟩ := Counters.exists_of_endOf (k := ⟨0, 0⟩) hend
        have hcut : u.stop ≤ limit ↔ u.stop ≤ t.start := by
          have hlt : u.start < u.stop := Nat.lt_add_of_pos_right u.token.size_pos
          rcases eq_or_stop_le hu ht with rfl | hbefore | hafter <;> omega
        rw [Option.filter_some, Option.filter_some, decide_eq_decide.mpr hcut]

/-- A limit inside the last `end`, and one behind the text. -/
theorem limit_only_filters_cut :
    let cs := "a do fn -> end\nend".toList
    blockEnd cs 0 = some 18 ∧ ⟨15, .close⟩ ∈ codeTokensFrom cs 0 ∧
      blockEndWithin cs 0 17 = none ∧ blockEndWithin cs 0 17 = blockEndWithin cs 0 15 ∧
      blockEndWithin cs 0 20 = some 18 := by
  intro cs
  have hend : blockEnd cs 0 = some 18 := by decide +kernel
  have htoken : ⟨15, .close⟩ ∈ codeTokensFrom cs 0 := by decide +kernel
  have hwithin : blockEndWithin cs 0 18 = some 18 := by decide +kernel
  obtain ⟨-, hfilter, -, hcut⟩ := limit_only_filters cs 0 17
  refine ⟨hend, htoken, ?_, hcut _ htoken (by decide) (by decide), ?_⟩
  · rw [hfilter, hend]
    rfl
  · exact (limit_only_filters cs 0 18).2.2.1 20 18 (by decide) hwithin

-- a limit is not the end of the text: the `x` behind it still tells that there is no keyword
example : blockEndWithin "do endx".toList 0 6 = none ∧
    blockEnd (takeBytes 6 "do endx".toList) 0 = some 6 := by
  decide +kernel

end DslOutline
