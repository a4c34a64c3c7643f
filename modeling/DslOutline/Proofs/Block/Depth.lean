import DslOutline.Proofs.Block.MaskedTokens
import DslOutline.Proofs.Block.Matching
import Mathlib.Algebra.Ring.Int.Defs
import Mathlib.Data.List.Pairwise

/-!
# Nesting depth

The net depth between two offsets of a text is the number of blocks that open there less the number
of blocks that close there (`depthBetween`). The keywords counted are those in the code of the whole
text, so the depths of adjacent pieces add up (`depthBetween_add`).

The search for the end of an open block has an account in these terms. If it fails, the depth does
not fall below zero as far as the search goes (`depthBetween_of_closeOf_none`); if it finds an end,
the depth is not below zero in front of that `end` and is `-1` behind it
(`exists_of_closeOf_some`).
-/

namespace DslOutline

open Text

/-! ### The depth of a sequence of tokens -/

/-- What tokens add to the nesting depth. -/
def tokensDepth (ts : List PlacedToken) : Int :=
  (ts.map fun t => t.token.delta).sum

@[simp] theorem tokensDepth_nil : tokensDepth [] = 0 := rfl

@[simp] theorem tokensDepth_cons (t : PlacedToken) (ts : List PlacedToken) :
    tokensDepth (t :: ts) = t.token.delta + tokensDepth ts := by
  rw [tokensDepth, List.map_cons, List.sum_cons, tokensDepth]

@[simp] theorem tokensDepth_append (ts us : List PlacedToken) :
    tokensDepth (ts ++ us) = tokensDepth ts + tokensDepth us := by
  rw [tokensDepth, List.map_append, List.sum_append, tokensDepth, tokensDepth]

/-- The depth that tokens leave is what they open less what they close. -/
theorem tokensDepth_eq (ts : List PlacedToken) :
    tokensDepth ts = (openers ts : Int) - closers ts := by
  induction ts with
  | nil => rfl
  | cons t ts ih =>
      by_cases ht : t.token = .close
      · rw [tokensDepth_cons, ih, openers_cons_of_close ht, closers_cons_of_close ht, ht,
          BlockToken.delta]
        omega
      · have hdelta : t.token.delta = 1 := by
          cases htoken : t.token with
          | close => exact absurd htoken ht
          | doBlock => rfl
          | fnBlock => rfl
        rw [tokensDepth_cons, ih, openers_cons_of_open ht, closers_cons_of_open ht, hdelta]
        omega

/-- Where a text stands does not matter for the depth of its tokens. -/
theorem tokensDepth_tokensIn (before : Option Char) (o o' : Nat) (cs : List Char) :
    tokensDepth (tokensIn before o cs) = tokensDepth (tokensIn before o' cs) := by
  induction cs generalizing before o o' with
  | nil => rfl
  | cons c cs ih =>
      rw [tokensIn, tokensIn, tokensDepth_append, tokensDepth_append,
        ih (some c) (o + c.utf8Size) (o' + c.utf8Size)]
      simp only [PlacedToken.here?]
      cases BlockToken.here? before (c :: cs) <;> rfl

/-- The net depth of a line does not depend on where the line stands in its text. -/
theorem netDepth_eq (o : Nat) (line : List Char) :
    netDepth line = tokensDepth (tokensIn none o line) := by
  rw [netDepth, tokensDepth_tokensIn none o 0, tokensDepth, List.sum, List.foldr_map]

/-- As long as no token closes the last of `depth` open blocks, the depth stays above zero. -/
theorem pos_of_closeOf_none {depth : Nat} (hd : 0 < depth) {ts run : List PlacedToken}
    (h : closeOf depth ts = none) (hrun : run <+: ts) : 0 < (depth : Int) + tokensDepth run := by
  induction ts generalizing depth run with
  | nil =>
      rw [List.prefix_nil.mp hrun, tokensDepth_nil]
      omega
  | cons t ts ih =>
      rcases List.prefix_cons_iff.mp hrun with rfl | ⟨tail, rfl, htail⟩
      · rw [tokensDepth_nil]
        omega
      · rw [tokensDepth_cons]
        rw [closeOf] at h
        cases htoken : t.token with
        | close =>
            simp only [htoken] at h
            split_ifs at h with hone
            have hpos := ih (by omega) h htail
            rw [BlockToken.delta]
            omega
        | doBlock | fnBlock =>
            simp only [htoken] at h
            have hpos := ih (Nat.succ_pos depth) h htail
            rw [BlockToken.delta]
            omega

/-! ### The tokens between two offsets -/

/-- The block keywords in the code of a text that start at `a` or behind it, and before `b`. -/
def tokensBetween (cs : List Char) (a b : Nat) : List PlacedToken :=
  (codeTokensFrom cs 0).filter fun t => a ≤ t.start && t.start < b

/-- What the code between two offsets of a text adds to the nesting depth. -/
def depthBetween (cs : List Char) (a b : Nat) : Int :=
  tokensDepth (tokensBetween cs a b)

section

variable {cs : List Char} {a b c : Nat} {t u : PlacedToken}

/-- The tokens between two offsets are those of the text that start there. -/
theorem mem_tokensBetween :
    t ∈ tokensBetween cs a b ↔ t ∈ codeTokensFrom cs 0 ∧ a ≤ t.start ∧ t.start < b := by
  simp [tokensBetween]

/-- The tokens in the code of a text are listed from left to right. -/
theorem pairwise_start_codeTokensFrom (cs : List Char) (start : Nat) :
    (codeTokensFrom cs start).Pairwise fun t u => t.start < u.start := by
  refine (pairwise_codeTokensFrom cs start).imp ?_
  intro t u hle
  have hpos := t.token.size_pos
  rw [PlacedToken.stop] at hle
  omega

theorem pairwise_tokensBetween (cs : List Char) (a b : Nat) :
    (tokensBetween cs a b).Pairwise fun t u => t.start < u.start :=
  (pairwise_start_codeTokensFrom cs 0).filter _

/-- The tokens between two offsets are determined by which ones they are. -/
theorem tokensBetween_eq {ts : List PlacedToken} (hts : ts.Pairwise fun t u => t.start < u.start)
    (h : ∀ t, t ∈ ts ↔ t ∈ codeTokensFrom cs 0 ∧ a ≤ t.start ∧ t.start < b) :
    tokensBetween cs a b = ts := by
  refine tokens_eq_of_mem_iff (pairwise_tokensBetween cs a b) hts ?_
  intro t
  rw [mem_tokensBetween, h]

/-- The tokens up to an offset and those from there on make up those of the whole range. -/
theorem tokensBetween_append (cs : List Char) (hab : a ≤ b) (hbc : b ≤ c) :
    tokensBetween cs a c = tokensBetween cs a b ++ tokensBetween cs b c := by
  refine tokensBetween_eq ?_ ?_
  · rw [List.pairwise_append]
    refine ⟨pairwise_tokensBetween cs a b, pairwise_tokensBetween cs b c, ?_⟩
    intro t ht u hu
    rw [mem_tokensBetween] at ht hu
    omega
  · intro t
    rw [List.mem_append, mem_tokensBetween, mem_tokensBetween, ← and_or_left]
    refine and_congr_right fun _ => ?_
    omega

/-- The depths of adjacent pieces add up. -/
theorem depthBetween_add (cs : List Char) (hab : a ≤ b) (hbc : b ≤ c) :
    depthBetween cs a c = depthBetween cs a b + depthBetween cs b c := by
  rw [depthBetween, tokensBetween_append cs hab hbc, tokensDepth_append, depthBetween, depthBetween]

/-- Two tokens are the same, or one of them stands in front of the other. -/
theorem eq_or_stop_le {start : Nat} (ht : t ∈ codeTokensFrom cs start)
    (hu : u ∈ codeTokensFrom cs start) :
    t = u ∨ t.stop ≤ u.start ∨ u.stop ≤ t.start := by
  by_cases hne : t = u
  · exact Or.inl hne
  · have hsymm : Std.Symm fun t u : PlacedToken => t.stop ≤ u.start ∨ u.stop ≤ t.start :=
      ⟨fun _ _ => Or.symm⟩
    exact Or.inr (((pairwise_codeTokensFrom cs start).imp
      (S := fun t u => t.stop ≤ u.start ∨ u.stop ≤ t.start) Or.inl).forall ht hu hne)

/-- Between the start and the stop of a token there is this token alone. -/
theorem tokensBetween_start_stop (ht : t ∈ codeTokensFrom cs 0) :
    tokensBetween cs t.start t.stop = [t] := by
  refine tokensBetween_eq (List.pairwise_singleton _ _) ?_
  intro u
  rw [List.mem_singleton]
  constructor
  · rintro rfl
    have hpos := u.token.size_pos
    exact ⟨ht, Nat.le_refl _, by rw [PlacedToken.stop]; omega⟩
  · rintro ⟨hu, hle, hlt⟩
    have hpos := u.token.size_pos
    rcases eq_or_stop_le hu ht with rfl | hbefore | hafter
    · rfl
    · rw [PlacedToken.stop] at hbefore
      omega
    · omega

/-- Over a single token the depth changes by what the token opens or closes. -/
theorem depthBetween_start_stop (ht : t ∈ codeTokensFrom cs 0) :
    depthBetween cs t.start t.stop = t.token.delta := by
  rw [depthBetween, tokensBetween_start_stop ht, tokensDepth_cons, tokensDepth_nil, Int.add_zero]

/-! ### The end of an open block -/

/-- If the search fails, nothing in front of its limit closes the open block. -/
theorem depthBetween_of_closeOf_none (h : closeOf 1 (tokensBetween cs a b) = none) {x : Nat}
    (hax : a ≤ x) (hxb : x ≤ b) : 0 ≤ depthBetween cs a x := by
  have hprefix : tokensBetween cs a x <+: tokensBetween cs a b :=
    ⟨_, (tokensBetween_append cs hax hxb).symm⟩
  have hpos := pos_of_closeOf_none Nat.one_pos h hprefix
  rw [depthBetween]
  omega

/-- If the search finds an end, this is the end of the first token that closes the open block. -/
theorem exists_of_closeOf_some {e : Nat} (h : closeOf 1 (tokensBetween cs a b) = some e) :
    ∃ c ∈ codeTokensFrom cs 0, c.token = .close ∧ c.stop = e ∧ a ≤ c.start ∧ c.start < b ∧
      (∀ x, a ≤ x → x ≤ c.start → 0 ≤ depthBetween cs a x) ∧ depthBetween cs a c.stop = -1 := by
  obtain ⟨body, c, after, htokens, hclosing, rfl⟩ := (closeOf_eq_some_iff Nat.one_pos _ _).mp h
  have hsorted := pairwise_tokensBetween cs a b
  obtain ⟨hc, hac, hcb⟩ := mem_tokensBetween.mp
    (show c ∈ tokensBetween cs a b by simp [htokens])
  -- the part in front of the closing token is what stands in front of it in the text
  have hbody : tokensBetween cs a c.start = body := by
    rw [htokens, List.pairwise_append, List.pairwise_cons] at hsorted
    refine tokensBetween_eq hsorted.1 ?_
    intro t
    constructor
    · intro ht
      have hmem : t ∈ tokensBetween cs a b := by simp [htokens, ht]
      obtain ⟨hcode, hle, -⟩ := mem_tokensBetween.mp hmem
      exact ⟨hcode, hle, hsorted.2.2 t ht c List.mem_cons_self⟩
    · rintro ⟨hcode, hle, hlt⟩
      have hmem : t ∈ tokensBetween cs a b := mem_tokensBetween.mpr ⟨hcode, hle, by omega⟩
      rw [htokens, List.mem_append, List.mem_cons] at hmem
      rcases hmem with hmem | rfl | hmem
      · exact hmem
      · omega
      · have := hsorted.2.1.1 t hmem
        omega
  refine ⟨c, hc, hclosing.closes, rfl, hac, hcb, ?_, ?_⟩
  · intro x hax hxc
    have hprefix : tokensBetween cs a x <+: body :=
      ⟨_, by rw [← hbody, tokensBetween_append cs hax hxc]⟩
    have hinside := hclosing.inside _ hprefix
    rw [depthBetween, tokensDepth_eq]
    omega
  · have hbalanced := hclosing.balanced
    have hcstop : c.start ≤ c.stop := Nat.le_add_right _ _
    rw [depthBetween_add cs hac hcstop, depthBetween_start_stop hc, depthBetween, hbody,
      tokensDepth_eq, hclosing.closes, BlockToken.delta]
    omega

end

end DslOutline
