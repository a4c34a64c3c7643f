import DslOutline.Proofs.Block.Depth
import DslOutline.Proofs.Text.Offsets

/-!
# Keywords line by line

A line end stands in for the start and the end of a text: a keyword may stand after it and in front
of it. So a text can be cut where a terminator starts without a change to its keywords
(`tokensIn_append_break`), and the keywords of a text are those of its lines, each at its offset
(`tokensIn_lineStart`).

The depth of a text is counted in one walk over its offsets, which goes on behind each keyword that
it finds (`depthFrom`). The walk meets every keyword, because none starts inside another one
(`depthFrom_eq`). The main statement is `netDepth_lines`.
-/

namespace DslOutline

open Text

/-! ### Cutting a text at a break -/

/-- A text that no keyword reaches into: its first character is no letter and may stand behind a
keyword. -/
def StartsWithBreak (cs : List Char) : Prop :=
  ∀ c, cs.head? = some c → c.isAlpha = false ∧ admitsAfter (some c) = true

/-- A keyword may end where a text breaks off or a line does. -/
theorem StartsWithBreak.admitsAfter {cs : List Char} (h : StartsWithBreak cs) :
    admitsAfter cs.head? = true := by
  cases hc : cs.head? with
  | none => rfl
  | some c => exact (h c hc).2

/-- What a break starts does not change the keyword in front of it. -/
theorem BlockToken.here?_append_break {x b : List Char} (hb : StartsWithBreak b)
    (before : Option Char) : here? before (x ++ b) = here? before x := by
  refine Option.ext fun token => ?_
  rw [here?_eq_some_iff, here?_eq_some_iff, wordHere_iff, wordHere_iff]
  refine and_congr_right fun _ => ?_
  constructor
  · rintro ⟨rest, hrest, hafter⟩
    rcases List.append_eq_append_iff.mp hrest with ⟨y, hword, rfl⟩ | ⟨y, rfl, rfl⟩
    · cases y with
      | nil => exact ⟨[], by simpa using hword.symm, rfl⟩
      | cons c y =>
          -- the keyword would reach into the break
          have hletter := isAlpha_of_mem_word (t := token) (c := c) (by simp [hword])
          rw [(hb c rfl).1] at hletter
          cases hletter
    · refine ⟨y, rfl, ?_⟩
      cases y with
      | nil => rfl
      | cons c y => exact hafter
  · rintro ⟨y, rfl, hafter⟩
    refine ⟨y ++ b, List.append_assoc _ _ _, ?_⟩
    cases y with
    | nil => exact hb.admitsAfter
    | cons c y => exact hafter

/-- **Keywords in front of a break and behind it.** -/
theorem tokensIn_append_break {b : List Char} (hb : StartsWithBreak b) (before : Option Char)
    (offset : Nat) (a : List Char) :
    tokensIn before offset (a ++ b) =
      tokensIn before offset a ++ tokensIn (a.getLast?.or before) (offset + byteLength a) b := by
  induction a generalizing before offset with
  | nil => rfl
  | cons c a ih =>
      have hhere := BlockToken.here?_append_break (x := c :: a) hb before
      rw [List.cons_append] at hhere
      rw [List.cons_append, tokensIn, tokensIn, PlacedToken.here?, hhere, ih, getLast?_cons_or,
        byteLength_cons, Nat.add_assoc, List.append_assoc]
      rfl

/-- Of what is in front of a text it matters only whether a keyword may follow. -/
theorem tokensIn_congr_before {b b' : Option Char} (h : admitsBefore b = admitsBefore b')
    (offset : Nat) (cs : List Char) : tokensIn b offset cs = tokensIn b' offset cs := by
  cases cs with
  | nil => rfl
  | cons c cs =>
      have hword : ∀ word, wordHere word b (c :: cs) = wordHere word b' (c :: cs) := by
        intro word
        rw [wordHere, wordHere, h]
      simp only [tokensIn, PlacedToken.here?, BlockToken.here?, hword]

/-! ### Lines -/

/-- Terminators hold no keyword, and what follows them is read as if a text started there. -/
theorem tokensIn_terminator_append {u : List Char} (hu : ∀ c ∈ u, c = '\r' ∨ c = '\n')
    {before : Option Char} (hbefore : u ≠ [] ∨ admitsBefore before = true) (offset : Nat)
    (r : List Char) :
    tokensIn before offset (u ++ r) = tokensIn none (offset + byteLength u) r := by
  induction u generalizing before offset with
  | nil => exact tokensIn_congr_before (hbefore.resolve_left (· rfl)) offset r
  | cons c u ih =>
      have hc : c.isAlpha = false ∧ admitsBefore (some c) = true := by
        rcases hu c List.mem_cons_self with rfl | rfl <;> exact ⟨rfl, rfl⟩
      rw [List.cons_append, tokensIn_cons_of_not_admits (here?_eq_none (Or.inl hc.1)),
        ih (fun d hd => hu d (List.mem_cons_of_mem c hd)) (Or.inr hc.2), byteLength_cons,
        Nat.add_assoc]

/-- The terminator of a line: what trimming takes off its end, and the line feed. -/
theorem exists_terminator {cs pre body rest : List Char} {n : Nat}
    (h : LineAt cs n pre body rest) :
    ∃ u, body ++ rest = trimTerminator body ++ (u ++ rest.drop 1) ∧
      body ++ rest.take 1 = trimTerminator body ++ u ∧ (∀ c ∈ u, c = '\r' ∨ c = '\n') ∧
      (u ≠ [] ∨ rest = []) := by
  have hbody : trimTerminator body ++ body.rtakeWhile (fun c => c == '\r' || c == '\n') = body :=
    List.rdropWhile_append_rtakeWhile
  refine ⟨body.rtakeWhile (fun c => c == '\r' || c == '\n') ++ rest.take 1, ?_, ?_, ?_, ?_⟩
  · rw [List.append_assoc, List.take_append_drop, ← List.append_assoc, hbody]
  · rw [← List.append_assoc, hbody]
  · intro c hc
    rcases List.mem_append.mp hc with hc | hc
    · simpa using List.mem_rtakeWhile_imp hc
    · rcases h.ended with hfeed | ⟨rfl, -⟩
      · rw [List.take_one, hfeed] at hc
        exact Or.inr (List.mem_singleton.mp hc)
      · cases hc
  · rcases h.ended with hfeed | ⟨hnil, -⟩
    · left
      simp [List.take_one, hfeed]
    · exact Or.inr hnil

/-- The keywords of what starts with a line are those of the line and those of what follows it. -/
theorem tokensIn_lineAt {cs pre body rest : List Char} {n : Nat} (h : LineAt cs n pre body rest)
    (offset : Nat) :
    tokensIn none offset (body ++ rest) =
      tokensIn none offset (trimTerminator body) ++
        tokensIn none (offset + byteLength (body ++ rest.take 1)) (rest.drop 1) := by
  obtain ⟨u, hall, hline, hu, hended⟩ := exists_terminator h
  have hbreak : StartsWithBreak (u ++ rest.drop 1) := by
    intro c hc
    cases u with
    | nil => simp [hended.resolve_left (not_not_intro rfl)] at hc
    | cons d u =>
        obtain rfl := Option.some.inj hc
        rcases hu d List.mem_cons_self with rfl | rfl <;> exact ⟨rfl, rfl⟩
  rw [hall, hline, tokensIn_append_break hbreak, byteLength_append, ← Nat.add_assoc]
  congr 1
  rcases hended with hne | rfl
  · exact tokensIn_terminator_append hu (Or.inl hne) _ _
  · cases u with
    | nil => rfl
    | cons c u => exact tokensIn_terminator_append hu (Or.inl (List.cons_ne_nil c u)) _ _

/-- From the start of a line on, the keywords are those of the lines one after the other. -/
theorem tokensIn_lineStart (cs : List Char) (n k : Nat) (h1 : 1 ≤ n)
    (hk : n + k = (LineIndex.ofText cs).lineCount + 1) :
    tokensIn none ((LineIndex.ofText cs).lineStart n)
        (dropBytes ((LineIndex.ofText cs).lineStart n) cs) =
      (List.range' n k).flatMap fun n =>
        tokensIn none ((LineIndex.ofText cs).lineStart n) ((LineIndex.ofText cs).lineText cs n) := by
  induction k generalizing n with
  | zero =>
      have hend : (LineIndex.ofText cs).lineStart n = byteLength cs := by
        rw [← LineIndex.lineEnd_lineCount, LineIndex.lineEnd, LineIndex.lineStart]
        congr 1
        omega
      have hdrop := dropBytes_append cs []
      rw [List.append_nil] at hdrop
      rw [hend, hdrop]
      rfl
  | succ k ih =>
      have hle : n ≤ (LineIndex.ofText cs).lineCount := by omega
      obtain ⟨pre, body, rest, hline⟩ := exists_lineAt h1 hle
      have hdrop : dropBytes (byteLength pre) cs = body ++ rest := by
        rw [hline.text_eq, dropBytes_append]
      have hnext : (LineIndex.ofText cs).lineStart (n + 1) =
          byteLength (pre ++ (body ++ rest.take 1)) := hline.lineEnd
      have hrest : dropBytes (byteLength (pre ++ (body ++ rest.take 1))) cs = rest.drop 1 := by
        have hsplit : cs = (pre ++ (body ++ rest.take 1)) ++ rest.drop 1 := by
          rw [List.append_assoc, List.append_assoc, List.take_append_drop]
          exact hline.text_eq
        rw [hsplit, dropBytes_append]
      have htail := ih (n + 1) (by omega) (by omega)
      rw [hnext, hrest, byteLength_append] at htail
      rw [List.range'_succ, List.flatMap_cons, ← htail, hline.lineStart, hline.lineText, hdrop,
        tokensIn_lineAt hline]

/-- The keywords of a text are those of its lines. -/
theorem tokensIn_eq_flatMap (cs : List Char) :
    tokensIn none 0 cs =
      (List.range' 1 (LineIndex.ofText cs).lineCount).flatMap fun n =>
        tokensIn none ((LineIndex.ofText cs).lineStart n) ((LineIndex.ofText cs).lineText cs n) := by
  have hfirst : (LineIndex.ofText cs).lineStart 1 = 0 := rfl
  have hlines := tokensIn_lineStart cs 1 (LineIndex.ofText cs).lineCount (Nat.le_refl 1)
    (Nat.add_comm _ _)
  rwa [hfirst, dropBytes_zero] at hlines

/-- The depth of all tokens is the sum over the parts that they are listed by. -/
theorem tokensDepth_flatMap {α : Type} (l : List α) (f : α → List PlacedToken) :
    tokensDepth (l.flatMap f) = (l.map fun a => tokensDepth (f a)).sum := by
  induction l with
  | nil => rfl
  | cons a l ih => rw [List.flatMap_cons, tokensDepth_append, ih, List.map_cons, List.sum_cons]

/-! ### The walk over the offsets -/

/-- Counts the depth of a text from an offset on, byte by byte and keyword by keyword. -/
def depthFrom (cs : List Char) (offset : Nat) : Int :=
  if offset < byteLength cs then
    match blockTokenAt? cs offset with
    | some token => token.delta + depthFrom cs (offset + token.size)
    | none => depthFrom cs (offset + 1)
  else 0
termination_by byteLength cs - offset
decreasing_by
  · have := token.size_pos
    omega
  · omega

/-- The keywords of a text are those at its offsets. -/
theorem mem_tokensIn_zero_iff {cs : List Char} {t : PlacedToken} :
    t ∈ tokensIn none 0 cs ↔ blockTokenAt? cs t.start = some t.token := by
  rw [mem_tokensIn_iff, blockTokenAt?_eq_some_iff]
  simp only [Nat.zero_add, Option.or_none, eq_comm]

/-- The walk counts the keywords that start at its offset or behind it. -/
theorem depthFrom_eq (cs : List Char) (offset : Nat) :
    depthFrom cs offset =
      tokensDepth ((tokensIn none 0 cs).filter fun t => offset ≤ t.start) := by
  have hsorted := pairwise_tokensIn none 0 cs
  fun_induction depthFrom cs offset with
  | case1 offset hlt token htoken ih =>
      -- no keyword starts inside the one at this offset
      have hcons : ((tokensIn none 0 cs).filter fun t => offset ≤ t.start) =
          ⟨offset, token⟩ ::
            (tokensIn none 0 cs).filter fun t => offset + token.size ≤ t.start := by
        refine tokens_eq_of_mem_iff (hsorted.filter _) (List.pairwise_cons.mpr ⟨?_, hsorted.filter _⟩)
          ?_
        · intro t ht
          have hle := of_decide_eq_true (List.mem_filter.mp ht).2
          have hpos := token.size_pos
          show offset < t.start
          omega
        · intro t
          simp only [List.mem_filter, List.mem_cons, mem_tokensIn_zero_iff, decide_eq_true_eq]
          constructor
          · rintro ⟨ht, hle⟩
            rcases Nat.eq_or_lt_of_le hle with heq | hlt
            · left
              rw [← heq, htoken] at ht
              rw [heq, Option.some.inj ht]
            · exact Or.inr ⟨ht, stop_le_of_blockTokenAt? (t := ⟨offset, token⟩) htoken ht hlt⟩
          · rintro (rfl | ⟨ht, hle⟩)
            · exact ⟨htoken, Nat.le_refl _⟩
            · exact ⟨ht, by omega⟩
      rw [ih, hcons, tokensDepth_cons]
  | case2 offset hlt htoken ih =>
      rw [ih]
      congr 1
      refine List.filter_congr ?_
      intro t ht
      rw [mem_tokensIn_zero_iff] at ht
      have hne : t.start ≠ offset := by
        intro heq
        rw [heq, htoken] at ht
        cases ht
      rw [decide_eq_decide]
      omega
  | case3 offset hlt =>
      rw [List.filter_eq_nil_iff.mpr]
      · rfl
      · intro t ht
        obtain ⟨p, q, hcs, hp, -⟩ := exists_of_blockTokenAt? (mem_tokensIn_zero_iff.mp ht)
        have hend := BlockToken.add_size_le hcs
        have hpos := t.token.size_pos
        rw [decide_eq_true_eq]
        omega

/-- The depth counted from the start of a text is its net depth. -/
theorem depthFrom_zero (cs : List Char) : depthFrom cs 0 = netDepth cs := by
  rw [depthFrom_eq, netDepth_eq 0]
  congr 1
  exact List.filter_eq_self.mpr fun t _ => decide_eq_true (Nat.zero_le _)

/-- **Counting line by line is counting the whole text.** Cutting a text into lines and looking the
lines up by their numbers, which never fails, gives the same lines. The keywords of a text are those
of its lines, each at its offset, and so the depth of the text is the sum of the depths of its
lines. The walk over the offsets counts this depth. -/
theorem netDepth_lines (cs : List Char) :
    numberedLines cs = (List.range' 1 (LineIndex.ofText cs).lineCount).map
      (fun n => ⟨n, (LineIndex.ofText cs).lineText cs n⟩) ∧
    (numberedLines cs).map (fun l => Checked.lineText (.ofText cs) cs l.number) =
      (numberedLines cs).map (fun l => some l.text) ∧
    tokensIn none 0 cs = (numberedLines cs).flatMap
      (fun l => tokensIn none ((LineIndex.ofText cs).lineStart l.number) l.text) ∧
    netDepth cs = ((numberedLines cs).map fun l => netDepth l.text).sum ∧
    depthFrom cs 0 = ((numberedLines cs).map fun l => depthFrom l.text 0).sum := by
  have hdepth : netDepth cs = ((numberedLines cs).map fun l => netDepth l.text).sum := by
    rw [netDepth_eq 0, tokensIn_eq_flatMap, tokensDepth_flatMap, numberedLines_eq, List.map_map]
    congr 1
    refine List.map_congr_left ?_
    intro n _
    exact (netDepth_eq _ _).symm
  refine ⟨numberedLines_eq cs, ?_, ?_, hdepth, ?_⟩
  · rw [numberedLines_eq, List.map_map, List.map_map]
    refine List.map_congr_left ?_
    intro n _
    exact Checked.lineText_eq cs n
  · rw [numberedLines_eq, List.flatMap_map]
    exact tokensIn_eq_flatMap cs
  · simp only [depthFrom_zero]
    exact hdepth

-- a keyword in front of each kind of terminator, and an empty line
example : (numberedLines "do\r\nfn x do\r\r\n\n\rend\r".toList).map (fun l => netDepth l.text) =
    [1, 2, 0, -1] := by
  decide +kernel

end DslOutline
