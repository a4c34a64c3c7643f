import DslOutline.Outline.Declaration
import DslOutline.Proofs.Lexeme.Mask
import Mathlib.Algebra.Ring.Int.Defs
import Mathlib.Data.List.Pairwise
import Mathlib.Data.Nat.Find

/-!
# The lines of `use` declarations

The scan for `use` declarations goes through the lines once and keeps the declaration that is open,
if there is one. What it keeps after some lines of a declaration is computed here from these lines
alone (`Document.openUse`), and one more line takes it to the next (`Document.extend_openUse`). So a
declaration extends to the first line with which it may end, or to the end of the document
(`Document.lastUseLine`), and the scan goes on behind that line (`Document.declarationsFrom_eq`).
`useDeclarations_partition` says which lines belong to which declaration.

Whether a declaration goes on is asked of its last line alone. `endsWithComma_joined_iff` says what
this means for a comma at the end of the declaration: it is overlooked exactly where the line behind
it is blank on the mask.
-/

namespace DslOutline

open Text

/-! ### Joined lines -/

/-- Lines `first` to `last`, joined by line feeds. -/
def joinedLines (line : Nat → List Char) (first last : Nat) : List Char :=
  ['\n'].intercalate ((List.range' first (last + 1 - first)).map line)

/-- One more item is joined with a separator in front of it. -/
theorem intercalate_concat {α : Type} (sep : List α) {xs : List (List α)} (hne : xs ≠ [])
    (y : List α) : sep.intercalate (xs ++ [y]) = sep.intercalate xs ++ (sep ++ y) := by
  induction xs with
  | nil => exact absurd rfl hne
  | cons x xs ih =>
      cases xs with
      | nil => simp [List.intercalate_cons_cons]
      | cons x' xs =>
          rw [List.cons_append, List.intercalate_cons_of_ne_nil (by simp), ih (by simp),
            List.intercalate_cons_cons]
          simp only [List.append_assoc]

theorem joinedLines_self (line : Nat → List Char) (n : Nat) : joinedLines line n n = line n := by
  simp [joinedLines]

/-- One more line is joined with a line feed in front of it. -/
theorem joinedLines_succ (line : Nat → List Char) {first last : Nat} (h : first ≤ last) :
    joinedLines line first (last + 1) = joinedLines line first last ++ '\n' :: line (last + 1) := by
  have hlength : last + 1 + 1 - first = (last + 1 - first) + 1 := by omega
  have hnext : first + (last + 1 - first) = last + 1 := by omega
  have hne : (List.range' first (last + 1 - first)).map line ≠ [] := by
    simp only [ne_eq, List.map_eq_nil_iff, List.range'_eq_nil_iff]
    omega
  rw [joinedLines, hlength, List.range'_1_concat, hnext, List.map_append, List.map_singleton,
    intercalate_concat _ hne]
  rfl

namespace Document

/-! ### Where a declaration ends -/

/-- What a masked line adds to the number of open brackets. -/
def bracketChange (d : Document) (n : Nat) : Int :=
  ((d.maskedLine n).map bracketDelta).sum

/-- The number of open brackets after `k` lines, the first of which is line `first`. It does not
stay below zero at the end of a line. -/
def bracketsAfter (d : Document) (first : Nat) : Nat → Int
  | 0 => 0
  | k + 1 => max 0 (d.bracketsAfter first k + d.bracketChange (first + k))

/-- A declaration that starts on line `first` may end with line `n`: no bracket is open after it,
and it does not end with a comma. -/
def UseEnds (d : Document) (first n : Nat) : Prop :=
  d.bracketsAfter first (n + 1 - first) = 0 ∧ endsWithComma (d.maskedLine n) = false

instance (d : Document) (first n : Nat) : Decidable (d.UseEnds first n) :=
  inferInstanceAs (Decidable (_ ∧ _))

/-- The last line of a declaration that starts on line `first`: the first one with which it may end,
or the last one of the document. -/
def lastUseLine (d : Document) (first : Nat) : Nat :=
  ((List.range' first (d.lineCount + 1 - first)).find? fun n => d.UseEnds first n).getD d.lineCount

variable {d : Document} {first n : Nat}

/-- More brackets are never closed than were open. -/
theorem bracketsAfter_nonneg (d : Document) (first k : Nat) : 0 ≤ d.bracketsAfter first k := by
  cases k with
  | zero => exact Int.le_refl 0
  | succ k => exact Int.le_max_left _ _

/-- The brackets that are open after one more line. -/
theorem bracketsAfter_succ (d : Document) (h : first ≤ n) :
    d.bracketsAfter first (n + 1 - first) =
      max 0 (d.bracketsAfter first (n - first) + d.bracketChange n) := by
  have hlength : n + 1 - first = n - first + 1 := by omega
  have hline : first + (n - first) = n := by omega
  rw [hlength, bracketsAfter, hline]

/-- The first line on which a declaration is complete is its last one. -/
theorem lastUseLine_eq (hle : first ≤ n) (hn : n ≤ d.lineCount) (hends : d.UseEnds first n)
    (hbefore : ∀ j, first ≤ j → j < n → ¬ d.UseEnds first j) : d.lastUseLine first = n := by
  have hfind : ((List.range' first (d.lineCount + 1 - first)).find?
      fun n => d.UseEnds first n) = some n := by
    rw [List.find?_range'_eq_some, List.mem_range'_1]
    exact ⟨by simpa using hends, by omega, by simpa using hbefore⟩
  rw [lastUseLine, hfind, Option.getD_some]

/-- A declaration that is never complete goes on to the end of the document. -/
theorem lastUseLine_eq_lineCount (h : ∀ j, first ≤ j → j ≤ d.lineCount → ¬ d.UseEnds first j) :
    d.lastUseLine first = d.lineCount := by
  have hfind : ((List.range' first (d.lineCount + 1 - first)).find?
      fun n => d.UseEnds first n) = none := by
    rw [List.find?_range'_eq_none]
    intro j hfirst hlast
    simpa using h j hfirst (by omega)
  rw [lastUseLine, hfind, Option.getD_none]

/-- A declaration ends in the document, with the first line that may be its last one. -/
theorem lastUseLine_spec (h : first ≤ d.lineCount) :
    first ≤ d.lastUseLine first ∧ d.lastUseLine first ≤ d.lineCount ∧
      (∀ j, first ≤ j → j < d.lastUseLine first → ¬ d.UseEnds first j) ∧
      (d.UseEnds first (d.lastUseLine first) ∨ d.lastUseLine first = d.lineCount) := by
  by_cases hsome : ∃ n, first ≤ n ∧ n ≤ d.lineCount ∧ d.UseEnds first n
  · have hleast := Nat.find_spec hsome
    have hbefore : ∀ j, first ≤ j → j < Nat.find hsome → ¬ d.UseEnds first j := by
      intro j hfirst hlt hends
      exact Nat.find_min hsome hlt ⟨hfirst, by omega, hends⟩
    rw [lastUseLine_eq hleast.1 hleast.2.1 hleast.2.2 hbefore]
    exact ⟨hleast.1, hleast.2.1, hbefore, Or.inl hleast.2.2⟩
  · have hnone : ∀ j, first ≤ j → j ≤ d.lineCount → ¬ d.UseEnds first j := by
      intro j hfirst hlast hends
      exact hsome ⟨j, hfirst, hlast, hends⟩
    rw [lastUseLine_eq_lineCount hnone]
    exact ⟨h, Nat.le_refl _, fun j hfirst hlt => hnone j hfirst (Nat.le_of_lt hlt), Or.inr rfl⟩

/-! ### What the scan keeps -/

/-- The declaration that starts on line `first`, as far as line `n`. -/
def openUse (d : Document) (first n : Nat) : OpenUse :=
  ⟨first, joinedLines d.line first n, (d.bracketsAfter first (n + 1 - first)).toNat⟩

/-- The declaration that starts on line `first`. -/
def declarationAt (d : Document) (first : Nat) : UseDeclaration :=
  ⟨first, joinedLines d.line first (d.lastUseLine first),
    d.UseEnds first (d.lastUseLine first)⟩

/-- Counting open brackets on a line gives what the count over integers gives, where nothing is
negative. -/
theorem openBrackets_eq (d : Document) (first k n : Nat) :
    openBrackets (d.bracketsAfter first k).toNat (d.maskedLine n) =
      (max 0 (d.bracketsAfter first k + d.bracketChange n)).toNat := by
  have hchange : (d.maskedLine n).foldr (fun c change => bracketDelta c + change) 0 =
      d.bracketChange n := by
    rw [bracketChange, List.sum, List.foldr_map]
  have hnonneg := d.bracketsAfter_nonneg first k
  rw [openBrackets, hchange, Int.toNat_of_nonneg hnonneg]
  omega

/-- A declaration starts with its first line. -/
theorem start_openUse (d : Document) (n : Nat) :
    OpenUse.start ⟨n, d.line n, d.maskedLine n⟩ = d.openUse n n := by
  have hbrackets := d.openBrackets_eq n (n - n) n
  rw [← d.bracketsAfter_succ (Nat.le_refl n), Nat.sub_self] at hbrackets
  rw [OpenUse.start, openUse, joinedLines_self, ← hbrackets]
  rfl

/-- One more line takes what is kept of a declaration to what is kept next. -/
theorem extend_openUse (d : Document) (h : first ≤ n) :
    (d.openUse first n).extend ⟨n + 1, d.line (n + 1), d.maskedLine (n + 1)⟩ =
      d.openUse first (n + 1) := by
  have hbrackets := d.openBrackets_eq first (n + 1 - first) (n + 1)
  rw [← d.bracketsAfter_succ (Nat.le_succ_of_le h)] at hbrackets
  rw [OpenUse.extend, openUse, openUse, joinedLines_succ _ h, hbrackets]

/-- A declaration that has been read up to a line is complete if it ends there. -/
theorem isComplete_openUse (d : Document) (first n : Nat) :
    (d.openUse first n).isComplete ⟨n, d.line n, d.maskedLine n⟩ = true ↔ d.UseEnds first n := by
  have hnonneg := d.bracketsAfter_nonneg first (n + 1 - first)
  have hzero : (d.bracketsAfter first (n + 1 - first)).toNat = 0 ↔
      d.bracketsAfter first (n + 1 - first) = 0 := by omega
  simp [OpenUse.isComplete, openUse, UseEnds, hzero]

/-! ### The scan -/

/-- The lines from some line on, the first one split off. -/
theorem linesBetween_cons (d : Document) (h : n ≤ d.lineCount) :
    d.linesBetween n (d.lineCount + 1) =
      ⟨n, d.line n, d.maskedLine n⟩ :: d.linesBetween (n + 1) (d.lineCount + 1) := by
  have hlength : d.lineCount + 1 - n = d.lineCount + 1 - (n + 1) + 1 := by omega
  rw [linesBetween, hlength, List.range'_succ, List.map_cons]
  rfl

theorem linesBetween_nil (d : Document) :
    d.linesBetween (d.lineCount + 1) (d.lineCount + 1) = [] := by
  rw [linesBetween, Nat.sub_self]
  rfl

/-- What the scan finds from line `n` on, where no declaration is open. -/
def declarationsFrom (d : Document) (n : Nat) : List UseDeclaration :=
  scanUses none (d.linesBetween n (d.lineCount + 1))

/-- An open declaration extends to its last line, and the scan goes on behind it. -/
theorem scanUses_openUse (hle : first ≤ n) (hn : n ≤ d.lineCount)
    (hopen : ∀ j, first ≤ j → j ≤ n → ¬ d.UseEnds first j) :
    scanUses (some (d.openUse first n)) (d.linesBetween (n + 1) (d.lineCount + 1)) =
      d.declarationAt first :: d.declarationsFrom (d.lastUseLine first + 1) := by
  induction hleft : d.lineCount - n generalizing n with
  | zero =>
      have hlast : n = d.lineCount := by omega
      subst hlast
      have hends := hopen d.lineCount hle (Nat.le_refl _)
      rw [lastUseLine_eq_lineCount hopen, declarationsFrom, linesBetween_nil, scanUses, scanUses,
        OpenUse.finish, declarationAt, lastUseLine_eq_lineCount hopen, decide_eq_false hends]
      rfl
  | succ left ih =>
      rw [linesBetween_cons d (by omega), scanUses, extend_openUse d hle]
      by_cases hends : d.UseEnds first (n + 1)
      · have hlast : d.lastUseLine first = n + 1 :=
          lastUseLine_eq (by omega) (by omega) hends fun j hfirst hlt => hopen j hfirst (by omega)
        rw [if_pos ((d.isComplete_openUse first (n + 1)).mpr hends), OpenUse.finish, declarationAt,
          hlast, decide_eq_true hends]
        rfl
      · rw [if_neg (mt (d.isComplete_openUse first (n + 1)).mp hends)]
        refine ih (by omega) (by omega) ?_ (by omega)
        intro j hfirst hj
        rcases Nat.lt_or_ge j (n + 1) with hlt | hge
        · exact hopen j hfirst (by omega)
        · rwa [show j = n + 1 by omega]

/-- The scan takes a line on which a declaration starts together with all lines of the declaration,
and passes over any other line. -/
theorem declarationsFrom_eq (d : Document) (hn : n ≤ d.lineCount) :
    d.declarationsFrom n =
      if startsUse (d.maskedLine n) then
        d.declarationAt n :: d.declarationsFrom (d.lastUseLine n + 1)
      else d.declarationsFrom (n + 1) := by
  rw [declarationsFrom, linesBetween_cons d hn, scanUses, start_openUse]
  dsimp only
  split_ifs with hstarts hcomplete
  · have hends := (d.isComplete_openUse n n).mp hcomplete
    have hlast : d.lastUseLine n = n := lastUseLine_eq (Nat.le_refl n) hn hends (by omega)
    rw [OpenUse.finish, declarationAt, hlast, decide_eq_true hends]
    rfl
  · refine scanUses_openUse (Nat.le_refl n) hn ?_
    intro j hfirst hj
    rw [show j = n by omega]
    exact mt (d.isComplete_openUse n n).mpr hcomplete
  · rfl

/-- The lines of a document are those of its index. -/
theorem sourceLines_eq (cs : List Char) :
    (ofText cs).sourceLines = (ofText cs).linesBetween 1 ((ofText cs).lineCount + 1) := by
  rw [sourceLines, numberedLines_eq, ← index_eq_ofText_masked, List.map_map, linesBetween,
    Nat.add_sub_cancel]
  rfl

end Document

/-! ### The lines of the declarations -/

/-- A declaration consists of the lines from its first one, on which it starts, to the first one
with which it may end, or to the end of the document. -/
structure UseDeclaration.Spans (u : UseDeclaration) (d : Document) : Prop where
  one_le_line : 1 ≤ u.line
  line_le_last : u.line ≤ d.lastUseLine u.line
  last_le_lineCount : d.lastUseLine u.line ≤ d.lineCount
  starts : startsUse (d.maskedLine u.line) = true
  text_eq : u.text = joinedLines d.line u.line (d.lastUseLine u.line)
  goes_on : ∀ j, u.line ≤ j → j < d.lastUseLine u.line → ¬ d.UseEnds u.line j
  closed_iff : u.closed = true ↔ d.UseEnds u.line (d.lastUseLine u.line)
  last_of_open : u.closed = false → d.lastUseLine u.line = d.lineCount

namespace Document

variable {d : Document} {n : Nat}

/-- A declaration that starts on a line reaches to its last line and has the text of these lines. -/
theorem spans_declarationAt (h1 : 1 ≤ n) (hn : n ≤ d.lineCount)
    (hstarts : startsUse (d.maskedLine n)) : (d.declarationAt n).Spans d := by
  obtain ⟨hle, hlast, hbefore, hends⟩ := lastUseLine_spec hn
  have hclosed : (d.declarationAt n).closed = true ↔ d.UseEnds n (d.lastUseLine n) :=
    decide_eq_true_iff
  refine ⟨h1, hle, hlast, hstarts, rfl, hbefore, hclosed, ?_⟩
  intro hopen
  refine hends.resolve_left ?_
  intro h
  rw [hclosed.mpr h] at hopen
  cases hopen

/-- The declarations from line `n` on. The induction takes a whole declaration at a time. -/
theorem declarationsFrom_partition (d : Document) (h1 : 1 ≤ n) :
    (∀ u ∈ d.declarationsFrom n, n ≤ u.line ∧ u.Spans d) ∧
      (d.declarationsFrom n).Pairwise (fun u v => d.lastUseLine u.line < v.line) ∧
      ∀ k, n ≤ k → k ≤ d.lineCount → startsUse (d.maskedLine k) →
        ∃ u ∈ d.declarationsFrom n, u.line ≤ k ∧ k ≤ d.lastUseLine u.line := by
  induction hleft : d.lineCount + 1 - n using Nat.strongRecOn generalizing n with
  | _ left ih =>
    by_cases hn : n ≤ d.lineCount
    · rw [declarationsFrom_eq d hn]
      split_ifs with hstarts
      · have hspans := spans_declarationAt h1 hn hstarts
        have hle : n ≤ d.lastUseLine n := hspans.line_le_last
        obtain ⟨hlater, hdisjoint, hcovered⟩ :=
          ih (d.lineCount - d.lastUseLine n) (by omega) (n := d.lastUseLine n + 1) (by omega)
            (by omega)
        rw [List.forall_mem_cons, List.pairwise_cons]
        refine ⟨⟨⟨Nat.le_refl n, hspans⟩, ?_⟩, ⟨?_, hdisjoint⟩, ?_⟩
        · intro u hu
          obtain ⟨hbehind, hu⟩ := hlater u hu
          exact ⟨by omega, hu⟩
        · intro u hu
          exact (hlater u hu).1
        · intro k hk hlast hstart
          rcases Nat.lt_or_ge (d.lastUseLine n) k with hbehind | hinside
          · obtain ⟨u, hu, hmem⟩ := hcovered k hbehind hlast hstart
            exact ⟨u, List.mem_cons_of_mem _ hu, hmem⟩
          · exact ⟨d.declarationAt n, List.mem_cons_self, hk, hinside⟩
      · obtain ⟨hlater, hdisjoint, hcovered⟩ :=
          ih (d.lineCount - n) (by omega) (n := n + 1) (by omega) (by omega)
        refine ⟨?_, hdisjoint, ?_⟩
        · intro u hu
          obtain ⟨hbehind, hu⟩ := hlater u hu
          exact ⟨by omega, hu⟩
        · intro k hk hlast hstart
          have hne : k ≠ n := fun h => hstarts (h ▸ hstart)
          exact hcovered k (by omega) hlast hstart
    · have hnil : d.declarationsFrom n = [] := by
        rw [declarationsFrom, linesBetween, show d.lineCount + 1 - n = 0 by omega]
        rfl
      rw [hnil]
      refine ⟨by simp, List.Pairwise.nil, ?_⟩
      intro k hk hlast
      exact absurd (hk.trans hlast) hn

/-- The declarations of a document are those from its first line on. -/
theorem useDeclarations_eq (cs : List Char) :
    (ofText cs).useDeclarations = (ofText cs).declarationsFrom 1 := by
  rw [useDeclarations, sourceLines_eq, declarationsFrom]

end Document

/-- **The declarations of a document cover the lines on which a declaration starts.** Each one
consists of the lines from the one it starts on to the first one with which it may end, or to the
end of the document; the lines of one are in front of those of the next; and every line that reads
as the start of a declaration is a line of exactly one. -/
theorem useDeclarations_partition (cs : List Char) :
    (∀ u ∈ (Document.ofText cs).useDeclarations, u.Spans (.ofText cs)) ∧
      (Document.ofText cs).useDeclarations.Pairwise
        (fun u v => (Document.ofText cs).lastUseLine u.line < v.line) ∧
      ∀ n, 1 ≤ n → n ≤ (Document.ofText cs).lineCount →
        startsUse ((Document.ofText cs).maskedLine n) = true →
        ∃! u, u ∈ (Document.ofText cs).useDeclarations ∧ u.line ≤ n ∧
          n ≤ (Document.ofText cs).lastUseLine u.line := by
  rw [Document.useDeclarations_eq cs]
  generalize Document.ofText cs = d
  obtain ⟨hspans, hdisjoint, hcovered⟩ := d.declarationsFrom_partition (Nat.le_refl 1)
  refine ⟨fun u hu => (hspans u hu).2, hdisjoint, ?_⟩
  intro n h1 hn hstarts
  obtain ⟨u, hu, hfirst, hlast⟩ := hcovered n h1 hn hstarts
  refine ⟨u, ⟨hu, hfirst, hlast⟩, ?_⟩
  rintro v ⟨hv, hfirst', hlast'⟩
  by_contra hne
  have hsymm : Std.Symm fun u v : UseDeclaration =>
      d.lastUseLine u.line < v.line ∨ d.lastUseLine v.line < u.line := ⟨fun _ _ => Or.symm⟩
  have hapart := (hdisjoint.imp (S := fun u v =>
    d.lastUseLine u.line < v.line ∨ d.lastUseLine v.line < u.line) Or.inl).forall hv hu hne
  omega

/-! ### Commas at the end -/

/-- White space at the end does not count: the last part that is not blank decides. -/
theorem endsWithComma_append (a b : List Char) :
    endsWithComma (a ++ b) = if b.all isBlank then endsWithComma a else endsWithComma b := by
  have hlast : ∀ cs, endsWithComma cs = ((cs.reverse.dropWhile isBlank).head? == some ',') := by
    intro cs
    rw [endsWithComma, trimEnd, dropEndWhile, List.getLast?_reverse]
  have hblank : (b.reverse.dropWhile isBlank).isEmpty = b.all isBlank := by
    rw [Bool.eq_iff_iff, List.isEmpty_iff, List.dropWhile_eq_nil_iff]
    simp
  rw [hlast, hlast, hlast, List.reverse_append, List.dropWhile_append, hblank]
  split_ifs with hb
  · rfl
  · have hne : b.reverse.dropWhile isBlank ≠ [] := by
      rwa [← hblank, List.isEmpty_iff] at hb
    rw [List.head?_append_of_ne_nil _ hne]

/-- A blank line does not end with a comma. -/
theorem endsWithComma_of_blank {cs : List Char} (h : cs.all isBlank = true) :
    endsWithComma cs = false := by
  have happend := endsWithComma_append [] cs
  rw [if_pos h, List.nil_append] at happend
  rw [happend]
  rfl

/-- Whether joined lines end with a comma depends on the last one that is not blank. -/
theorem endsWithComma_joinedLines_succ (line : Nat → List Char) {first last : Nat}
    (h : first ≤ last) :
    endsWithComma (joinedLines line first (last + 1)) =
      if (line (last + 1)).all isBlank then endsWithComma (joinedLines line first last)
      else endsWithComma (line (last + 1)) := by
  have hfeed : endsWithComma (joinedLines line first last ++ ['\n']) =
      endsWithComma (joinedLines line first last) := by
    rw [endsWithComma_append, if_pos (by decide)]
  rw [joinedLines_succ line h, List.append_cons, endsWithComma_append, hfeed]

/-- A last line that is not blank decides for all lines joined. -/
theorem endsWithComma_joinedLines (line : Nat → List Char) {first last : Nat} (h : first ≤ last)
    (hblank : (line last).all isBlank = false) :
    endsWithComma (joinedLines line first last) = endsWithComma (line last) := by
  rcases Nat.eq_or_lt_of_le h with rfl | hlt
  · rw [joinedLines_self]
  · obtain ⟨last, rfl⟩ : ∃ k, last = k + 1 := ⟨last - 1, by omega⟩
    rw [endsWithComma_joinedLines_succ line (by omega), if_neg (by simp [hblank])]

/-- A line on which a declaration starts is not blank. -/
theorem not_blank_of_startsUse {masked : List Char} (h : startsUse masked = true) :
    masked.all isBlank = false := by
  by_contra hblank
  have hnil : trimStart masked = [] := by
    rw [trimStart, List.dropWhile_eq_nil_iff]
    simpa using hblank
  rw [startsUse, hnil] at h
  cases h

theorem bracketDelta_of_blank {c : Char} (h : isBlank c = true) : bracketDelta c = 0 := by
  unfold bracketDelta
  split_ifs with hopening hclosing
  · rcases hopening with rfl | rfl | rfl <;> exact absurd h (by decide)
  · rcases hclosing with rfl | rfl | rfl <;> exact absurd h (by decide)
  · rfl

/-- No bracket opens or closes on a blank line. -/
theorem Document.bracketChange_of_blank {d : Document} {n : Nat}
    (h : (d.maskedLine n).all isBlank = true) : d.bracketChange n = 0 := by
  have hzero : (d.maskedLine n).map bracketDelta = (d.maskedLine n).map fun _ => 0 := by
    refine List.map_congr_left ?_
    intro c hc
    exact bracketDelta_of_blank (List.all_eq_true.mp h c hc)
  rw [bracketChange, hzero]
  simp

/-- **A comma at the end of a declaration is overlooked exactly where a blank line follows it.** A
declaration that is complete before the document ends, read on the mask, ends with a comma exactly
if its last line is blank on the mask. In this case the last line is not its only one, and the line
before it ends with the comma. -/
theorem endsWithComma_joined_iff {cs : List Char} {u : UseDeclaration}
    (hu : u ∈ (Document.ofText cs).useDeclarations) (hclosed : u.closed = true) :
    let d := Document.ofText cs
    let last := d.lastUseLine u.line
    (endsWithComma (joinedLines d.maskedLine u.line last) = true ↔
        (d.maskedLine last).all isBlank = true) ∧
      ((d.maskedLine last).all isBlank = true →
        u.line < last ∧ endsWithComma (d.maskedLine (last - 1)) = true) := by
  intro d last
  rw [Document.useDeclarations_eq cs] at hu
  have hspans := ((d.declarationsFrom_partition (Nat.le_refl 1)).1 u hu).2
  have hends : d.UseEnds u.line last := hspans.closed_iff.mp hclosed
  have hbefore : (d.maskedLine last).all isBlank = true →
      u.line < last ∧ endsWithComma (d.maskedLine (last - 1)) = true := by
    intro hblank
    have hne : u.line ≠ last := by
      intro h
      have hstart := not_blank_of_startsUse hspans.starts
      rw [h, hblank] at hstart
      cases hstart
    have hlt : u.line < last := Nat.lt_of_le_of_ne hspans.line_le_last hne
    refine ⟨hlt, ?_⟩
    -- The blank line closes no bracket, so only the comma kept the declaration open before it.
    have hgoes := hspans.goes_on (last - 1) (by omega) (by omega)
    have hbrackets := hends.1
    rw [d.bracketsAfter_succ (n := last) hspans.line_le_last,
      Document.bracketChange_of_blank hblank] at hbrackets
    have hnonneg := d.bracketsAfter_nonneg u.line (last - u.line)
    have hopen : d.bracketsAfter u.line (last - 1 + 1 - u.line) = 0 := by
      rw [show last - 1 + 1 - u.line = last - u.line by omega]
      omega
    by_contra h
    exact hgoes ⟨hopen, by simpa using h⟩
  refine ⟨⟨?_, ?_⟩, hbefore⟩
  · intro h
    by_contra hblank
    rw [endsWithComma_joinedLines _ hspans.line_le_last (by simpa using hblank), hends.2] at h
    cases h
  · intro hblank
    obtain ⟨hlt, hcomma⟩ := hbefore hblank
    obtain ⟨k, hk⟩ : ∃ k, last = k + 1 := ⟨last - 1, by omega⟩
    rw [hk, Nat.add_sub_cancel] at hcomma
    have hfull : (d.maskedLine k).all isBlank = false := by
      by_contra h
      rw [endsWithComma_of_blank (by simpa using h)] at hcomma
      cases hcomma
    rw [hk] at hblank ⊢
    rw [endsWithComma_joinedLines_succ _ (by omega), if_pos hblank,
      endsWithComma_joinedLines _ (by omega) hfull, hcomma]

/-- The second line of the text is a comment, so it ends the declaration behind its comma. -/
theorem endsWithComma_joined_iff_comment :
    let d := Document.ofString "use A, # a\n  # b\n  x: B"
    d.lastUseLine 1 = 2 ∧ endsWithComma (joinedLines d.maskedLine 1 (d.lastUseLine 1)) = true := by
  intro d
  have hu : (⟨1, "use A, # a\n  # b".toList, true⟩ : UseDeclaration) ∈ d.useDeclarations := by
    decide +kernel
  exact ⟨by decide +kernel, (endsWithComma_joined_iff hu rfl).1.mpr (by decide +kernel)⟩

/-- A declaration is complete on the second of four lines, although its lines up to there end with a
comma; the option on the third line is left out. -/
theorem use_cut_after_comma :
    let d := Document.ofString "use A,\n\n  x: B\nend"
    d.useDeclarations = [⟨1, "use A,\n".toList, true⟩] ∧ d.lastUseLine 1 < d.lineCount ∧
      endsWithComma (joinedLines d.maskedLine 1 (d.lastUseLine 1)) = true := by
  decide +kernel

end DslOutline
