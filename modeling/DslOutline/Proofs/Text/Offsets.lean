import DslOutline.Proofs.Text.Checked

/-!
# Offsets and positions

A position names an offset between two characters: the characters that come before it on its line
(`LineIndex.before`) lead from the start of the line to the offset. So the offset is found again
from the position. One character moves the position forward (`Position.lt_after`), to the next
column or to the next line. Hence positions are in the order of their offsets, and no two offsets
have one position. The main statement is `position_faithful`.
-/

namespace DslOutline.Text

/-! ### Boundaries -/

/-- An offset between two characters is the length of what comes before it. -/
theorem exists_of_isBoundary {o : Nat} {cs : List Char} (h : isBoundary o cs = true) :
    ∃ p q, cs = p ++ q ∧ byteLength p = o := by
  induction cs generalizing o with
  | nil =>
      cases o with
      | zero => exact ⟨[], [], rfl, rfl⟩
      | succ o => cases h
  | cons c cs ih =>
      cases o with
      | zero => exact ⟨[], c :: cs, rfl, rfl⟩
      | succ o =>
          rw [isBoundary, Bool.and_eq_true, decide_eq_true_eq] at h
          obtain ⟨p, q, rfl, hlen⟩ := ih h.2
          refine ⟨c :: p, q, rfl, ?_⟩
          rw [byteLength_cons, hlen]
          omega

/-! ### The order of positions -/

namespace Position

theorem lt_irrefl (p : Position) : ¬ p < p := by
  rintro (h | ⟨-, h⟩) <;> omega

theorem lt_trans {p q r : Position} (hpq : p < q) (hqr : q < r) : p < r := by
  rcases hpq with hpq | ⟨hpq, hcolumn⟩ <;> rcases hqr with hqr | ⟨hqr, hcolumn'⟩
  · exact Or.inl (by omega)
  · exact Or.inl (by omega)
  · exact Or.inl (by omega)
  · exact Or.inr ⟨by omega, by omega⟩

/-- A character moves the position forward. -/
theorem lt_after (p : Position) (c : Char) : p < p.after c := by
  unfold after
  split_ifs
  · exact Or.inl (Nat.lt_succ_self p.line)
  · exact Or.inr ⟨rfl, Nat.lt_succ_self p.column⟩

/-- Some characters move the position forward. -/
theorem lt_foldl_after {cs : List Char} (hne : cs ≠ []) (p : Position) :
    p < cs.foldl after p := by
  induction cs generalizing p with
  | nil => exact absurd rfl hne
  | cons c cs ih =>
      rw [List.foldl_cons]
      by_cases hcs : cs = []
      · rw [hcs]
        exact p.lt_after c
      · exact lt_trans (p.lt_after c) (ih hcs _)

end Position

namespace LineIndex

/-- The characters that come before a position on its line. -/
def before (index : LineIndex) (cs : List Char) (p : Position) : List Char :=
  (dropBytes (index.lineStart p.line) cs).take (p.column - 1)

/-- Positions are in the order of their offsets. -/
theorem position_lt_position {cs : List Char} {o₁ o₂ : Nat} (h₁ : isBoundary o₁ cs = true)
    (h₂ : isBoundary o₂ cs = true) (hlt : o₁ < o₂) :
    (ofText cs).position cs o₁ < (ofText cs).position cs o₂ := by
  obtain ⟨p₁, q₁, hcs₁, rfl⟩ := exists_of_isBoundary h₁
  obtain ⟨p₂, q₂, hcs₂, rfl⟩ := exists_of_isBoundary h₂
  obtain ⟨x, rfl⟩ := prefix_of_byteLength_le ⟨q₁, hcs₁.symm⟩ ⟨q₂, hcs₂.symm⟩ (Nat.le_of_lt hlt)
  have hne : x ≠ [] := by
    rintro rfl
    simp at hlt
  have hposition₁ := position_append p₁ q₁
  have hposition₂ := position_append (p₁ ++ x) q₂
  rw [← hcs₁] at hposition₁
  rw [← hcs₂] at hposition₂
  rw [hposition₁, hposition₂, endPosition_append]
  exact Position.lt_foldl_after hne _

/-- What comes before the position of an offset leads from the start of its line to the offset. -/
theorem before_position {pre a q : List Char} (hpre : WholeLines pre) (ha : '\n' ∉ a) :
    (ofText (pre ++ (a ++ q))).before (pre ++ (a ++ q))
      ((ofText (pre ++ (a ++ q))).position (pre ++ (a ++ q)) (byteLength (pre ++ a))) = a := by
  rw [before, position_eq hpre ha, lineStart_wholeLines hpre, dropBytes_append,
    Nat.add_sub_cancel, List.take_left]

/-- The last line ends with the text. -/
theorem lineEnd_lineCount (cs : List Char) :
    (ofText cs).lineEnd (ofText cs).lineCount = byteLength cs := by
  rw [lineEnd, List.getD_eq_getElem?_getD, lineCount_eq]
  split_ifs with hnil hlast
  · subst hnil
    rfl
  · -- the text is made of whole lines, so that a further line would start at its end
    have hwhole : WholeLines cs := by
      intro c hc
      rw [hlast] at hc
      exact (Option.some.inj hc).symm
    have hstart := getElem?_starts hwhole []
    rw [List.append_nil] at hstart
    rw [hstart]
    rfl
  · rw [List.getElem?_eq_none (by rw [length_starts])]
    rfl

end LineIndex

open LineIndex in
/-- **Offsets and positions convert into each other.** An offset between two characters has a
position, which counts from 1. The characters before the position on its line, as many as its column
says, have no line feed in them and lead from the start of the line to the offset. Of two such
offsets the smaller one has the smaller position, so different offsets have different positions.
Each line starts in column 1; it ends where the next line starts, and the last one ends with the
text. -/
theorem position_faithful (cs : List Char) :
    (∀ o, isBoundary o cs = true →
      ∃ p, Checked.position (ofText cs) cs o = some p ∧ (ofText cs).position cs o = p ∧
        1 ≤ p.line ∧ 1 ≤ p.column ∧
        ((ofText cs).before cs p).length = p.column - 1 ∧
        (ofText cs).lineStart p.line + byteLength ((ofText cs).before cs p) = o ∧
        '\n' ∉ (ofText cs).before cs p) ∧
    (∀ o₁ o₂, isBoundary o₁ cs = true → isBoundary o₂ cs = true →
      (o₁ < o₂ → (ofText cs).position cs o₁ < (ofText cs).position cs o₂) ∧
      ((ofText cs).position cs o₁ = (ofText cs).position cs o₂ → o₁ = o₂)) ∧
    ∀ n, 1 ≤ n → n ≤ (ofText cs).lineCount →
      (ofText cs).position cs ((ofText cs).lineStart n) = ⟨n, 1⟩ ∧
      (n < (ofText cs).lineCount → (ofText cs).lineEnd n = (ofText cs).lineStart (n + 1)) ∧
      (n = (ofText cs).lineCount → (ofText cs).lineEnd n = byteLength cs) := by
  refine ⟨?_, ?_, ?_⟩
  · intro o ho
    obtain ⟨p, q, rfl, rfl⟩ := exists_of_isBoundary ho
    have hchecked := Checked.position_eq (rfl : p ++ q = p ++ q)
    obtain ⟨pre, a, rfl, hpre, ha⟩ := exists_wholeLines_append p
    rw [List.append_assoc] at hchecked ⊢
    refine ⟨_, hchecked, rfl, ?_⟩
    rw [before_position hpre ha, position_eq hpre ha, lineStart_wholeLines hpre, byteLength_append]
    exact ⟨Nat.le_add_left 1 _, Nat.le_add_left 1 _, rfl, rfl, ha⟩
  · intro o₁ o₂ h₁ h₂
    refine ⟨position_lt_position h₁ h₂, ?_⟩
    intro hsame
    rcases Nat.lt_trichotomy o₁ o₂ with hlt | heq | hlt
    · have hpos := position_lt_position h₁ h₂ hlt
      rw [hsame] at hpos
      exact absurd hpos (Position.lt_irrefl _)
    · exact heq
    · have hpos := position_lt_position h₂ h₁ hlt
      rw [hsame] at hpos
      exact absurd hpos (Position.lt_irrefl _)
  · intro n h1 hn
    obtain ⟨pre, body, rest, hline⟩ := exists_lineAt h1 hn
    refine ⟨?_, ?_, ?_⟩
    · rw [hline.lineStart, hline.number]
      have hposition := position_eq (a := []) hline.whole List.not_mem_nil (body ++ rest)
      rwa [List.nil_append, ← hline.text_eq, List.append_nil] at hposition
    · intro _
      rw [lineEnd, lineStart, Nat.add_sub_cancel]
    · rintro rfl
      exact lineEnd_lineCount cs

open LineIndex in
/-- A wide character, a carriage return and an empty line come before offset 6. -/
theorem position_faithful_wide :
    let cs := "é\r\n\nab".toList
    isBoundary 2 cs = true ∧ isBoundary 6 cs = true ∧
      (ofText cs).position cs 6 = ⟨3, 2⟩ ∧
      (ofText cs).lineStart 3 + byteLength ((ofText cs).before cs ⟨3, 2⟩) = 6 ∧
      (ofText cs).position cs 2 < (ofText cs).position cs 6 ∧
      (ofText cs).lineCount = 3 ∧
      (ofText cs).position cs ((ofText cs).lineStart 2) = ⟨2, 1⟩ ∧
      (ofText cs).lineEnd 3 = byteLength cs := by
  intro cs
  have h2 : isBoundary 2 cs = true := by decide +kernel
  have h6 : isBoundary 6 cs = true := by decide +kernel
  have hposition : (ofText cs).position cs 6 = ⟨3, 2⟩ := by decide +kernel
  have hcount : (ofText cs).lineCount = 3 := by decide +kernel
  obtain ⟨hback, horder, hlines⟩ := position_faithful cs
  obtain ⟨p, -, hp, -, -, -, hoffset, -⟩ := hback 6 h6
  rw [← hp, hposition] at hoffset
  refine ⟨h2, h6, hposition, hoffset, (horder 2 6 h2 h6).1 (by decide), hcount, ?_, ?_⟩
  · exact (hlines 2 (by decide) (by rw [hcount]; decide)).1
  · exact (hlines 3 (by decide) (Nat.le_of_eq hcount.symm)).2.2 hcount.symm

end DslOutline.Text
