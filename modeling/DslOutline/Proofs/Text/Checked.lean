import DslOutline.Proofs.Text.Lines

/-!
# Cuts and differences that can fail

Cutting a text between two offsets is total here, as is the difference of two numbers: an offset
inside a character goes to the next one, and a difference does not fall below zero. In the machine a
cut out of order, past the end or inside a character ends the program, and so does a difference
below zero. The functions of the namespace `Checked` give nothing in these cases. A reader that is
written with them has an answer only if it meets none of them on its way.

This module has the cuts that a line index makes. They succeed for every line number
(`lineText_eq`), and for every offset between two characters (`position_eq`).
-/

namespace DslOutline.Checked

open Text

/-! ### Cuts -/

/-- The text between two offsets, if they are in order, inside the text and between characters. -/
def slice (start stop : Nat) (cs : List Char) : Option (List Char) :=
  if start ≤ stop ∧ stop ≤ byteLength cs ∧ isBoundary start cs = true ∧ isBoundary stop cs = true
  then some (Text.slice start stop cs) else none

/-- The difference of two numbers, if it is one. -/
def sub (a b : Nat) : Option Nat :=
  if b ≤ a then some (a - b) else none

/-- A position, if its line and column count from 1. -/
def newPosition (line column : Nat) : Option Position :=
  if 1 ≤ line ∧ 1 ≤ column then some ⟨line, column⟩ else none

/-- The length of a prefix is an offset between two characters. -/
theorem isBoundary_append (p q : List Char) : isBoundary (byteLength p) (p ++ q) = true := by
  induction p with
  | nil => cases q <;> rfl
  | cons c p ih =>
      obtain ⟨k, hk⟩ : ∃ k, c.utf8Size + byteLength p = k + 1 :=
        ⟨c.utf8Size + byteLength p - 1, by have := c.utf8Size_pos; omega⟩
      rw [byteLength_cons, List.cons_append, hk, isBoundary, ← hk, Nat.add_sub_cancel_left, ih]
      simp

/-- A cut at the lengths of two nested prefixes succeeds. -/
theorem slice_append (p m q : List Char) :
    slice (byteLength p) (byteLength (p ++ m)) (p ++ (m ++ q)) = some m := by
  have hstop := isBoundary_append (p ++ m) q
  rw [List.append_assoc] at hstop
  rw [slice, if_pos, Text.slice_append]
  simp only [byteLength_append] at hstop ⊢
  exact ⟨by omega, by omega, isBoundary_append p _, hstop⟩

theorem slice_zero (p q : List Char) : slice 0 (byteLength p) (p ++ q) = some p :=
  slice_append [] p q

theorem slice_end (p q : List Char) :
    slice (byteLength p) (byteLength (p ++ q)) (p ++ q) = some q := by
  have := slice_append p q []
  rwa [List.append_nil] at this

theorem sub_eq {a b : Nat} (h : b ≤ a) : sub a b = some (a - b) :=
  if_pos h

theorem newPosition_eq {line column : Nat} (hline : 1 ≤ line) (hcolumn : 1 ≤ column) :
    newPosition line column = some ⟨line, column⟩ :=
  if_pos ⟨hline, hcolumn⟩

/-! ### The cuts of a line index -/

/-- The number of lines. -/
def lineCount (index : LineIndex) : Option Nat :=
  if index.length = 0 then some 0
  else if index.endsWithNewline then sub index.starts.length 1
  else some index.starts.length

/-- Line `n` of a text, without its terminator. -/
def lineText (index : LineIndex) (cs : List Char) (n : Nat) : Option (List Char) :=
  (slice (index.lineStart n) (index.lineEnd n) cs).map trimTerminator

/-- The position of an offset. -/
def position (index : LineIndex) (cs : List Char) (offset : Nat) : Option Position := do
  let offset := min offset index.length
  let line ← sub (index.starts.takeWhile (· ≤ offset)).length 1
  let start ← index.starts[line]?
  let before ← slice start offset cs
  newPosition (line + 1) (before.length + 1)

/-- The position just past the last character of line `n`. -/
def endOfLine (index : LineIndex) (cs : List Char) (n : Nat) : Option Position := do
  let text ← lineText index cs n
  newPosition (max n 1) (text.length + 1)

/-- The empty remainder after a final line feed is taken away only where there is a line feed. -/
theorem lineCount_eq (cs : List Char) :
    lineCount (.ofText cs) = some (LineIndex.ofText cs).lineCount := by
  have hpos : 1 ≤ (LineIndex.ofText cs).starts.length := by
    rw [LineIndex.length_starts]
    omega
  unfold lineCount LineIndex.lineCount
  rw [sub_eq hpos]
  split_ifs <;> rfl

/-- The lines of an index are pieces of the text: the starts of two lines, of any numbers, are the
lengths of nested prefixes. -/
theorem exists_getD_starts (cs : List Char) {k j : Nat} (h : k ≤ j) :
    ∃ p m q, cs = p ++ (m ++ q) ∧
      (LineIndex.ofText cs).starts.getD k (LineIndex.ofText cs).length = byteLength p ∧
      (LineIndex.ofText cs).starts.getD j (LineIndex.ofText cs).length = byteLength (p ++ m) := by
  have hpast : ∀ i, cs.count '\n' < i →
      (LineIndex.ofText cs).starts.getD i (LineIndex.ofText cs).length = byteLength cs := by
    intro i hi
    rw [List.getD_eq_getElem?_getD, List.getElem?_eq_none (by rw [LineIndex.length_starts]; omega)]
    rfl
  have hstart : ∀ p q, cs = p ++ q → WholeLines p →
      (LineIndex.ofText cs).starts.getD (p.count '\n') (LineIndex.ofText cs).length =
        byteLength p := by
    rintro p q rfl hp
    rw [List.getD_eq_getElem?_getD, LineIndex.getElem?_starts hp]
    rfl
  by_cases hk : k ≤ cs.count '\n'
  · by_cases hj : j ≤ cs.count '\n'
    · obtain ⟨pre, rest, hcs, hpre, rfl⟩ := exists_wholeLines_prefix cs j hj
      obtain ⟨p, m, rfl, hp, rfl⟩ := exists_wholeLines_prefix pre k h
      refine ⟨p, m, rest, by rw [hcs, List.append_assoc], ?_, hstart _ rest hcs hpre⟩
      exact hstart p (m ++ rest) (by rw [hcs, List.append_assoc]) hp
    · obtain ⟨p, rest, hcs, hp, rfl⟩ := exists_wholeLines_prefix cs k hk
      refine ⟨p, rest, [], by rw [hcs, List.append_nil], hstart p rest hcs hp, ?_⟩
      rw [hpast j (by omega), ← hcs]
  · exact ⟨cs, [], [], by simp, hpast k (by omega), by rw [hpast j (by omega), List.append_nil]⟩

/-- The text of every line can be cut out, whether there is such a line or not. -/
theorem lineText_eq (cs : List Char) (n : Nat) :
    lineText (.ofText cs) cs n = some ((LineIndex.ofText cs).lineText cs n) := by
  obtain ⟨p, m, q, hcs, hstart, hend⟩ := exists_getD_starts cs (Nat.sub_le n 1)
  have hcut : slice (byteLength p) (byteLength (p ++ m)) cs = some m := by
    rw [hcs]
    exact slice_append p m q
  have htext : Text.slice (byteLength p) (byteLength (p ++ m)) cs = m := by
    rw [hcs]
    exact Text.slice_append p m q
  unfold lineText LineIndex.lineText LineIndex.lineStart LineIndex.lineEnd
  rw [hstart, hend, hcut, htext]
  rfl

/-- An offset between two characters has a position. -/
theorem position_eq {cs p q : List Char} (h : cs = p ++ q) :
    position (.ofText cs) cs (byteLength p) =
      some ((LineIndex.ofText cs).position cs (byteLength p)) := by
  obtain ⟨pre, a, rfl, hpre, ha⟩ := exists_wholeLines_append p
  have hmin : min (byteLength (pre ++ a)) (LineIndex.ofText cs).length = byteLength (pre ++ a) := by
    rw [h]
    simp [LineIndex.ofText]
  have hcount : (pre ++ a).count '\n' = pre.count '\n' := by
    rw [List.count_append, List.count_eq_zero.mpr ha, Nat.add_zero]
  have hlines : ((LineIndex.ofText cs).starts.takeWhile (· ≤ byteLength (pre ++ a))).length =
      pre.count '\n' + 1 := by
    rw [h, LineIndex.takeWhile_starts, List.length_cons, length_startsAfterNewlines, hcount]
  have hcs : cs = pre ++ (a ++ q) := by rw [h, List.append_assoc]
  have hstart : (LineIndex.ofText cs).starts[pre.count '\n']? = some (byteLength pre) := by
    rw [hcs]
    exact LineIndex.getElem?_starts hpre (a ++ q)
  have hcut : slice (byteLength pre) (byteLength (pre ++ a)) cs = some a := by
    rw [hcs]
    exact slice_append pre a q
  have hposition := LineIndex.position_eq hpre ha q
  rw [← hcs] at hposition
  unfold position
  simp only [hmin, hlines, sub_eq (Nat.le_add_left 1 _), Nat.add_sub_cancel, hstart, hcut,
    Option.bind_eq_bind, Option.bind_some, hposition]
  exact newPosition_eq (Nat.le_add_left 1 _) (Nat.le_add_left 1 _)

/-- Line ends have a position on every line, also on one that is not there. -/
theorem endOfLine_eq (cs : List Char) (n : Nat) :
    endOfLine (.ofText cs) cs n = some ((LineIndex.ofText cs).endOfLine cs n) := by
  unfold endOfLine
  rw [lineText_eq]
  exact newPosition_eq (Nat.le_max_right n 1) (Nat.le_add_left 1 _)

end DslOutline.Checked
