import DslOutline.Lexeme.Basic
import DslOutline.Proofs.Text.Bytes

/-!
# Lexemes and spans tile the text

Reading neither skips nor repeats a character: the texts of the lexemes, none of which is empty,
make up the text that was read (`flatMap_text_lex`). Their spans therefore follow one another
(`pairwise_spansFrom`), and a byte is held by at most one of them. `InCode cs i` says that the span
which holds byte `i` of the whole text is code.
-/

namespace DslOutline

open Text

/-! ### Reading unit by unit -/

theorem lex_cons (s : LexState) (before : Option Char) (c : Char) (rest : List Char) :
    lex s before (c :: rest) =
      ⟨c :: rest.take (s.move before c rest).extra, (s.move before c rest).literal,
        (s.move before c rest).comment, (s.move before c rest).next⟩ ::
      lex (s.move before c rest).next (c :: rest.take (s.move before c rest).extra).getLast?
        (rest.drop (s.move before c rest).extra) := by
  rw [lex]

/-- The texts of the lexemes are the text that was read. -/
theorem flatMap_text_lex (s : LexState) (before : Option Char) (cs : List Char) :
    (lex s before cs).flatMap Lexeme.text = cs := by
  fun_induction lex s before cs with
  | case1 => rfl
  | case2 s before c rest m unit ih =>
      rw [List.flatMap_cons, ih]
      simp only [unit, List.cons_append, List.take_append_drop]

/-- Every lexeme has at least one character. -/
theorem text_ne_nil_of_mem_lex {s : LexState} {before : Option Char} {cs : List Char} {l : Lexeme}
    (h : l ∈ lex s before cs) : l.text ≠ [] := by
  fun_induction lex s before cs with
  | case1 => cases h
  | case2 s before c rest m unit ih =>
      rcases List.mem_cons.mp h with rfl | h
      · exact List.cons_ne_nil _ _
      · exact ih h

/-! ### Spans -/

namespace Span

/-- Whether keywords count in this span. -/
def isCode (s : Span) : Bool :=
  !s.literal && !s.comment

/-- Byte `i` is one of the span's bytes. -/
def Covers (s : Span) (i : Nat) : Prop :=
  s.start ≤ i ∧ i < s.stop

end Span

/-- The spans of lexemes start at or after the place where the first lexeme starts. -/
theorem le_start_of_mem_spansOf {offset : Nat} {ls : List Lexeme} {s : Span}
    (h : s ∈ spansOf offset ls) : offset ≤ s.start := by
  induction ls generalizing offset with
  | nil => cases h
  | cons l ls ih =>
      rcases List.mem_cons.mp h with rfl | h
      · exact Nat.le_refl _
      · have := ih h
        omega

/-- Spans of lexemes do not overlap and stand in order. -/
theorem pairwise_spansOf (offset : Nat) (ls : List Lexeme) :
    (spansOf offset ls).Pairwise fun s t => s.stop ≤ t.start := by
  induction ls generalizing offset with
  | nil => exact List.Pairwise.nil
  | cons l ls ih =>
      refine List.Pairwise.cons ?_ (ih _)
      intro t ht
      exact le_start_of_mem_spansOf ht

/-- A span of a lexeme with text holds at least one byte. -/
theorem start_lt_stop_of_mem_spansOf {offset : Nat} {ls : List Lexeme}
    (hls : ∀ l ∈ ls, l.text ≠ []) {s : Span} (h : s ∈ spansOf offset ls) : s.start < s.stop := by
  induction ls generalizing offset with
  | nil => cases h
  | cons l ls ih =>
      rcases List.mem_cons.mp h with rfl | h
      · have hne := hls l List.mem_cons_self
        have hpos : byteLength l.text ≠ 0 := fun h0 => hne (byteLength_eq_zero.mp h0)
        show offset < offset + byteLength l.text
        omega
      · exact ih (fun l hl => hls l (List.mem_cons_of_mem _ hl)) h

/-- The left-over bytes of a cut character are one span each. -/
theorem mem_straySpans {offset n : Nat} {s : Span} (h : s ∈ straySpans offset n) :
    ∃ k, k < n ∧ s.start = offset + k ∧ s.stop = offset + k + 1 := by
  induction n generalizing offset with
  | zero => cases h
  | succ n ih =>
      rcases List.mem_cons.mp h with rfl | h
      · exact ⟨0, by omega, rfl, rfl⟩
      · obtain ⟨k, hk, hstart, hstop⟩ := ih h
        exact ⟨k + 1, by omega, by omega, by omega⟩

/-- The bytes that are left of a cut character follow one another. -/
theorem pairwise_straySpans (offset n : Nat) :
    (straySpans offset n).Pairwise fun s t => s.stop ≤ t.start := by
  induction n generalizing offset with
  | zero => exact List.Pairwise.nil
  | succ n ih =>
      refine List.Pairwise.cons ?_ (ih _)
      intro t ht
      obtain ⟨k, -, hstart, -⟩ := mem_straySpans ht
      show offset + 1 ≤ t.start
      omega

/-- The spans from any offset on do not overlap and stand in order. -/
theorem pairwise_spansFrom (cs : List Char) (start : Nat) :
    (spansFrom cs start).Pairwise fun s t => s.stop ≤ t.start := by
  unfold spansFrom
  rw [List.pairwise_append]
  refine ⟨pairwise_straySpans _ _, pairwise_spansOf _ _, ?_⟩
  intro s hs t ht
  obtain ⟨k, hk, -, hstop⟩ := mem_straySpans hs
  have hle := le_start_of_mem_spansOf ht
  omega

/-- Every span from any offset on holds at least one byte. -/
theorem start_lt_stop_of_mem_spansFrom {cs : List Char} {start : Nat} {s : Span}
    (h : s ∈ spansFrom cs start) : s.start < s.stop := by
  rcases List.mem_append.mp h with h | h
  · obtain ⟨k, -, hstart, hstop⟩ := mem_straySpans h
    omega
  · exact start_lt_stop_of_mem_spansOf (fun l hl => text_ne_nil_of_mem_lex hl) h

/-- No span starts before the place where reading starts. -/
theorem le_start_of_mem_spansFrom {cs : List Char} {start : Nat} {s : Span}
    (h : s ∈ spansFrom cs start) : min start (byteLength cs) ≤ s.start := by
  rcases List.mem_append.mp h with h | h
  · obtain ⟨k, -, hstart, -⟩ := mem_straySpans h
    omega
  · have := le_start_of_mem_spansOf h
    omega

/-- A byte is held by at most one span. -/
theorem span_eq_of_covers {cs : List Char} {start i : Nat} {s t : Span}
    (hs : s ∈ spansFrom cs start) (ht : t ∈ spansFrom cs start) (hsi : s.Covers i)
    (hti : t.Covers i) : s = t := by
  -- of two different spans one comes first, and it stops before the other starts
  have hapart : ∀ {s t : Span}, s.stop ≤ t.start → s.Covers i → t.Covers i → False := by
    intro s t hle hs ht
    have := hs.2
    have := ht.1
    omega
  refine List.Pairwise.forall_of_forall_of_flip (R := fun s t => s.Covers i → t.Covers i → s = t)
    (fun s _ _ _ => rfl) ?_ ?_ hs ht hsi hti
  · exact (pairwise_spansFrom cs start).imp fun hle hs ht => (hapart hle hs ht).elim
  · exact (pairwise_spansFrom cs start).imp fun hle ht hs => (hapart hle hs ht).elim

/-! ### Code -/

/-- Byte `i` of a text belongs to code: the one span that holds it is neither literal nor
comment. -/
def InCode (cs : List Char) (i : Nat) : Prop :=
  ∃ s ∈ spansFrom cs 0, s.Covers i ∧ s.isCode = true ∧ ∀ t ∈ spansFrom cs 0, t.Covers i → t = s

/-- From the start of the text the spans are those of its lexemes. -/
theorem spansFrom_zero (cs : List Char) : spansFrom cs 0 = spansOf 0 (lexemes cs) := by
  cases cs <;> rfl

/-- The bytes of a code span belong to code. -/
theorem inCode_of_covers {cs : List Char} {s : Span} (hs : s ∈ spansOf 0 (lexemes cs))
    (hcode : s.isCode = true) {i : Nat} (hi : s.Covers i) : InCode cs i := by
  rw [← spansFrom_zero] at hs
  exact ⟨s, hs, hi, hcode, fun t ht hti => span_eq_of_covers ht hs hti hi⟩

end DslOutline
