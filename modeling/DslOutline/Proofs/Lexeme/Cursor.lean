import DslOutline.Proofs.Lexeme.Reading

/-!
# A cursor over the bytes

A cursor stands at an offset, reads the unit there and moves on by its width. That every step moves
forward, stays inside the text and cuts no character is not visible in the widths themselves. But
where a character starts, a step reads the unit that `lex` reads there (`Cursor.advance?_append`),
and among the bytes left of a cut character each step takes one byte (`Cursor.advance?_inside`). So
the answers of a cursor are the spans of the text (`Cursor.answer_ofOffset`), and these tile it
(`tiles_spansFrom`). The main statement is `cursor_tiles`.
-/

namespace DslOutline

open Text

/-! ### The cursor -/

/-- A place in a text and the state of reading there. -/
structure Cursor where
  /-- The offset of the next unit. -/
  offset : Nat
  /-- What is remembered of the units before. -/
  state : LexState
deriving Repr, DecidableEq

namespace Cursor

/-- A new cursor reads code, from the end of the text if the offset is past it. -/
def ofOffset (cs : List Char) (start : Nat) : Cursor :=
  ⟨min start (byteLength cs), .start⟩

/-- One step: the unit that was read and the cursor behind it, or nothing at the end of the text. A
step is made at least one byte wide and is cut at the end of the text. -/
def advance? (cs : List Char) (k : Cursor) : Option (Span × Cursor) :=
  match byteAt? cs k.offset with
  | none => none
  | some b =>
    let r := k.state.readInMode cs k.offset b
    let stop := min (k.offset + max r.width 1) (byteLength cs)
    some (⟨k.offset, stop, r.literal || !k.state.interpolations.isEmpty, r.comment, r.next.isOpen⟩,
      ⟨stop, r.next⟩)

/-- The cursor after one call: it stays where it is once nothing is left. -/
def call (cs : List Char) (k : Cursor) : Cursor :=
  ((k.advance? cs).map Prod.snd).getD k

/-- What the cursor answers to the call that comes after `n` others. -/
def answer (cs : List Char) : Nat → Cursor → Option Span
  | 0, k => (k.advance? cs).map Prod.fst
  | n + 1, k => answer cs n (k.call cs)

end Cursor

/-! ### Steps -/

namespace Cursor

/-- Where a character starts, a step reads one unit of the text. -/
theorem advance?_append {s : LexState} (hs : s.IsAscii) (p rest : List Char) (c : Char) :
    advance? (p ++ c :: rest) ⟨byteLength p, s⟩ =
      let m := s.move p.getLast? c rest
      let stop := byteLength p + byteLength (c :: rest.take m.extra)
      some (⟨byteLength p, stop, m.literal, m.comment, m.next.isOpen⟩, ⟨stop, m.next⟩) := by
  obtain ⟨b, hb, hlooks⟩ := exists_byteAt?_cons rest c.utf8Size_pos
  have hbyte : byteAt? (p ++ c :: rest) (byteLength p) = some b :=
    (byteAt?_append p (c :: rest) 0).trans hb
  rw [advance?, hbyte, LexState.move]
  dsimp only
  rw [readInMode_append p rest hs hlooks, Move.reading]
  generalize s.moveInMode p.getLast? c rest = m
  -- the unit has a byte, and it is a part of the text
  have hstop : min (byteLength p + max (byteLength (c :: rest.take m.extra)) 1)
      (byteLength (p ++ c :: rest)) = byteLength p + byteLength (c :: rest.take m.extra) := by
    have hpos := c.utf8Size_pos
    have hpart := byteLength_le_of_prefix (List.take_prefix m.extra rest)
    rw [byteLength_append, byteLength_cons, byteLength_cons]
    omega
  rw [hstop]

/-- Inside a character, a step of a new cursor takes one byte of code. -/
theorem advance?_inside {cs : List Char} {i : Nat} (hi : i < byteLength cs)
    (h : isBoundary i cs = false) :
    advance? cs ⟨i, .start⟩ = some (⟨i, i + 1, false, false, false⟩, ⟨i + 1, .start⟩) := by
  obtain ⟨hwidth, b, hbyte, hwide⟩ := exists_byteAt?_inside hi h
  have hread : LexState.start.readInMode cs i b = ⟨0, false, false, .start⟩ := by
    rw [← hwidth]
    exact readInCode_of_wide .start hwide
  have hstop : min (i + max 0 1) (byteLength cs) = i + 1 := by omega
  rw [advance?, hbyte]
  dsimp only
  rw [hread, hstop]
  rfl

/-! ### Runs -/

/-- At the end of the text a cursor answers with nothing, now and later. -/
theorem answer_nil {cs : List Char} {k : Cursor} (h : byteLength cs ≤ k.offset) (n : Nat) :
    answer cs n k = none := by
  have hstep : k.advance? cs = none := by
    rw [advance?, byteAt?_eq_none_iff.mpr h]
  induction n with
  | zero => rw [answer, hstep, Option.map_none]
  | succ n ih => rwa [answer, call, hstep, Option.map_none, Option.getD_none]

/-- If a step gives a span and moves to a cursor that answers with `ss`, the answers are the span
and then `ss`. -/
theorem answer_cons {cs : List Char} {k next : Cursor} {s : Span} {ss : List Span}
    (hstep : k.advance? cs = some (s, next)) (h : ∀ n, answer cs n next = ss[n]?) (n : Nat) :
    answer cs n k = (s :: ss)[n]? := by
  cases n with
  | zero =>
      rw [answer, hstep]
      rfl
  | succ n =>
      rw [answer, call, hstep, Option.map_some, Option.getD_some, h, List.getElem?_cons_succ]

/-- From a place where a character starts, a cursor answers with the spans of the lexemes. -/
theorem answer_lex {s : LexState} (hs : s.IsAscii) (p q : List Char) (n : Nat) :
    answer (p ++ q) n ⟨byteLength p, s⟩ = (spansOf (byteLength p) (lex s p.getLast? q))[n]? := by
  generalize hbefore : p.getLast? = before
  fun_induction lex s before q generalizing p n with
  | case1 s before =>
      rw [List.append_nil]
      exact answer_nil (Nat.le_refl _) n
  | case2 s before c rest m unit ih =>
      subst hbefore
      have htext : p ++ c :: rest = p ++ unit ++ rest.drop m.extra := by
        rw [List.append_assoc, List.cons_append, List.take_append_drop]
      have hlast : (p ++ unit).getLast? = unit.getLast? :=
        List.getLast?_append_of_ne_nil _ (List.cons_ne_nil _ _)
      refine answer_cons (advance?_append hs p rest c) (fun n => ?_) n
      rw [htext, ← byteLength_append]
      exact ih (hs.move p.getLast? c rest) (p ++ unit) n hlast

/-- Among the bytes left of a cut character, a cursor answers with one span for each byte. -/
theorem answer_stray {cs : List Char} {i stray : Nat} {ss : List Span}
    (hinside : ∀ k < stray, i + k < byteLength cs ∧ isBoundary (i + k) cs = false)
    (h : ∀ n, answer cs n ⟨i + stray, .start⟩ = ss[n]?) (n : Nat) :
    answer cs n ⟨i, .start⟩ = (straySpans i stray ++ ss)[n]? := by
  induction stray generalizing i n with
  | zero => exact h n
  | succ stray ih =>
      obtain ⟨hi, hboundary⟩ := hinside 0 (Nat.succ_pos _)
      refine answer_cons (advance?_inside hi hboundary) (fun n => ih ?_ ?_ n) n
      · intro k hk
        have := hinside (k + 1) (Nat.succ_lt_succ hk)
        rwa [Nat.add_right_comm]
      · rwa [Nat.add_right_comm]

/-- The answers of a new cursor are the spans of the text. -/
theorem answer_ofOffset (cs : List Char) (start n : Nat) :
    answer cs n (ofOffset cs start) = (spansFrom cs start)[n]? := by
  obtain ⟨p, hsplit, hbefore, hlen⟩ := enterAt_spec none start cs
  rw [Option.or_none] at hbefore
  have hle : byteLength p ≤ byteLength cs := byteLength_le_of_prefix ⟨_, hsplit.symm⟩
  refine answer_stray ?_ (fun n => ?_) n
  · intro k hk
    -- a character is cut only inside the text
    have hmin : min start (byteLength cs) = start := by omega
    rw [hmin] at hlen ⊢
    exact ⟨by omega, isBoundary_stray hk⟩
  · rw [← hlen, hbefore]
    have hanswer := answer_lex LexState.isAscii_start p (enterAt none start cs).rest n
    rwa [← hsplit] at hanswer

end Cursor

/-! ### The tiling -/

/-- Spans that follow one another without gaps from one offset to another, each with a byte at
least. -/
inductive Tiles : Nat → Nat → List Span → Prop
  | nil (offset : Nat) : Tiles offset offset []
  | cons {s : Span} {stop : Nat} {ss : List Span} : s.start < s.stop → Tiles s.stop stop ss →
      Tiles s.start stop (s :: ss)

namespace Tiles

variable {a b c : Nat} {ss ts : List Span}

/-- Spans up to an offset and spans from there on tile the whole. -/
theorem append (hss : Tiles a b ss) (hts : Tiles b c ts) : Tiles a c (ss ++ ts) := by
  induction hss with
  | nil => exact hts
  | cons hlt _ ih => exact .cons hlt (ih hts)

theorem start_le_stop (h : Tiles a b ss) : a ≤ b := by
  induction h with
  | nil => exact Nat.le_refl _
  | cons hlt _ ih => exact Nat.le_trans (Nat.le_of_lt hlt) ih

/-- Each span has a byte at least and lies between the two offsets. -/
theorem bounds (h : Tiles a b ss) {s : Span} (hs : s ∈ ss) :
    a ≤ s.start ∧ s.start < s.stop ∧ s.stop ≤ b := by
  induction h with
  | nil => cases hs
  | cons hlt hrest ih =>
      rcases List.mem_cons.mp hs with rfl | hs
      · exact ⟨Nat.le_refl _, hlt, hrest.start_le_stop⟩
      · obtain ⟨hstart, hspan, hstop⟩ := ih hs
        exact ⟨by omega, hspan, hstop⟩

end Tiles

/-- The bytes that are left of a cut character, one span each. -/
theorem tiles_straySpans (offset n : Nat) : Tiles offset (offset + n) (straySpans offset n) := by
  induction n generalizing offset with
  | zero => exact .nil offset
  | succ n ih =>
      have hrest := ih (offset + 1)
      rw [Nat.add_right_comm] at hrest
      exact .cons (s := ⟨offset, offset + 1, false, false, false⟩) (Nat.lt_succ_self offset) hrest

/-- The spans of lexemes tile their text, since no lexeme is empty. -/
theorem tiles_spansOf (offset : Nat) {ls : List Lexeme} (hls : ∀ l ∈ ls, l.text ≠ []) :
    Tiles offset (offset + byteLength (ls.flatMap Lexeme.text)) (spansOf offset ls) := by
  induction ls generalizing offset with
  | nil => exact .nil offset
  | cons l ls ih =>
      have hpos : byteLength l.text ≠ 0 := fun h0 =>
        hls l List.mem_cons_self (byteLength_eq_zero.mp h0)
      have hrest := ih (offset + byteLength l.text) fun l hl => hls l (List.mem_cons_of_mem _ hl)
      rw [List.flatMap_cons, byteLength_append, ← Nat.add_assoc]
      exact .cons (s := ⟨offset, offset + byteLength l.text, l.literal, l.comment, l.after.isOpen⟩)
        (by dsimp only; omega) hrest

/-- The spans from any offset on tile the rest of the text. -/
theorem tiles_spansFrom (cs : List Char) (start : Nat) :
    Tiles (min start (byteLength cs)) (byteLength cs) (spansFrom cs start) := by
  obtain ⟨p, hsplit, -, hlen⟩ := enterAt_spec none start cs
  have hne : ∀ l ∈ lex .start (enterAt none start cs).before (enterAt none start cs).rest,
      l.text ≠ [] := fun l hl => text_ne_nil_of_mem_lex hl
  have hspans := tiles_spansOf (byteLength p) hne
  rw [flatMap_text_lex, ← byteLength_append, ← hsplit, hlen] at hspans
  exact (tiles_straySpans _ _).append hspans

/-- The spans of lexemes start and stop between characters. -/
theorem isBoundary_of_mem_spansOf {p : List Char} {ls : List Lexeme} {s : Span}
    (h : s ∈ spansOf (byteLength p) ls) :
    isBoundary s.start (p ++ ls.flatMap Lexeme.text) = true ∧
      isBoundary s.stop (p ++ ls.flatMap Lexeme.text) = true := by
  induction ls generalizing p with
  | nil => cases h
  | cons l ls ih =>
      rw [spansOf, ← byteLength_append] at h
      have htext : p ++ (l :: ls).flatMap Lexeme.text = p ++ l.text ++ ls.flatMap Lexeme.text := by
        rw [List.flatMap_cons, List.append_assoc]
      rcases List.mem_cons.mp h with rfl | h
      · refine ⟨Checked.isBoundary_append _ _, ?_⟩
        rw [htext]
        exact Checked.isBoundary_append (p ++ l.text) _
      · rw [htext]
        exact ih h

/-- From the first boundary on, the spans from any offset on start and stop at boundaries. -/
theorem isBoundary_of_mem_spansFrom {cs : List Char} {start b : Nat} (hb : isBoundary b cs = true)
    (hle : start ≤ b) {s : Span} (hs : s ∈ spansFrom cs start) :
    (b ≤ s.start → isBoundary s.start cs = true) ∧ (b ≤ s.stop → isBoundary s.stop cs = true) := by
  obtain ⟨p, hsplit, -, hlen⟩ := enterAt_spec none start cs
  rcases List.mem_append.mp hs with hstray | hspan
  · -- the bytes left of the cut character end at the first boundary
    obtain ⟨k, hk, hstart, hstop⟩ := mem_straySpans hstray
    have hfirst : byteLength p ≤ b := by
      by_contra hlt
      have hcut : b - start < (enterAt none start cs).stray := by omega
      have hinside := isBoundary_stray hcut
      rw [Nat.add_sub_cancel' hle, hb] at hinside
      cases hinside
    refine ⟨fun h => by omega, fun h => ?_⟩
    have heq : s.stop = byteLength p := by omega
    rw [heq, hsplit]
    exact Checked.isBoundary_append p _
  · rw [← hlen] at hspan
    have hboundaries := isBoundary_of_mem_spansOf hspan
    rw [flatMap_text_lex, ← hsplit] at hboundaries
    exact ⟨fun _ => hboundaries.1, fun _ => hboundaries.2⟩

/-- **A cursor tiles its text and ends.** Started at any offset, it answers with the spans of the
text one after the other, and from then on with nothing. The spans follow one another from the
offset (or the end of the text, if that comes first) to the end of the text; each holds a byte at
least, and none goes past the end. If the offset is a boundary, every span starts and stops at
boundaries; if it is inside a character, every span does so from the next boundary on. -/
theorem cursor_tiles (cs : List Char) (start : Nat) :
    (∀ n, Cursor.answer cs n (Cursor.ofOffset cs start) = (spansFrom cs start)[n]?) ∧
    (∀ n, (spansFrom cs start).length ≤ n →
      Cursor.answer cs n (Cursor.ofOffset cs start) = none) ∧
    Tiles (min start (byteLength cs)) (byteLength cs) (spansFrom cs start) ∧
    (∀ s ∈ spansFrom cs start, s.start < s.stop ∧ s.stop ≤ byteLength cs) ∧
    (isBoundary start cs = true → ∀ s ∈ spansFrom cs start,
      isBoundary s.start cs = true ∧ isBoundary s.stop cs = true) ∧
    ∀ b, isBoundary b cs = true → start ≤ b → ∀ s ∈ spansFrom cs start,
      (b ≤ s.start → isBoundary s.start cs = true) ∧
      (b ≤ s.stop → isBoundary s.stop cs = true) := by
  have htiles := tiles_spansFrom cs start
  refine ⟨Cursor.answer_ofOffset cs start, ?_, htiles, ?_, ?_, ?_⟩
  · intro n hn
    rw [Cursor.answer_ofOffset, List.getElem?_eq_none hn]
  · intro s hs
    exact (htiles.bounds hs).2
  · intro hboundary s hs
    obtain ⟨hfrom, hspan, hstop⟩ := htiles.bounds hs
    have hb := isBoundary_of_mem_spansFrom hboundary (Nat.le_refl _) hs
    exact ⟨hb.1 (by omega), hb.2 (by omega)⟩
  · intro b hb hle s hs
    exact isBoundary_of_mem_spansFrom hb hle hs

/-- A text entered inside its first character: one byte of that character, a character literal with
an escaped wide character, a quotation mark, and a backslash that ends the text. -/
theorem cursor_tiles_cut_character :
    spansFrom ['é', '?', '\\', 'é', '"', '\\'] 1 =
      [⟨1, 2, false, false, false⟩, ⟨2, 6, true, false, false⟩, ⟨6, 7, true, false, true⟩,
        ⟨7, 8, true, false, true⟩] ∧
    (∀ n, 4 ≤ n → Cursor.answer ['é', '?', '\\', 'é', '"', '\\'] n
      (Cursor.ofOffset ['é', '?', '\\', 'é', '"', '\\'] 1) = none) ∧
    isBoundary 1 ['é', '?', '\\', 'é', '"', '\\'] = false ∧
    ∀ s ∈ spansFrom ['é', '?', '\\', 'é', '"', '\\'] 1, 2 ≤ s.start →
      isBoundary s.start ['é', '?', '\\', 'é', '"', '\\'] = true := by
  obtain ⟨-, hnone, -, -, -, hboundary⟩ := cursor_tiles ['é', '?', '\\', 'é', '"', '\\'] 1
  have hspans : spansFrom ['é', '?', '\\', 'é', '"', '\\'] 1 =
      [⟨1, 2, false, false, false⟩, ⟨2, 6, true, false, false⟩, ⟨6, 7, true, false, true⟩,
        ⟨7, 8, true, false, true⟩] := by decide +kernel
  refine ⟨hspans, fun n hn => hnone n ?_, by decide, fun s hs => ?_⟩
  · rw [hspans]
    exact hn
  · exact (hboundary 2 (by decide) (by decide) s hs).1

end DslOutline
