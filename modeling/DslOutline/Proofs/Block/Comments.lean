import DslOutline.Proofs.Block.MaskedTokens
import DslOutline.Proofs.Lexeme.Comments

/-!
# Block tokens in a text without its comments

When the comments of a text are deleted, its keywords move to other offsets, but not to other
positions: in front of a keyword on its line there is no comment. `map_place_codeTokens` follows the
two readings side by side. What was read is at the same position in both, unless the first one is
inside a comment, and then it is at least on the same line.

The search for the end of a block looks at nothing but the keywords in their order
(`endOfFirstBlock_congr`), so it finds the same position in both texts.
-/

namespace DslOutline

open Text

/-! ### One keyword -/

/-- Where both texts stop, a keyword may end: a line feed and a `#` may follow it, as may the
end. -/
theorem SameAhead.admitsAfter_head? {x y : List Char} (h : SameAhead x y) :
    admitsAfter x.head? = admitsAfter y.head? := by
  obtain ⟨p, u, v, rfl, rfl, hu, hv⟩ := h
  have hstop : ∀ {z : List Char}, StopsHere z → admitsAfter z.head? = true := by
    intro z hz
    cases hhead : z.head? with
    | none => rfl
    | some c => rcases hz c hhead with rfl | rfl <;> rfl
  cases p with
  | nil => exact (hstop hu).trans (hstop hv).symm
  | cons c p => rfl

/-- A keyword is seen in both of two texts that look the same, or in none. -/
theorem BlockToken.here?_congr {x y : List Char} (h : SameAhead x y) (before : Option Char) :
    here? before x = here? before y := by
  have himp : ∀ {x y : List Char} {token : BlockToken}, SameAhead x y →
      here? before x = some token → here? before y = some token := by
    intro x y token h htoken
    obtain ⟨hbefore, rest, rfl, hafter⟩ := wordHere_iff.mp (wordHere_of_here? htoken)
    obtain ⟨rest', rfl, hrest⟩ := h.exists_append (by cases token <;> decide)
      (by cases token <;> decide)
    rw [hrest.admitsAfter_head?] at hafter
    exact here?_eq_some_iff.mpr (wordHere_iff.mpr ⟨hbefore, rest', rfl, hafter⟩)
  exact Option.ext fun token => ⟨himp h, himp h.symm⟩

theorem BlockToken.here?_newline (before : Option Char) (x : List Char) :
    here? before ('\n' :: x) = none := by
  refine Option.eq_none_iff_forall_not_mem.mpr ?_
  intro token htoken
  obtain ⟨-, rest, hrest, -⟩ := wordHere_iff.mp (wordHere_of_here? htoken)
  cases token <;> cases hrest

/-- A keyword with the position just past it. -/
def PlacedToken.place (cs : List Char) (t : PlacedToken) : BlockToken × Position :=
  (t.token, (LineIndex.ofText cs).position cs t.stop)

/-- The keyword that is seen behind `pre`, with its position counted from there. -/
theorem map_place_here? (before : Option Char) (pre x : List Char) :
    (PlacedToken.here? before (byteLength pre) x).toList.map (PlacedToken.place (pre ++ x)) =
      (BlockToken.here? before x).toList.map fun token =>
        (token, token.word.foldl Position.after (endPosition pre)) := by
  cases htoken : BlockToken.here? before x with
  | none => simp [PlacedToken.here?, htoken]
  | some token =>
      obtain ⟨-, rest, rfl, -⟩ := wordHere_iff.mp (BlockToken.wordHere_of_here? htoken)
      have hposition := LineIndex.position_append (pre ++ token.word) rest
      rw [List.append_assoc, byteLength_append, BlockToken.byteLength_word,
        endPosition_append] at hposition
      simp only [PlacedToken.here?, htoken, Option.map_some, Option.toList_some, List.map_cons,
        List.map_nil, PlacedToken.place, PlacedToken.stop, hposition]

/-! ### All keywords -/

/-- The keywords of a first lexeme and of those behind it, with their positions. -/
theorem map_place_codeTokens_cons (before : Option Char) (pre q : List Char) (l : Lexeme)
    (ls : List Lexeme) :
    (codeTokens before (byteLength pre) (l.text ++ q) (l :: ls)).map
        (PlacedToken.place (pre ++ (l.text ++ q))) =
      (if l.isCode then (BlockToken.here? before (l.text ++ q)).toList.map fun token =>
        (token, token.word.foldl Position.after (endPosition pre)) else []) ++
      (codeTokens l.text.getLast? (byteLength (pre ++ l.text)) q ls).map
        (PlacedToken.place ((pre ++ l.text) ++ q)) := by
  rw [codeTokens, List.map_append, List.drop_left, byteLength_append, List.append_assoc]
  congr 1
  split_ifs
  · exact map_place_here? before pre (l.text ++ q)
  · rfl

/-- The keywords of a text without its comments are those of the text, at the same positions. -/
theorem map_place_codeTokens {s : LexState} (hs : s.Resumes) (before : Option Char)
    (x : List Char) :
    ∀ (before' : Option Char) (pre pre' : List Char),
      (s.mode ≠ .comment → before' = before ∧ endPosition pre' = endPosition pre) →
      (endPosition pre').line = (endPosition pre).line →
      (codeTokens before' (byteLength pre')
          ((uncommented (marks (lex s before x))).map MarkedChar.char)
          ((lex s before x).filter fun l => !l.comment)).map
        (PlacedToken.place (pre' ++ (uncommented (marks (lex s before x))).map MarkedChar.char)) =
      (codeTokens before (byteLength pre) x (lex s before x)).map
        (PlacedToken.place (pre ++ x)) := by
  fun_induction lex s before x with
  | case1 s before => intros; rfl
  | case2 s before c rest m unit =>
      rename_i ih
      intro before' pre pre' hsame hline
      have htail := ih (hs.move before c rest)
      have hsplit : c :: rest = unit ++ rest.drop m.extra := by
        simp only [unit, List.cons_append, List.take_append_drop]
      rw [hsplit, map_place_codeTokens_cons before pre _ ⟨unit, m.literal, m.comment, m.next⟩]
      rcases move_comment_cases hs before c rest with ⟨hc, hm⟩ | ⟨hmode, rfl, hm⟩ |
        ⟨hmode, hother, hnext⟩
      · -- a character of a comment: only the first reading moves, on the same line
        change m = _ at hm
        have hcomment : m.comment = true := by rw [hm]
        have hfeed : c ≠ '\n' := by
          rcases hc with ⟨-, rfl⟩ | ⟨-, hfeed⟩
          · decide
          · exact hfeed
        have hunit : unit = [c] := by simp only [unit, hm, List.take_zero]
        have hcode : (⟨unit, m.literal, m.comment, m.next⟩ : Lexeme).isCode = false := by
          simp [Lexeme.isCode, hcomment]
        have hsameLine : (endPosition pre').line = (endPosition (pre ++ unit)).line := by
          rw [hunit, endPosition_append, Position.line_foldl_after, hline,
            List.count_eq_zero.mpr (by simpa using hfeed.symm), Nat.add_zero]
        rw [uncommented_marks_cons_of_comment hcomment,
          List.filter_cons_of_neg (by simp [hcomment]), hcode,
          htail before' (pre ++ unit) pre' (fun h => absurd (by rw [hm]; rfl) h) hsameLine]
        rfl
      · -- the line feed behind a comment: both readings are at the start of the next line
        change m = _ at hm
        have hunit : unit = ['\n'] := by simp only [unit, hm, List.take_zero]
        have hstart : endPosition (pre' ++ unit) = endPosition (pre ++ unit) := by
          rw [hunit, endPosition_append, endPosition_append]
          show (⟨(endPosition pre').line + 1, 1⟩ : Position) = ⟨(endPosition pre).line + 1, 1⟩
          rw [hline]
        rw [uncommented_marks_cons (by rw [hm]), List.filter_cons_of_pos (by simp [hm]),
          List.map_append, Lexeme.map_char_marks,
          map_place_codeTokens_cons before' pre' _ ⟨unit, m.literal, m.comment, m.next⟩,
          htail unit.getLast? (pre ++ unit) (pre' ++ unit) (fun _ => ⟨rfl, hstart⟩)
            (congrArg Position.line hstart)]
        simp only [hunit, List.singleton_append, BlockToken.here?_newline, Option.toList_none,
          List.map_nil]
      · change m.comment = false at hother
        change m.next.mode ≠ .comment at hnext
        obtain ⟨rfl, hposition⟩ := hsame hmode
        have hstart : endPosition (pre' ++ unit) = endPosition (pre ++ unit) := by
          rw [endPosition_append, endPosition_append, hposition]
        have hahead := ((hs.move before' c rest).sameAhead hnext unit.getLast?
          (rest.drop m.extra)).append unit
        rw [uncommented_marks_cons hother, List.filter_cons_of_pos (by simp [hother]),
          List.map_append, Lexeme.map_char_marks,
          map_place_codeTokens_cons before' pre' _ ⟨unit, m.literal, m.comment, m.next⟩,
          htail unit.getLast? (pre ++ unit) (pre' ++ unit) (fun _ => ⟨rfl, hstart⟩)
            (congrArg Position.line hstart), hposition, BlockToken.here?_congr hahead]

/-- Where no literal is open at the start of a line, the keywords from there on are at the same
positions without the comments. -/
theorem map_place_codeTokensFrom {pre q : List Char} (hpre : WholeLines pre)
    (hclosed : ¬ OpenAt (pre ++ q) (byteLength pre)) :
    ∃ pre' q', withoutComments (pre ++ q) = pre' ++ q' ∧ WholeLines pre' ∧
      pre'.count '\n' = pre.count '\n' ∧
      (codeTokensFrom (pre' ++ q') (byteLength pre')).map (PlacedToken.place (pre' ++ q')) =
        (codeTokensFrom (pre ++ q) (byteLength pre)).map (PlacedToken.place (pre ++ q)) := by
  obtain ⟨ls, hlex, htext⟩ := exists_lexemes_append hpre hclosed
  have hruns := commentRuns_lexemes (pre ++ q)
  have hmarks : marks (lexemes (pre ++ q)) = marks ls ++ marks (lex .start pre.getLast? q) := by
    rw [hlex, marks, List.flatMap_append]
    rfl
  have hfeeds : ∀ m ∈ marks ls, m.char = '\n' → m.comment = false := by
    intro m hm
    exact hruns.comment_of_newline (by rw [hmarks]; exact List.mem_append_left _ hm)
  have hchars : (marks ls).map MarkedChar.char = pre := by rw [map_char_marks, htext]
  have hcount := count_newline_uncommented hfeeds
  obtain ⟨hwhole, hlast⟩ := wholeLines_uncommented hfeeds (by rwa [hchars])
  rw [hchars] at hcount hlast
  have hend : endPosition ((uncommented (marks ls)).map MarkedChar.char) = endPosition pre := by
    rw [hwhole.endPosition, hpre.endPosition, hcount]
  refine ⟨_, (uncommented (marks (lex .start pre.getLast? q))).map MarkedChar.char, ?_, hwhole,
    hcount, ?_⟩
  · rw [withoutComments_eq, hmarks, uncommented_append, List.map_append]
  · have hfilter := lex_uncommented LexState.resumes_start pre.getLast? q pre.getLast? fun _ => rfl
    rw [codeTokensFrom_append, codeTokensFrom_append, hlast]
    change lex .start _ _ = _ at hfilter
    rw [hfilter]
    exact map_place_codeTokens LexState.resumes_start _ _ _ _ _ (fun _ => ⟨rfl, hend⟩)
      (congrArg Position.line hend)

/-! ### The end of a block -/

/-- The close that ends a block depends on the keywords alone, so it is found at the same place in
both lists. -/
theorem closeOf_congr {f g : Nat → Position} {ts us : List PlacedToken}
    (h : ts.map (fun t => (t.token, f t.stop)) = us.map fun t => (t.token, g t.stop))
    (depth : Nat) : (closeOf depth ts).map f = (closeOf depth us).map g := by
  induction ts generalizing us depth with
  | nil =>
      rw [List.map_nil, eq_comm, List.map_eq_nil_iff] at h
      rw [h]
      rfl
  | cons t ts ih =>
      cases us with
      | nil => cases h
      | cons u us =>
          rw [List.map_cons, List.map_cons, List.cons.injEq, Prod.mk.injEq] at h
          obtain ⟨⟨htoken, hstop⟩, htail⟩ := h
          rw [closeOf, closeOf, htoken]
          cases u.token with
          | doBlock => exact ih htail _
          | fnBlock => exact ih htail _
          | close =>
              dsimp only
              split_ifs
              · rw [Option.map_some, Option.map_some, hstop]
              · exact ih htail _

/-- The end of the first block depends on the keywords in their order alone. -/
theorem endOfFirstBlock_congr {f g : Nat → Position} {ts us : List PlacedToken}
    (h : ts.map (fun t => (t.token, f t.stop)) = us.map fun t => (t.token, g t.stop))
    (skipping : Nat) :
    (endOfFirstBlock skipping ts).map f = (endOfFirstBlock skipping us).map g := by
  induction ts generalizing us skipping with
  | nil =>
      rw [List.map_nil, eq_comm, List.map_eq_nil_iff] at h
      rw [h]
      rfl
  | cons t ts ih =>
      cases us with
      | nil => cases h
      | cons u us =>
          rw [List.map_cons, List.map_cons, List.cons.injEq, Prod.mk.injEq] at h
          obtain ⟨⟨htoken, -⟩, htail⟩ := h
          rw [endOfFirstBlock, endOfFirstBlock, htoken]
          cases u.token with
          | doBlock =>
              dsimp only
              split_ifs
              · exact closeOf_congr htail 1
              · exact ih htail _
          | fnBlock => exact ih htail _
          | close => exact ih htail _

end DslOutline
