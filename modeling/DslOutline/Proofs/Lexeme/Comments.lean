import DslOutline.Proofs.Lexeme.Lookahead
import DslOutline.Proofs.Lexeme.Modes

/-!
# A text without its comments

A comment goes from a `#` in code to the end of the line, also inside an interpolation. This module
compares a text with what is left of it when the comments are deleted and the line feeds stay.

`CommentRuns` says which marks can follow each other as far as comments are concerned: a comment
starts with a `#`, and behind it there is more of it, a line feed or nothing. So up to its first
comment a text looks like the text without comments (`CommentRuns.sameAhead`), and no unit of the
reading can tell them apart. The lexemes of the text without comments are therefore those of the
text that are no comment (`lexemes_withoutComments`).

The same holds for a reading that starts after some code in the middle of a line
(`marks_lex_of_code`), which is how the comment at the end of an entry is cut off.
-/

namespace DslOutline

open Text

/-! ### One unit -/

/-- No interpolation goes on with a comment when it ends. -/
def LexState.Resumes (s : LexState) : Prop :=
  ∀ i ∈ s.interpolations, i.1 ≠ .comment

/-- Reading starts outside of all interpolations. -/
theorem LexState.resumes_start : LexState.start.Resumes := by
  intro i hi
  cases hi

/-- The state from which a text without comments is read on: code in place of a comment. -/
def LexState.uncommented (s : LexState) : LexState :=
  if s.mode = .comment then s.withMode .code else s

theorem LexState.uncommented_of_ne {s : LexState} (h : s.mode ≠ .comment) : s.uncommented = s :=
  if_neg h

/-- Whether a comment starts or goes on makes no difference to reading without comments. -/
theorem LexState.uncommented_withMode_comment {s : LexState}
    (h : s.mode = .code ∨ s.mode = .comment) :
    (s.withMode .comment).uncommented = s.uncommented := by
  obtain ⟨mode, stack⟩ := s
  rcases h with rfl | rfl <;> rfl

/-- A brace that ends an interpolation goes on with what surrounds it, which is no comment. -/
theorem LexState.mode_brace_ne_comment {s : LexState} (hs : s.Resumes) (hmode : s.mode ≠ .comment)
    (c : Char) : (s.brace c).mode ≠ .comment := by
  obtain ⟨mode, stack⟩ := s
  cases stack with
  | nil => exact hmode
  | cons i outer =>
      obtain ⟨resume, depth⟩ := i
      unfold LexState.brace
      split_ifs
      · exact hmode
      · cases depth with
        | zero => exact hs (resume, 0) List.mem_cons_self
        | succ d => exact hmode

/-- A sigil does not open a comment. -/
theorem mode_sigilOpening?_ne_comment {cs : List Char} {extra : Nat} {mode : Mode}
    (h : sigilOpening? cs = some (extra, mode)) : mode ≠ .comment := by
  rcases mode_of_sigilOpening? h with ⟨q, rfl⟩ | ⟨opener, closer, -, rfl⟩ <;> simp

/-- The states to resume, as the list in which a unit changes them. -/
theorem LexState.resumes_iff {s : LexState} : s.Resumes ↔ .comment ∉ s.resumed := by
  constructor
  · intro h hmem
    obtain ⟨i, hi, heq⟩ := List.mem_map.mp hmem
    exact h i hi heq
  · intro h i hi heq
    exact h (List.mem_map.mpr ⟨i, hi, heq⟩)

/-- An interpolation starts in a string only, so it resumes no comment. -/
theorem LexState.Resumes.move {s : LexState} (hs : s.Resumes) (before : Option Char) (c : Char)
    (rest : List Char) : (s.move before c rest).next.Resumes := by
  rw [LexState.resumes_iff] at hs ⊢
  cases modeChange_move s before c rest with
  | within _ hresumed => rwa [hresumed]
  | starts q hstring _ hresumed =>
      have hmode : s.mode ≠ .comment := by
        rcases hstring with hm | hm <;> simp [hm]
      rw [hresumed, List.mem_cons, not_or]
      exact ⟨hmode.symm, hs⟩
  | ends hresumed =>
      rw [hresumed, List.mem_cons, not_or] at hs
      exact hs.2

/-- What a unit has to do with comments: it starts one or goes on with one, it is the line feed that
ends one, or there is none before and after it. -/
theorem move_comment_cases {s : LexState} (hs : s.Resumes) (before : Option Char) (c : Char)
    (rest : List Char) :
    ((s.mode = .code ∧ c = '#' ∨ s.mode = .comment ∧ c ≠ '\n') ∧
      s.move before c rest = ⟨0, !s.interpolations.isEmpty, true, s.withMode .comment⟩) ∨
    (s.mode = .comment ∧ c = '\n' ∧
      s.move before c rest = ⟨0, !s.interpolations.isEmpty, false, s.withMode .code⟩) ∨
    (s.mode ≠ .comment ∧ (s.move before c rest).comment = false ∧
      (s.move before c rest).next.mode ≠ .comment) := by
  cases hm : s.mode with
  | code =>
      by_cases hc : c = '#'
      · left
        refine ⟨Or.inl ⟨rfl, hc⟩, ?_⟩
        simp [LexState.move, LexState.moveInMode, hm, LexState.moveInCode, hc, Quote.ofChar?]
      · right; right
        have hbrace : (s.brace c).mode ≠ .comment :=
          LexState.mode_brace_ne_comment hs (by simp [hm]) c
        refine ⟨by simp, ?_⟩
        simp only [LexState.move, LexState.moveInMode, hm]
        unfold LexState.moveInCode
        split
        · split_ifs <;> simp [LexState.withMode]
        · split_ifs
          · exact ⟨rfl, hbrace⟩
          · exact ⟨rfl, by simp [hm]⟩
          · split
            · rename_i mode hopening
              exact ⟨rfl, mode_sigilOpening?_ne_comment hopening⟩
            · exact ⟨rfl, by simp [hm]⟩
          · exact ⟨rfl, by simp [hm]⟩
  | comment =>
      have hsame : s = s.withMode .comment := by
        rw [← hm]
        rfl
      by_cases hc : c = '\n'
      · right; left
        refine ⟨rfl, hc, ?_⟩
        simp [LexState.move, LexState.moveInMode, hm, hc]
      · left
        refine ⟨Or.inr ⟨rfl, hc⟩, ?_⟩
        simp [LexState.move, LexState.moveInMode, hm, hc, ← hsame]
  | quoted q =>
      right; right
      simp only [LexState.move, LexState.moveInMode, hm]
      split_ifs <;> simp [LexState.interpolate, LexState.withMode, hm]
  | heredoc q =>
      right; right
      simp only [LexState.move, LexState.moveInMode, hm]
      split_ifs <;> simp [LexState.interpolate, LexState.withMode, hm]
  | sigil opener closer depth =>
      right; right
      simp only [LexState.move, LexState.moveInMode, hm]
      split_ifs
      · simp [hm]
      · split <;> simp [LexState.withMode]
      · simp [LexState.withMode]
      · simp [hm]

/-! ### Marks of comments -/

/-- The marks that are no part of a comment. -/
def uncommented (ms : List MarkedChar) : List MarkedChar :=
  ms.filter fun m => !m.comment

theorem uncommented_append (a b : List MarkedChar) :
    uncommented (a ++ b) = uncommented a ++ uncommented b :=
  List.filter_append a b

theorem uncommented_eq_self {ms : List MarkedChar} (h : ∀ m ∈ ms, m.comment = false) :
    uncommented ms = ms := by
  refine List.filter_eq_self.mpr ?_
  intro m hm
  rw [h m hm]
  rfl

theorem uncommented_eq_nil {ms : List MarkedChar} (h : ∀ m ∈ ms, m.comment = true) :
    uncommented ms = [] := by
  refine List.filter_eq_nil_iff.mpr ?_
  intro m hm
  simp [h m hm]

/-- All characters of a unit belong to a comment, or none does. -/
theorem Lexeme.comment_of_mem_marks {l : Lexeme} {m : MarkedChar} (h : m ∈ l.marks) :
    m.comment = l.comment := by
  obtain ⟨c, -, rfl⟩ := List.mem_map.mp h
  rfl

theorem uncommented_marks_cons_of_comment {l : Lexeme} (hl : l.comment = true)
    (ls : List Lexeme) : uncommented (marks (l :: ls)) = uncommented (marks ls) := by
  rw [marks_cons, uncommented_append,
    uncommented_eq_nil fun m hm => (Lexeme.comment_of_mem_marks hm).trans hl, List.nil_append]

/-- A unit of code or of a literal is kept as a whole. -/
theorem uncommented_marks_cons {l : Lexeme} (hl : l.comment = false) (ls : List Lexeme) :
    uncommented (marks (l :: ls)) = l.marks ++ uncommented (marks ls) := by
  rw [marks_cons, uncommented_append,
    uncommented_eq_self fun m hm => (Lexeme.comment_of_mem_marks hm).trans hl]

/-- Leaving comments out of the lexemes or out of their marks is the same. -/
theorem marks_filter_comment (ls : List Lexeme) :
    marks (ls.filter fun l => !l.comment) = uncommented (marks ls) := by
  induction ls with
  | nil => rfl
  | cons l ls ih =>
      cases hl : l.comment with
      | true =>
          rw [List.filter_cons_of_neg (by simp [hl]), ih, uncommented_marks_cons_of_comment hl]
      | false =>
          rw [List.filter_cons_of_pos (by simp [hl]), marks_cons, ih, uncommented_marks_cons hl]

/-- No line is lost with the comments, because their line feeds do not belong to them. -/
theorem count_newline_uncommented {ms : List MarkedChar}
    (h : ∀ m ∈ ms, m.char = '\n' → m.comment = false) :
    ((uncommented ms).map MarkedChar.char).count '\n' = (ms.map MarkedChar.char).count '\n' := by
  induction ms with
  | nil => rfl
  | cons m ms ih =>
      have htail := ih fun k hk => h k (List.mem_cons_of_mem m hk)
      cases hm : m.comment with
      | false =>
          rw [uncommented, List.filter_cons_of_pos (by simp [hm]), List.map_cons, List.map_cons,
            List.count_cons, List.count_cons, ← htail]
          rfl
      | true =>
          have hfeed : m.char ≠ '\n' := by
            intro hc
            rw [h m List.mem_cons_self hc] at hm
            cases hm
          rw [uncommented, List.filter_cons_of_neg (by simp [hm]), List.map_cons,
            List.count_cons_of_ne hfeed, ← htail]
          rfl

/-- Whole lines are whole without their comments. -/
theorem wholeLines_uncommented {ms : List MarkedChar}
    (h : ∀ m ∈ ms, m.char = '\n' → m.comment = false) (hms : WholeLines (ms.map MarkedChar.char)) :
    WholeLines ((uncommented ms).map MarkedChar.char) ∧
      ((uncommented ms).map MarkedChar.char).getLast? = (ms.map MarkedChar.char).getLast? := by
  have hlast : ((uncommented ms).map MarkedChar.char).getLast? =
      (ms.map MarkedChar.char).getLast? := by
    rcases ms.eq_nil_or_concat with rfl | ⟨ms, m, rfl⟩
    · rfl
    · rw [List.concat_eq_append] at h hms ⊢
      have hc : m.char = '\n' := hms m.char (by simp)
      have hm : uncommented [m] = [m] := uncommented_eq_self (by simpa using h m (by simp) hc)
      rw [uncommented_append, hm]
      simp
  exact ⟨fun c hc => hms c (hlast ▸ hc), hlast⟩

/-- The marks of a text that is read from inside a comment (`inside`) or from elsewhere. -/
inductive CommentRuns : Bool → List MarkedChar → Prop
  | nil (inside : Bool) : CommentRuns inside []
  | other {m : MarkedChar} {ms : List MarkedChar} (kept : m.comment = false)
      (tail : CommentRuns false ms) : CommentRuns false (m :: ms)
  | hash {literal : Bool} {ms : List MarkedChar} (tail : CommentRuns true ms) :
      CommentRuns false (⟨'#', literal, true⟩ :: ms)
  | more {c : Char} {literal : Bool} {ms : List MarkedChar} (noFeed : c ≠ '\n')
      (tail : CommentRuns true ms) : CommentRuns true (⟨c, literal, true⟩ :: ms)
  | feed {literal : Bool} {ms : List MarkedChar} (tail : CommentRuns false ms) :
      CommentRuns true (⟨'\n', literal, false⟩ :: ms)

namespace CommentRuns

/-- Marks without comments may stand in front of any line. -/
theorem append_other {us ms : List MarkedChar} (hus : ∀ m ∈ us, m.comment = false)
    (h : CommentRuns false ms) : CommentRuns false (us ++ ms) := by
  induction us with
  | nil => exact h
  | cons m us ih =>
      exact other (hus m List.mem_cons_self) (ih fun k hk => hus k (List.mem_cons_of_mem m hk))

/-- The marks that a reading gives can follow each other. -/
theorem marks_lex {s : LexState} (hs : s.Resumes) (before : Option Char) (cs : List Char) :
    CommentRuns (decide (s.mode = .comment)) (marks (lex s before cs)) := by
  fun_induction lex s before cs with
  | case1 => exact nil _
  | case2 s before c rest m unit ih =>
      have htail := ih (hs.move before c rest)
      rw [marks_cons]
      rcases move_comment_cases hs before c rest with ⟨hc, hm⟩ | ⟨hmode, rfl, hm⟩ |
        ⟨hmode, hother, hnext⟩
      · change m = _ at hm
        simp only [unit, hm] at htail ⊢
        rcases hc with ⟨hmode, rfl⟩ | ⟨hmode, hfeed⟩
        · rw [hmode]
          exact hash htail
        · rw [hmode]
          exact more hfeed htail
      · change m = _ at hm
        simp only [unit, hm] at htail ⊢
        rw [hmode]
        exact feed htail
      · rw [decide_eq_false hmode]
        rw [decide_eq_false hnext] at htail
        exact append_other (fun k hk => (Lexeme.comment_of_mem_marks hk).trans hother) htail

variable {inside : Bool} {a b ms : List MarkedChar}

/-- Where a list of marks is cut, the first part says whether a comment is open. -/
theorem of_append (h : CommentRuns inside (a ++ b)) :
    CommentRuns ((a.getLast?.map MarkedChar.comment).getD inside) b := by
  induction a generalizing inside with
  | nil => exact h
  | cons m a ih =>
      have hlast : ∀ flag, flag = m.comment →
          ((m :: a).getLast?.map MarkedChar.comment).getD inside =
            (a.getLast?.map MarkedChar.comment).getD flag := by
        rintro flag rfl
        rw [List.getLast?_cons]
        cases a.getLast? <;> rfl
      cases h with
      | other kept tail => exact hlast false kept.symm ▸ ih tail
      | hash tail => exact hlast true rfl ▸ ih tail
      | more noFeed tail => exact hlast true rfl ▸ ih tail
      | feed tail => exact hlast false rfl ▸ ih tail

/-- Behind the rest of a comment comes a line feed or nothing. -/
theorem head?_uncommented (h : CommentRuns true ms) {c : Char}
    (hc : ((uncommented ms).map MarkedChar.char).head? = some c) : c = '\n' := by
  induction ms with
  | nil => cases hc
  | cons m ms ih =>
      cases h with
      | more noFeed tail => exact ih tail hc
      | feed tail =>
          cases hc
          rfl

/-- Without its comments, a text starts as it does, unless it starts with a comment. -/
theorem head?_eq (h : CommentRuns false ms) :
    (ms.map MarkedChar.char).head? = some '#' ∨
      ((uncommented ms).map MarkedChar.char).head? = (ms.map MarkedChar.char).head? := by
  cases h with
  | nil => exact Or.inr rfl
  | @other m ms kept tail =>
      right
      rw [uncommented, List.filter_cons_of_pos (by simp [kept])]
      rfl
  | hash tail => exact Or.inl rfl

/-- Up to its first comment, a text looks like the text without comments. -/
theorem sameAhead (h : CommentRuns false ms) :
    SameAhead (ms.map MarkedChar.char) ((uncommented ms).map MarkedChar.char) := by
  induction ms with
  | nil => exact ⟨[], [], [], rfl, rfl, stopsHere_nil, stopsHere_nil⟩
  | cons m ms ih =>
      cases h with
      | other kept tail =>
          rw [uncommented, List.filter_cons_of_pos (by simp [kept])]
          exact (ih tail).cons m.char
      | hash tail =>
          refine ⟨[], _, _, rfl, rfl, ?_, ?_⟩
          · intro c hc
            cases hc
            exact Or.inr rfl
          · intro c hc
            exact Or.inl (head?_uncommented tail hc)

/-- A line feed is no part of a comment. -/
theorem comment_of_newline (h : CommentRuns inside ms) {m : MarkedChar} (hm : m ∈ ms)
    (hc : m.char = '\n') : m.comment = false := by
  induction h with
  | nil => cases hm
  | other kept tail ih =>
      rcases List.mem_cons.mp hm with rfl | hm
      · exact kept
      · exact ih hm
  | hash tail ih =>
      rcases List.mem_cons.mp hm with rfl | hm
      · cases hc
      · exact ih hm
  | more noFeed tail ih =>
      rcases List.mem_cons.mp hm with rfl | hm
      · exact absurd hc noFeed
      · exact ih hm
  | feed tail ih =>
      rcases List.mem_cons.mp hm with rfl | hm
      · rfl
      · exact ih hm

/-- What follows a comment on its line is part of it. -/
theorem comment_of_line (h : CommentRuns true (a ++ b)) (ha : '\n' ∉ a.map MarkedChar.char) :
    ∀ m ∈ a, m.comment = true := by
  induction a with
  | nil => simp
  | cons k a ih =>
      cases h with
      | more noFeed tail =>
          intro m hm
          rcases List.mem_cons.mp hm with rfl | hm
          · rfl
          · exact ih tail (fun hmem => ha (List.mem_cons_of_mem _ hmem)) m hm
      | feed tail => simp at ha

/-- A line is code and literals, and then a comment. -/
theorem exists_line (h : CommentRuns false (a ++ b)) (ha : '\n' ∉ a.map MarkedChar.char) :
    ∃ x y, a = x ++ y ∧ (∀ m ∈ x, m.comment = false) ∧ ∀ m ∈ y, m.comment = true := by
  induction a with
  | nil => exact ⟨[], [], rfl, by simp, by simp⟩
  | cons m a ih =>
      have hfeed : '\n' ∉ a.map MarkedChar.char := fun hmem => ha (List.mem_cons_of_mem _ hmem)
      cases h with
      | other kept tail =>
          obtain ⟨x, y, rfl, hx, hy⟩ := ih tail hfeed
          exact ⟨m :: x, y, rfl, by simpa [kept] using hx, hy⟩
      | hash tail =>
          exact ⟨[], _, rfl, by simp, by simpa using tail.comment_of_line hfeed⟩

end CommentRuns

/-! ### Reading without comments -/

/-- Up to its first comment, a text that is read from elsewhere than a comment looks like the text
without comments. -/
theorem LexState.Resumes.sameAhead {s : LexState} (hs : s.Resumes) (hmode : s.mode ≠ .comment)
    (before : Option Char) (cs : List Char) :
    SameAhead cs ((DslOutline.uncommented (marks (lex s before cs))).map MarkedChar.char) := by
  have hruns := CommentRuns.marks_lex hs before cs
  rw [decide_eq_false hmode] at hruns
  have hahead := hruns.sameAhead
  rwa [map_char_marks, flatMap_text_lex] at hahead

/-- A `?` in code that starts no character literal starts none either when the comments behind it
are gone. -/
theorem startsCharLiteral_uncommented {before : Option Char} {ms : List MarkedChar}
    (h : CommentRuns false ms)
    (hnone : startsCharLiteral before (ms.map MarkedChar.char) = false) :
    startsCharLiteral before ((uncommented ms).map MarkedChar.char) = false := by
  rcases h.head?_eq with hhash | hsame
  · -- only an identifier in front of the `?` can have kept it from taking the `#`
    have hident : before.any isIdentChar = true := by
      simpa [startsCharLiteral, hhash, isAsciiBlank] using hnone
    simp [startsCharLiteral, hident]
  · simpa only [startsCharLiteral, hsame] using hnone

/-- A unit that is no comment is the same when the comments behind it are gone. -/
theorem move_uncommented {s : LexState} (hs : s.Resumes) {before : Option Char} {c : Char}
    {rest : List Char}
    (hnext : (s.move before c rest).next.mode ≠ .comment) (last : Option Char) :
    s.move before c (rest.take (s.move before c rest).extra ++
        (uncommented (marks (lex (s.move before c rest).next last
          (rest.drop (s.move before c rest).extra)))).map MarkedChar.char) =
      s.move before c rest := by
  have hruns := CommentRuns.marks_lex (hs.move before c rest) last
    (rest.drop (s.move before c rest).extra)
  rw [decide_eq_false hnext] at hruns
  have hchars : (marks (lex (s.move before c rest).next last
      (rest.drop (s.move before c rest).extra))).map MarkedChar.char =
        rest.drop (s.move before c rest).extra := by
    rw [map_char_marks, flatMap_text_lex]
  have hsame := ((hs.move before c rest).sameAhead hnext last
    (rest.drop (s.move before c rest).extra)).symm.append (rest.take (s.move before c rest).extra)
  rw [List.take_append_drop] at hsame
  generalize marks (lex (s.move before c rest).next last
    (rest.drop (s.move before c rest).extra)) = ms at hruns hchars hsame ⊢
  refine move_congr s hsame ?_
  rintro hcode rfl
  -- a character literal has its character in the unit, and otherwise the unit is the `?` alone
  cases hlit : startsCharLiteral before rest with
  | true =>
      have hextra : (s.move before '?' rest).extra = charLiteralBody rest := by
        simp [LexState.move, LexState.moveInMode, hcode, LexState.moveInCode, Quote.ofChar?, hlit]
      cases rest with
      | nil => simp [startsCharLiteral] at hlit
      | cons d rest =>
          rw [hextra, ← hlit]
          unfold charLiteralBody
          split_ifs <;> rfl
  | false =>
      have hextra : (s.move before '?' rest).extra = 0 := by
        simp [LexState.move, LexState.moveInMode, hcode, LexState.moveInCode, Quote.ofChar?, hlit]
      rw [hextra, List.drop_zero] at hchars
      rw [hextra, List.take_zero, List.nil_append]
      rw [← hchars] at hlit
      exact startsCharLiteral_uncommented hruns hlit

/-- What a unit reads ahead is unchanged when a text `u` is put behind it that is empty if the unit
reached the end. -/
theorem take_append_of_drop {α : Type} {l u : List α} {e : Nat} (h : l.drop e = [] → u = []) :
    (l.take e ++ u).take e = l.take e ∧ (l.take e ++ u).drop e = u := by
  rcases Nat.le_total e l.length with hle | hge
  · have hlength : (l.take e).length = e := List.length_take_of_le hle
    exact ⟨List.take_left' hlength, List.drop_left' hlength⟩
  · rw [h (List.drop_eq_nil_of_le hge), List.append_nil, List.take_of_length_le hge]
    exact ⟨List.take_of_length_le hge, List.drop_eq_nil_of_le hge⟩

/-- A text without its comments is read like the text, the comments left out. -/
theorem lex_uncommented {s : LexState} (hs : s.Resumes) (before : Option Char) (cs : List Char) :
    ∀ before' : Option Char, (s.mode ≠ .comment → before' = before) →
    lex s.uncommented before' ((uncommented (marks (lex s before cs))).map MarkedChar.char) =
      (lex s before cs).filter fun l => !l.comment := by
  fun_induction lex s before cs with
  | case1 s before => simp [marks, uncommented, lex]
  | case2 s before c rest m unit =>
      rename_i ih
      intro before' hbefore
      have htail := ih (hs.move before c rest)
      rcases move_comment_cases hs before c rest with ⟨hc, hm⟩ | ⟨hmode, rfl, hm⟩ |
        ⟨hmode, hother, hnext⟩
      · -- the comment is skipped, and the other reading waits in code
        change m = _ at hm
        have hcomment : m.comment = true := by rw [hm]
        have hnext : m.next = s.withMode .comment := by rw [hm]
        have hskip := htail before' fun h => absurd (congrArg LexState.mode hnext) h
        rw [uncommented_marks_cons_of_comment hcomment,
          List.filter_cons_of_neg (by simp [hcomment]), ← hskip, hnext,
          LexState.uncommented_withMode_comment (hc.imp And.left And.left)]
      · -- the line feed is read in code now
        change m = _ at hm
        have hfeed : ∀ x, s.uncommented.move before' '\n' x = m := by
          intro x
          rw [hm, LexState.uncommented, if_pos hmode]
          simp [LexState.move, LexState.moveInMode, LexState.moveInCode, LexState.withMode,
            Quote.ofChar?]
        have hunit : unit = ['\n'] := by simp only [unit, hm, List.take_zero]
        have hcode : m.next.uncommented = m.next := by
          rw [hm]
          rfl
        rw [uncommented_marks_cons (by rw [hm]), List.filter_cons_of_pos (by simp [hm]),
          List.map_append, Lexeme.map_char_marks, ← htail _ fun _ => rfl, hcode]
        simp only [hunit, List.singleton_append, lex_cons, hfeed]
        simp [hm]
      · change m.comment = false at hother
        change m.next.mode ≠ .comment at hnext
        obtain ⟨htake, hdrop⟩ := take_append_of_drop (l := rest) (e := m.extra)
          (u := (uncommented (marks (lex m.next unit.getLast? (rest.drop m.extra)))).map
            MarkedChar.char) (fun hnil => by rw [hnil]; simp [lex, marks, uncommented])
        rw [uncommented_marks_cons hother, List.filter_cons_of_pos (by simp [hother]),
          List.map_append, Lexeme.map_char_marks, LexState.uncommented_of_ne hmode,
          hbefore hmode, ← htail _ fun _ => rfl, LexState.uncommented_of_ne hnext]
        show lex s before (c :: (rest.take m.extra ++ _)) = _
        rw [lex_cons, move_uncommented hs hnext]
        change ⟨c :: (rest.take m.extra ++ _).take m.extra, _, _, _⟩ :: lex m.next
          (c :: (rest.take m.extra ++ _).take m.extra).getLast?
          ((rest.take m.extra ++ _).drop m.extra) = _
        rw [htake, hdrop]

/-! ### The text without comments -/

/-- A text without its comments. The line feeds at their ends stay. -/
def withoutComments (cs : List Char) : List Char :=
  ((lexemes cs).filter fun l => !l.comment).flatMap Lexeme.text

/-- A text without its comments, in terms of its marks. -/
theorem withoutComments_eq (cs : List Char) :
    withoutComments cs = (uncommented (marks (lexemes cs))).map MarkedChar.char := by
  rw [withoutComments, ← map_char_marks, marks_filter_comment]

/-- **The lexemes of a text without its comments are the lexemes of the text that are no
comments.** -/
theorem lexemes_withoutComments (cs : List Char) :
    lexemes (withoutComments cs) = (lexemes cs).filter fun l => !l.comment := by
  rw [withoutComments_eq]
  exact lex_uncommented LexState.resumes_start none cs none fun _ => rfl

/-- The marks of a text without its comments are those that are left of the marks of the text. -/
theorem marks_lexemes_withoutComments (cs : List Char) :
    marks (lexemes (withoutComments cs)) = uncommented (marks (lexemes cs)) := by
  rw [lexemes_withoutComments, marks_filter_comment]

/-- A text is read from outside of comments. -/
theorem commentRuns_lexemes (cs : List Char) : CommentRuns false (marks (lexemes cs)) :=
  CommentRuns.marks_lex LexState.resumes_start none cs

/-! ### Reading from the middle of a line -/

/-- A reading that starts after a character of code goes on as the whole reading does. -/
theorem marks_lex_of_code {s : LexState} {before : Option Char} {cs : List Char}
    {a b : List MarkedChar} {c : Char} (h : marks (lex s before cs) = a ++ .code c :: b) :
    marks (lex .start (some c) (b.map MarkedChar.char)) = b := by
  fun_induction lex s before cs generalizing a with
  | case1 => simp [marks] at h
  | case2 s before d rest m unit =>
      rename_i ih
      rw [marks_cons, append_eq_append_cons_iff] at h
      rcases h with ⟨x, hunit, hb⟩ | ⟨a', rfl, htail⟩
      · have hmem : .code c ∈ (⟨unit, m.literal, m.comment, m.next⟩ : Lexeme).marks := by
          simp [hunit]
        have hcode := (Lexeme.isCode_of_mem_marks hmem).symm
        simp only [MarkedChar.isCode_code, Lexeme.isCode, Bool.and_eq_true,
          Bool.not_eq_true'] at hcode
        have hm : m = ⟨0, false, false, .start⟩ := move_of_code hcode.1 hcode.2
        simp only [unit, hm, List.take_zero, List.drop_zero] at hunit hb
        change [MarkedChar.code d] = _ at hunit
        rw [eq_comm, List.append_eq_singleton_iff] at hunit
        rcases hunit with ⟨-, hx⟩ | ⟨-, hnil⟩
        · obtain ⟨hcd, rfl⟩ := List.cons.inj hx
          obtain rfl : c = d := congrArg MarkedChar.char hcd
          rw [hb, List.nil_append, map_char_marks, flatMap_text_lex]
          rfl
        · cases hnil
      · exact ih htail

/-- What stands in front of a text matters only if it starts with a `?`. -/
theorem lex_congr_before (s : LexState) {before before' : Option Char} {cs : List Char}
    (h : cs.head? = some '?' → before.any isIdentChar = before'.any isIdentChar) :
    lex s before cs = lex s before' cs := by
  cases cs with
  | nil => rw [lex, lex]
  | cons c rest =>
      have hcond : (c = '?' ∧ startsCharLiteral before rest = true) ↔
          (c = '?' ∧ startsCharLiteral before' rest = true) := by
        refine and_congr_right ?_
        rintro rfl
        rw [startsCharLiteral, startsCharLiteral, h rfl]
      have hmove : s.move before c rest = s.move before' c rest := by
        simp only [LexState.move, LexState.moveInMode, LexState.moveInCode, hcond]
      rw [lex_cons, lex_cons, hmove]

/-- A `?` that ends an identifier is code. -/
theorem marks_lex_question {c : Char} (hc : isIdentChar c = true) (cs : List Char) :
    marks (lex .start (some c) ('?' :: cs)) = .code '?' :: marks (lex .start (some '?') cs) := by
  have hmove : LexState.start.move (some c) '?' cs = ⟨0, false, false, .start⟩ := by
    simp [LexState.move, LexState.moveInMode, LexState.start, LexState.moveInCode, Quote.ofChar?,
      startsCharLiteral, hc]
  rw [lex_cons, hmove, marks_cons]
  rfl

/-- What stands in front of the first comment, in terms of the marks. -/
theorem beforeComment_eq {ls : List Lexeme} (hls : ∀ l ∈ ls, l.text ≠ []) :
    beforeComment ls = ((marks ls).takeWhile fun m => !m.comment).map MarkedChar.char := by
  induction ls with
  | nil => rfl
  | cons l ls ih =>
      rw [marks_cons, beforeComment]
      cases hl : l.comment with
      | true =>
          obtain ⟨c, cs, htext⟩ := List.exists_cons_of_ne_nil (hls l List.mem_cons_self)
          simp [Lexeme.marks, htext, hl]
      | false =>
          have hmarks : ∀ m ∈ l.marks, (!m.comment) = true := by
            intro m hm
            rw [Lexeme.comment_of_mem_marks hm, hl]
            rfl
          rw [if_neg (by simp), List.takeWhile_append_of_pos hmarks, List.map_append,
            l.map_char_marks, ih fun k hk => hls k (List.mem_cons_of_mem l hk)]

/-- If the marks of a text are known up to its comment, so is what is in front of the comment. -/
theorem withoutComment_of_marks {cs : List Char} {x y : List MarkedChar}
    (h : marks (lexemes cs) = x ++ y) (hx : ∀ m ∈ x, m.comment = false)
    (hy : ∀ m ∈ y, m.comment = true) : withoutComment cs = x.map MarkedChar.char := by
  have hpos : ∀ m ∈ x, (!m.comment) = true := by
    intro m hm
    rw [hx m hm]
    rfl
  have hnil : (y.takeWhile fun m => !m.comment) = [] := by
    cases y with
    | nil => rfl
    | cons m y => simp [hy m List.mem_cons_self]
  have hlexemes : ∀ l ∈ lexemes cs, l.text ≠ [] := fun l hl => text_ne_nil_of_mem_lex hl
  rw [withoutComment, beforeComment_eq hlexemes, h, List.takeWhile_append_of_pos hpos, hnil,
    List.append_nil]

end DslOutline
