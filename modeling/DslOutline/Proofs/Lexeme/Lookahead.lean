import DslOutline.Proofs.Lexeme.Marks
import DslOutline.Proofs.Lexeme.Restart

/-!
# How far a reading looks ahead

To tell what a unit is, the reader may look at what follows it: for two more quotation marks, for
the name and the delimiter of a sigil, for the character after a `?`. It never looks past the end of
the line, and never past a `#` that it has not reached, except from a `?` right in front of it.
`SameAhead x y` says that two texts agree up to such a place, and then a unit in front of them is
the same one (`move_congr`).

Two consequences are about lines. A text made of whole lines is read as it is, whatever follows it
(`lex_append`), and a line is read as it is without what follows it (`marks_lex_take`).
-/

namespace DslOutline

open Text

/-! ### Texts that look the same -/

/-- Nothing that starts in front of this text can reach into it: it is empty, or starts with a line
feed or a `#`. -/
def StopsHere (x : List Char) : Prop :=
  ∀ c, x.head? = some c → c = '\n' ∨ c = '#'

theorem stopsHere_nil : StopsHere [] := by
  intro c hc
  cases hc

/-- Two texts agree up to a place where both stop. -/
def SameAhead (x y : List Char) : Prop :=
  ∃ p u v, x = p ++ u ∧ y = p ++ v ∧ StopsHere u ∧ StopsHere v

namespace SameAhead

variable {x y : List Char}

theorem symm (h : SameAhead x y) : SameAhead y x := by
  obtain ⟨p, u, v, hx, hy, hu, hv⟩ := h
  exact ⟨p, v, u, hy, hx, hv, hu⟩

theorem cons (h : SameAhead x y) (c : Char) : SameAhead (c :: x) (c :: y) := by
  obtain ⟨p, u, v, rfl, rfl, hu, hv⟩ := h
  exact ⟨c :: p, u, v, rfl, rfl, hu, hv⟩

theorem append (h : SameAhead x y) (w : List Char) : SameAhead (w ++ x) (w ++ y) := by
  induction w with
  | nil => exact h
  | cons c w ih => exact ih.cons c

/-- A word in which nothing stops starts both texts or none, and what follows it looks the same. -/
theorem exists_append {w : List Char} (h : SameAhead (w ++ x) y) (hfeed : '\n' ∉ w)
    (hhash : '#' ∉ w) : ∃ y', y = w ++ y' ∧ SameAhead x y' := by
  obtain ⟨p, u, v, hx, rfl, hu, hv⟩ := h
  rcases List.append_eq_append_iff.mp hx with ⟨p', rfl, rfl⟩ | ⟨z, rfl, rfl⟩
  · exact ⟨p' ++ v, List.append_assoc w p' v, p', u, v, rfl, rfl, hu, hv⟩
  · -- past the common part, the word would go on with a character that stops
    cases z with
    | nil => exact ⟨v, by simp, [], x, v, rfl, rfl, hu, hv⟩
    | cons c z =>
        rcases hu c rfl with rfl | rfl
        · simp at hfeed
        · simp at hhash

/-- Words without a line feed and without a `#` are part of what both texts have in common. -/
theorem prefix_of_prefix (h : SameAhead x y) {w : List Char} (hfeed : '\n' ∉ w) (hhash : '#' ∉ w)
    (hw : w <+: x) : w <+: y := by
  obtain ⟨x', rfl⟩ := hw
  obtain ⟨y', rfl, -⟩ := h.exists_append hfeed hhash
  exact List.prefix_append w y'

/-- Neither text starts with such a word unless the other does. -/
theorem prefix_iff (h : SameAhead x y) {w : List Char} (hfeed : '\n' ∉ w) (hhash : '#' ∉ w) :
    w <+: x ↔ w <+: y :=
  ⟨h.prefix_of_prefix hfeed hhash, h.symm.prefix_of_prefix hfeed hhash⟩

/-- Neither text starts with a character other than a line feed and `#` unless the other does. -/
theorem head?_eq_some_iff (h : SameAhead x y) {c : Char} (hfeed : c ≠ '\n') (hhash : c ≠ '#') :
    x.head? = some c ↔ y.head? = some c := by
  have hone : ∀ z : List Char, z.head? = some c ↔ [c] <+: z := by
    intro z
    cases z with
    | nil => simp
    | cons d z => simp [eq_comm]
  rw [hone, hone]
  exact h.prefix_iff (by simpa using hfeed.symm) (by simpa using hhash.symm)

/-- A heredoc opens or closes in one text if it does in the other. -/
theorem startsWithTriple (h : SameAhead x y) {m : Char} (hfeed : m ≠ '\n') (hhash : m ≠ '#') :
    startsWithTriple m x = startsWithTriple m y := by
  rw [Bool.eq_iff_iff, startsWithTriple_iff, startsWithTriple_iff]
  exact h.prefix_iff (by simpa using hfeed.symm) (by simpa using hhash.symm)

end SameAhead

/-! ### One unit -/

/-- A run of letters ends where the common part of the texts does, at the latest. -/
theorem takeWhile_isAlpha_append {p u : List Char} (hu : StopsHere u) :
    (p ++ u).takeWhile Char.isAlpha = p.takeWhile Char.isAlpha := by
  have hnil : u.takeWhile Char.isAlpha = [] := by
    cases u with
    | nil => rfl
    | cons c u => rcases hu c rfl with rfl | rfl <;> rfl
  rw [List.takeWhile_append, hnil, List.append_nil]
  split_ifs with hall
  · exact ((List.takeWhile_prefix _).eq_of_length hall).symm
  · rfl

theorem Quote.ne_of_ofChar? {c : Char} {q : Quote} (h : Quote.ofChar? c = some q) :
    c ≠ '\n' ∧ c ≠ '#' := by
  constructor <;> rintro rfl <;> cases h

/-- The opening of a sigil is read in the common part of the texts. -/
theorem sigilOpening?_congr {x y : List Char} (h : SameAhead x y) :
    sigilOpening? x = sigilOpening? y := by
  obtain ⟨p, u, v, rfl, rfl, hu, hv⟩ := h
  have hname : (p.takeWhile Char.isAlpha).length ≤ p.length :=
    (List.takeWhile_prefix Char.isAlpha).length_le
  have hnone : ∀ w, StopsHere w → p.drop (p.takeWhile Char.isAlpha).length = [] →
      sigilOpening? (p ++ w) = none := by
    intro w hw hnil
    simp only [sigilOpening?, takeWhile_isAlpha_append hw, List.drop_append_of_le_length hname,
      hnil, List.nil_append]
    cases w with
    | nil => simp
    | cons c w => rcases hw c rfl with rfl | rfl <;> simp [Quote.ofChar?, sigilCloser?]
  cases hdrop : p.drop (p.takeWhile Char.isAlpha).length with
  | nil => rw [hnone u hu hdrop, hnone v hv hdrop]
  | cons d rest =>
      simp only [sigilOpening?, takeWhile_isAlpha_append hu, takeWhile_isAlpha_append hv,
        List.drop_append_of_le_length hname, hdrop, List.cons_append]
      cases hq : Quote.ofChar? d with
      | none => rfl
      | some q =>
          obtain ⟨hfeed, hhash⟩ := Quote.ne_of_ofChar? hq
          have hsame : SameAhead (d :: (rest ++ u)) (d :: (rest ++ v)) :=
            ⟨d :: rest, u, v, rfl, rfl, hu, hv⟩
          simp only [hsame.startsWithTriple hfeed hhash]

/-- A character literal reads no line feed and no `#` that the other text does not have. -/
theorem charLiteralBody_congr {x y : List Char} (h : SameAhead x y) :
    charLiteralBody x = charLiteralBody y := by
  simp only [charLiteralBody, h.head?_eq_some_iff (c := '\\') (by decide) (by decide)]

/-- A unit is the same in front of two texts that look the same. From a `?` in code, they must both
go on with what is no white space, or the `?` must end an identifier. -/
theorem move_congr (s : LexState) {before : Option Char} {c : Char} {x y : List Char}
    (h : SameAhead x y)
    (hchar : s.mode = .code → c = '?' →
      startsCharLiteral before x = startsCharLiteral before y) :
    s.move before c x = s.move before c y := by
  have hinter : x.head? = some '\x7b' ↔ y.head? = some '\x7b' :=
    h.head?_eq_some_iff (by decide) (by decide)
  have hmark : ∀ q : Quote,
      startsWithTriple q.mark (c :: x) = startsWithTriple q.mark (c :: y) := by
    intro q
    exact (h.cons c).startsWithTriple (by cases q <;> decide) (by cases q <;> decide)
  have hcode : s.mode = .code → s.moveInCode before c x = s.moveInCode before c y := by
    intro hcode
    unfold LexState.moveInCode
    cases hq : Quote.ofChar? c with
    | some q =>
        obtain ⟨hfeed, hhash⟩ := Quote.ne_of_ofChar? hq
        simp only [(h.cons c).startsWithTriple hfeed hhash]
    | none =>
        have hcond : (c = '?' ∧ startsCharLiteral before x = true) ↔
            (c = '?' ∧ startsCharLiteral before y = true) :=
          and_congr_right fun hc => by rw [hchar hcode hc]
        simp only [hcond, charLiteralBody_congr h, sigilOpening?_congr h]
  have hmode : s.moveInMode before c x = s.moveInMode before c y := by
    unfold LexState.moveInMode
    cases hm : s.mode with
    | code => exact hcode hm
    | comment => rfl
    | quoted q => simp only [hinter]
    | heredoc q => simp only [hinter, hmark]
    | sigil opener closer depth => rfl
  simp only [LexState.move, hmode]

/-- A line feed is a unit of its own, whatever is next to it. -/
theorem move_newline (s : LexState) (before before' : Option Char) (x y : List Char) :
    s.move before '\n' x = s.move before' '\n' y := by
  have hcode : s.moveInCode before '\n' x = s.moveInCode before' '\n' y := by
    simp [LexState.moveInCode, Quote.ofChar?]
  have hmark : ∀ (q : Quote) (z : List Char), startsWithTriple q.mark ('\n' :: z) = false := by
    intro q z
    cases q <;> rfl
  have hmode : s.moveInMode before '\n' x = s.moveInMode before' '\n' y := by
    unfold LexState.moveInMode
    simp only [hcode, hmark]
    simp
  simp only [LexState.move, hmode]

/-- Up to the end of the line, a unit is the same. -/
theorem move_congr_line (s : LexState) (before : Option Char) (c : Char) {p u v : List Char}
    (hu : u.head? = none ∨ u.head? = some '\n') (hv : v.head? = none ∨ v.head? = some '\n') :
    s.move before c (p ++ u) = s.move before c (p ++ v) := by
  have hstops : ∀ {w : List Char}, w.head? = none ∨ w.head? = some '\n' → StopsHere w := by
    rintro w (h | h) d hd
    · rw [h] at hd
      cases hd
    · rw [h] at hd
      exact Or.inl (Option.some.inj hd).symm
  refine move_congr s ⟨p, u, v, rfl, rfl, hstops hu, hstops hv⟩ ?_
  intro _ _
  cases p with
  | nil =>
      rcases hu with hu | hu <;> rcases hv with hv | hv <;>
        simp [startsCharLiteral, hu, hv, isAsciiBlank]
  | cons d p => rfl

/-! ### Whole lines -/

/-- A unit that starts in whole lines is the same whatever follows them. -/
theorem move_append {c : Char} {rest : List Char} (h : WholeLines (c :: rest)) (s : LexState)
    (before : Option Char) (q : List Char) :
    s.move before c (rest ++ q) = s.move before c rest ∧
      (s.move before c rest).extra ≤ rest.length := by
  have hlast : '\n' ∈ c :: rest := by
    have hmem := List.getLast_mem (List.cons_ne_nil c rest)
    rwa [h _ (List.getLast?_eq_some_getLast (List.cons_ne_nil c rest))] at hmem
  constructor
  · rcases rest.eq_nil_or_concat with rfl | ⟨p, d, rfl⟩
    · have hc : c = '\n' := h c rfl
      rw [hc]
      exact move_newline s before before _ _
    · rw [List.concat_eq_append] at h ⊢
      have hd : d = '\n' := h d (by rw [← List.cons_append, List.getLast?_concat])
      rw [hd, List.append_assoc]
      exact move_congr_line s before c (Or.inr rfl) (Or.inr rfl)
  · by_contra hlong
    refine newline_not_mem_take_move s before c rest ?_
    rwa [List.take_of_length_le (by simp only [List.length_cons]; omega)]

/-- **Whole lines are read as they are, whatever follows them.** -/
theorem lex_append (s : LexState) (before : Option Char) {p : List Char} (hp : WholeLines p)
    (q : List Char) :
    lex s before (p ++ q) =
      lex s before p ++ lex (stateAfter s (lex s before p)) (p.getLast?.or before) q := by
  fun_induction lex s before p with
  | case1 => rfl
  | case2 s before c rest m unit ih =>
      obtain ⟨hmove, hextra⟩ := move_append hp s before q
      change m.extra ≤ _ at hextra
      have hunit : c :: (rest ++ q).take m.extra = unit := by
        rw [List.take_append_of_le_length hextra]
      have hsplit : unit ++ rest.drop m.extra = c :: rest := by
        simp only [unit, List.cons_append, List.take_append_drop]
      have htail := ih (Text.WholeLines.of_append (hsplit ▸ hp))
      have hstate : ∀ ls, stateAfter s (⟨unit, m.literal, m.comment, m.next⟩ :: ls) =
          stateAfter m.next ls := stateAfter_append s [_]
      have hbefore : (c :: rest).getLast?.or before =
          (rest.drop m.extra).getLast?.or unit.getLast? := by
        rw [← hsplit, List.getLast?_append, Option.or_assoc]
        have hlast : unit.getLast?.isSome = true := by simp [unit]
        obtain ⟨d, hd⟩ := Option.isSome_iff_exists.mp hlast
        rw [hd]
        rfl
      rw [List.cons_append, lex_cons, hmove]
      change ⟨c :: (rest ++ q).take m.extra, _, _, _⟩ :: lex m.next
        (c :: (rest ++ q).take m.extra).getLast? ((rest ++ q).drop m.extra) = _
      rw [hunit, List.drop_append_of_le_length hextra, htail, hstate, hbefore, List.cons_append]

/-! ### Lines by themselves -/

/-- A line is read as it is, without what follows it. -/
theorem marks_lex_take (s : LexState) (before : Option Char) {a rest : List Char}
    (hrest : rest.head? = none ∨ rest.head? = some '\n') :
    marks (lex s before a) = (marks (lex s before (a ++ rest))).take a.length := by
  fun_induction lex s before a with
  | case1 => rfl
  | case2 s before c a m unit ih =>
      have hmove : s.move before c (a ++ rest) = m := by
        have := move_congr_line s before c (p := a) hrest (v := []) (Or.inl rfl)
        rwa [List.append_nil] at this
      have hlength : ∀ l : Lexeme, l.marks.length = l.text.length := fun l => List.length_map _
      rw [List.cons_append, lex_cons, hmove, marks_cons, marks_cons]
      rcases Nat.le_total m.extra a.length with hle | hge
      · rw [List.take_append_of_le_length hle, List.drop_append_of_le_length hle, ih,
          List.take_append]
        congr 1
        · rw [List.take_of_length_le]
          rw [hlength]
          simp only [List.length_cons, List.length_take]
          omega
        · congr 1
          rw [hlength]
          simp only [List.length_cons, List.length_take, List.length_drop]
          omega
      · -- the unit goes on past the line, and nothing is left of the line
        have htake : (a ++ rest).take m.extra = a ++ rest.take (m.extra - a.length) := by
          rw [List.take_append, List.take_of_length_le hge]
        have hunit : unit = c :: a := by
          simp only [unit, List.take_of_length_le hge]
        have hnil : a.drop m.extra = [] := List.drop_eq_nil_of_le hge
        have hmarks : (⟨c :: (a ++ rest.take (m.extra - a.length)), m.literal, m.comment,
            m.next⟩ : Lexeme).marks =
            (c :: a).map (fun d => ⟨d, m.literal, m.comment⟩) ++
              (rest.take (m.extra - a.length)).map fun d => ⟨d, m.literal, m.comment⟩ := by
          rw [Lexeme.marks, ← List.cons_append, List.map_append]
        rw [hnil, htake, hmarks, hunit, List.append_assoc, List.take_left' (by simp)]
        simp [lex, marks, Lexeme.marks]

end DslOutline
