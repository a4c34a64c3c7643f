import DslOutline.Proofs.Lexeme.Spans

/-!
# Literals with nested interpolations

A string, charlist or heredoc may contain `#{ ... }` with code inside, the code may contain braces
and further literals, and so on to any depth. `WellFormed` is the grammar of what may stand between
the marks of a literal and between the braces of an interpolation. The reader needs no recursion
for it: it keeps a stack of modes to resume. `lex_literal` says that the stack does what the grammar
says: a well-formed literal is read to its last mark and no further, every unit of it counts as
literal, and the reader is back in the state in which it met the first mark.

`Reads s t u rest` is the statement that carries the induction. It speaks of `u` with what follows
it present, because a `#`, a mark or the second of two marks is judged by the characters after it.
-/

namespace DslOutline

open Text

/-- What a literal is delimited by: a quotation mark, single or tripled. -/
structure Delimiter where
  /-- The mark. -/
  quote : Quote
  /-- Three marks in a row delimit the literal. -/
  tripled : Bool
deriving Repr, DecidableEq

namespace Delimiter

/-- The marks at either end of the literal. -/
def marks (d : Delimiter) : List Char :=
  if d.tripled then [d.quote.mark, d.quote.mark, d.quote.mark] else [d.quote.mark]

/-- The kind of text between the marks. -/
def mode (d : Delimiter) : Mode :=
  if d.tripled then .heredoc d.quote else .quoted d.quote

/-- The literal with this text between the marks. -/
def literal (d : Delimiter) (body : List Char) : List Char :=
  d.marks ++ (body ++ d.marks)

/-- An empty literal with single marks must not have a third mark behind it, which would make it
the start of one with tripled marks. -/
def Separates (d : Delimiter) (body rest : List Char) : Prop :=
  d.tripled = false → body = [] → rest.head? ≠ some d.quote.mark

end Delimiter

/-- The two kinds of text that contain each other. -/
inductive Region where
  /-- Between the marks of a literal. -/
  | body (d : Delimiter)
  /-- Between the braces of an interpolation. -/
  | code
deriving Repr, DecidableEq

/-- The characters that mean something in the code of an interpolation. -/
def isSpecial (c : Char) : Bool :=
  ['"', '\'', '#', '?', '~', '\x7b', '\x7d'].contains c

/-- Texts that may stand in a region. A plain character of a literal is no backslash, no `#` with an
opening brace behind it, and does not start the marks that would close the literal. -/
inductive WellFormed : Region → List Char → Prop
  | bodyNil (d : Delimiter) : WellFormed (.body d) []
  | bodyChar {d : Delimiter} {c : Char} {s : List Char} (escape : c ≠ '\\')
      (interpolation : c = '#' → s.head? ≠ some '\x7b')
      (close : ¬ d.marks <+: c :: (s ++ d.marks)) (tail : WellFormed (.body d) s) :
      WellFormed (.body d) (c :: s)
  | bodyEscape {d : Delimiter} {c : Char} {s : List Char} (tail : WellFormed (.body d) s) :
      WellFormed (.body d) ('\\' :: c :: s)
  | bodyInterpolation {d : Delimiter} {k s : List Char} (code : WellFormed .code k)
      (tail : WellFormed (.body d) s) : WellFormed (.body d) ('#' :: '\x7b' :: (k ++ '\x7d' :: s))
  | codeNil : WellFormed .code []
  | codeChar {c : Char} {s : List Char} (plain : isSpecial c = false) (tail : WellFormed .code s) :
      WellFormed .code (c :: s)
  | codeBraces {k s : List Char} (inner : WellFormed .code k) (tail : WellFormed .code s) :
      WellFormed .code ('\x7b' :: (k ++ '\x7d' :: s))
  | codeLiteral {d : Delimiter} {b s : List Char} (body : WellFormed (.body d) b)
      (separate : d.Separates b s) (tail : WellFormed .code s) :
      WellFormed .code (d.literal b ++ s)

/-! ### Reading a part of a text -/

/-- The reader's state after some lexemes that were read from state `s`. -/
def stateAfter (s : LexState) (ls : List Lexeme) : LexState :=
  (ls.getLast?.map Lexeme.after).getD s

/-- The state after two parts of a text is reached one part after the other. -/
theorem stateAfter_append (s : LexState) (ls ks : List Lexeme) :
    stateAfter s (ls ++ ks) = stateAfter (stateAfter s ls) ks := by
  rcases ks.eq_nil_or_concat with rfl | ⟨ks, k, rfl⟩
  · rw [List.append_nil]
    rfl
  · simp [stateAfter]

/-- In front of `rest`, reading `u` from state `s` ends in state `t`, and all that is read belongs
to a literal. -/
def Reads (s t : LexState) (u rest : List Char) : Prop :=
  ∀ before, ∃ ls, lex s before (u ++ rest) = ls ++ lex t (u.getLast?.or before) rest ∧
    ls.flatMap Lexeme.text = u ∧ stateAfter s ls = t ∧
    ∀ l ∈ ls, l.literal = true ∧ l.comment = false

namespace Reads

variable {s t r : LexState} {u v rest : List Char}

theorem refl (s : LexState) (rest : List Char) : Reads s s [] rest :=
  fun _ => ⟨[], rfl, rfl, rfl, by simp⟩

/-- Two parts of a literal are read one after the other, each in front of what follows it. -/
theorem trans (h₁ : Reads s t u (v ++ rest)) (h₂ : Reads t r v rest) :
    Reads s r (u ++ v) rest := by
  intro before
  obtain ⟨ls, hlex₁, htext₁, hstate₁, hlit₁⟩ := h₁ before
  obtain ⟨ks, hlex₂, htext₂, hstate₂, hlit₂⟩ := h₂ (u.getLast?.or before)
  refine ⟨ls ++ ks, ?_, ?_, ?_, ?_⟩
  · rw [List.append_assoc, hlex₁, hlex₂, List.append_assoc, List.getLast?_append, Option.or_assoc]
  · rw [List.flatMap_append, htext₁, htext₂]
  · rw [stateAfter_append, hstate₁, hstate₂]
  · intro l hl
    rcases List.mem_append.mp hl with hl | hl
    · exact hlit₁ l hl
    · exact hlit₂ l hl

/-- One unit of a literal. -/
theorem unit {c : Char}
    (h : ∀ before, s.move before c (u ++ rest) = ⟨u.length, true, false, t⟩) :
    Reads s t (c :: u) rest := by
  intro before
  refine ⟨[⟨c :: u, true, false, t⟩], ?_, by simp, rfl, by simp⟩
  have hlast : (c :: u).getLast?.or before = (c :: u).getLast? := by
    rw [List.getLast?_cons]
    rfl
  rw [List.cons_append, lex_cons, h, hlast]
  simp only [List.take_left, List.drop_left, List.singleton_append]

end Reads

/-! ### Single units -/

theorem Quote.ofChar?_mark (q : Quote) : Quote.ofChar? q.mark = some q := by
  cases q <;> rfl

/-- No mark has another meaning inside a literal. -/
theorem Quote.mark_ne (q : Quote) :
    q.mark ≠ '#' ∧ q.mark ≠ '\\' ∧ q.mark ≠ '\x7b' ∧ q.mark ≠ '\x7d' := by
  cases q <;> decide

/-- Three marks in a row are a prefix of the text. -/
theorem startsWithTriple_iff {m : Char} {cs : List Char} :
    startsWithTriple m cs = true ↔ [m, m, m] <+: cs := by
  rw [startsWithTriple, List.isPrefixOf_iff_prefix]

theorem startsWithTriple_cons (m : Char) (cs : List Char) :
    startsWithTriple m (m :: m :: m :: cs) = true :=
  startsWithTriple_iff.mpr (List.prefix_append [m, m, m] cs)

/-- A character without meaning in code is a unit of its own. -/
theorem move_codeChar {i : Mode × Nat} {outer : List (Mode × Nat)} {c : Char}
    (hc : isSpecial c = false) (before : Option Char) (rest : List Char) :
    LexState.move ⟨.code, i :: outer⟩ before c rest = ⟨0, true, false, ⟨.code, i :: outer⟩⟩ := by
  simp only [isSpecial, List.contains_eq_mem, List.mem_cons, List.not_mem_nil, or_false,
    decide_eq_false_iff_not, not_or] at hc
  obtain ⟨hdouble, hsingle, hhash, hquestion, htilde, hopen, hclose⟩ := hc
  simp [LexState.move, LexState.moveInMode, LexState.moveInCode, Quote.ofChar?, hdouble, hsingle,
    hhash, hquestion, htilde, hopen, hclose]

/-- A brace in code is a unit of its own, and counted. -/
theorem move_brace {i : Mode × Nat} {outer : List (Mode × Nat)} {c : Char}
    (hc : c = '\x7b' ∨ c = '\x7d') (before : Option Char) (rest : List Char) :
    LexState.move ⟨.code, i :: outer⟩ before c rest =
      ⟨0, true, false, LexState.brace ⟨.code, i :: outer⟩ c⟩ := by
  rcases hc with rfl | rfl <;>
    simp [LexState.move, LexState.moveInMode, LexState.moveInCode, Quote.ofChar?]

/-- An escape sequence in a literal is one unit. -/
theorem move_escape (d : Delimiter) (stack : List (Mode × Nat)) (before : Option Char)
    (rest : List Char) :
    LexState.move ⟨d.mode, stack⟩ before '\\' rest = ⟨1, true, false, ⟨d.mode, stack⟩⟩ := by
  unfold Delimiter.mode
  split <;> simp [LexState.move, LexState.moveInMode]

/-- The start of an interpolation is one unit. -/
theorem move_interpolation (d : Delimiter) (stack : List (Mode × Nat)) (before : Option Char)
    (rest : List Char) :
    LexState.move ⟨d.mode, stack⟩ before '#' ('\x7b' :: rest) =
      ⟨1, true, false, ⟨.code, (d.mode, 0) :: stack⟩⟩ := by
  unfold Delimiter.mode
  split <;> simp [LexState.move, LexState.moveInMode, LexState.interpolate]

/-- A plain character of a literal is a unit of its own. -/
theorem move_bodyChar {d : Delimiter} {c : Char} {after : List Char} (hescape : c ≠ '\\')
    (hinterpolation : c = '#' → after.head? ≠ some '\x7b') (hclose : ¬ d.marks <+: c :: after)
    (stack : List (Mode × Nat)) (before : Option Char) :
    LexState.move ⟨d.mode, stack⟩ before c after = ⟨0, true, false, ⟨d.mode, stack⟩⟩ := by
  have hinter : ¬ (c = '#' ∧ after.head? = some '\x7b') := fun h => hinterpolation h.1 h.2
  obtain ⟨q, tripled⟩ := d
  cases tripled with
  | false =>
      have hmark : c ≠ q.mark := by
        rintro rfl
        exact hclose (List.prefix_append [q.mark] after)
      simp only [Delimiter.mode, LexState.move, LexState.moveInMode, if_neg hinter, if_neg hescape,
        if_neg hmark, Bool.true_or, Bool.false_eq_true, ite_false]
  | true =>
      have htriple : startsWithTriple q.mark (c :: after) = false := by
        rw [Bool.eq_false_iff]
        exact fun h => hclose (startsWithTriple_iff.mp h)
      simp only [Delimiter.mode, LexState.move, LexState.moveInMode, if_neg hinter, if_neg hescape,
        htriple, Bool.true_or, Bool.false_eq_true, ite_true, ite_false]

/-! ### Marks -/

/-- Every literal starts with its quotation mark. -/
theorem Delimiter.head?_marks_append (d : Delimiter) (rest : List Char) :
    (d.marks ++ rest).head? = some d.quote.mark := by
  unfold Delimiter.marks
  split <;> rfl

/-- A literal ends with its quotation mark, whatever stands in front of it. -/
theorem Delimiter.getLast?_literal (d : Delimiter) (b : List Char) (before : Option Char) :
    (d.literal b).getLast?.or before = some d.quote.mark := by
  have hlast : d.marks.getLast? = some d.quote.mark := by
    unfold Delimiter.marks
    split <;> rfl
  rw [Delimiter.literal, List.getLast?_append, List.getLast?_append, hlast]
  rfl

/-- Whether marks close a literal is seen on the literal alone. -/
theorem Delimiter.not_marks_prefix {d : Delimiter} {c : Char} {s : List Char}
    (h : ¬ d.marks <+: c :: (s ++ d.marks)) (rest : List Char) :
    ¬ d.marks <+: c :: (s ++ (d.marks ++ rest)) := by
  intro hprefix
  refine h (List.prefix_of_prefix_length_le hprefix ⟨rest, ?_⟩ ?_)
  · simp
  · simp only [List.length_cons, List.length_append]
    omega

/-- A literal that is separated from `s` stays so if `s` goes on with a character that is no
mark. -/
theorem Delimiter.Separates.append {d : Delimiter} {b s : List Char} (h : d.Separates b s)
    {c : Char} (hc : c ≠ d.quote.mark) (rest : List Char) : d.Separates b (s ++ c :: rest) := by
  intro hsingle hnil
  cases s with
  | nil => simpa using hc
  | cons e s => exact h hsingle hnil

/-- The closing marks of a literal are one unit. -/
theorem reads_close (d : Delimiter) (stack : List (Mode × Nat)) (rest : List Char) :
    Reads ⟨d.mode, stack⟩ ⟨.code, stack⟩ d.marks rest := by
  obtain ⟨q, tripled⟩ := d
  obtain ⟨hhash, hescape, -⟩ := q.mark_ne
  cases tripled with
  | false =>
      refine Reads.unit (u := []) fun before => ?_
      simp [Delimiter.mode, LexState.move, LexState.moveInMode, LexState.withMode, hhash, hescape]
  | true =>
      refine Reads.unit (u := [q.mark, q.mark]) fun before => ?_
      simp [Delimiter.mode, LexState.move, LexState.moveInMode, LexState.withMode, hhash, hescape,
        startsWithTriple_cons]

/-- The text of a literal with single marks does not start with its mark. -/
theorem WellFormed.head?_ne_mark {q : Quote} {b : List Char}
    (h : WellFormed (.body ⟨q, false⟩) b) : b.head? ≠ some q.mark := by
  obtain ⟨hhash, hescape, -⟩ := q.mark_ne
  cases h with
  | bodyNil => simp
  | @bodyChar _ c s _ _ close _ =>
      intro hc
      rw [List.head?_cons, Option.some.injEq] at hc
      subst hc
      exact close (List.prefix_append [q.mark] _)
  | bodyEscape tail => simpa using hescape.symm
  | bodyInterpolation code tail => simpa using hhash.symm

/-- The opening marks of a literal are one unit. -/
theorem reads_open {d : Delimiter} {b rest : List Char} (hb : WellFormed (.body d) b)
    (hseparate : d.Separates b rest) (stack : List (Mode × Nat)) :
    Reads ⟨.code, stack⟩ ⟨d.mode, stack⟩ d.marks (b ++ (d.marks ++ rest)) := by
  obtain ⟨q, tripled⟩ := d
  cases tripled with
  | false =>
      refine Reads.unit (u := []) fun before => ?_
      have htriple : startsWithTriple q.mark (q.mark :: (b ++ (q.mark :: rest))) = false := by
        rw [Bool.eq_false_iff, Ne, startsWithTriple_iff]
        intro hprefix
        cases b with
        | nil =>
            obtain ⟨t, ht⟩ := hprefix
            refine hseparate rfl rfl ?_
            simp only [List.cons_append, List.nil_append, List.cons.injEq, true_and] at ht
            rw [← ht, List.head?_cons]
        | cons c b =>
            obtain ⟨t, ht⟩ := hprefix
            refine hb.head?_ne_mark ?_
            simp only [List.cons_append, List.cons.injEq, true_and] at ht
            rw [List.head?_cons, ht.1]
      simp [Delimiter.mode, Delimiter.marks, LexState.move, LexState.moveInMode,
        LexState.moveInCode, LexState.withMode, q.ofChar?_mark, htriple]
  | true =>
      refine Reads.unit (u := [q.mark, q.mark]) fun before => ?_
      simp [Delimiter.mode, LexState.move, LexState.moveInMode, LexState.moveInCode,
        LexState.withMode, q.ofChar?_mark, startsWithTriple_cons]

/-! ### The induction over the grammar -/

namespace Region

/-- What ends a region. -/
def closing : Region → List Char
  | body d => d.marks
  | code => ['\x7d']

/-- The states of a reader that stands in a region. -/
def Admits : Region → LexState → Prop
  | body d, s => s.mode = d.mode
  | code, s => s.mode = .code ∧ s.interpolations ≠ []

end Region

/-- Code inside an interpolation leaves the closing brace to resume the literal. -/
theorem reads_interpolation {d : Delimiter} {k : List Char} {stack : List (Mode × Nat)}
    {rest : List Char}
    (hk : Reads ⟨.code, (d.mode, 0) :: stack⟩ ⟨.code, (d.mode, 0) :: stack⟩ k ('\x7d' :: rest)) :
    Reads ⟨d.mode, stack⟩ ⟨d.mode, stack⟩ ('#' :: '\x7b' :: (k ++ ['\x7d'])) rest := by
  have hopen : Reads ⟨d.mode, stack⟩ ⟨.code, (d.mode, 0) :: stack⟩ ['#', '\x7b']
      ((k ++ ['\x7d']) ++ rest) :=
    Reads.unit (u := ['\x7b']) fun before => move_interpolation d stack before _
  have hclose : Reads ⟨.code, (d.mode, 0) :: stack⟩ ⟨d.mode, stack⟩ ['\x7d'] rest :=
    Reads.unit (u := []) fun before => move_brace (Or.inr rfl) before _
  exact hopen.trans (hk.trans hclose)

/-- Braces inside an interpolation are counted up and down again. -/
theorem reads_braces {resume : Mode} {depth : Nat} {outer : List (Mode × Nat)} {k rest : List Char}
    (hk : Reads ⟨.code, (resume, depth + 1) :: outer⟩ ⟨.code, (resume, depth + 1) :: outer⟩ k
      ('\x7d' :: rest)) :
    Reads ⟨.code, (resume, depth) :: outer⟩ ⟨.code, (resume, depth) :: outer⟩
      ('\x7b' :: (k ++ ['\x7d'])) rest := by
  have hopen : Reads ⟨.code, (resume, depth) :: outer⟩ ⟨.code, (resume, depth + 1) :: outer⟩
      ['\x7b'] ((k ++ ['\x7d']) ++ rest) :=
    Reads.unit (u := []) fun before => move_brace (Or.inl rfl) before _
  have hclose : Reads ⟨.code, (resume, depth + 1) :: outer⟩ ⟨.code, (resume, depth) :: outer⟩
      ['\x7d'] rest :=
    Reads.unit (u := []) fun before => move_brace (Or.inr rfl) before _
  exact hopen.trans (hk.trans hclose)

/-- A literal is read from its first mark to its last one, if its text is. -/
theorem reads_literal {d : Delimiter} {b rest : List Char} (hb : WellFormed (.body d) b)
    (hseparate : d.Separates b rest) {stack : List (Mode × Nat)}
    (hbody : Reads ⟨d.mode, stack⟩ ⟨d.mode, stack⟩ b (d.marks ++ rest)) :
    Reads ⟨.code, stack⟩ ⟨.code, stack⟩ (d.literal b) rest := by
  have hopen := reads_open hb hseparate stack
  rw [← List.append_assoc] at hopen
  exact hopen.trans (hbody.trans (reads_close d stack rest))

/-- A well-formed text of a region is read to its end, where the reader is in the state in which it
started. -/
theorem WellFormed.reads {region : Region} {u : List Char} (h : WellFormed region u) :
    ∀ s, region.Admits s → ∀ rest, Reads s s u (region.closing ++ rest) := by
  -- each case reads the first item of the text and leaves the others to the induction hypothesis
  induction h with
  | bodyNil d =>
      intro s _ rest
      exact Reads.refl s _
  | @bodyChar d c tl hescape hinterpolation hclose tail ih =>
      rintro ⟨_, stack⟩ rfl rest
      have hinterpolation' : c = '#' → (tl ++ (d.marks ++ rest)).head? ≠ some '\x7b' := by
        intro hc
        cases tl with
        | nil =>
            rw [List.nil_append, d.head?_marks_append]
            exact fun h => d.quote.mark_ne.2.2.1 (Option.some.inj h)
        | cons e tl => exact hinterpolation hc
      have hunit : Reads ⟨d.mode, stack⟩ ⟨d.mode, stack⟩ [c] (tl ++ (d.marks ++ rest)) :=
        Reads.unit (u := []) fun before => move_bodyChar hescape hinterpolation'
          (Delimiter.not_marks_prefix hclose rest) stack before
      exact hunit.trans (ih ⟨d.mode, stack⟩ rfl rest)
  | @bodyEscape d c tl tail ih =>
      rintro ⟨_, stack⟩ rfl rest
      have hunit : Reads ⟨d.mode, stack⟩ ⟨d.mode, stack⟩ ['\\', c] (tl ++ (d.marks ++ rest)) :=
        Reads.unit (u := [c]) fun before => move_escape d stack before _
      exact hunit.trans (ih ⟨d.mode, stack⟩ rfl rest)
  | @bodyInterpolation d k tl code tail ihk ih =>
      rintro ⟨_, stack⟩ rfl rest
      have hcode : Reads ⟨d.mode, stack⟩ ⟨d.mode, stack⟩ ('#' :: '\x7b' :: (k ++ ['\x7d']))
          (tl ++ (d.marks ++ rest)) :=
        reads_interpolation (ihk ⟨.code, (d.mode, 0) :: stack⟩ ⟨rfl, by simp⟩ _)
      have hall := hcode.trans (ih ⟨d.mode, stack⟩ rfl rest)
      simpa [Region.closing] using hall
  | codeNil =>
      intro s _ rest
      exact Reads.refl s _
  | @codeChar c tl plain tail ih =>
      rintro ⟨_, stack⟩ ⟨rfl, hne⟩ rest
      obtain ⟨i, outer, rfl⟩ := List.exists_cons_of_ne_nil hne
      have hunit : Reads ⟨.code, i :: outer⟩ ⟨.code, i :: outer⟩ [c] (tl ++ ('\x7d' :: rest)) :=
        Reads.unit (u := []) fun before => move_codeChar plain before _
      exact hunit.trans (ih _ ⟨rfl, hne⟩ rest)
  | @codeBraces k tl inner tail ihk ih =>
      rintro ⟨_, stack⟩ ⟨rfl, hne⟩ rest
      obtain ⟨⟨resume, depth⟩, outer, rfl⟩ := List.exists_cons_of_ne_nil hne
      have hbraces : Reads ⟨.code, (resume, depth) :: outer⟩ ⟨.code, (resume, depth) :: outer⟩
          ('\x7b' :: (k ++ ['\x7d'])) (tl ++ ('\x7d' :: rest)) :=
        reads_braces (ihk ⟨.code, (resume, depth + 1) :: outer⟩ ⟨rfl, by simp⟩ _)
      have hall := hbraces.trans (ih ⟨.code, (resume, depth) :: outer⟩ ⟨rfl, hne⟩ rest)
      simpa [Region.closing] using hall
  | @codeLiteral d b tl body separate tail ihb ih =>
      rintro ⟨_, stack⟩ ⟨rfl, hne⟩ rest
      have hseparate : d.Separates b (tl ++ '\x7d' :: rest) :=
        separate.append d.quote.mark_ne.2.2.2.symm rest
      have hliteral : Reads ⟨.code, stack⟩ ⟨.code, stack⟩ (d.literal b) (tl ++ ('\x7d' :: rest)) :=
        reads_literal body hseparate (ihb ⟨d.mode, stack⟩ rfl _)
      exact hliteral.trans (ih ⟨.code, stack⟩ ⟨rfl, hne⟩ rest)

/-- **A literal is lexed as one unit, however deep its interpolations go.** Standing in code in
front of a well-formed literal, inside any interpolations, the reader reads exactly the literal,
counts every unit of it as literal and none as comment, and goes on in the state it was in. -/
theorem lex_literal {d : Delimiter} {b rest : List Char} (hb : WellFormed (.body d) b)
    (hseparate : d.Separates b rest) (stack : List (Mode × Nat)) (before : Option Char) :
    ∃ ls, lex ⟨.code, stack⟩ before (d.literal b ++ rest) =
        ls ++ lex ⟨.code, stack⟩ (some d.quote.mark) rest ∧
      ls.flatMap Lexeme.text = d.literal b ∧
      stateAfter ⟨.code, stack⟩ ls = ⟨.code, stack⟩ ∧
      ∀ l ∈ ls, l.literal = true ∧ l.comment = false := by
  have hreads := reads_literal hb hseparate (hb.reads ⟨d.mode, stack⟩ rfl rest) before
  rwa [d.getLast?_literal] at hreads

/-- A string with a brace, in a string, in braces, in an interpolation, and an escaped mark behind
it, read inside another interpolation. -/
theorem lex_literal_nested :
    ∃ ls, lex ⟨.code, [(.heredoc .single, 2)]⟩ none
        (Delimiter.literal ⟨.double, false⟩
          ['#', '\x7b', '\x7b', '"', '\x7d', '"', '\x7d', '\x7d', '\\', '"'] ++ ['"', '\x7d']) =
        ls ++ lex ⟨.code, [(.heredoc .single, 2)]⟩ (some '"') ['"', '\x7d'] ∧
      ls.flatMap Lexeme.text = Delimiter.literal ⟨.double, false⟩
          ['#', '\x7b', '\x7b', '"', '\x7d', '"', '\x7d', '\x7d', '\\', '"'] ∧
      stateAfter ⟨.code, [(.heredoc .single, 2)]⟩ ls = ⟨.code, [(.heredoc .single, 2)]⟩ ∧
      ∀ l ∈ ls, l.literal = true ∧ l.comment = false := by
  have hbrace : WellFormed (.body ⟨.double, false⟩) ['\x7d'] :=
    .bodyChar (by decide) (by decide) (by decide) (.bodyNil _)
  have hcode : WellFormed .code ['\x7b', '"', '\x7d', '"', '\x7d'] :=
    .codeBraces (.codeLiteral hbrace (fun _ h => absurd h (by decide)) .codeNil) .codeNil
  exact lex_literal (.bodyInterpolation hcode (.bodyEscape (.bodyNil _)))
    (fun _ h => absurd h (by decide)) _ _

end DslOutline
