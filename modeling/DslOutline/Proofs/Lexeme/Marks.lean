import DslOutline.Proofs.Lexeme.Mask

/-!
# What a reading makes of each character

Lexemes are units of one or more characters. Searches for words look at single characters, some of
them code, the others part of a literal or of a comment. `marks` spreads the lexemes over the
characters: the text and its mask are two views of one list (`map_char_marks`,
`flatMap_masked_marks`), and what is marked at a place is what the span there says
(`exists_span_of_marks`).

`Marked` keeps of the reader what matters for words. It says which marks can follow each other when
the reader stands in code (`fresh`) and when it does not: code is only left at a quotation mark,
`#`, `?` or `~`, and a comment is only left at a line feed. So a letter after code is code
(`Marked.exists_letters`), which the reader's states would hide.
-/

namespace DslOutline

open Text

/-! ### Marks -/

/-- A character with what a reading makes of it. -/
structure MarkedChar where
  /-- The character. -/
  char : Char
  /-- It belongs to a literal. -/
  literal : Bool
  /-- It belongs to a comment. -/
  comment : Bool
deriving Repr, DecidableEq

namespace MarkedChar

/-- A character of the code. -/
def code (c : Char) : MarkedChar := ⟨c, false, false⟩

/-- Whether the character is code. -/
def isCode (m : MarkedChar) : Bool :=
  !m.literal && !m.comment

/-- The character in the masked text. -/
def masked (m : MarkedChar) : List Char :=
  if m.isCode then [m.char] else blankChar m.char

theorem eq_code_of_isCode {m : MarkedChar} (h : m.isCode = true) : m = code m.char := by
  obtain ⟨c, literal, comment⟩ := m
  simp only [isCode, Bool.and_eq_true, Bool.not_eq_true'] at h
  rw [code, h.1, h.2]

@[simp] theorem isCode_code (c : Char) : (code c).isCode = true := rfl

@[simp] theorem masked_code (c : Char) : (code c).masked = [c] := rfl

theorem byteLength_masked (m : MarkedChar) : byteLength m.masked = m.char.utf8Size := by
  unfold masked
  split
  · simp
  · exact byteLength_blankChar m.char

end MarkedChar

/-- The characters of a lexeme, each marked as the lexeme is. -/
def Lexeme.marks (l : Lexeme) : List MarkedChar :=
  l.text.map fun c => ⟨c, l.literal, l.comment⟩

/-- The characters of lexemes, each marked as its lexeme is. -/
def marks (ls : List Lexeme) : List MarkedChar :=
  ls.flatMap Lexeme.marks

theorem marks_cons (l : Lexeme) (ls : List Lexeme) : marks (l :: ls) = l.marks ++ marks ls :=
  List.flatMap_cons

/-- The marks of a lexeme are those of its characters. -/
theorem Lexeme.map_char_marks (l : Lexeme) : l.marks.map MarkedChar.char = l.text := by
  rw [Lexeme.marks, List.map_map]
  exact List.map_id l.text

/-- All characters of a lexeme are code, or none is. -/
theorem Lexeme.isCode_of_mem_marks {l : Lexeme} {m : MarkedChar} (h : m ∈ l.marks) :
    m.isCode = l.isCode := by
  obtain ⟨c, -, rfl⟩ := List.mem_map.mp h
  rfl

/-- The characters of the marks make up the text that was read. -/
theorem map_char_marks (ls : List Lexeme) :
    (marks ls).map MarkedChar.char = ls.flatMap Lexeme.text := by
  induction ls with
  | nil => rfl
  | cons l ls ih =>
      rw [marks_cons, List.map_append, ih, List.flatMap_cons, l.map_char_marks]

/-- The mask of a text is the mask of its marked characters. -/
theorem flatMap_masked_marks (ls : List Lexeme) :
    (marks ls).flatMap MarkedChar.masked = ls.flatMap Lexeme.masked := by
  induction ls with
  | nil => rfl
  | cons l ls ih =>
      have hchar : ∀ c, (⟨c, l.literal, l.comment⟩ : MarkedChar).masked =
          if l.isCode then [c] else blankChar c := fun _ => rfl
      rw [marks_cons, List.flatMap_append, ih, List.flatMap_cons, Lexeme.marks, List.flatMap_map]
      simp only [hchar, Lexeme.masked]
      cases l.isCode <;> simp

/-- A place in one of two joined lists is in the first or in the second. -/
theorem append_eq_append_cons_iff {α : Type} {xs ys a b : List α} {m : α} :
    xs ++ ys = a ++ m :: b ↔
      (∃ x, xs = a ++ m :: x ∧ b = x ++ ys) ∨ ∃ a', a = xs ++ a' ∧ ys = a' ++ m :: b := by
  constructor
  · intro h
    rcases List.append_eq_append_iff.mp h with ⟨a', rfl, hys⟩ | ⟨x, rfl, hx⟩
    · exact Or.inr ⟨a', rfl, hys⟩
    · cases x with
      | nil => exact Or.inr ⟨[], by simp, hx.symm⟩
      | cons e x =>
          rw [List.cons_append, List.cons.injEq] at hx
          obtain ⟨rfl, rfl⟩ := hx
          exact Or.inl ⟨x, rfl, rfl⟩
  · rintro (⟨x, rfl, rfl⟩ | ⟨a', rfl, rfl⟩) <;> simp

/-- What is marked at a place is what the span there says. -/
theorem exists_span_of_marks {o : Nat} {ls : List Lexeme} {a b : List MarkedChar} {m : MarkedChar}
    (h : marks ls = a ++ m :: b) :
    ∃ s ∈ spansOf o ls, s.literal = m.literal ∧ s.comment = m.comment ∧
      ∀ i, o + byteLength (a.map MarkedChar.char) ≤ i →
        i < o + byteLength (a.map MarkedChar.char) + m.char.utf8Size → s.Covers i := by
  induction ls generalizing o a with
  | nil =>
      rw [show marks [] = [] from rfl] at h
      simp at h
  | cons l ls ih =>
      rw [marks_cons, append_eq_append_cons_iff] at h
      rcases h with ⟨x, hl, -⟩ | ⟨a', rfl, hls⟩
      · have hmem : m ∈ l.marks := by simp [hl]
        obtain ⟨c, -, rfl⟩ := List.mem_map.mp hmem
        have hlen := congrArg byteLength l.map_char_marks
        rw [hl, List.map_append, List.map_cons, byteLength_append, byteLength_cons] at hlen
        refine ⟨_, List.mem_cons_self, rfl, rfl, ?_⟩
        intro i hlo hhi
        show o ≤ i ∧ i < o + byteLength l.text
        omega
      · obtain ⟨s, hs, hlit, hcom, hcov⟩ := ih (o := o + byteLength l.text) hls
        refine ⟨s, List.mem_cons_of_mem _ hs, hlit, hcom, ?_⟩
        intro i hlo hhi
        rw [List.map_append, byteLength_append, l.map_char_marks] at hlo hhi
        exact hcov i (by omega) (by omega)

/-- If each lexeme of code is one character, the spans of code start where characters of code do. -/
theorem exists_code_span_iff {o i : Nat} {ls : List Lexeme}
    (hls : ∀ l ∈ ls, l.isCode = true → ∃ c, l.text = [c]) :
    (∃ s ∈ spansOf o ls, s.isCode = true ∧ s.start = i) ↔
      ∃ a c b, marks ls = a ++ .code c :: b ∧ o + byteLength (a.map MarkedChar.char) = i := by
  induction ls generalizing o with
  | nil => simp [spansOf, marks]
  | cons l ls ih =>
      have hone : l.isCode = true → ∃ c, l.marks = [.code c] := by
        intro hcode
        obtain ⟨c, hc⟩ := hls l List.mem_cons_self hcode
        have hmem : (⟨c, l.literal, l.comment⟩ : MarkedChar) ∈ l.marks := by
          simp [Lexeme.marks, hc]
        refine ⟨c, ?_⟩
        rw [← MarkedChar.eq_code_of_isCode ((Lexeme.isCode_of_mem_marks hmem).trans hcode),
          Lexeme.marks, hc]
        rfl
      rw [spansOf, List.exists_mem_cons_iff, ih fun k hk => hls k (List.mem_cons_of_mem l hk),
        marks_cons]
      change (l.isCode = true ∧ o = i) ∨ _ ↔ _
      constructor
      · rintro (⟨hcode, rfl⟩ | ⟨a, c, b, hmarks, rfl⟩)
        · obtain ⟨c, hc⟩ := hone hcode
          exact ⟨[], c, marks ls, by rw [hc]; rfl, rfl⟩
        · refine ⟨l.marks ++ a, c, b, by rw [hmarks, List.append_assoc], ?_⟩
          rw [List.map_append, byteLength_append, l.map_char_marks, Nat.add_assoc]
      · rintro ⟨a, c, b, hmarks, rfl⟩
        rcases append_eq_append_cons_iff.mp hmarks with ⟨x, hl, -⟩ | ⟨a', rfl, htail⟩
        · left
          have hmem : .code c ∈ l.marks := by simp [hl]
          have hcode : l.isCode = true := (Lexeme.isCode_of_mem_marks hmem).symm
          obtain ⟨d, hd⟩ := hone hcode
          rw [hd, eq_comm, List.append_eq_singleton_iff] at hl
          rcases hl with ⟨rfl, -⟩ | ⟨-, hnil⟩
          · exact ⟨hcode, rfl⟩
          · cases hnil
        · right
          refine ⟨a', c, b, htail, ?_⟩
          rw [List.map_append, byteLength_append, l.map_char_marks, Nat.add_assoc]

/-! ### One unit -/

/-- A character that stays in code: no quotation mark, no `#`, and no `~` with a sigil behind it. -/
structure Plain (c : Char) (rest : List Char) : Prop where
  quote : Quote.ofChar? c = none
  hash : c ≠ '#'
  sigil : c = '~' → sigilOpening? rest = none

/-- A character with which a literal can start. -/
def startsLiteral (c : Char) : Bool :=
  ['"', '\'', '?', '~'].contains c

/-- Quotation marks start literals. -/
theorem startsLiteral_of_ofChar? {c : Char} {q : Quote} (h : Quote.ofChar? c = some q) :
    startsLiteral c = true := by
  unfold Quote.ofChar? at h
  split_ifs at h with hdouble hsingle
  · rw [hdouble]
    rfl
  · rw [hsingle]
    rfl

/-- What a unit in code is: a plain character, the start of a comment, or the start of a literal. -/
theorem move_start_cases (before : Option Char) (c : Char) (rest : List Char) :
    (Plain c rest ∧ LexState.start.move before c rest = ⟨0, false, false, .start⟩) ∨
    (c = '#' ∧ LexState.start.move before c rest = ⟨0, false, true, ⟨.comment, []⟩⟩) ∨
    (startsLiteral c = true ∧ (LexState.start.move before c rest).literal = true) := by
  have hmove : LexState.start.move before c rest =
      { LexState.start.moveInCode before c rest with
        literal := (LexState.start.moveInCode before c rest).literal || false } := rfl
  rw [hmove]
  unfold LexState.moveInCode
  cases hq : Quote.ofChar? c with
  | some q =>
      right; right
      refine ⟨startsLiteral_of_ofChar? hq, ?_⟩
      dsimp only
      split_ifs <;> rfl
  | none =>
      dsimp only
      rw [if_neg (by simp [LexState.start])]
      split_ifs with hhash hchar htilde
      · exact Or.inr (Or.inl ⟨hhash, rfl⟩)
      · exact Or.inr (Or.inr ⟨by rw [hchar.1]; rfl, rfl⟩)
      · cases hopening : sigilOpening? rest with
        | none => exact Or.inl ⟨⟨hq, hhash, fun _ => hopening⟩, rfl⟩
        | some opening => exact Or.inr (Or.inr ⟨by rw [htilde]; rfl, rfl⟩)
      · exact Or.inl ⟨⟨hq, hhash, fun h => absurd h htilde⟩, rfl⟩

/-- What a unit outside of code is: the line feed that ends a comment, a character of a comment, or
part of a literal. -/
theorem move_cases_of_ne_start {s : LexState} (hs : s ≠ .start) (before : Option Char) (c : Char)
    (rest : List Char) :
    (c = '\n' ∧ s.move before c rest = ⟨0, false, false, .start⟩) ∨
    s.move before c rest = ⟨0, false, true, s⟩ ∨
    (s.move before c rest).literal = true := by
  obtain ⟨mode, stack⟩ := s
  cases stack with
  | cons i outer =>
      right; right
      simp [LexState.move]
  | nil =>
      cases mode with
      | code => exact absurd rfl hs
      | comment =>
          by_cases hc : c = '\n'
          · left
            refine ⟨hc, ?_⟩
            simp [LexState.move, LexState.moveInMode, LexState.withMode, LexState.start, hc]
          · right; left
            simp [LexState.move, LexState.moveInMode, hc]
      | quoted q =>
          right; right
          simp only [LexState.move, LexState.moveInMode]
          split_ifs <;> rfl
      | heredoc q =>
          right; right
          simp only [LexState.move, LexState.moveInMode]
          split_ifs <;> rfl
      | sigil opener closer depth =>
          right; right
          simp only [LexState.move, LexState.moveInMode]
          split_ifs
          · rfl
          · split <;> rfl
          · rfl
          · rfl

/-- A unit of code is one character, and code goes on after it. -/
theorem move_of_code {s : LexState} {before : Option Char} {c : Char} {rest : List Char}
    (hlit : (s.move before c rest).literal = false)
    (hcom : (s.move before c rest).comment = false) :
    s.move before c rest = ⟨0, false, false, .start⟩ := by
  by_cases hs : s = .start
  · subst hs
    rcases move_start_cases before c rest with ⟨-, h⟩ | ⟨-, h⟩ | ⟨-, h⟩
    · exact h
    · rw [h] at hcom
      cases hcom
    · rw [h] at hlit
      cases hlit
  · rcases move_cases_of_ne_start hs before c rest with ⟨-, h⟩ | h | h
    · exact h
    · rw [h] at hcom
      cases hcom
    · rw [h] at hlit
      cases hlit

/-- Every lexeme that is code has one character. -/
theorem exists_singleton_of_isCode {s : LexState} {before : Option Char} {cs : List Char}
    {l : Lexeme} (h : l ∈ lex s before cs) (hcode : l.isCode = true) : ∃ c, l.text = [c] := by
  fun_induction lex s before cs with
  | case1 => cases h
  | case2 s before c rest m unit ih =>
      rcases List.mem_cons.mp h with rfl | h
      · simp only [Lexeme.isCode, Bool.and_eq_true, Bool.not_eq_true'] at hcode
        have hm : m = ⟨0, false, false, .start⟩ := move_of_code hcode.1 hcode.2
        refine ⟨c, ?_⟩
        simp only [unit, hm, List.take_zero]
      · exact ih h

/-! ### Marks that can follow each other -/

/-- The marks of a text that is read from code (`fresh`) or from inside a literal or comment. -/
inductive Marked : Bool → List MarkedChar → Prop
  | nil (fresh : Bool) : Marked fresh []
  | code {c : Char} {ms : List MarkedChar} (plain : Plain c (ms.map MarkedChar.char))
      (tail : Marked true ms) : Marked true (.code c :: ms)
  | hash {ms : List MarkedChar} (tail : Marked false ms) : Marked true (⟨'#', false, true⟩ :: ms)
  | literal {fresh : Bool} {c : Char} {comment : Bool} {ms : List MarkedChar}
      (starts : startsLiteral c = true) (tail : Marked fresh ms) :
      Marked true (⟨c, true, comment⟩ :: ms)
  | feed {ms : List MarkedChar} (tail : Marked true ms) : Marked false (.code '\n' :: ms)
  | comment {c : Char} {ms : List MarkedChar} (tail : Marked false ms) :
      Marked false (⟨c, false, true⟩ :: ms)
  | inside {fresh : Bool} {c : Char} {comment : Bool} {ms : List MarkedChar}
      (tail : Marked fresh ms) : Marked false (⟨c, true, comment⟩ :: ms)

namespace Marked

/-- The characters of a unit after its first one are inside what the unit belongs to. -/
theorem exists_append_literal {fresh : Bool} {ms : List MarkedChar} (h : Marked fresh ms)
    (u : List Char) (comment : Bool) :
    ∃ fresh', Marked fresh' (u.map (fun c => ⟨c, true, comment⟩) ++ ms) := by
  induction u with
  | nil => exact ⟨fresh, h⟩
  | cons c u ih =>
      obtain ⟨_, hu⟩ := ih
      exact ⟨false, inside hu⟩

/-- The marks that a reading gives can follow each other. -/
theorem marks_lex (s : LexState) (before : Option Char) (cs : List Char) :
    Marked (decide (s = .start)) (marks (lex s before cs)) := by
  -- each case of a unit is one constructor, or one constructor and some characters inside
  fun_induction lex s before cs with
  | case1 => exact nil _
  | case2 s before c rest m unit ih =>
      have htail := map_char_marks (lex m.next unit.getLast? (rest.drop m.extra))
      rw [flatMap_text_lex] at htail
      have hliteral : ∀ {fresh : Bool}, m.literal = true →
          (∀ {fresh' : Bool} {ms : List MarkedChar}, Marked fresh' ms →
            Marked fresh (⟨c, true, m.comment⟩ :: ms)) →
          Marked fresh (marks (⟨unit, m.literal, m.comment, m.next⟩ ::
            lex m.next unit.getLast? (rest.drop m.extra))) := by
        intro fresh hlit hcons
        obtain ⟨fresh', hrest⟩ := exists_append_literal ih (rest.take m.extra) m.comment
        rw [marks_cons, hlit]
        exact hcons hrest
      by_cases hs : s = .start
      · subst hs
        rw [decide_eq_true rfl]
        rcases move_start_cases before c rest with ⟨hplain, hm⟩ | ⟨rfl, hm⟩ | ⟨hstarts, hlit⟩
        · change m = _ at hm
          simp only [unit, hm] at ih htail ⊢
          have hplain' : Plain c ((marks (lex .start (c :: rest.take 0).getLast?
              (rest.drop 0))).map MarkedChar.char) := by
            rw [htail]
            exact hplain
          exact code hplain' ih
        · change m = _ at hm
          simp only [unit, hm] at ih ⊢
          exact hash ih
        · exact hliteral hlit fun h => literal hstarts h
      · rw [decide_eq_false hs]
        rcases move_cases_of_ne_start hs before c rest with ⟨rfl, hm⟩ | hm | hlit
        · change m = _ at hm
          simp only [unit, hm] at ih ⊢
          exact feed ih
        · change m = _ at hm
          simp only [unit, hm] at ih ⊢
          rw [decide_eq_false hs] at ih
          exact comment ih
        · exact hliteral hlit fun h => inside h

variable {fresh : Bool} {m m' : MarkedChar} {a ms : List MarkedChar}

/-- From any place on, the marks of a reading are such marks again. -/
theorem of_append (h : Marked fresh (a ++ ms)) : ∃ fresh', Marked fresh' ms := by
  induction a generalizing fresh with
  | nil => exact ⟨fresh, h⟩
  | cons m a ih => cases h <;> exact ih ‹_›

/-- Code goes on after code. -/
theorem tail_of_isCode (h : Marked fresh (m :: ms)) (hm : m.isCode = true) : Marked true ms := by
  cases h with
  | code plain tail => exact tail
  | hash => cases hm
  | literal => cases hm
  | feed tail => exact tail
  | comment => cases hm
  | inside => cases hm

/-- Letters after code are code. -/
theorem exists_letters {w : List Char} (hw : ∀ c ∈ w, c.isAlpha = true) (h : Marked true ms)
    (hword : w <+: ms.map MarkedChar.char) :
    ∃ ms', ms = w.map .code ++ ms' ∧ Marked true ms' := by
  induction w generalizing ms with
  | nil => exact ⟨ms, rfl, h⟩
  | cons c w ih =>
      have hc := hw c List.mem_cons_self
      cases h with
      | nil => simp at hword
      | code plain tail =>
          obtain ⟨rfl, htail⟩ := List.cons_prefix_cons.mp hword
          obtain ⟨ms', rfl, hms'⟩ := ih (fun d hd => hw d (List.mem_cons_of_mem c hd)) tail htail
          exact ⟨ms', rfl, hms'⟩
      | hash tail =>
          obtain ⟨rfl, -⟩ := List.cons_prefix_cons.mp hword
          cases hc
      | literal starts tail =>
          obtain ⟨rfl, -⟩ := List.cons_prefix_cons.mp hword
          simp only [startsLiteral, List.contains_eq_mem, List.mem_cons, List.not_mem_nil,
            or_false, decide_eq_true_eq] at starts
          rcases starts with rfl | rfl | rfl | rfl <;> cases hc

/-- What stands right before code, and is not code itself, belongs to a literal, unless the code is
the line feed after a comment. -/
theorem literal_of_code (h : Marked fresh (a ++ m :: m' :: ms)) (hm : m.isCode = false)
    (hm' : m'.isCode = true) (hfeed : m'.char ≠ '\n') : m.literal = true := by
  obtain ⟨_, h⟩ := of_append h
  have hafter : ¬ Marked false (m' :: ms) := by
    intro h
    cases h with
    | feed => exact hfeed rfl
    | comment => cases hm'
    | inside => cases hm'
  cases h with
  | code => cases hm
  | hash tail => exact absurd tail hafter
  | literal => rfl
  | feed => cases hm
  | comment tail => exact absurd tail hafter
  | inside => rfl

/-- What stands right after code, and is not code itself, starts a comment or a literal. -/
theorem hash_or_literal (h : Marked true (m :: ms)) (hm : m.isCode = false) :
    m.char = '#' ∨ m.literal = true := by
  cases h with
  | code => cases hm
  | hash => exact Or.inl rfl
  | literal => exact Or.inr rfl

end Marked

/-! ### Words on the mask -/

/-- The mask takes as many bytes as the text. -/
theorem byteLength_flatMap_masked (ms : List MarkedChar) :
    byteLength (ms.flatMap MarkedChar.masked) = byteLength (ms.map MarkedChar.char) := by
  induction ms with
  | nil => rfl
  | cons m ms ih =>
      rw [List.flatMap_cons, byteLength_append, ih, MarkedChar.byteLength_masked, List.map_cons,
        byteLength_cons]

/-- A character that is not code leaves nothing but spaces and line feeds on the mask. -/
theorem mem_masked_of_not_isCode {m : MarkedChar} (hm : m.isCode = false) {c : Char}
    (hc : c ∈ m.masked) : c = '\n' ∨ c = ' ' := by
  rw [MarkedChar.masked, hm] at hc
  exact (mem_blankChar hc).imp_left And.left

/-- No character vanishes from the mask. -/
theorem masked_ne_nil (m : MarkedChar) : m.masked ≠ [] := by
  unfold MarkedChar.masked
  split
  · simp
  · exact blankChar_ne_nil m.char

/-- Letters on the mask are code. -/
theorem exists_letters_of_masked {w : List Char} (hw : ∀ c ∈ w, c.isAlpha = true)
    {ms : List MarkedChar} (h : w <+: ms.flatMap MarkedChar.masked) :
    ∃ ms', ms = w.map .code ++ ms' := by
  induction w generalizing ms with
  | nil => exact ⟨ms, rfl⟩
  | cons c w ih =>
      have hc := hw c List.mem_cons_self
      cases ms with
      | nil => simp at h
      | cons m ms =>
          rw [List.flatMap_cons] at h
          cases hm : m.isCode with
          | true =>
              rw [MarkedChar.eq_code_of_isCode hm, MarkedChar.masked_code, List.singleton_append]
                at h
              obtain ⟨rfl, htail⟩ := List.cons_prefix_cons.mp h
              obtain ⟨ms', rfl⟩ := ih (fun d hd => hw d (List.mem_cons_of_mem m.char hd)) htail
              refine ⟨ms', ?_⟩
              rw [MarkedChar.eq_code_of_isCode hm]
              rfl
          | false =>
              obtain ⟨d, ds, hd⟩ := List.exists_cons_of_ne_nil (masked_ne_nil m)
              rw [hd, List.cons_append] at h
              obtain ⟨rfl, -⟩ := List.cons_prefix_cons.mp h
              have hmem : c ∈ m.masked := by simp [hd]
              rcases mem_masked_of_not_isCode hm hmem with rfl | rfl <;> cases hc

/-- A place on the mask of marked characters where neither a space nor a line feed stands is a place
between them. -/
theorem exists_split_of_masked {ms : List MarkedChar} {p q : List Char} {c : Char}
    (hspace : c ≠ ' ') (hfeed : c ≠ '\n') (h : ms.flatMap MarkedChar.masked = p ++ c :: q) :
    ∃ a b, ms = a ++ .code c :: b ∧ a.flatMap MarkedChar.masked = p ∧
      b.flatMap MarkedChar.masked = q := by
  induction ms generalizing p with
  | nil => simp at h
  | cons m ms ih =>
      rw [List.flatMap_cons, append_eq_append_cons_iff] at h
      rcases h with ⟨x, hm, hq⟩ | ⟨p', rfl, htail⟩
      · -- it is in the mask of one character, which is the character itself
        cases hcode : m.isCode with
        | true =>
            rw [MarkedChar.masked, if_pos hcode, eq_comm, List.append_eq_singleton_iff] at hm
            rcases hm with ⟨rfl, hm⟩ | ⟨-, hnil⟩
            · obtain ⟨rfl, rfl⟩ := List.cons.inj hm
              exact ⟨[], ms, by rw [← MarkedChar.eq_code_of_isCode hcode]; rfl, rfl, hq.symm⟩
            · cases hnil
        | false =>
            have hmem : c ∈ m.masked := by simp [hm]
            exact ((mem_masked_of_not_isCode hcode hmem).elim hfeed hspace).elim
      · obtain ⟨a, b, rfl, rfl, hb⟩ := ih htail
        exact ⟨m :: a, b, rfl, rfl, hb⟩

end DslOutline
