import DslOutline.Toml.Lexical
import DslOutline.Toml.Writer
import Mathlib.Tactic.SplitIfs
import Mathlib.Data.List.TakeWhile

/-!
# Strings that are written are read back

A string is written in one of four forms, and the writer chooses a form by looking at the whole
string: quotes in it, backslashes, control characters and line feeds. `readString_renderString` says
that the choice is safe: whatever the string, reading what was written gives it back and stops right
behind it, if no further quote follows.

With double quotes this holds for every string, because the writer escapes what could be mistaken
(`escapeChar_cases`). With single quotes nothing is escaped, and it holds because of the traits that
made the writer choose them. In the forms over several lines, up to two quotes may stand in a row,
also in front of the three that end the string; both inductions carry the quotes of the run that has
not been read yet (`readMultiLine_escapeString`, `readMultiLine_literal`).
-/

namespace DslOutline.Toml

/-! ### Characters -/

/-- Whatever is no control character and no line feed may stand in a string as it is. -/
theorem isPlain_of_not_isControl {c : Char} (h : isControl c = false) (hfeed : c ≠ '\n') :
    isPlain c = true := by
  simp only [isControl, Bool.and_eq_false_iff, Bool.or_eq_false_iff, decide_eq_false_iff_not,
    beq_eq_false_iff_ne, bne_eq_false_iff_eq] at h
  simp only [isPlain, Bool.or_eq_true, beq_iff_eq, Bool.and_eq_true, decide_eq_true_eq, bne_iff_ne]
  rcases h with (⟨hlow, hdel⟩ | htab) | hnewline
  · exact Or.inr ⟨by omega, hdel⟩
  · exact Or.inl htab
  · exact absurd hnewline hfeed

/-- Strings on one line hold no line feed. -/
theorem ne_newline_of_isPlain {c : Char} (h : isPlain c = true) : c ≠ '\n' := by
  rintro rfl
  cases h

theorem ne_return_of_isPlain {c : Char} (h : isPlain c = true) : c ≠ '\r' := by
  rintro rfl
  cases h

/-- Control characters are written as four hexadecimal digits. -/
theorem readCodePoint_fourHexDigits {c : Char} (h : isControl c = true) (rest : List Char) :
    readCodePoint 4 (fourHexDigits c.toNat ++ rest) = some (c, rest) := by
  have hdigits : ∀ n < 0x80, (fourHexDigits n).length = 4 ∧
      ((fourHexDigits n).any fun c => (Charset.hexValue? c).isNone) = false ∧
      Charset.hexNumber (fourHexDigits n) = n := by
    decide +kernel
  have hascii : c.toNat < 0x80 := by
    simp only [isControl, Bool.and_eq_true, Bool.or_eq_true, decide_eq_true_eq, beq_iff_eq] at h
    omega
  obtain ⟨hlength, hhex, hnumber⟩ := hdigits c.toNat hascii
  have hvalid : c.toNat.isValidChar := c.valid
  unfold readCodePoint
  dsimp only
  rw [List.take_left' hlength, List.drop_left' hlength, hlength, hhex, hnumber,
    if_neg (by decide), dif_pos hvalid]
  rfl

/-- A character between double quotes is written as it is, or as an escape that stands for it. An
escape is not taken for a line that goes on. -/
theorem escapeChar_cases (multiLine : Bool) (c : Char) :
    (escapeChar multiLine c = [c] ∧ c ≠ '\\' ∧
      (isPlain c = true ∨ (c = '\n' ∧ multiLine = true))) ∨
    ∃ e, escapeChar multiLine c = '\\' :: e ∧
      ∀ rest, readEscape (e ++ rest) = some (c, rest) ∧ skipLineEnd? (e ++ rest) = none := by
  unfold escapeChar
  split
  · exact Or.inr ⟨['b'], rfl, fun rest => ⟨rfl, rfl⟩⟩
  · exact Or.inr ⟨['t'], rfl, fun rest => ⟨rfl, rfl⟩⟩
  · cases multiLine with
    | true => exact Or.inl ⟨rfl, by decide, Or.inr ⟨rfl, rfl⟩⟩
    | false => exact Or.inr ⟨['n'], rfl, fun rest => ⟨rfl, rfl⟩⟩
  · exact Or.inr ⟨['f'], rfl, fun rest => ⟨rfl, rfl⟩⟩
  · exact Or.inr ⟨['r'], rfl, fun rest => ⟨rfl, rfl⟩⟩
  · exact Or.inr ⟨['\\'], rfl, fun rest => ⟨rfl, rfl⟩⟩
  · rename_i hbackspace htab hfeed hform hreturn hbackslash
    split_ifs with hcontrol
    · right
      exact ⟨'u' :: fourHexDigits c.toNat, rfl,
        fun rest => ⟨readCodePoint_fourHexDigits hcontrol rest, rfl⟩⟩
    · left
      exact ⟨rfl, hbackslash, Or.inl (isPlain_of_not_isControl (by simpa using hcontrol) hfeed)⟩

/-- Every character takes some text, so the length of what is written bounds the fuel for reading
it. -/
theorem escapeChar_length_pos (multiLine : Bool) (c : Char) :
    0 < (escapeChar multiLine c).length := by
  obtain ⟨h, -, -⟩ | ⟨e, h, -⟩ := escapeChar_cases multiLine c <;> simp [h]

/-- What is written for a character other than the double quote is not taken for the closing
quote. -/
theorem head?_escapeChar {c : Char} (hc : c ≠ '"') (multiLine : Bool) (rest : List Char) :
    (escapeChar multiLine c ++ rest).head? ≠ some '"' := by
  obtain ⟨h, -, -⟩ | ⟨e, h, -⟩ := escapeChar_cases multiLine c
  · simpa [h] using hc
  · simp [h]

/-! ### Double quotes on one line -/

/-- One step of the reader takes back what is written for one character. -/
theorem readBasic_escapeChar {c : Char} (hc : c ≠ '"') (acc : List Char) (fuel : Nat)
    (rest : List Char) :
    readBasic acc (fuel + 1) (escapeChar false c ++ rest) = readBasic (c :: acc) fuel rest := by
  obtain ⟨h, hslash, hplain | ⟨-, h⟩⟩ | ⟨e, h, hread⟩ := escapeChar_cases false c
  · rw [h, List.singleton_append, readBasic.eq_5 _ _ _ _ hc hslash, if_pos hplain]
  · cases h
  · simp [h, readBasic, (hread rest).1]

/-- Strings in double quotes on one line are read back, up to the quote behind them. -/
theorem readBasic_escapeString (cs acc rest : List Char) (fuel : Nat)
    (hfuel : (escapeString false 0 0 cs).length < fuel) :
    readBasic acc fuel (escapeString false 0 0 cs ++ '"' :: rest) =
      some (acc.reverse ++ cs, rest) := by
  induction cs generalizing acc fuel with
  | nil =>
    obtain ⟨fuel, rfl⟩ := Nat.exists_eq_add_one_of_ne_zero (Nat.ne_zero_of_lt hfuel)
    simp [escapeString, readBasic]
  | cons c cs ih =>
    obtain ⟨fuel, rfl⟩ := Nat.exists_eq_add_one_of_ne_zero (Nat.ne_zero_of_lt hfuel)
    by_cases hc : c = '"'
    · subst hc
      simp only [escapeString, if_true, Nat.lt_irrefl, if_false, List.length_cons] at hfuel ⊢
      simp [readBasic, readEscape, ih ('"' :: acc) fuel (by omega)]
    · have hpos := escapeChar_length_pos false c
      simp only [escapeString, if_neg hc, List.length_append, List.append_assoc] at hfuel ⊢
      rw [readBasic_escapeChar hc, ih (c :: acc) fuel (by omega)]
      simp

/-! ### Runs of quotes -/

/-- A run that has been counted already is not longer than the longest one. -/
theorem run_le_longestRun (mark : Char) (run : Nat) (cs : List Char) :
    run ≤ longestRun mark run cs := by
  induction cs generalizing run with
  | nil => simp [longestRun]
  | cons c cs ih =>
    unfold longestRun
    split_ifs
    · exact Nat.le_of_succ_le (ih (run + 1))
    · exact Nat.le_max_left _ _

theorem not_mem_of_longestRun_eq_zero {mark : Char} {cs : List Char}
    (h : longestRun mark 0 cs = 0) : mark ∉ cs := by
  induction cs with
  | nil => simp
  | cons c cs ih =>
    unfold longestRun at h
    split_ifs at h with hc
    · have := run_le_longestRun mark (0 + 1) cs
      omega
    · simp only [Nat.max_def] at h
      have hrest : longestRun mark 0 cs = 0 := by
        split_ifs at h <;> omega
      simpa [ih hrest] using Ne.symm hc

section Quotes

variable {quote : Char} {rest : List Char}

/-- A run of quotes ends at the first character that is none. -/
theorem takeWhile_quotes (hrest : rest.head? ≠ some quote) (run : Nat) :
    (List.replicate run quote ++ rest).takeWhile (· == quote) = List.replicate run quote := by
  have hnone : rest.takeWhile (· == quote) = [] := by
    cases rest with
    | nil => rfl
    | cons c cs => simpa using hrest
  rw [List.takeWhile_append_of_pos (by simp), hnone, List.append_nil]

/-- Up to two quotes inside a string over several lines do not end it. -/
theorem readQuotes_inside (hrest : rest.head? ≠ some quote) {run : Nat} (hrun : run ≤ 2) :
    readQuotes quote (List.replicate run quote ++ rest) = some (run, false, rest) := by
  simp only [readQuotes, takeWhile_quotes hrest, List.length_replicate,
    List.drop_left' (List.length_replicate)]
  rw [if_pos (Nat.lt_succ_of_le hrun)]

/-- Three quotes end a string, and the up to two quotes in front of them belong to it. -/
theorem readQuotes_close (hrest : rest.head? ≠ some quote) {run : Nat} (hrun : run ≤ 2) :
    readQuotes quote (List.replicate (run + 3) quote ++ rest) = some (run, true, rest) := by
  simp only [readQuotes, takeWhile_quotes hrest, List.length_replicate,
    List.drop_left' (List.length_replicate)]
  rw [if_neg (by omega), if_pos (by omega), Nat.add_sub_cancel]

/-- A character that has no meaning of its own in a string over several lines. -/
theorem readMultiLine_plain {c : Char} (hc : c ≠ quote) {escapes : Bool}
    (hslash : escapes = true → c ≠ '\\') (hplain : isPlain c = true) (acc : List Char)
    (fuel : Nat) :
    readMultiLine quote escapes acc (fuel + 1) (c :: rest) =
      readMultiLine quote escapes (c :: acc) fuel rest := by
  rw [readMultiLine.eq_5 _ _ _ _ _ _ (ne_newline_of_isPlain hplain)
    (fun _ h _ => ne_return_of_isPlain hplain h), if_neg hc, if_neg fun h => hslash h.1 h.2,
    if_pos hplain]

variable (hfeed : quote ≠ '\n') (hreturn : quote ≠ '\r')
include hfeed hreturn

/-- At a quote the reader looks at the whole run, which may end the string. -/
theorem readMultiLine_quote (escapes : Bool) (acc : List Char) (fuel : Nat) (cs : List Char) :
    readMultiLine quote escapes acc (fuel + 1) (quote :: cs) =
      (readQuotes quote (quote :: cs)).bind fun (count, ends, rest) =>
        if ends then some ((List.replicate count quote ++ acc).reverse, rest)
        else readMultiLine quote escapes (List.replicate count quote ++ acc) fuel rest := by
  rw [readMultiLine.eq_5 _ _ _ _ _ _ hfeed (fun _ h _ => hreturn h), if_pos rfl]
  rfl

/-- Quotes that end no string belong to it. -/
theorem readMultiLine_quotes (hrest : rest.head? ≠ some quote) {run : Nat} (hrun : run ≤ 2)
    (escapes : Bool) (acc : List Char) {fuel : Nat}
    (hfuel : run + rest.length < fuel) :
    ∃ left, rest.length < left ∧
      readMultiLine quote escapes acc fuel (List.replicate run quote ++ rest) =
        readMultiLine quote escapes (List.replicate run quote ++ acc) left rest := by
  cases run with
  | zero => exact ⟨fuel, by omega, rfl⟩
  | succ run =>
    obtain ⟨fuel, rfl⟩ := Nat.exists_eq_add_one_of_ne_zero (Nat.ne_zero_of_lt hfuel)
    refine ⟨fuel, by omega, ?_⟩
    have hread := readQuotes_inside hrest hrun
    rw [List.replicate_succ, List.cons_append] at hread ⊢
    rw [readMultiLine_quote hfeed hreturn, hread]
    simp [List.replicate_succ]

/-- At its end a string over several lines gives what was read, with the quotes in front of the last
three. -/
theorem readMultiLine_close (hrest : rest.head? ≠ some quote) {run : Nat} (hrun : run ≤ 2)
    (escapes : Bool) (acc : List Char) (fuel : Nat) :
    readMultiLine quote escapes acc (fuel + 1)
        (List.replicate run quote ++ quote :: quote :: quote :: rest) =
      some (acc.reverse ++ List.replicate run quote, rest) := by
  have htext : List.replicate run quote ++ quote :: quote :: quote :: rest =
      List.replicate (run + 3) quote ++ rest := by
    rw [← List.replicate_append_replicate, List.append_assoc]
    rfl
  have hread := readQuotes_close hrest hrun
  rw [htext]
  rw [List.replicate_succ, List.cons_append] at hread ⊢
  rw [readMultiLine_quote hfeed hreturn, hread]
  simp

/-- Quotes that belong to the string, and what a character is written as behind them. -/
theorem readMultiLine_quotes_char {c : Char} {written : List Char} {escapes : Bool}
    (hhead : (written ++ rest).head? ≠ some quote) (hwritten : 0 < written.length)
    (hread : ∀ acc fuel, readMultiLine quote escapes acc (fuel + 1) (written ++ rest) =
      readMultiLine quote escapes (c :: acc) fuel rest)
    {run : Nat} (hrun : run ≤ 2) (acc : List Char) {fuel : Nat}
    (hfuel : run + written.length + rest.length < fuel) :
    ∃ left, rest.length < left ∧
      readMultiLine quote escapes acc fuel (List.replicate run quote ++ (written ++ rest)) =
        readMultiLine quote escapes (c :: (List.replicate run quote ++ acc)) left rest := by
  have hlength : run + (written ++ rest).length < fuel := by
    rw [List.length_append]
    omega
  obtain ⟨left, hleft, hquotes⟩ :=
    readMultiLine_quotes hfeed hreturn hhead hrun escapes acc hlength
  obtain ⟨left, rfl⟩ := Nat.exists_eq_add_one_of_ne_zero (Nat.ne_zero_of_lt hleft)
  rw [List.length_append] at hleft
  exact ⟨left, by omega, hquotes.trans (hread _ left)⟩

end Quotes

/-! ### Double quotes over several lines -/

/-- One step of the reader takes back what is written for one character over several lines. -/
theorem readMultiLine_escapeChar {c : Char} (hc : c ≠ '"') (acc : List Char) (fuel : Nat)
    (rest : List Char) :
    readMultiLine '"' true acc (fuel + 1) (escapeChar true c ++ rest) =
      readMultiLine '"' true (c :: acc) fuel rest := by
  obtain ⟨h, hslash, hplain | ⟨rfl, -⟩⟩ | ⟨e, h, hread⟩ := escapeChar_cases true c
  · rw [h, List.singleton_append, readMultiLine_plain hc (fun _ => hslash) hplain]
  · rfl
  · obtain ⟨hread, hline⟩ := hread rest
    rw [h, List.cons_append, readMultiLine.eq_5 _ _ _ _ _ _ (by decide) (by simp),
      if_neg (by decide), if_pos (by decide), hline]
    simp [hread]

/-- The third of three double quotes in a row is written with a backslash and read back as a
quote. -/
theorem readMultiLine_escapedQuote (acc : List Char) (fuel : Nat) (rest : List Char) :
    readMultiLine '"' true acc (fuel + 1) (['\\', '"'] ++ rest) =
      readMultiLine '"' true ('"' :: acc) fuel rest := by
  rfl

/-- The induction carries the double quotes in front of `cs` that stand as they are and have not
been read yet. -/
theorem readMultiLine_escapeString {rest : List Char} (hrest : rest.head? ≠ some '"')
    (cs acc : List Char) {run : Nat} (hrun : run ≤ 2) {fuel : Nat}
    (hfuel : run + (escapeString true 2 run cs ++ '"' :: '"' :: '"' :: rest).length < fuel) :
    readMultiLine '"' true acc fuel
        (List.replicate run '"' ++ (escapeString true 2 run cs ++ '"' :: '"' :: '"' :: rest)) =
      some (acc.reverse ++ (List.replicate run '"' ++ cs), rest) := by
  induction cs generalizing acc run fuel with
  | nil =>
    obtain ⟨fuel, rfl⟩ := Nat.exists_eq_add_one_of_ne_zero (Nat.ne_zero_of_lt hfuel)
    simpa [escapeString] using
      readMultiLine_close (by decide) (by decide) hrest hrun true acc fuel
  | cons c cs ih =>
    -- a character in front of which the run ends, in whatever way it is written
    have hstep : ∀ written : List Char,
        (∀ rest, (written ++ rest).head? ≠ some '"') → 0 < written.length →
        (∀ acc fuel rest, readMultiLine '"' true acc (fuel + 1) (written ++ rest) =
          readMultiLine '"' true (c :: acc) fuel rest) →
        run + (written ++ (escapeString true 2 0 cs ++ '"' :: '"' :: '"' :: rest)).length < fuel →
        readMultiLine '"' true acc fuel (List.replicate run '"' ++
            (written ++ (escapeString true 2 0 cs ++ '"' :: '"' :: '"' :: rest))) =
          some (acc.reverse ++ (List.replicate run '"' ++ c :: cs), rest) := by
      intro written hhead hwritten hread hfuel
      rw [List.length_append, ← Nat.add_assoc] at hfuel
      obtain ⟨left, hleft, h⟩ := readMultiLine_quotes_char (by decide) (by decide) (hhead _)
        hwritten (fun acc fuel => hread acc fuel _) hrun acc hfuel
      rw [h]
      simpa using ih (c :: (List.replicate run '"' ++ acc)) (Nat.zero_le 2)
        ((Nat.zero_add _).trans_lt hleft)
    by_cases hc : c = '"'
    · subst hc
      by_cases hallowed : run < 2
      · simp only [escapeString, if_true, if_pos hallowed, List.cons_append, List.length_cons]
          at hfuel ⊢
        have hlength : run + 1 +
            (escapeString true 2 (run + 1) cs ++ '"' :: '"' :: '"' :: rest).length < fuel := by
          omega
        have h := ih acc hallowed hlength
        rwa [List.replicate_succ', List.append_assoc, List.append_assoc] at h
      · simp only [escapeString, if_true, if_neg hallowed] at hfuel ⊢
        exact hstep ['\\', '"'] (by simp) (by simp) readMultiLine_escapedQuote hfuel
    · simp only [escapeString, if_neg hc, List.append_assoc] at hfuel ⊢
      exact hstep _ (head?_escapeChar hc true) (escapeChar_length_pos true c)
        (readMultiLine_escapeChar hc) hfuel

/-! ### Single quotes -/

/-- Between single quotes nothing is escaped, so a string is read back as it stands. -/
theorem readLiteral_append {cs : List Char} (h : ∀ c ∈ cs, c ≠ '\'' ∧ isPlain c = true)
    (rest : List Char) : readLiteral (cs ++ '\'' :: rest) = some (cs, rest) := by
  have hbody : (cs ++ '\'' :: rest).takeWhile (fun c => c != '\'' && isPlain c) = cs := by
    rw [List.takeWhile_append_of_pos (by simpa using h)]
    simp
  simp [readLiteral, hbody]

/-- The induction carries the single quotes in front of `cs` that have not been read yet. -/
theorem readMultiLine_literal {rest : List Char} (hrest : rest.head? ≠ some '\'')
    {cs : List Char} (hplain : ∀ c ∈ cs, c ≠ '\n' → isPlain c = true) (acc : List Char) {run : Nat}
    (hrun : longestRun '\'' run cs ≤ 2) {fuel : Nat}
    (hfuel : run + (cs ++ '\'' :: '\'' :: '\'' :: rest).length < fuel) :
    readMultiLine '\'' false acc fuel
        (List.replicate run '\'' ++ (cs ++ '\'' :: '\'' :: '\'' :: rest)) =
      some (acc.reverse ++ (List.replicate run '\'' ++ cs), rest) := by
  induction cs generalizing acc run fuel with
  | nil =>
    obtain ⟨fuel, rfl⟩ := Nat.exists_eq_add_one_of_ne_zero (Nat.ne_zero_of_lt hfuel)
    rw [longestRun] at hrun
    simpa using readMultiLine_close (by decide) (by decide) hrest hrun false acc fuel
  | cons c cs ih =>
    have ih := ih fun c hc => hplain c (List.mem_cons_of_mem _ hc)
    simp only [List.cons_append, List.length_cons] at hfuel ⊢
    unfold longestRun at hrun
    split_ifs at hrun with hc
    · subst hc
      have hlength : run + 1 + (cs ++ '\'' :: '\'' :: '\'' :: rest).length < fuel := by
        omega
      have h := ih acc hrun hlength
      rwa [List.replicate_succ', List.append_assoc, List.append_assoc] at h
    · have hread : ∀ acc fuel rest, readMultiLine '\'' false acc (fuel + 1) ([c] ++ rest) =
          readMultiLine '\'' false (c :: acc) fuel rest := by
        intro acc fuel rest
        by_cases hfeed : c = '\n'
        · subst hfeed
          rfl
        · exact readMultiLine_plain hc (by simp) (hplain c List.mem_cons_self hfeed) acc fuel
      have hlength : run + [c].length + (cs ++ '\'' :: '\'' :: '\'' :: rest).length < fuel := by
        rw [List.length_singleton]
        omega
      obtain ⟨left, hleft, h⟩ := readMultiLine_quotes_char (by decide) (by decide)
        (by simpa using hc) (by simp) (fun acc fuel => hread acc fuel _)
        (Nat.le_trans (Nat.le_max_left _ _) hrun) acc hlength
      rw [← List.singleton_append, h]
      simpa using ih (c :: (List.replicate run '\'' ++ acc))
        (Nat.le_trans (Nat.le_max_right _ _) hrun) ((Nat.zero_add _).trans_lt hleft)

/-! ### The choice of the form -/

/-- A line end after the opening quotes is dropped, and only strings with a line feed are written
with one. -/
theorem skipFirstNewline_of_head? {cs : List Char} (hfeed : cs.head? ≠ some '\n')
    (hreturn : cs.head? ≠ some '\r') : skipFirstNewline cs = cs := by
  unfold skipFirstNewline readNewline?
  split
  · simp at hfeed
  · simp at hreturn
  · rfl

/-- A string without line feeds has nothing to be dropped behind its opening quotes. -/
theorem skipFirstNewline_escapeString {cs : List Char} (h : '\n' ∉ cs) (rest : List Char) :
    skipFirstNewline (escapeString true 2 0 cs ++ '"' :: rest) =
      escapeString true 2 0 cs ++ '"' :: rest := by
  cases cs with
  | nil => rfl
  | cons c cs =>
    obtain ⟨hc, -⟩ : '\n' ≠ c ∧ '\n' ∉ cs := by simpa using h
    by_cases hquote : c = '"'
    · subst hquote
      rfl
    · rw [escapeString, if_neg hquote, List.append_assoc]
      obtain ⟨h, -, hplain | ⟨hfeed, -⟩⟩ | ⟨e, h, -⟩ := escapeChar_cases true c
      · apply skipFirstNewline_of_head?
        · simpa [h] using Ne.symm hc
        · simpa [h] using ne_return_of_isPlain hplain
      · exact absurd hfeed (Ne.symm hc)
      · rw [h]
        rfl

/-- Single quotes on one line are chosen only where they save escapes and nothing speaks against
them. -/
theorem StringTraits.of_form_eq_literal {t : StringTraits} (h : t.form = .literal) :
    t.control = false ∧ t.singleQuotes = 0 ∧ t.newline = false ∧
      (t.backslash = true ∨ t.doubleQuotes ≠ 0) := by
  unfold StringTraits.form at h
  split_ifs at h with hbasic hliteral
  simp_all
  grind

/-- Single quotes over several lines are chosen only where no three of them stand in a row. -/
theorem StringTraits.of_form_eq_multiLineLiteral {t : StringTraits}
    (h : t.form = .multiLineLiteral) : t.control = false ∧ t.singleQuotes ≤ 2 := by
  unfold StringTraits.form at h
  split_ifs at h
  simp_all

/-- The form with double quotes on one line, which any string may be written in, is read back. -/
theorem readString_basic (cs : List Char) {rest : List Char} (hrest : rest.head? ≠ some '"') :
    readString ('"' :: (escapeString false 0 0 cs ++ '"' :: rest)) = some (cs, rest) := by
  have hopen : ∀ text, escapeString false 0 0 cs ++ '"' :: rest ≠ '"' :: '"' :: text := by
    intro text h
    cases cs with
    | nil =>
      rw [escapeString, List.nil_append, List.cons.injEq] at h
      exact hrest (by rw [h.2]; rfl)
    | cons c cs =>
      by_cases hc : c = '"'
      · simp [escapeString, hc] at h
      · rw [escapeString, if_neg hc, List.append_assoc] at h
        exact head?_escapeChar hc false _ (by rw [h]; rfl)
  rw [readString.eq_3 _ hopen]
  apply readBasic_escapeString cs [] rest
  rw [List.length_append]
  omega

/-- The form with single quotes on one line is read back, for a string that has plain characters
only. -/
theorem readString_literal {cs : List Char} (hcs : cs ≠ [])
    (h : ∀ c ∈ cs, c ≠ '\'' ∧ isPlain c = true) (rest : List Char) :
    readString ('\'' :: (cs ++ '\'' :: rest)) = some (cs, rest) := by
  have hopen : ∀ text, cs ++ '\'' :: rest ≠ '\'' :: '\'' :: text := by
    intro text htext
    cases cs with
    | nil => exact hcs rfl
    | cons c cs =>
      rw [List.cons_append, List.cons.injEq] at htext
      exact (h c List.mem_cons_self).1 htext.1
  rw [readString.eq_4 _ hopen]
  exact readLiteral_append h rest

/-- The form with double quotes over several lines is read back, with or without line feeds in
it. -/
theorem readString_multiLineBasic (cs : List Char) {rest : List Char}
    (hrest : rest.head? ≠ some '"') :
    readString ('"' :: '"' :: '"' :: ((if cs.contains '\n' then ['\n'] else []) ++
        (escapeString true 2 0 cs ++ '"' :: '"' :: '"' :: rest))) =
      some (cs, rest) := by
  rw [readString.eq_1]
  split_ifs with hfeed
  · apply readMultiLine_escapeString hrest cs [] (Nat.zero_le 2)
    rw [List.singleton_append, List.length_cons]
    omega
  · rw [List.nil_append, skipFirstNewline_escapeString (by simpa using hfeed)]
    exact readMultiLine_escapeString hrest cs [] (Nat.zero_le 2) (by omega)

/-- The form with single quotes over several lines is read back, if no run of quotes is too long. -/
theorem readString_multiLineLiteral {cs : List Char} (hcontrol : cs.any isControl = false)
    (hquotes : longestRun '\'' 0 cs ≤ 2) {rest : List Char} (hrest : rest.head? ≠ some '\'') :
    readString ('\'' :: '\'' :: '\'' :: ((if cs.contains '\n' then ['\n'] else []) ++
        (cs ++ '\'' :: '\'' :: '\'' :: rest))) =
      some (cs, rest) := by
  have hplain : ∀ c ∈ cs, c ≠ '\n' → isPlain c = true := fun c hc =>
    isPlain_of_not_isControl (by simpa using List.any_eq_false.mp hcontrol c hc)
  rw [readString.eq_2]
  split_ifs with hfeed
  · apply readMultiLine_literal hrest hplain [] hquotes
    rw [List.singleton_append, List.length_cons]
    omega
  · have hskip : skipFirstNewline (cs ++ '\'' :: '\'' :: '\'' :: rest) =
        cs ++ '\'' :: '\'' :: '\'' :: rest := by
      cases cs with
      | nil => rfl
      | cons c cs =>
        obtain ⟨hc, -⟩ : '\n' ≠ c ∧ '\n' ∉ cs := by simpa using hfeed
        have hchar := hplain c List.mem_cons_self hc.symm
        exact skipFirstNewline_of_head? (by simpa using hc.symm)
          (by simpa using ne_return_of_isPlain hchar)
    rw [List.nil_append, hskip]
    exact readMultiLine_literal hrest hplain [] hquotes (by omega)

/-- Reading a string that was written gives it back, if no further quote follows it. -/
theorem readString_renderString (s : String) {rest : List Char}
    (hdouble : rest.head? ≠ some '"') (hsingle : rest.head? ≠ some '\'') :
    readString ((renderString s).toList ++ rest) = some (s.toList, rest) := by
  have hnewline : (if (StringTraits.of s.toList).newline then "\n" else "").toList =
      if s.toList.contains '\n' then ['\n'] else [] := by
    rw [apply_ite String.toList]
    rfl
  cases hform : (StringTraits.of s.toList).form with
  | basic => simpa [renderString, hform] using readString_basic s.toList hdouble
  | literal =>
    obtain ⟨hcontrol, hquotes, hfeed, hreason⟩ := StringTraits.of_form_eq_literal hform
    have hnil : s.toList ≠ [] := by
      intro h
      simp [StringTraits.of, h, longestRun] at hreason
    have hchars : ∀ c ∈ s.toList, c ≠ '\'' ∧ isPlain c = true := by
      intro c hc
      refine ⟨?_, isPlain_of_not_isControl (by simpa using List.any_eq_false.mp hcontrol c hc) ?_⟩
      · rintro rfl
        exact not_mem_of_longestRun_eq_zero hquotes hc
      · rintro rfl
        simp [StringTraits.of, hc] at hfeed
    simpa [renderString, hform] using readString_literal hnil hchars rest
  | multiLineBasic =>
    simpa [renderString, hform, hnewline] using readString_multiLineBasic s.toList hdouble
  | multiLineLiteral =>
    obtain ⟨hcontrol, hquotes⟩ := StringTraits.of_form_eq_multiLineLiteral hform
    simpa [renderString, hform, hnewline] using readString_multiLineLiteral hcontrol hquotes hsingle

end DslOutline.Toml
