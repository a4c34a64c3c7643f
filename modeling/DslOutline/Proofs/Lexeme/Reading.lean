import DslOutline.Proofs.Lexeme.Literal
import DslOutline.Proofs.Lexeme.Modes
import DslOutline.Proofs.Text.Encoding

/-!
# Reading at an offset

`LexState.moveInMode` takes the first characters of a text apart. `LexState.readInMode` does the
same at an offset: it looks at the byte there and at bytes before and behind it, and finds the width
of the unit in bytes. The width is computed anew in each branch: from the number of bytes that were
compared, from the width of a character that starts at some offset, or from both.

Every comparison is with an ASCII character, also in a sigil, since a sigil opens with one of a few
ASCII delimiters (`LexState.IsAscii.move`). So where a character starts, the byte there tells as
much as the character, and the two readings give the same unit (`readInMode_append`).
-/

namespace DslOutline

open Text

/-! ### Reading at an offset -/

/-- What is read at an offset. -/
structure Reading where
  /-- The number of bytes to move on by. -/
  width : Nat
  /-- The unit belongs to a string, charlist, sigil or character literal, delimiters included. -/
  literal : Bool
  /-- The unit belongs to a comment. -/
  comment : Bool
  /-- The state after the unit. -/
  next : LexState
deriving Repr, DecidableEq

/-- The mode that the `~` at an offset opens, and the width of its opener. -/
def sigilAt? (cs : List Char) (i : Nat) : Option (Nat × Mode) :=
  let j := i + 1 + ((bytesFrom cs (i + 1)).takeWhile Char.isAlpha).length
  if j = i + 1 then none
  else (sigilDelimiter? (bytesFrom cs j)).map fun o => (j + o.1 - i, o.2)

/-- Whether the `?` at an offset starts a character literal. -/
def charLiteralAt (cs : List Char) (i : Nat) : Bool :=
  !(decide (0 < i) && (byteAt? cs (i - 1)).any isIdentChar) &&
    (byteAt? cs (i + 1)).any fun n => !isAsciiBlank n

/-- The width of a character literal, with or without a backslash. -/
def charLiteralWidth (cs : List Char) (i : Nat) : Nat :=
  1 + if byteAt? cs (i + 1) = some '\\' then 1 + widthAt cs (i + 2) else widthAt cs (i + 1)

/-- The width of an escape sequence. A backslash that ends the text stands alone. -/
def escapeWidth (cs : List Char) (i : Nat) : Nat :=
  1 + widthAt cs (i + 1)

namespace LexState

/-- Reads the unit at offset `i` in code; `b` is the byte there. -/
def readInCode (s : LexState) (cs : List Char) (i : Nat) (b : Char) : Reading :=
  match Quote.ofChar? b with
  | some q =>
    if startsWithTriple b (bytesFrom cs i) then ⟨3, true, false, s.withMode (.heredoc q)⟩
    else ⟨1, true, false, s.withMode (.quoted q)⟩
  | none =>
    if (b = '\x7b' ∨ b = '\x7d') ∧ !s.interpolations.isEmpty then ⟨1, false, false, s.brace b⟩
    else if b = '#' then ⟨1, false, true, s.withMode .comment⟩
    else if b = '?' ∧ charLiteralAt cs i then ⟨charLiteralWidth cs i, true, false, s⟩
    else if b = '~' then
      match sigilAt? cs i with
      | some (width, mode) => ⟨width, true, false, s.withMode mode⟩
      | none => ⟨1, false, false, s⟩
    else ⟨widthAt cs i, false, false, s⟩

/-- Reads the unit at offset `i`; `b` is the byte there. -/
def readInMode (s : LexState) (cs : List Char) (i : Nat) (b : Char) : Reading :=
  match s.mode with
  | .code => s.readInCode cs i b
  | .comment =>
    if b = '\n' then ⟨1, false, false, s.withMode .code⟩ else ⟨widthAt cs i, false, true, s⟩
  | .quoted q =>
    if b = '#' ∧ byteAt? cs (i + 1) = some '\x7b' then ⟨2, true, false, s.interpolate⟩
    else if b = '\\' then ⟨escapeWidth cs i, true, false, s⟩
    else if b = q.mark then ⟨widthAt cs i, true, false, s.withMode .code⟩
    else ⟨widthAt cs i, true, false, s⟩
  | .heredoc q =>
    if b = '#' ∧ byteAt? cs (i + 1) = some '\x7b' then ⟨2, true, false, s.interpolate⟩
    else if b = '\\' then ⟨escapeWidth cs i, true, false, s⟩
    else if startsWithTriple q.mark (bytesFrom cs i) then ⟨3, true, false, s.withMode .code⟩
    else ⟨widthAt cs i, true, false, s⟩
  | .sigil opener closer depth =>
    if b = '\\' then ⟨escapeWidth cs i, true, false, s⟩
    else if b = closer then
      match depth with
      | 0 => ⟨widthAt cs i, true, false, s.withMode .code⟩
      | d + 1 => ⟨widthAt cs i, true, false, s.withMode (.sigil opener closer d)⟩
    else if b = opener then
      ⟨widthAt cs i, true, false, s.withMode (.sigil opener closer (depth + 1))⟩
    else ⟨widthAt cs i, true, false, s⟩

end LexState

/-! ### Delimiters are ASCII -/

/-- Whether the delimiters that a mode waits for are ASCII characters. -/
def Mode.IsAscii : Mode → Prop
  | .sigil opener closer _ => opener.toNat < 128 ∧ closer.toNat < 128
  | _ => True

/-- The same for a state and every mode that it resumes. -/
def LexState.IsAscii (s : LexState) : Prop :=
  s.mode.IsAscii ∧ ∀ mode ∈ s.resumed, mode.IsAscii

theorem LexState.isAscii_start : LexState.start.IsAscii :=
  ⟨trivial, fun _ h => by cases h⟩

/-- Quotation marks are characters of ASCII. -/
theorem ascii_of_ofChar? {c : Char} {q : Quote} (h : Quote.ofChar? c = some q) :
    c.toNat < 128 := by
  unfold Quote.ofChar? at h
  split_ifs at h with hdouble hsingle
  · rw [hdouble]
    decide
  · rw [hsingle]
    decide

theorem ofChar?_of_wide {c : Char} (hc : 128 ≤ c.toNat) : Quote.ofChar? c = none := by
  cases h : Quote.ofChar? c with
  | none => rfl
  | some q =>
      have := ascii_of_ofChar? h
      omega

/-- The delimiters of sigils are characters of ASCII. -/
theorem ascii_of_sigilCloser? {c closer : Char} (h : sigilCloser? c = some closer) :
    c.toNat < 128 ∧ closer.toNat < 128 := by
  unfold sigilCloser? at h
  split_ifs at h with h1 h2 h3 h4 h5
  · cases h
    exact ⟨by rw [h1]; decide, by decide⟩
  · cases h
    exact ⟨by rw [h2]; decide, by decide⟩
  · cases h
    exact ⟨by rw [h3]; decide, by decide⟩
  · cases h
    exact ⟨by rw [h4]; decide, by decide⟩
  · cases h
    have hc : c.toNat < 128 := by rcases h5 with rfl | rfl | rfl | rfl <;> decide
    exact ⟨hc, hc⟩

theorem sigilCloser?_of_wide {c : Char} (hc : 128 ≤ c.toNat) : sigilCloser? c = none := by
  cases h : sigilCloser? c with
  | none => rfl
  | some closer =>
      have := (ascii_of_sigilCloser? h).1
      omega

/-- A mode that follows one with delimiters in ASCII has such delimiters, too. -/
theorem Mode.LeadsTo.isAscii {mode mode' : Mode} (h : mode.LeadsTo mode') (hmode : mode.IsAscii) :
    mode'.IsAscii := by
  cases h with
  | refl => exact hmode
  | code => trivial
  | comment => trivial
  | quoted => trivial
  | heredoc => trivial
  | sigil hcloser => exact ascii_of_sigilCloser? hcloser
  | nested => exact hmode

/-- Along a reading, the delimiters that are waited for stay ASCII. -/
theorem LexState.IsAscii.move {s : LexState} (hs : s.IsAscii) (before : Option Char) (c : Char)
    (rest : List Char) : (s.move before c rest).next.IsAscii := by
  obtain ⟨hmode, hresumed⟩ := hs
  cases modeChange_move s before c rest with
  | within hlead hsame => exact ⟨hlead.isAscii hmode, by rwa [hsame]⟩
  | starts q _ hcode hpush =>
      rw [LexState.IsAscii, hcode, hpush]
      exact ⟨trivial, List.forall_mem_cons.mpr ⟨hmode, hresumed⟩⟩
  | ends hpop =>
      rw [hpop] at hresumed
      exact List.forall_mem_cons.mp hresumed

/-! ### Inside a character -/

/-- A byte that is not ASCII is code without a meaning of its own. -/
theorem readInCode_of_wide (s : LexState) {cs : List Char} {i : Nat} {b : Char}
    (hb : 128 ≤ b.toNat) : s.readInCode cs i b = ⟨widthAt cs i, false, false, s⟩ := by
  have hne : ∀ {m : Char}, m.toNat < 128 → b ≠ m := ne_of_wide hb
  rw [LexState.readInCode, ofChar?_of_wide hb]
  dsimp only
  rw [if_neg, if_neg (hne (by decide)), if_neg, if_neg (hne (by decide))]
  · rintro ⟨hmark, -⟩
    exact hne (by decide) hmark
  · rintro ⟨hbrace | hbrace, -⟩
    · exact hne (by decide) hbrace
    · exact hne (by decide) hbrace

/-! ### Where a character starts -/

/-- A wide character is not part of an identifier. -/
theorem isIdentChar_of_wide {c : Char} (hc : 128 ≤ c.toNat) : isIdentChar c = false := by
  simp [isIdentChar, Char.isAlphanum, isAlpha_of_wide hc, isDigit_of_wide hc, ne_of_wide hc]

section Boundary

variable {b c m : Char} (p rest : List Char)

theorem byteLength_concat_ascii (hc : c.toNat < 128) :
    byteLength (p ++ [c]) = byteLength p + 1 := by
  rw [byteLength_append, byteLength_cons, byteLength_nil, utf8Size_of_ascii hc]

/-- The bytes behind a character of ASCII are those of the rest of the text. -/
theorem bytesFrom_next (hc : c.toNat < 128) :
    bytesFrom (p ++ c :: rest) (byteLength p + 1) = bytesFrom rest 0 := by
  rw [← byteLength_concat_ascii p hc, List.append_cons]
  exact bytesFrom_append (p ++ [c]) rest 0

theorem byteAt?_next (hc : c.toNat < 128) :
    byteAt? (p ++ c :: rest) (byteLength p + 1) = byteAt? rest 0 := by
  rw [byteAt?, bytesFrom_next p rest hc, byteAt?]

/-- The character behind a character of ASCII is the first one of the rest, with all of its
bytes. -/
theorem widthAt_next (hc : c.toNat < 128) :
    widthAt (p ++ c :: rest) (byteLength p + 1) = byteLength (rest.take 1) := by
  rw [← byteLength_concat_ascii p hc, List.append_cons, widthAt_append]

/-- Three marks in a row are found among the bytes as they are among the characters. -/
theorem startsWithTriple_bytesFrom (hm : m.toNat < 128) :
    startsWithTriple m (bytesFrom (p ++ rest) (byteLength p)) = startsWithTriple m rest := by
  have hmarks : ∀ d ∈ [m, m, m], d.toNat < 128 := by simp [hm]
  rw [Bool.eq_iff_iff, startsWithTriple_iff, startsWithTriple_iff,
    ← prefix_bytesFrom_iff hmarks rest]
  exact iff_of_eq (congrArg _ (bytesFrom_append p rest 0))

/-- The unit that is three marks has three bytes. -/
theorem byteLength_triple (hm : m.toNat < 128) (h : startsWithTriple m (c :: rest) = true) :
    byteLength (c :: rest.take 2) = 3 := by
  obtain ⟨tail, htail⟩ := startsWithTriple_iff.mp h
  obtain ⟨rfl, rfl⟩ := List.cons.inj htail
  have hmarks : ∀ d ∈ [m, m, m], d.toNat < 128 := by simp [hm]
  exact byteLength_of_ascii hmarks

/-- A backslash takes the character behind it along, however wide it is. -/
theorem escapeWidth_append (hc : c.toNat < 128) :
    escapeWidth (p ++ c :: rest) (byteLength p) = byteLength (c :: rest.take 1) := by
  rw [escapeWidth, widthAt_next p rest hc, byteLength_cons, utf8Size_of_ascii hc]

/-- The byte in front of a place tells as much as the character there. -/
theorem charLiteralAt_append (hc : c.toNat < 128) :
    charLiteralAt (p ++ c :: rest) (byteLength p) = startsCharLiteral p.getLast? rest := by
  have hbefore : (decide (0 < byteLength p) &&
      (byteAt? (p ++ c :: rest) (byteLength p - 1)).any isIdentChar) =
      p.getLast?.any isIdentChar := by
    cases hlast : p.getLast? with
    | none =>
        rw [List.getLast?_eq_none_iff.mp hlast]
        rfl
    | some d =>
        obtain ⟨hpos, x, hx, hlooks⟩ := exists_byteAt?_before hlast (c :: rest)
        rw [decide_eq_true hpos, Bool.true_and, hx, Option.any_some, Option.any_some,
          hlooks.map_eq isIdentChar_of_wide]
  have hbehind : ∀ {d : Char}, 128 ≤ d.toNat → (!isAsciiBlank d) = true := by
    intro d hd
    rw [isAsciiBlank_of_wide hd]
    rfl
  rw [charLiteralAt, startsCharLiteral, hbefore, byteAt?_next p rest hc,
    any_byteAt?_zero hbehind]

/-- A character literal has the same width, measured in bytes, as the characters that it takes. -/
theorem charLiteralWidth_append (hc : c.toNat < 128) :
    charLiteralWidth (p ++ c :: rest) (byteLength p) =
      byteLength (c :: rest.take (charLiteralBody rest)) := by
  have hslash := byteAt?_zero_eq_some_iff (m := '\\') (by decide) rest
  rw [charLiteralWidth, charLiteralBody, byteAt?_next p rest hc, byteLength_cons,
    utf8Size_of_ascii hc]
  simp only [hslash]
  split_ifs with h
  · obtain ⟨tail, rfl⟩ := List.head?_eq_some_iff.mp h
    have hnext := widthAt_next (p ++ [c]) tail (c := '\\') (by decide)
    rw [byteLength_concat_ascii p hc, ← List.append_cons] at hnext
    rw [hnext, List.take_succ_cons, byteLength_cons]
    rfl
  · rw [widthAt_next p rest hc]

/-- The bytes at an offset open what the characters there open. -/
theorem sigilDelimiter?_bytesFrom :
    sigilDelimiter? (bytesFrom (p ++ rest) (byteLength p)) = sigilDelimiter? rest := by
  have hbytes : bytesFrom (p ++ rest) (byteLength p) = bytesFrom rest 0 := bytesFrom_append p rest 0
  cases rest with
  | nil =>
      rw [hbytes]
      rfl
  | cons d rest =>
      by_cases hd : d.toNat < 128
      · have htriple := startsWithTriple_bytesFrom p (d :: rest) hd
        rw [hbytes, bytesFrom_ascii hd] at htriple ⊢
        rw [sigilDelimiter?, sigilDelimiter?, htriple]
      · have hwide : 128 ≤ d.toNat := Nat.le_of_not_lt hd
        obtain ⟨x, hx, hlooks⟩ := exists_byteAt?_cons rest d.utf8Size_pos
        obtain ⟨tail, htail⟩ := List.head?_eq_some_iff.mp hx
        rw [hbytes, htail, sigilDelimiter?, sigilDelimiter?, hlooks.map_eq ofChar?_of_wide,
          hlooks.map_eq sigilCloser?_of_wide, ofChar?_of_wide hwide, sigilCloser?_of_wide hwide]
        rfl

/-- The characters of a delimiter are ASCII. -/
theorem byteLength_take_sigilDelimiter? {n : Nat} {mode : Mode}
    (h : sigilDelimiter? rest = some (n, mode)) : byteLength (rest.take n) = n := by
  cases rest with
  | nil => cases h
  | cons d rest =>
      rw [sigilDelimiter?] at h
      split at h
      · rename_i q hquote
        have hd := ascii_of_ofChar? hquote
        split_ifs at h with htriple
        · cases h
          exact byteLength_triple rest hd htriple
        · cases h
          exact byteLength_of_ascii (by simp [hd])
      · obtain ⟨closer, hcloser, heq⟩ := Option.map_eq_some_iff.mp h
        cases heq
        exact byteLength_of_ascii (by simp [(ascii_of_sigilCloser? hcloser).1])

/-- The bytes from a `~` on open what the characters there open, and the opener is as wide as its
characters are together. -/
theorem sigilAt?_append (hc : c.toNat < 128) :
    sigilAt? (p ++ c :: rest) (byteLength p) =
      (sigilOpening? rest).map fun o => (byteLength (c :: rest.take o.1), o.2) := by
  obtain ⟨name, tail, hname, htail⟩ : ∃ name tail, rest.takeWhile Char.isAlpha = name ∧
      rest.dropWhile Char.isAlpha = tail := ⟨_, _, rfl, rfl⟩
  have hrest : rest = name ++ tail := by
    rw [← hname, ← htail, List.takeWhile_append_dropWhile]
  have hletters :
      (bytesFrom (p ++ c :: rest) (byteLength p + 1)).takeWhile Char.isAlpha = name := by
    rw [bytesFrom_next p rest hc, takeWhile_isAlpha_bytesFrom, hname]
  have hascii : ∀ d ∈ c :: name, d.toNat < 128 := by
    intro d hd
    rcases List.mem_cons.mp hd with rfl | hd
    · exact hc
    · rw [← hname] at hd
      exact ascii_of_isAlpha (List.mem_takeWhile_imp hd)
  have hwidth : byteLength (c :: name) = name.length + 1 := byteLength_of_ascii hascii
  have hdelimiter : sigilDelimiter? (bytesFrom (p ++ c :: rest) (byteLength p + 1 + name.length)) =
      sigilDelimiter? tail := by
    have hj : byteLength p + 1 + name.length = byteLength (p ++ c :: name) := by
      rw [byteLength_append, hwidth]
      omega
    have hsplit : p ++ c :: rest = (p ++ c :: name) ++ tail := by
      rw [hrest, List.append_assoc, List.cons_append]
    rw [hsplit, hj, sigilDelimiter?_bytesFrom]
  have hdrop : rest.drop name.length = tail := by
    rw [hrest, List.drop_left]
  rw [sigilAt?, sigilOpening?_eq, hletters, hname, hdrop, hdelimiter]
  by_cases hempty : name = []
  · subst hempty
    rw [List.length_nil, Nat.add_zero, if_pos rfl, if_pos List.isEmpty_nil, Option.map_none]
  · have hlen : ¬ byteLength p + 1 + name.length = byteLength p + 1 := by
      have := List.length_pos_iff.mpr hempty
      omega
    rw [if_neg hlen, if_neg (by rwa [List.isEmpty_iff])]
    cases hopen : sigilDelimiter? tail with
    | none => rfl
    | some o =>
        have hunit : byteLength (c :: rest.take (name.length + o.1)) =
            byteLength p + 1 + name.length + o.1 - byteLength p := by
          rw [hrest, List.take_length_add_append, ← List.cons_append, byteLength_append, hwidth,
            byteLength_take_sigilDelimiter? tail hopen]
          omega
        rw [Option.map_some, Option.map_some, Option.map_some, hunit]

end Boundary

/-- What a move over characters reads, seen from the offset of its first character. -/
def Move.reading (m : Move) (c : Char) (rest : List Char) : Reading :=
  ⟨byteLength (c :: rest.take m.extra), m.literal, m.comment, m.next⟩

section Boundary

variable {b c : Char} (p rest : List Char)

/-- One ASCII character has one byte. -/
theorem reading_ascii (hc : c.toNat < 128) (literal comment : Bool) (next : LexState) :
    Move.reading ⟨0, literal, comment, next⟩ c rest = ⟨1, literal, comment, next⟩ := by
  rw [Move.reading, List.take_zero, byteLength_cons, byteLength_nil, utf8Size_of_ascii hc]

/-- One character has the width that is found where it starts. -/
theorem reading_char (literal comment : Bool) (next : LexState) :
    Move.reading ⟨0, literal, comment, next⟩ c rest =
      ⟨widthAt (p ++ c :: rest) (byteLength p), literal, comment, next⟩ := by
  rw [widthAt_append]
  rfl

/-- In code, what is read at the first byte of a character is what is read of the text there. -/
theorem readInCode_append (s : LexState) (h : LooksLike b c) :
    s.readInCode (p ++ c :: rest) (byteLength p) b =
      (s.moveInCode p.getLast? c rest).reading c rest := by
  have hliteral : (c = '?' ∧ charLiteralAt (p ++ c :: rest) (byteLength p) = true) ↔
      (c = '?' ∧ startsCharLiteral p.getLast? rest = true) :=
    and_congr_right fun hmark => by rw [charLiteralAt_append p rest (by rw [hmark]; decide)]
  rw [LexState.readInCode, LexState.moveInCode, h.map_eq ofChar?_of_wide]
  cases hquote : Quote.ofChar? c with
  | some q =>
      have hc := ascii_of_ofChar? hquote
      dsimp only
      rw [(h.eq_iff hc).mpr rfl, startsWithTriple_bytesFrom p (c :: rest) hc]
      split_ifs with htriple
      · rw [Move.reading, byteLength_triple rest hc htriple]
      · rw [reading_ascii rest hc]
  | none =>
      simp only [h.eq_iff (m := '\x7b') (by decide), h.eq_iff (m := '\x7d') (by decide),
        h.eq_iff (m := '#') (by decide), h.eq_iff (m := '?') (by decide),
        h.eq_iff (m := '~') (by decide), hliteral]
      split_ifs with hbrace hhash hmark htilde
      · have hc : c.toNat < 128 := by rcases hbrace.1 with rfl | rfl <;> decide
        rw [reading_ascii rest hc, (h.eq_iff hc).mpr rfl]
      · rw [reading_ascii rest (by rw [hhash]; decide)]
      · rw [charLiteralWidth_append p rest (by rw [hmark.1]; decide), Move.reading]
      · have hc : c.toNat < 128 := by rw [htilde]; decide
        rw [sigilAt?_append p rest hc]
        cases sigilOpening? rest with
        | none => exact (reading_ascii rest hc false false s).symm
        | some o => rfl
      · rw [reading_char p rest]

/-- Where a character starts, reading at the offset and reading the characters agree. -/
theorem readInMode_append {s : LexState} (hs : s.IsAscii) (h : LooksLike b c) :
    s.readInMode (p ++ c :: rest) (byteLength p) b =
      (s.moveInMode p.getLast? c rest).reading c rest := by
  have hinterpolation :
      (c = '#' ∧ byteAt? (p ++ c :: rest) (byteLength p + 1) = some '\x7b') ↔
        (c = '#' ∧ rest.head? = some '\x7b') :=
    and_congr_right fun hhash => by
      rw [byteAt?_next p rest (by rw [hhash]; decide), byteAt?_zero_eq_some_iff (by decide)]
  have hbrace : c = '#' ∧ rest.head? = some '\x7b' → byteLength (c :: rest.take 1) = 2 := by
    rintro ⟨rfl, hhead⟩
    obtain ⟨tail, rfl⟩ := List.head?_eq_some_iff.mp hhead
    rfl
  have hescape : c = '\\' → escapeWidth (p ++ c :: rest) (byteLength p) =
      byteLength (c :: rest.take 1) := fun hc =>
    escapeWidth_append p rest (by rw [hc]; decide)
  unfold LexState.readInMode LexState.moveInMode
  cases hm : s.mode with
  | code => exact readInCode_append p rest s h
  | comment =>
      simp only [h.eq_iff (m := '\n') (by decide)]
      split_ifs with hfeed
      · rw [reading_ascii rest (by rw [hfeed]; decide)]
      · rw [reading_char p rest]
  | quoted q =>
      have hmark : q.mark.toNat < 128 := by cases q <;> decide
      simp only [h.eq_iff (m := '#') (by decide), h.eq_iff (m := '\\') (by decide),
        h.eq_iff hmark, hinterpolation]
      split_ifs with hopen hslash
      · rw [Move.reading, hbrace hopen]
      · rw [hescape hslash, Move.reading]
      · rw [reading_char p rest]
      · rw [reading_char p rest]
  | heredoc q =>
      have hmark : q.mark.toNat < 128 := by cases q <;> decide
      simp only [h.eq_iff (m := '#') (by decide), h.eq_iff (m := '\\') (by decide), hinterpolation,
        startsWithTriple_bytesFrom p (c :: rest) hmark]
      split_ifs with hopen hslash htriple
      · rw [Move.reading, hbrace hopen]
      · rw [hescape hslash, Move.reading]
      · rw [Move.reading, byteLength_triple rest hmark htriple]
      · rw [reading_char p rest]
  | sigil opener closer depth =>
      have hdelimiters := hs.1
      rw [hm] at hdelimiters
      simp only [h.eq_iff (m := '\\') (by decide), h.eq_iff hdelimiters.1,
        h.eq_iff hdelimiters.2]
      split_ifs with hslash
      · rw [hescape hslash, Move.reading]
      · cases depth <;> rw [reading_char p rest]
      · rw [reading_char p rest]
      · rw [reading_char p rest]

end Boundary

end DslOutline
