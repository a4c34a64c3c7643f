import DslOutline.Proofs.Outline.Comments
import DslOutline.Proofs.Outline.UseRanges

/-!
# What stands behind the keyword of an entry

An entry starts with its keyword, and the keyword should be all of the first identifier on its line.
The test looks at one character of the mask and knows the identifier characters of ASCII only. What
stands in the text may be something else than what the mask shows, but not much: right behind code
that is no letter, digit or mark of an identifier, a literal starts with a quotation mark or `~`,
and a comment with `#` (`char_behind_code`). So no identifier character of ASCII comes behind a
keyword, and no colon (`keyword_of_mem_matchChildren`). A letter beyond ASCII may come there, and
then the line of a longer identifier has an entry (`entry_of_longer_identifier`).
-/

namespace DslOutline

open Text

/-! ### Characters of identifiers -/

/-- Whether a character may continue an identifier: a letter, a digit or a mark of Unicode, `_`, `?`
or `!`. -/
def isNameChar (c : Char) : Bool :=
  isWordChar c || c == '?' || c == '!'

/-- The word characters up to the first one beyond ASCII. -/
theorem take_wordRanges :
    Charset.wordRanges.take 5 =
      [(0x30, 0x39), (0x41, 0x5A), (0x5F, 0x5F), (0x61, 0x7A), (0xAA, 0xAA)] := by
  decide +kernel

/-- In ASCII, a character that counts as part of a word may continue an identifier. -/
theorem isIdentChar_of_isWordChar {c : Char} (h : isWordChar c = true) (hascii : c.toNat < 0x80) :
    isIdentChar c = true := by
  have hpoints : ∀ n < 0x80, Charset.Ranges.contains
      [(0x30, 0x39), (0x41, 0x5A), (0x5F, 0x5F), (0x61, 0x7A)] n = true →
        isIdentChar (Char.ofNat n) = true := by
    decide
  have hbeyond : c.toNat < 0xAA := by omega
  rw [isWordChar, ← List.take_append_drop 5 Charset.wordRanges, take_wordRanges] at h
  simp only [List.cons_append, Charset.Ranges.contains, if_pos hbeyond] at h
  rw [← Char.ofNat_toNat c]
  exact hpoints c.toNat hascii (by simpa only [Charset.Ranges.contains] using h)

/-- Among the characters of ASCII, those of identifiers are the ones that the test knows. -/
theorem isIdentChar_of_isNameChar {c : Char} (h : isNameChar c = true) (hascii : c.toNat < 0x80) :
    isIdentChar c = true := by
  unfold isNameChar at h
  rw [Bool.or_eq_true, Bool.or_eq_true, beq_iff_eq, beq_iff_eq] at h
  rcases h with (hword | rfl) | rfl
  · exact isIdentChar_of_isWordChar hword hascii
  · rfl
  · rfl

/-! ### Behind code -/

/-- What stands right behind code, and is not code itself: the start of a comment or of a literal.
It is the `?` of a character literal only behind a character that ends no identifier of ASCII. -/
theorem char_behind_code {cs : List Char} {a b : List MarkedChar} {c : Char} {m : MarkedChar}
    (h : documentMarks cs = a ++ .code c :: m :: b) (hm : m.isCode = false) :
    (isIdentChar m.char = false ∧ m.char ≠ ':') ∨ (m.char = '?' ∧ isIdentChar c = false) := by
  obtain ⟨a', hmarks⟩ := exists_marks_of_documentMarks h
  have hmarked : Marked true (m :: b) := by
    have hwhole := Marked.marks_lex .start none cs
    change Marked _ (marks (lexemes cs)) at hwhole
    rw [hmarks] at hwhole
    obtain ⟨_, hcode⟩ := Marked.of_append hwhole
    exact hcode.tail_of_isCode rfl
  cases hmarked with
  | code => cases hm
  | hash => exact Or.inl ⟨rfl, by decide⟩
  | @literal _ d comment _ starts tail =>
      simp only [startsLiteral, List.contains_eq_mem, List.mem_cons, List.not_mem_nil, or_false,
        decide_eq_true_eq] at starts
      rcases starts with rfl | rfl | rfl | rfl
      · exact Or.inl ⟨rfl, by simp⟩
      · exact Or.inl ⟨rfl, by simp⟩
      · right
        refine ⟨rfl, ?_⟩
        -- behind an identifier of ASCII, the reader would have taken the `?` for code
        by_contra hident
        have hread := marks_lex_of_code hmarks
        rw [List.map_cons, marks_lex_question (by simpa using hident)] at hread
        cases (List.cons.inj hread).1
      · exact Or.inl ⟨rfl, by simp⟩

/-! ### Behind a keyword -/

/-- An entry is for a keyword with which the masked line starts, and not with a longer identifier of
ASCII. -/
theorem startsWithKeyword_of_matchChild {patterns : List ChildPattern} {l : SourceLine} {c : Child}
    (h : matchChild patterns l = some c) :
    startsWithKeyword c.keyword.toList (trimStart l.masked) = true := by
  simp only [matchChild] at h
  split_ifs at h
  obtain ⟨p, hp, rfl⟩ := Option.map_eq_some_iff.mp h
  have hkeyword := List.find?_some hp
  exact hkeyword

namespace Document

/-- The mask around a line: what follows the line is a line end, or nothing. -/
theorem exists_masked_around {cs : List Char} {n : Nat} (h1 : 1 ≤ n)
    (hn : n ≤ (ofText cs).lineCount) :
    ∃ pre rest, (ofText cs).masked = pre ++ ((ofText cs).maskedLine n ++ rest) ∧
      byteLength pre = (ofText cs).lineStart n ∧
      ∀ c ∈ rest.head?, c = '\r' ∨ c = '\n' := by
  rw [lineCount, index_eq_ofText_masked] at hn
  obtain ⟨pre, body, rest, hline⟩ := exists_lineAt h1 hn
  have hbody : (ofText cs).maskedLine n ++ body.rtakeWhile (fun c => c == '\r' || c == '\n') =
      body := by
    rw [maskedLine, index_eq_ofText_masked, hline.lineText]
    exact List.rdropWhile_append_rtakeWhile
  refine ⟨pre, body.rtakeWhile (fun c => c == '\r' || c == '\n') ++ rest, ?_, ?_, ?_⟩
  · rw [hline.text_eq, ← List.append_assoc (maskedLine _ n), hbody]
  · rw [lineStart, index_eq_ofText_masked, hline.lineStart]
  · intro c hc
    rw [List.head?_append, Option.mem_def, Option.or_eq_some_iff] at hc
    rcases hc with hend | ⟨-, hrest⟩
    · have hmem := List.mem_rtakeWhile_imp (List.mem_of_head? hend)
      simpa using hmem
    · right
      rcases hline.ended with hfeed | ⟨hnil, -⟩
      · exact Option.some.inj (hrest.symm.trans hfeed)
      · rw [hnil] at hrest
        cases hrest

/-- What stands in the text behind a word that the masked line starts with. -/
theorem IsCodeLine.exists_behind {cs : List Char} {n : Nat} (h : (ofText cs).IsCodeLine n)
    {k : List Char} {e : Char} (hblank : ∀ c ∈ k ++ [e], isBlank c = false)
    (hword : startsWithKeyword (k ++ [e]) (trimStart ((ofText cs).maskedLine n)) = true) :
    ∃ pre before after, PlaceAt cs ((ofText cs).firstNonBlank n) pre before (k ++ [e] ++ after) ∧
      ∀ x ∈ after.head?,
        (isIdentChar x = false ∧ x ≠ ':') ∨ (x = '?' ∧ isIdentChar e = false) := by
  obtain ⟨more, hmore, hnext⟩ := startsWithKeyword_iff.mp hword
  obtain ⟨pre, rest, hmasked, hstart, hrest⟩ := exists_masked_around h.one_le h.le_lineCount
  have hline := (takeWhile_append_trimStart ((ofText cs).maskedLine n)).symm
  rw [hmore] at hline
  have he : isBlank e = false := hblank e (by simp)
  -- the last character of the word is code, and the marks go on with what is behind it
  have hsplit : (documentMarks cs).flatMap MarkedChar.masked =
      (pre ++ (((ofText cs).maskedLine n).takeWhile isBlank ++ k)) ++ e :: (more ++ rest) := by
    rw [flatMap_masked_documentMarks, hmasked]
    nth_rewrite 1 [hline]
    simp only [List.append_assoc, List.cons_append, List.nil_append]
  obtain ⟨a, b, hmarks, ha, hb⟩ := exists_split_of_masked (by rintro rfl; cases he)
    (by rintro rfl; cases he) hsplit
  obtain ⟨a', c, b', hcs, -, ⟨after, hafter⟩, hlen, -, -⟩ :=
    exists_word_at_indentation h.one_le h.le_lineCount h.trimStart_ne_nil
      (prefix_of_startsWithKeyword hword) hblank
  obtain ⟨start, before, rfl, hplace⟩ := exists_placeAt hcs
  rw [hlen, ← hafter] at hplace
  have hbehind : after = b.map MarkedChar.char := by
    have htext := map_char_documentMarks cs
    rw [hmarks, List.map_append, List.map_cons, List.append_cons] at htext
    have hlength : byteLength (start ++ before ++ (k ++ [e])) =
        byteLength (a.map MarkedChar.char ++ [e]) := by
      rw [byteLength_append, hlen, byteLength_append (a.map _), ← byteLength_flatMap_masked, ha,
        ← hstart, indentation]
      simp only [byteLength_append]
      omega
    have hboth : start ++ before ++ (k ++ [e]) ++ after =
        a.map MarkedChar.char ++ [e] ++ b.map MarkedChar.char := by
      rw [List.append_assoc, hafter, ← hcs]
      exact htext.symm
    have hfront := prefix_eq_of_byteLength_eq ⟨_, rfl⟩ ⟨_, hboth.symm⟩ hlength
    rw [hfront] at hboth
    exact List.append_cancel_left hboth
  refine ⟨start, before, after, hplace, ?_⟩
  intro x hx
  rw [hbehind] at hx
  cases b with
  | nil => cases hx
  | cons m b =>
      obtain rfl : m.char = x := Option.some.inj hx
      cases hm : m.isCode with
      | false => exact char_behind_code hmarks hm
      | true =>
          left
          rw [MarkedChar.eq_code_of_isCode hm, List.flatMap_cons, MarkedChar.masked_code] at hb
          cases more with
          | nil =>
              have hend := hrest m.char (by rw [← List.nil_append rest, ← hb]; rfl)
              rcases hend with hreturn | hfeed
              · rw [hreturn]
                exact ⟨rfl, by decide⟩
              · rw [hfeed]
                exact ⟨rfl, by decide⟩
          | cons d more =>
              obtain rfl : m.char = d := (List.cons.inj hb).1
              simpa using hnext

end Document

/-- The line of an entry: it has code, the entry starts where the code starts, and the code starts
with the keyword. -/
theorem exists_line_of_mem_matchChildren {cs : List Char} {patterns : List ChildPattern}
    {lines : List SourceLine} (hlines : lines ⊆ (Document.ofText cs).sourceLines) {c : Child}
    (hc : c ∈ matchChildren patterns lines) :
    ∃ n, (Document.ofText cs).IsCodeLine n ∧ c.start = (Document.ofText cs).firstNonBlank n ∧
      startsWithKeyword c.keyword.toList (trimStart ((Document.ofText cs).maskedLine n)) = true := by
  obtain ⟨l, hl, hmatch⟩ := List.mem_filterMap.mp hc
  have hl := hlines hl
  rw [Document.sourceLines_eq] at hl
  obtain ⟨n, hn, rfl⟩ := List.mem_map.mp hl
  rw [List.mem_range'_1] at hn
  obtain ⟨hfull, p, -, -, hchild⟩ := of_matchChild hmatch
  have hcount : n ≤ (Document.ofText cs).lineCount := by omega
  have hcode : (Document.ofText cs).IsCodeLine n := ⟨hn.1, hcount, hfull⟩
  refine ⟨n, hcode, ?_, startsWithKeyword_of_matchChild hmatch⟩
  rw [hcode.firstNonBlank_eq, hchild]
  rfl

/-- An identifier character of ASCII, or a colon, is not what the test lets pass, unless it starts a
character literal. -/
theorem beyond_ascii_of_behind {e x : Char}
    (h : (isIdentChar x = false ∧ x ≠ ':') ∨ (x = '?' ∧ isIdentChar e = false))
    (hname : isNameChar x = true ∨ x = ':') :
    0x80 ≤ x.toNat ∨ (x = '?' ∧ isIdentChar e = false) := by
  rcases h with ⟨hident, hcolon⟩ | hmark
  · left
    by_contra hlt
    have hknown := isIdentChar_of_isNameChar (hname.resolve_right hcolon) (by omega)
    rw [hident] at hknown
    cases hknown
  · exact Or.inr hmark

/-- A run of name characters ends where the keyword does, if something else follows. -/
theorem takeWhile_isNameChar_append {keyword after : List Char}
    (hkeyword : ∀ e ∈ keyword, isNameChar e = true)
    (hafter : ∀ x ∈ after.head?, isNameChar x ≠ true) :
    (keyword ++ after).takeWhile isNameChar = keyword := by
  rw [List.takeWhile_append_of_pos hkeyword]
  cases after with
  | nil => rw [List.takeWhile_nil, List.append_nil]
  | cons x after => rw [List.takeWhile_cons_of_neg (hafter x rfl), List.append_nil]

/-- **The keyword of an entry is not the start of a longer identifier of ASCII.** The keyword of an
entry stands where its line starts, and if an identifier character or a colon comes right behind it,
then this is beyond ASCII, or it is the `?` of a character literal and the keyword does not end with
an identifier character of ASCII. So with ASCII on both sides of its end, an identifier is the
keyword of an entry only if it is the whole of the first identifier on the line. -/
theorem keyword_of_mem_matchChildren {cs : List Char} {patterns : List ChildPattern}
    {lines : List SourceLine} (hlines : lines ⊆ (Document.ofText cs).sourceLines) {c : Child}
    (hc : c ∈ matchChildren patterns lines) (hne : c.keyword ≠ "") (hword : IsWord c.keyword) :
    let d := Document.ofText cs
    let keyword := c.keyword.toList
    c.start = d.firstNonBlank c.start.line ∧
      ∃ pre before after, PlaceAt cs c.start pre before (keyword ++ after) ∧
        (∀ x ∈ after.head?, isNameChar x = true ∨ x = ':' →
          0x80 ≤ x.toNat ∨ (x = '?' ∧ ∀ e ∈ keyword.getLast?, isIdentChar e = false)) ∧
        ((∀ e ∈ keyword, isNameChar e = true) → (∀ e ∈ keyword.getLast?, e.toNat < 0x80) →
          (∀ x ∈ after.head?, x.toNat < 0x80) →
            (keyword ++ after).takeWhile isNameChar = keyword ∧ after.head? ≠ some ':') := by
  intro d keyword
  obtain ⟨n, hcode, hstart, hkeyword⟩ := exists_line_of_mem_matchChildren hlines hc
  obtain ⟨k, e, hke⟩ : ∃ k e, keyword = k ++ [e] := by
    rcases List.eq_nil_or_concat keyword with hnil | ⟨k, e, hke⟩
    · exact absurd (String.toList_eq_nil_iff.mp hnil) hne
    · exact ⟨k, e, by rw [hke, List.concat_eq_append]⟩
  have hlast : keyword.getLast? = some e := by rw [hke, List.getLast?_concat]
  obtain ⟨pre, before, after, hplace, hbehind⟩ :=
    hcode.exists_behind (k := k) (e := e) (by rw [← hke]; exact hword)
      (by rw [← hke]; exact hkeyword)
  rw [← hstart, ← hke] at hplace
  have hascii : ∀ x ∈ after.head?, isNameChar x = true ∨ x = ':' →
      0x80 ≤ x.toNat ∨ (x = '?' ∧ isIdentChar e = false) := fun x hx =>
    beyond_ascii_of_behind (hbehind x hx)
  refine ⟨?_, pre, before, after, hplace, ?_, ?_⟩
  · rw [hstart, hcode.firstNonBlank_line]
  · intro x hx hname
    simpa [hlast] using hascii x hx hname
  · intro hident hlow hnext
    have hknown : isIdentChar e = true :=
      isIdentChar_of_isNameChar (hident e (by simp [hke])) (hlow e hlast)
    have hends : ∀ x ∈ after.head?, ¬ (isNameChar x = true ∨ x = ':') := by
      intro x hx hname
      rcases hascii x hx hname with hbeyond | ⟨-, hmark⟩
      · have := hnext x hx
        omega
      · rw [hmark] at hknown
        cases hknown
    exact ⟨takeWhile_isNameChar_append hident fun x hx h => hends x hx (Or.inl h),
      fun hcolon => hends ':' hcolon (Or.inr rfl)⟩

/-- A literal stands in front of the keyword, and another one right behind it, where the mask has a
blank. -/
theorem keyword_of_mem_matchChildren_literal :
    let p : ChildPattern := ⟨"trigger", none, none, false, none⟩
    let cs := "use A\n\"é\" trigger\"b\" :c".toList
    let c : Child := ⟨"trigger", none, none, ⟨2, 5⟩, false, none⟩
    c ∈ matchChildren [p] (Document.ofText cs).sourceLines ∧
      ∃ pre before after, PlaceAt cs ⟨2, 5⟩ pre before ("trigger".toList ++ after) ∧
        ∀ x ∈ after.head?, isNameChar x = true ∨ x = ':' →
          0x80 ≤ x.toNat ∨ (x = '?' ∧ ∀ e ∈ "trigger".toList.getLast?, isIdentChar e = false) := by
  intro p cs c
  have hc : c ∈ matchChildren [p] (Document.ofText cs).sourceLines := by decide +kernel
  obtain ⟨-, pre, before, after, hplace, hbehind, -⟩ :=
    keyword_of_mem_matchChildren (List.Subset.refl _) hc (by decide) (by decide)
  exact ⟨hc, pre, before, after, hplace, hbehind⟩

/-- A line has an entry although its first identifier goes on behind the keyword, with a letter
beyond ASCII. And behind a keyword that ends with such a letter, a `?` does not count either. -/
theorem entry_of_longer_identifier :
    let trigger : ChildPattern := ⟨"trigger", none, none, false, none⟩
    let letter : ChildPattern := ⟨"é", none, none, false, none⟩
    matchChildren [trigger] (Document.ofString "triggeré :a").sourceLines =
        [⟨"trigger", none, none, ⟨1, 1⟩, false, none⟩] ∧
      matchChildren [letter] (Document.ofString "é?a").sourceLines =
        [⟨"é", none, none, ⟨1, 1⟩, false, none⟩] ∧
      isNameChar 'é' = true := by
  decide +kernel

end DslOutline
