import DslOutline.Proofs.Block.Comments
import DslOutline.Proofs.Outline.Append
import Mathlib.Data.List.Find

/-!
# Comments do not matter

What is extracted from a text is what is extracted from the text without its comments.

On each line there is first code and literals and then, it may be, a comment. Without it the line is
shorter and its mask has fewer spaces at the end (`CommentedLine`), so that the same lines start a
section (`sectionStarts_withoutComments`). The keywords of blocks are at the same positions, and a
block ends at the same one (`Document.blockEnd?_withoutComments`). An entry takes its values from
the rest of its line, up to the comment that a reading of this rest finds. This is the comment that
a reading of the whole text finds, because code comes right before (`CommentedLine.matchChild_eq`).

`findSections_withoutComments` puts this together. Only the end of a section that is not closed is
not the same: it is the end of a line, which may have had a comment.
-/

namespace DslOutline

open Text

/-! ### The marks of a document -/

/-- Marks with a byte order mark at the start taken for a literal, so that it is blanked too. -/
def blankFirstMark : List MarkedChar → List MarkedChar
  | [] => []
  | m :: ms => (if m = .code byteOrderMark then ⟨byteOrderMark, true, false⟩ else m) :: ms

/-- The marks from which the text of a document and its mask are made. -/
def documentMarks (cs : List Char) : List MarkedChar :=
  blankFirstMark (marks (lexemes cs))

theorem map_char_blankFirstMark (ms : List MarkedChar) :
    (blankFirstMark ms).map MarkedChar.char = ms.map MarkedChar.char := by
  cases ms with
  | nil => rfl
  | cons m ms =>
      rw [blankFirstMark]
      split_ifs with hm
      · rw [hm]
        rfl
      · rfl

theorem map_char_documentMarks (cs : List Char) :
    (documentMarks cs).map MarkedChar.char = cs := by
  rw [documentMarks, map_char_blankFirstMark, map_char_marks_lexemes]

/-- The marks of a document give its mask. -/
theorem flatMap_masked_documentMarks (cs : List Char) :
    (documentMarks cs).flatMap MarkedChar.masked = (Document.ofText cs).masked := by
  show _ = blankByteOrderMark (mask cs)
  rw [mask_eq_flatMap_masked, documentMarks]
  cases marks (lexemes cs) with
  | nil => rfl
  | cons m ms =>
      rw [blankFirstMark]
      split_ifs with hm
      · rw [hm]
        rfl
      · -- what is not code starts with a space or a line feed on the mask
        obtain ⟨d, ds, hd⟩ := List.exists_cons_of_ne_nil (masked_ne_nil m)
        have hmark : d ≠ byteOrderMark := by
          rintro rfl
          cases hcode : m.isCode with
          | true =>
              rw [MarkedChar.masked, if_pos hcode] at hd
              refine hm ?_
              rw [MarkedChar.eq_code_of_isCode hcode, (List.cons.inj hd).1]
          | false =>
              have hmem : byteOrderMark ∈ m.masked := by simp [hd]
              rcases mem_masked_of_not_isCode hcode hmem with h | h <;> cases h
        rw [List.flatMap_cons, hd, List.cons_append, blankByteOrderMark, if_neg hmark]

/-- Code of the document is code of the text, with the same marks after it. -/
theorem exists_marks_of_documentMarks {cs : List Char} {a b : List MarkedChar} {c : Char}
    (h : documentMarks cs = a ++ .code c :: b) :
    ∃ a', marks (lexemes cs) = a' ++ .code c :: b := by
  rw [documentMarks] at h
  cases hms : marks (lexemes cs) with
  | nil =>
      rw [hms] at h
      simp [blankFirstMark] at h
  | cons m ms =>
      rw [hms, blankFirstMark] at h
      cases a with
      | nil =>
          obtain ⟨hm, rfl⟩ := List.cons.inj h
          split_ifs at hm
          · cases hm
          · exact ⟨[], by rw [hm]; rfl⟩
      | cons k a => exact ⟨m :: a, congrArg (m :: ·) (List.cons.inj h).2⟩

/-- As far as comments are concerned, the marks of a document are those of its text. -/
theorem commentRuns_documentMarks (cs : List Char) : CommentRuns false (documentMarks cs) := by
  have hruns := commentRuns_lexemes cs
  rw [documentMarks]
  generalize marks (lexemes cs) = ms at hruns ⊢
  cases hruns with
  | nil => exact .nil false
  | other kept tail =>
      refine .other ?_ tail
      split_ifs
      · rfl
      · exact kept
  | hash tail => exact .hash tail

/-- The marks of a document without comments are what is left of the marks of the document. -/
theorem documentMarks_withoutComments (cs : List Char) :
    documentMarks (withoutComments cs) = uncommented (documentMarks cs) := by
  have hruns := commentRuns_lexemes cs
  rw [documentMarks, documentMarks, marks_lexemes_withoutComments]
  generalize marks (lexemes cs) = ms at hruns ⊢
  cases hruns with
  | nil => rfl
  | @other m ms kept tail =>
      rw [uncommented, List.filter_cons_of_pos (by simp [kept]), blankFirstMark, blankFirstMark,
        uncommented, List.filter_cons_of_pos]
      split_ifs
      · rfl
      · simp [kept]
  | @hash literal ms tail =>
      -- the comment goes up to a line feed, and this is no byte order mark
      have hsame : blankFirstMark (uncommented ms) = uncommented ms := by
        cases hms : uncommented ms with
        | nil => rfl
        | cons k ks =>
            have hk : k.char = '\n' := tail.head?_uncommented (by rw [hms]; rfl)
            refine congrArg (· :: ks) (if_neg ?_)
            rintro rfl
            cases hk
      exact hsame

/-! ### Lines -/

/-- What has neither carriage returns nor line feeds has no terminator to lose. -/
theorem trimTerminator_eq_self {cs : List Char} (hreturn : '\r' ∉ cs) (hfeed : '\n' ∉ cs) :
    trimTerminator cs = cs := by
  have := trimTerminator_append (fun h => hreturn (List.mem_of_getLast? h))
    (fun h => hfeed (List.mem_of_getLast? h)) []
  rwa [List.append_nil, show trimTerminator [] = [] from rfl, List.append_nil] at this

/-- A line feed is kept by the mask, in a comment and a literal, too. -/
theorem masked_of_newline {m : MarkedChar} (h : m.char = '\n') : m.masked = ['\n'] := by
  rw [MarkedChar.masked, h]
  split_ifs <;> rfl

/-- The mask holds spaces and what is in the text. -/
theorem mem_flatMap_masked {ms : List MarkedChar} {c : Char}
    (h : c ∈ ms.flatMap MarkedChar.masked) : c = ' ' ∨ c ∈ ms.map MarkedChar.char := by
  obtain ⟨m, hm, hc⟩ := List.mem_flatMap.mp h
  rw [MarkedChar.masked] at hc
  split_ifs at hc
  · exact Or.inr (List.mem_map.mpr ⟨m, hm, (List.mem_singleton.mp hc).symm⟩)
  · rcases mem_blankChar hc with ⟨rfl, hfeed⟩ | hspace
    · exact Or.inr (List.mem_map.mpr ⟨m, hm, hfeed⟩)
    · exact Or.inl hspace

/-- A comment leaves nothing but spaces on the mask. -/
theorem eq_space_of_mem_masked {ms : List MarkedChar} (hms : ∀ m ∈ ms, m.comment = true)
    (hfeed : '\n' ∉ ms.map MarkedChar.char) {c : Char} (h : c ∈ ms.flatMap MarkedChar.masked) :
    c = ' ' := by
  obtain ⟨m, hm, hc⟩ := List.mem_flatMap.mp h
  have hcode : m.isCode = false := by simp [MarkedChar.isCode, hms m hm]
  rw [MarkedChar.masked, if_neg (by simp [hcode])] at hc
  rcases mem_blankChar hc with ⟨-, hchar⟩ | hspace
  · exact absurd (List.mem_map.mpr ⟨m, hm, hchar⟩) hfeed
  · exact hspace

/-- Line `n` of some marks is `x`, in which nothing is a comment, and then the comment `y`. Before
it comes `pre`, and `rest` after it, the line feed included. -/
structure MarkedLine (ms : List MarkedChar) (n : Nat) (pre x y rest : List MarkedChar) :
    Prop where
  lineAt : LineAt (ms.map MarkedChar.char) n (pre.map MarkedChar.char)
    ((x ++ y).map MarkedChar.char) (rest.map MarkedChar.char)
  marks_eq : ms = pre ++ ((x ++ y) ++ rest)
  code : ∀ m ∈ x, m.comment = false
  comment : ∀ m ∈ y, m.comment = true

/-- Every line of a document has its marks: some that are no comment, and then those of a
comment. -/
theorem exists_markedLine {cs : List Char} {n : Nat} (h1 : 1 ≤ n)
    (hn : n ≤ (Document.ofText cs).lineCount) :
    ∃ pre x y rest, MarkedLine (documentMarks cs) n pre x y rest := by
  obtain ⟨pre, body, rest, hline⟩ := exists_lineAt h1 hn
  have hruns := commentRuns_documentMarks cs
  have hchars := (map_char_documentMarks cs).trans hline.text_eq
  obtain ⟨pre, tail, hms, rfl, htail⟩ := List.map_eq_append_iff.mp hchars
  obtain ⟨body, rest, rfl, rfl, rfl⟩ := List.map_eq_append_iff.mp htail
  -- a line feed is in front of the line, if anything, and so no comment is open
  have hopen : (pre.getLast?.map MarkedChar.comment).getD false = false := by
    rcases pre.eq_nil_or_concat with rfl | ⟨a, m, rfl⟩
    · rfl
    · have hfeed : m.char = '\n' := hline.whole m.char (by simp)
      have hm := hruns.comment_of_newline (m := m) (by simp [hms]) hfeed
      simpa using hm
  rw [hms] at hruns
  have htailRuns := hruns.of_append
  rw [hopen] at htailRuns
  obtain ⟨x, y, rfl, hx, hy⟩ := htailRuns.exists_line hline.noFeed
  refine ⟨pre, x, y, rest, ?_, hms, hx, hy⟩
  rw [map_char_documentMarks]
  exact hline

namespace MarkedLine

variable {cs : List Char} {n : Nat} {pre x y rest : List MarkedChar}

/-- Without the comments, the line is there, unless it is the last one and all of it was a
comment. -/
theorem withoutComments (h : MarkedLine (documentMarks cs) n pre x y rest)
    (hne : x ≠ [] ∨ rest ≠ []) :
    MarkedLine (documentMarks (withoutComments cs)) n (uncommented pre) x []
      (uncommented rest) := by
  have hruns := commentRuns_documentMarks cs
  have hfeeds : ∀ m ∈ documentMarks cs, m.char = '\n' → m.comment = false :=
    fun m hm => hruns.comment_of_newline hm
  have hpre : ∀ m ∈ pre, m.char = '\n' → m.comment = false := by
    intro m hm
    exact hfeeds m (by rw [h.marks_eq]; exact List.mem_append_left _ hm)
  have hmarks : documentMarks (DslOutline.withoutComments cs) =
      uncommented pre ++ ((x ++ []) ++ uncommented rest) := by
    rw [documentMarks_withoutComments, h.marks_eq, uncommented_append, uncommented_append,
      uncommented_append, uncommented_eq_self h.code, uncommented_eq_nil h.comment]
  refine ⟨⟨?_, (wholeLines_uncommented hpre h.lineAt.whole).1, ?_, ?_, ?_⟩, hmarks, h.code,
    by simp⟩
  · rw [hmarks, List.map_append, List.map_append]
  · rw [count_newline_uncommented hpre]
    exact h.lineAt.number
  · intro hmem
    refine h.lineAt.noFeed ?_
    rw [List.append_nil] at hmem
    rw [List.map_append]
    exact List.mem_append_left _ hmem
  · rcases h.lineAt.ended with hfeed | ⟨hnil, -⟩
    · left
      cases rest with
      | nil => cases hfeed
      | cons m rest =>
          have hc : m.char = '\n' := Option.some.inj hfeed
          have hm := hfeeds m (by rw [h.marks_eq]; simp) hc
          rw [uncommented, List.filter_cons_of_pos (by simp [hm])]
          exact hfeed
    · right
      have hrest : rest = [] := List.map_eq_nil_iff.mp hnil
      subst hrest
      exact ⟨rfl, by simpa using hne⟩

/-- A line without carriage returns has the characters of its marks. -/
theorem line_eq (h : MarkedLine (documentMarks cs) n pre x y rest) (hreturn : '\r' ∉ cs) :
    (Document.ofText cs).line n = (x ++ y).map MarkedChar.char := by
  have hline := h.lineAt.lineText
  rw [map_char_documentMarks] at hline
  refine hline.trans (trimTerminator_eq_self ?_ h.lineAt.noFeed)
  intro hmem
  refine hreturn ?_
  rw [← map_char_documentMarks cs, h.lineAt.text_eq]
  exact List.mem_append_right _ (List.mem_append_left _ hmem)

/-- A masked line is what the marks of the line give. -/
theorem maskedLine_eq (h : MarkedLine (documentMarks cs) n pre x y rest) (hreturn : '\r' ∉ cs) :
    (Document.ofText cs).maskedLine n = (x ++ y).flatMap MarkedChar.masked := by
  have hreturn' : '\r' ∉ (x ++ y).flatMap MarkedChar.masked := by
    intro hmem
    rcases mem_flatMap_masked hmem with hspace | hmem
    · cases hspace
    · refine hreturn ?_
      rw [← map_char_documentMarks cs, h.lineAt.text_eq]
      exact List.mem_append_right _ (List.mem_append_left _ hmem)
  have hfeed : '\n' ∉ (x ++ y).flatMap MarkedChar.masked := by
    intro hmem
    rcases mem_flatMap_masked hmem with hspace | hmem
    · cases hspace
    · exact h.lineAt.noFeed hmem
  have hstart := h.lineAt.lineStart
  have hend := h.lineAt.lineEnd
  rw [map_char_documentMarks, ← byteLength_flatMap_masked] at hstart
  rw [map_char_documentMarks, ← List.map_take, ← List.map_append, ← List.map_append,
    ← byteLength_flatMap_masked, List.flatMap_append] at hend
  have hmasked : (Document.ofText cs).masked = pre.flatMap MarkedChar.masked ++
      (((x ++ y) ++ rest.take 1).flatMap MarkedChar.masked ++
        (rest.drop 1).flatMap MarkedChar.masked) := by
    have hrest : (x ++ y) ++ rest = ((x ++ y) ++ rest.take 1) ++ rest.drop 1 := by
      rw [List.append_assoc (x ++ y), List.take_append_drop]
    rw [← flatMap_masked_documentMarks, h.marks_eq, List.flatMap_append, hrest,
      List.flatMap_append]
  have hslice : (Document.ofText cs).maskedLine n =
      trimTerminator (((x ++ y) ++ rest.take 1).flatMap MarkedChar.masked) := by
    rw [Document.maskedLine, LineIndex.lineText, hmasked]
    show trimTerminator (slice ((LineIndex.ofText cs).lineStart n)
      ((LineIndex.ofText cs).lineEnd n) _) = _
    rw [hstart, hend, slice_append]
  rw [hslice, List.flatMap_append]
  cases rest with
  | nil => simpa using trimTerminator_eq_self hreturn' hfeed
  | cons m rest =>
      have hm : m.char = '\n' := by
        rcases h.lineAt.ended with hhead | ⟨hnil, -⟩
        · exact Option.some.inj hhead
        · cases hnil
      rw [List.take_one, List.head?_cons, Option.toList_some, List.flatMap_singleton,
        masked_of_newline hm, trimTerminator_append_newline, trimTerminator_eq_self hreturn' hfeed]

/-- A reading from the middle of the line, right after code, sees what the whole reading sees on
it. -/
theorem marks_lex_after (h : MarkedLine (documentMarks cs) n pre x y rest) {u v : List MarkedChar}
    {k : Char} (hxy : x ++ y = u ++ .code k :: v) :
    marks (lex .start (some k) (v.map MarkedChar.char)) = v := by
  have hms : documentMarks cs = (pre ++ u) ++ .code k :: (v ++ rest) := by
    rw [h.marks_eq, hxy, List.append_assoc, List.append_assoc, List.cons_append]
  obtain ⟨a, hmarks⟩ := exists_marks_of_documentMarks hms
  have hread := marks_lex_of_code hmarks
  have hrest : (rest.map MarkedChar.char).head? = none ∨
      (rest.map MarkedChar.char).head? = some '\n' := by
    rcases h.lineAt.ended with hfeed | ⟨hnil, -⟩
    · exact Or.inr hfeed
    · exact Or.inl (by rw [hnil]; rfl)
  rw [marks_lex_take .start (some k) hrest, ← List.map_append, hread, List.length_map,
    List.take_left]

end MarkedLine

/-- No line is added when the comments are taken out. -/
theorem lineCount_withoutComments_le (cs : List Char) :
    (Document.ofText (withoutComments cs)).lineCount ≤ (Document.ofText cs).lineCount := by
  have hfeeds : ∀ m ∈ marks (lexemes cs), m.char = '\n' → m.comment = false :=
    fun m hm => (commentRuns_lexemes cs).comment_of_newline hm
  have hcount := count_newline_uncommented hfeeds
  rw [← withoutComments_eq, map_char_marks_lexemes] at hcount
  have hlast : cs.getLast? = some '\n' → (withoutComments cs).getLast? = some '\n' := by
    intro hcs
    have hwhole : WholeLines ((marks (lexemes cs)).map MarkedChar.char) := by
      rw [map_char_marks_lexemes]
      exact fun c hc => Option.some.inj (hc.symm.trans hcs)
    rw [withoutComments_eq, (wholeLines_uncommented hfeeds hwhole).2, map_char_marks_lexemes, hcs]
  have hnil : cs = [] → withoutComments cs = [] := by
    rintro rfl
    simp [withoutComments, lexemes, lex]
  show (LineIndex.ofText (withoutComments cs)).lineCount ≤ (LineIndex.ofText cs).lineCount
  rw [LineIndex.lineCount_eq, LineIndex.lineCount_eq, hcount]
  by_cases hempty : withoutComments cs = []
  · rw [if_pos hempty]
    exact Nat.zero_le _
  · rw [if_neg hempty, if_neg fun hcs => hempty (hnil hcs)]
    by_cases hends : cs.getLast? = some '\n'
    · rw [if_pos hends, if_pos (hlast hends)]
    · rw [if_neg hends]
      split_ifs <;> omega

/-- The lines of a text without its comments are the lines of the text, up to their comments. -/
theorem exists_markedLines {cs : List Char} {n : Nat} (h1 : 1 ≤ n)
    (hn : n ≤ (Document.ofText (withoutComments cs)).lineCount) :
    ∃ pre x y rest, MarkedLine (documentMarks cs) n pre x y rest ∧
      MarkedLine (documentMarks (withoutComments cs)) n (uncommented pre) x []
        (uncommented rest) := by
  obtain ⟨pre, x, y, rest, hline⟩ :=
    exists_markedLine h1 (Nat.le_trans hn (lineCount_withoutComments_le cs))
  refine ⟨pre, x, y, rest, hline, hline.withoutComments ?_⟩
  by_contra hnil
  obtain ⟨rfl, rfl⟩ : x = [] ∧ rest = [] := by simpa using hnil
  -- otherwise the lines before this one are all that is left
  have hfeeds : ∀ m ∈ pre, m.char = '\n' → m.comment = false := by
    intro m hm
    refine (commentRuns_documentMarks cs).comment_of_newline ?_
    rw [hline.marks_eq]
    exact List.mem_append_left _ hm
  have hleft : withoutComments cs = (uncommented pre).map MarkedChar.char := by
    rw [← map_char_documentMarks (withoutComments cs), documentMarks_withoutComments,
      hline.marks_eq, uncommented_append, List.nil_append, List.append_nil,
      uncommented_eq_nil hline.comment, List.append_nil]
  have hcount : (Document.ofText (withoutComments cs)).lineCount =
      (pre.map MarkedChar.char).count '\n' := by
    rw [← count_newline_uncommented hfeeds, hleft]
    exact LineIndex.lineCount_wholeLines (wholeLines_uncommented hfeeds hline.lineAt.whole).1
  have hnumber := hline.lineAt.number
  omega

/-- A line that is gone without the comments was a comment. -/
theorem trim_maskedLine_of_lt {cs : List Char} (hreturn : '\r' ∉ cs) {n : Nat}
    (hlt : (Document.ofText (withoutComments cs)).lineCount < n)
    (hn : n ≤ (Document.ofText cs).lineCount) : trim ((Document.ofText cs).maskedLine n) = [] := by
  obtain ⟨pre, x, y, rest, hline⟩ := exists_markedLine (by omega) hn
  have hnil : x = [] := by
    by_contra hne
    have hcount := (hline.withoutComments (Or.inl hne)).lineAt.le_lineCount
    rw [map_char_documentMarks] at hcount
    exact absurd hcount (Nat.not_le.mpr hlt)
  subst hnil
  have hblank : ∀ c ∈ y.flatMap MarkedChar.masked, isBlank c = true := by
    intro c hc
    rw [eq_space_of_mem_masked hline.comment hline.lineAt.noFeed hc]
    rfl
  rw [hline.maskedLine_eq hreturn]
  exact trim_append_of_blank [] hblank

/-- Line `n` of a text is `x`, in which nothing is a comment, and then the comment `y`; without the
comments it is `x`. -/
structure CommentedLine (cs : List Char) (n : Nat) (x y : List MarkedChar) : Prop where
  code : ∀ m ∈ x, m.comment = false
  comment : ∀ m ∈ y, m.comment = true
  noFeed : '\n' ∉ y.map MarkedChar.char
  sourceLine_eq : (Document.ofText cs).sourceLine n =
    ⟨n, (x ++ y).map MarkedChar.char, (x ++ y).flatMap MarkedChar.masked⟩
  sourceLine_withoutComments : (Document.ofText (withoutComments cs)).sourceLine n =
    ⟨n, x.map MarkedChar.char, x.flatMap MarkedChar.masked⟩
  read : ∀ {u v : List MarkedChar} {k : Char}, x ++ y = u ++ .code k :: v →
    marks (lex .start (some k) (v.map MarkedChar.char)) = v
  read_withoutComments : ∀ {u v : List MarkedChar} {k : Char}, x = u ++ .code k :: v →
    marks (lex .start (some k) (v.map MarkedChar.char)) = v

/-- Taking out comments adds no carriage return. -/
theorem return_not_mem_withoutComments {cs : List Char} (h : '\r' ∉ cs) :
    '\r' ∉ withoutComments cs := by
  intro hmem
  rw [withoutComments_eq] at hmem
  obtain ⟨m, hm, hc⟩ := List.mem_map.mp hmem
  refine h ?_
  rw [← map_char_marks_lexemes cs]
  exact List.mem_map.mpr ⟨m, (List.mem_filter.mp hm).1, hc⟩

/-- Every line of the text without comments comes from a line of the text, with a comment at its end
or none. -/
theorem exists_commentedLine {cs : List Char} (hreturn : '\r' ∉ cs) {n : Nat} (h1 : 1 ≤ n)
    (hn : n ≤ (Document.ofText (withoutComments cs)).lineCount) :
    ∃ x y, CommentedLine cs n x y := by
  obtain ⟨pre, x, y, rest, hline, hline'⟩ := exists_markedLines h1 hn
  have hreturn' := return_not_mem_withoutComments hreturn
  refine ⟨x, y, hline.code, hline.comment, ?_, ?_, ?_, hline.marks_lex_after, ?_⟩
  · intro hmem
    refine hline.lineAt.noFeed ?_
    rw [List.map_append]
    exact List.mem_append_right _ hmem
  · rw [Document.sourceLine, hline.line_eq hreturn, hline.maskedLine_eq hreturn]
  · rw [Document.sourceLine, hline'.line_eq hreturn', hline'.maskedLine_eq hreturn',
      List.append_nil]
  · intro u v k hx
    exact hline'.marks_lex_after ((List.append_nil x).trans hx)

namespace CommentedLine

variable {cs : List Char} {n : Nat} {x y : List MarkedChar}

/-- The masked line, with its comment blanked. -/
theorem maskedLine_eq (h : CommentedLine cs n x y) :
    (Document.ofText cs).maskedLine n =
      x.flatMap MarkedChar.masked ++ y.flatMap MarkedChar.masked := by
  rw [← List.flatMap_append]
  exact congrArg SourceLine.masked h.sourceLine_eq

/-- Without comments the masked line is what stands in front of the comment. -/
theorem maskedLine_withoutComments (h : CommentedLine cs n x y) :
    (Document.ofText (withoutComments cs)).maskedLine n = x.flatMap MarkedChar.masked :=
  congrArg SourceLine.masked h.sourceLine_withoutComments

/-- A comment on a line is blank on the mask. -/
theorem isBlank_of_mem (h : CommentedLine cs n x y) :
    ∀ c ∈ y.flatMap MarkedChar.masked, isBlank c = true := by
  intro c hc
  rw [eq_space_of_mem_masked h.comment h.noFeed hc]
  rfl

/-- The mask of the line has more white space at the end, or none. -/
theorem trim_maskedLine (h : CommentedLine cs n x y) :
    trim ((Document.ofText (withoutComments cs)).maskedLine n) =
      trim ((Document.ofText cs).maskedLine n) := by
  rw [h.maskedLine_eq, h.maskedLine_withoutComments, trim_append_of_blank _ h.isBlank_of_mem]

end CommentedLine

/-- **The same lines start a section without the comments.** -/
theorem sectionStarts_withoutComments {cs : List Char} (hreturn : '\r' ∉ cs)
    (specs : List SectionSpec) :
    sectionStarts (.ofText (withoutComments cs)) specs = sectionStarts (.ofText cs) specs := by
  obtain ⟨k, hk⟩ := Nat.exists_eq_add_of_le (lineCount_withoutComments_le cs)
  have hgone : (List.range' (1 + (Document.ofText (withoutComments cs)).lineCount) k).filterMap
      (sectionStart? (.ofText cs) specs) = [] := by
    rw [List.filterMap_eq_nil_iff]
    intro n hn
    rw [List.mem_range'_1] at hn
    have hempty : ∀ name : List Char, isSectionStart name [] = false := by
      intro name
      cases name <;> rfl
    rw [sectionStart?, trim_maskedLine_of_lt hreturn (by omega) (by omega)]
    simp [hempty]
  rw [sectionStarts, sectionStarts, hk, ← List.range'_append_1, List.filterMap_append, hgone,
    List.append_nil]
  refine List.filterMap_congr ?_
  intro n hn
  rw [List.mem_range'_1] at hn
  obtain ⟨x, y, hline⟩ := exists_commentedLine hreturn hn.1 (by omega)
  rw [sectionStart?, sectionStart?, hline.trim_maskedLine]

/-! ### Entries -/

/-- What is in front of the first word of a line is in front of its comment. -/
theorem exists_takeBytes_indentation {x : List MarkedChar}
    (h : trimStart (x.flatMap MarkedChar.masked) ≠ []) :
    ∃ a : List Char, ∀ y : List MarkedChar,
      takeBytes (byteLength ((x.flatMap MarkedChar.masked).takeWhile isBlank))
        ((x ++ y).map MarkedChar.char) = a := by
  obtain ⟨c, more, hmore⟩ := List.exists_cons_of_ne_nil h
  have hc : isBlank c = false := by
    have hnot := List.head?_dropWhile_not isBlank (x.flatMap MarkedChar.masked)
    rw [← trimStart, hmore] at hnot
    exact hnot
  have hmasked := (takeWhile_append_trimStart (x.flatMap MarkedChar.masked)).symm
  rw [hmore] at hmasked
  obtain ⟨a, b, hx, ha, -⟩ := exists_split_of_masked (by rintro rfl; cases hc)
    (by rintro rfl; cases hc) hmasked
  refine ⟨a.map MarkedChar.char, ?_⟩
  intro y
  rw [← ha, byteLength_flatMap_masked, hx, List.append_assoc, List.map_append, takeBytes_append]

/-- White space behind a line does not keep a keyword from starting it, nor make one start it. -/
theorem startsWithKeyword_append {k line spaces : List Char} {c : Char} (hc : isBlank c = false)
    (hspaces : ∀ d ∈ spaces, d = ' ') :
    startsWithKeyword (k ++ [c]) (line ++ spaces) = startsWithKeyword (k ++ [c]) line := by
  have hhead : ∀ a : List Char, ((a ++ spaces).head?.all fun d => !isIdentChar d && d != ':') =
      a.head?.all fun d => !isIdentChar d && d != ':' := by
    intro a
    cases a with
    | nil =>
        cases spaces with
        | nil => rfl
        | cons d spaces =>
            have hspace : isIdentChar ' ' = false := by decide
            simp [hspaces d List.mem_cons_self, hspace]
    | cons d a => rfl
  rw [Bool.eq_iff_iff, startsWithKeyword_iff, startsWithKeyword_iff]
  constructor
  · rintro ⟨rest, hrest, hall⟩
    rcases List.append_eq_append_iff.mp hrest with ⟨a, hword, hsplit⟩ | ⟨a, hline, rfl⟩
    · rcases a.eq_nil_or_concat with rfl | ⟨a, d, rfl⟩
      · exact ⟨[], by rw [hword, List.append_nil, List.append_nil], rfl⟩
      · -- the last character of the keyword would be one of the spaces
        rw [List.concat_eq_append] at hword hsplit
        have hlast := congrArg List.getLast? hword
        rw [← List.append_assoc, List.getLast?_concat, List.getLast?_concat] at hlast
        have hd := hspaces d (by simp [hsplit])
        rw [Option.some.inj hlast, hd] at hc
        cases hc
    · exact ⟨a, hline, by rwa [hhead] at hall⟩
  · rintro ⟨a, rfl, hall⟩
    exact ⟨a ++ spaces, List.append_assoc _ _ _, by rwa [hhead]⟩

/-- Spaces at the end of a line make no difference to which keyword starts it. -/
theorem find?_startsWithKeyword_append {patterns : List ChildPattern}
    (hpatterns : ∀ p ∈ patterns, p.IsTrimmed) (line : List Char) {spaces : List Char}
    (hspaces : ∀ d ∈ spaces, d = ' ') :
    patterns.find? (fun p => startsWithKeyword p.keyword.toList (line ++ spaces)) =
      patterns.find? fun p => startsWithKeyword p.keyword.toList line := by
  refine List.find?_congr ?_
  intro p hp
  obtain ⟨k, c, hk, hc⟩ := hpatterns p hp
  rw [hk, startsWithKeyword_append hc hspaces]

/-- Behind a keyword, a reading that does not know of the keyword sees what the whole reading
sees. -/
theorem marks_lexemes_behind_keyword {b y : List MarkedChar} {c : Char}
    (hread : marks (lex .start (some c) ((b ++ y).map MarkedChar.char)) = b ++ y)
    (hy : ∀ m ∈ y, m.comment = true)
    (hafter : ((b.flatMap MarkedChar.masked).head?.all fun d => !isIdentChar d && d != ':') =
      true) :
    marks (lexemes ((b ++ y).map MarkedChar.char)) = b ++ y := by
  have hquestion : ((b ++ y).map MarkedChar.char).head? = some '?' →
      (none : Option Char).any isIdentChar = (some c).any isIdentChar := by
    intro hhead
    show false = isIdentChar c
    by_contra hident
    -- the `?` would be code behind an identifier, and the keyword would not end there
    cases htail : b ++ y with
    | nil =>
        rw [htail] at hhead
        cases hhead
    | cons m ms =>
        have hm : m.char = '?' := by simpa [htail] using hhead
        rw [htail, List.map_cons, hm, marks_lex_question (by simpa using Ne.symm hident)] at hread
        have hcode : .code '?' = m := (List.cons.inj hread).1
        subst hcode
        cases b with
        | nil =>
            have := hy (.code '?') (by rw [← List.nil_append y, htail]; exact List.mem_cons_self)
            cases this
        | cons e b =>
            obtain ⟨rfl, -⟩ := List.cons.inj htail
            cases hafter
  rw [lexemes, lex_congr_before .start hquestion, hread]

/-- What an entry takes its values from: the rest of the line behind its keyword, up to the
comment. -/
theorem exists_withoutComment_eq {x : List MarkedChar} (hx : ∀ m ∈ x, m.comment = false)
    {k : List Char} {c : Char} (hc : isBlank c = false)
    (hkeyword : startsWithKeyword (k ++ [c]) (trimStart (x.flatMap MarkedChar.masked)) = true) :
    ∃ v : List Char, ∀ y : List MarkedChar, (∀ m ∈ y, m.comment = true) →
      (∀ {u w : List MarkedChar} {e : Char}, x ++ y = u ++ .code e :: w →
        marks (lex .start (some e) (w.map MarkedChar.char)) = w) →
      withoutComment (dropBytes (byteLength ((x.flatMap MarkedChar.masked).takeWhile isBlank) +
        byteLength (k ++ [c])) ((x ++ y).map MarkedChar.char)) = v := by
  obtain ⟨more, hmore, hafter⟩ := startsWithKeyword_iff.mp hkeyword
  have hmasked := (takeWhile_append_trimStart (x.flatMap MarkedChar.masked)).symm
  rw [hmore, List.append_assoc, ← List.append_assoc, List.singleton_append] at hmasked
  obtain ⟨a, b, rfl, ha, hb⟩ := exists_split_of_masked (by rintro rfl; cases hc)
    (by rintro rfl; cases hc) hmasked
  refine ⟨b.map MarkedChar.char, ?_⟩
  intro y hy hread
  have hlexemes := marks_lexemes_behind_keyword (hread (u := a) (w := b ++ y) (e := c) (by simp)) hy
    (hb ▸ hafter)
  have hlength : byteLength (((a ++ .code c :: b).flatMap MarkedChar.masked).takeWhile isBlank) +
      byteLength (k ++ [c]) = byteLength ((a ++ [MarkedChar.code c]).map MarkedChar.char) := by
    have hlen := congrArg byteLength ha
    rw [byteLength_flatMap_masked, byteLength_append] at hlen
    rw [List.map_append, byteLength_append, byteLength_append, hlen, Nat.add_assoc]
    rfl
  have hsplit : ((a ++ MarkedChar.code c :: b) ++ y).map MarkedChar.char =
      (a ++ [MarkedChar.code c]).map MarkedChar.char ++ (b ++ y).map MarkedChar.char := by
    simp
  rw [hlength, hsplit, dropBytes_append]
  exact withoutComment_of_marks hlexemes (fun m hm => hx m (by simp [hm])) hy

namespace CommentedLine

variable {cs : List Char} {n : Nat} {x y : List MarkedChar}

/-- An entry is the same without the comment on its line. -/
theorem matchChild_eq (h : CommentedLine cs n x y) {patterns : List ChildPattern}
    (hpatterns : ∀ p ∈ patterns, p.IsTrimmed) :
    matchChild patterns ((Document.ofText (withoutComments cs)).sourceLine n) =
      matchChild patterns ((Document.ofText cs).sourceLine n) := by
  rw [h.sourceLine_eq, h.sourceLine_withoutComments]
  simp only [matchChild, List.flatMap_append]
  by_cases hnil : trimStart (x.flatMap MarkedChar.masked) = []
  · have hnone := trimStart_append_of_blank hnil h.isBlank_of_mem
    rw [hnil, hnone, if_pos List.isEmpty_nil, if_pos List.isEmpty_nil]
  · obtain ⟨hcode, hblanks⟩ := trimStart_append hnil (y.flatMap MarkedChar.masked)
    have hfind := find?_startsWithKeyword_append hpatterns
      (trimStart (x.flatMap MarkedChar.masked))
      fun c hc => eq_space_of_mem_masked h.comment h.noFeed hc
    rw [hcode, hblanks, hfind, if_neg (by simpa using hnil), if_neg (by simp [hnil])]
    cases hp : patterns.find? fun p => startsWithKeyword p.keyword.toList
        (trimStart (x.flatMap MarkedChar.masked)) with
    | none => rfl
    | some p =>
        obtain ⟨k, c, hk, hc⟩ := hpatterns p (List.mem_of_find?_eq_some hp)
        have hkeyword := List.find?_some hp
        rw [hk] at hkeyword
        obtain ⟨v, hv⟩ := exists_withoutComment_eq h.code hc hkeyword
        obtain ⟨a, ha⟩ := exists_takeBytes_indentation hnil
        have hv' := hv [] (by simp) (by rw [List.append_nil]; exact h.read_withoutComments)
        have ha' := ha []
        rw [List.append_nil] at hv' ha'
        rw [Option.map_some, Option.map_some]
        simp only [ChildPattern.child, hk, hv', hv y h.comment h.read, ha', ha y]

/-- The first word of a line is at the same position without the comments. -/
theorem firstNonBlank_eq (h : CommentedLine cs n x y)
    (hn : n ≤ (Document.ofText (withoutComments cs)).lineCount)
    (hcode : (Document.ofText cs).IsCodeLine n) :
    (Document.ofText (withoutComments cs)).firstNonBlank n =
      (Document.ofText cs).firstNonBlank n := by
  have hline : (Document.ofText cs).line n = (x ++ y).map MarkedChar.char :=
    congrArg SourceLine.text h.sourceLine_eq
  have hline' : (Document.ofText (withoutComments cs)).line n = x.map MarkedChar.char :=
    congrArg SourceLine.text h.sourceLine_withoutComments
  have hne : trimStart (x.flatMap MarkedChar.masked) ≠ [] := by
    intro hnil
    refine hcode.trimStart_ne_nil ?_
    rw [h.maskedLine_eq]
    exact trimStart_append_of_blank hnil h.isBlank_of_mem
  have hcode' : (Document.ofText (withoutComments cs)).IsCodeLine n :=
    ⟨hcode.one_le, hn, by rw [h.maskedLine_withoutComments]; exact hne⟩
  obtain ⟨a, ha⟩ := exists_takeBytes_indentation hne
  have ha' := ha []
  rw [List.append_nil] at ha'
  rw [hcode.firstNonBlank_eq, hcode'.firstNonBlank_eq, Document.indentation, Document.indentation,
    h.maskedLine_eq, h.maskedLine_withoutComments, (trimStart_append hne _).2, hline, hline', ha',
    ha]

end CommentedLine

/-! ### Blocks -/

/-- The text up to the end of a keyword is not empty and does not end with a line feed. -/
theorem exists_stop_of_mem_codeTokensFrom {cs : List Char} {start : Nat} {t : PlacedToken}
    (ht : t ∈ codeTokensFrom cs start) :
    ∃ p q, cs = p ++ q ∧ t.stop = byteLength p ∧ p ≠ [] ∧ p.getLast? ≠ some '\n' := by
  obtain ⟨p, q, hcs, hp, -⟩ := exists_of_mem_codeTokensFrom ht
  refine ⟨p ++ t.token.word, q, by rw [List.append_assoc, hcs], ?_, ?_, ?_⟩
  · rw [PlacedToken.stop, ← hp, byteLength_append, BlockToken.byteLength_word]
  · cases t.token <;> simp [BlockToken.word]
  · cases t.token <;> simp [BlockToken.word]

namespace Document

/-- The search between two lines is for keywords whose position is on the last one or before. -/
theorem blockEnd?_eq_filter {cs : List Char} {last : Nat} (h1 : 1 ≤ last)
    (hlast : last ≤ (ofText cs).lineCount) (first : Nat) :
    (ofText cs).blockEnd? first last =
      (endOfFirstBlock 0 ((codeTokensFrom cs ((ofText cs).lineStart first)).filter fun t =>
        (t.place cs).2.line ≤ last)).map (ofText cs).position := by
  obtain ⟨pre, body, rest, hline⟩ := exists_lineAt h1 hlast
  rw [blockEnd?, blockEndWithin, takeWhile_stop_le]
  refine congrArg (fun ts => (endOfFirstBlock 0 ts).map (ofText cs).position) ?_
  refine List.filter_congr ?_
  intro t ht
  change t ∈ codeTokensFrom cs _ at ht
  obtain ⟨p, q, hsplit, hstop, -, hfeed⟩ := exists_stop_of_mem_codeTokensFrom ht
  have hlimit := stop_le_of_mem_codeTokensFrom ht
  rw [decide_eq_decide, PlacedToken.place, hstop]
  rw [hstop] at hlimit
  constructor
  · intro hle
    exact hline.position_line_le hsplit hfeed (Nat.le_trans hle (Nat.min_le_left _ _))
  · intro hle
    exact Nat.le_min.mpr ⟨hline.le_lineEnd hsplit hle, hlimit⟩

/-- A keyword stands on a line of the text. -/
theorem place_line_le_lineCount {cs : List Char} {start : Nat} {t : PlacedToken}
    (ht : t ∈ codeTokensFrom cs start) : (t.place cs).2.line ≤ (ofText cs).lineCount := by
  obtain ⟨p, q, hsplit, hstop, hne, hfeed⟩ := exists_stop_of_mem_codeTokensFrom ht
  have hline := LineIndex.position_line_le_lineCount hne hfeed q
  rw [← hsplit, ← hstop] at hline
  exact hline

/-- A block ends at the same position without the comments. -/
theorem blockEnd?_withoutComments {cs : List Char} {first last last' : Nat} (h1 : 1 ≤ first)
    (hle : first ≤ last) (hlast : last ≤ (ofText cs).lineCount) (hle' : first ≤ last')
    (hlast' : last' ≤ (ofText (withoutComments cs)).lineCount)
    (hreach : ∀ n ≤ (ofText (withoutComments cs)).lineCount, n ≤ last' ↔ n ≤ last)
    (hclosed : ¬ OpenAt cs ((ofText cs).lineStart first)) :
    (ofText (withoutComments cs)).blockEnd? first last' = (ofText cs).blockEnd? first last := by
  obtain ⟨pre, body, rest, hline⟩ := exists_lineAt h1 (Nat.le_trans hle hlast)
  have hstart : (ofText cs).lineStart first = byteLength pre := hline.lineStart
  have hcs := hline.text_eq
  rw [hstart, hcs] at hclosed
  obtain ⟨pre', q', hsplit, hwhole, hcount, hplaces⟩ :=
    map_place_codeTokensFrom hline.whole hclosed
  rw [← hcs] at hsplit hplaces
  have hstart' : (ofText (withoutComments cs)).lineStart first = byteLength pre' := by
    have := LineIndex.lineStart_wholeLines hwhole q'
    rw [hcount, ← hline.number, ← hsplit] at this
    exact this
  rw [← hsplit, ← hstart, ← hstart'] at hplaces
  rw [blockEnd?_eq_filter (Nat.le_trans h1 hle) hlast,
    blockEnd?_eq_filter (Nat.le_trans h1 hle') hlast']
  refine endOfFirstBlock_congr ?_ 0
  have hlimit : (codeTokensFrom (withoutComments cs)
      ((ofText (withoutComments cs)).lineStart first)).filter (fun t =>
        decide ((t.place (withoutComments cs)).2.line ≤ last')) =
      (codeTokensFrom (withoutComments cs) ((ofText (withoutComments cs)).lineStart first)).filter
        fun t => decide ((t.place (withoutComments cs)).2.line ≤ last) := by
    refine List.filter_congr ?_
    intro t ht
    rw [decide_eq_decide]
    exact hreach _ (place_line_le_lineCount ht)
  rw [hlimit]
  have hfilter := congrArg (List.filter fun k => decide (k.2.line ≤ last)) hplaces
  rw [List.filter_map, List.filter_map] at hfilter
  exact hfilter

end Document

/-! ### Sections -/

/-- Two sections agree, up to the end of a section that is not closed. -/
structure Section.Agrees (s t : Section) : Prop where
  name : s.name = t.name
  start : s.start = t.start
  children : s.children = t.children
  closed : s.closed = t.closed
  stop : s.closed = true → s.stop = t.stop

/-- A section read with its comments agrees with the one that is read without them. -/
theorem SectionStart.toSection_withoutComments {cs : List Char} (hreturn : '\r' ∉ cs)
    {s : SectionStart} (hs : (Document.ofText cs).IsCodeLine s.line)
    (hclosed : ¬ OpenAt cs ((Document.ofText cs).lineStart s.line))
    (hpatterns : ∀ p ∈ s.spec.patterns, p.IsTrimmed) {last last' : Nat} (hle : s.line ≤ last)
    (hlast : last ≤ (Document.ofText cs).lineCount) (hle' : s.line ≤ last')
    (hlast' : last' ≤ (Document.ofText (withoutComments cs)).lineCount)
    (hreach : ∀ n ≤ (Document.ofText (withoutComments cs)).lineCount, n ≤ last' ↔ n ≤ last) :
    (s.toSection (.ofText cs) last).Agrees (s.toSection (.ofText (withoutComments cs)) last') := by
  have hstop := Document.blockEnd?_withoutComments hs.one_le hle hlast hle' hlast' hreach hclosed
  obtain ⟨x, y, hline⟩ := exists_commentedLine hreturn hs.one_le (Nat.le_trans hle' hlast')
  have hstart := hline.firstNonBlank_eq (Nat.le_trans hle' hlast') hs
  unfold SectionStart.toSection
  cases hend : (Document.ofText cs).blockEnd? s.line last with
  | none =>
      rw [hend] at hstop
      simp only [hstop, hstart]
      exact ⟨rfl, rfl, rfl, rfl, fun h => by cases h⟩
  | some stop =>
      rw [hend] at hstop
      have hbound := (Document.line_of_blockEnd? hs.one_le hle' hlast' hstop).2
      have hbody : matchChildren s.spec.patterns
          ((Document.ofText cs).linesBetween (s.line + 1) stop.line) =
          matchChildren s.spec.patterns
            ((Document.ofText (withoutComments cs)).linesBetween (s.line + 1) stop.line) := by
        rw [matchChildren, matchChildren, Document.linesBetween, Document.linesBetween,
          List.filterMap_map, List.filterMap_map]
        refine List.filterMap_congr ?_
        intro n hn
        rw [List.mem_range'_1] at hn
        obtain ⟨x, y, hline⟩ := exists_commentedLine hreturn (n := n) (by omega) (by omega)
        exact (hline.matchChild_eq hpatterns).symm
      simp only [hstop, hstart, hbody]
      exact ⟨rfl, rfl, rfl, rfl, fun _ => rfl⟩

/-- Sections with the same starts in two documents are related if each one is to its counterpart. -/
theorem forall₂_sectionsFrom {R : Section → Section → Prop} {d d' : Document}
    {starts : List SectionStart}
    (h : ∀ (i : Nat) (s : SectionStart), starts[i]? = some s →
      R (s.toSection d (lastLine d starts i)) (s.toSection d' (lastLine d' starts i))) :
    List.Forall₂ R (sectionsFrom d starts) (sectionsFrom d' starts) := by
  fun_induction sectionsFrom d starts with
  | case1 => exact .nil
  | case2 s => exact .cons (h 0 s rfl) .nil
  | case3 s t rest ih => exact .cons (h 0 s rfl) (ih fun i u hu => h (i + 1) u hu)

/-- Without the comments, a section may extend to the same line, or both may extend to the end. -/
theorem le_lastLine_withoutComments (cs : List Char) (starts : List SectionStart) (i : Nat)
    {n : Nat} (hn : n ≤ (Document.ofText (withoutComments cs)).lineCount) :
    n ≤ lastLine (.ofText (withoutComments cs)) starts i ↔ n ≤ lastLine (.ofText cs) starts i := by
  rw [lastLine, lastLine]
  cases starts[i + 1]? with
  | none => exact iff_of_true hn (Nat.le_trans hn (lineCount_withoutComments_le cs))
  | some next => rfl

/-- The keywords of the sections to look for are trimmed. -/
theorem isTrimmed_of_mem_sectionSpecs {schemas : List Schema}
    (hschemas : ∀ schema ∈ schemas, ∃ d, Schema.compile d = .ok schema) {spec : SectionSpec}
    (hspec : spec ∈ sectionSpecs schemas) : ∀ p ∈ spec.patterns, p.IsTrimmed := by
  intro p hp
  obtain ⟨schema, hschema, sec, hsec, hpsec⟩ :=
    (exists_mem_sectionSpecs_patterns schemas p).mp ⟨spec, hspec, hp⟩
  obtain ⟨d, hd⟩ := hschemas schema hschema
  exact Schema.isTrimmed_of_compile hd sec hsec p hpsec

/-- **Comments do not matter.** The sections of a text are the sections of the text without its
comments, up to the ends of those that are not closed. -/
theorem findSections_withoutComments {schemas : List Schema}
    (hschemas : ∀ schema ∈ schemas, ∃ d, Schema.compile d = .ok schema) {cs : List Char}
    (hreturn : '\r' ∉ cs)
    (hclosed : ∀ s ∈ sectionStarts (.ofText cs) (sectionSpecs schemas),
      ¬ OpenAt cs ((Document.ofText cs).lineStart s.line)) :
    List.Forall₂ Section.Agrees (findSections (.ofText cs) (sectionSpecs schemas))
      (findSections (.ofText (withoutComments cs)) (sectionSpecs schemas)) := by
  have hstarts := sectionStarts_withoutComments hreturn (sectionSpecs schemas)
  rw [findSections, findSections, hstarts]
  refine forall₂_sectionsFrom ?_
  intro i s hs
  have hmem := List.mem_of_getElem? hs
  obtain ⟨hle, hlast⟩ := lastLine_bounds hs
  rw [← hstarts] at hs
  obtain ⟨hle', hlast'⟩ := lastLine_bounds hs
  rw [hstarts] at hle' hlast'
  have hspec := (of_mem_sectionStarts hmem).2.2.1
  exact SectionStart.toSection_withoutComments hreturn (isCodeLine_of_mem_sectionStarts hmem)
    (hclosed s hmem) (isTrimmed_of_mem_sectionSpecs hschemas hspec) hle hlast hle' hlast'
    fun n hn => le_lastLine_withoutComments cs _ i hn

/-- The comments hold quotes, keywords of blocks, an entry and a brace; the one in the interpolation
starts inside a literal. The last section is not closed, and it ends where its line ends. -/
theorem findSections_withoutComments_unclosed :
    let definition : SchemaDef :=
      ⟨"A", "A", [⟨"things", none, [{ keyword := " x", namePattern := some "(a|b)" }]⟩]⟩
    let schema : Schema :=
      ⟨"A", "A", [⟨"things", none, [⟨"x", Pattern.compile? "(a|b)", none, false, none⟩]⟩]⟩
    let specs := sectionSpecs [schema]
    let cs := ("# \"\nthings do # \"\n x ?#a # b end\n x \"#\x7bb # \x7d\n\x7d\" # do\n" ++
      "end # end\nthings do # x").toList
    let cs' := "\nthings do \n x ?#a \n x \"#\x7bb \n\x7d\" \nend \nthings do ".toList
    Schema.compile definition = .ok schema ∧ '\r' ∉ cs ∧
      (∀ s ∈ sectionStarts (.ofText cs) specs,
        ¬ OpenAt cs ((Document.ofText cs).lineStart s.line)) ∧
      withoutComments cs = cs' ∧
      List.Forall₂ Section.Agrees (findSections (.ofText cs) specs)
        (findSections (.ofText cs') specs) ∧
      (findSections (.ofText cs) specs).map Section.stop = [⟨6, 4⟩, ⟨7, 14⟩] ∧
      (findSections (.ofText cs') specs).map Section.stop = [⟨6, 4⟩, ⟨7, 11⟩] := by
  intro definition schema specs cs cs'
  have hschema : Schema.compile definition = .ok schema := by decide +kernel
  have hreturn : '\r' ∉ cs := by decide +kernel
  have hclosed : ∀ s ∈ sectionStarts (.ofText cs) specs,
      ¬ OpenAt cs ((Document.ofText cs).lineStart s.line) := by decide +kernel
  have hcs : withoutComments cs = cs' := by decide +kernel
  have hschemas : ∀ s ∈ [schema], ∃ d, Schema.compile d = .ok s := by
    intro s hs
    rw [List.mem_singleton.mp hs]
    exact ⟨definition, hschema⟩
  have hagrees := findSections_withoutComments hschemas hreturn hclosed
  rw [hcs] at hagrees
  refine ⟨hschema, hreturn, hclosed, hcs, hagrees, ?_, ?_⟩ <;> decide +kernel

end DslOutline
