import DslOutline.Proofs.Outline.Positions
import DslOutline.Proofs.Schema.Compiled
import DslOutline.Proofs.Text.Checked

/-!
# Reading a document never fails

`Checked.outline` reads a document as `outline` does, but every cut, every difference and every
position on the way is one that can fail. Offsets that are measured on the mask are used on the text
as written, where a character may be wider and a line shorter, so that they fit is not a matter of
course. `outline_never_fails` says that they always do: with schemas that were compiled, the checked
reader has an answer for every text, and it is the answer of `outline`.

The argument is the same for all the cuts: what is found on a masked line is not blank, so it stands
in the text at the same distance from the start of the line (`Document.exists_line_of_maskedLine`).
-/

namespace DslOutline

open Text

namespace Checked

/-! ### Steps that all succeed -/

/-- A checked map gives a result if each of its steps does. -/
theorem mapM_eq {α β : Type} {f : α → Option β} {g : α → β} {l : List α}
    (h : ∀ x ∈ l, f x = some (g x)) : l.mapM f = some (l.map g) := by
  induction l with
  | nil => rfl
  | cons x l ih =>
      rw [List.mapM_cons, h x List.mem_cons_self, ih fun y hy => h y (List.mem_cons_of_mem x hy)]
      rfl

/-- A checked search gives a result if each of its steps does. -/
theorem findSomeM?_eq {α β : Type} {f : α → Option (Option β)} {g : α → Option β} {l : List α}
    (h : ∀ x ∈ l, f x = some (g x)) : l.findSomeM? f = some (l.findSome? g) := by
  induction l with
  | nil => rfl
  | cons x l ih =>
      have htail := ih fun y hy => h y (List.mem_cons_of_mem x hy)
      rw [List.findSomeM?, h x List.mem_cons_self, List.findSome?_cons]
      cases g x with
      | none => exact htail
      | some y => rfl

/-! ### Masks and comments -/

/-- The mask of the units at some spans of a text. -/
def maskSpans (cs : List Char) : List Span → Option (List Char)
  | [] => some []
  | s :: ss => do
    let unit ← slice s.start s.stop cs
    let rest ← maskSpans cs ss
    return (if s.isCode then unit else unit.flatMap blankChar) ++ rest

/-- A text with literals and comments blanked. -/
def mask (cs : List Char) : Option (List Char) :=
  maskSpans cs (spansFrom cs 0)

/-- A piece of code up to its trailing comment. -/
def withoutComment (cs : List Char) : Option (List Char) :=
  match (spansFrom cs 0).find? Span.comment with
  | none => some cs
  | some s => slice 0 s.start cs

/-- A masked text with a leading byte order mark blanked. -/
def blankByteOrderMark (ms : List Char) : Option (List Char) :=
  if ms.head? = some byteOrderMark then do
    let rest ← slice byteOrderMark.utf8Size (byteLength ms) ms
    return List.replicate byteOrderMark.utf8Size ' ' ++ rest
  else some ms

/-- The spans of consecutive units cut the text between characters, and their masks make up its
mask. -/
theorem maskSpans_eq {cs p : List Char} {ls : List Lexeme} (h : cs = p ++ ls.flatMap Lexeme.text) :
    maskSpans cs (spansOf (byteLength p) ls) = some (ls.flatMap Lexeme.masked) := by
  induction ls generalizing p with
  | nil => rfl
  | cons l ls ih =>
      rw [List.flatMap_cons] at h
      have hcut : slice (byteLength p) (byteLength p + byteLength l.text) cs = some l.text := by
        rw [h, ← byteLength_append]
        exact slice_append p l.text _
      have htail := ih (p := p ++ l.text) (by rw [h, List.append_assoc])
      rw [byteLength_append] at htail
      simp only [spansOf, maskSpans, hcut, htail, Option.bind_eq_bind, Option.bind_some,
        Option.pure_def, List.flatMap_cons]
      rfl

/-- Masking never fails. -/
theorem mask_eq (cs : List Char) : mask cs = some (DslOutline.mask cs) := by
  rw [mask, spansFrom_zero]
  exact maskSpans_eq (p := []) (flatMap_text_lex _ _ _).symm

/-- The first span of a comment starts where the text in front of it ends. -/
theorem find?_comment_spansOf (p : List Char) (ls : List Lexeme) :
    ((spansOf (byteLength p) ls).find? Span.comment = none ∧
        beforeComment ls = ls.flatMap Lexeme.text) ∨
      ∃ s q, (spansOf (byteLength p) ls).find? Span.comment = some s ∧
        s.start = byteLength (p ++ beforeComment ls) ∧
        ls.flatMap Lexeme.text = beforeComment ls ++ q := by
  induction ls generalizing p with
  | nil => exact Or.inl ⟨rfl, rfl⟩
  | cons l ls ih =>
      rw [spansOf, beforeComment, List.find?_cons, List.flatMap_cons]
      cases hcomment : l.comment with
      | true => exact Or.inr ⟨_, _, rfl, by simp, rfl⟩
      | false =>
          have htail := ih (p ++ l.text)
          rw [byteLength_append] at htail
          rcases htail with ⟨hnone, hbefore⟩ | ⟨s, q, hsome, hstart, hbefore⟩
          · exact Or.inl ⟨hnone, by simp [hbefore]⟩
          · refine Or.inr ⟨s, q, hsome, ?_, ?_⟩
            · simp [hstart]
            · simp [hbefore]

/-- Cutting off a trailing comment never fails, since a span starts between two characters. -/
theorem withoutComment_eq (cs : List Char) :
    withoutComment cs = some (DslOutline.withoutComment cs) := by
  have htext : (lexemes cs).flatMap Lexeme.text = cs := flatMap_text_lex _ _ _
  unfold withoutComment
  rw [spansFrom_zero, DslOutline.withoutComment]
  rcases find?_comment_spansOf [] (lexemes cs) with ⟨hnone, hbefore⟩ | ⟨s, q, hsome, hstart, hq⟩
  · rw [byteLength_nil] at hnone
    rw [hnone, hbefore, htext]
  · rw [byteLength_nil] at hsome
    rw [htext] at hq
    have hcut := slice_zero (beforeComment (lexemes cs)) q
    rw [← hq] at hcut
    rw [hsome]
    show slice 0 s.start cs = _
    rw [hstart]
    exact hcut

/-- The three bytes of a leading mark are there when it is blanked. -/
theorem blankByteOrderMark_eq (ms : List Char) :
    blankByteOrderMark ms = some (DslOutline.blankByteOrderMark ms) := by
  cases ms with
  | nil => rfl
  | cons c cs =>
      rw [blankByteOrderMark, DslOutline.blankByteOrderMark]
      by_cases hc : c = byteOrderMark
      · subst hc
        have hcut := slice_end [byteOrderMark] cs
        rw [List.singleton_append, byteLength_cons, byteLength_nil, Nat.add_zero] at hcut
        rw [if_pos List.head?_cons, if_pos rfl, hcut]
        rfl
      · rw [if_neg (by simpa using hc), if_neg hc]

/-! ### Documents -/

/-- The document of a text. -/
def document (cs : List Char) : Option Document := do
  let masked ← blankByteOrderMark (← mask cs)
  return ⟨cs, masked, .ofText cs⟩

/-- Line `n` as written. -/
def line (d : Document) (n : Nat) : Option (List Char) :=
  lineText d.index d.text n

/-- Line `n` of the mask. -/
def maskedLine (d : Document) (n : Nat) : Option (List Char) :=
  lineText d.index d.masked n

/-- The number of bytes of white space at the start of a masked text. -/
def indentation (masked : List Char) : Option Nat :=
  sub (byteLength masked) (byteLength (trimStart masked))

/-- The position of the first character of line `n` that is not blank on the mask. -/
def firstNonBlank (d : Document) (n : Nat) : Option Position := do
  let indent ← indentation (← maskedLine d n)
  position d.index d.text (d.lineStart n + indent)

/-- Lines `first` to just before `stop`. -/
def linesBetween (d : Document) (first stop : Nat) : Option (List SourceLine) :=
  (List.range' first (stop - first)).mapM fun n => do
    return ⟨n, ← line d n, ← maskedLine d n⟩

/-- Reading a text into a document never fails. -/
theorem document_eq (cs : List Char) : document cs = some (.ofText cs) := by
  simp only [document, mask_eq, blankByteOrderMark_eq, Option.bind_eq_bind, Option.bind_some]
  rfl

/-- Every line can be cut out of the text. -/
theorem line_eq (cs : List Char) (n : Nat) :
    line (.ofText cs) n = some ((Document.ofText cs).line n) :=
  lineText_eq cs n

/-- Every line can be cut out of the mask, which has the same line starts. -/
theorem maskedLine_eq (cs : List Char) (n : Nat) :
    maskedLine (.ofText cs) n = some ((Document.ofText cs).maskedLine n) := by
  rw [maskedLine, Document.maskedLine, Document.index_eq_ofText_masked]
  exact lineText_eq _ n

/-- The indentation of a masked line ends between two characters. -/
theorem indentation_eq (masked : List Char) :
    indentation masked = some (byteLength (masked.takeWhile isBlank)) := by
  have hlen := congrArg byteLength (takeWhile_append_trimStart masked)
  rw [byteLength_append] at hlen
  rw [indentation, sub_eq (by omega), ← hlen, Nat.add_sub_cancel]

/-- On a line that is not blank on the mask, the first character that is not blank has a
position. -/
theorem firstNonBlank_eq {cs : List Char} {n : Nat} (h : (Document.ofText cs).IsCodeLine n) :
    firstNonBlank (.ofText cs) n = some ((Document.ofText cs).firstNonBlank n) := by
  obtain ⟨a, c, b, hcs, -, -, hlen, -, -⟩ := Document.exists_word_at_indentation h.one_le
    h.le_lineCount h.trimStart_ne_nil List.nil_prefix (by simp)
  have hposition := position_eq hcs
  rw [hlen] at hposition
  simp only [firstNonBlank, maskedLine_eq, indentation_eq, Option.bind_eq_bind, Option.bind_some]
  exact hposition

/-- All lines between two line numbers can be cut out. -/
theorem linesBetween_eq (cs : List Char) (first stop : Nat) :
    linesBetween (.ofText cs) first stop = some ((Document.ofText cs).linesBetween first stop) :=
  mapM_eq fun n _ => by simp [line_eq, maskedLine_eq]

theorem position_document {cs p q : List Char} (h : cs = p ++ q) :
    position (Document.ofText cs).index (Document.ofText cs).text (byteLength p) =
      some ((Document.ofText cs).position (byteLength p)) :=
  position_eq h

theorem endOfLine_document (cs : List Char) (n : Nat) :
    endOfLine (Document.ofText cs).index (Document.ofText cs).text n =
      some ((Document.ofText cs).endOfLine n) :=
  endOfLine_eq cs n

theorem lineCount_document (cs : List Char) :
    lineCount (Document.ofText cs).index = some (Document.ofText cs).lineCount :=
  lineCount_eq cs

end Checked

/-- What is not blank on a masked line stands on the line as written, at the same distance from its
start. -/
theorem Document.exists_line_of_maskedLine {cs : List Char} {n : Nat} (h1 : 1 ≤ n)
    (hn : n ≤ (ofText cs).lineCount) {m more : List Char} {c : Char}
    (hmasked : (ofText cs).maskedLine n = m ++ c :: more) (hc : isBlank c = false) :
    ∃ before rest, (ofText cs).line n = before ++ c :: rest ∧
      byteLength before = byteLength m := by
  obtain ⟨a, b, hcs, hlen, hcount, -⟩ := exists_word h1 hn (w := [c]) hmasked
    (List.cons_ne_nil c []) (by simpa using hc)
  obtain ⟨pre, before, rfl, hplace⟩ := exists_placeAt hcs
  have hfeed : c ≠ '\n' := by
    rintro rfl
    cases hc
  have hreturn : c ≠ '\r' := by
    rintro rfl
    cases hc
  obtain ⟨hstart, rest, htext⟩ := hplace.exists_lineText hfeed hreturn
  have hline : ((LineIndex.ofText cs).position cs (byteLength (pre ++ before))).line = n := by
    rw [hplace.position_eq, ← hcount, List.count_append, List.count_eq_zero.mpr hplace.noFeed]
  rw [hline] at hstart htext
  refine ⟨before, rest, htext, ?_⟩
  change (ofText cs).lineStart n = byteLength pre at hstart
  rw [byteLength_append, hstart] at hlen
  exact Nat.add_left_cancel hlen

namespace Checked

/-! ### Entries and sections -/

/-- The entry that a keyword starts on a line. -/
def child (p : ChildPattern) (l : SourceLine) (indent : Nat) : Option Child := do
  let after ← slice (indent + byteLength p.keyword.toList) (byteLength l.text) l.text
  let remainder ← withoutComment after
  let before ← slice 0 indent l.text
  let start ← newPosition l.number (before.length + 1)
  let name := capture? p.namePattern remainder
  return {
    keyword := p.keyword
    name := name
    detail := capture? p.detailPattern remainder
    start := start
    isDefinition := p.isDefinition
    reference :=
      p.reference.bind fun ref =>
        (capture? ref.namePattern remainder <|> name).map fun name => ⟨ref.target, name⟩ }

/-- The entry on a line, if one of the keywords starts it. -/
def matchChild (patterns : List ChildPattern) (l : SourceLine) : Option (Option Child) :=
  let code := trimStart l.masked
  if code.isEmpty then some none
  else
    match patterns.find? fun p => startsWithKeyword p.keyword.toList code with
    | none => some none
    | some p => do
      let indent ← indentation l.masked
      return some (← child p l indent)

/-- The entries on some lines. -/
def matchChildren (patterns : List ChildPattern) (lines : List SourceLine) :
    Option (List Child) := do
  return (← lines.mapM (matchChild patterns)).filterMap id

end Checked

/-- A line of a document, by its number. -/
def Document.sourceLine (d : Document) (n : Nat) : SourceLine :=
  ⟨n, d.line n, d.maskedLine n⟩

namespace Checked

/-- The keyword and the white space in front of it can be cut off the line as written. -/
theorem child_eq {cs : List Char} {n : Nat} (h : (Document.ofText cs).IsCodeLine n)
    {p : ChildPattern} (hp : p.IsTrimmed)
    (hkeyword : p.keyword.toList <+: trimStart ((Document.ofText cs).maskedLine n)) :
    child p ((Document.ofText cs).sourceLine n) ((Document.ofText cs).indentation n) =
      some (p.child ((Document.ofText cs).sourceLine n) ((Document.ofText cs).indentation n)) := by
  obtain ⟨more, hmore⟩ := hkeyword
  have hmasked := takeWhile_append_trimStart ((Document.ofText cs).maskedLine n)
  have hindent : (Document.ofText cs).indentation n =
      byteLength (((Document.ofText cs).maskedLine n).takeWhile isBlank) := rfl
  have hhead := List.head?_dropWhile_not isBlank ((Document.ofText cs).maskedLine n)
  rw [← trimStart, ← hmore] at hhead
  rw [← hmore] at hmasked
  generalize ((Document.ofText cs).maskedLine n).takeWhile isBlank = blanks at hmasked hindent
  -- the first character of the keyword gives the cut in front of it, the last one the cut after it
  obtain ⟨before, rest, hbefore, hblanks⟩ : ∃ before rest,
      (Document.ofText cs).line n = before ++ rest ∧ byteLength before = byteLength blanks := by
    obtain ⟨e, k, hk⟩ := List.exists_cons_of_ne_nil hp.keyword_ne_nil
    rw [hk, List.cons_append] at hhead hmasked
    obtain ⟨before, rest, hline, hlen⟩ :=
      Document.exists_line_of_maskedLine h.one_le h.le_lineCount hmasked.symm hhead
    exact ⟨before, e :: rest, hline, hlen⟩
  obtain ⟨upto, after, hupto, hlen⟩ : ∃ upto after, (Document.ofText cs).line n = upto ++ after ∧
      byteLength upto = byteLength blanks + byteLength p.keyword.toList := by
    obtain ⟨k, c, hk, hc⟩ := hp
    rw [hk, List.append_assoc, List.singleton_append, ← List.append_assoc] at hmasked
    obtain ⟨before, rest, hline, hlen⟩ :=
      Document.exists_line_of_maskedLine h.one_le h.le_lineCount hmasked.symm hc
    refine ⟨before ++ [c], rest, by rw [hline, List.append_assoc, List.singleton_append], ?_⟩
    rw [byteLength_append, hlen, hk, byteLength_append, byteLength_append, Nat.add_assoc]
  have hcut : slice (byteLength blanks + byteLength p.keyword.toList)
      (byteLength ((Document.ofText cs).line n)) ((Document.ofText cs).line n) = some after := by
    rw [hupto, ← hlen]
    exact slice_end upto after
  have hdrop : dropBytes (byteLength blanks + byteLength p.keyword.toList)
      ((Document.ofText cs).line n) = after := by
    rw [hupto, ← hlen, dropBytes_append]
  have hcolumn : slice 0 (byteLength blanks) ((Document.ofText cs).line n) = some before := by
    rw [hbefore, ← hblanks]
    exact slice_zero before rest
  have htake : takeBytes (byteLength blanks) ((Document.ofText cs).line n) = before := by
    rw [hbefore, ← hblanks, takeBytes_append]
  simp only [child, ChildPattern.child, Document.sourceLine, hindent, hcut, hdrop, hcolumn, htake,
    withoutComment_eq, newPosition_eq h.one_le (Nat.le_add_left 1 _), Option.bind_eq_bind,
    Option.bind_some, Option.pure_def]

/-- Looking for an entry on a line of the document never fails. -/
theorem matchChild_eq {cs : List Char} {n : Nat} (h1 : 1 ≤ n)
    (hn : n ≤ (Document.ofText cs).lineCount) {patterns : List ChildPattern}
    (hpatterns : ∀ p ∈ patterns, p.IsTrimmed) :
    matchChild patterns ((Document.ofText cs).sourceLine n) =
      some (DslOutline.matchChild patterns ((Document.ofText cs).sourceLine n)) := by
  simp only [matchChild, DslOutline.matchChild]
  split_ifs with hempty
  · rfl
  · cases hp : patterns.find? fun p => startsWithKeyword p.keyword.toList
        (trimStart ((Document.ofText cs).sourceLine n).masked) with
    | none => rfl
    | some p =>
        have hcode : (Document.ofText cs).IsCodeLine n :=
          ⟨h1, hn, by simpa [Document.sourceLine] using hempty⟩
        have hkeyword := List.find?_some hp
        have hchild := child_eq hcode (hpatterns p (List.mem_of_find?_eq_some hp))
          (prefix_of_startsWithKeyword hkeyword)
        have hindent : byteLength (((Document.ofText cs).sourceLine n).masked.takeWhile isBlank) =
            (Document.ofText cs).indentation n := rfl
        simp only [indentation_eq, hindent, hchild, Option.bind_eq_bind, Option.bind_some,
          Option.map_some, Option.pure_def]

/-- Looking for the entries on lines of the document never fails. -/
theorem matchChildren_eq {cs : List Char} {first stop : Nat} (h1 : 1 ≤ first)
    (hstop : stop ≤ (Document.ofText cs).lineCount) {patterns : List ChildPattern}
    (hpatterns : ∀ p ∈ patterns, p.IsTrimmed) :
    matchChildren patterns ((Document.ofText cs).linesBetween first stop) =
      some (DslOutline.matchChildren patterns ((Document.ofText cs).linesBetween first stop)) := by
  have hlines : ∀ l ∈ (Document.ofText cs).linesBetween first stop,
      matchChild patterns l = some (DslOutline.matchChild patterns l) := by
    intro l hl
    obtain ⟨n, hn, rfl⟩ := List.mem_map.mp hl
    rw [List.mem_range'_1] at hn
    exact matchChild_eq (by omega) (by omega) hpatterns
  rw [matchChildren, mapM_eq hlines]
  simp [DslOutline.matchChildren, List.filterMap_map]

/-- The section that starts on line `n`, if one does. -/
def sectionStart (d : Document) (specs : List SectionSpec) (n : Nat) :
    Option (Option SectionStart) := do
  let line := trim (← maskedLine d n)
  return (specs.find? fun spec => isSectionStart spec.name.toList line).map (⟨n, ·⟩)

/-- The lines on which sections start. -/
def sectionStarts (d : Document) (specs : List SectionSpec) : Option (List SectionStart) := do
  let count ← lineCount d.index
  return (← (List.range' 1 count).mapM (sectionStart d specs)).filterMap id

/-- The end of the block that opens on line `first`, if its `end` is on line `last` or before. -/
def blockEnd (d : Document) (first last : Nat) : Option (Option Position) :=
  match blockEndWithin d.text (d.lineStart first) (d.lineEnd last) with
  | none => some none
  | some stop => do return some (← position d.index d.text stop)

/-- The section that starts on a line and may extend to line `last`. -/
def toSection (s : SectionStart) (d : Document) (last : Nat) : Option Section := do
  let start ← firstNonBlank d s.line
  match ← blockEnd d s.line last with
  | none => return ⟨s.spec.name, [], start, ← endOfLine d.index d.text last, false⟩
  | some stop =>
    let body ← linesBetween d (s.line + 1) stop.line
    return ⟨s.spec.name, ← matchChildren s.spec.patterns body, start, stop, true⟩

/-- The sections with these starts. -/
def sectionsFrom (d : Document) : List SectionStart → Option (List Section)
  | [] => some []
  | [s] => do return [← toSection s d (← lineCount d.index)]
  | s :: t :: rest => do
    let last ← sub t.line 1
    return (← toSection s d last) :: (← sectionsFrom d (t :: rest))

/-- The sections of a document. -/
def findSections (d : Document) (specs : List SectionSpec) : Option (List Section) := do
  sectionsFrom d (← sectionStarts d specs)

/-- Looking for the lines on which sections start never fails. -/
theorem sectionStarts_eq (cs : List Char) (specs : List SectionSpec) :
    sectionStarts (.ofText cs) specs = some (DslOutline.sectionStarts (.ofText cs) specs) := by
  have hlines : ∀ n ∈ List.range' 1 (Document.ofText cs).lineCount,
      sectionStart (.ofText cs) specs n = some (sectionStart? (.ofText cs) specs n) := by
    intro n _
    rw [sectionStart, maskedLine_eq]
    rfl
  simp only [sectionStarts, lineCount_document, mapM_eq hlines, Option.bind_eq_bind,
    Option.bind_some, DslOutline.sectionStarts]
  simp [List.filterMap_map]

/-- The end of a block stands between two characters, so it has a position. -/
theorem blockEnd_eq (cs : List Char) (first last : Nat) :
    blockEnd (.ofText cs) first last = some ((Document.ofText cs).blockEnd? first last) := by
  unfold blockEnd Document.blockEnd?
  cases hstop : blockEndWithin (Document.ofText cs).text ((Document.ofText cs).lineStart first)
      ((Document.ofText cs).lineEnd last) with
  | none => rfl
  | some stop =>
      obtain ⟨p, q, hcs, rfl, -, -⟩ := exists_end_of_blockEndWithin hstop
      change cs = _ at hcs
      simp only [position_document hcs, Option.bind_eq_bind, Option.bind_some, Option.map_some,
        Option.pure_def]

/-- A section has its positions and its entries, provided that the line on which it starts is not
blank on the mask. -/
theorem toSection_eq {cs : List Char} {s : SectionStart} {last : Nat}
    (hs : (Document.ofText cs).IsCodeLine s.line) (hle : s.line ≤ last)
    (hlast : last ≤ (Document.ofText cs).lineCount)
    (hpatterns : ∀ p ∈ s.spec.patterns, p.IsTrimmed) :
    toSection s (.ofText cs) last = some (s.toSection (.ofText cs) last) := by
  simp only [toSection, firstNonBlank_eq hs, blockEnd_eq, Option.bind_eq_bind, Option.bind_some,
    SectionStart.toSection]
  cases hstop : (Document.ofText cs).blockEnd? s.line last with
  | none => simp only [endOfLine_document, Option.bind_some, Option.pure_def]
  | some stop =>
      have hline := (Document.line_of_blockEnd? hs.one_le hle hlast hstop).2
      have hbody := matchChildren_eq (Nat.le_add_left 1 s.line) (Nat.le_trans hline hlast) hpatterns
      simp only [linesBetween_eq, hbody, Option.bind_some, Option.pure_def]

/-- All sections can be formed: one may extend up to the line before the next, which is not before
its own. -/
theorem sectionsFrom_eq {cs : List Char} {starts : List SectionStart}
    (hsorted : starts.Pairwise fun s t => s.line < t.line)
    (hcode : ∀ s ∈ starts, (Document.ofText cs).IsCodeLine s.line)
    (hpatterns : ∀ s ∈ starts, ∀ p ∈ s.spec.patterns, p.IsTrimmed) :
    sectionsFrom (.ofText cs) starts = some (DslOutline.sectionsFrom (.ofText cs) starts) := by
  induction starts with
  | nil => rfl
  | cons s starts ih =>
      rw [List.pairwise_cons] at hsorted
      have hs := hcode s List.mem_cons_self
      have hp := hpatterns s List.mem_cons_self
      have htail := ih hsorted.2 (fun u hu => hcode u (List.mem_cons_of_mem s hu))
        fun u hu => hpatterns u (List.mem_cons_of_mem s hu)
      cases starts with
      | nil =>
          simp only [sectionsFrom, lineCount_document, Option.bind_eq_bind, Option.bind_some,
            toSection_eq hs hs.le_lineCount (Nat.le_refl _) hp]
          rfl
      | cons t rest =>
          have hnext := hsorted.1 t List.mem_cons_self
          have ht := (hcode t (by simp)).le_lineCount
          simp only [sectionsFrom, sub_eq (show 1 ≤ t.line by omega), htail, Option.bind_eq_bind,
            Option.bind_some, toSection_eq hs (Nat.le_sub_one_of_lt hnext) (by omega) hp]
          rfl

/-- Finding the sections never fails, if no keyword has white space around it. -/
theorem findSections_eq (cs : List Char) {specs : List SectionSpec}
    (hspecs : ∀ spec ∈ specs, ∀ p ∈ spec.patterns, p.IsTrimmed) :
    findSections (.ofText cs) specs = some (DslOutline.findSections (.ofText cs) specs) := by
  rw [findSections, sectionStarts_eq]
  refine sectionsFrom_eq (pairwise_sectionStarts _ specs)
    (fun s hs => isCodeLine_of_mem_sectionStarts hs) ?_
  intro s hs
  obtain ⟨-, -, hspec, -⟩ := of_mem_sectionStarts hs
  exact hspecs s.spec hspec

/-! ### Declarations, modules and guessed sections -/

/-- The `use` declarations of a document. -/
def useDeclarations (d : Document) : Option (List UseDeclaration) := do
  let lines ← (numberedLines d.masked).mapM fun l => do
    return ⟨l.number, ← line d l.number, l.text⟩
  return scanUses none lines

/-- The line and name of the first module of a document. -/
def moduleHead (d : Document) : Option (Option (Nat × List Char)) := do
  let count ← lineCount d.index
  (List.range' 1 count).findSomeM? fun n => do
    return (moduleHead? (← maskedLine d n)).map fun name => (n, name)

/-- The guessed entry on line `n`. -/
def heuristicChild (d : Document) (n : Nat) (masked : List Char) : Option (Option Child) := do
  match callHead? (trimStart (← line d n)) with
  | none => return none
  | some (word, arg) =>
    if isDslWord word && startsWithKeyword word masked then
      return some {
        keyword := String.ofList word
        name := some (String.ofList arg)
        detail := none
        start := ← firstNonBlank d n
        isDefinition := false
        reference := none }
    else return none

/-- The guessed entries on the given lines that are not inside a block. -/
def firstLevelChildren (d : Document) (depth : Nat) : List Nat → Option (List Child)
  | [] => some []
  | n :: ns => do
    let masked := trim (← maskedLine d n)
    let here ← if depth = 0 then heuristicChild d n masked else some none
    return here.toList ++ (← firstLevelChildren d (depthAfter depth masked) ns)

/-- The guessed section that opens on line `n`. -/
def heuristicSection (d : Document) (name : List Char) (n last : Nat) : Option Section := do
  let start ← firstNonBlank d n
  match ← blockEnd d n last with
  | none => return ⟨String.ofList name, [], start, ← endOfLine d.index d.text last, false⟩
  | some stop =>
    let body := List.range' (n + 1) (stop.line - (n + 1))
    return ⟨String.ofList name, ← firstLevelChildren d 0 body, start, stop, true⟩

/-- The guessed sections on the given lines. -/
def heuristicSectionsOn (d : Document) (last depth resume : Nat) :
    List Nat → Option (List Section)
  | [] => some []
  | n :: ns =>
    if n < resume then heuristicSectionsOn d last depth resume ns
    else do
      let masked := trim (← maskedLine d n)
      match (blockHead? masked).filter isDslWord, depth with
      | some name, 0 =>
        let s ← heuristicSection d name n last
        return s :: (← heuristicSectionsOn d last 0 (s.stop.line + 1) ns)
      | _, _ => heuristicSectionsOn d last (depthAfter depth masked) resume ns

/-- The last line of the body of a module that opens on line `n`. -/
def moduleBodyEnd (d : Document) (n : Nat) : Option Nat :=
  match DslOutline.blockEnd d.text (d.lineStart n) with
  | some stop => do return (← position d.index d.text stop).line - 1
  | none => lineCount d.index

/-- The sections guessed from the structure of a document's first module. -/
def heuristicSections (d : Document) : Option (List Section) := do
  match ← moduleHead d with
  | none => return []
  | some (n, _) =>
    let last ← moduleBodyEnd d n
    heuristicSectionsOn d last 0 0 (List.range' (n + 1) (last - n))

/-- Joining the lines of `use` declarations never fails. -/
theorem useDeclarations_eq (cs : List Char) :
    useDeclarations (.ofText cs) = some (Document.ofText cs).useDeclarations := by
  have hlines : ∀ l ∈ numberedLines (Document.ofText cs).masked,
      (do return ⟨l.number, ← line (.ofText cs) l.number, l.text⟩ : Option SourceLine) =
        some ⟨l.number, (Document.ofText cs).line l.number, l.text⟩ := by
    intro l _
    rw [line_eq]
    rfl
  rw [useDeclarations, mapM_eq hlines]
  rfl

/-- Looking for the module never fails. -/
theorem moduleHead_eq (cs : List Char) :
    moduleHead (.ofText cs) = some (Document.ofText cs).moduleHead? := by
  have hlines : ∀ n ∈ List.range' 1 (Document.ofText cs).lineCount,
      (do return (moduleHead? (← maskedLine (.ofText cs) n)).map fun name => (n, name) :
        Option (Option (Nat × List Char))) =
        some ((moduleHead? ((Document.ofText cs).maskedLine n)).map fun name => (n, name)) := by
    intro n _
    rw [maskedLine_eq]
    rfl
  rw [moduleHead, lineCount_document]
  exact findSomeM?_eq hlines

/-- A guessed entry stands on a line that is not blank on the mask, so it has a position. -/
theorem heuristicChild_eq {cs : List Char} {n : Nat} (h1 : 1 ≤ n)
    (hn : n ≤ (Document.ofText cs).lineCount) :
    heuristicChild (.ofText cs) n (trim ((Document.ofText cs).maskedLine n)) =
      some (heuristicChild? (.ofText cs) n (trim ((Document.ofText cs).maskedLine n))) := by
  simp only [heuristicChild, line_eq, heuristicChild?, Option.bind_eq_bind, Option.bind_some]
  cases hhead : callHead? (trimStart ((Document.ofText cs).line n)) with
  | none => rfl
  | some head =>
      obtain ⟨word, arg⟩ := head
      simp only [Option.bind_some]
      split_ifs with hword
      · obtain ⟨c, more, rfl⟩ := exists_cons_of_callHead? hhead
        rw [Bool.and_eq_true] at hword
        have hne : trim ((Document.ofText cs).maskedLine n) ≠ [] := by
          intro hnil
          have hprefix := prefix_of_startsWithKeyword hword.2
          rw [hnil] at hprefix
          exact List.cons_ne_nil c more (List.prefix_nil.mp hprefix)
        rw [firstNonBlank_eq ⟨h1, hn, trimStart_ne_nil_of_trim hne⟩]
        rfl
      · rfl

/-- Collecting guessed entries never fails on lines of the document. -/
theorem firstLevelChildren_eq {cs : List Char} {ns : List Nat}
    (hns : ∀ n ∈ ns, 1 ≤ n ∧ n ≤ (Document.ofText cs).lineCount) (depth : Nat) :
    firstLevelChildren (.ofText cs) depth ns =
      some (DslOutline.firstLevelChildren (.ofText cs) depth ns) := by
  induction ns generalizing depth with
  | nil => rfl
  | cons n ns ih =>
      have htail := ih fun m hm => hns m (List.mem_cons_of_mem n hm)
      obtain ⟨h1, hn⟩ := hns n List.mem_cons_self
      simp only [firstLevelChildren, DslOutline.firstLevelChildren, maskedLine_eq, htail,
        heuristicChild_eq h1 hn, Option.bind_eq_bind, Option.bind_some]
      split_ifs <;> rfl

/-- A guessed section that starts on a line that is not blank on the mask has its positions and its
entries. -/
theorem heuristicSection_eq {cs name : List Char} {n last : Nat}
    (hn : (Document.ofText cs).IsCodeLine n) (hle : n ≤ last)
    (hlast : last ≤ (Document.ofText cs).lineCount) :
    heuristicSection (.ofText cs) name n last =
      some (DslOutline.heuristicSection (.ofText cs) name n last) := by
  simp only [heuristicSection, firstNonBlank_eq hn, blockEnd_eq, Option.bind_eq_bind,
    Option.bind_some, DslOutline.heuristicSection]
  cases hstop : (Document.ofText cs).blockEnd? n last with
  | none => simp only [endOfLine_document, Option.bind_some, Option.pure_def]
  | some stop =>
      have hline := (Document.line_of_blockEnd? hn.one_le hle hlast hstop).2
      have hbody : ∀ m ∈ List.range' (n + 1) (stop.line - (n + 1)),
          1 ≤ m ∧ m ≤ (Document.ofText cs).lineCount := by
        intro m hm
        rw [List.mem_range'_1] at hm
        omega
      simp only [firstLevelChildren_eq hbody, Option.bind_some, Option.pure_def]

/-- Guessing sections never fails on lines of the module. -/
theorem heuristicSectionsOn_eq {cs : List Char} {last : Nat}
    (hlast : last ≤ (Document.ofText cs).lineCount) {ns : List Nat}
    (hns : ∀ n ∈ ns, 1 ≤ n ∧ n ≤ last) (depth resume : Nat) :
    heuristicSectionsOn (.ofText cs) last depth resume ns =
      some (DslOutline.heuristicSectionsOn (.ofText cs) last depth resume ns) := by
  induction ns generalizing depth resume with
  | nil => rfl
  | cons n ns ih =>
      have htail := ih fun m hm => hns m (List.mem_cons_of_mem n hm)
      obtain ⟨h1, hn⟩ := hns n List.mem_cons_self
      simp only [heuristicSectionsOn, DslOutline.heuristicSectionsOn, maskedLine_eq,
        Option.bind_eq_bind, Option.bind_some]
      split_ifs with hresume
      · exact htail depth resume
      · cases hhead : (blockHead? (trim ((Document.ofText cs).maskedLine n))).filter isDslWord with
        | none => exact htail _ resume
        | some name =>
            cases depth with
            | succ depth => exact htail _ resume
            | zero =>
                have hne : trim ((Document.ofText cs).maskedLine n) ≠ [] := by
                  intro hnil
                  rw [hnil] at hhead
                  cases hhead
                have hcode : (Document.ofText cs).IsCodeLine n :=
                  ⟨h1, Nat.le_trans hn hlast, trimStart_ne_nil_of_trim hne⟩
                simp only [heuristicSection_eq hcode hn hlast, Option.bind_some, htail,
                  Option.pure_def]

/-- The last line of a module's body is computed without an underflow. -/
theorem moduleBodyEnd_eq (cs : List Char) (n : Nat) :
    moduleBodyEnd (.ofText cs) n = some (DslOutline.moduleBodyEnd (.ofText cs) n) := by
  unfold moduleBodyEnd DslOutline.moduleBodyEnd
  cases hend : DslOutline.blockEnd (Document.ofText cs).text ((Document.ofText cs).lineStart n) with
  | none => exact lineCount_document cs
  | some stop =>
      obtain ⟨p, q, hcs, rfl, -, -⟩ := exists_end_of_blockEndWithin hend
      change cs = _ at hcs
      simp only [position_document hcs, Option.bind_eq_bind, Option.bind_some, Option.pure_def]

/-- Guessing never fails. -/
theorem heuristicSections_eq (cs : List Char) :
    heuristicSections (.ofText cs) = some (DslOutline.heuristicSections (.ofText cs)) := by
  simp only [heuristicSections, moduleHead_eq, Option.bind_eq_bind, Option.bind_some,
    DslOutline.heuristicSections]
  cases (Document.ofText cs).moduleHead? with
  | none => rfl
  | some head =>
      obtain ⟨n, name⟩ := head
      simp only [moduleBodyEnd_eq, Option.bind_some]
      refine heuristicSectionsOn_eq (moduleBodyEnd_le cs n) ?_ 0 0
      intro m hm
      rw [List.mem_range'_1] at hm
      omega

/-! ### Outlines -/

/-- Reads a document by the schemas it activates. -/
def extract (r : Registry) (d : Document) : Option Extraction := do
  let uses ← useDeclarations d
  let schemas := activeSchemas r (uses.map UseDeclaration.text)
  let specs := sectionSpecs schemas
  let sections ← findSections d specs
  let definitions := definitionsOf sections
  let head ← moduleHead d
  return {
    moduleName := head.map fun (_, name) => String.ofList name
    uses := uses
    schemas := schemas.map Schema.name
    sections := sections
    definitions := definitions
    links := linksOf sections definitions
    diagrams := diagramsOf specs sections }

/-- Reads a text; `fallback` allows guessing. -/
def outline (r : Registry) (fallback : Bool) (cs : List Char) : Option Outline := do
  let d ← document cs
  let configured ← extract r d
  match chooseStrategy fallback configured.sections with
  | .configured => return ⟨.configured, configured⟩
  | .heuristic => return ⟨.heuristic, configured.withGuess (← heuristicSections d)⟩

/-- Extracting never fails, if no keyword has white space around it. -/
theorem extract_eq {r : Registry} (hr : ∀ schema ∈ r.schemas, ∀ sec ∈ schema.sections,
    ∀ p ∈ sec.children, p.IsTrimmed) (cs : List Char) :
    extract r (.ofText cs) = some (DslOutline.extract r (.ofText cs)) := by
  have hspecs : ∀ spec ∈ sectionSpecs ((Document.ofText cs).activeSchemas r),
      ∀ p ∈ spec.patterns, p.IsTrimmed := by
    intro spec hspec p hp
    obtain ⟨schema, hschema, sec, hsec, hmem⟩ :=
      (exists_mem_sectionSpecs_patterns _ p).mp ⟨spec, hspec, hp⟩
    exact hr schema (mem_of_mem_activeSchemas hschema) sec hsec p hmem
  have hsections := findSections_eq cs hspecs
  simp only [Document.activeSchemas] at hsections
  simp only [extract, useDeclarations_eq, moduleHead_eq, hsections, Option.bind_eq_bind,
    Option.bind_some]
  rfl

end Checked

/-! ### The reader as a whole -/

/-- **Reading a document never fails.** With schemas that were compiled, for every text and whether
guessing is allowed or not, the reader in which every cut, every difference and every position is
checked has an answer, and it is the answer of `outline`: all cuts that are made are in order,
inside the text and between characters, and no difference falls below zero. -/
theorem outline_never_fails {r : Registry} (hr : r.Compiled) (fallback : Bool) (cs : List Char) :
    Checked.outline r fallback cs = some (outline r fallback (.ofText cs)) := by
  have htrimmed : ∀ schema ∈ r.schemas, ∀ sec ∈ schema.sections, ∀ p ∈ sec.children,
      p.IsTrimmed := by
    intro schema hschema
    obtain ⟨d, hd⟩ := hr schema hschema
    exact Schema.isTrimmed_of_compile hd
  simp only [Checked.outline, Checked.document_eq, Checked.extract_eq htrimmed,
    Checked.heuristicSections_eq, Option.bind_eq_bind, Option.bind_some, outline]
  cases chooseStrategy fallback (extract r (.ofText cs)).sections <;> rfl

/-- The keyword has white space inside, where the text has a literal; a string holds the carriage
return at the end of its line; and characters of several bytes stand all around. -/
theorem outline_never_fails_wide :
    let entry : ChildDef := { keyword := " é  x ", namePattern := some "(é)" }
    let schema : SchemaDef := ⟨"A", "A", [⟨"things", none, [entry]⟩]⟩
    let r : Registry :=
      ⟨[⟨"A", "A", [⟨"things", none, [⟨"é  x", Pattern.compile? "(é)", none, false, none⟩]⟩]⟩]⟩
    let cs := "\ufeffuse A\r\nthings do\r\n\u2003\"€\" é''x é # €\n \"\r\n\"\r\nend".toList
    Registry.ofDefinitions [schema] = .ok r ∧
      Checked.outline r true cs = some (outline r true (.ofText cs)) ∧
      (outline r true (.ofText cs)).result.sections.flatMap Section.children =
        [⟨"é  x", some "é", none, ⟨3, 6⟩, false, none⟩] := by
  intro entry schema r cs
  have hr : Registry.ofDefinitions [schema] = .ok r := by decide +kernel
  refine ⟨hr, outline_never_fails (Registry.compiled_ofDefinitions hr) true cs, ?_⟩
  decide +kernel

end DslOutline
