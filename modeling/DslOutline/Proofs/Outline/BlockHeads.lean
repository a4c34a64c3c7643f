import DslOutline.Outline.Heuristic
import DslOutline.Proofs.Outline.LineDepth

/-!
# Lines that open a block

The head of a module and the line on which a guessed section starts both read `name do`, and the
name holds no keyword unless it is one (`opensPlainly_of_moduleHead?`,
`opensPlainly_of_blockHead?`). If the `do` at the end of such a line is a keyword in the text, it is
the only one on the line (`Document.OpensAt.tokensBetween_line`). The line then opens one block, and
a search for the end of a block that starts with the line looks for the end of this one
(`Document.OpensAt.blockEndWithin_eq`).
-/

namespace DslOutline

open Text

/-! ### Names without keywords -/

/-- The keywords of a text that is cut at white space are those of the two parts. -/
theorem mem_tokensIn_or {name blanks more : List Char} (hne : blanks ≠ [])
    (hblank : ∀ c ∈ blanks, isBlank c = true) {before : Option Char} {o : Nat} {t : PlacedToken}
    (ht : t ∈ tokensIn before o (name ++ (blanks ++ more))) :
    t ∈ tokensIn before o name ∨
      t ∈ tokensIn blanks.getLast? (o + byteLength (name ++ blanks)) more := by
  obtain ⟨p, q, hword, hstart, hbefore, hafter⟩ := mem_tokensIn_iff.mp ht
  obtain ⟨c, w, hw⟩ := t.token.exists_word_eq_cons
  rcases Nat.lt_or_ge (byteLength p) (byteLength (name ++ blanks)) with hlt | hge
  · obtain ⟨y, rfl, rfl⟩ := exists_of_word_before_blank hword hne hblank (by simp [hw])
      (fun _ => BlockToken.isBlank_of_mem_word) hlt
    exact Or.inl (mem_tokensIn_iff.mpr ⟨p, y, rfl, hstart, hbefore, admitsAfter_of_append hafter⟩)
  · rw [← List.append_assoc] at hword
    obtain ⟨z, rfl⟩ := prefix_of_byteLength_le ⟨_, rfl⟩ ⟨_, hword.symm⟩ hge
    rw [List.append_assoc (name ++ blanks), List.append_cancel_left_eq] at hword
    refine Or.inr (mem_tokensIn_iff.mpr ⟨z, q, hword, ?_, ?_, hafter⟩)
    · rw [hstart, byteLength_append (name ++ blanks), Nat.add_assoc]
    · have he := List.getLast?_eq_some_getLast hne
      rw [List.getLast?_append, List.getLast?_append, he] at hbefore
      rw [he]
      simpa using hbefore

/-- The characters that may stand next to a keyword, on either side. -/
def keywordNeighbours : List Char :=
  [' ', '\t', '\n', '\r', '(', '[', '\x7b', ',', ';', '=', ')', ']', '\x7d', '#']

/-- A keyword may follow some marks and blanks only. -/
theorem mem_of_admitsBefore {c : Char} (h : admitsBefore (some c) = true) :
    c ∈ keywordNeighbours := by
  simp only [admitsBefore, List.contains_iff_mem, keywordNeighbours, List.mem_cons] at h ⊢
  grind

theorem mem_of_admitsAfter {c : Char} (h : admitsAfter (some c) = true) :
    c ∈ keywordNeighbours := by
  simp only [admitsAfter, List.contains_iff_mem, keywordNeighbours, List.mem_cons] at h ⊢
  grind

/-- No character of a class may stand next to a keyword if none of the neighbours is in the
class. -/
theorem not_mem_keywordNeighbours {p : Char → Bool} (h : keywordNeighbours.any p = false)
    {c : Char} (hc : p c = true) : c ∉ keywordNeighbours := by
  intro hmem
  rw [List.any_eq_true.mpr ⟨c, hmem, hc⟩] at h
  cases h

/-- A name of characters that may not stand next to a keyword holds none, unless it is one. -/
theorem eq_word_of_mem_tokensIn {name : List Char} (hname : ∀ c ∈ name, c ∉ keywordNeighbours)
    {before : Option Char} {o : Nat} {t : PlacedToken} (ht : t ∈ tokensIn before o name) :
    name = t.token.word ∧ t.start = o := by
  obtain ⟨p, q, hword, hstart, hbefore, hafter⟩ := mem_tokensIn_iff.mp ht
  have hp : p = [] := by
    by_contra hne
    rw [List.getLast?_eq_some_getLast hne, Option.some_or] at hbefore
    exact hname (p.getLast hne) (by simp [hword]) (mem_of_admitsBefore hbefore)
  have hq : q = [] := by
    by_contra hne
    rw [List.head?_eq_some_head hne] at hafter
    exact hname (q.head hne) (by simp [hword]) (mem_of_admitsAfter hafter)
  refine ⟨by rw [hword, hp, hq, List.nil_append, List.append_nil], ?_⟩
  rw [hstart, hp, byteLength_nil, Nat.add_zero]

/-! ### Lines that open a block -/

/-- A line without white space around it reads `name do`, and there is no keyword in the name. -/
structure OpensPlainly (name line : List Char) : Prop where
  opens : Opens name line
  plain : ∀ o, ∀ t, t ∉ tokensIn none o name

/-- What was skipped is a run of blanks that is not empty. -/
theorem exists_of_afterBlanks? {cs rest : List Char} (h : afterBlanks? cs = some rest) :
    ∃ blanks, blanks ≠ [] ∧ (∀ c ∈ blanks, isBlank c = true) ∧ cs = blanks ++ rest := by
  unfold afterBlanks? at h
  split_ifs at h with hblank
  cases h
  refine ⟨cs.takeWhile isBlank, ?_, fun c hc => List.mem_takeWhile_imp hc,
    (takeWhile_append_trimStart cs).symm⟩
  cases cs with
  | nil => cases hblank
  | cons c cs =>
      have hc : isBlank c = true := hblank
      simp [hc]

/-- No character of a name may stand next to a keyword, so the name holds none unless it is one. -/
theorem opensPlainly_of_blockHead? {line word : List Char} (h : blockHead? line = some word)
    (hword : ∀ t : BlockToken, word ≠ t.word) : OpensPlainly word line := by
  have hstart : keywordNeighbours.any isCallStart = false := by decide +kernel
  have hcall : keywordNeighbours.any isCallChar = false := by decide +kernel
  unfold blockHead? at h
  split at h
  · cases h
  · rename_i c cs
    split_ifs at h with hc
    obtain ⟨rest, hrest, h⟩ := Option.bind_eq_some_iff.mp h
    split_ifs at h with hdo
    cases h
    obtain ⟨blanks, hne, hblank, hcs⟩ := exists_of_afterBlanks? hrest
    refine ⟨⟨blanks, hne, hblank, ?_⟩, ?_⟩
    · rw [← hdo, ← hcs, List.cons_append, List.takeWhile_append_dropWhile]
    · intro o t ht
      refine hword t.token (eq_word_of_mem_tokensIn ?_ ht).1
      intro e he
      rcases List.mem_cons.mp he with rfl | he
      · exact not_mem_keywordNeighbours hstart hc
      · exact not_mem_keywordNeighbours hcall (List.mem_takeWhile_imp he)

/-- A module name starts with an uppercase letter, goes on with characters of names, and stands in
front of the rest. -/
theorem of_readModuleName? {cs name rest : List Char} (h : readModuleName? cs = some (name, rest)) :
    (∃ c tail, name = c :: tail ∧ c.isUpper = true ∧ ∀ e ∈ tail, isModuleChar e = true) ∧
      cs = name ++ rest := by
  unfold readModuleName? at h
  split at h
  · cases h
  · rename_i c cs
    split_ifs at h with hc
    cases h
    refine ⟨⟨c, _, rfl, hc, fun e he => List.mem_takeWhile_imp he⟩, ?_⟩
    rw [List.cons_append, List.takeWhile_append_dropWhile]

/-- The name of a module begins with an uppercase letter, so it is no keyword. -/
theorem not_mem_tokensIn_moduleName {cs name rest : List Char}
    (h : readModuleName? cs = some (name, rest)) (before : Option Char) (o : Nat) (t : PlacedToken) :
    t ∉ tokensIn before o name := by
  have hupper : keywordNeighbours.any Char.isUpper = false := by decide
  have hmodule : keywordNeighbours.any isModuleChar = false := by decide +kernel
  obtain ⟨⟨c, tail, rfl, hc, htail⟩, -⟩ := of_readModuleName? h
  intro ht
  have hword : c :: tail = t.token.word := by
    refine (eq_word_of_mem_tokensIn ?_ ht).1
    intro e he
    rcases List.mem_cons.mp he with rfl | he
    · exact not_mem_keywordNeighbours hupper hc
    · exact not_mem_keywordNeighbours hmodule (htail e he)
  cases htoken : t.token <;> rw [htoken, BlockToken.word, List.cons.injEq] at hword <;>
    rw [hword.1] at hc <;> cases hc

/-- The head of a module reads `defmodule Name do`, and neither of the two words in front of the
`do` is a keyword. -/
theorem opensPlainly_of_moduleHead? {masked name : List Char}
    (h : moduleHead? masked = some name) : ∃ head, OpensPlainly head (trim masked) := by
  obtain ⟨r₀, hword, h⟩ := Option.bind_eq_some_iff.mp h
  obtain ⟨r₁, hblanks, h⟩ := Option.bind_eq_some_iff.mp h
  obtain ⟨⟨name', r₂⟩, hname, h⟩ := Option.bind_eq_some_iff.mp h
  obtain ⟨r₃, hblanks', h⟩ := Option.bind_eq_some_iff.mp h
  obtain ⟨r₄, hdo, h⟩ := Option.bind_eq_some_iff.mp h
  have hrest : ∀ c ∈ r₄, isBlank c = true := by
    by_contra hrest
    rw [if_neg (by simpa using hrest)] at h
    cases h
  obtain ⟨blanks, hne, hblank, hr₀⟩ := exists_of_afterBlanks? hblanks
  obtain ⟨blanks', hne', hblank', hr₂⟩ := exists_of_afterBlanks? hblanks'
  have htrim : trim masked =
      ("defmodule".toList ++ (blanks ++ name')) ++ (blanks' ++ ['d', 'o']) := by
    have hstart : trimStart masked =
        (("defmodule".toList ++ (blanks ++ name')) ++ (blanks' ++ ['d', 'o'])) ++ r₄ := by
      rw [← List.isPrefixOf?_eq_some_iff_append_eq.mp hword, hr₀, (of_readModuleName? hname).2, hr₂,
        ← List.isPrefixOf?_eq_some_iff_append_eq.mp hdo]
      simp
    have hnil : trimEnd r₄ = [] := List.rdropWhile_eq_nil_iff.mpr hrest
    rw [trim, hstart, trimEnd, dropEndWhile_append _ r₄, ← trimEnd, hnil, List.append_nil]
    intro c hc
    rw [← List.append_assoc, List.getLast?_append_of_ne_nil _ (by simp)] at hc
    cases hc
    rfl
  refine ⟨_, ⟨blanks', hne', hblank', htrim⟩, ?_⟩
  intro o t ht
  rcases mem_tokensIn_or hne hblank ht with ht | ht
  · have hdefmodule := (eq_word_of_mem_tokensIn (by simp [keywordNeighbours]) ht).1
    cases htoken : t.token <;> rw [htoken] at hdefmodule <;> exact absurd hdefmodule (by decide)
  · exact not_mem_tokensIn_moduleName hname _ _ t ht

/-! ### The `do` on the line -/

namespace Document

/-- The `do` at the end of a masked line that reads `name do`. -/
def opener (d : Document) (n : Nat) : PlacedToken :=
  ⟨d.lineStart n + byteLength (trimEnd (d.maskedLine n)) - BlockToken.doBlock.size, .doBlock⟩

/-- Line `n` opens one block: it reads `name do` on the mask, without a keyword in the name, and its
`do` is a keyword in the text. -/
structure OpensAt (d : Document) (n : Nat) : Prop where
  one_le : 1 ≤ n
  le_lineCount : n ≤ d.lineCount
  reads : ∃ name, OpensPlainly name (trim (d.maskedLine n))
  opener_mem : d.opener n ∈ codeTokensFrom d.text 0

/-- The opener is the `do` behind the name on the line and the blanks that follow it. -/
theorem opener_eq {d : Document} {n : Nat} {name blanks : List Char}
    (h : trim (d.maskedLine n) = name ++ (blanks ++ ['d', 'o'])) :
    d.opener n =
      ⟨d.lineStart n + d.indentation n + byteLength (name ++ blanks), .doBlock⟩ := by
  have hsize : BlockToken.doBlock.size = byteLength ['d', 'o'] := rfl
  rw [opener, trimEnd_eq (by simp [h]), h, hsize, indentation]
  simp only [byteLength_append, PlacedToken.mk.injEq, and_true]
  omega

namespace OpensAt

variable {cs : List Char} {n : Nat}

/-- The `do` is the only keyword on the masked line. -/
theorem eq_opener (h : (ofText cs).OpensAt n) {t : PlacedToken} (ht : t ∈ (ofText cs).lineTokens n) :
    t = (ofText cs).opener n := by
  obtain ⟨name, ⟨blanks, hne, hblank, hline⟩, hplain⟩ := h.reads
  rw [lineTokens, hline] at ht
  rcases mem_tokensIn_or hne hblank ht with ht | ht
  · exact absurd ht (hplain _ t)
  · obtain ⟨hword, hstart⟩ := eq_word_of_mem_tokensIn (by simp [keywordNeighbours]) ht
    have htoken : t.token = .doBlock := by
      cases htoken : t.token with
      | doBlock => rfl
      | fnBlock => simp [htoken, BlockToken.word] at hword
      | close => simp [htoken, BlockToken.word] at hword
    rw [opener_eq hline, ← hstart, ← htoken]

/-- It stands on the line. -/
theorem opener_start (h : (ofText cs).OpensAt n) :
    (ofText cs).lineStart n ≤ ((ofText cs).opener n).start ∧
      ((ofText cs).opener n).start < (ofText cs).lineEnd n := by
  obtain ⟨name, ⟨blanks, -, -, hline⟩, -⟩ := h.reads
  obtain ⟨pre, indent, tail, rest, hat⟩ := exists_maskedLineAt h.one_le h.le_lineCount
  have hstop := hat.stop_eq
  have hstart := hat.start_eq
  have hdo : 0 < byteLength ['d', 'o'] := by decide
  rw [hline] at hstop
  rw [opener_eq hline, hat.indentation_eq]
  simp only [byteLength_append] at hstop ⊢
  omega

/-- It is the only keyword in the code of the line. -/
theorem tokensBetween_line (h : (ofText cs).OpensAt n) :
    tokensBetween cs ((ofText cs).lineStart n) ((ofText cs).lineEnd n) = [(ofText cs).opener n] := by
  refine tokensBetween_eq (List.pairwise_singleton _ _) ?_
  intro t
  rw [List.mem_singleton]
  constructor
  · rintro rfl
    exact ⟨h.opener_mem, h.opener_start⟩
  · rintro ⟨ht, hle, hlt⟩
    exact h.eq_opener (mem_lineTokens h.one_le h.le_lineCount ht hle hlt)

/-- An opener ends on its line. -/
theorem opener_stop_le (h : (ofText cs).OpensAt n) :
    ((ofText cs).opener n).stop ≤ (ofText cs).lineEnd n :=
  stop_le_lineEnd h.one_le h.le_lineCount h.opener_mem h.opener_start.2

/-- An opener ends before the later lines start. -/
theorem stop_le_lineStart {k : Nat} (h : (ofText cs).OpensAt n) (hk : n < k)
    (hle : k ≤ (ofText cs).lineCount + 1) :
    ((ofText cs).opener n).stop ≤ (ofText cs).lineStart k :=
  h.opener_stop_le.trans (lineStart_le (Nat.succ_pos n) hk hle)

/-- Within the bytes of an opener there is no other keyword. -/
theorem tokensBetween_opener (h : (ofText cs).OpensAt n) :
    tokensBetween cs ((ofText cs).opener n).start ((ofText cs).opener n).stop =
      [(ofText cs).opener n] :=
  tokensBetween_start_stop h.opener_mem

/-- There is no keyword on the line in front of the `do` or behind it. -/
theorem tokensBetween_around (h : (ofText cs).OpensAt n) :
    tokensBetween cs ((ofText cs).lineStart n) ((ofText cs).opener n).start = [] ∧
      tokensBetween cs ((ofText cs).opener n).stop ((ofText cs).lineEnd n) = [] := by
  have hle := h.opener_start.1
  have hstop : ((ofText cs).opener n).start ≤ ((ofText cs).opener n).stop := Nat.le_add_right _ _
  have hline := congrArg List.length h.tokensBetween_line
  rw [tokensBetween_append cs hle (hstop.trans h.opener_stop_le),
    tokensBetween_append cs hstop h.opener_stop_le, h.tokensBetween_opener] at hline
  simp only [List.length_append, List.length_singleton] at hline
  exact ⟨List.eq_nil_of_length_eq_zero (by omega), List.eq_nil_of_length_eq_zero (by omega)⟩

/-- From the start of the line on, the `do` is the first keyword. -/
theorem tokensBetween_eq_cons (h : (ofText cs).OpensAt n) {limit : Nat}
    (hlimit : ((ofText cs).opener n).stop ≤ limit) :
    tokensBetween cs ((ofText cs).lineStart n) limit =
      (ofText cs).opener n :: tokensBetween cs ((ofText cs).opener n).stop limit := by
  have hstop : ((ofText cs).opener n).start ≤ ((ofText cs).opener n).stop := Nat.le_add_right _ _
  rw [tokensBetween_append cs h.opener_start.1 (hstop.trans hlimit),
    tokensBetween_append cs hstop hlimit, h.tokensBetween_around.1,
    h.tokensBetween_opener, List.nil_append, List.singleton_append]

/-- The block is open at the end of the line, and nothing inside it is. -/
theorem depthBetween_stop_lineEnd (h : (ofText cs).OpensAt n) :
    depthBetween cs ((ofText cs).opener n).stop ((ofText cs).lineEnd n) = 0 := by
  rw [depthBetween, h.tokensBetween_around.2, tokensDepth_nil]

/-- From the start of its line on, the depth is one more than behind the opener. -/
theorem depthBetween_eq (h : (ofText cs).OpensAt n) {x : Nat}
    (hx : ((ofText cs).opener n).stop ≤ x) :
    depthBetween cs ((ofText cs).lineStart n) x =
      1 + depthBetween cs ((ofText cs).opener n).stop x := by
  rw [depthBetween, h.tokensBetween_eq_cons hx, tokensDepth_cons]
  rfl

/-- A search that starts with the line, outside of every literal, looks for the end of the block
that the line opens. -/
theorem blockEndWithin_eq (h : (ofText cs).OpensAt n)
    (hclosed : ¬ OpenAt cs ((ofText cs).lineStart n)) {limit : Nat}
    (hlimit : ((ofText cs).opener n).stop ≤ limit) (hle : limit ≤ byteLength cs)
    (hcut : ∀ t ∈ codeTokensFrom cs 0, t.start < limit → t.stop ≤ limit) :
    blockEndWithin cs ((ofText cs).lineStart n) limit =
      closeOf 1 (tokensBetween cs ((ofText cs).opener n).stop limit) := by
  have htokens : (codeTokensFrom cs ((ofText cs).lineStart n)).takeWhile
      (fun t => t.stop ≤ limit) = tokensBetween cs ((ofText cs).lineStart n) limit := by
    rw [takeWhile_stop_le, Nat.min_eq_left hle]
    refine (tokensBetween_eq ((pairwise_start_codeTokensFrom _ _).filter _) ?_).symm
    intro t
    rw [List.mem_filter, mem_codeTokensFrom_lineStart_iff h.one_le h.le_lineCount hclosed, and_assoc]
    refine and_congr_right fun ht => and_congr_right fun _ => ?_
    have hpos := t.token.size_pos
    rw [decide_eq_true_iff]
    refine ⟨fun hstop => ?_, hcut t ht⟩
    rw [PlacedToken.stop] at hstop
    omega
  rw [blockEndWithin, htokens, h.tokensBetween_eq_cons hlimit, endOfFirstBlock]
  rfl

end OpensAt

end Document

end DslOutline
