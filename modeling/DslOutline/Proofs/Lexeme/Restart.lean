import DslOutline.Proofs.Lexeme.Literal
import DslOutline.Proofs.Text.Lines

/-!
# Reading again from the start of a line

A block search reads a text from the start of a line as if nothing came before it. Whether it sees
there what a reading of the whole text sees depends on one thing. A unit has a line feed at its end
or not at all (`newline_not_mem_take_move`), so a reading of the whole text stops at every line
start (`exists_lex_append`), in some state. If no literal is open there, that state is the one in
which a fresh reading starts, and from there on the two readings are one
(`filter_spansFrom_of_not_openAt`).
-/

namespace DslOutline

open Text

/-! ### Line feeds in units -/

/-- A run of letters does not go on over the end of a line. -/
theorem newline_not_mem_takeWhile_isAlpha (cs : List Char) : '\n' ∉ cs.takeWhile Char.isAlpha := by
  intro h
  have := List.mem_takeWhile_imp h
  cases this

/-- Of the opener of a sigil, only the last character can be a line feed. -/
theorem newline_not_mem_take_sigilOpening? {rest : List Char} {extra : Nat} {mode : Mode}
    (h : sigilOpening? rest = some (extra, mode)) : '\n' ∉ ('~' :: rest).take extra := by
  have hname := newline_not_mem_takeWhile_isAlpha rest
  have hsplit : rest.takeWhile Char.isAlpha ++ rest.drop (rest.takeWhile Char.isAlpha).length =
      rest := by
    have := List.prefix_iff_eq_append.mp (List.takeWhile_prefix Char.isAlpha (l := rest))
    exact this
  unfold sigilOpening? at h
  dsimp only at h
  generalize rest.takeWhile Char.isAlpha = name at hname hsplit h
  split_ifs at h
  split at h
  · cases h
  · rename_i d tail hdrop
    rw [hdrop] at hsplit
    have hone : '\n' ∉ ('~' :: rest).take (name.length + 1) := by
      rw [List.take_succ_cons, ← hsplit, List.take_left]
      simpa using hname
    split at h
    · rename_i q hq
      split_ifs at h with htriple
      · -- the marks of a heredoc: the third one is the last character
        obtain ⟨t, ht⟩ := startsWithTriple_iff.mp htriple
        have hd : d ≠ '\n' := by
          rintro rfl
          cases hq
        cases h
        rw [← ht] at hsplit
        rw [← hsplit, List.take_succ_cons, List.take_length_add_append]
        simp [hname, hd.symm]
      · cases h
        exact hone
    · obtain ⟨closer, -, heq⟩ := Option.map_eq_some_iff.mp h
      cases heq
      exact hone

/-- Of a character literal, only the last character can be a line feed. -/
theorem newline_not_mem_take_charLiteralBody (rest : List Char) :
    '\n' ∉ ('?' :: rest).take (charLiteralBody rest) := by
  unfold charLiteralBody
  split_ifs with hescape
  · cases rest with
    | nil => cases hescape
    | cons c rest =>
        cases hescape
        simp
  · simp

/-- No character of a unit in code but the last one is a line feed. -/
theorem newline_not_mem_take_moveInCode (s : LexState) (before : Option Char) (c : Char)
    (rest : List Char) : '\n' ∉ (c :: rest).take (s.moveInCode before c rest).extra := by
  unfold LexState.moveInCode
  split
  · rename_i q hq
    split_ifs with htriple
    · obtain ⟨t, ht⟩ := startsWithTriple_iff.mp htriple
      have hc : c ≠ '\n' := by
        rintro rfl
        cases hq
      rw [← ht]
      simp [hc.symm]
    · simp
  · split_ifs with hbrace hhash hchar htilde
    · simp
    · simp
    · rw [hchar.1]
      exact newline_not_mem_take_charLiteralBody rest
    · split
      · rename_i extra mode hopening
        rw [htilde]
        exact newline_not_mem_take_sigilOpening? hopening
      · simp
    · simp

/-- **No character of a unit but the last one is a line feed.** -/
theorem newline_not_mem_take_move (s : LexState) (before : Option Char) (c : Char)
    (rest : List Char) : '\n' ∉ (c :: rest).take (s.move before c rest).extra := by
  have hone : ∀ d : Char, d ≠ '\n' → '\n' ∉ (d :: rest).take 1 := by
    intro d hd
    simpa using hd.symm
  show '\n' ∉ (c :: rest).take (s.moveInMode before c rest).extra
  unfold LexState.moveInMode
  split
  · exact newline_not_mem_take_moveInCode s before c rest
  · split_ifs <;> simp
  · split_ifs with hinter hescape
    · exact hone c (by rw [hinter.1]; decide)
    · exact hone c (by rw [hescape]; decide)
    · simp
    · simp
  · rename_i q _
    split_ifs with hinter hescape htriple
    · exact hone c (by rw [hinter.1]; decide)
    · exact hone c (by rw [hescape]; decide)
    · obtain ⟨t, ht⟩ := startsWithTriple_iff.mp htriple
      have hmark : q.mark ≠ '\n' := by cases q <;> decide
      rw [← ht]
      simp [hmark.symm]
    · simp
  · split_ifs with hescape
    · exact hone c (by rw [hescape]; decide)
    · split <;> simp
    · simp
    · simp

/-! ### Stopping at a line start -/

/-- Whole lines stay whole when something in front of them is cut off. -/
theorem Text.WholeLines.of_append {a b : List Char} (h : WholeLines (a ++ b)) : WholeLines b := by
  intro c hc
  refine h c ?_
  rw [List.getLast?_append, hc]
  rfl

/-- A unit that starts in whole lines ends in them. -/
theorem prefix_of_wholeLines (s : LexState) (before : Option Char) {c : Char}
    {rest p q : List Char} (hp : WholeLines p) (hne : p ≠ []) (h : c :: rest = p ++ q) :
    c :: rest.take (s.move before c rest).extra <+: p := by
  have hunit : c :: rest.take (s.move before c rest).extra <+: c :: rest :=
    List.cons_prefix_cons.mpr ⟨rfl, List.take_prefix _ _⟩
  have hwhole : p <+: c :: rest := ⟨q, h.symm⟩
  rcases List.prefix_or_prefix_of_prefix hunit hwhole with hshort | hlong
  · exact hshort
  · -- otherwise the line feed at the end of `p` would be inside the unit
    rcases Nat.lt_or_ge (s.move before c rest).extra p.length with hlt | hge
    · have hlen := hlong.length_le
      have : p = c :: rest.take (s.move before c rest).extra := by
        refine hlong.eq_of_length ?_
        simp only [List.length_cons, List.length_take] at hlen ⊢
        omega
      exact this ▸ List.prefix_rfl
    · exfalso
      refine newline_not_mem_take_move s before c rest ?_
      have hlast := List.getLast_mem hne
      rw [hp _ (List.getLast?_eq_some_getLast hne)] at hlast
      have hshort : p <+: (c :: rest).take (s.move before c rest).extra :=
        List.prefix_take_iff.mpr ⟨hwhole, hge⟩
      exact hshort.subset hlast

/-- A reading stops at every line start, and goes on from there in the state it has reached. -/
theorem exists_lex_append (s : LexState) (before : Option Char) (p q : List Char)
    (hp : WholeLines p) :
    ∃ ls, lex s before (p ++ q) = ls ++ lex (stateAfter s ls) (p.getLast?.or before) q ∧
      ls.flatMap Lexeme.text = p := by
  generalize hcs : p ++ q = cs
  revert p
  -- the induction follows the units of the reading
  fun_induction lex s before cs with
  | case1 s before =>
      intro p hp hcs
      obtain ⟨rfl, rfl⟩ := List.append_eq_nil_iff.mp hcs
      exact ⟨[], by simp [lex], rfl⟩
  | case2 s before c rest m unit ih =>
      intro p hp hcs
      by_cases hne : p = []
      · subst hne
        rw [List.nil_append] at hcs
        exact ⟨[], by rw [hcs, List.nil_append]; exact (lex_cons s before c rest).symm, rfl⟩
      · obtain ⟨p', hp'⟩ := prefix_of_wholeLines s before hp hne hcs.symm
        change unit ++ p' = p at hp'
        have hrest : p' ++ q = rest.drop m.extra := by
          have hall : unit ++ (p' ++ q) = unit ++ rest.drop m.extra := by
            rw [← List.append_assoc, hp', hcs]
            simp only [unit, List.cons_append, List.take_append_drop]
          exact List.append_cancel_left hall
        have hp'' : WholeLines p' := Text.WholeLines.of_append (hp' ▸ hp)
        obtain ⟨ls, hlex, htext⟩ := ih p' hp'' hrest
        refine ⟨⟨unit, m.literal, m.comment, m.next⟩ :: ls, ?_, ?_⟩
        · have hstate : stateAfter s (⟨unit, m.literal, m.comment, m.next⟩ :: ls) =
              stateAfter m.next ls := stateAfter_append s [_] ls
          have hbefore : p.getLast?.or before = p'.getLast?.or unit.getLast? := by
            rw [← hp', List.getLast?_append, Option.or_assoc]
            have hsome : unit.getLast?.isSome = true := by simp [unit]
            cases hlast : unit.getLast? with
            | none => simp [hlast] at hsome
            | some d => rfl
          rw [hstate, hbefore, List.cons_append, hlex]
        · rw [List.flatMap_cons, htext, hp']

/-! ### Spans from a line start -/

/-- The spans of lexemes that follow one another. -/
theorem spansOf_append (offset : Nat) (ls ks : List Lexeme) :
    spansOf offset (ls ++ ks) =
      spansOf offset ls ++ spansOf (offset + byteLength (ls.flatMap Lexeme.text)) ks := by
  induction ls generalizing offset with
  | nil => rfl
  | cons l ls ih =>
      rw [List.cons_append, spansOf, spansOf, ih, List.cons_append, List.flatMap_cons,
        byteLength_append, Nat.add_assoc]

/-- The spans of lexemes stop at or before the place where the last lexeme stops. -/
theorem stop_le_of_mem_spansOf {offset : Nat} {ls : List Lexeme} {s : Span}
    (h : s ∈ spansOf offset ls) : s.stop ≤ offset + byteLength (ls.flatMap Lexeme.text) := by
  induction ls generalizing offset with
  | nil => cases h
  | cons l ls ih =>
      rw [List.flatMap_cons, byteLength_append]
      rcases List.mem_cons.mp h with rfl | h
      · show offset + byteLength l.text ≤ _
        omega
      · have := ih h
        omega

/-- The span of the last lexeme says whether a literal or comment is open after all of them. -/
theorem exists_mem_spansOf_stateAfter {s : LexState} {ls : List Lexeme} (hne : ls ≠ [])
    (offset : Nat) :
    ∃ x ∈ spansOf offset ls, x.stop = offset + byteLength (ls.flatMap Lexeme.text) ∧
      x.leavesOpen = (stateAfter s ls).isOpen := by
  obtain ⟨ks, l, rfl⟩ := ls.eq_nil_or_concat.resolve_left hne
  rw [List.concat_eq_append, spansOf_append]
  refine ⟨_, List.mem_append_right _ (List.mem_singleton.mpr rfl), ?_, ?_⟩
  · simp [Nat.add_assoc]
  · simp [stateAfter]

/-- Nothing is open exactly in the state in which reading starts. -/
theorem LexState.isOpen_eq_false_iff (s : LexState) : s.isOpen = false ↔ s = .start := by
  obtain ⟨mode, stack⟩ := s
  simp [LexState.isOpen, LexState.start]

/-- A literal or comment that starts before offset `o` is open there: the span of the whole text
that stops at `o` leaves it open. -/
def OpenAt (cs : List Char) (o : Nat) : Prop :=
  ∃ s ∈ spansFrom cs 0, s.stop = o ∧ s.leavesOpen = true

instance (cs : List Char) (o : Nat) : Decidable (OpenAt cs o) :=
  inferInstanceAs (Decidable (∃ s ∈ spansFrom cs 0, s.stop = o ∧ s.leavesOpen = true))

/-- A fresh reading at a line start, outside of every literal, gives the lexemes that are left of a
reading of the whole text. -/
theorem exists_lexemes_append {pre q : List Char} (hpre : WholeLines pre)
    (hclosed : ¬ OpenAt (pre ++ q) (byteLength pre)) :
    ∃ ls, lexemes (pre ++ q) = ls ++ lex .start pre.getLast? q ∧ ls.flatMap Lexeme.text = pre := by
  obtain ⟨ls, hlex, htext⟩ := exists_lex_append .start none pre q hpre
  rw [Option.or_none] at hlex
  have hstate : stateAfter .start ls = .start := by
    by_cases hne : ls = []
    · rw [hne]
      rfl
    · obtain ⟨x, hx, hstop, hopen⟩ := exists_mem_spansOf_stateAfter (s := .start) hne 0
      rw [← LexState.isOpen_eq_false_iff, ← hopen, Bool.eq_false_iff]
      intro hleaves
      refine hclosed ⟨x, ?_, ?_, hleaves⟩
      · rw [spansFrom_zero, lexemes, hlex, spansOf_append]
        exact List.mem_append_left _ hx
      · rw [hstop, htext, Nat.zero_add]
  rw [hstate] at hlex
  exact ⟨ls, hlex, htext⟩

/-- The spans from the length of a prefix on. -/
theorem spansFrom_append (p q : List Char) :
    spansFrom (p ++ q) (byteLength p) = spansOf (byteLength p) (lex .start p.getLast? q) := by
  have hmin : min (byteLength p) (byteLength (p ++ q)) = byteLength p := by
    rw [byteLength_append]
    omega
  rw [spansFrom, enterAt_append, Option.or_none, hmin]
  rfl

/-- **At a line start outside of every literal, a fresh reading and a reading of the whole text are
one from there on.** -/
theorem filter_spansFrom_of_not_openAt {pre q : List Char} (hpre : WholeLines pre)
    (hclosed : ¬ OpenAt (pre ++ q) (byteLength pre)) :
    (spansFrom (pre ++ q) 0).filter (fun s => byteLength pre ≤ s.start) =
      spansFrom (pre ++ q) (byteLength pre) := by
  obtain ⟨ls, hlex, htext⟩ := exists_lexemes_append hpre hclosed
  rw [spansFrom_append, spansFrom_zero, hlex, spansOf_append, htext, Nat.zero_add,
    List.filter_append]
  have hbefore : (spansOf 0 ls).filter (fun s => byteLength pre ≤ s.start) = [] := by
    rw [List.filter_eq_nil_iff]
    intro s hs hle
    have hstop := stop_le_of_mem_spansOf hs
    have hne : ∀ l ∈ ls, l.text ≠ [] := by
      intro l hl
      have hmem : l ∈ lex .start none (pre ++ q) := by
        rw [show lex .start none (pre ++ q) = _ from hlex]
        exact List.mem_append_left _ hl
      exact text_ne_nil_of_mem_lex hmem
    have hlt := start_lt_stop_of_mem_spansOf hne hs
    rw [htext] at hstop
    have := of_decide_eq_true hle
    omega
  have hafter : (spansOf (byteLength pre) (lex .start pre.getLast? q)).filter
      (fun s => byteLength pre ≤ s.start) = spansOf (byteLength pre) (lex .start pre.getLast? q) := by
    rw [List.filter_eq_self]
    intro s hs
    exact decide_eq_true (le_start_of_mem_spansOf hs)
  rw [hbefore, hafter, List.nil_append]

end DslOutline
