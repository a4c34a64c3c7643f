import DslOutline.Lexeme.State
import Mathlib.Tactic.SplitIfs

/-!
# The modes that a unit leads to

A state stands in one mode and will resume others, one for each open interpolation. A unit does one
of three things to them (`modeChange_move`): it leads to another mode and leaves the others alone,
it starts an interpolation and keeps the mode of the string for later, or it ends the innermost
interpolation. What holds of the modes along a reading follows from this, without another look at
the branches of `LexState.moveInMode`.
-/

namespace DslOutline

/-! ### The opener of a sigil -/

/-- The mode that a sigil's delimiter opens, and the number of characters of the delimiter. -/
def sigilDelimiter? : List Char → Option (Nat × Mode)
  | [] => none
  | d :: rest =>
    match Quote.ofChar? d with
    | some q =>
      if startsWithTriple d (d :: rest) then some (3, .heredoc q) else some (1, .sigil d d 0)
    | none => (sigilCloser? d).map fun closer => (1, .sigil d closer 0)

/-- The opener of a sigil is a name of letters and a delimiter. -/
theorem sigilOpening?_eq (cs : List Char) :
    sigilOpening? cs =
      if (cs.takeWhile Char.isAlpha).isEmpty then none
      else (sigilDelimiter? (cs.drop (cs.takeWhile Char.isAlpha).length)).map fun o =>
        ((cs.takeWhile Char.isAlpha).length + o.1, o.2) := by
  rw [sigilOpening?]
  split_ifs
  · rfl
  · cases cs.drop (cs.takeWhile Char.isAlpha).length with
    | nil => rfl
    | cons d rest =>
        rw [sigilDelimiter?]
        dsimp only
        cases Quote.ofChar? d with
        | some q =>
            dsimp only
            split_ifs <;> rfl
        | none =>
            dsimp only
            rw [Option.map_map]
            rfl

/-- A sigil opens a heredoc, or a literal up to the closer that belongs to its delimiter. -/
theorem mode_of_sigilDelimiter? {cs : List Char} {n : Nat} {mode : Mode}
    (h : sigilDelimiter? cs = some (n, mode)) :
    (∃ q, mode = .heredoc q) ∨
      ∃ opener closer, sigilCloser? opener = some closer ∧ mode = .sigil opener closer 0 := by
  cases cs with
  | nil => cases h
  | cons d rest =>
      rw [sigilDelimiter?] at h
      split at h
      · rename_i q hquote
        split_ifs at h
        · cases h
          exact Or.inl ⟨q, rfl⟩
        · cases h
          -- a quotation mark is its own closer
          have hcloser : sigilCloser? d = some d := by
            unfold Quote.ofChar? at hquote
            split_ifs at hquote with hdouble hsingle
            · rw [hdouble]
              rfl
            · rw [hsingle]
              rfl
          exact Or.inr ⟨d, d, hcloser, rfl⟩
      · obtain ⟨closer, hcloser, heq⟩ := Option.map_eq_some_iff.mp h
        cases heq
        exact Or.inr ⟨d, closer, hcloser, rfl⟩

/-- A sigil opens a heredoc, or a literal with delimiters that belong together and no open bracket
in it. -/
theorem mode_of_sigilOpening? {cs : List Char} {extra : Nat} {mode : Mode}
    (h : sigilOpening? cs = some (extra, mode)) :
    (∃ q, mode = .heredoc q) ∨
      ∃ opener closer, sigilCloser? opener = some closer ∧ mode = .sigil opener closer 0 := by
  rw [sigilOpening?_eq] at h
  split_ifs at h
  obtain ⟨o, hdelimiter, heq⟩ := Option.map_eq_some_iff.mp h
  cases heq
  exact mode_of_sigilDelimiter? hdelimiter

/-! ### What can happen to the modes -/

/-- The modes that the open interpolations resume, innermost first. -/
def LexState.resumed (s : LexState) : List Mode :=
  s.interpolations.map Prod.fst

/-- The modes that follow a mode where no interpolation starts or ends. -/
inductive Mode.LeadsTo : Mode → Mode → Prop
  | refl (mode : Mode) : LeadsTo mode mode
  | code (mode : Mode) : LeadsTo mode .code
  | comment : LeadsTo .code .comment
  | quoted (q : Quote) : LeadsTo .code (.quoted q)
  | heredoc (q : Quote) : LeadsTo .code (.heredoc q)
  | sigil {opener closer : Char} : sigilCloser? opener = some closer →
      LeadsTo .code (.sigil opener closer 0)
  | nested (opener closer : Char) (depth depth' : Nat) :
      LeadsTo (.sigil opener closer depth) (.sigil opener closer depth')

/-- What a unit does to the modes of a state. -/
inductive ModeChange (s t : LexState) : Prop
  /-- No interpolation starts or ends. -/
  | within : s.mode.LeadsTo t.mode → t.resumed = s.resumed → ModeChange s t
  /-- An interpolation starts in a string. -/
  | starts (q : Quote) : s.mode = .quoted q ∨ s.mode = .heredoc q → t.mode = .code →
      t.resumed = s.mode :: s.resumed → ModeChange s t
  /-- The innermost interpolation ends. -/
  | ends : s.resumed = t.mode :: t.resumed → ModeChange s t

namespace ModeChange

variable {s : LexState}

theorem refl (s : LexState) : ModeChange s s :=
  .within (.refl _) rfl

theorem withMode {mode : Mode} (h : s.mode.LeadsTo mode) : ModeChange s (s.withMode mode) :=
  .within h rfl

theorem interpolate {q : Quote} (h : s.mode = .quoted q ∨ s.mode = .heredoc q) :
    ModeChange s s.interpolate :=
  .starts q h rfl rfl

/-- A brace is counted, or ends the interpolation, whose mode is resumed. -/
theorem brace (s : LexState) (c : Char) : ModeChange s (s.brace c) := by
  obtain ⟨mode, stack⟩ := s
  cases stack with
  | nil => exact refl _
  | cons i outer =>
      obtain ⟨resume, depth⟩ := i
      unfold LexState.brace
      split_ifs
      · exact .within (.refl _) rfl
      · cases depth with
        | zero => exact .ends rfl
        | succ d => exact .within (.refl _) rfl

end ModeChange

/-! ### Units -/

/-- **What a unit does to the modes.** -/
theorem modeChange_move (s : LexState) (before : Option Char) (c : Char) (rest : List Char) :
    ModeChange s (s.move before c rest).next := by
  show ModeChange s (s.moveInMode before c rest).next
  unfold LexState.moveInMode
  cases hm : s.mode with
  | code =>
      have hopen : ∀ mode, Mode.code.LeadsTo mode → ModeChange s (s.withMode mode) := by
        intro mode h
        exact .withMode (hm ▸ h)
      dsimp only
      unfold LexState.moveInCode
      split
      · split_ifs
        · exact hopen _ (.heredoc _)
        · exact hopen _ (.quoted _)
      · split_ifs
        · exact .brace s c
        · exact hopen _ .comment
        · exact .refl s
        · split
          · rename_i mode hopening
            rcases mode_of_sigilOpening? hopening with ⟨q, rfl⟩ | ⟨opener, closer, hcloser, rfl⟩
            · exact hopen _ (.heredoc q)
            · exact hopen _ (.sigil hcloser)
          · exact .refl s
        · exact .refl s
  | comment =>
      dsimp only
      split_ifs
      · exact .withMode (.code _)
      · exact .refl s
  | quoted q =>
      dsimp only
      split_ifs
      · exact .interpolate (Or.inl hm)
      · exact .refl s
      · exact .withMode (.code _)
      · exact .refl s
  | heredoc q =>
      dsimp only
      split_ifs
      · exact .interpolate (Or.inr hm)
      · exact .refl s
      · exact .withMode (.code _)
      · exact .refl s
  | sigil opener closer depth =>
      have hdepth : ∀ d, ModeChange s (s.withMode (.sigil opener closer d)) := by
        intro d
        exact .withMode (hm ▸ .nested opener closer depth d)
      dsimp only
      split_ifs
      · exact .refl s
      · split
        · exact .withMode (.code _)
        · exact hdepth _
      · exact hdepth _
      · exact .refl s

end DslOutline
