import DslOutline.Text.Position
import Mathlib.Data.List.DropRight

/-!
# What trimming keeps

Dropping characters at the end of a text leaves a prefix of it, and never cuts into a part whose
last character is to be kept (`dropEndWhile_append`). The terminator of a line and the white space
around it are both dropped in this way.
-/

namespace DslOutline.Text

/-! ### Dropping at the end -/

/-- The library's function of the same meaning, so that its lemmas apply. -/
theorem dropEndWhile_eq_rdropWhile (p : Char → Bool) (cs : List Char) :
    dropEndWhile p cs = cs.rdropWhile p := rfl

/-- Dropping at the end does not cut into a part whose last character is kept. -/
theorem dropEndWhile_append {p : Char → Bool} {a : List Char}
    (h : ∀ c, a.getLast? = some c → p c = false) (b : List Char) :
    dropEndWhile p (a ++ b) = a ++ dropEndWhile p b := by
  simp only [dropEndWhile_eq_rdropWhile]
  induction b using List.reverseRecOn with
  | nil =>
      rw [List.append_nil, List.rdropWhile_nil, List.append_nil, List.rdropWhile_eq_self_iff]
      intro ha hp
      have hlast := h _ (List.getLast?_eq_some_getLast ha)
      rw [hp] at hlast
      cases hlast
  | append_singleton b c ih =>
      rw [← List.append_assoc, List.rdropWhile_concat, List.rdropWhile_concat, ih]
      split
      · rfl
      · exact List.append_assoc a b [c]

/-! ### Line terminators -/

theorem trimTerminator_prefix (cs : List Char) : trimTerminator cs <+: cs :=
  List.rdropWhile_prefix _ cs

/-- A line without its terminator ends with neither of the characters that are trimmed. -/
theorem getLast?_trimTerminator {cs : List Char} {c : Char}
    (h : (trimTerminator cs).getLast? = some c) : c ≠ '\r' ∧ c ≠ '\n' := by
  rw [trimTerminator, dropEndWhile, List.getLast?_reverse] at h
  have hnot := List.head?_dropWhile_not (fun c => c == '\r' || c == '\n') cs.reverse
  rw [h] at hnot
  simpa using hnot

/-- A line feed at the end belongs to the terminator. -/
theorem trimTerminator_append_newline (cs : List Char) :
    trimTerminator (cs ++ ['\n']) = trimTerminator cs :=
  List.rdropWhile_concat_pos _ cs '\n' rfl

/-- A part that ends with neither a carriage return nor a line feed stays. -/
theorem trimTerminator_append {a : List Char} (hr : a.getLast? ≠ some '\r')
    (hn : a.getLast? ≠ some '\n') (b : List Char) :
    trimTerminator (a ++ b) = a ++ trimTerminator b := by
  refine dropEndWhile_append ?_ b
  intro c hc
  have hcr : c ≠ '\r' := fun h => hr (h ▸ hc)
  have hcn : c ≠ '\n' := fun h => hn (h ▸ hc)
  simp [hcr, hcn]

/-! ### White space around a text -/

/-- The white space at the start, and the rest. -/
theorem takeWhile_append_trimStart (cs : List Char) :
    cs.takeWhile isBlank ++ trimStart cs = cs :=
  List.takeWhile_append_dropWhile

/-- Trimming cuts white space off both ends. -/
theorem exists_eq_append_trim (cs : List Char) :
    ∃ t, cs = cs.takeWhile isBlank ++ (trim cs ++ t) ∧ ∀ c ∈ t, isBlank c = true := by
  refine ⟨(trimStart cs).rtakeWhile isBlank, ?_, fun c hc => List.mem_rtakeWhile_imp hc⟩
  rw [trim, trimEnd, dropEndWhile_eq_rdropWhile, List.rdropWhile_append_rtakeWhile,
    takeWhile_append_trimStart]

/-- What is added behind a text that is not blank is behind its indentation. -/
theorem trimStart_append {a : List Char} (h : trimStart a ≠ []) (b : List Char) :
    trimStart (a ++ b) = trimStart a ++ b ∧
      (a ++ b).takeWhile isBlank = a.takeWhile isBlank := by
  have hstart : trimStart (a ++ b) = trimStart a ++ b := by
    rw [trimStart, List.dropWhile_append, ← trimStart, if_neg (by simpa using h)]
  refine ⟨hstart, ?_⟩
  have hall := takeWhile_append_trimStart (a ++ b)
  rw [hstart, ← List.append_assoc] at hall
  have hsame := (List.append_cancel_right hall).trans (takeWhile_append_trimStart a).symm
  exact List.append_cancel_right hsame

/-- A blank text stays blank with more white space behind it. -/
theorem trimStart_append_of_blank {a b : List Char} (h : trimStart a = [])
    (hb : ∀ c ∈ b, isBlank c = true) : trimStart (a ++ b) = [] := by
  rw [trimStart, List.dropWhile_append, ← trimStart, h]
  simpa [List.dropWhile_eq_nil_iff] using hb

/-- White space at the end is trimmed. -/
theorem trim_append_of_blank (a : List Char) {b : List Char} (hb : ∀ c ∈ b, isBlank c = true) :
    trim (a ++ b) = trim a := by
  by_cases ha : trimStart a = []
  · rw [trim, trim, trimStart_append_of_blank ha hb, ha]
  · rw [trim, trim, (trimStart_append ha b).1, trimEnd, trimEnd, dropEndWhile, dropEndWhile,
      List.reverse_append, List.dropWhile_append_of_pos (by simpa using hb)]

end DslOutline.Text
