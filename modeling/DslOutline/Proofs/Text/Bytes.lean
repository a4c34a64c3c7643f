import DslOutline.Text.Basic
import Mathlib.Data.List.Basic

/-!
# Offsets as lengths of prefixes

An offset between two characters is the length of the text in front of it, so a statement about
such offsets is a statement about ways to write the text as `p ++ q`. Two prefixes of one text are
compared by their lengths (`prefix_of_byteLength_le`), and cutting at the length of a prefix gives
back the two parts (`dropBytes_append`, `takeBytes_append`, `slice_append`). An arbitrary offset,
also one inside a character or past the end, is resolved by `enterAt_spec`.
-/

namespace DslOutline.Text

/-! ### Comparing prefixes by length -/

/-- A prefix is no longer than the whole. -/
theorem byteLength_le_of_prefix {p q : List Char} (h : p <+: q) : byteLength p ≤ byteLength q := by
  obtain ⟨t, rfl⟩ := h
  rw [byteLength_append]
  exact Nat.le_add_right _ _

/-- Only the empty text has no bytes. -/
theorem byteLength_eq_zero {p : List Char} : byteLength p = 0 ↔ p = [] := by
  constructor
  · intro h
    cases p with
    | nil => rfl
    | cons c p =>
        have hc := c.utf8Size_pos
        rw [byteLength_cons] at h
        omega
  · rintro rfl
    rfl

/-- A prefix with as many bytes as the whole is the whole. -/
theorem eq_of_prefix_of_byteLength_le {p q : List Char} (h : p <+: q)
    (hle : byteLength q ≤ byteLength p) : p = q := by
  obtain ⟨t, rfl⟩ := h
  rw [byteLength_append] at hle
  have ht : t = [] := byteLength_eq_zero.mp (by omega)
  rw [ht, List.append_nil]

/-- Of two prefixes of one text, the shorter one is a prefix of the longer one. -/
theorem prefix_of_byteLength_le {p q cs : List Char} (hp : p <+: cs) (hq : q <+: cs)
    (h : byteLength p ≤ byteLength q) : p <+: q := by
  rcases List.prefix_or_prefix_of_prefix hp hq with hpq | hqp
  · exact hpq
  · have hqe : q = p := eq_of_prefix_of_byteLength_le hqp h
    subst hqe
    exact List.prefix_rfl

/-- A prefix of a text is determined by its length. -/
theorem prefix_eq_of_byteLength_eq {p q cs : List Char} (hp : p <+: cs) (hq : q <+: cs)
    (h : byteLength p = byteLength q) : p = q :=
  eq_of_prefix_of_byteLength_le (prefix_of_byteLength_le hp hq (Nat.le_of_eq h))
    (Nat.le_of_eq h.symm)

/-! ### Cutting at the length of a prefix -/

@[simp] theorem dropBytes_zero (cs : List Char) : dropBytes 0 cs = cs := by
  cases cs <;> rfl

@[simp] theorem takeBytes_zero (cs : List Char) : takeBytes 0 cs = [] := by
  cases cs <;> rfl

/-- Dropping exactly the bytes of the first character. -/
theorem dropBytes_cons_add (c : Char) (n : Nat) (cs : List Char) :
    dropBytes (c.utf8Size + n) (c :: cs) = dropBytes n cs := by
  obtain ⟨k, hk⟩ : ∃ k, c.utf8Size + n = k + 1 :=
    ⟨c.utf8Size + n - 1, by have := c.utf8Size_pos; omega⟩
  rw [hk, dropBytes, ← hk, Nat.add_sub_cancel_left]

/-- Taking the first character and what fits after it. -/
theorem takeBytes_cons_add (c : Char) (n : Nat) (cs : List Char) :
    takeBytes (c.utf8Size + n) (c :: cs) = c :: takeBytes n cs := by
  obtain ⟨k, hk⟩ : ∃ k, c.utf8Size + n = k + 1 :=
    ⟨c.utf8Size + n - 1, by have := c.utf8Size_pos; omega⟩
  rw [hk, takeBytes, ← hk, Nat.add_sub_cancel_left]

@[simp] theorem dropBytes_append (p q : List Char) : dropBytes (byteLength p) (p ++ q) = q := by
  induction p with
  | nil => exact dropBytes_zero q
  | cons c p ih => rw [byteLength_cons, List.cons_append, dropBytes_cons_add, ih]

@[simp] theorem takeBytes_append (p q : List Char) : takeBytes (byteLength p) (p ++ q) = p := by
  induction p with
  | nil => exact takeBytes_zero q
  | cons c p ih => rw [byteLength_cons, List.cons_append, takeBytes_cons_add, ih]

/-- What is taken is a prefix, also if a character is cut. -/
theorem takeBytes_prefix (n : Nat) (cs : List Char) : takeBytes n cs <+: cs := by
  induction cs generalizing n with
  | nil => cases n <;> exact List.prefix_rfl
  | cons c cs ih =>
      cases n with
      | zero => exact List.nil_prefix
      | succ n => exact List.cons_prefix_cons.mpr ⟨rfl, ih _⟩

/-- The text between the lengths of two nested prefixes is what the longer one has more. -/
theorem slice_append (p m q : List Char) :
    slice (byteLength p) (byteLength (p ++ m)) (p ++ (m ++ q)) = m := by
  unfold slice
  rw [dropBytes_append, byteLength_append, Nat.add_sub_cancel_left, takeBytes_append]

/-! ### Entering a text at an offset -/

/-- Entering at the length of a prefix. -/
theorem enterAt_append (before : Option Char) (p q : List Char) :
    enterAt before (byteLength p) (p ++ q) = ⟨p.getLast?.or before, 0, q⟩ := by
  induction p generalizing before with
  | nil => cases q <;> rfl
  | cons c p ih =>
      obtain ⟨k, hk⟩ : ∃ k, c.utf8Size + byteLength p = k + 1 :=
        ⟨c.utf8Size + byteLength p - 1, by have := c.utf8Size_pos; omega⟩
      rw [byteLength_cons, List.cons_append, hk, enterAt, if_pos (by omega), ← hk,
        Nat.add_sub_cancel_left, ih, List.getLast?_cons]
      cases p.getLast? <;> rfl

/-- Where reading starts for an arbitrary offset: `rest` is a suffix of the text, `before` the
character in front of it, and `stray` the distance from the offset to it. -/
theorem enterAt_spec (before : Option Char) (n : Nat) (cs : List Char) :
    ∃ p, cs = p ++ (enterAt before n cs).rest ∧
      (enterAt before n cs).before = p.getLast?.or before ∧
      byteLength p = min n (byteLength cs) + (enterAt before n cs).stray := by
  induction cs generalizing before n with
  | nil =>
      refine ⟨[], ?_, ?_, ?_⟩ <;> cases n <;> simp [enterAt]
  | cons c cs ih =>
      cases n with
      | zero => exact ⟨[], by simp [enterAt]⟩
      | succ n =>
          rw [enterAt]
          split
          · obtain ⟨p, hcs, hbefore, hlen⟩ := ih (some c) (n + 1 - c.utf8Size)
            refine ⟨c :: p, by rw [List.cons_append, ← hcs], ?_, ?_⟩
            · rw [hbefore, List.getLast?_cons]
              cases p.getLast? <;> rfl
            · rw [byteLength_cons, byteLength_cons, hlen]
              omega
          · refine ⟨[c], rfl, rfl, ?_⟩
            simp only [byteLength_cons, byteLength_nil]
            omega

/-- The bytes that are left of a cut character are all inside it. -/
theorem enterAt_stray_add {before : Option Char} {n k : Nat} {cs : List Char}
    (hk : k < (enterAt before n cs).stray) :
    (enterAt before (n + k) cs).stray = (enterAt before n cs).stray - k := by
  induction cs generalizing before n with
  | nil => cases n <;> simp [enterAt] at hk
  | cons c cs ih =>
      cases n with
      | zero => simp [enterAt] at hk
      | succ n =>
          rw [Nat.succ_add]
          rw [enterAt] at hk ⊢
          split at hk
          · rename_i hle
            rw [if_pos (by omega), show n + k + 1 - c.utf8Size = n + 1 - c.utf8Size + k by omega,
              ih hk, enterAt, if_pos hle]
          · rename_i hlt
            simp only at hk
            rw [if_neg (by omega), enterAt, if_neg hlt]
            simp only
            omega

end DslOutline.Text
