import DslOutline.Proofs.Text.Offsets

/-!
# The bytes of a text

Offsets count the bytes of the UTF-8 encoding (`bytes`). This module says what is seen at a single
offset: the byte that stands there, taken as the character with its code (`byteAt?`), and the width
of the character that starts there, if one does (`widthAt`).

A byte below 128 is a character of its own, and no such byte occurs in a wider character. So a test
for an ASCII character has the same outcome on a byte and on the character that it belongs to
(`LooksLike`).
-/

namespace DslOutline.Text

/-! ### Bytes of a text -/

/-- The UTF-8 encoding of a text. -/
def bytes (cs : List Char) : List UInt8 :=
  cs.flatMap String.utf8EncodeChar

/-- Texts are encoded one behind the other. -/
theorem bytes_append (a b : List Char) : bytes (a ++ b) = bytes a ++ bytes b :=
  List.flatMap_append

theorem bytes_singleton (c : Char) : bytes [c] = String.utf8EncodeChar c :=
  List.flatMap_singleton String.utf8EncodeChar c

/-- The length of a text counts the bytes of its encoding. -/
theorem length_bytes (cs : List Char) : (bytes cs).length = byteLength cs := by
  induction cs with
  | nil => rfl
  | cons c cs ih =>
      rw [byteLength_cons, ← ih, ← String.length_utf8EncodeChar]
      exact List.length_append

/-- The bytes of a part of a text, found at its offset. -/
theorem getElem?_bytes_append (a x b : List Char) {k : Nat} (hk : k < byteLength x) :
    (bytes (a ++ (x ++ b)))[byteLength a + k]? = (bytes x)[k]? := by
  rw [← length_bytes] at hk
  rw [← length_bytes, bytes_append, bytes_append, List.getElem?_append_right (Nat.le_add_right _ _),
    Nat.add_sub_cancel_left, List.getElem?_append_left hk]

/-- Each byte of a text belongs to a character. -/
theorem exists_char_of_getElem?_bytes {cs : List Char} {i : Nat} {x : UInt8}
    (h : (bytes cs)[i]? = some x) :
    ∃ a c b k, cs = a ++ c :: b ∧ i = byteLength a + k ∧ k < c.utf8Size ∧
      (bytes [c])[k]? = some x := by
  induction cs generalizing i with
  | nil => cases h
  | cons c cs ih =>
      have hlen : (bytes [c]).length = c.utf8Size := length_bytes [c]
      rw [← List.singleton_append, bytes_append] at h
      by_cases hi : i < c.utf8Size
      · rw [List.getElem?_append_left (by omega)] at h
        exact ⟨[], c, cs, i, rfl, (Nat.zero_add i).symm, hi, h⟩
      · rw [List.getElem?_append_right (by omega), hlen] at h
        obtain ⟨a, d, b, k, rfl, hk, hsize, hx⟩ := ih h
        refine ⟨c :: a, d, b, k, rfl, ?_, hsize, hx⟩
        rw [byteLength_cons]
        omega

/-! ### Bytes as characters -/

/-- A byte, taken as the character with its code, is this character of a text, or neither of the two
is ASCII. -/
def LooksLike (b c : Char) : Prop :=
  b = c ∨ 128 ≤ b.toNat ∧ 128 ≤ c.toNat

/-- Each byte of a character looks like it. -/
theorem looksLike_of_mem_bytes {c : Char} {x : UInt8} (h : x ∈ bytes [c]) :
    LooksLike (Char.ofUInt8 x) c := by
  have hcode : ∀ n : Nat, x = UInt8.ofNat n → (Char.ofUInt8 x).toNat = n % 256 := by
    rintro n rfl
    show (UInt8.ofNat n).toUInt32.toNat = n % 256
    rw [UInt8.toNat_toUInt32, UInt8.toNat_ofNat']
  rw [bytes_singleton] at h
  simp only [String.utf8EncodeChar] at h
  split_ifs at h with h1 h2 h3 <;>
    simp only [List.mem_cons, List.not_mem_nil, or_false] at h
  · left
    refine Char.toNat_inj.mp ?_
    rw [hcode _ h]
    show c.val.toNat % 256 = c.val.toNat
    omega
  -- each byte of a longer encoding is at least 128
  all_goals
    right
    refine ⟨?_, show 128 ≤ c.val.toNat by omega⟩
  · rcases h with h | h <;> rw [hcode _ h] <;> omega
  · rcases h with h | h | h <;> rw [hcode _ h] <;> omega
  · rcases h with h | h | h | h <;> rw [hcode _ h] <;> omega

/-- The byte of a line feed occurs in the encoding of no other character. -/
theorem eq_newline_of_mem_bytes {c : Char} (h : 10 ∈ bytes [c]) : c = '\n' := by
  rcases looksLike_of_mem_bytes h with rfl | ⟨hwide, -⟩
  · rfl
  · exact absurd hwide (by decide)

/-- A wide character is not an ASCII one. -/
theorem ne_of_wide {d m : Char} (hd : 128 ≤ d.toNat) (hm : m.toNat < 128) : d ≠ m := by
  rintro rfl
  omega

/-- Wide characters are above all ASCII characters. -/
theorem not_le_of_wide {d m : Char} (hd : 128 ≤ d.toNat) (hm : m.toNat < 128) : ¬ d.val ≤ m.val := by
  intro hle
  have hcodes : d.toNat ≤ m.toNat := UInt32.le_iff_toNat_le.mp hle
  omega

theorem isAlpha_of_wide {d : Char} (hd : 128 ≤ d.toNat) : d.isAlpha = false := by
  have hupper : d.isUpper = false :=
    decide_eq_false fun h => not_le_of_wide hd (by decide) h.2
  have hlower : d.isLower = false :=
    Bool.and_eq_false_imp.mpr fun _ => decide_eq_false (not_le_of_wide hd (by decide))
  exact Bool.or_eq_false_iff.mpr ⟨hupper, hlower⟩

theorem isDigit_of_wide {d : Char} (hd : 128 ≤ d.toNat) : d.isDigit = false :=
  Bool.and_eq_false_imp.mpr fun _ => decide_eq_false (not_le_of_wide hd (by decide))

theorem isAsciiBlank_of_wide {d : Char} (hd : 128 ≤ d.toNat) : isAsciiBlank d = false := by
  simp [isAsciiBlank, ne_of_wide hd]

namespace LooksLike

variable {b c : Char}

/-- An ASCII character is seen as a byte where it is a character of the text. -/
theorem eq_iff (h : LooksLike b c) {m : Char} (hm : m.toNat < 128) : b = m ↔ c = m := by
  rcases h with rfl | ⟨hb, hc⟩
  · rfl
  · exact iff_of_false (ne_of_wide hb hm) (ne_of_wide hc hm)

/-- A function that does not tell wide characters apart has the same value on both. -/
theorem map_eq {α : Type} {f : Char → α} {a : α} (h : LooksLike b c)
    (hf : ∀ {d : Char}, 128 ≤ d.toNat → f d = a) : f b = f c := by
  rcases h with rfl | ⟨hb, hc⟩
  · rfl
  · rw [hf hb, hf hc]

end LooksLike

/-! ### Looking at an offset -/

/-- The bytes from an offset on, as the characters with their codes. -/
def bytesFrom (cs : List Char) (i : Nat) : List Char :=
  ((bytes cs).drop i).map Char.ofUInt8

/-- The byte at an offset, if there is one. -/
def byteAt? (cs : List Char) (i : Nat) : Option Char :=
  (bytesFrom cs i).head?

/-- The width of the character that starts at an offset. It is 0 at the end, and inside a character,
where none starts. -/
def widthAt (cs : List Char) (i : Nat) : Nat :=
  if isBoundary i cs then ((dropBytes i cs).head?.map Char.utf8Size).getD 0 else 0

/-- The character that is read at an offset has the code of the byte there. -/
theorem byteAt?_eq (cs : List Char) (i : Nat) :
    byteAt? cs i = (bytes cs)[i]?.map Char.ofUInt8 := by
  rw [byteAt?, bytesFrom, List.head?_map, List.head?_drop]

/-- A byte can be read at every offset before the end. -/
theorem byteAt?_eq_none_iff {cs : List Char} {i : Nat} :
    byteAt? cs i = none ↔ byteLength cs ≤ i := by
  rw [byteAt?_eq, Option.map_eq_none_iff, List.getElem?_eq_none_iff, length_bytes]

/-- Behind a prefix stand the bytes of the rest. -/
theorem bytesFrom_append (p q : List Char) (k : Nat) :
    bytesFrom (p ++ q) (byteLength p + k) = bytesFrom q k := by
  rw [bytesFrom, bytes_append, ← length_bytes, List.drop_append, Nat.add_sub_cancel_left,
    List.drop_eq_nil_of_le (Nat.le_add_right _ _), List.nil_append, bytesFrom]

/-- Behind a prefix the bytes are those of the rest. -/
theorem byteAt?_append (p q : List Char) (k : Nat) :
    byteAt? (p ++ q) (byteLength p + k) = byteAt? q k := by
  rw [byteAt?, bytesFrom_append, byteAt?]

/-- Each byte of a character looks like it. -/
theorem exists_byteAt?_cons {c : Char} (q : List Char) {k : Nat} (hk : k < c.utf8Size) :
    ∃ b, byteAt? (c :: q) k = some b ∧ LooksLike b c := by
  have hlen : k < (bytes [c]).length := by
    rw [length_bytes]
    exact hk
  have hget : (bytes (c :: q))[k]? = some (bytes [c])[k] := by
    rw [← List.singleton_append, bytes_append, List.getElem?_append_left hlen,
      List.getElem?_eq_getElem hlen]
  refine ⟨Char.ofUInt8 (bytes [c])[k], ?_, looksLike_of_mem_bytes (List.getElem_mem hlen)⟩
  rw [byteAt?_eq, hget, Option.map_some]

/-- The byte in front of a place looks like the last character there. -/
theorem exists_byteAt?_before {p : List Char} {c : Char} (h : p.getLast? = some c) (q : List Char) :
    0 < byteLength p ∧ ∃ b, byteAt? (p ++ q) (byteLength p - 1) = some b ∧ LooksLike b c := by
  obtain ⟨a, rfl⟩ := List.getLast?_eq_some_iff.mp h
  have hpos := c.utf8Size_pos
  have hlen : byteLength (a ++ [c]) = byteLength a + c.utf8Size := by simp
  refine ⟨by omega, ?_⟩
  rw [hlen, List.append_assoc, Nat.add_sub_assoc hpos, byteAt?_append]
  exact exists_byteAt?_cons q (by omega)

/-- A test that wide characters pass or fail together has the same outcome on the first byte as on
the first character. -/
theorem any_byteAt?_zero {f : Char → Bool} {a : Bool} (hf : ∀ {d : Char}, 128 ≤ d.toNat → f d = a)
    (q : List Char) : (byteAt? q 0).any f = q.head?.any f := by
  cases q with
  | nil => rfl
  | cons c q =>
      obtain ⟨b, hb, hlooks⟩ := exists_byteAt?_cons q c.utf8Size_pos
      rw [hb, Option.any_some, List.head?_cons, Option.any_some, hlooks.map_eq hf]

/-- A first byte in ASCII is the first character, since wide characters have no such bytes. -/
theorem byteAt?_zero_eq_some_iff {m : Char} (hm : m.toNat < 128) (q : List Char) :
    byteAt? q 0 = some m ↔ q.head? = some m := by
  cases q with
  | nil => exact Iff.rfl
  | cons c q =>
      obtain ⟨b, hb, hlooks⟩ := exists_byteAt?_cons q c.utf8Size_pos
      rw [hb, List.head?_cons, Option.some.injEq, Option.some.injEq, hlooks.eq_iff hm]

/-! ### ASCII characters at an offset -/

/-- Characters of ASCII take one byte. -/
theorem utf8Size_of_ascii {c : Char} (hc : c.toNat < 128) : c.utf8Size = 1 := by
  rw [Char.utf8Size_eq_one_iff, UInt32.le_iff_toNat_le]
  show c.val.toNat ≤ 127
  exact Nat.le_of_lt_succ hc

/-- Texts in ASCII have as many bytes as characters. -/
theorem byteLength_of_ascii {cs : List Char} (h : ∀ c ∈ cs, c.toNat < 128) :
    byteLength cs = cs.length := by
  induction cs with
  | nil => rfl
  | cons c cs ih =>
      rw [byteLength_cons, utf8Size_of_ascii (h c List.mem_cons_self),
        ih fun d hd => h d (List.mem_cons_of_mem _ hd), List.length_cons, Nat.add_comm]

/-- Behind an ASCII character stand the bytes of the rest. -/
theorem bytesFrom_ascii_succ {c : Char} (hc : c.toNat < 128) (q : List Char) (k : Nat) :
    bytesFrom (c :: q) (k + 1) = bytesFrom q k := by
  have hlen : byteLength [c] = 1 := by
    rw [byteLength_cons, byteLength_nil, utf8Size_of_ascii hc]
  rw [← List.singleton_append, Nat.add_comm, ← hlen, bytesFrom_append]

/-- An ASCII character is its own byte. -/
theorem bytesFrom_ascii {c : Char} (hc : c.toNat < 128) (q : List Char) :
    bytesFrom (c :: q) 0 = c :: bytesFrom q 0 := by
  obtain ⟨b, hb, hlooks⟩ := exists_byteAt?_cons q c.utf8Size_pos
  rw [(hlooks.eq_iff hc).mpr rfl, byteAt?] at hb
  obtain ⟨tail, htail⟩ := List.head?_eq_some_iff.mp hb
  have hrest : bytesFrom (c :: q) 1 = (bytesFrom (c :: q) 0).tail := by
    rw [bytesFrom, bytesFrom, ← List.map_tail, List.drop_zero, List.drop_one]
  rw [bytesFrom_ascii_succ hc, htail, List.tail_cons] at hrest
  rw [htail, hrest]

/-- An ASCII text stands among the bytes where it stands among the characters. -/
theorem prefix_bytesFrom_iff {pat : List Char} (hpat : ∀ m ∈ pat, m.toNat < 128) (q : List Char) :
    pat <+: bytesFrom q 0 ↔ pat <+: q := by
  induction pat generalizing q with
  | nil => exact iff_of_true List.nil_prefix List.nil_prefix
  | cons m pat ih =>
      have hm : m.toNat < 128 := hpat m List.mem_cons_self
      have hhead := byteAt?_zero_eq_some_iff hm q
      rw [byteAt?, List.head?_eq_some_iff, List.head?_eq_some_iff] at hhead
      constructor
      · rintro ⟨tail, htail⟩
        obtain ⟨q, rfl⟩ := hhead.mp ⟨pat ++ tail, htail.symm⟩
        rw [bytesFrom_ascii hm, List.cons_append, List.cons.injEq] at htail
        exact List.cons_prefix_cons.mpr
          ⟨rfl, (ih (fun n hn => hpat n (List.mem_cons_of_mem _ hn)) q).mp ⟨tail, htail.2⟩⟩
      · rintro ⟨tail, rfl⟩
        rw [List.cons_append, bytesFrom_ascii hm]
        exact List.cons_prefix_cons.mpr ⟨rfl,
          (ih (fun n hn => hpat n (List.mem_cons_of_mem _ hn)) _).mpr (List.prefix_append _ _)⟩

/-- Letters are characters of ASCII. -/
theorem ascii_of_isAlpha {c : Char} (h : c.isAlpha = true) : c.toNat < 128 := by
  by_contra hwide
  rw [isAlpha_of_wide (by omega)] at h
  cases h

/-- A name of ASCII letters ends at the same place among the bytes. -/
theorem takeWhile_isAlpha_bytesFrom (q : List Char) :
    (bytesFrom q 0).takeWhile Char.isAlpha = q.takeWhile Char.isAlpha := by
  induction q with
  | nil => rfl
  | cons c q ih =>
      by_cases hc : c.isAlpha = true
      · rw [bytesFrom_ascii (ascii_of_isAlpha hc), List.takeWhile_cons_of_pos hc,
          List.takeWhile_cons_of_pos hc, ih]
      · obtain ⟨b, hb, hlooks⟩ := exists_byteAt?_cons q c.utf8Size_pos
        obtain ⟨tail, htail⟩ := List.head?_eq_some_iff.mp hb
        rw [htail, List.takeWhile_cons_of_neg hc, List.takeWhile_cons_of_neg]
        rwa [hlooks.map_eq isAlpha_of_wide]

/-! ### Widths -/

/-- Where a character starts, its width is found. -/
theorem widthAt_append (p q : List Char) :
    widthAt (p ++ q) (byteLength p) = byteLength (q.take 1) := by
  rw [widthAt, if_pos (Checked.isBoundary_append p q), dropBytes_append]
  cases q <;> rfl

/-- Inside a character stands one of its bytes that is not ASCII, and no character starts. -/
theorem exists_byteAt?_inside {cs : List Char} {i : Nat} (hi : i < byteLength cs)
    (h : isBoundary i cs = false) :
    widthAt cs i = 0 ∧ ∃ b, byteAt? cs i = some b ∧ 128 ≤ b.toNat := by
  refine ⟨by rw [widthAt, h, if_neg Bool.false_ne_true], ?_⟩
  rw [← length_bytes] at hi
  obtain ⟨p, c, q, k, rfl, rfl, hk, -⟩ :=
    exists_char_of_getElem?_bytes (List.getElem?_eq_getElem hi)
  obtain ⟨b, hb, hlooks⟩ := exists_byteAt?_cons q hk
  rw [byteAt?_append]
  refine ⟨b, hb, ?_⟩
  by_contra hascii
  -- an ASCII character has no inside
  have hsize := utf8Size_of_ascii (c := c) (by rcases hlooks with rfl | hwide <;> omega)
  obtain rfl : k = 0 := by omega
  rw [Nat.add_zero, Checked.isBoundary_append] at h
  cases h

/-- No offset among the bytes left of a cut character is a boundary. -/
theorem isBoundary_stray {cs : List Char} {start k : Nat} (hk : k < (enterAt none start cs).stray) :
    isBoundary (start + k) cs = false := by
  by_contra hboundary
  rw [Bool.not_eq_false] at hboundary
  obtain ⟨p, q, rfl, hlen⟩ := exists_of_isBoundary hboundary
  have hstray := enterAt_stray_add hk
  rw [← hlen, enterAt_append] at hstray
  dsimp only at hstray
  omega

end DslOutline.Text
