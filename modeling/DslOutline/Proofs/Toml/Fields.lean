import DslOutline.Proofs.Toml.Strings
import DslOutline.Toml.Reader
import Mathlib.Data.List.Nodup

/-!
# Flat files that are written are read back

`Writes text v` says that `text` is read as the value `v` at the end of a line. It holds of what is
written for a string, a truth value, a number and a list of strings. A file of such fields, all with
names of their own, is read back as these fields (`parse?_lines`).
-/

namespace DslOutline.Toml

/-- A text that is read as a value if a line feed follows. -/
def Writes (text : String) (v : Value) : Prop :=
  ∀ (fuel : Nat) (rest : List Char), text.toList.length < fuel →
    readValue depthLimit fuel (text.toList ++ '\n' :: rest) = some (v, '\n' :: rest)

/-! ### Strings -/

/-- Whatever form a string is written in, a quote comes first, and this is how a value is known to
be one. -/
theorem head?_renderString (s : String) :
    ∃ quote text, (renderString s).toList = quote :: text ∧ (quote = '"' ∨ quote = '\'') := by
  cases hform : (StringTraits.of s.toList).form with
  | basic => exact ⟨'"', _, by simp [renderString, hform]; rfl, Or.inl rfl⟩
  | literal => exact ⟨'\'', _, by simp [renderString, hform]; rfl, Or.inr rfl⟩
  | multiLineBasic => exact ⟨'"', _, by simp [renderString, hform]; rfl, Or.inl rfl⟩
  | multiLineLiteral => exact ⟨'\'', _, by simp [renderString, hform]; rfl, Or.inr rfl⟩

/-- As a value, too, a written string is read back, if no quote follows it. -/
theorem readValue_renderString (s : String) (room fuel : Nat) {rest : List Char}
    (hdouble : rest.head? ≠ some '"') (hsingle : rest.head? ≠ some '\'') :
    readValue room (fuel + 1) ((renderString s).toList ++ rest) = some (.string s, rest) := by
  have hread := readString_renderString s hdouble hsingle
  obtain ⟨quote, text, htext, hquote⟩ := head?_renderString s
  rw [htext, List.cons_append] at hread ⊢
  unfold readValue
  rcases hquote with rfl | rfl <;> simp [hread]

theorem writes_renderString (s : String) : Writes (renderString s) (.string s) := by
  intro fuel rest hfuel
  obtain ⟨fuel, rfl⟩ := Nat.exists_eq_add_one_of_ne_zero (Nat.ne_zero_of_lt hfuel)
  exact readValue_renderString s _ fuel (by simp) (by simp)

/-! ### Truth values and numbers -/

theorem writes_renderBool (b : Bool) : Writes (renderBool b) (.boolean b) := by
  intro fuel rest hfuel
  obtain ⟨fuel, rfl⟩ := Nat.exists_eq_add_one_of_ne_zero (Nat.ne_zero_of_lt hfuel)
  cases b <;> rfl

/-- The reader's value of decimal digits is the library's. -/
theorem numberOf_ten {cs : List Char} (h : ∀ c ∈ cs, c.isDigit = true) :
    numberOf 10 cs = Nat.ofDigitChars 10 cs 0 := by
  unfold numberOf Nat.ofDigitChars
  apply List.foldl_ext
  intro n c hc
  have hdigit := h c hc
  simp only [Char.isDigit, Bool.and_eq_true, decide_eq_true_eq] at hdigit
  have hvalue : Charset.hexValue? c = some (c.toNat - '0'.toNat) := by
    unfold Charset.hexValue?
    exact if_pos hdigit
  rw [hvalue, Option.getD_some]

/-- Digits without a separator between them are taken as they stand. -/
theorem digitsOf?_eq_some {ok : Char → Bool} {cs : List Char} (hnil : cs ≠ [])
    (hok : ∀ c ∈ cs, ok c = true) (hmark : ok '_' = false) : digitsOf? ok cs = some cs := by
  have hparts : cs.splitOnP (· == '_') = [cs] := by
    apply List.splitOnP_eq_singleton
    intro c hc
    rw [beq_eq_false_iff_ne]
    rintro rfl
    rw [hok _ hc] at hmark
    cases hmark
  simpa [digitsOf?, hparts, hnil] using hok

/-- Only zero is written with a zero in front. -/
theorem head?_toDigits {n : Nat} (h : (Nat.toDigits 10 n).head? = some '0') : n = 0 := by
  induction n using Nat.strongRecOn with
  | ind n ih =>
    rw [Nat.toDigits_eq_if (by decide)] at h
    split_ifs at h with hn
    · have hzero : ∀ n < 10, Nat.digitChar n = '0' → n = 0 := by decide
      exact hzero n hn (by simpa using h)
    · rw [List.head?_append_of_ne_nil _ Nat.toDigits_ne_nil] at h
      have := ih (n / 10) (by omega) h
      omega

/-- Decimal notation consists of digits. -/
theorem isDigit_of_mem_decimal {n : Nat} {c : Char} (hc : c ∈ Nat.toDigits 10 n) :
    c.isDigit = true :=
  Nat.isDigit_of_mem_toDigits (by decide) (by decide) hc

/-- A decimal number is not one of the words that mean something else. -/
theorem decimal_ne {n : Nat} {c : Char} {cs : List Char} (hc : c ∈ cs) (h : c.isDigit = false) :
    Nat.toDigits 10 n ≠ cs := by
  rintro rfl
  rw [isDigit_of_mem_decimal hc] at h
  cases h

/-- A number in decimal notation is read back as an integer. -/
theorem integerOf?_toDigits (n : Nat) : integerOf? (Nat.toDigits 10 n) = some (n : Int) := by
  have hdigit : ∀ c ∈ Nat.toDigits 10 n, c.isDigit = true := fun c => isDigit_of_mem_decimal
  have hbase : ∀ c, c.isDigit = false → ∀ cs, Nat.toDigits 10 n ≠ '0' :: c :: cs := fun c hc cs =>
    decimal_ne (c := c) (by simp) hc
  have hsign : ∀ c, c.isDigit = false → ∀ cs, Nat.toDigits 10 n ≠ c :: cs := fun c hc cs =>
    decimal_ne List.mem_cons_self hc
  have hzero : ¬((Nat.toDigits 10 n).head? = some '0' ∧ (Nat.toDigits 10 n).length ≠ 1) := by
    rintro ⟨hhead, hlength⟩
    rw [head?_toDigits hhead] at hlength
    exact hlength rfl
  have hdecimal : decimalDigits? (Nat.toDigits 10 n) = some (Nat.toDigits 10 n) := by
    unfold decimalDigits?
    rw [digitsOf?_eq_some Nat.toDigits_ne_nil hdigit (by decide)]
    exact if_neg hzero
  rw [integerOf?.eq_4 _ (hbase 'x' (by decide)) (hbase 'o' (by decide)) (hbase 'b' (by decide)),
    splitSign.eq_3 _ (hsign '+' (by decide)) (hsign '-' (by decide))]
  simp [hdecimal, numberOf_ten hdigit, Nat.ofDigitChars_toDigits]

/-- Decimal digits are none of the other values that are written without quotes, such as times or
floats. -/
theorem scalarOf?_toDigits {n : Nat} (h : n < 0x100000000000000000000000000000000) :
    scalarOf? (Nat.toDigits 10 n) = some (.integer n) := by
  have htrue : Nat.toDigits 10 n ≠ "true".toList := decimal_ne (c := 't') (by decide) (by decide)
  have hfalse : Nat.toDigits 10 n ≠ "false".toList := decimal_ne (c := 'f') (by decide) (by decide)
  have hfits : fitsInteger n = true := by
    simp only [fitsInteger, Bool.and_eq_true, decide_eq_true_eq]
    omega
  unfold scalarOf?
  rw [if_neg (by simpa using htrue), if_neg (by simpa using hfalse), integerOf?_toDigits]
  exact if_pos hfits

/-- A number is read up to the line feed behind it. -/
theorem readScalar_toDigits {n : Nat} (h : n < 0x100000000000000000000000000000000)
    (rest : List Char) :
    readScalar (Nat.toDigits 10 n ++ '\n' :: rest) = some (.integer n, '\n' :: rest) := by
  have hfirst : (Nat.toDigits 10 n ++ '\n' :: rest).takeWhile isScalarChar = Nat.toDigits 10 n := by
    rw [List.takeWhile_append_of_pos fun c hc => by
      simp [isScalarChar, Char.isAlphanum, isDigit_of_mem_decimal hc]]
    simp [isScalarChar]
  have htext : scalarText (Nat.toDigits 10 n ++ '\n' :: rest) = Nat.toDigits 10 n := by
    simp [scalarText, hfirst]
  simp [readScalar, htext, scalarOf?_toDigits h]

/-- Numbers that fit into 128 bits are read back. -/
theorem writes_toString {n : Nat} (h : n < 0x100000000000000000000000000000000) :
    Writes (toString n) (.integer n) := by
  intro fuel rest hfuel
  obtain ⟨fuel, rfl⟩ := Nat.exists_eq_add_one_of_ne_zero (Nat.ne_zero_of_lt hfuel)
  have hread := readScalar_toDigits h rest
  obtain ⟨c, cs, hdigits⟩ := List.exists_cons_of_ne_nil (Nat.toDigits_ne_nil (n := n) (b := 10))
  have hc : c.isDigit = true := isDigit_of_mem_decimal (n := n) (by simp [hdigits])
  have hne : ∀ d : Char, d.isDigit = false → c ≠ d := by
    rintro d hd rfl
    rw [hc] at hd
    cases hd
  have htext : (toString n).toList = c :: cs := by simpa using hdigits
  rw [hdigits] at hread
  rw [htext, List.cons_append, readValue.eq_4 _ _ _ _ (hne _ (by decide)) (hne _ (by decide)),
    if_neg (by simp [hne])]
  exact hread

/-! ### Lists of strings -/

/-- Nothing is skipped in front of a string: it starts with a quote, and not with a blank or a
comment. -/
theorem skipTrivia_renderString (s : String) (fuel : Nat) (rest : List Char) :
    skipTrivia (fuel + 1) ((renderString s).toList ++ rest) =
      some ((renderString s).toList ++ rest) := by
  obtain ⟨quote, text, htext, hquote⟩ := head?_renderString s
  rw [htext]
  rcases hquote with rfl | rfl <;> rfl

/-- A string in a list, with a comma or the closing bracket behind it. -/
theorem readArray_renderString {s : String} {cs : List Char} {mark : Char} {rest : List Char}
    (hskip : skipTrivia (cs.length + 1) cs = some ((renderString s).toList ++ mark :: rest))
    (room fuel : Nat) (acc : List Value) :
    (mark = ',' → readArray room acc (fuel + 2) cs =
      readArray room (.string s :: acc) (fuel + 1) rest) ∧
    (mark = ']' → readArray room acc (fuel + 2) cs =
      some (.array (acc.reverse ++ [.string s]), rest)) := by
  have hvalue : mark = ',' ∨ mark = ']' → readValue room (fuel + 1)
      ((renderString s).toList ++ mark :: rest) = some (.string s, mark :: rest) := by
    rintro (rfl | rfl) <;> exact readValue_renderString s room fuel (by simp) (by simp)
  obtain ⟨quote, text, htext, hquote⟩ := head?_renderString s
  rw [htext, List.cons_append] at hskip hvalue
  rw [readArray, hskip]
  constructor
  · rintro rfl
    rcases hquote with rfl | rfl <;>
      simp [hvalue, skipTrivia, skipSpaces, skipComment?, readNewline?]
  · rintro rfl
    rcases hquote with rfl | rfl <;>
      simp [hvalue, skipTrivia, skipSpaces, skipComment?, readNewline?]

/-- The lines of a list of two or more strings. -/
def itemLines (ss : List String) : List Char :=
  ss.flatMap fun s => ("    " ++ renderString s ++ ",\n").toList

theorem itemLines_cons (s : String) (ss : List String) :
    itemLines (s :: ss) =
      "    ".toList ++ ((renderString s).toList ++ ',' :: '\n' :: itemLines ss) := by
  simp [itemLines]

/-- Every string takes a line at least, so the text of a list bounds how often its reader has to go
on. -/
theorem length_le_itemLines (ss : List String) : ss.length ≤ (itemLines ss).length := by
  induction ss with
  | nil => simp
  | cons s ss ih =>
    simp only [itemLines_cons, List.length_append, List.length_cons]
    omega

/-- The lines of a list are read back one string at a time; `acc` holds the strings that were read
before. -/
theorem readArray_itemLines (ss : List String) (room : Nat) (acc : List Value) {fuel : Nat}
    (hfuel : ss.length < fuel) (rest : List Char) :
    readArray room acc (fuel + 1) ('\n' :: (itemLines ss ++ ']' :: rest)) =
      some (.array (acc.reverse ++ ss.map .string), rest) := by
  induction ss generalizing acc fuel with
  | nil => simp [itemLines, readArray, skipTrivia, skipSpaces, skipComment?, readNewline?]
  | cons s ss ih =>
    obtain ⟨fuel, rfl⟩ := Nat.exists_eq_add_one_of_ne_zero (Nat.ne_zero_of_lt hfuel)
    -- a line end and blanks are skipped in one go
    have hskip : ∀ fuel rest, skipTrivia (fuel + 2)
        ('\n' :: ("    ".toList ++ ((renderString s).toList ++ rest))) =
          some ((renderString s).toList ++ rest) := skipTrivia_renderString s
    rw [itemLines_cons, List.append_assoc, List.append_assoc, List.cons_append, List.cons_append,
      (readArray_renderString (hskip _ _) room fuel acc).1 rfl]
    simpa using ih (.string s :: acc) (by simpa using hfuel)

/-- Lists of strings are read back, whether they are written on one line or on several. -/
theorem writes_renderStrings (ss : List String) :
    Writes (renderStrings ss) (.array (ss.map .string)) := by
  intro fuel rest hfuel
  match ss, hfuel with
  | [], hfuel =>
    obtain ⟨fuel, rfl⟩ : ∃ f, fuel = f + 2 :=
      ⟨fuel - 2, (Nat.sub_add_cancel (Nat.le_of_lt hfuel)).symm⟩
    rfl
  | [s], hfuel =>
    have htext : (renderStrings [s]).toList = '[' :: ((renderString s).toList ++ [']']) := by
      simp [renderStrings]
    obtain ⟨quote, text, hquoted, -⟩ := head?_renderString s
    rw [htext, hquoted] at hfuel
    obtain ⟨fuel, rfl⟩ : ∃ f, fuel = f + 3 := ⟨fuel - 3, by
      simp only [List.length_cons, List.length_append] at hfuel
      omega⟩
    have hskip := skipTrivia_renderString s
    have h := (readArray_renderString (hskip _ (']' :: '\n' :: rest)) (depthLimit - 1) fuel []).2
      rfl
    simpa [htext, readValue, depthLimit] using h
  | s :: t :: ss, hfuel =>
    have htext : (renderStrings (s :: t :: ss)).toList =
        '[' :: '\n' :: (itemLines (s :: t :: ss) ++ [']']) := by
      simp [renderStrings, itemLines, List.flatMap_map]
    have hlength := length_le_itemLines (s :: t :: ss)
    rw [htext] at hfuel ⊢
    simp only [List.length_cons, List.length_append, List.length_nil] at hfuel hlength
    obtain ⟨fuel, rfl⟩ : ∃ f, fuel = f + 2 := ⟨fuel - 2, by omega⟩
    have hitems : (s :: t :: ss).length < fuel := by
      simp only [List.length_cons]
      omega
    simpa [readValue, depthLimit] using
      readArray_itemLines (s :: t :: ss) _ [] hitems ('\n' :: rest)

/-! ### Files -/

/-- A text that starts with no blank is left as it is. -/
theorem skipSpaces_cons {c : Char} (hspace : c ≠ ' ') (htab : c ≠ '\t') (cs : List Char) :
    skipSpaces (c :: cs) = c :: cs := by
  simp [skipSpaces, hspace, htab]

/-- A value does not start with a blank, so that the blanks in front of it can be skipped. -/
theorem skipSpaces_of_writes {text : String} {v : Value} (h : Writes text v) (rest : List Char) :
    skipSpaces (text.toList ++ '\n' :: rest) = text.toList ++ '\n' :: rest := by
  have hread := h (text.toList.length + 1) rest (Nat.lt_succ_self _)
  cases htext : text.toList with
  | nil => rfl
  | cons c cs =>
    rw [htext] at hread
    apply skipSpaces_cons
    · rintro rfl
      cases hread
    · rintro rfl
      cases hread

/-- A field of a flat file: its name, and its value with the text that is written for it. -/
structure WrittenField where
  name : String
  text : String
  value : Value
  name_ne : name.toList ≠ [] := by decide
  name_bare : name.toList.all isBareKeyChar = true := by decide
  writes : Writes text value

namespace WrittenField

/-- The line of a field. -/
def line (f : WrittenField) : List Char :=
  (renderField f.name f.text).toList

/-- The parts of a field's line: its name, the sign between blanks, and the text of its value. -/
theorem line_append (f : WrittenField) (rest : List Char) :
    f.line ++ rest = f.name.toList ++ ' ' :: '=' :: ' ' :: (f.text.toList ++ '\n' :: rest) := by
  simp [line, renderField]

/-- A line starts with a character of the field's name. -/
theorem head_line (f : WrittenField) (rest : List Char) :
    ∃ c cs, f.line ++ rest = c :: cs ∧ isBareKeyChar c = true := by
  obtain ⟨c, cs, hname⟩ := List.exists_cons_of_ne_nil f.name_ne
  refine ⟨c, cs ++ ' ' :: '=' :: ' ' :: (f.text.toList ++ '\n' :: rest), ?_,
    List.all_eq_true.mp f.name_bare c ?_⟩
  · rw [line_append, hname, List.cons_append]
  · simp [hname]

theorem line_length_pos (f : WrittenField) : 0 < f.line.length := by
  obtain ⟨c, cs, hline, -⟩ := f.head_line []
  rw [List.append_nil] at hline
  simp [hline]

/-- A line is not taken for a blank line, a comment or a table header. -/
theorem line_ne (f : WrittenField) {c : Char} (hc : isBareKeyChar c = false) (rest cs : List Char) :
    f.line ++ rest ≠ c :: cs := by
  obtain ⟨d, ds, hline, hd⟩ := f.head_line rest
  rw [hline]
  intro h
  rw [List.cons.injEq] at h
  rw [h.1, hc] at hd
  cases hd

/-- The key in front of the sign is the name of the field. -/
theorem readKey_line (f : WrittenField) (fuel : Nat) (rest : List Char) :
    readKey [] (fuel + 1) (f.line ++ rest) =
      some (([], f.name), '=' :: ' ' :: (f.text.toList ++ '\n' :: rest)) := by
  have hpart : readKeyPart (f.line ++ rest) =
      some (f.name, ' ' :: '=' :: ' ' :: (f.text.toList ++ '\n' :: rest)) := by
    rw [readKeyPart.eq_3 _ (f.line_ne (by decide) rest) (f.line_ne (by decide) rest), line_append,
      List.takeWhile_append_of_pos (List.all_eq_true.mp f.name_bare)]
    simp [isBareKeyChar, f.name_ne]
  simp [readKey, hpart, skipSpaces, depthLimit]

/-- A field with a new name is added behind the others. -/
theorem insert_field (f : WrittenField) {t : Table} (hnew : f.name ∉ t.fields.map Prod.fst) :
    t.insert [] f.name f.value = some (t.push f.name f.value) := by
  have hget : t.fields.get? f.name = none := by
    simp only [List.mem_map, not_exists, not_and] at hnew
    simpa [Fields.get?] using fun name value h => hnew (name, value) h
  simp [Table.insert, Table.modify, hget]

/-- A line is read as a statement that adds its field to the root table. -/
theorem readStatement_line (f : WrittenField) {s : FileState} (hcurrent : s.current = [])
    (hnew : f.name ∉ s.root.fields.map Prod.fst) (rest : List Char) :
    readStatement s (f.line ++ rest) =
      some ({ s with root := s.root.push f.name f.value }, '\n' :: rest) := by
  have hvalue := f.writes ((f.text.toList ++ '\n' :: rest).length + 1) rest (by
    rw [List.length_append]
    omega)
  have hinsert : Table.modify false s.current s.root (Table.insert [] f.name f.value) =
      some (s.root.push f.name f.value) := by
    rw [hcurrent]
    exact f.insert_field hnew
  have hblank : skipSpaces (' ' :: (f.text.toList ++ '\n' :: rest)) =
      f.text.toList ++ '\n' :: rest :=
    skipSpaces_of_writes f.writes rest
  rw [readStatement.eq_3 _ _ (fun cs => f.line_ne (by decide) rest _)
    (f.line_ne (by decide) rest), readKey_line]
  have hequals : ∀ cs, ['='].isPrefixOf? (skipSpaces ('=' :: cs)) = some cs := fun _ => rfl
  simp only [Option.bind_eq_bind, Option.bind_some, hequals, hblank, hvalue, hinsert]
  rfl

/-- One step of reading a file takes one line and adds its field. -/
theorem readLines_line (f : WrittenField) {s : FileState} (hcurrent : s.current = [])
    (hnew : f.name ∉ s.root.fields.map Prod.fst) (fuel : Nat) (rest : List Char) :
    readLines s (fuel + 1) (f.line ++ rest) =
      readLines { s with root := s.root.push f.name f.value } fuel rest := by
  have hstatement := readStatement_line f hcurrent hnew rest
  obtain ⟨c, cs, hline, hc⟩ := f.head_line rest
  have hne : ∀ d, isBareKeyChar d = false → c ≠ d := by
    rintro d hd rfl
    rw [hd] at hc
    cases hc
  have hskip : skipComment? (skipSpaces (c :: cs)) = some (c :: cs) := by
    rw [skipSpaces_cons (hne _ (by decide)) (hne _ (by decide)),
      skipComment?.eq_2 _ fun _ h => hne '#' (by decide) (List.cons.inj h).1]
  have hnewline : readNewline? (c :: cs) = none :=
    readNewline?.eq_3 _ (fun _ h => hne '\n' (by decide) (List.cons.inj h).1)
      (fun _ h => hne '\r' (by decide) (List.cons.inj h).1)
  have hend : skipComment? (skipSpaces ('\n' :: rest)) = some ('\n' :: rest) := rfl
  have hnext : readNewline? ('\n' :: rest) = some rest := rfl
  rw [hline] at hstatement ⊢
  simp [readLines, hskip, hnewline, hstatement, hend, hnext]

end WrittenField

/-- Reading the lines of fields adds them in order, as long as no name occurs twice. -/
theorem readLines_lines (fs : List WrittenField) {s : FileState} (hcurrent : s.current = [])
    (hnodup : (s.root.fields.map Prod.fst ++ fs.map WrittenField.name).Nodup) {fuel : Nat}
    (hfuel : (fs.flatMap WrittenField.line).length < fuel) :
    (readLines s fuel (fs.flatMap WrittenField.line)).map (fun s => s.root.fields) =
      some (s.root.fields ++ fs.map fun f => (f.name, f.value)) := by
  induction fs generalizing s fuel with
  | nil =>
    obtain ⟨fuel, rfl⟩ := Nat.exists_eq_add_one_of_ne_zero (Nat.ne_zero_of_lt hfuel)
    simp [readLines, skipSpaces, skipComment?]
  | cons f fs ih =>
    obtain ⟨fuel, rfl⟩ := Nat.exists_eq_add_one_of_ne_zero (Nat.ne_zero_of_lt hfuel)
    have hnew : f.name ∉ s.root.fields.map Prod.fst := by
      intro h
      exact (List.disjoint_of_nodup_append hnodup) h List.mem_cons_self
    have hpos := f.line_length_pos
    rw [List.flatMap_cons, List.length_append] at hfuel
    have hlength : (fs.flatMap WrittenField.line).length < fuel := by omega
    have hrest := ih (s := { s with root := s.root.push f.name f.value }) hcurrent
      (by simpa [Table.push] using hnodup) hlength
    rw [List.flatMap_cons, f.readLines_line hcurrent hnew, hrest]
    simp [Table.push]

/-- A flat file in which no two fields have one name is read back as its fields. -/
theorem parse?_lines (fs : List WrittenField) (hnodup : (fs.map WrittenField.name).Nodup)
    {file : String} (hfile : file.toList = fs.flatMap WrittenField.line) :
    parse? file = some (fs.map fun f => (f.name, f.value)) := by
  have hmark : ∀ cs, fs.flatMap WrittenField.line ≠ '\ufeff' :: cs := by
    cases fs with
    | nil => simp
    | cons f fs => exact f.line_ne (by decide) _
  have h := readLines_lines fs (s := {}) rfl (by simpa using hnodup) (Nat.lt_succ_self _)
  unfold parse?
  rw [hfile]
  split
  · rename_i cs hcs
    exact absurd hcs (hmark cs)
  · simpa using h

end DslOutline.Toml
