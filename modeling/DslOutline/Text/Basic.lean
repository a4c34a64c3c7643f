/-!
# Texts

A text is a list of characters. What matters of a character is whether it is white space, and how
many bytes it takes in UTF-8.
-/

namespace DslOutline.Text

/-!
## Blank characters and trimming

Blank means the Unicode property `White_Space`; the table below lists its twenty-five characters
as ranges of code points. Trimming and blankness of a line use this set, while the neighbours of a
block keyword are tested against a few ASCII characters (see `Block.Ending`).
-/

/-- The code points with the Unicode property `White_Space`, as closed ranges in order. -/
def blankRanges : List (Nat × Nat) :=
  [(0x09, 0x0D), (0x20, 0x20), (0x85, 0x85), (0xA0, 0xA0), (0x1680, 0x1680), (0x2000, 0x200A),
   (0x2028, 0x2029), (0x202F, 0x202F), (0x205F, 0x205F), (0x3000, 0x3000)]

/-- Whether a character is white space. -/
def isBlank (c : Char) : Bool :=
  blankRanges.any fun r => r.1 ≤ c.toNat && c.toNat ≤ r.2

/-- Whether a character is one of the ASCII white-space characters: space, tab, line feed, form
feed or carriage return. -/
def isAsciiBlank (c : Char) : Bool :=
  c == ' ' || c == '\t' || c == '\n' || c == '\x0c' || c == '\r'

/-- The text without its leading white space. -/
def trimStart (cs : List Char) : List Char :=
  cs.dropWhile isBlank

/-- The text without the longest run of characters at its end that satisfy `p`. -/
def dropEndWhile (p : Char → Bool) (cs : List Char) : List Char :=
  (cs.reverse.dropWhile p).reverse

/-- The text without its trailing white space. -/
def trimEnd (cs : List Char) : List Char :=
  dropEndWhile isBlank cs

/-- The text without white space at either end. -/
def trim (cs : List Char) : List Char :=
  trimEnd (trimStart cs)

/-- Whether a string holds nothing but white space. -/
def isBlankString (s : String) : Bool :=
  s.toList.all isBlank

/-- The string without white space at either end. -/
def trimString (s : String) : String :=
  String.ofList (trim s.toList)

/-!
## Byte offsets into a text

Every offset of the library counts the bytes of the UTF-8 encoding. A text is a list of
characters, so an offset is resolved by walking the list and adding up character widths. Cutting a
text is total: a character in which the cut falls goes whole to the part before it. `isBoundary`
says that no character is hit, in which case the two parts have the lengths asked for.
-/

/-- The number of bytes of a text. -/
def byteLength : List Char → Nat
  | [] => 0
  | c :: cs => c.utf8Size + byteLength cs

/-- What follows the first `n` bytes. -/
def dropBytes : Nat → List Char → List Char
  | _, [] => []
  | 0, c :: cs => c :: cs
  | n + 1, c :: cs => dropBytes (n + 1 - c.utf8Size) cs

/-- The characters that start within the first `n` bytes. -/
def takeBytes : Nat → List Char → List Char
  | _, [] => []
  | 0, _ :: _ => []
  | n + 1, c :: cs => c :: takeBytes (n + 1 - c.utf8Size) cs

/-- The text between two offsets. -/
def slice (start stop : Nat) (cs : List Char) : List Char :=
  takeBytes (stop - start) (dropBytes start cs)

/-- Whether offset `n` stands between two characters, or at an end of the text. -/
def isBoundary : Nat → List Char → Bool
  | 0, _ => true
  | _ + 1, [] => false
  | n + 1, c :: cs => c.utf8Size ≤ n + 1 && isBoundary (n + 1 - c.utf8Size) cs

/-- The offsets between characters, both ends included, for a text that starts at `offset`. -/
def boundaries (offset : Nat) : List Char → List Nat
  | [] => [offset]
  | c :: cs => offset :: boundaries (offset + c.utf8Size) cs

/-- A place to start reading in the middle of a text. -/
structure Entry where
  /-- The character before the place; the one that is cut when the place is inside a character. -/
  before : Option Char
  /-- How many bytes of a cut character are left. -/
  stray : Nat
  /-- The characters from the next boundary on. -/
  rest : List Char
deriving Repr, DecidableEq

/-- The place at offset `n`, or the end of the text when there are fewer bytes. -/
def enterAt (before : Option Char) : Nat → List Char → Entry
  | _, [] => ⟨before, 0, []⟩
  | 0, c :: cs => ⟨before, 0, c :: cs⟩
  | n + 1, c :: cs =>
    if c.utf8Size ≤ n + 1 then enterAt (some c) (n + 1 - c.utf8Size) cs
    else ⟨some c, c.utf8Size - (n + 1), cs⟩

@[simp] theorem byteLength_nil : byteLength [] = 0 := rfl

@[simp] theorem byteLength_cons (c : Char) (cs : List Char) :
    byteLength (c :: cs) = c.utf8Size + byteLength cs := rfl

@[simp] theorem byteLength_append (a b : List Char) :
    byteLength (a ++ b) = byteLength a + byteLength b := by
  induction a with
  | nil => simp
  | cons c cs ih => simp [ih, Nat.add_assoc]

end DslOutline.Text
