/-!
# Text

Text is a sequence of code points. Names, tags and messages are text rather than
`String`, because text of the input may hold a surrogate code point standing alone, which
no `Char` is: such text is compared, quoted and written back like any other.

A code point is a natural below `0x110000`; `Text.ofString` takes the characters of a
`String`, and every operation here is one on the list of code points.
-/

namespace L1

/-- Text as its code points, each below `0x110000`, lone surrogates included. -/
structure Text where
  /-- The code points, first to last. -/
  points : List Nat
deriving DecidableEq, Inhabited

namespace Text

/-- The code points of a `String`. -/
def ofString (s : String) : Text :=
  ⟨s.toList.map Char.toNat⟩

def empty : Text := ⟨[]⟩

instance : Append Text := ⟨fun a b => ⟨a.points ++ b.points⟩⟩

def isEmpty (t : Text) : Bool :=
  t.points.isEmpty

def length (t : Text) : Nat :=
  t.points.length

def take (n : Nat) (t : Text) : Text :=
  ⟨t.points.take n⟩

def contains (t : Text) (n : Nat) : Bool :=
  t.points.contains n

/-- Texts joined, with `sep` between each two. -/
def intercalate (sep : Text) : List Text → Text
  | [] => empty
  | [t] => t
  | t :: ts => t ++ sep ++ intercalate sep ts

@[simp] theorem points_append (a b : Text) : (a ++ b).points = a.points ++ b.points := rfl

@[simp] theorem points_ofString (s : String) : (ofString s).points = s.toList.map Char.toNat := rfl

end Text

end L1

/-!
## Blank characters

The code points that count as blank when the text of a setting is trimmed: the Unicode
white space characters together with the four information separators `U+001C` to
`U+001F`. The zero-width space `U+200B` is not blank.

A number literal is trimmed of fewer: the information separators stay, and so make the
literal unreadable (`Text.isLiteralBlank`).

`Text.trim` removes blanks at both ends; `Text.asciiLower` lowers `A` to `Z` only, which
decides membership in a list of lower-case ASCII words exactly as full case folding would,
since no other code point lowers to an ASCII letter that such a word could hold.
-/

namespace L1.Text

/-- The ranges of blank code points, as closed intervals in increasing order. -/
def blankRanges : List (Nat × Nat) :=
  [(0x09, 0x0D), (0x1C, 0x20), (0x85, 0x85), (0xA0, 0xA0), (0x1680, 0x1680),
   (0x2000, 0x200A), (0x2028, 0x2029), (0x202F, 0x202F), (0x205F, 0x205F),
   (0x3000, 0x3000)]

/-- Whether a code point is blank. -/
def isBlank (n : Nat) : Bool :=
  blankRanges.any (fun r => r.1 ≤ n && n ≤ r.2)

/-- Whether a code point is one of the information separators `U+001C` to `U+001F`. -/
def isSeparator (n : Nat) : Bool :=
  0x1C ≤ n && n ≤ 0x1F

/-- Whether a code point is trimmed from a number literal: blank, and no separator. -/
def isLiteralBlank (n : Nat) : Bool :=
  isBlank n && !isSeparator n

def trimBy (p : Nat → Bool) (ns : List Nat) : List Nat :=
  ((ns.dropWhile p).reverse.dropWhile p).reverse

/-- The text with blanks removed from both ends. -/
def trim (t : Text) : Text :=
  ⟨trimBy isBlank t.points⟩

def asciiLowerPoint (n : Nat) : Nat :=
  if 0x41 ≤ n ∧ n ≤ 0x5A then n + 32 else n

/-- The text with its ASCII letters lowered. -/
def asciiLower (t : Text) : Text :=
  ⟨t.points.map asciiLowerPoint⟩

end L1.Text

/-!
## Decimal digits

Every script that has decimal digits writes them as a run of ten consecutive code points,
zero first. A number literal may be written in any of them, and a digit stands for the
same value in each (`Text.digitValue?`). The table lists the zero of each run, after
Unicode 14.0.
-/

namespace L1.Text

/-- The code point of the zero of each run of decimal digits, in increasing order. -/
def digitZeros : List Nat :=
  [0x30, 0x660, 0x6F0, 0x7C0, 0x966, 0x9E6, 0xA66, 0xAE6, 0xB66, 0xBE6, 0xC66, 0xCE6, 0xD66,
   0xDE6, 0xE50, 0xED0, 0xF20, 0x1040, 0x1090, 0x17E0, 0x1810, 0x1946, 0x19D0, 0x1A80,
   0x1A90, 0x1B50, 0x1BB0, 0x1C40, 0x1C50, 0xA620, 0xA8D0, 0xA900, 0xA9D0, 0xA9F0, 0xAA50,
   0xABF0, 0xFF10, 0x104A0, 0x10D30, 0x11066, 0x110F0, 0x11136, 0x111D0, 0x112F0, 0x11450,
   0x114D0, 0x11650, 0x116C0, 0x11730, 0x118E0, 0x11950, 0x11C50, 0x11D50, 0x11DA0, 0x16A60,
   0x16AC0, 0x16B50, 0x1D7CE, 0x1D7D8, 0x1D7E2, 0x1D7EC, 0x1D7F6, 0x1E140, 0x1E2F0, 0x1E950,
   0x1FBF0]

/-- The value of a code point that is a decimal digit of any script. -/
def digitValue? (n : Nat) : Option Nat :=
  (digitZeros.find? (fun z => z ≤ n && n < z + 10)).map (fun z => n - z)

end L1.Text

/-!
## UTF-8 with escaped bytes

Text that is stored as bytes is written in UTF-8, where a surrogate `U+DC80` to `U+DCFF`
stands for the single byte `0x80` to `0xFF` it carries (`Text.encodePoint`); no other
surrogate has bytes. Bytes are read back as UTF-8 (`Text.decodeBytes`): every well-formed
sequence gives its code point, and every byte that starts none gives the surrogate that
carries it. Text round-trips exactly when its escaped bytes do not join into a sequence:
`U+DCC2 U+DCA0` is stored as `C2 A0` and read back as `U+00A0`.
-/

namespace L1.Text

/-- The UTF-8 bytes of a code point; a byte-carrying surrogate gives its byte. Meant for code
points other than the surrogates `U+D800` to `U+DC7F` and `U+DD00` to `U+DFFF`. -/
def encodePoint (n : Nat) : List Nat :=
  if n < 0x80 then [n]
  else if n < 0x800 then [0xC0 + n / 64, 0x80 + n % 64]
  else if 0xDC80 ≤ n ∧ n ≤ 0xDCFF then [n - 0xDC00]
  else if n < 0x10000 then [0xE0 + n / 4096, 0x80 + n / 64 % 64, 0x80 + n % 64]
  else [0xF0 + n / 262144, 0x80 + n / 4096 % 64, 0x80 + n / 64 % 64, 0x80 + n % 64]

def isContinuation (b : Nat) : Bool :=
  0x80 ≤ b && b ≤ 0xBF

/-- The least and greatest second byte after a lead byte of three or four bytes; the
bounds rule out overlong forms, surrogates and values beyond `U+10FFFF`. -/
def secondRange (b0 : Nat) : Nat × Nat :=
  if b0 = 0xE0 then (0xA0, 0xBF)
  else if b0 = 0xED then (0x80, 0x9F)
  else if b0 = 0xF0 then (0x90, 0xBF)
  else if b0 = 0xF4 then (0x80, 0x8F)
  else (0x80, 0xBF)

/-- The well-formed sequence that starts with the byte `b0`, followed by `rest`: its code
point and how many bytes of `rest` it takes. -/
def front? (b0 : Nat) (rest : List Nat) : Option (Nat × Nat) :=
  let inSecond (b1 : Nat) := (secondRange b0).1 ≤ b1 && b1 ≤ (secondRange b0).2
  if b0 < 0x80 then some (b0, 0)
  else if 0xC2 ≤ b0 ∧ b0 ≤ 0xDF then
    match rest with
    | b1 :: _ => if isContinuation b1 then some ((b0 - 0xC0) * 64 + (b1 - 0x80), 1) else none
    | [] => none
  else if 0xE0 ≤ b0 ∧ b0 ≤ 0xEF then
    match rest with
    | b1 :: b2 :: _ =>
      if inSecond b1 && isContinuation b2 then
        some (((b0 - 0xE0) * 64 + (b1 - 0x80)) * 64 + (b2 - 0x80), 2)
      else none
    | _ => none
  else if 0xF0 ≤ b0 ∧ b0 ≤ 0xF4 then
    match rest with
    | b1 :: b2 :: b3 :: _ =>
      if inSecond b1 && isContinuation b2 && isContinuation b3 then
        some ((((b0 - 0xF0) * 64 + (b1 - 0x80)) * 64 + (b2 - 0x80)) * 64 + (b3 - 0x80), 3)
      else none
    | _ => none
  else none

/-- The code points that bytes read back as, a byte that starts no well-formed sequence
giving the surrogate that carries it. -/
def decodeBytes : List Nat → List Nat
  | [] => []
  | b :: rest =>
    match front? b rest with
    | some (n, extra) => n :: decodeBytes (rest.drop extra)
    | none => (0xDC00 + b) :: decodeBytes rest
termination_by bs => bs.length
decreasing_by
  all_goals simp only [List.length_drop, List.length_cons]
  all_goals omega

end L1.Text
