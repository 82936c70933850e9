import L1.Number.Basic
import L1.Text.Basic

/-!
# Reading number literals

A number literal is read in two steps. First its text becomes ASCII
(`Binary64.literalChars?`): literal blanks (`Text.isLiteralBlank`) are trimmed from both
ends, a decimal digit of any script becomes the ASCII digit of its value, and any other
code point outside ASCII makes the text unreadable. Then the ASCII text must match the
grammar.

A float literal is an optional sign followed by one of

* `inf`, `infinity` or `nan`, in any case;
* a decimal number: digits, a point and digits, where one of the two digit parts may be
  empty but not both, and then an optional exponent `e` or `E` with an optional sign and
  digits.

A single underscore may stand between two digits of a digit part. The value is the
binary64 value nearest to the decimal (`Binary64.ofDecimal`); a NaN is read without its
sign.

An integer literal is read as the ASCII text goes (`Binary64.readInteger`): blanks outside
ASCII become spaces, digits of every script ASCII digits, and the text ends at the first
other code point outside ASCII. After ASCII blanks and an optional sign comes a run of
digits and underscores; a run with an underscore that does not stand between two digits is
no literal, a run of more than `Number.digitLimit` digits is too long to read, whatever
follows it, and otherwise the run must hold a digit and be followed by ASCII blanks only.
-/

namespace L1.Binary64

def isDigitOrMark (c : Char) : Bool :=
  c.isDigit || c == '_'

/-- Splits off the longest prefix of digits and underscores. -/
def digitRun (cs : List Char) : List Char × List Char :=
  (cs.takeWhile isDigitOrMark, cs.dropWhile isDigitOrMark)

/-- Whether a run of digits and underscores is a digit part: it starts and ends with a
digit, and no two underscores are adjacent. -/
def grouped : List Char → Bool
  | [] => false
  | [c] => c.isDigit
  | c :: '_' :: rest => c.isDigit && grouped rest
  | c :: d :: rest => c.isDigit && grouped (d :: rest)

def digitsOf (cs : List Char) : List Char :=
  cs.filter Char.isDigit

def digitsValue (cs : List Char) : Nat :=
  cs.foldl (fun n c => 10 * n + (c.toNat - '0'.toNat)) 0

def splitSign : List Char → Bool × List Char
  | '-' :: r => (true, r)
  | '+' :: r => (false, r)
  | r => (false, r)

/-- A signed exponent: an optional sign, then a digit part that ends the text. -/
def exponent? (cs : List Char) : Option Int :=
  let (neg, body) := splitSign cs
  let (run, rest) := digitRun body
  if grouped run && rest.isEmpty then
    let n : Int := digitsValue (digitsOf run)
    some (if neg then -n else n)
  else none

/-- An unsigned decimal number as digits and a power of ten, `none` unless the whole text
is one. -/
def decimal? (cs : List Char) : Option (Nat × Int) :=
  let (whole, afterWhole) := digitRun cs
  let (frac, afterFrac) := match afterWhole with
    | '.' :: r => digitRun r
    | r => ([], r)
  let partsOk := (whole.isEmpty || grouped whole) && (frac.isEmpty || grouped frac)
    && !(whole.isEmpty && frac.isEmpty)
  let scale? : Option Int := match afterFrac with
    | [] => some 0
    | c :: r => if c == 'e' || c == 'E' then exponent? r else none
  match partsOk, scale? with
  | true, some scale =>
    let fracDigits := digitsOf frac
    some (digitsValue (digitsOf whole ++ fracDigits), scale - fracDigits.length)
  | _, _ => none

/-- The value of an unsigned literal: a special word or a decimal number. -/
def unsignedLiteral? (neg : Bool) (cs : List Char) : Option Float :=
  let word := String.ofList (cs.map Char.toLower)
  if word = "inf" ∨ word = "infinity" then some (inf neg)
  else if word = "nan" then some nan
  else (decimal? cs).map (fun d => ofDecimal neg d.1 d.2)

/-- The ASCII form of the text of a literal: trimmed of literal blanks, with decimal digits
of every script as ASCII digits; `none` when another code point outside ASCII remains. -/
def literalChars? (t : L1.Text) : Option (List Char) :=
  (L1.Text.trimBy L1.Text.isLiteralBlank t.points).mapM (fun n =>
    if n < 0x80 then some (Char.ofNat n)
    else (L1.Text.digitValue? n).map (fun d => Char.ofNat ('0'.toNat + d)))

/-- Reads a float literal, `none` when the text is not one. -/
def readLiteral? (t : L1.Text) : Option Float := do
  let (neg, body) := splitSign (← literalChars? t)
  unsignedLiteral? neg body

/-- What reading an integer literal gives. -/
inductive IntegerReading where
  /-- The integer written. -/
  | value (n : Int)
  /-- The text is no integer literal. -/
  | invalid
  /-- The literal has this many digits, more than `Number.digitLimit`. -/
  | tooLong (digits : Nat)

/-- The ASCII text an integer literal is read from: code points below `0x7F` as they are,
blanks outside ASCII as spaces, decimal digits of every script as ASCII digits, and the
text cut after the first other code point, which becomes `?`. -/
def integerChars : List Nat → List Char
  | [] => []
  | n :: rest =>
    if n < 0x7F then Char.ofNat n :: integerChars rest
    else if L1.Text.isBlank n then ' ' :: integerChars rest
    else
      match L1.Text.digitValue? n with
      | some d => Char.ofNat ('0'.toNat + d) :: integerChars rest
      | none => ['?']

/-- Whether a character is an ASCII blank: space, tab, line feed, vertical tab, form feed or
carriage return. -/
def isAsciiBlank (c : Char) : Bool :=
  c == ' ' || ('\t' ≤ c && c ≤ '\r')

def readInteger (t : L1.Text) : IntegerReading :=
  let (neg, body) := splitSign ((integerChars t.points).dropWhile isAsciiBlank)
  let run := body.takeWhile isDigitOrMark
  let after := (body.dropWhile isDigitOrMark).dropWhile isAsciiBlank
  let digits := (digitsOf run).length
  if !run.isEmpty && !grouped run then .invalid
  else if Number.digitLimit < digits then .tooLong digits
  else if run.isEmpty || !after.isEmpty then .invalid
  else
    let n : Int := digitsValue (digitsOf run)
    .value (if neg then -n else n)

end L1.Binary64
