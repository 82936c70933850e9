import L1.Number.Literal
import L1.Text.Quote
import L1.Text.Basic
import L1.Apply

/-!
# Reading a request and writing its answer

Around evaluation lie the texts of a request and of its answer. A request's integer and
float literals are read (`readInteger`, `readFloat`); a setting is stored as bytes and read
back from them (`storeSetting`); and an answer must be writable, which an integer of more
than `Number.digitLimit` digits is not (`Value.writable`, `Fault.writable`). Each of these
can fail with a `RequestFault`, which answers the request in place of the library.

A setting is stored in UTF-8 with escaped bytes (`Text.encodePoint`), where only the
surrogates `U+DC80` to `U+DCFF` have bytes, and a NUL cannot be stored, since it would end
the setting. The first surrogate that cannot be stored is reported with the rest of its run
of surrogates. What is read back is the UTF-8 reading of the bytes (`Text.decodeBytes`).
-/

namespace L1

/-- Why a request is answered by a fault outside the language. -/
inductive RequestFault where
  /-- The text is no integer literal. -/
  | notInteger (text : Text)
  /-- An integer literal has this many digits, more than `Number.digitLimit`. -/
  | tooManyDigits (digits : Nat)
  /-- The text is no float literal. -/
  | notFloat (text : Text)
  /-- The code points `start` to `stop - 1` of a setting are surrogates that cannot be
  stored, the first of them `first`. -/
  | unencodable (first start stop : Nat)
  /-- A setting holds a NUL. -/
  | nulInSetting
  /-- The answer holds an integer of more than `Number.digitLimit` digits. -/
  | unwritable

namespace RequestFault

def shownLength : Nat := 200

/-- The text of a request fault. -/
def message : RequestFault → Text
  | .notInteger t =>
    .ofString "invalid literal for int() with base 10: " ++ (Text.quote t).take shownLength
  | .tooManyDigits d =>
    .ofString ("Exceeds the limit (" ++ toString Number.digitLimit ++
      " digits) for integer string conversion: value has " ++ toString d ++
      " digits; use sys.set_int_max_str_digits() to increase the limit")
  | .notFloat t => .ofString "could not convert string to float: " ++ Text.quote t
  | .unencodable first start stop =>
    if stop = start + 1 then
      .ofString "'utf-8' codec can't encode character '" ++ ⟨Text.codeEscape first⟩ ++
        .ofString ("' in position " ++ toString start ++ ": surrogates not allowed")
    else
      .ofString ("'utf-8' codec can't encode characters in position " ++ toString start ++ "-" ++
        toString (stop - 1) ++ ": surrogates not allowed")
  | .nulInSetting => .ofString "embedded null byte"
  | .unwritable =>
    .ofString ("Exceeds the limit (" ++ toString Number.digitLimit ++
      " digits) for integer string conversion; use sys.set_int_max_str_digits() to increase the limit")

end RequestFault

def readInteger (t : Text) : Except RequestFault Int :=
  match Binary64.readInteger t with
  | .value n => .ok n
  | .invalid => .error (.notInteger t)
  | .tooLong d => .error (.tooManyDigits d)

def readFloat (t : Text) : Except RequestFault Float :=
  match Binary64.readLiteral? t with
  | some x => .ok x
  | none => .error (.notFloat t)

def isSurrogate (n : Nat) : Bool :=
  0xD800 ≤ n && n ≤ 0xDFFF

def isByteSurrogate (n : Nat) : Bool :=
  0xDC80 ≤ n && n ≤ 0xDCFF

/-- The first surrogate of a text that cannot be stored, with its position and the end of
its run of surrogates. -/
def unstorable? (t : Text) : Option RequestFault :=
  match t.points.findIdx? (fun n => isSurrogate n && !isByteSurrogate n) with
  | some k =>
    let run := (t.points.drop k).takeWhile isSurrogate
    some (.unencodable (t.points.getD k 0) k (k + run.length))
  | none => none

/-- Stores a text as a setting and reads it back. -/
def storeSetting (t : Text) : Except RequestFault Text :=
  match unstorable? t with
  | some f => .error f
  | none =>
    let bytes := t.points.flatMap Text.encodePoint
    if bytes.contains 0 then .error .nulInSetting else .ok ⟨Text.decodeBytes bytes⟩

/-- An outcome as it can be answered: a value or fault that cannot be written gives way to
`RequestFault.unwritable`. -/
def writableOutcome (r : Except Fault Value) : Except RequestFault (Except Fault Value) :=
  match r with
  | .ok v => if v.writable then .ok r else .error .unwritable
  | .error f => if f.writable then .ok r else .error .unwritable

end L1
