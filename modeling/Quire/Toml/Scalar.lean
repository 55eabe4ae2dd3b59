import Quire.Toml.Moment
import Quire.Toml.Value

set_option autoImplicit false

/-!
Values written without quotes or brackets: numbers, booleans, dates and times.
-/

namespace Quire.Toml.Scalar

def digitValue (c : Char) : Nat :=
  if c.isDigit then c.toNat - '0'.toNat else c.toLower.toNat - 'a'.toNat + 10

def natOf (base : Nat) (digits : List Char) : Nat :=
  digits.foldl (fun value c => value * base + digitValue c) 0

/-- One or more digits, which single underscores may divide; the underscores are left out. -/
def grouped? (isDigit : Char → Bool) : List Char → Option (List Char)
  | [] => none
  | [c] => if isDigit c then some [c] else none
  | c :: '_' :: rest => if isDigit c then (grouped? isDigit rest).map (c :: ·) else none
  | c :: rest => if isDigit c then (grouped? isDigit rest).map (c :: ·) else none

def whole? (text : List Char) : Option (List Char) :=
  match text with
  | '0' :: _ :: _ => none
  | _ => grouped? Char.isDigit text

def signed : List Char → Bool × List Char
  | '-' :: rest => (true, rest)
  | '+' :: rest => (false, rest)
  | text => (false, text)

def isHexDigit (c : Char) : Bool :=
  c.isDigit || ('a' ≤ c && c ≤ 'f') || ('A' ≤ c && c ≤ 'F')

def isOctalDigit (c : Char) : Bool :=
  '0' ≤ c && c ≤ '7'

def isBinaryDigit (c : Char) : Bool :=
  c == '0' || c == '1'

def integer? (text : List Char) : Option Int :=
  match text with
  | '0' :: 'x' :: rest => (grouped? isHexDigit rest).map fun digits => Int.ofNat (natOf 16 digits)
  | '0' :: 'o' :: rest => (grouped? isOctalDigit rest).map fun digits => Int.ofNat (natOf 8 digits)
  | '0' :: 'b' :: rest => (grouped? isBinaryDigit rest).map fun digits => Int.ofNat (natOf 2 digits)
  | _ =>
      let (negative, rest) := signed text
      (whole? rest).map fun digits =>
        let value := Int.ofNat (natOf 10 digits)
        if negative then -value else value

def exponent? (text : List Char) : Option Int :=
  let (negative, rest) := signed text
  (grouped? Char.isDigit rest).map fun digits =>
    let value := Int.ofNat (natOf 10 digits)
    if negative then -value else value

def float? (text : List Char) : Option Value := do
  let (negative, magnitude) := signed text
  let (mantissa, scale) := magnitude.span fun c => c != 'e' && c != 'E'
  let (before, after) := mantissa.span fun c => c != '.'
  guard (after ≠ [] ∨ scale ≠ [])
  let whole ← whole? before
  let fraction ← match after with
    | [] => some []
    | _ :: digits => grouped? Char.isDigit digits
  let exponent ← match scale with
    | [] => some 0
    | _ :: digits => exponent? digits
  let number := Number.ofDecimal negative (natOf 10 (whole ++ fraction))
    (exponent - Int.ofNat fraction.length)
  match number with
  | .infinite _ => return .unreadable
  | _ => return .float number

def words : List (String × Value) :=
  [("true", .bool true), ("false", .bool false),
    ("inf", .float (.infinite false)), ("+inf", .float (.infinite false)),
    ("-inf", .float (.infinite true)),
    ("nan", .float .nan), ("+nan", .float .nan), ("-nan", .float .nan)]

def dividesDigits : List Char → Bool
  | [] => true
  | c :: '_' :: rest => isHexDigit c && rest.head?.any isHexDigit && dividesDigits rest
  | _ :: rest => dividesDigits rest

def breaksInteger (c : Char) : Bool :=
  c == '.' || c == 'e' || c == 'E' || c == ' '

/-- What starts like an integer and passes for one until somebody asks for its value: a base without
digits, or decimal digits and an underscore with anything after it that divides digits. -/
def resemblesInteger (text : List Char) : Bool :=
  let (_, magnitude) := signed text
  ["0x", "0o", "0b"].contains (String.ofList text) ||
    (magnitude.head?.any (fun c => c.isDigit && c != '0') &&
      (magnitude.dropWhile Char.isDigit).head? == some '_' &&
      dividesDigits magnitude && !magnitude.any breaksInteger)

def read? (text : List Char) : Option Value :=
  match words.lookup (String.ofList text) with
  | some value => some value
  | none =>
      if Moment.looksLike text then (Moment.read? text).map Value.moment
      else
        match integer? text with
        | some value => some (.integer value)
        | none => if resemblesInteger text then some .unreadable else float? text

end Quire.Toml.Scalar
