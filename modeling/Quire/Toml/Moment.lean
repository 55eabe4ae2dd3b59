import Quire.Toml.Reader

set_option autoImplicit false

/-!
Dates and times. A moment is read from any of its spellings and kept in normal form: a capital `T`
between date and time, a capital `Z`, at most nine decimals of a second without trailing zeros.
-/

namespace Quire.Toml.Moment

def valueOf (digits : List Char) : Nat :=
  digits.foldl (fun value c => value * 10 + (c.toNat - '0'.toNat)) 0

def field (width low high : Nat) : Reader (List Char) := do
  let digits ← Reader.takeWhile Char.isDigit
  let value := valueOf digits
  guard (digits.length = width ∧ low ≤ value ∧ value ≤ high)
  return digits

def isLeapYear (year : Nat) : Bool :=
  year % 4 = 0 && (year % 100 ≠ 0 || year % 400 = 0)

def daysIn (year month : Nat) : Nat :=
  if month = 2 then (if isLeapYear year then 29 else 28)
  else if month = 4 ∨ month = 6 ∨ month = 9 ∨ month = 11 then 30
  else 31

def date : Reader (List Char) := do
  let year ← field 4 0 9999
  Reader.char '-'
  let month ← field 2 1 12
  Reader.char '-'
  let day ← field 2 1 (daysIn (valueOf year) (valueOf month))
  return year ++ '-' :: month ++ '-' :: day

/-- Decimals of a second: nine of them count, and trailing zeros do not. -/
def decimals (digits : List Char) : List Char :=
  match ((digits.take 9).reverse.dropWhile fun c => c == '0').reverse with
  | [] => ['0']
  | kept => kept

def seconds : Reader (List Char) := do
  if ← Reader.skip? [':'] then
    let second ← field 2 0 60
    if ← Reader.skip? ['.'] then
      let digits ← Reader.takeWhile Char.isDigit
      guard (digits ≠ [])
      return ':' :: second ++ '.' :: decimals digits
    else return ':' :: second
  else return []

def time : Reader (List Char) := do
  let hour ← field 2 0 23
  Reader.char ':'
  let minute ← field 2 0 59
  return hour ++ ':' :: minute ++ (← seconds)

def offset : Reader (List Char) := do
  match ← Reader.peek? with
  | none => return []
  | some _ =>
      let c ← Reader.satisfy fun c => c == 'Z' || c == 'z' || c == '+' || c == '-'
      if c == 'Z' || c == 'z' then return ['Z']
      else
        let hour ← field 2 0 23
        Reader.char ':'
        let minute ← field 2 0 59
        let sign := if valueOf hour = 0 ∧ valueOf minute = 0 then '+' else c
        return sign :: hour ++ ':' :: minute

def dateFirst : Reader (List Char) := do
  let date ← date
  match ← Reader.peek? with
  | none => return date
  | some _ =>
      let _ ← Reader.satisfy fun c => c == 'T' || c == 't' || c == ' '
      let time ← time
      return date ++ 'T' :: time ++ (← offset)

/-- Whether a text that starts with a digit is a moment: the first character after its digits
tells. -/
def looksLike (text : List Char) : Bool :=
  match text.dropWhile Char.isDigit with
  | '-' :: _ | ':' :: _ => text.head?.any Char.isDigit
  | _ => false

def read? (text : List Char) : Option String :=
  let reader := if (text.dropWhile Char.isDigit).head? = some '-' then dateFirst else time
  (reader.readAll text).map String.ofList

end Quire.Toml.Moment
