set_option autoImplicit false

/-!
Readers of characters. A reader takes characters from the front of its input and gives a value, or
fails.
-/

namespace Quire.Toml

abbrev Reader := StateT (List Char) Option

namespace Reader

variable {α : Type}

def peek? : Reader (Option Char) := do
  return (← get).head?

def satisfy (accept : Char → Bool) : Reader Char := do
  match ← get with
  | c :: rest =>
      if accept c then
        set rest
        return c
      else failure
  | [] => failure

def char (expected : Char) : Reader Unit := do
  let _ ← satisfy fun c => c == expected

def takeWhile (accept : Char → Bool) : Reader (List Char) := do
  let (taken, rest) := (← get).span accept
  set rest
  return taken

def skip? (expected : List Char) : Reader Bool := do
  let input ← get
  if expected.isPrefixOf input then
    set (input.drop expected.length)
    return true
  else return false

def repeatAtMost (step : Reader (Option α)) : Nat → Reader (List α)
  | 0 => failure
  | count + 1 => do
      match ← step with
      | some value => return value :: (← repeatAtMost step count)
      | none => return []

/-- Runs a step until it gives `none`. Every earlier run takes at least one character, so the
length of the input bounds their number. -/
def collect (step : Reader (Option α)) : Reader (List α) := do
  repeatAtMost step ((← get).length + 1)

def readAll (reader : Reader α) (input : List Char) : Option α :=
  match reader.run input with
  | some (value, []) => some value
  | _ => none

end Reader
end Quire.Toml
