import Presentment.Json.Basic
import Presentment.Text.Hex

/-!
# Reading structured text

A text holds one value, with blanks around its parts.  Numbers have no superfluous zeros in
front and strings no control characters.  Two escaped surrogates, a high and a low one, stand
for one character; a string with any other surrogate is ill-formed, and so is an object with
such a key.
-/

namespace Presentment.Json

/-- A reader of the front of a text. -/
abbrev Parse (α : Type) := StateT (List Char) Option α

namespace Parse

/-- Whether a character may stand between the parts of a value. -/
def isBlank (c : Char) : Bool :=
  c = ' ' || c = '\t' || c = '\n' || c = '\r'

/-- Passes over blanks. -/
def blanks : Parse Unit :=
  modify (·.dropWhile isBlank)

/-- The next character, which is not taken. -/
def peek : Parse Char := do
  match ← get with
  | [] => failure
  | c :: _ => return c

/-- Takes the next character. -/
def next : Parse Char := do
  match ← get with
  | [] => failure
  | c :: rest =>
    set rest
    return c

/-- Takes the given character. -/
def char (c : Char) : Parse Unit := do
  guard ((← next) = c)

/-- Takes the given text. -/
def word (s : String) : Parse Unit :=
  s.toList.forM char

/-! ### Numbers -/

/-- Takes decimal digits. -/
def digits : Parse (List Char) := do
  let cs ← get
  set (cs.dropWhile Char.isDigit)
  return cs.takeWhile Char.isDigit

/-- Takes at least one decimal digit. -/
def someDigits : Parse (List Char) := do
  let ds ← digits
  guard (ds ≠ [])
  return ds

/-- The number that digits stand for. -/
def toNat (ds : List Char) : Nat :=
  ds.foldl (fun n d => 10 * n + (d.toNat - '0'.toNat)) 0

/-- Takes a number without its sign. -/
def magnitude (negative : Bool) : Parse Number := do
  let whole ← someDigits
  guard (whole.length = 1 ∨ whole.head? ≠ some '0')
  let fraction ← match ← get with
    | '.' :: rest => do
      set rest
      pure (some (← someDigits))
    | _ => pure none
  let exponent ← match ← get with
    | c :: rest =>
      if c = 'e' ∨ c = 'E' then do
        set rest
        let negative ← match ← get with
          | '-' :: rest => do
            set rest
            pure true
          | '+' :: rest => do
            set rest
            pure false
          | _ => pure false
        let n : Int := toNat (← someDigits)
        pure (some (if negative then -n else n))
      else pure none
    | [] => pure none
  let shown := fraction.getD []
  return ⟨negative, toNat (whole ++ shown), exponent.getD 0 - shown.length,
    fraction.isNone && exponent.isNone⟩

/-! ### Strings -/

/-- Takes four hexadecimal digits. -/
def unit : Parse Nat := do
  let ds := [← next, ← next, ← next, ← next]
  match ds.mapM Hex.digitValue? with
  | some values => return values.foldl (fun n d => 16 * n + d) 0
  | none => failure

/-- A part of a string: a character, or one half of a pair of surrogates. -/
inductive Piece where
  | char (c : Char)
  | surrogate (unit : Nat)

/-- The character that a pair of surrogates stands for. -/
def paired? (high low : Nat) : Option Char :=
  if 0xD800 ≤ high ∧ high < 0xDC00 ∧ 0xDC00 ≤ low ∧ low < 0xE000 then
    some (Char.ofNat (0x10000 + (high - 0xD800) * 0x400 + (low - 0xDC00)))
  else none

/-- The characters of a string, if its surrogates come in pairs. -/
def joined? : List Piece → Option (List Char)
  | [] => some []
  | .char c :: rest => return c :: (← joined? rest)
  | .surrogate high :: .surrogate low :: rest => return (← paired? high low) :: (← joined? rest)
  | .surrogate _ :: _ => none

/-- Takes what follows a backslash. -/
def escaped : Parse Piece := do
  match ← next with
  | '"' => return .char '"'
  | '\\' => return .char '\\'
  | '/' => return .char '/'
  | 'b' => return .char '\x08'
  | 'f' => return .char '\x0C'
  | 'n' => return .char '\n'
  | 'r' => return .char '\r'
  | 't' => return .char '\t'
  | 'u' =>
    let n ← unit
    return if 0xD800 ≤ n ∧ n < 0xE000 then .surrogate n else .char (Char.ofNat n)
  | _ => failure

/-- Takes the parts of a string up to its closing quote; there are at most `fuel`. -/
def stringRest : (fuel : Nat) → Parse (List Piece)
  | 0 => failure
  | fuel + 1 => do
    match ← next with
    | '"' => return []
    | '\\' => return (← escaped) :: (← stringRest fuel)
    | c =>
      guard (0x20 ≤ c.toNat)
      return .char c :: (← stringRest fuel)

/-- Takes a string, which may be ill-formed. -/
def string : Parse (Option String) := do
  char '"'
  return (joined? (← stringRest ((← get).length + 1))).map String.ofList

/-! ### Values -/

/-- Takes elements with commas between them up to the closing character; there are at most
`fuel`. -/
def elements {α : Type} (closing : Char) (element : Parse α) : (fuel : Nat) → Parse (List α)
  | 0 => failure
  | fuel + 1 => do
    let first ← element
    blanks
    let c ← next
    if c = closing then return [first]
    else
      guard (c = ',')
      return first :: (← elements closing element fuel)

/-- Takes a list of elements in brackets. -/
def bracketed {α : Type} (opening closing : Char) (element : Parse α) : Parse (List α) := do
  char opening
  blanks
  if (← peek) = closing then
    let _ ← next
    return []
  else elements closing element ((← get).length + 1)

/-- The object with the given entries. -/
def objectOf (entries : List (Option String × Json)) : Json :=
  match entries.mapM (fun entry => entry.1.map (·, entry.2)) with
  | some entries => .object entries
  | none => .illFormed

/-- Takes a value and the blanks before it; values nest at most `fuel` deep. -/
def value : (fuel : Nat) → Parse Json
  | 0 => failure
  | fuel + 1 => do
    blanks
    match ← peek with
    | 'n' => do
      word "null"
      return .null
    | 't' => do
      word "true"
      return .bool true
    | 'f' => do
      word "false"
      return .bool false
    | '"' => return ((← string).map .string).getD .illFormed
    | '[' => return .array (← bracketed '[' ']' (value fuel))
    | '{' =>
      let entry : Parse (Option String × Json) := do
        blanks
        let key ← string
        blanks
        char ':'
        return (key, ← value fuel)
      return objectOf (← bracketed '{' '}' entry)
    | '-' => do
      let _ ← next
      return .number (← magnitude true)
    | _ => return .number (← magnitude false)

end Parse

/-- The value that a text holds. -/
def parse? (text : String) : Option Json := do
  let cs := text.toList
  let (j, rest) ← Parse.value (cs.length + 1) cs
  guard (rest.all Parse.isBlank)
  return j

end Presentment.Json
