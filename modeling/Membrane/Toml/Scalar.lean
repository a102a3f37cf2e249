import Membrane.Number.Decimal
import Membrane.Toml.Document

/-!
# Scalars of documents

Booleans, integers, floats, dates and times, each read from the whole of its
text. Underscores may stand between digits, and decimal numbers have no leading
zero.

What is let through as an integer is more than the numerals: a mark for a base
may have no digits behind it, and from the first underscore on anything may
stand in a decimal integer, as long as underscores have hexadecimal digits
beside them. Such an integer has no value, which only matters where the item is
looked at.
-/

namespace Membrane.Toml

open Membrane.Number

/-- The value of a digit of a base up to sixteen. -/
def digitValue (c : Char) : Nat :=
  if c.isDigit then c.toNat - '0'.toNat else c.toLower.toNat - 'a'.toNat + 10

/-- Whether a character is a digit of a base up to sixteen. -/
def isDigitOf (base : Nat) (c : Char) : Bool :=
  (c.isDigit || ('a' ≤ c.toLower && c.toLower ≤ 'f')) && digitValue c < base

/-- The text without its underscores. Every underscore has a digit behind it and
before it; `allowed` tells whether a digit stands before the text. -/
def withoutMarks? (isDigit : Char → Bool) (allowed : Bool) : List Char → Option (List Char)
  | [] => some []
  | '_' :: c :: rest =>
    if allowed && isDigit c then (c :: ·) <$> withoutMarks? isDigit true rest else none
  | '_' :: [] => none
  | c :: rest => (c :: ·) <$> withoutMarks? isDigit (isDigit c) rest

/-- The value of digits of a base; no digits have none. -/
def valueIn? (base : Nat) (digits : List Char) : Option Int :=
  if digits.isEmpty then none
  else some (Int.ofNat (digits.foldl (fun n c => base * n + digitValue c) 0))

/-- An integer behind the mark of its base. -/
def readBased? (base : Nat) (cs : List Char) : Option Item := do
  let digits ← withoutMarks? (isDigitOf base) false cs
  if digits.all (isDigitOf base) then some (.integer (valueIn? base digits)) else none

/-- Whether a text has a zero at its start and more digits behind it. -/
def hasLeadingZero (cs digits : List Char) : Bool :=
  cs.head? = some '0' && 1 < digits.length

/-- A decimal integer behind its sign, if it has one. -/
def readInteger? (negative : Bool) (cs : List Char) : Option Item :=
  if cs.isEmpty || hasLeadingZero cs cs || cs.contains ' ' then none
  else
    match cs.dropWhile Char.isDigit with
    | [] | '_' :: _ => do
      let digits ← withoutMarks? (isDigitOf 16) false cs
      let magnitude := (Text.readNatural? digits).map Int.ofNat
      return .integer (if negative then magnitude.map (- ·) else magnitude)
    | _ => none

/-- Whether behind the digits before it a fraction or a power of ten begins. -/
def beginsFraction : List Char → Bool
  | [] => false
  | '.' :: rest => rest.head?.any Char.isDigit
  | _ => true

/-- A float behind its sign, if it has one: digits with a fraction, a power of
ten, or both. -/
def readFloat? (negative : Bool) (cs : List Char) : Option Item := do
  let plain ← withoutMarks? Char.isDigit false cs
  let whole := plain.takeWhile Char.isDigit
  if whole.isEmpty || hasLeadingZero cs whole || !beginsFraction (plain.dropWhile Char.isDigit) then
    none
  else
    let x := (← Decimal.readUnsigned? negative plain).toBinary64
    return .float (if x.isFinite then some x else none)

/-- Whether a character occurs in decimal floats and in no decimal integer. -/
def isFloatMark (c : Char) : Bool :=
  c = '.' || c = 'e' || c = 'E'

/-- A number behind its sign, if it has one. -/
def readUnsigned? (negative : Bool) (cs : List Char) : Option Item :=
  if cs = ['i', 'n', 'f'] then some (.float (some (.infinite negative)))
  else if cs = ['n', 'a', 'n'] then some (.float (some .nan))
  else if cs.any isFloatMark then readFloat? negative cs
  else readInteger? negative cs

/-- A number: an integer in a base, which has no sign, or a decimal number. -/
def readNumber? : List Char → Option Item
  | '0' :: 'x' :: digits => readBased? 16 digits
  | '0' :: 'o' :: digits => readBased? 8 digits
  | '0' :: 'b' :: digits => readBased? 2 digits
  | '-' :: cs => readUnsigned? true cs
  | '+' :: cs => readUnsigned? false cs
  | cs => readUnsigned? false cs

/-- The first two characters as a number, where they are digits. -/
def readPair? : List Char → Option (Nat × List Char)
  | a :: b :: rest =>
    if a.isDigit && b.isDigit then some (Nat.ofDigitChars 10 [a, b] 0, rest) else none
  | _ => none

/-- Skips one given character. -/
def skipChar? (c : Char) : List Char → Option (List Char)
  | first :: rest => if first = c then some rest else none
  | [] => none

/-- The number of days of a month. -/
def daysOf (year month : Nat) : Nat :=
  if month = 2 then
    if year % 4 = 0 ∧ (year % 100 ≠ 0 ∨ year % 400 = 0) then 29 else 28
  else if month = 4 ∨ month = 6 ∨ month = 9 ∨ month = 11 then 30
  else 31

/-- Skips a date of the calendar. -/
def skipDate? (cs : List Char) : Option (List Char) := do
  let (century, cs) ← readPair? cs
  let (year, cs) ← readPair? cs
  let (month, cs) ← readPair? (← skipChar? '-' cs)
  let (day, cs) ← readPair? (← skipChar? '-' cs)
  if 1 ≤ month ∧ month ≤ 12 ∧ 1 ≤ day ∧ day ≤ daysOf (100 * century + year) month then some cs
  else none

/-- Skips the fraction of a second, if there is one. -/
def skipFraction? : List Char → Option (List Char)
  | '.' :: cs =>
    if (cs.takeWhile Char.isDigit).isEmpty then none else some (cs.dropWhile Char.isDigit)
  | cs => some cs

/-- Skips a time of the day; the seconds may be left out, and one may be
inserted. -/
def skipTime? (cs : List Char) : Option (List Char) := do
  let (hour, cs) ← readPair? cs
  let (minute, cs) ← readPair? (← skipChar? ':' cs)
  if 23 < hour ∨ 59 < minute then none
  else
    match cs with
    | ':' :: cs =>
      let (second, cs) ← readPair? cs
      if 60 < second then none else skipFraction? cs
    | cs => some cs

/-- Skips the hours and minutes of an offset. -/
def skipOffsetTime? (cs : List Char) : Option (List Char) := do
  let (hour, cs) ← readPair? cs
  let (minute, cs) ← readPair? (← skipChar? ':' cs)
  if 23 < hour ∨ 59 < minute then none else some cs

/-- Skips an offset from universal time, if there is one. -/
def skipOffset? : List Char → Option (List Char)
  | 'Z' :: cs => some cs
  | 'z' :: cs => some cs
  | '+' :: cs => skipOffsetTime? cs
  | '-' :: cs => skipOffsetTime? cs
  | cs => some cs

/-- Skips what may follow a date: a separator, a time and an offset. -/
def skipDayTime? : List Char → Option (List Char)
  | [] => some []
  | c :: cs => do
    if c = 'T' ∨ c = 't' ∨ c = ' ' then skipOffset? (← skipTime? cs) else none

/-- Whether a text is a date, a time, or both with an optional offset. -/
def isDatetime (cs : List Char) : Bool :=
  (skipDate? cs).bind skipDayTime? = some [] || skipTime? cs = some []

/-- The scalar that a text denotes. -/
def readScalar? (cs : List Char) : Option Item :=
  if cs = ['t', 'r', 'u', 'e'] then some (.boolean true)
  else if cs = ['f', 'a', 'l', 's', 'e'] then some (.boolean false)
  else if isDatetime cs then some (.datetime (.ofList cs))
  else readNumber? cs

end Membrane.Toml
