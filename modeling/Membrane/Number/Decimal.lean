import Membrane.Number.Binary64
import Membrane.Text.Numeral

/-!
# Decimal numerals

Reading a numeral with an optional point and an optional power of ten as the
nearest double precision number. The numeral is first read exactly, as an
integer times a power of ten, and rounded once.
-/

namespace Membrane.Number

/-- A signed decimal number: `± digits * 10 ^ exponent`. -/
structure Decimal where
  negative : Bool
  digits : Nat
  exponent : Int
  deriving DecidableEq

namespace Decimal

/-- The double precision number nearest to a decimal. Decimals of more than 310
places before the point are infinite, and those that start after 330 places
behind it are zero; they are settled without computing their power of ten. -/
def toBinary64 (d : Decimal) : Binary64 :=
  let places := (Text.writeNatural d.digits).length + d.exponent
  if d.digits = 0 ∨ places < -330 then .ofMagnitudeBits d.negative 0
  else if 310 < places then .infinite d.negative
  else if 0 ≤ d.exponent then .ofRatio d.negative (d.digits * tenPow d.exponent.toNat) 1
  else .ofRatio d.negative d.digits (tenPow (-d.exponent).toNat)

/-- The power of ten after a mark `e` or `E`; nothing at all is the power
zero. -/
def readExponent? : List Char → Option Int
  | [] => some 0
  | c :: cs => if c = 'e' ∨ c = 'E' then Text.readInteger? cs else none

/-- Digits with an optional point among or around them, and an optional power
of ten. At least one digit stands before the power. -/
def readUnsigned? (negative : Bool) (cs : List Char) : Option Decimal :=
  let whole := cs.takeWhile Char.isDigit
  let rest := cs.dropWhile Char.isDigit
  let (places, rest) :=
    match rest with
    | '.' :: after => (after.takeWhile Char.isDigit, after.dropWhile Char.isDigit)
    | _ => ([], rest)
  do
    let digits ← Text.readNatural? (whole ++ places)
    let power ← readExponent? rest
    pure ⟨negative, digits, power - places.length⟩

end Decimal

/-- Splits a leading sign off a numeral. -/
def splitSign : List Char → Bool × List Char
  | '-' :: cs => (true, cs)
  | '+' :: cs => (false, cs)
  | cs => (false, cs)

/-- A signed numeral read as the nearest double precision number. The words
`inf`, `infinity` and `nan` are numerals in any case. -/
def Binary64.read? (cs : List Char) : Option Binary64 :=
  let (negative, rest) := splitSign cs
  let word := String.ofList (rest.map Char.toLower)
  if word = "inf" ∨ word = "infinity" then some (.infinite negative)
  else if word = "nan" then some .nan
  else (Decimal.readUnsigned? negative rest).map Decimal.toBinary64

end Membrane.Number
