/-!
# Integer numerals

The decimal text of an integer and the reader that accepts it. A numeral is an
optional sign followed by one or more ASCII digits; leading zeros are allowed
when reading and never written.
-/

namespace Membrane.Text

/-- One or more ASCII digits, read as a natural number. -/
def readNatural? (cs : List Char) : Option Nat :=
  if !cs.isEmpty && cs.all Char.isDigit then some (Nat.ofDigitChars 10 cs 0) else none

/-- An optional sign and one or more ASCII digits, read as an integer. -/
def readInteger? : List Char → Option Int
  | '-' :: digits => (readNatural? digits).map fun (n : Nat) => -(n : Int)
  | '+' :: digits => (readNatural? digits).map fun (n : Nat) => (n : Int)
  | digits => (readNatural? digits).map fun (n : Nat) => (n : Int)

/-- The decimal digits of a natural number, without leading zeros. -/
def writeNatural (n : Nat) : List Char :=
  Nat.toDigits 10 n

/-- The decimal text of an integer: a minus sign where it is negative, then
its digits. -/
def writeInteger (n : Int) : List Char :=
  if n < 0 then '-' :: writeNatural n.natAbs else writeNatural n.natAbs

/-- What is written for a natural number is digits only. -/
theorem all_isDigit_writeNatural (n : Nat) : (writeNatural n).all Char.isDigit = true := by
  rw [List.all_eq_true]
  exact fun c member => Nat.isDigit_of_mem_toDigits (by decide) (by decide) member

/-- What is written for a natural number reads back as that number. -/
theorem readNatural?_writeNatural (n : Nat) : readNatural? (writeNatural n) = some n := by
  have written : (writeNatural n).isEmpty = false := by
    simp [writeNatural, List.isEmpty_eq_false_iff]
  rw [readNatural?, if_pos (by rw [all_isDigit_writeNatural, written]; rfl)]
  exact congrArg some (Nat.ofDigitChars_toDigits (by decide) (by decide))

/-- Digits alone are read without a sign. -/
theorem readInteger?_of_all_isDigit {cs : List Char} (digits : cs.all Char.isDigit = true) :
    readInteger? cs = (readNatural? cs).map fun (n : Nat) => (n : Int) := by
  unfold readInteger?
  split
  · exact absurd digits (by simp)
  · exact absurd digits (by simp)
  · rfl

/-- What is written for an integer reads back as that integer. -/
theorem readInteger?_writeInteger (n : Int) : readInteger? (writeInteger n) = some n := by
  by_cases negative : n < 0
  · have magnitude : -(n.natAbs : Int) = n := by omega
    rw [writeInteger, if_pos negative]
    simp only [readInteger?, readNatural?_writeNatural, Option.map_some, magnitude]
  · have magnitude : (n.natAbs : Int) = n := by omega
    rw [writeInteger, if_neg negative,
      readInteger?_of_all_isDigit (all_isDigit_writeNatural _), readNatural?_writeNatural]
    simp only [Option.map_some, magnitude]

end Membrane.Text
