import Membrane.Fault
import Membrane.Number.Decimal
import Membrane.Number.Shortest
import Membrane.Number.Word
import Membrane.Text.Blank
import Membrane.Value

/-!
# Conversion of host values

Explicit conversion of a value to a declared type, and extraction of a scalar.
Conversion reads texts, rounds doubles and checks ranges; extraction only
widens integers and takes everything else as it is. Null and the type that
takes every value leave a value alone.
-/

namespace Membrane

open Membrane.Number

namespace Text

/-- A text without surrounding blanks as the word `true` or `false`, in any
case of its ASCII letters. -/
def readBool? (text : String) : Option Bool :=
  let word := String.ofList ((trim text.toList).map Char.toLower)
  if word = "true" then some true
  else if word = "false" then some false
  else none

/-- A text without surrounding blanks as an integer of 64 bits. -/
def readLong? (text : String) : Option Int64 :=
  match readInteger? (trim text.toList) with
  | some n => if fitsLong n then some (.ofInt n) else none
  | none => none

/-- A text without surrounding blanks as a double precision number. -/
def readDouble? (text : String) : Option Binary64 :=
  Binary64.read? (trim text.toList)

end Text

namespace Value

/-- The refusal to convert a value to a type at all. -/
def castFault (v : Value) (target : ValueType) : Fault :=
  .invalidCast v.label target.display

/-- A value as a truth value: numbers are true unless they equal zero. -/
def toBool (v : Value) : Except Fault Bool :=
  match v with
  | bool b => .ok b
  | int n => .ok (n != 0)
  | long n => .ok (n != 0)
  | double x => .ok !x.isZero
  | string text =>
    match Text.readBool? text with
    | some b => .ok b
    | none => .error (.format text ValueType.bool.display)
  | other => .error (other.castFault .bool)

/-- A value as an integer of 64 bits, on the way to `target`: a double is
rounded first and its rounded value is what has to fit. -/
def toLong (v : Value) (target : ValueType) : Except Fault Int64 :=
  match v with
  | bool b => .ok (if b then 1 else 0)
  | int n => .ok n.toInt64
  | long n => .ok n
  | double x =>
    match x.round? with
    | some n =>
      if fitsLong n then .ok (.ofInt n) else .error (.overflow target.display)
    | none => .error (.overflow target.display)
  | string text =>
    match Text.readLong? text with
    | some n => .ok n
    | none => .error (.format text target.display)
  | other => .error (other.castFault target)

/-- An integer of 64 bits as one of 32, if it fits. -/
def narrow (n : Int64) : Except Fault Int32 :=
  if fitsInt n.toInt then .ok (.ofInt n.toInt)
  else .error (.overflow ValueType.int.display)

/-- A value as a double precision number, integers to the nearest one. -/
def toDouble (v : Value) : Except Fault Binary64 :=
  match v with
  | bool b => .ok (.ofInt (if b then 1 else 0))
  | int n => .ok (.ofInt n.toInt)
  | long n => .ok (.ofInt n.toInt)
  | double x => .ok x
  | string text =>
    match Text.readDouble? text with
    | some x => .ok x
    | none => .error (.format text ValueType.double.display)
  | other => .error (other.castFault .double)

/-- The text of a scalar. -/
def toText (v : Value) : Except Fault String :=
  match v with
  | bool b => .ok (if b then "true" else "false")
  | int n => .ok (.ofList (Text.writeInteger n.toInt))
  | long n => .ok (.ofList (Text.writeInteger n.toInt))
  | double x => .ok (.ofList x.toText)
  | string text => .ok text
  | other => .error (other.castFault .string)

/-- An object whose runtime type has the given name, as it is. -/
def toObject (v : Value) (name : String) : Except Fault Value :=
  match v with
  | object ref => if ref.typeName = name then .ok v else .error (v.castFault (.object name))
  | other => .error (other.castFault (.object name))

/-- Converts a value to a declared type, failing with a cast, format or
overflow fault. Conversion to 32 bits goes through 64 bits. -/
def changeType (v : Value) (target : ValueType) : Except Fault Value :=
  match v, target with
  | null, _ => .ok null
  | v, .any => .ok v
  | v, .bool => bool <$> v.toBool
  | v, .int => do return int (← narrow (← v.toLong .int))
  | v, .long => long <$> v.toLong .long
  | v, .double => double <$> v.toDouble
  | v, .string => string <$> v.toText
  | v, .object name => v.toObject name

/-- The number in an integer value, of either width. -/
def extractLong : Value → Except Fault Int64
  | int n => .ok n.toInt64
  | long n => .ok n
  | other => .error (other.castFault .long)

/-- Takes a value out as a scalar of the given type: only integers widen. The
types that are not scalar take the values they are assignable from. -/
def extract (v : Value) (target : ValueType) : Except Fault Value :=
  match target, v with
  | .bool, bool b => .ok (bool b)
  | .int, int n => .ok (int n)
  | .long, v => long <$> v.extractLong
  | .double, int n => .ok (double (.ofInt n.toInt))
  | .double, long n => .ok (double (.ofInt n.toInt))
  | .double, double x => .ok (double x)
  | .string, string text => .ok (string text)
  | .any, v => .ok v
  | .object name, v => v.toObject name
  | target, v => .error (v.castFault target)

end Value

end Membrane
