import Membrane.Fault
import Membrane.Text.Quote

/-!
# The structure of faults as text

Script errors written with every constructor and field, for diagnosis. Texts in
them are quoted.
-/

namespace Membrane

/-- A constructor with named fields. -/
def withFields (constructor : String) (fields : List (String × String)) : String :=
  constructor ++ " \x7b " ++
    ", ".intercalate (fields.map fun (name, value) => name ++ ": " ++ value) ++ " \x7d"

/-- A constructor with one unnamed field. -/
def withField (constructor field : String) : String :=
  constructor ++ "(" ++ field ++ ")"

/-- The structure of a fault. -/
def Fault.dump : Fault → String
  | targetInvocation cause => withField "TargetInvocation" cause.dump
  | indexOutOfRange index length =>
    withFields "IndexOutOfRange" [("index", toString index), ("length", toString length)]
  | invalidCast source target =>
    withFields "InvalidCast" [("from", Text.quote source), ("to", Text.quote target)]
  | format input target =>
    withFields "Format" [("input", Text.quote input), ("target", Text.quote target)]
  | overflow target => withField "Overflow" (Text.quote target)
  | missingMember typeName member =>
    withFields "MissingMember" [("type_name", Text.quote typeName), ("member", Text.quote member)]
  | native message => withField "Native" (Text.quote message)

/-- The structure of a script error. -/
def ScriptError.dump : ScriptError → String
  | notReadable name => withField "NotReadable" (Text.quote name)
  | notWritable name => withField "NotWritable" (Text.quote name)
  | unknownMember name => withField "UnknownMember" (Text.quote name)
  | fault raised => withField "Fault" raised.dump
  | described text => withField "Described" (Text.quote text)

/-- The structure of an exception. The engine's value is left out. -/
def Thrown.dump {V : Type} (thrown : Thrown V) : String :=
  "Thrown \x7b error: " ++ thrown.error.dump ++ ", .. \x7d"

end Membrane
