import Membrane.Host.Program

/-!
# Literals

Values as they are written: a value itself, the object of a numbered handle, or
an object that is made anew every time the literal is read. What a handle stands
for is only known when the literal is read.
-/

namespace Membrane

/-- A written value of an engine or of the host, with how an object is such a
value. -/
inductive Literal (V : Type) where
  | value (v : V)
  /-- The object of a numbered handle, if there is one. -/
  | handle (number : Nat) (wrap : Option ObjectRef → V)
  | fresh (template : Template) (wrap : ObjectRef → V)

namespace Literal

variable {Request Answer V : Type}

/-- Reads a literal. -/
def read : Literal V → Program Request Answer V
  | value v => .done v
  | handle number wrap => .held number fun ref => .done (wrap ref)
  | fresh template wrap => .fresh template fun ref => .done (wrap ref)

/-- Reads literals one after the other. -/
def readAll : List (Literal V) → Program Request Answer (List V)
  | [] => .done []
  | first :: rest => first.read.bind fun v => (readAll rest).bind fun vs => .done (v :: vs)

end Literal

end Membrane
