/-!
# Options of adapters

The one behaviour flag of an adapter, with the operations of a set of flags,
and the ways in which options cannot be loaded.
-/

namespace Membrane

/-- Options of an adapter. -/
structure Options where
  /-- Whether a write to a name without a member is an error rather than
  nothing. -/
  rejectUnknown : Bool := false
  deriving DecidableEq

namespace Options

/-- No flag is set. -/
def unset : Options :=
  {}

/-- The flags set in either of two. -/
def union (a b : Options) : Options :=
  ⟨a.rejectUnknown || b.rejectUnknown⟩

/-- Whether every flag set in `b` is set in `a`. -/
def contains (a b : Options) : Bool :=
  !b.rejectUnknown || a.rejectUnknown

end Options

/-- Why options could not be loaded. -/
inductive OptionsError where
  /-- The text is no document, or a flag in it has the wrong type. -/
  | parse
  /-- There is no text to read. -/
  | io
  deriving DecidableEq

end Membrane
