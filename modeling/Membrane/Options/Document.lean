import Membrane.Options
import Membrane.Toml.Reader

/-!
# Options in documents

Options are read from two places of a document: the flag at the top level, and
the entry `bridge`, which replaces the top level as a whole where it is
present. All other keys are ignored, whatever they hold. A flag that is no
boolean is an error at either place, also where the other place wins.

How a text is parsed into tables is left to a format, as is what an entry
`bridge` gives that is no table. The documents that are read are in TOML.
-/

namespace Membrane

open Membrane.Number
open Membrane.Toml

namespace Options

/-- The key of the flag. -/
def flagKey : String :=
  "reject_unknown_properties"

/-- The key under which options may stand on their own. -/
def bridgeKey : String :=
  "bridge"

/-- A flag given by an item. -/
def ofFlag : Item → Except OptionsError Options
  | .boolean flag => .ok ⟨flag⟩
  | _ => .error .parse

/-- The options that entries set; a flag that is missing is not set. -/
def ofEntries (entries : Entries) : Except OptionsError Options :=
  match entries.get? flagKey with
  | some item => ofFlag item
  | none => .ok .unset

/-- A format of documents, as far as the reading of options relies on it. -/
structure Format where
  /-- The entries that a text holds, if it is a document. -/
  parse? : String → Option Entries
  /-- The flag that an item gives on its own where options are asked for, if it gives any.
  Of tables it is not asked. -/
  bareFlag? : Item → Option Bool

namespace Format

/-- Options given on their own: by the entries of a table, or by another item that gives a
flag. -/
def ofItem (format : Format) : Item → Except OptionsError Options
  | .table _ entries => ofEntries entries
  | item =>
    match format.bareFlag? item with
    | some flag => .ok ⟨flag⟩
    | none => .error .parse

/-- The options of a document. -/
def ofDocument (format : Format) (entries : Entries) : Except OptionsError Options := do
  let topLevel ← ofEntries entries
  match entries.get? bridgeKey with
  | some item => format.ofItem item
  | none => return topLevel

/-- Reads the options of a document from its text. -/
def read? (format : Format) (text : String) : Except OptionsError Options :=
  match format.parse? text with
  | some entries => format.ofDocument entries
  | none => .error .parse

end Format

end Options

/-! ## TOML -/

/-- Whether the numbers of an item have values: integers that are numerals and
within bounds, and finite floats within the range of doubles. -/
def Toml.Item.fits (low high : Int) : Item → Bool
  | .integer n => n.any fun n => low ≤ n && n ≤ high
  | .float x => x.isSome
  | .array _ items => itemsFit items
  | .table _ entries => entriesFit entries
  | _ => true
where
  /-- Whether the numbers of all items have values. -/
  itemsFit : List Item → Bool
    | [] => true
    | item :: rest => item.fits low high && itemsFit rest
  /-- Whether the numbers of all entries have values. -/
  entriesFit : List (String × Item) → Bool
    | [] => true
    | (_, item) :: rest => item.fits low high && entriesFit rest

namespace Options

/-- Whether the numbers of an entry of a document have values. What stands
beside the options is kept as numbers of 64 bits; what stands inside them may
have 128, and is not looked at behind a flag in an array. -/
def entryFits : String × Item → Bool
  | (name, item) =>
    if name = bridgeKey then
      match item with
      | .table .. => item.fits (-(twoPow 127 : Int)) (twoPow 128 - 1)
      | _ => true
    else item.fits (-(twoPow 63 : Int)) (twoPow 64 - 1)

/-- The format of the documents that are read. An array stands for the flags
in order, of which there may be fewer or more, and a date sets nothing. -/
def toml : Format where
  parse? text := (Toml.read? text).filter fun entries => entries.all entryFits
  bareFlag?
    | .array _ (.boolean flag :: _) => some flag
    | .array _ [] => some false
    | .datetime _ => some false
    | _ => none

/-- Reads the options of a TOML document from its text. -/
def read? (text : String) : Except OptionsError Options :=
  toml.read? text

/-- Reads options from the bytes of a file, if there is one. Bytes that are not
UTF-8 are no text. -/
def readFile? : Option (List UInt8) → Except OptionsError Options
  | none => .error .io
  | some bytes =>
    match String.fromUTF8? ⟨bytes.toArray⟩ with
    | some text => read? text
    | none => .error .io

end Options

end Membrane
