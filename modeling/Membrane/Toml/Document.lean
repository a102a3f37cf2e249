import Membrane.Number.Binary64

/-!
# Documents of tables

The tree that a TOML text denotes, and the rules by which its lines add to it.
A table remembers how it was introduced, since that decides what may still be
added: a header opens a table once, a dotted key extends only tables that
dotted keys have made, and an inline table is closed.
-/

namespace Membrane.Toml

open Membrane.Number

/-- How a table was introduced. -/
inductive Origin where
  /-- By a header of its own, or as the whole document. -/
  | header
  /-- On the way of another table's header. -/
  | parent
  /-- On the way of a dotted key. -/
  | dotted
  /-- Between braces. -/
  | inline
  deriving DecidableEq

/-- A value of a document. -/
inductive Item where
  | string (text : String)
  /-- Digits that are let through as an integer and are none have no value. -/
  | integer (n : Option Int)
  /-- A number that is finite as written and beyond every double has no value. -/
  | float (x : Option Binary64)
  | boolean (b : Bool)
  | datetime (text : String)
  /-- An array; one that headers have made can be extended by headers. -/
  | array (extensible : Bool) (items : List Item)
  | table (origin : Origin) (entries : List (String × Item))

/-- The entries of a table. -/
abbrev Entries :=
  List (String × Item)

namespace Entries

/-- The value of a key. -/
def get? (entries : Entries) (key : String) : Option Item :=
  entries.lookup key

/-- Replaces the value of a key. -/
def replace (entries : Entries) (key : String) (item : Item) : Entries :=
  entries.map fun (name, old) => if name = key then (name, item) else (name, old)

end Entries

/-- Replaces the last item of an array. -/
def replaceLast (items : List Item) (item : Item) : List Item :=
  items.dropLast ++ [item]

/-- Changes the table at the end of a path. Missing tables on the way are made;
they are dotted ones on the way of a dotted key. An array of tables stands for
its last table. Inline tables are not entered, and dotted keys do not enter
tables that a header has opened. -/
def descend (dotted : Bool) (change : Origin → Entries → Option (Origin × Entries)) :
    List String → Origin → Entries → Option (Origin × Entries)
  | [], origin, entries => change origin entries
  | key :: path, origin, entries =>
    match entries.get? key with
    | none => do
      let (made, inner) ← descend dotted change path (if dotted then .dotted else .parent) []
      return (origin, entries ++ [(key, .table made inner)])
    | some (.table found inner) =>
      if found = .inline ∨ (dotted = true ∧ found = .header) then none
      else do
        let (found, inner) ← descend dotted change path found inner
        return (origin, entries.replace key (.table found inner))
    | some (.array true items) =>
      match items.getLast? with
      | some (.table found inner) => do
        let (found, inner) ← descend dotted change path found inner
        return (origin, entries.replace key (.array true (replaceLast items (.table found inner))))
      | _ => none
    | some _ => none

/-- Adds an entry to a table under a dotted key, which is a path and a last
name. The last table of a path must be a dotted one, and the name new. -/
def assign (path : List String) (name : String) (item : Item) (origin : Origin)
    (entries : Entries) : Option (Origin × Entries) :=
  descend true
    (fun origin entries =>
      if path ≠ [] ∧ origin ≠ .dotted then none
      else if (entries.get? name).isSome then none
      else some (origin, entries ++ [(name, item)]))
    path origin entries

/-- Opens a table by its header. A table that is on the way of another header
may be opened once. -/
def openTable (path : List String) (name : String) (entries : Entries) : Option Entries :=
  (descend false
    (fun origin entries =>
      match entries.get? name with
      | none => some (origin, entries ++ [(name, .table .header [])])
      | some (.table .parent inner) => some (origin, entries.replace name (.table .header inner))
      | some _ => none)
    path .header entries).map (·.2)

/-- Adds a table to the array of a header in double brackets. -/
def openElement (path : List String) (name : String) (entries : Entries) : Option Entries :=
  (descend false
    (fun origin entries =>
      match entries.get? name with
      | none => some (origin, entries ++ [(name, .array true [.table .header []])])
      | some (.array true items) =>
        some (origin, entries.replace name (.array true (items ++ [.table .header []])))
      | some _ => none)
    path .header entries).map (·.2)

/-- Adds an entry to the table that the last header has opened. -/
def assignIn (location path : List String) (name : String) (item : Item) (entries : Entries) :
    Option Entries :=
  (descend false (assign path name item) location .header entries).map (·.2)

/-! ## Equality -/

mutual

/-- Whether two values are the same, also in how their tables were introduced. -/
def Item.alike : Item → Item → Bool
  | .string text, .string text' => text == text'
  | .integer n, .integer n' => n == n'
  | .float x, .float x' => x == x'
  | .boolean b, .boolean b' => b == b'
  | .datetime text, .datetime text' => text == text'
  | .array extensible items, .array extensible' items' =>
    extensible == extensible' && itemsAlike items items'
  | .table origin entries, .table origin' entries' =>
    origin == origin' && entriesAlike entries entries'
  | _, _ => false

def itemsAlike : List Item → List Item → Bool
  | [], [] => true
  | item :: rest, item' :: rest' => item.alike item' && itemsAlike rest rest'
  | _, _ => false

def entriesAlike : List (String × Item) → List (String × Item) → Bool
  | [], [] => true
  | (name, item) :: rest, (name', item') :: rest' =>
    name == name' && item.alike item' && entriesAlike rest rest'
  | _, _ => false

end

mutual

theorem Item.alike_iff_eq : (item item' : Item) → (item.alike item' = true ↔ item = item')
  | .array _ items, item' => by
    cases item' with
    | array _ items' => simp [Item.alike, itemsAlike_iff_eq items items']
    | string | integer | float | boolean | datetime | table => simp [Item.alike]
  | .table _ entries, item' => by
    cases item' with
    | table _ entries' => simp [Item.alike, entriesAlike_iff_eq entries entries']
    | string | integer | float | boolean | datetime | array => simp [Item.alike]
  | .string _, item' | .integer _, item' | .float _, item' | .boolean _, item'
  | .datetime _, item' => by cases item' <;> simp [Item.alike]

theorem itemsAlike_iff_eq : (items items' : List Item) →
    (itemsAlike items items' = true ↔ items = items')
  | [], items' => by cases items' <;> simp [itemsAlike]
  | item :: rest, items' => by
    cases items' with
    | nil => simp [itemsAlike]
    | cons item' rest' =>
      simp [itemsAlike, Item.alike_iff_eq item item', itemsAlike_iff_eq rest rest']

theorem entriesAlike_iff_eq : (entries entries' : List (String × Item)) →
    (entriesAlike entries entries' = true ↔ entries = entries')
  | [], entries' => by cases entries' <;> simp [entriesAlike]
  | (_, item) :: rest, entries' => by
    cases entries' with
    | nil => simp [entriesAlike]
    | cons entry' rest' =>
      simp [entriesAlike, Item.alike_iff_eq item entry'.2, entriesAlike_iff_eq rest rest',
        Prod.ext_iff]

end

instance instDecidableEqItem : DecidableEq Item := fun item item' =>
  decidable_of_iff _ (item.alike_iff_eq item')

end Membrane.Toml
