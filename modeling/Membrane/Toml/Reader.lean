import Membrane.Toml.Quoted
import Membrane.Toml.Scalar

/-!
# Reading documents

A document is a sequence of lines: entries, headers of tables, headers of
tables in arrays, comments and nothing. Values may span lines; arrays and
inline tables nest to a limit.
-/

namespace Membrane.Toml

/-- Skips blanks, ends of line and comments, starting inside a comment or
outside. -/
def skipTrivia? (inComment : Bool) : List Char → Option (List Char)
  | [] => some []
  | '\r' :: '\n' :: rest => skipTrivia? false rest
  | c :: rest =>
    if c = '\n' then skipTrivia? false rest
    else if inComment then if isPlain c then skipTrivia? true rest else none
    else if isSpace c then skipTrivia? false rest
    else if c = '#' then skipTrivia? true rest
    else some (c :: rest)

/-- Skips spaces and tabs. -/
def skipSpaces (cs : List Char) : List Char :=
  cs.dropWhile isSpace

/-- Skips the rest of a line, which holds at most a comment. -/
def skipLineEnd? (cs : List Char) : Option (List Char) :=
  match skipSpaces cs with
  | [] => some []
  | '\n' :: rest => some rest
  | '\r' :: '\n' :: rest => some rest
  | '#' :: rest =>
    match rest.dropWhile isPlain with
    | [] => some []
    | '\n' :: rest => some rest
    | '\r' :: '\n' :: rest => some rest
    | _ => none
  | _ => none

/-- Whether a character may stand in a key without quotes. -/
def isBare (c : Char) : Bool :=
  c.isAlphanum || c = '_' || c = '-'

/-- One part of a key: quoted on one line, or bare. -/
def readKeyPart? (cs : List Char) : Option (String × List Char) :=
  match cs with
  | '"' :: rest => readLine? '"' rest
  | '\'' :: rest => readLine? '\'' rest
  | _ =>
    match cs.takeWhile isBare with
    | [] => none
    | name => some (.ofList name, cs.dropWhile isBare)

/-- A key: parts with points between them, as the path before the last part and
that part. A key has at most a given number of parts. -/
def readParts? : Nat → List Char → Option (List String × String × List Char)
  | 0, _ => none
  | room + 1, cs => do
    let (first, rest) ← readKeyPart? (skipSpaces cs)
    match skipSpaces rest with
    | '.' :: rest =>
      let (path, name, rest) ← readParts? room rest
      return (first :: path, name, rest)
    | rest => return ([], first, rest)

/-- How deep arrays and inline tables may nest, and how many parts a key may
have. -/
def nestingLimit : Nat :=
  80

/-- A key within the limit. -/
def readKey? : List Char → Option (List String × String × List Char) :=
  readParts? nestingLimit

/-- Whether a character may stand in a scalar that does not start with a
quote. -/
def isScalarChar (c : Char) : Bool :=
  !(isGap c || c = ',' || c = ']' || c = '}' || c = '#' || c = '=' || c = '[' || c = '{')

/-- Whether a scalar goes on behind spaces and tabs. -/
def goesOn (cs : List Char) : Bool :=
  match skipSpaces cs with
  | c :: _ => isScalarChar c && c ≠ '"' && c ≠ '\''
  | [] => false

/-- Splits off the text of a scalar that does not start with a quote. Spaces and
tabs inside it belong to it, since a date and a time of the day may have one
between them. -/
def splitScalar : List Char → List Char × List Char
  | [] => ([], [])
  | c :: rest =>
    if isScalarChar c || (isSpace c && goesOn rest) then
      let (text, rest) := splitScalar rest
      (c :: text, rest)
    else ([], c :: rest)

mutual

/-- A value. The fuel bounds the number of steps, and `room` the nesting of
arrays and inline tables. -/
def readValue? : (fuel room : Nat) → List Char → Option (Item × List Char)
  | 0, _, _ => none
  | fuel + 1, room, cs =>
    match cs with
    | '"' :: '"' :: '"' :: rest =>
      (readLines? '"' rest).map fun (text, rest) => (.string text, rest)
    | '"' :: rest => (readLine? '"' rest).map fun (text, rest) => (.string text, rest)
    | '\'' :: '\'' :: '\'' :: rest =>
      (readLines? '\'' rest).map fun (text, rest) => (.string text, rest)
    | '\'' :: rest => (readLine? '\'' rest).map fun (text, rest) => (.string text, rest)
    | '[' :: rest =>
      match room with
      | 0 => none
      | room + 1 => (readItems? fuel room rest).map fun (items, rest) => (.array false items, rest)
    | '{' :: rest =>
      match room with
      | 0 => none
      | room + 1 =>
        (readEntries? fuel room [] rest).map fun (entries, rest) => (.table .inline entries, rest)
    | _ =>
      let (text, rest) := splitScalar cs
      (readScalar? text).map fun item => (item, rest)

/-- The items of an array, up to its closing bracket. -/
def readItems? : (fuel room : Nat) → List Char → Option (List Item × List Char)
  | 0, _, _ => none
  | fuel + 1, room, cs => do
    match ← skipTrivia? false cs with
    | ']' :: rest => return ([], rest)
    | cs =>
      let (item, rest) ← readValue? fuel room cs
      match ← skipTrivia? false rest with
      | ',' :: rest =>
        let (items, rest) ← readItems? fuel room rest
        return (item :: items, rest)
      | ']' :: rest => return ([item], rest)
      | _ => none

/-- The entries of an inline table, up to its closing brace. Lines may end
anywhere but inside a key. -/
def readEntries? : (fuel room : Nat) → Entries → List Char → Option (Entries × List Char)
  | 0, _, _, _ => none
  | fuel + 1, room, entries, cs => do
    match ← skipTrivia? false cs with
    | '}' :: rest => return (entries, rest)
    | cs =>
      let (path, name, rest) ← readKey? cs
      let rest ← skipTrivia? false (← skipChar? '=' (← skipTrivia? false rest))
      let (item, rest) ← readValue? fuel room rest
      let (_, entries) ← assign path name item .inline entries
      match ← skipTrivia? false rest with
      | ',' :: rest => readEntries? fuel room entries rest
      | '}' :: rest => return (entries, rest)
      | _ => none

end

/-- A bound on the steps that reading a text takes. -/
def stepsFor (cs : List Char) : Nat :=
  2 * cs.length + 2

/-- An entry on a line of its own. -/
def readEntryLine? (location : List String) (entries : Entries) (cs : List Char) :
    Option (Entries × List Char) := do
  let (path, name, rest) ← readKey? cs
  let (item, rest) ←
    readValue? (stepsFor cs) nestingLimit (skipSpaces (← skipChar? '=' rest))
  return (← assignIn location path name item entries, ← skipLineEnd? rest)

/-- A header after its opening brackets: the path of its table, and what is left
after the closing brackets and the line. -/
def readHeaderLine? (closing : List Char) (cs : List Char) :
    Option (List String × String × List Char) := do
  let (path, name, rest) ← readKey? cs
  let rest ← closing.foldlM (fun rest c => skipChar? c rest) rest
  return (path, name, ← skipLineEnd? rest)

/-- Reads lines into the entries of a document. The location is the path of the
table that the last header has opened. The fuel bounds the number of lines. -/
def readDocument? : Nat → List String → Entries → List Char → Option Entries
  | 0, _, _, _ => none
  | fuel + 1, location, entries, cs => do
    match ← skipTrivia? false cs with
    | [] => return entries
    | '[' :: '[' :: rest =>
      let (path, name, rest) ← readHeaderLine? [']', ']'] rest
      readDocument? fuel (path ++ [name]) (← openElement path name entries) rest
    | '[' :: rest =>
      let (path, name, rest) ← readHeaderLine? [']'] rest
      readDocument? fuel (path ++ [name]) (← openTable path name entries) rest
    | cs =>
      let (entries, rest) ← readEntryLine? location entries cs
      readDocument? fuel location entries rest

/-- A text without a byte order mark at its start. -/
def withoutMark : List Char → List Char
  | c :: rest => if c.toNat = 0xFEFF then rest else c :: rest
  | [] => []

/-- The entries of a document. -/
def read? (text : String) : Option Entries :=
  let cs := withoutMark text.toList
  readDocument? (cs.length + 1) [] [] cs

end Membrane.Toml
