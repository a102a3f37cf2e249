/-!
# Quoted texts of documents

Texts between double quotes, with escapes, and between single quotes, without;
each on one line, or over several lines between three quotes.
-/

namespace Membrane.Toml

/-- Characters that stand for themselves in a comment or in a text: all but
control characters, the tab being none. -/
def isPlain (c : Char) : Bool :=
  c = '\t' || (0x20 ≤ c.toNat && c.toNat ≠ 0x7F)

/-- A space or a tab. -/
def isSpace (c : Char) : Bool :=
  c = ' ' || c = '\t'

/-- A space, a tab or an end of line. -/
def isGap (c : Char) : Bool :=
  isSpace c || c = '\n' || c = '\r'

/-- The character of a code point given by hexadecimal digits. Surrogates are
no characters. -/
def charOfHex? (digits : List Char) : Option Char :=
  let value? (c : Char) : Option Nat :=
    if c.isDigit then some (c.toNat - '0'.toNat)
    else if 'a' ≤ c.toLower ∧ c.toLower ≤ 'f' then some (c.toLower.toNat - 'a'.toNat + 10)
    else none
  do
    let values ← digits.mapM value?
    let n := values.foldl (fun n value => 16 * n + value) 0
    if h : n.isValidChar then some (.ofNatAux n h) else none

/-- The character of an escape of one letter. -/
def escapeOf? : Char → Option Char
  | 'b' => some '\x08'
  | 't' => some '\t'
  | 'n' => some '\n'
  | 'f' => some '\x0c'
  | 'r' => some '\r'
  | 'e' => some '\x1b'
  | '"' => some '"'
  | '\\' => some '\\'
  | _ => none

/-- Whether a line ends here, after spaces. -/
def endsLine (cs : List Char) : Bool :=
  match cs.dropWhile isSpace with
  | '\n' :: _ => true
  | '\r' :: '\n' :: _ => true
  | _ => false

/-- The text of a raw content without escapes. A text on one line has no end of
line in it. -/
def readRaw? (multiline : Bool) : List Char → Option (List Char)
  | [] => some []
  | '\r' :: '\n' :: rest => if multiline then ('\n' :: ·) <$> readRaw? multiline rest else none
  | c :: rest =>
    if isPlain c || (multiline && c = '\n') then (c :: ·) <$> readRaw? multiline rest else none

/-- The text of a raw content with escapes. In a text over several lines, a
backslash at the end of a line skips to the next character that is not blank;
`skipping` tells that such a gap is being skipped. -/
def readEscaped? (multiline skipping : Bool) : List Char → Option (List Char)
  | [] => some []
  | '\\' :: 'x' :: a :: b :: rest => do
    return (← charOfHex? [a, b]) :: (← readEscaped? multiline false rest)
  | '\\' :: 'u' :: a :: b :: c :: d :: rest => do
    return (← charOfHex? [a, b, c, d]) :: (← readEscaped? multiline false rest)
  | '\\' :: 'U' :: a :: b :: c :: d :: e :: f :: g :: h :: rest => do
    return (← charOfHex? [a, b, c, d, e, f, g, h]) :: (← readEscaped? multiline false rest)
  | '\\' :: c :: rest =>
    if multiline && endsLine (c :: rest) then readEscaped? multiline true rest
    else do return (← escapeOf? c) :: (← readEscaped? multiline false rest)
  | '\r' :: '\n' :: rest =>
    if skipping then readEscaped? multiline true rest
    else if multiline then ('\n' :: ·) <$> readEscaped? multiline false rest
    else none
  | c :: rest =>
    if skipping && (isSpace c || c = '\n') then readEscaped? multiline true rest
    else if c ≠ '\\' && (isPlain c || (multiline && c = '\n')) then
      (c :: ·) <$> readEscaped? multiline false rest
    else none

/-- Splits at the quote that closes a text on one line. With escapes, a quote
behind a backslash closes nothing. -/
def splitQuote? (quote : Char) (escapes : Bool) : List Char → Option (List Char × List Char)
  | [] => none
  | '\\' :: c :: rest =>
    if escapes then do
      let (content, rest) ← splitQuote? quote escapes rest
      return ('\\' :: c :: content, rest)
    else if c = quote then some (['\\'], rest)
    else do
      let (content, rest) ← splitQuote? quote escapes rest
      return ('\\' :: c :: content, rest)
  | c :: rest =>
    if c = quote then some ([], rest)
    else do
      let (content, rest) ← splitQuote? quote escapes rest
      return (c :: content, rest)

/-- Splits at the three quotes that close a text over several lines. Up to two
quotes before them belong to the text. -/
def splitQuotes? (quote : Char) (escapes : Bool) : List Char → Option (List Char × List Char)
  | a :: b :: c :: rest =>
    if a = quote ∧ b = quote ∧ c = quote then
      match rest with
      | d :: e :: rest' =>
        if d = quote ∧ e = quote then some ([quote, quote], rest')
        else if d = quote then some ([quote], e :: rest')
        else some ([], rest)
      | [d] => if d = quote then some ([quote], []) else some ([], rest)
      | [] => some ([], [])
    else if escapes ∧ a = '\\' then do
      let (content, rest) ← splitQuotes? quote escapes (c :: rest)
      return (a :: b :: content, rest)
    else do
      let (content, rest) ← splitQuotes? quote escapes (b :: c :: rest)
      return (a :: content, rest)
  | _ => none

/-- A content without the end of line with which it starts. -/
def withoutFirstNewline : List Char → List Char
  | '\n' :: rest => rest
  | '\r' :: '\n' :: rest => rest
  | cs => cs

/-- A text on one line, after its opening quote. -/
def readLine? (quote : Char) (cs : List Char) : Option (String × List Char) := do
  let (content, rest) ← splitQuote? quote (quote = '"') cs
  let text ← if quote = '"' then readEscaped? false false content else readRaw? false content
  return (.ofList text, rest)

/-- A text over several lines, after its opening quotes. -/
def readLines? (quote : Char) (cs : List Char) : Option (String × List Char) := do
  let (content, rest) ← splitQuotes? quote (quote = '"') (withoutFirstNewline cs)
  let text ← if quote = '"' then readEscaped? true false content else readRaw? true content
  return (.ofList text, rest)

end Membrane.Toml
