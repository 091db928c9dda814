import Twilight.Toml.Document

namespace Twilight.Toml

/-!
# Written TOML

* `writeKey` — a key: bare if it can be, else quoted.
* `writeText` — a string in the first of six forms that can hold it, the plainest first.
* `writeEntries` — one `key = value` line per entry.
-/

/-- A control character that no unescaped form may hold. -/
def isControl (c : Char) : Bool := (c.toNat < 0x20 && c != '\t' && c != '\n') || c.toNat == 0x7F

/-- The hexadecimal digit of a number below sixteen. -/
def hexChar (n : Nat) : Char :=
  if n % 16 < 10 then Char.ofNat ('0'.toNat + n % 16) else Char.ofNat ('A'.toNat + (n % 16 - 10))

/-- An escape of four hexadecimal digits, for code points below 256. -/
def escapeCode (c : Char) : List Char :=
  ['\\', 'u', '0', '0', hexChar (c.toNat / 16), hexChar c.toNat]

/-- A character in a basic form; `lineFeed` and `quote` say how those two are written there. -/
def escapeWith (lineFeed quote : List Char) (c : Char) : List Char :=
  if c = '\n' then lineFeed
  else if c = '"' then quote
  else if c = '\\' then ['\\', '\\']
  else if c = '\t' then ['\\', 't']
  else if c = '\x08' then ['\\', 'b']
  else if c = '\x0c' then ['\\', 'f']
  else if c = '\r' then ['\\', 'r']
  else if isControl c then escapeCode c
  else [c]

/-- A basic string on one line. -/
def writeBasic (cs : List Char) : List Char :=
  '"' :: cs.flatMap (escapeWith ['\\', 'n'] ['\\', '"']) ++ ['"']

/-- A literal string on one line. -/
def writeLiteral (cs : List Char) : List Char := '\'' :: cs ++ ['\'']

/-- The characters of a basic string on several lines, where `quotes` quotes stand right before:
    the third quote of a run is escaped. -/
def multiBasicBody : (quotes : Nat) → List Char → List Char
  | _, [] => []
  | quotes, c :: cs =>
    if c = '"' then
      if quotes = 2 then '\\' :: '"' :: multiBasicBody 0 cs
      else '"' :: multiBasicBody (quotes + 1) cs
    else escapeWith ['\n'] ['"'] c ++ multiBasicBody 0 cs

/-- A line end behind the opening quotes, where the value has lines of its own. -/
def leadingBreak (cs : List Char) : List Char := if '\n' ∈ cs then ['\n'] else []

/-- A basic string on several lines. -/
def writeMultiBasic (cs : List Char) : List Char :=
  ['"', '"', '"'] ++ leadingBreak cs ++ multiBasicBody 0 cs ++ ['"', '"', '"']

/-- A literal string on several lines. -/
def writeMultiLiteral (cs : List Char) : List Char :=
  ['\'', '\'', '\''] ++ leadingBreak cs ++ cs ++ ['\'', '\'', '\'']

/-- Whether three quotes of a kind stand side by side. -/
def hasTriple (quote : Char) : List Char → Bool
  | a :: b :: c :: cs =>
    (a = quote && b = quote && c = quote) || hasTriple quote (b :: c :: cs)
  | _ => false

/-- A string value: the first form that can hold it as it is, else one with escapes. -/
def writeText (cs : List Char) : List Char :=
  let controls := cs.any isControl
  let onOneLine := !controls && !cs.contains '\n'
  if onOneLine && !cs.contains '"' && !cs.contains '\\' then writeBasic cs
  else if onOneLine && !cs.contains '\'' then writeLiteral cs
  else if !controls && !cs.contains '\\' && !hasTriple '"' cs then writeMultiBasic cs
  else if !controls && !hasTriple '\'' cs then writeMultiLiteral cs
  else if cs.contains '\n' then writeMultiBasic cs
  else writeBasic cs

/-- A key. -/
def writeKey (cs : List Char) : List Char :=
  let plain := !cs.any isControl && !cs.contains '\n'
  if cs ≠ [] ∧ cs.all isBareChar then cs
  else if plain && !cs.contains '"' && !cs.contains '\\' then writeBasic cs
  else if plain && !cs.contains '\'' then writeLiteral cs
  else writeBasic cs

/-- A line with a key and its value. -/
def writeEntry (key value : String) : List Char :=
  writeKey key.toList ++ " = ".toList ++ writeText value.toList ++ ['\n']

/-- One line per entry. -/
def writeEntries (entries : List (String × String)) : List Char :=
  entries.flatMap fun p => writeEntry p.1 p.2

/-- A header of two parts. -/
def writeHeader (outer inner : String) : List Char :=
  '[' :: writeKey outer.toList ++ '.' :: writeKey inner.toList ++ [']', '\n']

end Twilight.Toml
