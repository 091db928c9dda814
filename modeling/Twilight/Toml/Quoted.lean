import Twilight.Toml.Scalar

namespace Twilight.Toml

/-!
# Quoted strings

* `quoted?` — a string of one of the four kinds at the front of a text: basic or literal, on one
  line or on several.
* `escape?` — the character of an escape.

The readers take a bound on their turns; every turn consumes a character, so the length of the text
is bound enough.
-/

/-- Whether a character may stand for itself in a text: a tab, or anything but a control. -/
def isPrintable (c : Char) : Bool := c == '\t' || (0x20 ≤ c.toNat && c.toNat != 0x7F)

/-- The character whose code point has the given hexadecimal digits. -/
def codePoint? (digits : List Char) : Option Char :=
  if digits.all (fun c => (hexDigit? c).isSome) then
    let n := valueOf 16 digits
    if n.isValidChar then some (Char.ofNat n) else none
  else none

/-- The character of an escape, behind its backslash. -/
def escape? : List Char → Option (Char × List Char)
  | 'b' :: cs => some ('\x08', cs)
  | 't' :: cs => some ('\t', cs)
  | 'n' :: cs => some ('\n', cs)
  | 'f' :: cs => some ('\x0c', cs)
  | 'r' :: cs => some ('\r', cs)
  | '"' :: cs => some ('"', cs)
  | '\\' :: cs => some ('\\', cs)
  | 'u' :: cs =>
    if (cs.take 4).length = 4 then (codePoint? (cs.take 4)).map fun c => (c, cs.drop 4) else none
  | 'U' :: cs =>
    if (cs.take 8).length = 8 then (codePoint? (cs.take 8)).map fun c => (c, cs.drop 8) else none
  | _ => none

/-- A character in front of what a reader found. -/
def consFound (c : Char) (found : Option (List Char × List Char)) :
    Option (List Char × List Char) :=
  found.map fun (cs, rest) => (c :: cs, rest)

/-- The rest of a basic string on one line. -/
def basic? : (turns : Nat) → List Char → Option (List Char × List Char)
  | 0, _ => none
  | _ + 1, [] => none
  | _ + 1, '"' :: cs => some ([], cs)
  | turns + 1, '\\' :: cs =>
    match escape? cs with
    | some (c, cs) => consFound c (basic? turns cs)
    | none => none
  | turns + 1, c :: cs => if isPrintable c then consFound c (basic? turns cs) else none

/-- The rest of a literal string on one line. -/
def literal? : List Char → Option (List Char × List Char)
  | [] => none
  | '\'' :: cs => some ([], cs)
  | c :: cs => if isPrintable c then consFound c (literal? cs) else none

/-- How a run of `quote` ends a string on several lines: three quotes close it, and up to two more
    in front of them belong to it. Answers those and what follows. -/
def closing? (quote : Char) (cs : List Char) : Option (List Char × List Char) :=
  let count := (cs.takeWhile (· = quote)).length
  if count < 3 then none
  else
    let own := min (count - 3) 2
    some (List.replicate own quote, cs.drop (own + 3))

/-- What follows blanks, when it is on a new line; blanks and line ends are skipped then. -/
def continuation? (cs : List Char) : Option (List Char) :=
  let isSpace (c : Char) := c == ' ' || c == '\t'
  let behind := cs.dropWhile isSpace
  let rec skip : List Char → List Char
    | ' ' :: cs => skip cs
    | '\t' :: cs => skip cs
    | '\n' :: cs => skip cs
    | '\r' :: '\n' :: cs => skip cs
    | cs => cs
  match behind with
  | '\n' :: _ => some (skip behind)
  | '\r' :: '\n' :: _ => some (skip behind)
  | _ => none

/-- The rest of a basic string on several lines. -/
def multiBasic? : (turns : Nat) → List Char → Option (List Char × List Char)
  | 0, _ => none
  | _ + 1, [] => none
  | turns + 1, '"' :: cs =>
    match closing? '"' ('"' :: cs) with
    | some found => some found
    | none => consFound '"' (multiBasic? turns cs)
  | turns + 1, '\\' :: cs =>
    match continuation? cs with
    | some cs => multiBasic? turns cs
    | none =>
      match escape? cs with
      | some (c, cs) => consFound c (multiBasic? turns cs)
      | none => none
  | turns + 1, '\n' :: cs => consFound '\n' (multiBasic? turns cs)
  | turns + 1, '\r' :: '\n' :: cs => consFound '\n' (multiBasic? turns cs)
  | turns + 1, c :: cs => if isPrintable c then consFound c (multiBasic? turns cs) else none

/-- The rest of a literal string on several lines. -/
def multiLiteral? : List Char → Option (List Char × List Char)
  | [] => none
  | '\'' :: cs =>
    match closing? '\'' ('\'' :: cs) with
    | some found => some found
    | none => consFound '\'' (multiLiteral? cs)
  | '\n' :: cs => consFound '\n' (multiLiteral? cs)
  | '\r' :: '\n' :: cs => consFound '\n' (multiLiteral? cs)
  | c :: cs => if isPrintable c then consFound c (multiLiteral? cs) else none

/-- A text without a line end at its front. -/
def dropLineEnd : List Char → List Char
  | '\n' :: cs => cs
  | '\r' :: '\n' :: cs => cs
  | cs => cs

/-- A string on one line. -/
def singleLine? : List Char → Option (List Char × List Char)
  | '"' :: cs => basic? (cs.length + 1) cs
  | '\'' :: cs => literal? cs
  | _ => none

/-- A string of any kind. A line end right behind three quotes does not count. -/
def quoted? : List Char → Option (List Char × List Char)
  | '"' :: '"' :: '"' :: cs => multiBasic? (cs.length + 1) (dropLineEnd cs)
  | '\'' :: '\'' :: '\'' :: cs => multiLiteral? (dropLineEnd cs)
  | cs => singleLine? cs

end Twilight.Toml
