import Twilight.Toml.Quoted

namespace Twilight.Toml

/-!
# TOML documents

* `value?` — a value at the front of a text. Values nest fewer than eighty deep.
* `document?` — the table that a whole text describes, or nothing if the text is no TOML 1.0.
-/

/-- A reader answers what it found at the front of a text, and the rest. -/
abbrev Reader (α : Type) := List Char → Option (α × List Char)

/-- Values nest fewer levels deep than this, and keys have fewer parts. -/
def nestingLimit : Nat := 80

/-! ### Blanks, comments and line ends -/

def isSpace (c : Char) : Bool := c == ' ' || c == '\t'

def skipSpaces (cs : List Char) : List Char := cs.dropWhile isSpace

/-- A text without a comment at its front. -/
def skipComment : List Char → List Char
  | '#' :: cs => cs.dropWhile isPrintable
  | cs => cs

/-- What follows a line end; the end of the text counts as one. -/
def lineEnd? : List Char → Option (List Char)
  | [] => some []
  | '\n' :: cs => some cs
  | '\r' :: '\n' :: cs => some cs
  | _ => none

/-- What follows the line, when nothing but blanks and a comment are left on it. -/
def restOfLine? (cs : List Char) : Option (List Char) := lineEnd? (skipComment (skipSpaces cs))

/-- What follows blanks, line ends and comments with their line ends. -/
def skipTrivia? : (turns : Nat) → List Char → Option (List Char)
  | 0, cs => some cs
  | turns + 1, cs =>
    match skipSpaces cs with
    | [] => some []
    | c :: rest =>
      if c = '#' ∨ c = '\n' ∨ c = '\r' then
        match lineEnd? (skipComment (c :: rest)) with
        | some rest => skipTrivia? turns rest
        | none => none
      else some (c :: rest)

/-- `skipTrivia?` with turns enough for the text. -/
def trivia? (cs : List Char) : Option (List Char) := skipTrivia? (cs.length + 1) cs

/-! ### Keys -/

/-- Whether a character needs no quotes in a key. -/
def isBareChar (c : Char) : Bool := c.isAlphanum || c == '-' || c == '_'

/-- One part of a key. -/
def keyPart? (cs : List Char) : Option (String × List Char) :=
  match cs with
  | [] => none
  | c :: _ =>
    if c = '"' ∨ c = '\'' then (singleLine? cs).map fun (s, rest) => (String.ofList s, rest)
    else
      let bare := cs.takeWhile isBareChar
      if bare = [] then none else some (String.ofList bare, cs.dropWhile isBareChar)

/-- The further parts of a key, each behind a dot. -/
def keyTail? : (turns : Nat) → List Char → Option (List String × List Char)
  | 0, cs => some ([], cs)
  | turns + 1, cs =>
    match skipSpaces cs with
    | '.' :: rest =>
      match keyPart? (skipSpaces rest) with
      | some (part, rest) => (keyTail? turns rest).map fun (parts, rest) => (part :: parts, rest)
      | none => none
    | rest => some ([], rest)

/-- A dotted key: the parts in front, and the last one. -/
structure DottedKey where
  path : List String
  last : String

/-- A dotted key with the blanks around it. -/
def key? (cs : List Char) : Option (DottedKey × List Char) :=
  match keyPart? (skipSpaces cs) with
  | none => none
  | some (first, rest) =>
    match keyTail? rest.length rest with
    | none => none
    | some (parts, rest) =>
      if nestingLimit ≤ parts.length + 1 then none
      else some (⟨(first :: parts).dropLast, (first :: parts).getLast (by simp)⟩, rest)

/-! ### Values -/

/-- A key, an equals sign and a value. -/
def keyValue? (value : Reader Value) (cs : List Char) : Option ((DottedKey × Value) × List Char) :=
  match key? cs with
  | some (key, '=' :: rest) =>
    (value (skipSpaces rest)).map fun (v, rest) => ((key, v), rest)
  | _ => none

/-- The values of an array behind its bracket; a comma may follow the last one. -/
def items? (value : Reader Value) : (turns : Nat) → List Char → Option (List Value × List Char)
  | 0, _ => none
  | turns + 1, cs =>
    match trivia? cs with
    | some (']' :: rest) => some ([], rest)
    | some rest =>
      match value rest with
      | none => none
      | some (v, rest) =>
        match trivia? rest with
        | some (',' :: rest) =>
          (items? value turns rest).map fun (vs, rest) => (v :: vs, rest)
        | some (']' :: rest) => some ([v], rest)
        | _ => none
    | none => none

/-- The entries of an inline table behind the first one, which is in `es`. -/
def pairs? (value : Reader Value) : (turns : Nat) → Entries → List Char →
    Option (Entries × List Char)
  | 0, _, _ => none
  | turns + 1, es, cs =>
    match keyValue? value cs with
    | none => none
    | some ((key, v), rest) =>
      match insertAt key.path key.last v .inlined es with
      | none => none
      | some es =>
        match skipSpaces rest with
        | ',' :: rest => pairs? value turns es rest
        | '}' :: rest => some (es, rest)
        | _ => none

/-- A token, with a date and a time that are parted by a blank taken together. -/
def token (cs : List Char) : List Char × List Char :=
  let front := cs.takeWhile isTokenChar
  let rest := cs.dropWhile isTokenChar
  match rest with
  | ' ' :: behind =>
    let time := behind.takeWhile isTokenChar
    if isDate front && isTimeWithOffset time then
      (front ++ 'T' :: time, behind.dropWhile isTokenChar)
    else (front, rest)
  | _ => (front, rest)

/-- A value, in which arrays and inline tables nest at most `depth` deep. -/
def value? : (depth : Nat) → List Char → Option (Value × List Char)
  | depth, cs =>
    match cs with
    | [] => none
    | c :: rest =>
      if c = '"' ∨ c = '\'' then (quoted? cs).map fun (s, rest) => (.text (String.ofList s), rest)
      else if c = '[' then
        match depth with
        | 0 => none
        | depth + 1 =>
          (items? (value? depth) (rest.length + 1) rest).map fun (vs, rest) => (.array vs, rest)
      else if c = '\x7b' then
        match depth with
        | 0 => none
        | depth + 1 =>
          match skipSpaces rest with
          | '}' :: rest => some (.table .inlined [], rest)
          | rest =>
            (pairs? (value? depth) (rest.length + 1) [] rest).map fun (es, rest) =>
              (.table .inlined es, rest)
      else
        let (front, rest) := token cs
        (scalar? front).map fun v => (v, rest)

/-! ### Lines -/

/-- The table read so far, and the path of the header that is open. -/
structure Progress where
  root : Entries := []
  opened : List String := []

/-- One line: blank, a comment, a header, or a key with its value. -/
def line? (p : Progress) (cs : List Char) : Option (Progress × List Char) :=
  match skipSpaces cs with
  | '[' :: '[' :: cs =>
    match key? cs with
    | some (key, ']' :: ']' :: rest) => do
      let root ← openElement key.path key.last p.root
      let rest ← restOfLine? rest
      return ({ root := root, opened := key.path ++ [key.last] }, rest)
    | _ => none
  | '[' :: cs =>
    match key? cs with
    | some (key, ']' :: rest) => do
      let root ← openTable key.path key.last p.root
      let rest ← restOfLine? rest
      return ({ root := root, opened := key.path ++ [key.last] }, rest)
    | _ => none
  | [] => some (p, [])
  | c :: rest =>
    if c = '#' ∨ c = '\n' ∨ c = '\r' then (restOfLine? (c :: rest)).map fun rest => (p, rest)
    else do
      let ((key, v), rest) ← keyValue? (value? (nestingLimit - 1)) (c :: rest)
      let root ← changeOpened (insertAt key.path key.last v) p.opened .header p.root
      let rest ← restOfLine? rest
      return ({ p with root := root }, rest)

/-- Line after line, to the end of the text. -/
def lines? : (turns : Nat) → Progress → List Char → Option Entries
  | 0, p, cs => if cs = [] then some p.root else none
  | turns + 1, p, cs =>
    if cs = [] then some p.root
    else
      match line? p cs with
      | some (p, rest) => lines? turns p rest
      | none => none

/-- The table that a text describes. A byte order mark in front does not count. -/
def document? (text : String) : Option Entries :=
  match text.toList with
  | '\uFEFF' :: cs => lines? (cs.length + 1) {} cs
  | cs => lines? (cs.length + 1) {} cs

end Twilight.Toml
