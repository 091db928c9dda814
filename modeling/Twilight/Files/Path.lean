namespace Twilight.Path

/-!
# Paths as texts

* `pieces` — the names between the slashes of a path, empty ones included.
* `components` — what a path means: repeated slashes and inner dots do not count.
* `join` — a path taken relative to another one.
* `parent?`, `fileName?` — a path without its last component, and the name of that component.
* `isPossible`, `isName` — the paths and names that the system takes.
-/

/-- The parts of a text between the occurrences of a character. -/
def splitAt (sep : Char) : List Char → List (List Char)
  | [] => [[]]
  | c :: cs =>
    if c = sep then [] :: splitAt sep cs
    else
      match splitAt sep cs with
      | [] => [[c]]
      | part :: parts => (c :: part) :: parts

/-- The names between the slashes. -/
def pieces (path : String) : List String := (splitAt '/' path.toList).map String.ofList

/-- Whether a path starts at the root. -/
def isAbsolute (path : String) : Bool := path.toList.head? == some '/'

/-- `path` as seen from `base`: an absolute path stands for itself, and a slash at the end of
    `base` is not doubled. -/
def join (base path : String) : String :=
  if isAbsolute path then path
  else if base.isEmpty || base.toList.getLast? == some '/' then base ++ path
  else base ++ "/" ++ path

/-- A meaningful part of a path. -/
inductive Component where
  | root
  | here
  | up
  | name (text : String)
  deriving DecidableEq, Repr

/-- The components of the pieces behind the first one. -/
def innerComponents (ps : List String) : List Component :=
  ps.filterMap fun p =>
    if p = "" || p = "." then none else if p = ".." then some .up else some (.name p)

/-- The meaningful parts of a path. A dot counts only where a relative path starts with it. -/
def components (path : String) : List Component :=
  match pieces path with
  | [] => []
  | "" :: rest => if path.isEmpty then [] else .root :: innerComponents rest
  | "." :: rest => .here :: innerComponents rest
  | first :: rest => innerComponents (first :: rest)

example : components "/a//b/./c/" = [.root, .name "a", .name "b", .name "c"] := by decide
example : components "./a/.." = [.here, .name "a", .up] := by decide

/-- A reversed path without the slashes and inner dots at its end. -/
def trimTail : List Char → List Char
  | [] => []
  | '/' :: cs => if cs = [] then ['/'] else trimTail cs
  | '.' :: cs =>
    match cs with
    | '/' :: _ => trimTail cs
    | _ => '.' :: cs
  | c :: cs => c :: cs

/-- A path without its last component; the root and the empty path have no parent. -/
def parent? (path : String) : Option String :=
  let tail := trimTail path.toList.reverse
  if tail = [] ∨ tail = ['/'] then none
  else some (String.ofList (trimTail (tail.dropWhile (· ≠ '/'))).reverse)

/-- The last component, when it is a name. -/
def fileName? (path : String) : Option String :=
  let last := String.ofList ((trimTail path.toList.reverse).takeWhile (· ≠ '/')).reverse
  if last = "" ∨ last = "." ∨ last = ".." then none else some last

/-- Whether the last piece of a path is a dot or two; slashes behind it do not count. -/
def endsInDots (path : String) : Bool :=
  match (pieces path).reverse.find? (· ≠ "") with
  | some last => last = "." || last = ".."
  | none => false

/-- The directory that holds a path's last component: its parent, or the working directory where
    the parent is missing or empty. -/
def directory (path : String) : String :=
  match parent? path with
  | some "" | none => "."
  | some parent => parent

/-! ### Limits -/

/-- Whether a text is short enough for a name in a directory; it is measured in bytes. -/
def isName (name : String) : Bool := name.utf8ByteSize ≤ 255

/-- Whether a text can be the path of anything: it has no zero character, and fits in 4096 bytes
    together with the zero byte behind it. -/
def isPossible (path : String) : Bool :=
  !path.toList.contains '\x00' && path.utf8ByteSize ≤ 4095

example : parent? "a//b/./" = some "a" ∧ parent? "/a" = some "/" ∧ parent? "a" = some "" ∧
    parent? "/." = none ∧ fileName? "a/.." = none ∧ fileName? "./s/." = some "s" := by decide

end Twilight.Path
