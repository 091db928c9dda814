namespace Twilight.Text

/-!
# Lines

* `lines` — the lines of a text. A line ends at a line feed, or at a carriage return and a line
  feed; what follows the last one is a line only if it is not empty.
-/

/-- The lines of a text, without their ends. -/
def lines : List Char → List (List Char)
  | [] => []
  | '\n' :: cs => [] :: lines cs
  | '\r' :: '\n' :: cs => [] :: lines cs
  | c :: cs =>
    match lines cs with
    | [] => [[c]]
    | l :: ls => (c :: l) :: ls

example : lines "a\r\n\nb".toList = ["a".toList, [], "b".toList] := by decide

/-- The lines of a text as texts. -/
def linesOf (s : String) : List String := (lines s.toList).map String.ofList

end Twilight.Text
