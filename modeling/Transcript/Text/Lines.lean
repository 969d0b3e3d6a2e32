/-!
# Lines

Two ways to cut a text into lines. `lines` reads a script: a line ends at a line feed, which takes one
carriage return before it along, and a last line may lack its end. `splitAt` cuts at every occurrence
of a character, so that `n` occurrences make `n + 1` pieces.
-/

namespace Transcript.Text

/-- The lines of a text. A line feed ends a line and takes one carriage return before it along; text
after the last line feed is a line of its own, and there is no such line when nothing follows. -/
def lines : List Char → List (List Char)
  | [] => []
  | '\n' :: r => [] :: lines r
  | '\r' :: '\n' :: r => [] :: lines r
  | c :: r =>
    match lines r with
    | [] => [[c]]
    | l :: ls => (c :: l) :: ls

/-- The pieces between the occurrences of a character; one more than there are occurrences. -/
def splitAt (sep : Char) : List Char → List (List Char)
  | [] => [[]]
  | c :: r =>
    match splitAt sep r with
    | [] => [[c]]
    | l :: ls => if c = sep then [] :: l :: ls else (c :: l) :: ls

/-- A line without one carriage return at its end. -/
def dropReturn (l : List Char) : List Char :=
  match l.getLast? with
  | some '\r' => l.dropLast
  | _ => l

end Transcript.Text
