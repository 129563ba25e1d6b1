import RackTraffic.Text.Blank

/-!
# Lines

A line ends at a line feed, and a carriage return just before that line feed belongs to the ending.
What follows the last line feed is a line too, unless it is empty; a carriage return at its end is
then part of it.

Readers of logs and results work on the *written lines*: those that are not blank, each with its
number. Numbers count every line from 1, blank ones included, so that an error names the line that
an editor shows.
-/

namespace RackTraffic.Text

/-- A line without the carriage return of its ending. -/
def dropReturn (line : List Char) : List Char :=
  if line.getLast? = some '\r' then line.dropLast else line

/-- The lines of a text, without their endings. -/
def lines (s : List Char) : List (List Char) :=
  let pieces := s.splitOn '\n'
  let ended := pieces.dropLast.map dropReturn
  match pieces.getLast? with
  | none | some [] => ended
  | some rest => ended ++ [rest]

/-- The lines that are not blank, each with its number. -/
def writtenLines (s : List Char) : List (List Char × Nat) :=
  ((lines s).zipIdx 1).filter fun (line, _) => !allBlank line

def ofLines (ls : List (List Char)) : List Char := ls.flatMap (· ++ ['\n'])

@[simp] theorem ofLines_nil : ofLines [] = [] := rfl

@[simp] theorem ofLines_cons (l : List Char) (ls : List (List Char)) :
    ofLines (l :: ls) = l ++ '\n' :: ofLines ls := by
  simp [ofLines]

end RackTraffic.Text
