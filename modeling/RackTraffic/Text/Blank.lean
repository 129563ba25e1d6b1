/-!
# Blank characters and words

A character is *blank* if Unicode gives it the property `White_Space`: twenty-five characters in
all. Every rule of the log and result formats that speaks of white space means this class, so that
a no-break space or an ideographic space separates words exactly as a space does.

Texts are lists of characters here. Trimming drops blanks at an end; a *word* is a maximal run of
characters that are not blank.
-/

namespace RackTraffic.Text

/-- Whether a character has the property `White_Space`. -/
def isBlank (c : Char) : Bool :=
  let n := c.toNat
  (9 ≤ n && n ≤ 13) || n == 0x20 || n == 0x85 || n == 0xA0 || n == 0x1680 ||
    (0x2000 ≤ n && n ≤ 0x200A) || n == 0x2028 || n == 0x2029 || n == 0x202F || n == 0x205F ||
    n == 0x3000

/-- Whether a text consists of blanks alone. The empty text does. -/
def allBlank (s : List Char) : Bool := s.all isBlank

/-! ## Trimming -/

/-- Drop the characters at the end that satisfy `p`. -/
def dropEndWhile (p : Char → Bool) (s : List Char) : List Char :=
  (s.reverse.dropWhile p).reverse

def trimStart (s : List Char) : List Char := s.dropWhile isBlank

def trimEnd (s : List Char) : List Char := dropEndWhile isBlank s

def trim (s : List Char) : List Char := trimEnd (trimStart s)

@[simp] theorem trimEnd_nil : trimEnd [] = [] := rfl

@[simp] theorem trimStart_nil : trimStart [] = [] := rfl

theorem dropEndWhile_append_of_all {p : Char → Bool} (s t : List Char) (h : t.all p) :
    dropEndWhile p (s ++ t) = dropEndWhile p s := by
  have h' : ∀ c ∈ t.reverse, p c := by simpa using h
  rw [dropEndWhile, dropEndWhile, List.reverse_append, List.dropWhile_append_of_pos h']

theorem trimEnd_append_of_allBlank (s t : List Char) (h : allBlank t) :
    trimEnd (s ++ t) = trimEnd s :=
  dropEndWhile_append_of_all s t h

/-! ## Words -/

def words (s : List Char) : List (List Char) :=
  (s.splitOnP isBlank).filter fun w => !w.isEmpty

end RackTraffic.Text
