import PlanText.Text.Ranges
import PlanText.Text.Lower

/-!
Tokens by padding. Each line loses its comment, parentheses and question marks get blanks
around or before them, and what is left is split at blanks. This reading says nothing of
places; the scanner gives the same texts in one pass.
-/

namespace PlanText.Padded

open Text

/-- The stretches of a text between the characters that divide it, empty ones included. -/
def stretches (divides : Char → Bool) : List Char → List (List Char)
  | [] => [[]]
  | c :: rest =>
    if divides c then [] :: stretches divides rest
    else
      match stretches divides rest with
      | [] => [[c]]
      | first :: others => (c :: first) :: others

def lines (text : List Char) : List (List Char) := stretches (· = '\n') text

def withoutComment (line : List Char) : List Char := line.takeWhile (· ≠ ';')

def pad (c : Char) : List Char :=
  if c = '(' ∨ c = ')' then [' ', c, ' ']
  else if c = '?' then [' ', c]
  else [c]

/-- The stretches between blanks that are not empty. -/
def words (text : List Char) : List (List Char) :=
  (stretches isBlank text).filter (!·.isEmpty)

def tokenTexts (source : String) : List String :=
  ((lines source.toList).flatMap fun line =>
    words ((withoutComment line).flatMap pad)).map fun word => String.ofList (lower word)

end PlanText.Padded
