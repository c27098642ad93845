/-!
# Cutting text at a character

Texts are lists of characters here.  `cut` divides at the first occurrence of a character and
`pieces` at every one; neither keeps the character it cuts at.
-/

namespace PbrTelemetry.Text

/-- What stands before and after the first occurrence of `mark`, if there is one. -/
def cut (mark : Char) : List Char → Option (List Char × List Char)
  | [] => none
  | c :: rest =>
    if c = mark then some ([], rest)
    else (cut mark rest).map fun (before, after) => (c :: before, after)

/-- The text between the occurrences of `mark`: one piece more than there are occurrences. -/
def pieces (mark : Char) : List Char → List (List Char)
  | [] => [[]]
  | c :: rest =>
    if c = mark then [] :: pieces mark rest
    else
      match pieces mark rest with
      | [] => [[c]]
      | piece :: others => (c :: piece) :: others

/-- The text without `mark` at its start, if it starts with one. -/
def dropLeading (mark : Char) : List Char → List Char
  | [] => []
  | c :: rest => if c = mark then rest else c :: rest

/-- The text without `mark` at its end, if it ends with one. -/
def dropTrailing (mark : Char) (text : List Char) : List Char :=
  (dropLeading mark text.reverse).reverse

def occursIn (part : List Char) : List Char → Bool
  | [] => part.isEmpty
  | c :: rest => part.isPrefixOf (c :: rest) || occursIn part rest

end PbrTelemetry.Text
