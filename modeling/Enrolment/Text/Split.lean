/-
Cutting text at a separator: into all its pieces, or at the last place where the
separator stands.
-/

namespace Enrolment.Text

/-- The runs between separators, in order. There is always at least one, and
joining them with the separator gives the text back. -/
def pieces (separator : Char) : List Char → List (List Char)
  | [] => [[]]
  | head :: tail =>
      if head = separator then [] :: pieces separator tail
      else
        match pieces separator tail with
        | [] => [[head]]
        | first :: others => (head :: first) :: others

/-- What stands before and after the last separator, if there is one. -/
def cutLast (separator : Char) : List Char → Option (List Char × List Char)
  | [] => none
  | head :: tail =>
      match cutLast separator tail with
      | some (before, after) => some (head :: before, after)
      | none => if head = separator then some ([], tail) else none

end Enrolment.Text
