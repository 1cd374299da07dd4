/-
Blank characters, and text freed of the blanks around it. A character is blank
when it has the property White_Space, which twenty-five code points have.
-/

namespace Enrolment.Text

def isBlank (character : Char) : Bool :=
  let point := character.toNat
  (9 ≤ point && point ≤ 13) || point == 0x20 || point == 0x85 || point == 0xA0 ||
    point == 0x1680 || (0x2000 ≤ point && point ≤ 0x200A) || point == 0x2028 ||
    point == 0x2029 || point == 0x202F || point == 0x205F || point == 0x3000

def dropBlanks (characters : List Char) : List Char :=
  characters.dropWhile isBlank

/-- The characters between the leading and the trailing blanks. -/
def strip (characters : List Char) : List Char :=
  (dropBlanks (dropBlanks characters).reverse).reverse

end Enrolment.Text
