/-!
The pieces of a text between its separators. There is one piece more than there are separators, and
joining texts with a separator joins their pieces.
-/

set_option autoImplicit false
set_option relaxedAutoImplicit false

namespace DmarcReports.Text

/-- The pieces of a text between the characters `mark`. -/
def pieces (mark : Char) : List Char → List (List Char)
  | [] => [[]]
  | c :: cs =>
    if c = mark then [] :: pieces mark cs
    else match pieces mark cs with
      | [] => [[c]]
      | p :: ps => (c :: p) :: ps

theorem length_pieces (mark : Char) (cs : List Char) :
    (pieces mark cs).length = cs.count mark + 1 := by
  induction cs with
  | nil => rfl
  | cons c cs ih =>
    by_cases h : c = mark
    · simp [pieces, h, ih]
    · cases hp : pieces mark cs with
      | nil => simp [hp] at ih
      | cons p ps => simpa [pieces, h, hp] using ih

theorem pieces_append_mark (mark : Char) (a b : List Char) :
    pieces mark (a ++ mark :: b) = pieces mark a ++ pieces mark b := by
  induction a with
  | nil => simp [pieces]
  | cons c cs ih =>
    by_cases h : c = mark
    · simp [pieces, h, ih]
    · cases hp : pieces mark cs with
      | nil => simpa [hp] using length_pieces mark cs
      | cons p ps => simp [pieces, h, ih, hp]

end DmarcReports.Text
