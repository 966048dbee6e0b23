/-!
White space of the Unicode standard and the trimming of text.

Trimming drops the longest blank ends and keeps what lies between, so a trimmed text is its own
trim. The zero-width space U+200B and the byte-order mark U+FEFF are not blank.
-/

set_option autoImplicit false
set_option relaxedAutoImplicit false

namespace DmarcReports.Text

def inRanges (ranges : List (Nat × Nat)) (n : Nat) : Bool :=
  ranges.any fun r => r.1 ≤ n && n ≤ r.2

/-- Ranges of the Unicode property `White_Space`. -/
def blankRanges : List (Nat × Nat) := [
  (0x9, 0xD), (0x20, 0x20), (0x85, 0x85), (0xA0, 0xA0), (0x1680, 0x1680), (0x2000, 0x200A),
  (0x2028, 0x2029), (0x202F, 0x202F), (0x205F, 0x205F), (0x3000, 0x3000)]

def isBlank (c : Char) : Bool :=
  inRanges blankRanges c.toNat

def trimChars (cs : List Char) : List Char :=
  ((cs.dropWhile isBlank).reverse.dropWhile isBlank).reverse

def trim (s : String) : String :=
  String.ofList (trimChars s.toList)

/-- What is left of a list after dropping its leading blanks either is empty or starts unblank. -/
theorem head?_dropWhile_isBlank (cs : List Char) (c : Char)
    (h : (cs.dropWhile isBlank).head? = some c) : isBlank c = false := by
  induction cs with
  | nil => simp at h
  | cons d ds ih =>
    simp only [List.dropWhile_cons] at h
    split at h
    · exact ih h
    · rename_i hd
      simp only [List.head?_cons, Option.some.injEq] at h
      subst h
      simpa using hd

end DmarcReports.Text
