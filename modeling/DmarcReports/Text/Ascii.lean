/-!
Text compared without regard to the case of the letters `A` to `Z`, as file name suffixes and media
types are. No other character changes: a full-width or dotted letter stays what it is.
-/

set_option autoImplicit false
set_option relaxedAutoImplicit false

namespace DmarcReports.Text

/-- The characters with `A` to `Z` in lower case. -/
def asciiLower (cs : List Char) : List Char :=
  cs.map Char.toLower

def endsIn (suffix : String) (cs : List Char) : Bool :=
  suffix.toList.isSuffixOf cs

/-- Equality up to the case of ASCII letters. -/
def eqIgnoreCase (a b : String) : Bool :=
  asciiLower a.toList == asciiLower b.toList

theorem forall_ascii {p : Char → Prop} (h : ∀ n < 0x80, p (Char.ofNat n)) {c : Char}
    (hc : c.toNat < 0x80) : p c := by
  have hchar := h c.toNat hc
  rwa [Char.ofNat_toNat] at hchar

end DmarcReports.Text
