/-!
Compliance rates: binary64 percentages of message counts, and their rounding to one decimal place.
-/

set_option autoImplicit false
set_option relaxedAutoImplicit false

namespace DmarcReports.Rate

/-- Which percentage `part` is of `whole`; of no messages at all it is 0. -/
def percentage (part whole : UInt64) : Float :=
  if whole = 0 then 0 else part.toFloat / whole.toFloat * 100

/-- The nearest whole number; of two equally near ones the even one. -/
def roundHalfEven (v : Float) : Float :=
  let low := v.floor
  let gap := v - low
  if gap < 0.5 then low
  else if gap > 0.5 then low + 1
  else if (low / 2).floor * 2 == low then low
  else low + 1

/-- Rounds to one decimal place, ties to the even digit. -/
def round1 (v : Float) : Float :=
  roundHalfEven (v * 10) / 10

end DmarcReports.Rate
