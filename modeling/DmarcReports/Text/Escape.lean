import DmarcReports.Text.CodePoint

/-!
Text in double quotes with escapes: a backslash and a letter, or a backslash and the number of a
character.
-/

set_option autoImplicit false
set_option relaxedAutoImplicit false

namespace DmarcReports.Text.Escape

def isPlain (c : Char) : Bool :=
  c = '\t' || (0x20 ≤ c.toNat && c.toNat ≠ 0x7F)

/-- What the character behind a backslash starts: the number of a character, or the character that
the escape stands for. -/
def start? : Char → Option (CodePoint ⊕ Char)
  | 'b' => some (.inr '\x08')
  | 't' => some (.inr '\t')
  | 'n' => some (.inr '\n')
  | 'f' => some (.inr '\x0c')
  | 'r' => some (.inr '\r')
  | '"' => some (.inr '"')
  | '\\' => some (.inr '\\')
  | 'u' => some (.inl { left := 4 })
  | 'U' => some (.inl { left := 8 })
  | _ => none

inductive Mode where
  | plain
  | escape
  | number (n : CodePoint)
deriving DecidableEq, Repr

/-- The text up to its closing quote, and what follows; `out` came before, with its last character
in front. -/
def scan : Mode → List Char → List Char → Option (List Char × List Char)
  | _, _, [] => none
  | .plain, out, c :: cs =>
    if c = '"' then some (out.reverse, cs)
    else if c = '\\' then scan .escape out cs
    else if isPlain c then scan .plain (c :: out) cs
    else none
  | .escape, out, c :: cs =>
    match start? c with
    | some (.inl n) => scan (.number n) out cs
    | some (.inr d) => scan .plain (d :: out) cs
    | none => none
  | .number n, out, c :: cs =>
    match n.step c with
    | some (.inl n') => scan (.number n') out cs
    | some (.inr d) => scan .plain (d :: out) cs
    | none => none

def read? (cs : List Char) : Option (List Char × List Char) :=
  scan .plain [] cs

end DmarcReports.Text.Escape
