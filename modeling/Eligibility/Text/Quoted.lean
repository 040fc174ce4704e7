import Eligibility.Text.Ranges
import Eligibility.Text.HiddenTable

/-!
Quoted text for diagnostics: what would not show is written by a backslash and
a letter, or by its number.
-/

set_option autoImplicit false

namespace Eligibility.Text

def hexText (n : Nat) : String := String.ofList (Nat.toDigits 16 n)

/-- A character between quotes. Quotes and backslashes are escaped, and hidden
characters are written by their number unless they have a letter of their own. -/
def quotedChar : Char → String
  | '"' => "\\\""
  | '\\' => "\\\\"
  | '\n' => "\\n"
  | '\r' => "\\r"
  | '\t' => "\\t"
  | '\x00' => "\\0"
  | c =>
    if inRanges hiddenRanges c then "\\u\x7b" ++ hexText c.toNat ++ "\x7d"
    else String.singleton c

def quoted (s : String) : String := "\"" ++ String.join (s.toList.map quotedChar) ++ "\""

end Eligibility.Text
