import Eligibility.Text.Split

/-!
Version numbers: three numbers with points between them, and after them, if
anything, a hyphen or a plus sign and a text of any kind.
-/

set_option autoImplicit false

namespace Eligibility.Version

def upTo (c : Char) (cs : List Char) : List Char := cs.takeWhile (· ≠ c)

def isNumber (cs : List Char) : Bool :=
  cs ≠ [] && cs.all Char.isDigit && (cs.length = 1 || cs.head? ≠ some '0')

def isVersionChars (cs : List Char) : Bool :=
  let parts := Text.splitChars (· = '.') (upTo '-' (upTo '+' cs))
  parts.length = 3 && parts.all isNumber

def isVersion (s : String) : Bool := isVersionChars s.toList

end Eligibility.Version
