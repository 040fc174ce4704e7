/-!
Texts inside texts.
-/

set_option autoImplicit false

namespace Eligibility.Text

def occursIn (part : List Char) : List Char → Bool
  | [] => part.isEmpty
  | c :: rest => part.isPrefixOf (c :: rest) || occursIn part rest

def contains (s part : String) : Bool := occursIn part.toList s.toList

end Eligibility.Text
