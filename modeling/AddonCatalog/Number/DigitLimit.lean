import AddonCatalog.Failure
/-!
# The digit limit of whole numbers

A text of decimal digits is read as a whole number only up to a limit on its length:
a text with more than `maxDigits` digits is refused with a `ValueError` that names the
limit and the count. Every digit counts, leading zeros included; separators between
digits do not. The limit is checked only after the text was found well-formed.

* `Number.maxDigits` is the limit;
* `Number.tooManyDigits` is the error for a count above it.
-/

namespace AddonCatalog.Number

/-- The most decimal digits a whole number may be read from. -/
def maxDigits : Nat := 4300

/-- The message for a text of `count` digits, over the limit. -/
def tooManyDigitsMessage (count : Nat) : String :=
  "Exceeds the limit (" ++ toString maxDigits ++ " digits) for integer string conversion: value has " ++
    toString count ++ " digits; use sys.set_int_max_str_digits() to increase the limit"

/-- The error for a text of `count` digits, over the limit. -/
def tooManyDigits (count : Nat) : Failure := ⟨.invalidValue, tooManyDigitsMessage count⟩

/-- Checks a count of digits against the limit. -/
def checkDigits (count : Nat) : Except Failure Unit :=
  if count > maxDigits then .error (tooManyDigits count) else .ok ()

end AddonCatalog.Number
