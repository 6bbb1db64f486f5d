/-!
The longest decimal numeral that is read as a number, and what is said of longer ones.
-/

namespace TitleSieve.Number

def digitLimit : Nat := 4300

def tooManyDigits (count : Nat) : String :=
  "Exceeds the limit (" ++ toString digitLimit ++
    " digits) for integer string conversion: value has " ++ toString count ++
    " digits; use sys.set_int_max_str_digits() to increase the limit"

end TitleSieve.Number
