namespace Docking

/-! Texts that read as numbers with a fraction and an exponent. -/

def unsigned : List Char → List Char
  | '+' :: rest => rest
  | '-' :: rest => rest
  | text => text

def isDigits (text : List Char) : Bool := !text.isEmpty && text.all Char.isDigit

/-- Whether digits stand here, with at most one point among, before or behind them. -/
def isMantissa (text : List Char) : Bool :=
  match text.span fun char => char ≠ '.' with
  | (whole, _ :: fraction) => isDigits (whole ++ fraction)
  | (whole, []) => isDigits whole

/-- Whether a text reads as a number, infinity, or what is no number. -/
def isDecimal (text : List Char) : Bool :=
  let text := (unsigned text).map Char.toLower
  ["inf", "infinity", "nan"].contains (String.ofList text) ||
    match text.span fun char => char ≠ 'e' with
    | (mantissa, _ :: exponent) => isMantissa mantissa && isDigits (unsigned exponent)
    | (mantissa, []) => isMantissa mantissa

end Docking
