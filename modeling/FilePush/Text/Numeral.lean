/-!
# Numerals

Numbers as they are written and read: hexadecimal digits for checksums and code points, and the
unsigned decimal numerals a user types.
-/

namespace FilePush

namespace Numeral

/-- A hexadecimal numeral in lower-case digits, padded with zeros on the left to `width` digits. -/
def hex (width value : Nat) : String :=
  let digits := Nat.toDigits 16 value
  String.ofList (List.replicate (width - digits.length) '0' ++ digits)

/-- A byte as two upper-case hexadecimal digits. -/
def upperByte (byte : UInt8) : String := (hex 2 byte.toNat).toUpper

/-- The value of a list of decimal digits, most significant first; `none` if one is no digit. -/
def ofDigits? (digits : List Char) : Option Nat :=
  digits.foldl
    (fun value? digit =>
      if digit.isDigit then value?.map fun value => value * 10 + (digit.toNat - '0'.toNat)
      else none)
    (some 0)

/--
Read an unsigned decimal numeral: an optional plus sign, then one or more ASCII digits, whose value
is at most `limit`.
-/
def parse? (limit : Nat) (text : String) : Option Nat :=
  let digits := match text.toList with
    | '+' :: rest => rest
    | chars => chars
  if digits.isEmpty then none
  else (ofDigits? digits).filter (· ≤ limit)

end Numeral

end FilePush
