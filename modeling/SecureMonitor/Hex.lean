/-
SecureMonitor/Hex.lean

Hexadecimal text as the monitor writes it: the marker `0x` and lower-case
digits, without padding (`Hex.text`) or with zeros between marker and
digits up to a total width (`Hex.padded`).  The marker counts in the width,
and a number that needs more digits is written in full.
-/
namespace SecureMonitor.Hex

/-- Lower-case hexadecimal digits, most significant first. -/
def digits (n : Nat) : List Char := Nat.toDigits 16 n

/-- The marker and the digits of `n`. -/
def text (n : Nat) : String := "0x" ++ String.ofList (digits n)

/-- The marker and the digits of `n`, at least `width` characters in all. -/
def padded (width n : Nat) : String :=
  "0x" ++ String.ofList (List.replicate (width - 2 - (digits n).length) '0' ++ digits n)

end SecureMonitor.Hex
