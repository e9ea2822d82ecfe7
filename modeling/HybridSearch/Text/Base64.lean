/-! Bytes written with sixty-four characters. Three bytes make four of them; at the end of the text
equals signs fill up what is missing. -/

namespace HybridSearch.Text.Base64

/-- The character of six bits. -/
def digit (value : Nat) : Char :=
  if value < 26 then Char.ofNat ('A'.toNat + value)
  else if value < 52 then Char.ofNat ('a'.toNat + (value - 26))
  else if value < 62 then Char.ofNat ('0'.toNat + (value - 52))
  else if value = 62 then '+'
  else '/'

/-- The first characters of three bytes, given as one number. -/
def digits (count value : Nat) : List Char :=
  let all := [value / 0x40000, value / 0x1000 % 0x40, value / 0x40 % 0x40, value % 0x40]
  (all.take count).map digit

def encode : List UInt8 → List Char
  | [] => []
  | [first] => digits 2 (first.toNat * 0x10000) ++ ['=', '=']
  | [first, second] => digits 3 (first.toNat * 0x10000 + second.toNat * 0x100) ++ ['=']
  | first :: second :: third :: rest =>
      digits 4 (first.toNat * 0x10000 + second.toNat * 0x100 + third.toNat) ++ encode rest

end HybridSearch.Text.Base64
