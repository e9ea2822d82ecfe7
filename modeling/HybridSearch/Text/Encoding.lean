/-! Text from bytes, in one of the Unicode encodings. Which one is seen from a mark at the start or,
without a mark, from where the zero bytes among the first four stand. Bytes come to numbers of
characters first. A half of a surrogate pair that stands alone has a number but is no character, so in
a text the replacement character takes its place; other faults leave no text. -/

namespace HybridSearch.Text

/-- The order of the bytes of a code unit. -/
inductive ByteOrder where
  | bigFirst
  | smallFirst
deriving Repr, DecidableEq

inductive Encoding where
  | utf8
  | utf16 (order : ByteOrder)
  | utf32 (order : ByteOrder)
deriving Repr, DecidableEq

/-- The encoding of some bytes, and the bytes without a mark. -/
def detect (bytes : List UInt8) : Encoding × List UInt8 :=
  match bytes with
  | 0x00 :: 0x00 :: 0xFE :: 0xFF :: rest => (.utf32 .bigFirst, rest)
  | 0xFF :: 0xFE :: 0x00 :: 0x00 :: rest => (.utf32 .smallFirst, rest)
  | 0xFE :: 0xFF :: rest => (.utf16 .bigFirst, rest)
  | 0xFF :: 0xFE :: rest => (.utf16 .smallFirst, rest)
  | 0xEF :: 0xBB :: 0xBF :: rest => (.utf8, rest)
  | [first, second] =>
      if first = 0 then (.utf16 .bigFirst, bytes)
      else if second = 0 then (.utf16 .smallFirst, bytes)
      else (.utf8, bytes)
  | first :: second :: third :: fourth :: _ =>
      if first = 0 then
        if second = 0 then (.utf32 .bigFirst, bytes) else (.utf16 .bigFirst, bytes)
      else if second = 0 then
        if third = 0 ∧ fourth = 0 then (.utf32 .smallFirst, bytes)
        else (.utf16 .smallFirst, bytes)
      else (.utf8, bytes)
  | _ => (.utf8, bytes)

/-- Whether a number is that of half of a surrogate pair, and of no character. -/
def isHalf (code : Nat) : Bool :=
  0xD800 ≤ code && code < 0xE000

/-- The character of a number. A half is none, so another character takes its place. -/
def characterOf (code : Nat) : Char :=
  if isHalf code then '\ufffd' else Char.ofNat code

/-- The low six bits of a byte that continues a character. -/
def continuation? (byte : UInt8) : Option Nat :=
  if 0x80 ≤ byte ∧ byte < 0xC0 then some (byte.toNat - 0x80) else none

/-- A number that takes more than one byte, unless fewer bytes would do or it is too large. -/
def longCode? (least code : Nat) : Option Nat :=
  if least ≤ code ∧ code < 0x110000 then some code else none

/-- The numbers in the encoding of one to four bytes a character. -/
def codesUtf8? : List UInt8 → Option (List Nat)
  | [] => some []
  | first :: rest =>
      if first < 0x80 then (codesUtf8? rest).map (first.toNat :: ·)
      else if first < 0xC0 then none
      else if first < 0xE0 then
        match rest with
        | second :: rest => do
            let code := (first.toNat - 0xC0) * 0x40 + (← continuation? second)
            let long ← longCode? 0x80 code
            (codesUtf8? rest).map (long :: ·)
        | _ => none
      else if first < 0xF0 then
        match rest with
        | second :: third :: rest => do
            let code := ((first.toNat - 0xE0) * 0x40 + (← continuation? second)) * 0x40 +
              (← continuation? third)
            let long ← longCode? 0x800 code
            (codesUtf8? rest).map (long :: ·)
        | _ => none
      else if first < 0xF8 then
        match rest with
        | second :: third :: fourth :: rest => do
            let code := (((first.toNat - 0xF0) * 0x40 + (← continuation? second)) * 0x40 +
              (← continuation? third)) * 0x40 + (← continuation? fourth)
            let long ← longCode? 0x10000 code
            (codesUtf8? rest).map (long :: ·)
        | _ => none
      else none

/-- The value of bytes in an order. -/
def unitValue (order : ByteOrder) (bytes : List UInt8) : Nat :=
  let ordered := match order with
    | .bigFirst => bytes
    | .smallFirst => bytes.reverse
  ordered.foldl (fun value byte => value * 0x100 + byte.toNat) 0

/-- The code units of two bytes each. -/
def units16? (order : ByteOrder) : List UInt8 → Option (List Nat)
  | [] => some []
  | [_] => none
  | first :: second :: rest => (units16? order rest).map (unitValue order [first, second] :: ·)

/-- The numbers in code units of two bytes, of which a pair of surrogates makes one. -/
def codesOfUnits : List Nat → List Nat
  | [] => []
  | [unit] => [unit]
  | high :: low :: rest =>
      if 0xD800 ≤ high ∧ high < 0xDC00 ∧ 0xDC00 ≤ low ∧ low < 0xE000 then
        (0x10000 + (high - 0xD800) * 0x400 + (low - 0xDC00)) :: codesOfUnits rest
      else high :: codesOfUnits (low :: rest)

def codesUtf32? (order : ByteOrder) : List UInt8 → Option (List Nat)
  | [] => some []
  | first :: second :: third :: fourth :: rest => do
      let code ← longCode? 0 (unitValue order [first, second, third, fourth])
      (codesUtf32? order rest).map (code :: ·)
  | _ => none

/-- The numbers of the characters that bytes hold, and of halves that stand alone. -/
def codes? (bytes : List UInt8) : Option (List Nat) :=
  match detect bytes with
  | (.utf8, bytes) => codesUtf8? bytes
  | (.utf16 order, bytes) => (units16? order bytes).map codesOfUnits
  | (.utf32 order, bytes) => codesUtf32? order bytes

def decode? (bytes : List UInt8) : Option (List Char) :=
  (codes? bytes).map fun codes => codes.map characterOf

/-! ## Lenient reading -/

/-- A character of which some bytes have been read: the value of these bytes, the number of bytes
that are missing, and the bounds of the next one. -/
structure Unfinished where
  value : Nat
  missing : Nat
  least : UInt8
  greatest : UInt8
deriving Repr, DecidableEq

/-- What a byte begins: a character that is whole, one of which more bytes must follow, or none. -/
def begin? (byte : UInt8) : Option (Char ⊕ Unfinished) :=
  if byte < 0x80 then some (.inl (Char.ofNat byte.toNat))
  else if byte < 0xC2 then none
  else if byte < 0xE0 then some (.inr ⟨byte.toNat - 0xC0, 1, 0x80, 0xBF⟩)
  else if byte < 0xF0 then
    some (.inr ⟨byte.toNat - 0xE0, 2, if byte = 0xE0 then 0xA0 else 0x80,
      if byte = 0xED then 0x9F else 0xBF⟩)
  else if byte < 0xF5 then
    some (.inr ⟨byte.toNat - 0xF0, 3, if byte = 0xF0 then 0x90 else 0x80,
      if byte = 0xF4 then 0x8F else 0xBF⟩)
  else none

/-- Reads bytes behind those of a character that is not yet whole. Bytes that make no character are
replaced: those that could have begun one together, any other byte on its own. -/
def decodeLenientFrom (pending? : Option Unfinished) : List UInt8 → List Char
  | [] => if pending?.isSome then ['\ufffd'] else []
  | byte :: rest =>
      match pending?.filter fun pending => pending.least ≤ byte && byte ≤ pending.greatest with
      | some pending =>
          let value := pending.value * 0x40 + (byte.toNat - 0x80)
          if pending.missing = 1 then Char.ofNat value :: decodeLenientFrom none rest
          else decodeLenientFrom (some ⟨value, pending.missing - 1, 0x80, 0xBF⟩) rest
      | none =>
          let broken : List Char := if pending?.isSome then ['\ufffd'] else []
          match begin? byte with
          | some (.inl character) => broken ++ character :: decodeLenientFrom none rest
          | some (.inr pending) => broken ++ decodeLenientFrom (some pending) rest
          | none => broken ++ '\ufffd' :: decodeLenientFrom none rest

/-- Text in the encoding of one to four bytes a character, in which faults are replaced. -/
def decodeLenient (bytes : List UInt8) : List Char :=
  decodeLenientFrom none bytes

end HybridSearch.Text
