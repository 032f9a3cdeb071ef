/-!
# UTF-8

`encode` writes a text as bytes and `decode` reads bytes back, strictly: overlong forms, surrogates
and code points past U+10FFFF are refused at the byte that rules them out.
-/

namespace AccountSync.Utf8

/-- What is wrong at the first byte that no text contains. -/
inductive Fault where
  | invalidStart
  | invalidContinuation
  | unexpectedEnd
  deriving DecidableEq, Repr

def Fault.message : Fault → String
  | .invalidStart => "invalid start byte"
  | .invalidContinuation => "invalid continuation byte"
  | .unexpectedEnd => "unexpected end of data"

/-! ### Writing -/

def encodeChar (c : Char) : List UInt8 :=
  let n := c.toNat
  if n < 0x80 then [.ofNat n]
  else if n < 0x800 then [.ofNat (0xC0 + n / 64), .ofNat (0x80 + n % 64)]
  else if n < 0x10000 then
    [.ofNat (0xE0 + n / 4096), .ofNat (0x80 + n / 64 % 64), .ofNat (0x80 + n % 64)]
  else
    [.ofNat (0xF0 + n / 262144), .ofNat (0x80 + n / 4096 % 64), .ofNat (0x80 + n / 64 % 64),
      .ofNat (0x80 + n % 64)]

def encode (text : String) : List UInt8 := text.toList.flatMap encodeChar

def size (text : String) : Nat := (encode text).length

/-! ### Reading -/

/-- How a character starts: it is complete, or `tails` more bytes follow, the first of them between
`low` and `high`. -/
inductive Lead where
  | ascii
  | invalid
  | two
  | three (low high : UInt8)
  | four (low high : UInt8)
  deriving DecidableEq, Repr

def lead (b : UInt8) : Lead :=
  if b < 0x80 then .ascii
  else if b < 0xC2 then .invalid
  else if b < 0xE0 then .two
  else if b = 0xE0 then .three 0xA0 0xBF
  else if b = 0xED then .three 0x80 0x9F
  else if b < 0xF0 then .three 0x80 0xBF
  else if b = 0xF0 then .four 0x90 0xBF
  else if b < 0xF4 then .four 0x80 0xBF
  else if b = 0xF4 then .four 0x80 0x8F
  else .invalid

def within (low high b : UInt8) : Bool := low ≤ b && b ≤ high

def isTail (b : UInt8) : Bool := within 0x80 0xBF b

def char2 (a b : UInt8) : Char := .ofNat (a.toNat % 32 * 64 + b.toNat % 64)

def char3 (a b c : UInt8) : Char :=
  .ofNat (a.toNat % 16 * 4096 + b.toNat % 64 * 64 + c.toNat % 64)

def char4 (a b c d : UInt8) : Char :=
  .ofNat (a.toNat % 8 * 262144 + b.toNat % 64 * 4096 + c.toNat % 64 * 64 + d.toNat % 64)

def decodeChars : List UInt8 → Except Fault (List Char)
  | [] => .ok []
  | a :: rest =>
    match lead a, rest with
    | .ascii, rest => (decodeChars rest).map (Char.ofNat a.toNat :: ·)
    | .invalid, _ => .error .invalidStart
    | .two, [] => .error .unexpectedEnd
    | .two, b :: rest =>
      if isTail b then (decodeChars rest).map (char2 a b :: ·) else .error .invalidContinuation
    | .three _ _, [] => .error .unexpectedEnd
    | .three low high, b :: rest =>
      if within low high b then
        match rest with
        | [] => .error .unexpectedEnd
        | c :: rest =>
          if isTail c then (decodeChars rest).map (char3 a b c :: ·)
          else .error .invalidContinuation
      else .error .invalidContinuation
    | .four _ _, [] => .error .unexpectedEnd
    | .four low high, b :: rest =>
      if within low high b then
        match rest with
        | [] => .error .unexpectedEnd
        | c :: rest =>
          if isTail c then
            match rest with
            | [] => .error .unexpectedEnd
            | d :: rest =>
              if isTail d then (decodeChars rest).map (char4 a b c d :: ·)
              else .error .invalidContinuation
          else .error .invalidContinuation
      else .error .invalidContinuation

def decode (bytes : List UInt8) : Except Fault String := (decodeChars bytes).map String.ofList

end AccountSync.Utf8
