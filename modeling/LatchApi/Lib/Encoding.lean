import LatchApi.Lib.Sha256

namespace LatchApi.Lib

def textBytes (s : String) : Bytes := s.toUTF8.data.toList

def asciiText (bs : Bytes) : String := String.ofList (bs.map fun b => Char.ofNat b.toNat)

def isSpace (c : Char) : Bool :=
  c ∈ ['\t', '\n', '\x0b', '\x0c', '\r', ' ', '\u0085', '\u00a0', '\u1680', '\u2028', '\u2029',
    '\u202f', '\u205f', '\u3000'] || decide ('\u2000' ≤ c ∧ c ≤ '\u200a')

def trimSpace (s : String) : String :=
  String.ofList ((s.toList.dropWhile isSpace).reverse.dropWhile isSpace).reverse

def hexDigit (n : Nat) : Char :=
  if n < 10 then Char.ofNat (48 + n) else Char.ofNat (87 + n)

def hexValue (b : UInt8) : Option Nat :=
  let n := b.toNat
  if 48 ≤ n ∧ n ≤ 57 then some (n - 48)
  else if 97 ≤ n ∧ n ≤ 102 then some (n - 87)
  else if 65 ≤ n ∧ n ≤ 70 then some (n - 55)
  else none

def hexChars : Bytes → List Char
  | [] => []
  | b :: bs => hexDigit (b.toNat / 16) :: hexDigit (b.toNat % 16) :: hexChars bs

def hexBytes : Bytes → Option Bytes
  | [] => some []
  | [_] => none
  | a :: b :: digits => do
    let x ← hexValue a
    let y ← hexValue b
    let bs ← hexBytes digits
    return UInt8.ofNat (16 * x + y) :: bs

def hexEncode (bs : Bytes) : String := String.ofList (hexChars bs)

def hexDecode (s : String) : Option Bytes := hexBytes (textBytes s)

def quotedChar : Char → List Char
  | '"' => ['\\', '"']
  | '\\' => ['\\', '\\']
  | '\x07' => ['\\', 'a']
  | '\x08' => ['\\', 'b']
  | '\x0c' => ['\\', 'f']
  | '\n' => ['\\', 'n']
  | '\r' => ['\\', 'r']
  | '\t' => ['\\', 't']
  | '\x0b' => ['\\', 'v']
  | c =>
    if c.toNat < 32 ∨ c.toNat = 127 then '\\' :: 'x' :: hexChars [UInt8.ofNat c.toNat] else [c]

/-- `strconv.Quote`, with every character beyond ASCII taken for a printable one. -/
def quoted (s : String) : String := String.ofList ('"' :: (s.toList.flatMap quotedChar ++ ['"']))

def base64Digit (n : Nat) : Char :=
  if n < 26 then Char.ofNat (65 + n)
  else if n < 52 then Char.ofNat (71 + n)
  else if n < 62 then Char.ofNat (n - 4)
  else if n = 62 then '-' else '_'

def base64Chars : Bytes → List Char
  | [] => []
  | [a] =>
    let n := a.toNat * 16
    [base64Digit (n / 64), base64Digit (n % 64)]
  | [a, b] =>
    let n := (a.toNat * 256 + b.toNat) * 4
    [base64Digit (n / 4096), base64Digit (n / 64 % 64), base64Digit (n % 64)]
  | a :: b :: c :: bs =>
    let n := (a.toNat * 256 + b.toNat) * 256 + c.toNat
    base64Digit (n / 262144) :: base64Digit (n / 4096 % 64) :: base64Digit (n / 64 % 64) ::
      base64Digit (n % 64) :: base64Chars bs

def base64UrlEncode (bs : Bytes) : String := String.ofList (base64Chars bs)

example : hexDecode (hexEncode [0x04, 0xaf, 0xff]) = some [0x04, 0xaf, 0xff] := by decide

example : base64UrlEncode [0xfb, 0xff, 0xfe, 0x66] = "-__-Zg" := by decide

/-- A text column or request field that should hold the encoding of a value. -/
inductive Encoded (α : Type) where
  | of (a : α)
  | malformed (text : String)
deriving DecidableEq

def Encoded.decode {α : Type} : Encoded α → Option α
  | .of a => some a
  | .malformed _ => none

@[simp] theorem Encoded.decode_of {α : Type} (a : α) : (Encoded.of a).decode = some a := rfl

end LatchApi.Lib
