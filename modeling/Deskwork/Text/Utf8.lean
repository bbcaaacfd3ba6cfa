/-
# UTF-8

The bytes of a text, and the text of some bytes. Decoding refuses overlong forms, surrogates and
code points beyond the last plane, and says where and why it stopped.
-/

namespace Deskwork.Text

/-- The contents of a file. -/
abbrev Bytes := List UInt8

/-! ## Encoding -/

/-- A byte that continues a character, from six bits. -/
def tailByte (n : Nat) : UInt8 :=
  UInt8.ofNat (0x80 + n % 0x40)

/-- The bytes of a character. -/
def encodeChar (c : Char) : Bytes :=
  let n := c.toNat
  if n < 0x80 then [UInt8.ofNat n]
  else if n < 0x800 then [UInt8.ofNat (0xC0 + n / 0x40), tailByte n]
  else if n < 0x10000 then
    [UInt8.ofNat (0xE0 + n / 0x1000), tailByte (n / 0x40), tailByte n]
  else
    [UInt8.ofNat (0xF0 + n / 0x40000), tailByte (n / 0x1000), tailByte (n / 0x40), tailByte n]

/-- The bytes of a text. -/
def encode (s : String) : Bytes :=
  s.toList.flatMap encodeChar

/-! ## Faults of the encoding -/

/-- Why some bytes are not a text. -/
inductive Utf8Fault where
  /-- A byte that begins no character. -/
  | badStart (byte position : Nat)
  /-- A character begun at `position` with `byte` is broken off after `count` bytes. -/
  | badTail (byte position count : Nat)
  /-- The bytes end within the character begun at `position`. -/
  | cutOff (byte position count : Nat)
  deriving DecidableEq, Repr

/-- The bytes in question: one byte is shown, several are given by their places. -/
def Utf8Fault.place (byte position count : Nat) : String :=
  if count ≤ 1 then
    "byte 0x" ++ String.ofList (hexPair byte) ++ " in position " ++ toString position
  else
    "bytes in position " ++ toString position ++ "-" ++ toString (position + count - 1)
where
  /-- Two hexadecimal digits. -/
  hexPair (b : Nat) : List Char := [nibble (b / 16), nibble (b % 16)]
  /-- One hexadecimal digit. -/
  nibble (d : Nat) : Char := if d < 10 then Char.ofNat (0x30 + d) else Char.ofNat (0x57 + d)

/-- The wording of a fault of the encoding. -/
def Utf8Fault.message : Utf8Fault → String
  | .badStart b p => "'utf-8' codec can't decode " ++ place b p 1 ++ ": invalid start byte"
  | .badTail b p n => "'utf-8' codec can't decode " ++ place b p n ++ ": invalid continuation byte"
  | .cutOff b p n => "'utf-8' codec can't decode " ++ place b p n ++ ": unexpected end of data"

/-! ## Decoding -/

/-- A byte continues a character. -/
def isTail (b : UInt8) : Bool :=
  0x80 ≤ b.toNat && b.toNat ≤ 0xBF

/-- The second byte of a longer character is restricted after some first bytes: no overlong form,
no surrogate and nothing beyond the last plane. -/
def isSecond (first second : UInt8) : Bool :=
  isTail second
    && !(first.toNat == 0xE0 && second.toNat < 0xA0)
    && !(first.toNat == 0xED && 0xA0 ≤ second.toNat)
    && !(first.toNat == 0xF0 && second.toNat < 0x90)
    && !(first.toNat == 0xF4 && 0x90 ≤ second.toNat)

/-- The six bits of a continuing byte. -/
def tailBits (b : UInt8) : Nat :=
  b.toNat - 0x80

/-- The characters of some bytes, the first of which stands at `position`. -/
def decodeFrom (position : Nat) : Bytes → Except Utf8Fault (List Char)
  | [] => .ok []
  | a :: rest =>
    let x := a.toNat
    if x < 0x80 then
      (decodeFrom (position + 1) rest).map (Char.ofNat x :: ·)
    else if x < 0xC2 || 0xF4 < x then .error (.badStart x position)
    else
      match rest with
      | [] => .error (.cutOff x position 1)
      | b :: rest =>
        if !isSecond a b then .error (.badTail x position 1)
        else if x < 0xE0 then
          (decodeFrom (position + 2) rest).map
            (Char.ofNat ((x - 0xC0) * 0x40 + tailBits b) :: ·)
        else
          match rest with
          | [] => .error (.cutOff x position 2)
          | c :: rest =>
            if !isTail c then .error (.badTail x position 2)
            else if x < 0xF0 then
              (decodeFrom (position + 3) rest).map
                (Char.ofNat ((x - 0xE0) * 0x1000 + tailBits b * 0x40 + tailBits c) :: ·)
            else
              match rest with
              | [] => .error (.cutOff x position 3)
              | d :: rest =>
                if !isTail d then .error (.badTail x position 3)
                else
                  (decodeFrom (position + 4) rest).map
                    (Char.ofNat ((x - 0xF0) * 0x40000 + tailBits b * 0x1000 + tailBits c * 0x40
                      + tailBits d) :: ·)

/-- The text of some bytes. -/
def decode (bs : Bytes) : Except Utf8Fault String :=
  (decodeFrom 0 bs).map String.ofList

end Deskwork.Text
