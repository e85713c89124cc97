/-
Texts as bytes: UTF-8, and lines that may end in a carriage return, a newline or both.

Decoding is strict. A fault is located: the byte at which the bad piece begins, and how many
bytes still belonged together.
-/
import Famix.Text.Quoted

set_option autoImplicit false

namespace Famix.Utf8

/-- A run of bytes. -/
abbrev Bytes := List UInt8

/-- What is wrong with a piece of bytes. -/
inductive Reason where
  /-- No character begins with this byte. -/
  | badStart
  /-- A byte that cannot go on with the character begun. -/
  | badContinuation
  /-- The bytes end in the middle of a character. -/
  | cutShort
deriving DecidableEq, Repr

/-- A place where bytes are no UTF-8. -/
structure DecodeError where
  /-- The first byte of the bad piece. -/
  first : UInt8
  position : Nat
  length : Nat
  reason : Reason
deriving DecidableEq, Repr

/-- A reason in words. -/
def Reason.message : Reason → Text
  | badStart => "invalid start byte".toList
  | badContinuation => "invalid continuation byte".toList
  | cutShort => "unexpected end of data".toList

/-- A decoding error in words. -/
def DecodeError.message (error : DecodeError) : Text :=
  "'utf-8' codec can't decode ".toList ++
    (if error.length = 1 then
      "byte 0x".toList ++ Text.hexDigits 2 error.first.toNat ++ " in position ".toList ++
        Text.ofNat error.position
    else
      "bytes in position ".toList ++ Text.ofNat error.position ++ ['-'] ++
        Text.ofNat (error.position + error.length - 1)) ++
    ": ".toList ++ error.reason.message

/-! ## Writing -/

/-- The bytes of a character. -/
def encodeChar (c : Char) : Bytes :=
  let n := c.toNat
  if n < 0x80 then [UInt8.ofNat n]
  else if n < 0x800 then [UInt8.ofNat (0xc0 + n / 64), UInt8.ofNat (0x80 + n % 64)]
  else if n < 0x10000 then
    [UInt8.ofNat (0xe0 + n / 4096), UInt8.ofNat (0x80 + n / 64 % 64), UInt8.ofNat (0x80 + n % 64)]
  else
    [UInt8.ofNat (0xf0 + n / 262144), UInt8.ofNat (0x80 + n / 4096 % 64),
      UInt8.ofNat (0x80 + n / 64 % 64), UInt8.ofNat (0x80 + n % 64)]

/-- The bytes of a text. -/
def encode (text : Text) : Bytes := text.flatMap encodeChar

/-! ## Reading -/

/-- Whether a byte can stand second in a character that begins with `lead`. Tighter
ranges keep out overlong forms, surrogates and numbers that are no code points. -/
def maySecond (lead second : UInt8) : Bool :=
  -- these two lead bytes could begin a longer form of a smaller number
  let low := if lead = 0xe0 then 0xa0 else if lead = 0xf0 then 0x90 else 0x80
  -- and these two a surrogate, or a number that is no code point
  let high := if lead = 0xed then 0x9f else if lead = 0xf4 then 0x8f else 0xbf
  low ≤ second && second ≤ high

/-- Whether a byte can stand third or fourth in a character. -/
def mayFollow (byte : UInt8) : Bool := 0x80 ≤ byte && byte ≤ 0xbf

/-- The character of a lead byte, of which `bits` carries the value, and the bytes that
follow it, six bits in each. -/
def assemble (bits : Nat) (rest : List UInt8) : Char :=
  Char.ofNat (rest.foldl (fun value byte => value * 64 + (byte.toNat - 0x80)) bits)

/-- Decodes from a position on. `read` holds the characters so far, the latest first. -/
def decodeFrom (position : Nat) (read : Text) : Bytes → Except DecodeError Text
  | [] => .ok read.reverse
  | lead :: rest =>
    if lead < 0x80 then
      decodeFrom (position + 1) (assemble lead.toNat [] :: read) rest
    -- a byte that only goes on, one of an overlong form, or one beyond the code points
    else if lead < 0xc2 || 0xf4 < lead then
      .error ⟨lead, position, 1, .badStart⟩
    else
      match rest with
      | [] => .error ⟨lead, position, 1, .cutShort⟩
      | second :: rest =>
        if !maySecond lead second then .error ⟨lead, position, 1, .badContinuation⟩
        else if lead < 0xe0 then
          decodeFrom (position + 2) (assemble (lead.toNat - 0xc0) [second] :: read) rest
        else
          match rest with
          | [] => .error ⟨lead, position, 2, .cutShort⟩
          | third :: rest =>
            if !mayFollow third then .error ⟨lead, position, 2, .badContinuation⟩
            else if lead < 0xf0 then
              decodeFrom (position + 3) (assemble (lead.toNat - 0xe0) [second, third] :: read) rest
            else
              match rest with
              | [] => .error ⟨lead, position, 3, .cutShort⟩
              | fourth :: rest =>
                if !mayFollow fourth then .error ⟨lead, position, 3, .badContinuation⟩
                else
                  decodeFrom (position + 4)
                    (assemble (lead.toNat - 0xf0) [second, third, fourth] :: read) rest

/-- The text of a run of bytes. -/
def decode (bytes : Bytes) : Except DecodeError Text := decodeFrom 0 [] bytes

/-! ## Line ends -/

/-- A text with every line end made a newline. `read` holds the characters so far, the
latest first. -/
def unifyFrom (read : Text) : Text → Text
  | [] => read.reverse
  -- the two end one line
  | '\r' :: '\n' :: rest => unifyFrom ('\n' :: read) rest
  | '\r' :: rest => unifyFrom ('\n' :: read) rest
  | c :: rest => unifyFrom (c :: read) rest

/-- A text with every line end made a newline. -/
def unifyLineEnds (text : Text) : Text := unifyFrom [] text

end Famix.Utf8
