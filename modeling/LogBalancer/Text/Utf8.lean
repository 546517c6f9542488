/-
# UTF-8

Encoding and strict decoding.  Decoding refuses the first ill-formed sequence and says where
it stands, how many octets it takes and what is wrong with it:

| reason | when | octets |
| --- | --- | --- |
| `startByte` | no sequence starts with this octet | 1 |
| `continuation` | the next octet cannot follow | those before it |
| `truncated` | the text ends inside a sequence | all that are left |

Overlong forms, surrogates and code points above U+10FFFF are refused at their second octet.
-/

namespace LogBalancer
namespace Text

/-- What is wrong with an ill-formed sequence. -/
inductive DecodeReason
  | startByte
  | continuation
  | truncated
  deriving DecidableEq, Repr

/-- The first ill-formed sequence of an octet string. -/
structure DecodeError where
  /-- Position of its first octet. -/
  position : Nat
  /-- Number of octets refused. -/
  size : Nat
  /-- Its first octet. -/
  byte : UInt8
  reason : DecodeReason
  deriving DecidableEq, Repr

/-- The octets of one character. -/
def encodeChar (c : Char) : List UInt8 :=
  let n := c.toNat
  if n < 0x80 then [UInt8.ofNat n]
  else if n < 0x800 then [UInt8.ofNat (0xC0 + n / 64), UInt8.ofNat (0x80 + n % 64)]
  else if n < 0x10000 then
    [UInt8.ofNat (0xE0 + n / 4096), UInt8.ofNat (0x80 + n / 64 % 64), UInt8.ofNat (0x80 + n % 64)]
  else
    [UInt8.ofNat (0xF0 + n / 262144), UInt8.ofNat (0x80 + n / 4096 % 64),
     UInt8.ofNat (0x80 + n / 64 % 64), UInt8.ofNat (0x80 + n % 64)]

/-- The octets of a text. -/
def encode (s : String) : List UInt8 := s.toList.flatMap encodeChar

/-- An octet of the form `10xxxxxx`. -/
def isContinuation (b : UInt8) : Bool := 0x80 ≤ b.toNat && b.toNat ≤ 0xBF

/-- The second octets that can follow a first octet of a sequence of three. -/
def followsThree (b0 b1 : UInt8) : Bool :=
  isContinuation b1 && (b0 != 0xE0 || 0xA0 ≤ b1.toNat) && (b0 != 0xED || b1.toNat < 0xA0)

/-- The second octets that can follow a first octet of a sequence of four. -/
def followsFour (b0 b1 : UInt8) : Bool :=
  isContinuation b1 && (b0 != 0xF0 || 0x90 ≤ b1.toNat) && (b0 != 0xF4 || b1.toNat < 0x90)

/-- The six payload bits of a continuation octet. -/
def payload (b : UInt8) : Nat := b.toNat - 0x80

/-- Decodes octets of which the first stands at `position`. -/
def decodeFrom (position : Nat) : List UInt8 → Except DecodeError (List Char)
  | [] => .ok []
  | b0 :: t0 =>
    let refuse (size : Nat) (reason : DecodeReason) : Except DecodeError (List Char) :=
      .error ⟨position, size, b0, reason⟩
    if b0 < 0x80 then
      (decodeFrom (position + 1) t0).map (Char.ofNat b0.toNat :: ·)
    else if b0 < 0xC2 || 0xF4 < b0 then refuse 1 .startByte
    else if b0 < 0xE0 then
      match t0 with
      | [] => refuse 1 .truncated
      | b1 :: t1 =>
        if isContinuation b1 then
          (decodeFrom (position + 2) t1).map
            (Char.ofNat ((b0.toNat - 0xC0) * 64 + payload b1) :: ·)
        else refuse 1 .continuation
    else if b0 < 0xF0 then
      match t0 with
      | [] => refuse 1 .truncated
      | b1 :: t1 =>
        if !followsThree b0 b1 then refuse 1 .continuation
        else match t1 with
          | [] => refuse 2 .truncated
          | b2 :: t2 =>
            if isContinuation b2 then
              (decodeFrom (position + 3) t2).map
                (Char.ofNat ((b0.toNat - 0xE0) * 4096 + payload b1 * 64 + payload b2) :: ·)
            else refuse 2 .continuation
    else
      match t0 with
      | [] => refuse 1 .truncated
      | b1 :: t1 =>
        if !followsFour b0 b1 then refuse 1 .continuation
        else match t1 with
          | [] => refuse 2 .truncated
          | b2 :: t2 =>
            if !isContinuation b2 then refuse 2 .continuation
            else match t2 with
              | [] => refuse 3 .truncated
              | b3 :: t3 =>
                if isContinuation b3 then
                  (decodeFrom (position + 4) t3).map
                    (Char.ofNat ((b0.toNat - 0xF0) * 262144 + payload b1 * 4096 +
                      payload b2 * 64 + payload b3) :: ·)
                else refuse 3 .continuation

/-- The text of a well-formed octet string. -/
def decode (octets : List UInt8) : Except DecodeError String :=
  (decodeFrom 0 octets).map String.ofList

/-- Line ends as a reader of text sees them: a carriage return, alone or before a line feed,
counts as one line feed. -/
def unifyLineEnds : List Char → List Char
  | [] => []
  | '\r' :: '\n' :: s => '\n' :: unifyLineEnds s
  | c :: s => (if c == '\r' then '\n' else c) :: unifyLineEnds s

end Text
end LogBalancer
