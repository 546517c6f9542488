/-
# Base64, leniently

Decoding that skips every character outside the alphabet.  Four digits of six bits make three
octets; a padding character counts only after two digits of a group, and once a group is full
with padding, whatever follows is ignored.  A group left open at the end is refused.
-/

namespace LogBalancer
namespace Text

/-- The value of a digit of the standard alphabet. -/
def base64Digit? (c : Char) : Option Nat :=
  if 'A' ≤ c && c ≤ 'Z' then some (c.toNat - 65)
  else if 'a' ≤ c && c ≤ 'z' then some (c.toNat - 71)
  else if '0' ≤ c && c ≤ '9' then some (c.toNat + 4)
  else if c == '+' then some 62
  else if c == '/' then some 63
  else none

/-- An open group of digits: how many there are, the bits not yet written, and how many padding
characters have come since the last digit. -/
structure Base64Group where
  digits : Nat
  bits : Nat
  pads : Nat

/-- Decodes with a group open; `none` when the group is still open at the end. -/
def base64DecodeFrom (g : Base64Group) : List Char → Option (List UInt8)
  | [] => if g.digits = 0 then some [] else none
  | c :: s =>
    if c == '=' then
      if 2 ≤ g.digits then
        if 4 ≤ g.digits + (g.pads + 1) then some []
        else base64DecodeFrom { g with pads := g.pads + 1 } s
      else base64DecodeFrom g s
    else match base64Digit? c with
      | none => base64DecodeFrom g s
      | some d =>
        match g.digits with
        | 0 => base64DecodeFrom ⟨1, d, 0⟩ s
        | 1 => (base64DecodeFrom ⟨2, d % 16, 0⟩ s).map (UInt8.ofNat (g.bits * 4 + d / 16) :: ·)
        | 2 => (base64DecodeFrom ⟨3, d % 4, 0⟩ s).map (UInt8.ofNat (g.bits * 16 + d / 4) :: ·)
        | _ => (base64DecodeFrom ⟨0, 0, 0⟩ s).map (UInt8.ofNat (g.bits * 64 + d) :: ·)

/-- The octets that a text stands for. -/
def base64Decode (s : List Char) : Option (List UInt8) := base64DecodeFrom ⟨0, 0, 0⟩ s

end Text
end LogBalancer
