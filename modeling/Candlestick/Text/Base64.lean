/-!
# Bytes in base 64

Four characters of an alphabet of 64 stand for three bytes. Characters outside the alphabet are
passed over. Equals signs fill the last group up to four; what follows a filled group is not
read.
-/

namespace Candlestick.Text.Base64

def value? (c : Char) : Option Nat :=
  if 'A' ≤ c && c ≤ 'Z' then some (c.toNat - 65)
  else if 'a' ≤ c && c ≤ 'z' then some (c.toNat - 71)
  else if c.isDigit then some (c.toNat + 4)
  else if c == '+' then some 62
  else if c == '/' then some 63
  else none

/-- How far the reading of a group has come: how many of its characters have been read, the bits
that are left over from the last one, and how many equals signs have been read since. -/
structure Progress where
  count : Nat
  bits : Nat
  fillers : Nat

/-- Reads the bytes of a text, newest first. The text must end with a whole group. -/
def decodeFrom (p : Progress) (read : List UInt8) : List Char → Option (List UInt8)
  | [] => if p.count = 0 then some read else none
  | c :: rest =>
    if c = '=' then
      let fillers := if p.count < 2 then p.fillers else p.fillers + 1
      if 2 ≤ p.count ∧ 4 ≤ p.count + fillers then some read
      else decodeFrom { p with fillers } read rest
    else
      match value? c with
      | none => decodeFrom p read rest
      | some v =>
        if p.count = 0 then decodeFrom ⟨1, v, 0⟩ read rest
        else if p.count = 1 then
          decodeFrom ⟨2, v % 16, 0⟩ (UInt8.ofNat (p.bits * 4 + v / 16) :: read) rest
        else if p.count = 2 then
          decodeFrom ⟨3, v % 4, 0⟩ (UInt8.ofNat (p.bits * 16 + v / 4) :: read) rest
        else decodeFrom ⟨0, 0, 0⟩ (UInt8.ofNat (p.bits * 64 + v) :: read) rest

def decode? (text : String) : Option (List UInt8) :=
  (decodeFrom ⟨0, 0, 0⟩ [] text.toList).map List.reverse

end Candlestick.Text.Base64
