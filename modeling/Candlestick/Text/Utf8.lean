/-!
# Text as bytes

Decoding of UTF-8. Malformed input is cut into pieces the way the standard recommends: a piece
is as many bytes as still begin some character, and at least one. `Utf8.decode?` refuses any
such piece; `Utf8.decodeReplacing` puts the replacement character in its place.

Half of a surrogate pair is no character, and no bytes encode it. Where an escape puts one into a
text all the same, an unassigned character of the plane `0xD` stands for it there.
-/

namespace Candlestick.Text.Utf8

/-- How many further bytes a character takes whose first byte is given; `none` if no character
starts with it. -/
def owed (lead : Nat) : Option Nat :=
  if lead < 0x80 then some 0
  else if lead < 0xC2 then none
  else if lead < 0xE0 then some 1
  else if lead < 0xF0 then some 2
  else if lead < 0xF5 then some 3
  else none

/-- Whether a byte may follow the first byte of a character. The narrower ranges keep out
overlong forms, surrogates and numbers above the last character. -/
def maySecond (lead b : Nat) : Bool :=
  let low := if lead = 0xE0 then 0xA0 else if lead = 0xF0 then 0x90 else 0x80
  let high := if lead = 0xED then 0x9F else if lead = 0xF4 then 0x8F else 0xBF
  low ≤ b && b ≤ high

/-- Whether a byte may stand in third or fourth place. -/
def isTail (b : UInt8) : Bool :=
  0x80 ≤ b && b ≤ 0xBF

/-- Joins the bits of the first byte with those of the bytes that follow it. -/
def assemble (lead : Nat) (tails : List UInt8) : Nat :=
  let first :=
    match tails.length with
    | 0 => lead
    | 1 => lead % 32
    | 2 => lead % 16
    | _ => lead % 8
  tails.foldl (fun n b ↦ n * 64 + b.toNat % 64) first

/-- The bytes after the first that still belong to the character it starts, at most `count`. -/
def tailsOf (lead : Nat) (count : Nat) : List UInt8 → List UInt8
  | [] => []
  | second :: rest =>
    if count = 0 ∨ ¬ maySecond lead second.toNat then []
    else second :: (rest.take (count - 1)).takeWhile isTail

/-- The first character, or `none` for a malformed piece, and how many bytes follow the first
byte in it. -/
def first (lead : UInt8) (rest : List UInt8) : Option Char × Nat :=
  match owed lead.toNat with
  | none => (none, 0)
  | some count =>
    let tails := tailsOf lead.toNat count rest
    if tails.length = count then (some (Char.ofNat (assemble lead.toNat tails)), count)
    else (none, tails.length)

/-- The characters of a byte string, with `none` for each malformed piece. -/
def pieces : List UInt8 → List (Option Char)
  | [] => []
  | lead :: rest =>
    let (piece, extra) := first lead rest
    piece :: pieces (rest.drop extra)
termination_by bytes => bytes.length
decreasing_by
  simp only [List.length_drop, List.length_cons]
  omega

def decode? (bytes : List UInt8) : Option String :=
  ((pieces bytes).mapM id).map String.ofList

/-- The text of any byte string, with the replacement character for each malformed piece. -/
def decodeReplacing (bytes : List UInt8) : String :=
  String.ofList ((pieces bytes).map (·.getD '\uFFFD'))

def encode (text : String) : List UInt8 :=
  text.toUTF8.toList

/-- What stands for the half of a surrogate pair with a number; each half has its own. -/
def loneSurrogate (n : Nat) : Char :=
  Char.ofNat (0xD8000 + (n - 0xD800))

/-- Whether a text can be given as bytes: it has no half of a surrogate pair. -/
def isEncodable (text : String) : Bool :=
  text.toList.all fun c ↦ !(0xD8000 ≤ c.toNat && c.toNat ≤ 0xD87FF)

end Candlestick.Text.Utf8
