import Candlestick.Text.Printable

/-!
# Quoted display

How a text is shown inside a message: between quotes, single ones unless only double ones avoid
an escape, with everything that cannot stand for itself written as an escape.
-/

namespace Candlestick.Text.Quoted

/-- The lower-case hexadecimal digits of a number, padded with zeros to a width. -/
def hex (width n : Nat) : List Char :=
  let digits := Nat.toDigits 16 n
  List.replicate (width - digits.length) '0' ++ digits

def quoteFor (cs : List Char) : Char :=
  if cs.contains '\'' && !cs.contains '"' then '"' else '\''

/-- One character of a text that is enclosed by the given quote. -/
def escape (quote c : Char) : List Char :=
  if c = quote ∨ c = '\\' then ['\\', c]
  else if c = '\n' then ['\\', 'n']
  else if c = '\r' then ['\\', 'r']
  else if c = '\t' then ['\\', 't']
  else if isPrintable c then [c]
  else if c.toNat < 0x100 then '\\' :: 'x' :: hex 2 c.toNat
  else if c.toNat < 0x10000 then '\\' :: 'u' :: hex 4 c.toNat
  else '\\' :: 'U' :: hex 8 c.toNat

end Quoted

def quoted (text : String) : String :=
  let cs := text.toList
  let quote := Quoted.quoteFor cs
  String.ofList (quote :: (cs.flatMap (Quoted.escape quote) ++ [quote]))

end Candlestick.Text
