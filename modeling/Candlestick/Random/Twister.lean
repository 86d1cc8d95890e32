/-!
# The Mersenne Twister

A generator of 32-bit words with a period of `2 ^ 19937 - 1`. Its state is a block of 624 words.
Words are given out in order, each one tempered on its way; when the block is used up, a new one
is made from it. A seed is a list of words of any length, all of which enter the first block.
-/

namespace Candlestick

/-- A block of words and the number of words already given out. -/
structure Twister where
  block : Vector UInt32 624
  used : Nat

namespace Twister

def spread (word : UInt32) : Vector UInt32 624 :=
  (List.finRange 624).foldl (fun (block : Vector UInt32 624) k ↦
    if k.val = 0 then block.set 0 word
    else
      let before : UInt32 := block[k.val - 1]
      block.set k.val ((1812433253 : UInt32) * (before ^^^ (before >>> 30)) + UInt32.ofNat k.val))
    (Vector.replicate 624 0)

/-- The position after a position in a block. The first position is passed over; it follows the
last word, which is copied to it. -/
def stepOn (block : Vector UInt32 624) (k : Fin 624) : Vector UInt32 624 × Fin 624 :=
  if h : k.val + 1 < 624 then (block, ⟨k.val + 1, h⟩)
  else (block.set 0 block[623], 1)

/-- The word before a position, stirred by a factor. -/
def stirred (block : Vector UInt32 624) (k : Fin 624) (factor : UInt32) : UInt32 :=
  let before : UInt32 := block[k.val - 1]
  block[k.val] ^^^ ((before ^^^ (before >>> 30)) * factor)

/-- Mixes the words of a seed into a block, each with its place in the seed. -/
def mixSeed (seed : List UInt32) (block : Vector UInt32 624) : Vector UInt32 624 × Fin 624 :=
  let length := seed.length
  (List.range (max 624 length)).foldl (fun (block, k) turn ↦
    let place := turn % length
    let word := stirred block k 1664525 + seed.getD place 0 + UInt32.ofNat place
    stepOn (block.set k.val word) k)
    (block, (1 : Fin 624))

def mixPlaces (block : Vector UInt32 624) (k : Fin 624) : Vector UInt32 624 × Fin 624 :=
  (List.range 623).foldl (fun (block, k) _ ↦
    let word := stirred block k 1566083941 - UInt32.ofNat k.val
    stepOn (block.set k.val word) k)
    (block, k)

/-- The generator of a seed that is given as words. -/
def ofWords (seed : List UInt32) : Twister :=
  let (sown, k) := mixSeed seed (spread 19650218)
  let (mixed, _) := mixPlaces sown k
  ⟨mixed.set 0 0x80000000, 624⟩

/-- The 32-bit words of a number, lowest first; `count` bounds how many there are. -/
def wordsUpTo : Nat → Nat → List UInt32
  | 0, _ => []
  | count + 1, n => if n = 0 then [] else UInt32.ofNat n :: wordsUpTo count (n / 0x100000000)

/-- The 32-bit words of a number, lowest first; zero has one word. -/
def wordsOf (n : Nat) : List UInt32 :=
  if n = 0 then [0] else wordsUpTo (n.log2 / 32 + 1) n

/-- The generator of a whole number. Only its absolute value counts. -/
def ofSeed (seed : Int) : Twister :=
  ofWords (wordsOf seed.natAbs)

/-- The word that replaces a word of a block: the high bit of the word itself and the low bits
of the one after it are joined, and the outcome is combined with a word further on. -/
def renewed (block : Vector UInt32 624) (k : Fin 624) : UInt32 :=
  let joined := (block[k.val] &&& 0x80000000) ||| (block[(k + 1).val] &&& 0x7fffffff)
  block[(k + 397).val] ^^^ (joined >>> 1) ^^^ (if joined &&& 1 = 0 then 0 else 0x9908b0df)

def renew (block : Vector UInt32 624) : Vector UInt32 624 :=
  (List.finRange 624).foldl (fun block k ↦ block.set k.val (renewed block k)) block

def temper (word : UInt32) : UInt32 :=
  let a := word ^^^ (word >>> 11)
  let b := a ^^^ ((a <<< 7) &&& 0x9d2c5680)
  let c := b ^^^ ((b <<< 15) &&& 0xefc60000)
  c ^^^ (c >>> 18)

def next (g : Twister) : UInt32 × Twister :=
  if h : g.used < 624 then (temper g.block[g.used], ⟨g.block, g.used + 1⟩)
  else
    let block := renew g.block
    (temper block[0], ⟨block, 1⟩)

def next53 (g : Twister) : Nat × Twister :=
  let (high, g) := g.next
  let (low, g) := g.next
  ((high >>> 5).toNat * 0x4000000 + (low >>> 6).toNat, g)

end Twister

end Candlestick
