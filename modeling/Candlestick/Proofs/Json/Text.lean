import Candlestick.Json.Reader
import Candlestick.Json.Writer
import Mathlib.Data.List.Basic

/-!
# Reading back a string

Every character is written in such a way that the reader finds it again and stands behind it then
(`stringBody_escape`): by itself, by a mark behind a backslash, or by its code, which is split into
two halves if it does not fit into four digits.
-/

namespace Candlestick.Json

namespace Reader

theorem advance_append (xs ys : List Char) (i : Nat) :
    (⟨xs ++ ys, i⟩ : Cursor).advance xs.length = ⟨ys, i + xs.length⟩ := by
  rw [Cursor.advance, List.drop_left]

end Reader

namespace Writer

open Reader

/-- The four digits of a code. -/
def hexDigits (n : Nat) : List Char :=
  [(n / 4096).digitChar, (n / 256 % 16).digitChar, (n / 16 % 16).digitChar, (n % 16).digitChar]

theorem codeEscape_eq {n : Nat} (hn : n < 0x10000) : codeEscape n = '\\' :: 'u' :: hexDigits n := by
  have hdigits : ∀ m, 16 ≤ m →
      Nat.toDigits 16 m = Nat.toDigits 16 (m / 16) ++ [(m % 16).digitChar] := fun m hm ↦
    Nat.toDigits_of_base_le (by decide) hm
  have hdigit : ∀ m, m < 16 → Nat.toDigits 16 m = [m.digitChar] := fun m hm ↦
    Nat.toDigits_of_lt_base hm
  have hdiv : n / 16 / 16 = n / 256 ∧ n / 256 / 16 = n / 4096 := by
    omega
  -- The code has one to four digits, and what is missing is filled up with zeros.
  by_cases h1 : n < 16
  · have hzero : n / 4096 = 0 ∧ n / 256 % 16 = 0 ∧ n / 16 % 16 = 0 ∧ n % 16 = n := by omega
    simp [codeEscape, hexDigits, hdigit n h1, hzero]
  by_cases h2 : n < 256
  · have hzero : n / 4096 = 0 ∧ n / 256 % 16 = 0 ∧ n / 16 % 16 = n / 16 := by omega
    simp [codeEscape, hexDigits, hdigits n (by omega), hdigit (n / 16) (by omega), hzero]
  by_cases h3 : n < 4096
  · have hzero : n / 4096 = 0 ∧ n / 256 % 16 = n / 256 := by omega
    simp [codeEscape, hexDigits, hdigits n (by omega), hdigits (n / 16) (by omega), hdiv,
      hdigit (n / 256) (by omega), hzero]
  · simp [codeEscape, hexDigits, hdigits n (by omega), hdigits (n / 16) (by omega), hdiv,
      hdigits (n / 256) (by omega), hdigit (n / 4096) (by omega)]

theorem hexDigit?_digitChar : ∀ d < 16, Text.hexDigit? d.digitChar = some d := by
  decide

theorem fourHex?_hexDigits {n : Nat} (hn : n < 0x10000) (rest : List Char) :
    fourHex? (hexDigits n ++ rest) = some n := by
  simp only [hexDigits, List.cons_append, List.nil_append, fourHex?,
    hexDigit?_digitChar (n / 4096) (by omega), hexDigit?_digitChar (n / 256 % 16) (by omega),
    hexDigit?_digitChar (n / 16 % 16) (by omega), hexDigit?_digitChar (n % 16) (by omega),
    Option.bind_eq_bind, Option.bind_some, Option.pure_def]
  congr 1
  omega

theorem advance_hexDigits (n : Nat) (rest : List Char) (i : Nat) :
    (⟨hexDigits n ++ rest, i⟩ : Cursor).advance 4 = ⟨rest, i + 4⟩ :=
  advance_append (hexDigits n) rest i

/-- The code of a character that is no half of a pair is read as the character. -/
theorem unicodeEscape_hexDigits {n : Nat} (hn : n < 0x10000) (hhigh : isHighSurrogate n = false)
    {rest : List Char} (hrest : rest ≠ []) (i : Nat) :
    unicodeEscape ⟨hexDigits n ++ rest, i⟩ = .ok (charOfCode n, ⟨rest, i + 4⟩) := by
  have hmore : ((hexDigits n ++ rest).drop 4).isEmpty = false := by
    simpa [hexDigits] using hrest
  simp only [unicodeEscape, hmore, fourHex?_hexDigits hn, advance_hexDigits, hhigh,
    Bool.false_eq_true, if_false, Bool.false_and]
  split <;> rfl

/-- Two halves of a pair are read as the character that they stand for. -/
theorem unicodeEscape_pair {high low : Nat} (hhigh : isHighSurrogate high = true)
    (hlow : isLowSurrogate low = true) {rest : List Char} (hrest : rest ≠ []) (i : Nat) :
    unicodeEscape ⟨hexDigits high ++ '\\' :: 'u' :: (hexDigits low ++ rest), i⟩ =
      .ok (Char.ofNat (0x10000 + (high - 0xD800) * 0x400 + (low - 0xDC00)), ⟨rest, i + 10⟩) := by
  have hhighLt : high < 0x10000 := by
    simp only [isHighSurrogate, Bool.and_eq_true, decide_eq_true_eq] at hhigh
    omega
  have hlowLt : low < 0x10000 := by
    simp only [isLowSurrogate, Bool.and_eq_true, decide_eq_true_eq] at hlow
    omega
  have hmore : ((hexDigits low ++ rest).drop 4).isEmpty = false := by
    simpa [hexDigits] using hrest
  have hfirst : ((hexDigits high ++ '\\' :: 'u' :: (hexDigits low ++ rest)).drop 4).isEmpty =
      false := by
    simp [hexDigits]
  have hafter : (⟨'\\' :: 'u' :: (hexDigits low ++ rest), i + 4⟩ : Cursor).advance 6 =
      ⟨rest, i + 10⟩ :=
    advance_append ('\\' :: 'u' :: hexDigits low) rest (i + 4)
  simp only [unicodeEscape, hfirst, fourHex?_hexDigits hhighLt, advance_hexDigits, hhigh, hmore,
    fourHex?_hexDigits hlowLt, hlow, hafter, Bool.false_eq_true, if_false, Bool.not_false,
    Bool.and_self, if_true]

end Writer

namespace Reader

open Writer

/-- How a character is written. -/
theorem escape_cases (c : Char) :
    (∃ mark, escape c = ['\\', mark] ∧ mark ≠ 'u' ∧ shortEscape? mark = some c) ∨
    (escape c = [c] ∧ c ≠ '"' ∧ c ≠ '\\' ∧ 0x20 ≤ c.toNat) ∨
    (escape c = codeEscape c.toNat ∧ c.toNat < 0x10000) ∨
    (escape c = codeEscape (0xD800 + (c.toNat - 0x10000) / 0x400) ++
      codeEscape (0xDC00 + (c.toNat - 0x10000) % 0x400) ∧ 0x10000 ≤ c.toNat) := by
  by_cases hquote : c = '"'
  · subst hquote
    exact Or.inl ⟨'"', rfl, by decide, rfl⟩
  by_cases hslash : c = '\\'
  · subst hslash
    exact Or.inl ⟨'\\', rfl, by decide, rfl⟩
  by_cases hfeed : c = '\n'
  · subst hfeed
    exact Or.inl ⟨'n', rfl, by decide, rfl⟩
  by_cases hreturn : c = '\r'
  · subst hreturn
    exact Or.inl ⟨'r', rfl, by decide, rfl⟩
  by_cases htab : c = '\t'
  · subst htab
    exact Or.inl ⟨'t', rfl, by decide, rfl⟩
  by_cases hback : c = '\x08'
  · subst hback
    exact Or.inl ⟨'b', rfl, by decide, rfl⟩
  by_cases hform : c = '\x0c'
  · subst hform
    exact Or.inl ⟨'f', rfl, by decide, rfl⟩
  right
  simp only [escape, hquote, hslash, hfeed, hreturn, htab, hback, hform, if_false]
  by_cases hplain : 0x20 ≤ c.toNat ∧ c.toNat ≤ 0x7E
  · rw [if_pos hplain]
    exact Or.inl ⟨rfl, hquote, hslash, hplain.1⟩
  rw [if_neg hplain]
  by_cases hsmall : c.toNat < 0x10000
  · rw [if_pos hsmall]
    exact Or.inr (Or.inl ⟨rfl, hsmall⟩)
  · rw [if_neg hsmall]
    exact Or.inr (Or.inr ⟨rfl, Nat.not_lt.mp hsmall⟩)

theorem escape_ne_nil (c : Char) : escape c ≠ [] := by
  rcases escape_cases c with ⟨_, hc, _⟩ | ⟨hc, _⟩ | ⟨hc, _⟩ | ⟨hc, _⟩
  · rw [hc]
    exact List.cons_ne_nil _ _
  · rw [hc]
    exact List.cons_ne_nil _ _
  · rw [hc]
    exact List.cons_ne_nil _ _
  · rw [hc]
    exact List.append_ne_nil_of_left_ne_nil (List.cons_ne_nil _ _) _

theorem not_surrogate (c : Char) :
    isHighSurrogate c.toNat = false ∧ isLowSurrogate c.toNat = false := by
  have hvalid : c.toNat < 0xD800 ∨ (0xDFFF < c.toNat ∧ c.toNat < 0x110000) := c.valid
  simp only [isHighSurrogate, isLowSurrogate, Bool.and_eq_false_iff, decide_eq_false_iff_not]
  omega

section Body

variable (start fuel : Nat) (rest : List Char) (i : Nat) (read : List Char)

theorem stringBody_quote : stringBody start (fuel + 1) ⟨'"' :: rest, i⟩ read =
    .ok (String.ofList read.reverse, ⟨rest, i + 1⟩) :=
  rfl

theorem stringBody_mark {mark c : Char} (hu : mark ≠ 'u') (hread : shortEscape? mark = some c) :
    stringBody start (fuel + 1) ⟨'\\' :: mark :: rest, i⟩ read =
      stringBody start fuel ⟨rest, i + 2⟩ (c :: read) := by
  rw [stringBody]
  simp only [hread]
  rfl

theorem stringBody_code : stringBody start (fuel + 1) ⟨'\\' :: 'u' :: rest, i⟩ read =
    unicodeEscape ⟨rest, i + 2⟩ >>= fun (c, after) ↦ stringBody start fuel after (c :: read) :=
  rfl

theorem stringBody_plain {c : Char} (hquote : c ≠ '"') (hslash : c ≠ '\\')
    (hprintable : 0x20 ≤ c.toNat) : stringBody start (fuel + 1) ⟨c :: rest, i⟩ read =
      stringBody start fuel ⟨rest, i + 1⟩ (c :: read) := by
  rw [stringBody]
  split
  · next heq => cases heq
  · next heq => exact absurd (List.cons.inj heq).1 hquote
  · next heq => exact absurd (List.cons.inj heq).1 hslash
  · next heq => exact absurd (List.cons.inj heq).1 hslash
  · next heq => exact absurd (List.cons.inj heq).1 hslash
  · next heq =>
      obtain ⟨rfl, rfl⟩ := List.cons.inj heq
      rw [if_neg (Nat.not_lt.mpr hprintable)]
      rfl

end Body

/-- The reader finds a character in what was written for it, and stands behind it then. -/
theorem stringBody_escape (start fuel : Nat) (c : Char) {rest : List Char} (hrest : rest ≠ [])
    (i : Nat) (read : List Char) :
    stringBody start (fuel + 1) ⟨escape c ++ rest, i⟩ read =
      stringBody start fuel ⟨rest, i + (escape c).length⟩ (c :: read) := by
  have hsurrogate := not_surrogate c
  rcases escape_cases c with ⟨mark, hc, hu, hread⟩ | ⟨hc, hquote, hslash, hprintable⟩ |
    ⟨hc, hsmall⟩ | ⟨hc, hlarge⟩
  · rw [hc]
    exact stringBody_mark start fuel rest i read hu hread
  · rw [hc]
    exact stringBody_plain start fuel rest i read hquote hslash hprintable
  · have hchar : charOfCode c.toNat = c := by
      rw [charOfCode, hsurrogate.1, hsurrogate.2]
      exact Char.ofNat_toNat c
    rw [hc, codeEscape_eq hsmall, List.cons_append, List.cons_append, stringBody_code,
      unicodeEscape_hexDigits hsmall hsurrogate.1 hrest, hchar]
    rfl
  · have hvalid : c.toNat < 0x110000 := by
      rcases c.valid with hless | ⟨_, hless⟩
      · exact Nat.lt_trans hless (by decide)
      · exact hless
    have hhigh : isHighSurrogate (0xD800 + (c.toNat - 0x10000) / 0x400) = true := by
      simp only [isHighSurrogate, Bool.and_eq_true, decide_eq_true_eq]
      omega
    have hlow : isLowSurrogate (0xDC00 + (c.toNat - 0x10000) % 0x400) = true := by
      simp only [isLowSurrogate, Bool.and_eq_true, decide_eq_true_eq]
      omega
    have hjoined : 0x10000 + (0xD800 + (c.toNat - 0x10000) / 0x400 - 0xD800) * 0x400 +
        (0xDC00 + (c.toNat - 0x10000) % 0x400 - 0xDC00) = c.toNat := by
      omega
    have hpair := unicodeEscape_pair hhigh hlow hrest (i + 2)
    rw [hjoined, Char.ofNat_toNat] at hpair
    rw [hc, codeEscape_eq (by omega), codeEscape_eq (by omega), List.append_assoc,
      List.cons_append, List.cons_append, stringBody_code, List.cons_append, List.cons_append,
      hpair]
    rfl

theorem stringBody_flatMap_escape (start : Nat) (cs : List Char) {fuel : Nat}
    (hfuel : cs.length < fuel) (rest : List Char) (i : Nat) (read : List Char) :
    stringBody start fuel ⟨cs.flatMap escape ++ '"' :: rest, i⟩ read =
      .ok (String.ofList (read.reverse ++ cs), ⟨rest, i + (cs.flatMap escape).length + 1⟩) := by
  induction cs generalizing fuel i read with
  | nil =>
      obtain ⟨more, rfl⟩ := Nat.exists_eq_add_of_lt hfuel
      rw [List.append_nil]
      exact stringBody_quote start _ rest i read
  | cons c cs ih =>
      obtain ⟨more, rfl⟩ := Nat.exists_eq_add_of_lt hfuel
      have hrest : cs.flatMap escape ++ '"' :: rest ≠ [] := by simp
      rw [List.flatMap_cons, List.append_assoc, stringBody_escape start _ c hrest,
        ih (by simp only [List.length_cons]; omega), List.reverse_cons, List.append_assoc,
        List.singleton_append, List.length_append, Nat.add_assoc i]

/-- A string is read back from what was written for it. -/
theorem string_flatMap_escape (text : String) (rest : List Char) (i : Nat) :
    string ⟨text.toList.flatMap escape ++ '"' :: rest, i⟩ =
      .ok (text, ⟨rest, i + (text.toList.flatMap escape).length + 1⟩) := by
  have hescape : ∀ cs : List Char, cs.length ≤ (cs.flatMap escape).length := by
    intro cs
    induction cs with
    | nil => exact Nat.le_refl 0
    | cons c cs ih =>
        have hc : 0 < (escape c).length := List.length_pos_iff.mpr (escape_ne_nil c)
        rw [List.flatMap_cons, List.length_append, List.length_cons]
        omega
  have hlength := hescape text.toList
  rw [string, stringBody_flatMap_escape]
  · rw [List.reverse_nil, List.nil_append, String.ofList_toList]
  · simp only [List.length_append, List.length_cons]
    omega

end Reader

end Candlestick.Json
