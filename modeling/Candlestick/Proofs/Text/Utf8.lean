import Candlestick.Text.Utf8
import Mathlib.Data.List.TakeWhile
import Mathlib.Tactic.SplitIfs

/-!
# Decoding what was encoded

The bytes of a character are one piece, whatever bytes follow them, and this piece is the character
(`pieces_encodeChar`). Hence decoding the bytes of a text gives the text.
-/

namespace Candlestick.Text.Utf8

/-- Bytes that a character may continue with. -/
structure Continues (lead : Nat) (tails : List UInt8) : Prop where
  owed_eq : owed lead = some tails.length
  second : ∀ b ∈ tails.head?, maySecond lead b.toNat = true
  others : ∀ b ∈ tails.tail, isTail b = true

theorem tailsOf_append {lead : Nat} {tails : List UInt8} (h : Continues lead tails)
    (rest : List UInt8) : tailsOf lead tails.length (tails ++ rest) = tails := by
  cases tails with
  | nil => cases rest <;> simp [tailsOf]
  | cons b others =>
      have hsecond := h.second b rfl
      have hothers : ((others ++ rest).take others.length).takeWhile isTail = others := by
        rw [List.take_left, List.takeWhile_eq_self_iff]
        exact h.others
      rw [List.cons_append, List.length_cons, tailsOf, if_neg (by simp [hsecond]),
        Nat.add_sub_cancel, hothers]

theorem pieces_cons {lead : UInt8} (tails : List UInt8) {n : Nat}
    (h : Continues lead.toNat tails) (hn : assemble lead.toNat tails = n) (rest : List UInt8) :
    pieces (lead :: (tails ++ rest)) = some (Char.ofNat n) :: pieces rest := by
  have hfirst : first lead (tails ++ rest) = (some (Char.ofNat n), tails.length) := by
    simp [first, h.owed_eq, tailsOf_append h rest, hn]
  rw [pieces, hfirst]
  dsimp only
  rw [List.drop_left]

theorem toNat_ofNat {n : Nat} (h : n < 256) : (UInt8.ofNat n).toNat = n := by
  simp [Nat.mod_eq_of_lt h]

theorem toNat_tail (n : Nat) : (UInt8.ofNat (n % 0x40 + 0x80)).toNat = n % 0x40 + 0x80 :=
  toNat_ofNat (by omega)

theorem isTail_tail (n : Nat) : isTail (UInt8.ofNat (n % 0x40 + 0x80)) = true := by
  rw [isTail, Bool.and_eq_true, decide_eq_true_eq, decide_eq_true_eq, UInt8.le_iff_toNat_le,
    UInt8.le_iff_toNat_le, toNat_tail]
  exact ⟨Nat.le_add_left _ _, show n % 0x40 + 0x80 ≤ 0xBF by omega⟩

/-- The bytes of a character are one piece. -/
theorem pieces_encodeChar (c : Char) (rest : List UInt8) :
    pieces (String.utf8EncodeChar c ++ rest) = some c :: pieces rest := by
  have hvalid := c.valid
  have hvalue : Char.ofNat c.val.toNat = c := Char.ofNat_toNat c
  simp only [UInt32.isValidChar, Nat.isValidChar] at hvalid
  unfold String.utf8EncodeChar
  generalize c.val.toNat = n at *
  dsimp only
  rw [← hvalue]
  split
  · have hlead := toNat_ofNat (n := n) (by omega)
    refine pieces_cons [] ⟨?_, by simp, by simp⟩ ?_ rest
    · rw [hlead, owed, if_pos (by omega)]
      rfl
    · rw [hlead]
      rfl
  split
  · have hlead := toNat_ofNat (n := n / 64 % 0x20 + 0xc0) (by omega)
    refine pieces_cons [_] ⟨?_, ?_, by simp⟩ ?_ rest
    · rw [hlead, owed, if_neg (by omega), if_neg (by omega), if_pos (by omega)]
      rfl
    · rintro b ⟨⟩
      rw [hlead, toNat_tail]
      simp only [maySecond, Bool.and_eq_true, decide_eq_true_eq]
      split_ifs <;> omega
    · rw [hlead]
      simp only [assemble, toNat_tail, List.foldl_cons, List.foldl_nil, List.length_singleton]
      omega
  split
  · have hlead := toNat_ofNat (n := n / 4096 % 0x10 + 0xe0) (by omega)
    refine pieces_cons [_, _] ⟨?_, ?_, ?_⟩ ?_ rest
    · rw [hlead, owed, if_neg (by omega), if_neg (by omega), if_neg (by omega), if_pos (by omega)]
      rfl
    · rintro b ⟨⟩
      rw [hlead, toNat_tail]
      simp only [maySecond, Bool.and_eq_true, decide_eq_true_eq]
      split_ifs <;> omega
    · exact List.forall_mem_singleton.mpr (isTail_tail n)
    · rw [hlead]
      simp only [assemble, toNat_tail, List.foldl_cons, List.foldl_nil, List.length_cons,
        List.length_nil]
      omega
  · have hlead := toNat_ofNat (n := n / 262144 % 0x08 + 0xf0) (by omega)
    refine pieces_cons [_, _, _] ⟨?_, ?_, ?_⟩ ?_ rest
    · rw [hlead, owed, if_neg (by omega), if_neg (by omega), if_neg (by omega),
        if_neg (by omega), if_pos (by omega)]
      rfl
    · rintro b ⟨⟩
      rw [hlead, toNat_tail]
      simp only [maySecond, Bool.and_eq_true, decide_eq_true_eq]
      split_ifs <;> omega
    · exact List.forall_mem_cons.mpr ⟨isTail_tail _, List.forall_mem_singleton.mpr (isTail_tail n)⟩
    · rw [hlead]
      simp only [assemble, toNat_tail, List.foldl_cons, List.foldl_nil, List.length_cons,
        List.length_nil]
      omega

theorem pieces_flatMap_encodeChar (cs : List Char) :
    pieces (cs.flatMap String.utf8EncodeChar) = cs.map some := by
  induction cs with
  | nil => rw [List.flatMap_nil, pieces, List.map_nil]
  | cons c rest ih => rw [List.flatMap_cons, pieces_encodeChar, ih, List.map_cons]

theorem toList_loop (bytes : ByteArray) (i : Nat) (read : List UInt8) :
    ByteArray.toList.loop bytes i read = read.reverse ++ bytes.data.toList.drop i := by
  fun_induction ByteArray.toList.loop bytes i read with
  | case1 i read hlt ih =>
      have hlen : i < bytes.data.toList.length := hlt
      have hget : bytes.get! i = bytes.data.toList[i] := by
        rw [Array.getElem_toList]
        exact getElem!_pos bytes.data i hlt
      rw [ih, List.drop_eq_getElem_cons hlen, hget, List.reverse_cons, List.append_assoc,
        List.singleton_append]
  | case2 i read hge =>
      have hlen : bytes.data.toList.length ≤ i := Nat.not_lt.mp hge
      rw [List.drop_eq_nil_of_le hlen, List.append_nil]

theorem encode_eq (text : String) : encode text = text.toList.flatMap String.utf8EncodeChar := by
  have hbytes : text.toUTF8 = text.toList.utf8Encode := String.utf8Encode_toList.symm
  rw [encode, hbytes, ByteArray.toList, toList_loop, List.utf8Encode, List.toList_data_toByteArray]
  rfl

theorem mapM_id_map_some {α : Type} (xs : List α) : (xs.map some).mapM id = some xs := by
  induction xs with
  | nil => rfl
  | cons x rest ih => simp [List.mapM_cons, ih]

/-- Decoding the bytes of a text gives the text. -/
theorem decode?_encode (text : String) : decode? (encode text) = some text := by
  rw [decode?, encode_eq, pieces_flatMap_encodeChar, mapM_id_map_some, Option.map_some,
    String.ofList_toList]

end Candlestick.Text.Utf8
