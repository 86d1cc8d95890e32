import Candlestick.Proofs.Json.Number

/-!
# Reading back what was written

A value that is written and read again comes back, whatever it is made of, but for two things that
the reader is strict about: of two fields of one name the later value stands, so the names have to
be distinct, and a whole number of too many digits is refused, the first one being reported. The
reader is given more fuel than there are characters, and it needs one unit for a character at most.
-/

namespace Candlestick.Json

open Numeral

mutual

/-- Whether the fields of every object in a value have distinct names. -/
def Distinct : Json → Prop
  | .list elements => ItemsDistinct elements
  | .object fields => (fields.map Prod.fst).Nodup ∧ FieldsDistinct fields
  | _ => True

def ItemsDistinct : List Json → Prop
  | [] => True
  | item :: rest => item.Distinct ∧ ItemsDistinct rest

def FieldsDistinct : List (String × Json) → Prop
  | [] => True
  | (_, item) :: rest => item.Distinct ∧ FieldsDistinct rest

end

namespace Reader

open Writer

/-- What is read where nothing but the number of digits of a whole number can be wrong. -/
def unlessExcess {α : Type} (excess : Option Nat) (result : α) : Except ReadError α :=
  match excess with
  | some digits => .error (.tooManyDigits digits)
  | none => .ok result

theorem skipSpaces_cons {c : Char} (hc : isSpace c = false) (rest : List Char) (i : Nat) :
    skipSpaces ⟨c :: rest, i⟩ = ⟨c :: rest, i⟩ := by
  simp [skipSpaces, Cursor.advance, hc]

theorem skipSpaces_space {c : Char} (hc : isSpace c = false) (rest : List Char) (i : Nat) :
    skipSpaces ⟨' ' :: c :: rest, i⟩ = ⟨c :: rest, i + 1⟩ := by
  have hspace : isSpace ' ' = true := rfl
  simp [skipSpaces, Cursor.advance, hc, hspace]

/-- A character that a value can start with. -/
structure Opens (c : Char) : Prop where
  not_space : isSpace c = false
  ne_bracket : c ≠ ']'
  ne_brace : c ≠ '\x7d'
  ne_mark : c ≠ '\uFEFF'

/-- A character that neither a text nor a list nor an object starts with. -/
structure OpensScalar (c : Char) : Prop extends Opens c where
  ne_quote : c ≠ '"'
  ne_list : c ≠ '['
  ne_object : c ≠ '\x7b'

theorem opensScalar_of_isDigit {c : Char} (hc : c.isDigit = true) : OpensScalar c := by
  have hne : ∀ d : Char, d.isDigit = false → c ≠ d := fun d hd ↦ ne_of_isDigit hc hd
  refine ⟨⟨?_, hne _ rfl, hne _ rfl, hne _ rfl⟩, hne _ rfl, hne _ rfl, hne _ rfl⟩
  simp [isSpace, hne ' ' rfl, hne '\t' rfl, hne '\n' rfl, hne '\r' rfl]

theorem opensScalar_of_mem {c : Char} (hc : c ∈ ['n', 't', 'f', 'N', 'I', '-']) :
    OpensScalar c := by
  simp only [List.mem_cons, List.not_mem_nil, or_false] at hc
  rcases hc with rfl | rfl | rfl | rfl | rfl | rfl
  all_goals exact ⟨⟨rfl, by decide, by decide, by decide⟩, by decide, by decide, by decide⟩

theorem exists_opensScalar_chars {s : Spelling} (h : s.WellFormed) (negative : Bool) :
    ∃ c rest, Spelling.signChars negative ++ s.chars = c :: rest ∧ OpensScalar c := by
  obtain ⟨d, rest, hchars, hd⟩ := h.exists_head
  cases negative with
  | true => exact ⟨'-', s.chars, rfl, opensScalar_of_mem (by decide)⟩
  | false => exact ⟨d, rest, hchars, opensScalar_of_isDigit hd⟩

theorem exists_opensScalar_null : ∃ c rest, Writer.value .null = c :: rest ∧ OpensScalar c :=
  ⟨'n', _, rfl, opensScalar_of_mem (by decide)⟩

theorem exists_opensScalar_bool (b : Bool) :
    ∃ c rest, Writer.value (.bool b) = c :: rest ∧ OpensScalar c := by
  cases b with
  | true => exact ⟨'t', _, rfl, opensScalar_of_mem (by decide)⟩
  | false => exact ⟨'f', _, rfl, opensScalar_of_mem (by decide)⟩

theorem exists_opensScalar_toString (n : Int) :
    ∃ c rest, (toString n).toList = c :: rest ∧ OpensScalar c := by
  rw [toList_toString]
  exact exists_opensScalar_chars (wellFormed_wholeSpelling n.natAbs) _

theorem exists_opensScalar_text (x : Double) :
    ∃ c rest, (numberStyle.text x).toList = c :: rest ∧ OpensScalar c := by
  cases x with
  | finite negative m =>
      obtain ⟨s, hs, _, hchars, _⟩ := numberStyle.exists_spelling_text negative m
      rw [hchars]
      exact exists_opensScalar_chars hs negative
  | infinite negative =>
      cases negative with
      | false => exact ⟨'I', _, rfl, opensScalar_of_mem (by decide)⟩
      | true => exact ⟨'-', _, rfl, opensScalar_of_mem (by decide)⟩
  | nan => exact ⟨'N', _, rfl, opensScalar_of_mem (by decide)⟩

theorem exists_opens (v : Json) : ∃ c rest, Writer.value v = c :: rest ∧ Opens c := by
  have hscalar : ∀ cs : List Char, (∃ c rest, cs = c :: rest ∧ OpensScalar c) →
      ∃ c rest, cs = c :: rest ∧ Opens c := by
    rintro cs ⟨c, rest, hcs, hc⟩
    exact ⟨c, rest, hcs, hc.toOpens⟩
  cases v with
  | null => exact hscalar _ exists_opensScalar_null
  | bool b => exact hscalar _ (exists_opensScalar_bool b)
  | int n => exact hscalar _ (exists_opensScalar_toString n)
  | real x => exact hscalar _ (exists_opensScalar_text x)
  | text chars => exact ⟨'"', _, rfl, rfl, by decide, by decide, by decide⟩
  | list elements => exact ⟨'[', _, rfl, rfl, by decide, by decide, by decide⟩
  | object fields => exact ⟨'\x7b', _, rfl, rfl, by decide, by decide, by decide⟩

theorem exists_fuel {cs : List Char} (hsome : cs ≠ []) {fuel : Nat} (h : cs.length ≤ fuel) :
    ∃ more, fuel = more + 1 := by
  have hlength := List.length_pos_iff.mpr hsome
  exact ⟨fuel - 1, by omega⟩

theorem value_of_opensScalar {c : Char} (hc : OpensScalar c) (fuel : Nat) (rest : List Char)
    (i : Nat) : Reader.value (fuel + 1) ⟨c :: rest, i⟩ = scalar ⟨c :: rest, i⟩ := by
  rw [Reader.value]
  split
  · next heq => exact absurd (List.cons.inj heq).1 hc.ne_quote
  · next heq => exact absurd (List.cons.inj heq).1 hc.ne_list
  · next heq => exact absurd (List.cons.inj heq).1 hc.ne_object
  · rfl

/-- A scalar is read by `scalar`, given enough fuel. -/
theorem value_of_exists_opensScalar {cs : List Char} (h : ∃ c rest, cs = c :: rest ∧ OpensScalar c)
    {fuel : Nat} (hfuel : cs.length ≤ fuel) (tail : List Char) (i : Nat) :
    Reader.value fuel ⟨cs ++ tail, i⟩ = scalar ⟨cs ++ tail, i⟩ := by
  obtain ⟨c, rest, rfl, hc⟩ := h
  obtain ⟨more, rfl⟩ := exists_fuel (List.cons_ne_nil c rest) hfuel
  exact value_of_opensScalar hc more (rest ++ tail) i

theorem items_cons_cons (item second : Json) (rest : List Json) :
    Writer.items (item :: second :: rest) =
      Writer.value item ++ ',' :: ' ' :: Writer.items (second :: rest) := by
  rw [Writer.items]
  exact List.cons_ne_nil _ _

theorem members_singleton (name : String) (item : Json) :
    Writer.members [(name, item)] =
      Writer.string name ++ ':' :: ' ' :: (Writer.value item ++ ['\x7d']) := by
  rw [Writer.members]

theorem members_cons_cons (name : String) (item : Json) (second : String × Json)
    (rest : List (String × Json)) :
    Writer.members ((name, item) :: second :: rest) = Writer.string name ++
      ':' :: ' ' :: (Writer.value item ++ ',' :: ' ' :: Writer.members (second :: rest)) := by
  rw [Writer.members]
  exact List.cons_ne_nil _ _

theorem exists_opens_items (item : Json) (rest : List Json) :
    ∃ c more, Writer.items (item :: rest) = c :: more ∧ Opens c := by
  obtain ⟨c, more, hitem, hc⟩ := exists_opens item
  cases rest with
  | nil => exact ⟨c, _, by rw [Writer.items, hitem, List.cons_append], hc⟩
  | cons second others => exact ⟨c, _, by rw [items_cons_cons, hitem, List.cons_append], hc⟩

theorem exists_quote_members (field : String × Json) (rest : List (String × Json)) :
    ∃ more, Writer.members (field :: rest) = '"' :: more := by
  obtain ⟨name, item⟩ := field
  cases rest with
  | nil => exact ⟨_, by rw [Writer.members, Writer.string, List.cons_append]⟩
  | cons second others => exact ⟨_, by rw [members_cons_cons, Writer.string, List.cons_append]⟩

/-! ## Values, items and fields -/

theorem unlessExcess_bind {α β : Type} {first second : Option Nat} {a : α} {b : β}
    {next : α → Except ReadError β} (h : next a = unlessExcess second b) :
    (unlessExcess first a >>= next) = unlessExcess (first.or second) b := by
  cases first with
  | some digits => rfl
  | none => exact h

theorem setField_of_not_mem {name : String} {fields : List (String × Json)}
    (h : name ∉ fields.map Prod.fst) (item : Json) :
    setField name item fields = fields ++ [(name, item)] := by
  induction fields with
  | nil => rfl
  | cons field rest ih =>
      rw [List.map_cons, List.mem_cons, not_or] at h
      rw [setField, if_neg (Ne.symm h.1), ih h.2, List.cons_append]

theorem stopsNumber_of_mem {c : Char} (hc : c ∈ [',', ']', '\x7d']) (rest : List Char) :
    StopsNumber (c :: rest) := by
  simp only [List.mem_cons, List.not_mem_nil, or_false] at hc
  rintro _ ⟨⟩
  rcases hc with rfl | rfl | rfl
  all_goals exact ⟨rfl, by decide, by decide, by decide⟩

theorem value_list {c : Char} (hc : Opens c) (fuel : Nat) (rest : List Char) (i : Nat) :
    Reader.value (fuel + 1) ⟨'[' :: c :: rest, i⟩ = Reader.items fuel ⟨c :: rest, i + 1⟩ [] := by
  have hskip : skipSpaces (Cursor.advance ⟨'[' :: c :: rest, i⟩ 1) = ⟨c :: rest, i + 1⟩ :=
    skipSpaces_cons hc.not_space rest (i + 1)
  simp only [Reader.value, hskip]
  split
  · next heq => exact absurd (List.cons.inj heq).1 hc.ne_bracket
  · rfl

theorem value_object (fuel : Nat) (rest : List Char) (i : Nat) :
    Reader.value (fuel + 1) ⟨'\x7b' :: '"' :: rest, i⟩ =
      Reader.members fuel ⟨'"' :: rest, i + 1⟩ [] := by
  have hskip : skipSpaces (Cursor.advance ⟨'\x7b' :: '"' :: rest, i⟩ 1) = ⟨'"' :: rest, i + 1⟩ :=
    skipSpaces_cons rfl rest (i + 1)
  simp only [Reader.value, hskip]
  rfl

section

variable {fuel : Nat} {start : Cursor} {first second : Option Nat} {item : Json} {c : Char}
  {tail rest : List Char} {j : Nat}

theorem items_last (h : Reader.value fuel start = unlessExcess first (item, ⟨']' :: tail, j⟩))
    (read : List Json) : Reader.items (fuel + 1) start read =
      unlessExcess first (.list (item :: read).reverse, ⟨tail, j + 1⟩) := by
  rw [Reader.items, h]
  cases first with
  | some digits => rfl
  | none =>
      have hskip : skipSpaces ⟨']' :: tail, j⟩ = ⟨']' :: tail, j⟩ := skipSpaces_cons rfl tail j
      simp only [unlessExcess, bind, Except.bind, hskip]
      rfl

theorem items_more
    (h : Reader.value fuel start = unlessExcess first (item, ⟨',' :: ' ' :: c :: rest, j⟩))
    (hc : Opens c) {read : List Json} {result : Json × Cursor}
    (hmore : Reader.items fuel ⟨c :: rest, j + 2⟩ (item :: read) = unlessExcess second result) :
    Reader.items (fuel + 1) start read = unlessExcess (first.or second) result := by
  rw [Reader.items, h]
  refine unlessExcess_bind ?_
  have hcomma : skipSpaces ⟨',' :: ' ' :: c :: rest, j⟩ = ⟨',' :: ' ' :: c :: rest, j⟩ :=
    skipSpaces_cons rfl _ j
  have hspace : skipSpaces (Cursor.advance ⟨',' :: ' ' :: c :: rest, j⟩ 1) = ⟨c :: rest, j + 2⟩ :=
    skipSpaces_space hc.not_space rest (j + 1)
  simp only [hcomma, hspace, hmore]

/-- The name of a field is read up to its value. -/
theorem string_name (name : String) (hc : Opens c) (rest : List Char) (i : Nat) :
    ∃ colon, string (Cursor.advance ⟨Writer.string name ++ ':' :: ' ' :: c :: rest, i⟩ 1) =
        .ok (name, ⟨':' :: ' ' :: c :: rest, colon⟩) ∧
      skipSpaces (Cursor.advance ⟨':' :: ' ' :: c :: rest, colon⟩ 1) =
        ⟨c :: rest, i + (Writer.string name).length + 2⟩ := by
  refine ⟨i + (Writer.string name).length, ?_, skipSpaces_space hc.not_space rest _⟩
  have hread := string_flatMap_escape name (':' :: ' ' :: c :: rest) (i + 1)
  have hchars : Cursor.advance ⟨Writer.string name ++ ':' :: ' ' :: c :: rest, i⟩ 1 =
      ⟨name.toList.flatMap escape ++ '"' :: ':' :: ' ' :: c :: rest, i + 1⟩ := by
    simp [Cursor.advance, Writer.string]
  have hlength : i + 1 + (name.toList.flatMap escape).length + 1 =
      i + (Writer.string name).length := by
    simp only [Writer.string, List.length_cons, List.length_append, List.length_nil]
    omega
  rw [hchars, hread, hlength]

theorem members_last {name : String} {i : Nat} (hc : Opens c)
    (h : Reader.value fuel ⟨c :: rest, i + (Writer.string name).length + 2⟩ =
      unlessExcess first (item, ⟨'\x7d' :: tail, j⟩)) (read : List (String × Json)) :
    Reader.members (fuel + 1) ⟨Writer.string name ++ ':' :: ' ' :: c :: rest, i⟩ read =
      unlessExcess first (.object (setField name item read), ⟨tail, j + 1⟩) := by
  obtain ⟨colon, hname, hvalue⟩ := string_name name hc rest i
  have hcolon : skipSpaces ⟨':' :: ' ' :: c :: rest, colon⟩ = ⟨':' :: ' ' :: c :: rest, colon⟩ :=
    skipSpaces_cons rfl _ colon
  have hbrace : skipSpaces ⟨'\x7d' :: tail, j⟩ = ⟨'\x7d' :: tail, j⟩ := skipSpaces_cons rfl tail j
  rw [Reader.members]
  simp only [Writer.string, List.cons_append] at hname ⊢
  simp only [hname, bind, Except.bind, hcolon, hvalue, h]
  cases first with
  | some digits => rfl
  | none =>
      simp only [unlessExcess, hbrace]
      rfl

theorem members_more {name : String} {i : Nat} (hc : Opens c) {more : List Char}
    (h : Reader.value fuel ⟨c :: rest, i + (Writer.string name).length + 2⟩ =
      unlessExcess first (item, ⟨',' :: ' ' :: '"' :: more, j⟩))
    {read : List (String × Json)} {result : Json × Cursor}
    (hmore : Reader.members fuel ⟨'"' :: more, j + 2⟩ (setField name item read) =
      unlessExcess second result) :
    Reader.members (fuel + 1) ⟨Writer.string name ++ ':' :: ' ' :: c :: rest, i⟩ read =
      unlessExcess (first.or second) result := by
  obtain ⟨colon, hname, hvalue⟩ := string_name name hc rest i
  have hcolon : skipSpaces ⟨':' :: ' ' :: c :: rest, colon⟩ = ⟨':' :: ' ' :: c :: rest, colon⟩ :=
    skipSpaces_cons rfl _ colon
  have hcomma : skipSpaces ⟨',' :: ' ' :: '"' :: more, j⟩ = ⟨',' :: ' ' :: '"' :: more, j⟩ :=
    skipSpaces_cons rfl _ j
  have hspace : skipSpaces (Cursor.advance ⟨',' :: ' ' :: '"' :: more, j⟩ 1) =
      ⟨'"' :: more, j + 2⟩ :=
    skipSpaces_space rfl more (j + 1)
  rw [Reader.members]
  simp only [Writer.string, List.cons_append] at hname ⊢
  simp only [hname, bind, Except.bind, hcolon, hvalue, h]
  cases first with
  | some digits => rfl
  | none =>
      simp only [unlessExcess, hcomma, hspace, hmore]
      rfl

end

mutual

/-- A value is read back from what was written for it. -/
theorem value_append (v : Json) (h : v.Distinct) {fuel : Nat}
    (hfuel : (Writer.value v).length ≤ fuel) {tail : List Char} (htail : StopsNumber tail)
    (i : Nat) : Reader.value fuel ⟨Writer.value v ++ tail, i⟩ =
      unlessExcess v.excess? (v, ⟨tail, i + (Writer.value v).length⟩) := by
  match v with
  | .null =>
      rw [value_of_exists_opensScalar exists_opensScalar_null hfuel]
      rfl
  | .bool b =>
      rw [value_of_exists_opensScalar (exists_opensScalar_bool b) hfuel]
      cases b <;> rfl
  | .int n =>
      rw [Writer.value] at hfuel ⊢
      rw [value_of_exists_opensScalar (exists_opensScalar_toString n) hfuel, scalar_int n htail,
        excess?]
      split <;> rfl
  | .real x =>
      rw [Writer.value] at hfuel ⊢
      rw [value_of_exists_opensScalar (exists_opensScalar_text x) hfuel, scalar_real x htail]
      rfl
  | .text chars =>
      rw [Writer.value, Writer.string] at hfuel ⊢
      obtain ⟨more, rfl⟩ := exists_fuel (List.cons_ne_nil _ _) hfuel
      have hread := string_flatMap_escape chars tail (i + 1)
      have hlength : i + 1 + (chars.toList.flatMap escape).length + 1 =
          i + ('"' :: (chars.toList.flatMap escape ++ ['"'])).length := by
        simp only [List.length_cons, List.length_append, List.length_nil]
        omega
      rw [hlength] at hread
      rw [List.cons_append, List.append_assoc, List.singleton_append]
      simp only [Reader.value, Cursor.advance, List.drop_succ_cons, List.drop_zero, hread, bind,
        Except.bind]
      rfl
  | .list [] =>
      obtain ⟨more, rfl⟩ := exists_fuel (List.cons_ne_nil _ _) hfuel
      rfl
  | .list (item :: rest) =>
      rw [Writer.value] at hfuel ⊢
      obtain ⟨more, rfl⟩ := exists_fuel (List.cons_ne_nil _ _) hfuel
      obtain ⟨c, others, hchars, hc⟩ := exists_opens_items item rest
      have hread := items_append (item :: rest) (List.cons_ne_nil _ _) h
        (Nat.le_of_succ_le_succ hfuel) tail (i + 1) []
      rw [hchars, List.cons_append] at hread
      rw [hchars, List.cons_append, List.cons_append, value_list hc, hread, List.length_cons,
        Nat.add_assoc, Nat.add_comm 1]
      rfl
  | .object [] =>
      obtain ⟨more, rfl⟩ := exists_fuel (List.cons_ne_nil _ _) hfuel
      rfl
  | .object (field :: rest) =>
      rw [Writer.value] at hfuel ⊢
      obtain ⟨more, rfl⟩ := exists_fuel (List.cons_ne_nil _ _) hfuel
      obtain ⟨others, hchars⟩ := exists_quote_members field rest
      have hread := members_append (field :: rest) (List.cons_ne_nil _ _) h.2
        (Nat.le_of_succ_le_succ hfuel) tail (i + 1) [] h.1
      rw [hchars, List.cons_append] at hread
      rw [hchars, List.cons_append, List.cons_append, value_object, hread, List.length_cons,
        Nat.add_assoc, Nat.add_comm 1]
      rfl

theorem items_append (xs : List Json) (hsome : xs ≠ []) (h : ItemsDistinct xs) {fuel : Nat}
    (hfuel : (Writer.items xs).length ≤ fuel) (tail : List Char) (i : Nat) (read : List Json) :
    Reader.items fuel ⟨Writer.items xs ++ tail, i⟩ read =
      unlessExcess (itemsExcess? xs)
        (.list (read.reverse ++ xs), ⟨tail, i + (Writer.items xs).length⟩) := by
  match xs with
  | [] => exact absurd rfl hsome
  | [item] =>
      rw [Writer.items] at hfuel ⊢
      obtain ⟨more, rfl⟩ := exists_fuel (by simp) hfuel
      rw [List.length_append, List.length_singleton] at hfuel
      have hread := value_append item h.1 (Nat.le_of_succ_le_succ hfuel)
        (stopsNumber_of_mem (by decide : ']' ∈ _) tail) i
      rw [List.append_assoc, List.singleton_append, items_last hread, List.reverse_cons,
        itemsExcess?, itemsExcess?, Option.or_none, List.length_append, List.length_singleton,
        Nat.add_assoc]
  | item :: second :: rest =>
      rw [items_cons_cons] at hfuel ⊢
      obtain ⟨more, rfl⟩ := exists_fuel (by simp) hfuel
      simp only [List.length_append, List.length_cons] at hfuel
      obtain ⟨c, others, hchars, hc⟩ := exists_opens_items second rest
      have hread := value_append item h.1 (by omega : _ ≤ more)
        (stopsNumber_of_mem (by decide : ',' ∈ _) (' ' :: c :: (others ++ tail))) i
      have hmore := items_append (second :: rest) (List.cons_ne_nil _ _) h.2
        (by omega : _ ≤ more) tail (i + (Writer.value item).length + 2) (item :: read)
      have hend : i + (Writer.value item).length + 2 + (Writer.items (second :: rest)).length =
          i + (Writer.value item ++ ',' :: ' ' :: Writer.items (second :: rest)).length := by
        simp only [List.length_append, List.length_cons]
        omega
      rw [hend, hchars, List.cons_append] at hmore
      rw [hchars, List.append_assoc, List.cons_append, List.cons_append, List.cons_append,
        items_more hread hc hmore, List.reverse_cons, List.append_assoc, List.singleton_append,
        itemsExcess?.eq_2 item (second :: rest)]

theorem members_append (xs : List (String × Json)) (hsome : xs ≠ []) (h : FieldsDistinct xs)
    {fuel : Nat} (hfuel : (Writer.members xs).length ≤ fuel) (tail : List Char) (i : Nat)
    (read : List (String × Json)) (hnames : ((read ++ xs).map Prod.fst).Nodup) :
    Reader.members fuel ⟨Writer.members xs ++ tail, i⟩ read =
      unlessExcess (fieldsExcess? xs)
        (.object (read ++ xs), ⟨tail, i + (Writer.members xs).length⟩) := by
  -- A new name is put behind those that have been read, so the fields keep their order.
  have hnew : ∀ name item rest, xs = (name, item) :: rest → name ∉ read.map Prod.fst := by
    rintro name item rest rfl hmem
    rw [List.map_append, List.nodup_append] at hnames
    exact hnames.2.2 name hmem name List.mem_cons_self rfl
  match xs with
  | [] => exact absurd rfl hsome
  | [(name, item)] =>
      rw [members_singleton] at hfuel ⊢
      obtain ⟨more, rfl⟩ := exists_fuel (by simp) hfuel
      simp only [List.length_append, List.length_cons] at hfuel
      obtain ⟨c, others, hchars, hc⟩ := exists_opens item
      have hread := value_append item h.1 (by omega : _ ≤ more)
        (stopsNumber_of_mem (by decide : '\x7d' ∈ _) tail) (i + (Writer.string name).length + 2)
      have hend : i + (Writer.string name).length + 2 + (Writer.value item).length + 1 =
          i + (Writer.string name ++ ':' :: ' ' :: (Writer.value item ++ ['\x7d'])).length := by
        simp only [List.length_append, List.length_cons, List.length_nil]
        omega
      rw [hchars, List.cons_append] at hread
      have hlast := members_last hc hread read
      rw [← List.cons_append, ← hchars, hend, setField_of_not_mem (hnew name item [] rfl)] at hlast
      rw [fieldsExcess?, fieldsExcess?, Option.or_none, ← hlast]
      simp only [List.cons_append, List.append_assoc, List.nil_append]
  | (name, item) :: second :: rest =>
      rw [members_cons_cons] at hfuel ⊢
      obtain ⟨more, rfl⟩ := exists_fuel (by simp) hfuel
      simp only [List.length_append, List.length_cons] at hfuel
      obtain ⟨c, others, hchars, hc⟩ := exists_opens item
      obtain ⟨fields, hfields⟩ := exists_quote_members second rest
      have hread := value_append item h.1 (by omega : _ ≤ more)
        (stopsNumber_of_mem (by decide : ',' ∈ _) (' ' :: '"' :: (fields ++ tail)))
        (i + (Writer.string name).length + 2)
      have hmore := members_append (second :: rest) (List.cons_ne_nil _ _) h.2
        (by omega : _ ≤ more) tail
        (i + (Writer.string name).length + 2 + (Writer.value item).length + 2)
        (read ++ [(name, item)]) (by rwa [List.append_assoc, List.singleton_append])
      have hend : i + (Writer.string name).length + 2 + (Writer.value item).length + 2 +
          (Writer.members (second :: rest)).length = i + (Writer.string name ++ ':' :: ' ' ::
            (Writer.value item ++ ',' :: ' ' :: Writer.members (second :: rest))).length := by
        simp only [List.length_append, List.length_cons]
        omega
      rw [hend, List.append_assoc, List.singleton_append, hfields, List.cons_append,
        ← setField_of_not_mem (hnew name item _ rfl) item] at hmore
      rw [hchars] at hmore
      rw [hchars, List.cons_append] at hread
      rw [hfields, hchars, fieldsExcess?, ← members_more hc hread hmore]
      simp only [List.cons_append, List.append_assoc]

end

theorem document_value (v : Json) (h : v.Distinct) :
    document (Writer.value v) = unlessExcess v.excess? v := by
  obtain ⟨c, rest, hchars, hc⟩ := exists_opens v
  have hstart : skipSpaces ⟨Writer.value v, 0⟩ = ⟨Writer.value v, 0⟩ := by
    rw [hchars, skipSpaces_cons hc.not_space]
  have hvalue := value_append v h (by omega : _ ≤ 2 * (Writer.value v).length + 2)
    (fun _ hnone ↦ nomatch hnone : StopsNumber []) 0
  rw [List.append_nil] at hvalue
  simp only [document, hstart, hvalue]
  cases v.excess? with
  | some digits => rfl
  | none => rfl

end Reader

/-- What was written is read back, unless a whole number has too many digits. -/
theorem read_write (v : Json) (h : v.Distinct) :
    read v.write = Reader.unlessExcess v.excess? v := by
  have hlist : v.write.toList = Writer.value v := String.toList_ofList
  have hread : Reader.document (Writer.value v) = Reader.unlessExcess v.excess? v :=
    Reader.document_value v h
  obtain ⟨c, rest, hchars, hc⟩ := Reader.exists_opens v
  rw [read, hlist]
  split
  · next hmark =>
      rw [hchars] at hmark
      exact absurd (List.cons.inj hmark).1 hc.ne_mark
  · exact hread

end Candlestick.Json
