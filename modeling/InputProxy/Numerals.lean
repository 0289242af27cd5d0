-- Numerals and words in C strings: what `strtoul` reads, sign, prefix and
-- saturation included, the hexadecimal digits of a number, and the words that
-- `strtok_r` gives.
import InputProxy.CStrings

namespace c_strings

/-! ## `strtoul` -/

def isspace (b : UInt8) : Bool := b = 32 ∨ (9 ≤ b ∧ b ≤ 13)

def isblank (b : UInt8) : Bool := b = 32 ∨ b = 9

/-- The value of a digit or of a letter, which no base has as a digit where it is 36. -/
def digit_value (b : UInt8) : Nat :=
  if 48 ≤ b ∧ b ≤ 57 then (b - 48).toNat
  else if 97 ≤ b ∧ b ≤ 122 then (b - 87).toNat
  else if 65 ≤ b ∧ b ≤ 90 then (b - 55).toNat
  else 36

/-- A digit of this base. -/
def isdigit_of (base : Nat) (b : UInt8) : Bool := digit_value b < base

/-- The number that the digits stand for. -/
def of_digits (base : Nat) (digits : Bytes) : Nat :=
  digits.foldl (fun value b => value * base + digit_value b) 0

/-- What a call of `strtoul` returns, leaves in `*endptr`, and whether it sets `ERANGE`. -/
structure Conversion where
  value : Nat
  rest : Bytes
  range_error : Bool

/-- `'-'` or `'+'` -/
def skip_sign (text : Bytes) : Bytes :=
  if text.head? = some 45 ∨ text.head? = some 43 then text.tail else text

/-- `0x` in front of a hexadecimal digit. -/
def skip_prefix (base : Nat) (text : Bytes) : Bytes :=
  match text with
  | zero :: x :: b :: rest =>
    if base = 16 ∧ zero = 48 ∧ (x = 120 ∨ x = 88) ∧ isdigit_of 16 b then b :: rest else text
  | _ => text

/-- `strtoul`, where an `unsigned long` has `bits` bits. Without a digit, nothing is converted;
a number that does not fit gives `ULONG_MAX`, and any other is negated after a minus sign. -/
def strtoul (bits base : Nat) (text : Bytes) : Conversion :=
  let signed := text.dropWhile isspace
  let subject := skip_prefix base (skip_sign signed)
  let digits := subject.takeWhile (isdigit_of base)
  let rest := subject.dropWhile (isdigit_of base)
  if digits = [] then ⟨0, text, false⟩
  else
    let value := of_digits base digits
    if 2 ^ bits ≤ value then ⟨2 ^ bits - 1, rest, true⟩
    else if signed.head? = some 45 then ⟨(2 ^ bits - value) % 2 ^ bits, rest, false⟩
    else ⟨value, rest, false⟩

/-- A text that starts with a number: white space, a sign, digits of the base. -/
structure Numeral (base : Nat) (text : Bytes) where
  space : Bytes
  sign : Bytes
  digits : Bytes
  rest : Bytes
  text_eq : text = space ++ sign ++ digits ++ rest
  space_isspace : ∀ b ∈ space, isspace b = true
  sign_cases : sign = [] ∨ sign = [43] ∨ sign = [45]
  digits_ne_nil : digits ≠ []
  digits_isdigit : ∀ b ∈ digits, isdigit_of base b = true
  rest_ends : ∀ b ∈ rest.head?, isdigit_of base b = false

section strtoul

variable {bits base : Nat} {text : Bytes} {b : UInt8}

theorem isdigit_of_bounds (h : isdigit_of 36 b = true) : 48 ≤ b ∧ b ≤ 122 := by
  unfold isdigit_of digit_value at h
  grind

theorem isdigit_of_mono {base' : Nat} (hbase : base ≤ base') (h : isdigit_of base b = true) :
    isdigit_of base' b = true := by
  unfold isdigit_of at h ⊢
  exact decide_eq_true (Nat.lt_of_lt_of_le (of_decide_eq_true h) hbase)

/-- A digit is neither a sign nor white space. -/
theorem ne_of_isdigit_of (hbase : base ≤ 36) (h : isdigit_of base b = true) :
    b ≠ 43 ∧ b ≠ 45 ∧ isspace b = false := by
  obtain ⟨hlow, hhigh⟩ := isdigit_of_bounds (isdigit_of_mono hbase h)
  unfold isspace
  grind

theorem skip_prefix_of_ne (hbase : base ≠ 16) : skip_prefix base text = text := by
  unfold skip_prefix
  split
  · exact if_neg fun h => hbase h.1
  · rfl

/-- Digits have no `x` among them. -/
theorem skip_prefix_of_digits (h : ∀ b ∈ text, isdigit_of 16 b = true) :
    skip_prefix base text = text := by
  unfold skip_prefix
  split
  · rename_i zero x b rest
    refine if_neg ?_
    rintro ⟨-, -, hx, -⟩
    have hdigit := h x (by simp)
    rcases hx with rfl | rfl <;> exact absurd hdigit (by decide)
  · rfl

namespace Numeral

variable (n : Numeral base text)

theorem first_digit : ∃ first later, n.digits = first :: later ∧ isdigit_of base first = true := by
  obtain ⟨first, later, hdigits⟩ := List.exists_cons_of_ne_nil n.digits_ne_nil
  exact ⟨first, later, hdigits, n.digits_isdigit first (by simp [hdigits])⟩

theorem dropWhile_isspace (hbase : base ≤ 36) :
    text.dropWhile isspace = n.sign ++ n.digits ++ n.rest := by
  obtain ⟨first, later, hdigits, hfirst⟩ := n.first_digit
  have hspace := (ne_of_isdigit_of hbase hfirst).2.2
  conv_lhs => rw [n.text_eq]
  rw [List.append_assoc, List.append_assoc, List.dropWhile_append_of_pos n.space_isspace,
    ← List.append_assoc]
  refine List.dropWhile_eq_self_iff.mpr fun hlength => ?_
  rcases n.sign_cases with hsign | hsign | hsign
  · simpa [hsign, hdigits] using hspace
  · simp [hsign, isspace]
  · simp [hsign, isspace]

theorem takeWhile_digits : (n.digits ++ n.rest).takeWhile (isdigit_of base) = n.digits := by
  rw [List.takeWhile_append_of_pos n.digits_isdigit]
  cases hrest : n.rest with
  | nil => simp
  | cons b rest => simp [n.rest_ends b (by simp [hrest])]

theorem dropWhile_digits : (n.digits ++ n.rest).dropWhile (isdigit_of base) = n.rest := by
  rw [List.dropWhile_append_of_pos n.digits_isdigit]
  cases hrest : n.rest with
  | nil => rfl
  | cons b rest => simp [n.rest_ends b (by simp [hrest])]

/-- The number of a numeral, if it fits, or what minus it is without a sign. -/
theorem strtoul_eq (hbase : base ≤ 36)
    (hskip : skip_prefix base (n.digits ++ n.rest) = n.digits ++ n.rest) :
    strtoul bits base text =
      if 2 ^ bits ≤ of_digits base n.digits then ⟨2 ^ bits - 1, n.rest, true⟩
      else if n.sign = [45] then
        ⟨(2 ^ bits - of_digits base n.digits) % 2 ^ bits, n.rest, false⟩
      else ⟨of_digits base n.digits, n.rest, false⟩ := by
  obtain ⟨first, later, hdigits, hfirst⟩ := n.first_digit
  obtain ⟨hplus, hminus, -⟩ := ne_of_isdigit_of hbase hfirst
  have hhead : (n.digits ++ n.rest).head? = some first := by rw [hdigits]; rfl
  have hnegative : ((n.sign ++ n.digits ++ n.rest).head? = some 45) ↔ n.sign = [45] := by
    rcases n.sign_cases with hsign | hsign | hsign
    · simp [hsign, hhead, hminus]
    · simp [hsign]
    · simp [hsign]
  have hsubject : skip_sign (n.sign ++ n.digits ++ n.rest) = n.digits ++ n.rest := by
    unfold skip_sign
    rcases n.sign_cases with hsign | hsign | hsign
    · simp [hsign, hhead, hminus, hplus]
    · simp [hsign]
    · simp [hsign]
  unfold strtoul
  simp only [n.dropWhile_isspace hbase, hsubject, hskip, n.takeWhile_digits, n.dropWhile_digits,
    if_neg n.digits_ne_nil, hnegative]

end Numeral

/-- The sign is the first byte after the white space, if it is one. -/
theorem Numeral.sign_eq (hbase : base ≤ 36) (n : Numeral base text) :
    n.sign = (text.dropWhile isspace).head?.toList.filter fun b => b = 43 ∨ b = 45 := by
  obtain ⟨first, later, hdigits, hfirst⟩ := n.first_digit
  obtain ⟨hplus, hminus, -⟩ := ne_of_isdigit_of hbase hfirst
  rw [n.dropWhile_isspace hbase]
  rcases n.sign_cases with hsign | hsign | hsign
  · simp [hsign, hdigits, hplus, hminus]
  · simp [hsign]
  · simp [hsign]

/-- Where no number starts, nothing is converted. -/
theorem strtoul_eq_none (hbase : base ≠ 16) (h : IsEmpty (Numeral base text)) :
    strtoul bits base text = ⟨0, text, false⟩ := by
  unfold strtoul
  simp only [skip_prefix_of_ne hbase]
  refine if_pos ?_
  by_contra hdigits
  have hsign : ∃ sign : Bytes, (sign = [] ∨ sign = [43] ∨ sign = [45]) ∧
      text.dropWhile isspace = sign ++ skip_sign (text.dropWhile isspace) := by
    unfold skip_sign
    split
    · rename_i hhead
      cases hsigned : text.dropWhile isspace with
      | nil => simp [hsigned] at hhead
      | cons b signed =>
        refine ⟨[b], ?_, rfl⟩
        simpa [hsigned, or_comm] using hhead
    · exact ⟨[], .inl rfl, rfl⟩
  obtain ⟨sign, hcases, hsigned⟩ := hsign
  exact h.elim
    { space := text.takeWhile isspace
      sign := sign
      digits := (skip_sign (text.dropWhile isspace)).takeWhile (isdigit_of base)
      rest := (skip_sign (text.dropWhile isspace)).dropWhile (isdigit_of base)
      text_eq := by
        rw [List.append_assoc, List.append_assoc, List.takeWhile_append_dropWhile, ← hsigned,
          List.takeWhile_append_dropWhile]
      space_isspace := fun b hb => List.mem_takeWhile_imp hb
      sign_cases := hcases
      digits_ne_nil := hdigits
      digits_isdigit := fun b hb => List.mem_takeWhile_imp hb
      rest_ends := fun b hb => by
        have := List.head?_dropWhile_not (isdigit_of base) (skip_sign (text.dropWhile isspace))
        simpa [Option.mem_def.mp hb] using this }

end strtoul

/-! ## Hexadecimal numbers -/

def digit_char (d : Nat) : UInt8 := if d < 10 then 48 + d.toUInt8 else 87 + d.toUInt8

/-- `%lx`: the digits of a number in lower case, and `0` for zero. -/
def hexadecimal (n : Nat) : Bytes :=
  if n = 0 then [48] else (Nat.digits 16 n).reverse.map digit_char

section hexadecimal

variable {n : Nat} {b : UInt8}

theorem digit_value_digit_char {d : Nat} (h : d < 16) : digit_value (digit_char d) = d := by
  interval_cases d <;> decide

theorem hexadecimal_ne_nil : hexadecimal n ≠ [] := by
  unfold hexadecimal
  split
  · simp
  · rename_i hn
    simpa using Nat.digits_ne_nil_iff_ne_zero.mpr hn

theorem mem_hexadecimal (h : b ∈ hexadecimal n) : ∃ d < 16, b = digit_char d := by
  unfold hexadecimal at h
  split at h
  · exact ⟨0, by norm_num, List.mem_singleton.mp h⟩
  · obtain ⟨d, hd, rfl⟩ := List.mem_map.mp h
    exact ⟨d, Nat.digits_lt_base (by norm_num) (List.mem_reverse.mp hd), rfl⟩

theorem isdigit_of_mem_hexadecimal (h : b ∈ hexadecimal n) : isdigit_of 16 b = true := by
  obtain ⟨d, hd, rfl⟩ := mem_hexadecimal h
  unfold isdigit_of
  rw [digit_value_digit_char hd]
  exact decide_eq_true hd

theorem of_digits_reverse {ds : List Nat} (h : ∀ d ∈ ds, d < 16) :
    of_digits 16 (ds.reverse.map digit_char) = Nat.ofDigits 16 ds := by
  induction ds with
  | nil => rfl
  | cons d ds ih =>
    obtain ⟨hd, hds⟩ := List.forall_mem_cons.mp h
    have hrest := ih hds
    unfold of_digits at hrest ⊢
    rw [List.reverse_cons, List.map_append, List.foldl_append, hrest, Nat.ofDigits_cons,
      List.map_singleton, List.foldl_cons, List.foldl_nil, digit_value_digit_char hd]
    ring

theorem of_digits_hexadecimal : of_digits 16 (hexadecimal n) = n := by
  unfold hexadecimal
  split
  · subst n
    rfl
  · rw [of_digits_reverse fun d hd => Nat.digits_lt_base (by norm_num) hd, Nat.ofDigits_digits]

theorem length_hexadecimal {k : Nat} (hk : 0 < k) (h : n < 16 ^ k) :
    (hexadecimal n).length ≤ k := by
  unfold hexadecimal
  split
  · exact hk
  · rw [List.length_map, List.length_reverse]
    exact (Nat.digits_length_le_iff (by norm_num) n).mpr h

/-- A number that fits is read back. -/
theorem strtoul_hexadecimal {bits : Nat} (h : n < 2 ^ bits) :
    strtoul bits 16 (hexadecimal n) = ⟨n, [], false⟩ := by
  let numeral : Numeral 16 (hexadecimal n) :=
    { space := [], sign := [], digits := hexadecimal n, rest := []
      text_eq := by simp
      space_isspace := by simp
      sign_cases := .inl rfl
      digits_ne_nil := hexadecimal_ne_nil
      digits_isdigit := fun _ => isdigit_of_mem_hexadecimal
      rest_ends := by simp }
  have hskip : skip_prefix 16 (hexadecimal n ++ []) = hexadecimal n ++ [] :=
    skip_prefix_of_digits fun b hb => isdigit_of_mem_hexadecimal (by simpa using hb)
  have hread := @numeral.strtoul_eq bits 16 _ (by norm_num) hskip
  rw [of_digits_hexadecimal, if_neg (Nat.not_le.mpr h)] at hread
  simpa [numeral] using hread

end hexadecimal

/-! ## Words -/

/-- What the calls of `strtok_r` give: the longest pieces without a delimiter, none of them
empty. -/
def words (delimiter : UInt8 → Bool) (text : Bytes) : List Bytes :=
  (text.splitOnP delimiter).filter (· ≠ [])

/-- Texts with a delimiter between each two of them are the words. -/
theorem words_intercalate {delimiter : UInt8 → Bool} {b : UInt8} {texts : List Bytes}
    (hb : delimiter b = true) (hne : ∀ text ∈ texts, text ≠ [])
    (h : ∀ text ∈ texts, ∀ c ∈ text, delimiter c = false) :
    words delimiter ([b].intercalate texts) = texts := by
  induction texts with
  | nil => rfl
  | cons text texts ih =>
    obtain ⟨htext, htexts⟩ := List.forall_mem_cons.mp h
    obtain ⟨hfirst, hothers⟩ := List.forall_mem_cons.mp hne
    cases texts with
    | nil =>
      unfold words
      rw [List.intercalate_singleton, List.splitOnP_eq_singleton htext]
      simp [hfirst]
    | cons next texts =>
      have hrest := ih hothers htexts
      unfold words at hrest ⊢
      rw [List.intercalate_cons_cons, List.append_assoc, List.singleton_append,
        List.splitOnP_append_cons_of_forall_mem htext b hb, List.filter_cons_of_pos (by simpa),
        hrest]

theorem mem_intercalate {b c : UInt8} {texts : List Bytes} (h : c ∈ [b].intercalate texts) :
    c = b ∨ ∃ text ∈ texts, c ∈ text := by
  induction texts with
  | nil => exact absurd h List.not_mem_nil
  | cons text texts ih =>
    cases texts with
    | nil =>
      rw [List.intercalate_singleton] at h
      exact .inr ⟨text, List.mem_cons_self .., h⟩
    | cons next texts =>
      rw [List.intercalate_cons_cons, List.append_assoc, List.mem_append,
        List.singleton_append, List.mem_cons] at h
      rcases h with htext | rfl | hrest
      · exact .inr ⟨text, List.mem_cons_self .., htext⟩
      · exact .inl rfl
      · exact (ih hrest).imp id fun ⟨other, hother, hc⟩ =>
          ⟨other, List.mem_cons_of_mem _ hother, hc⟩

/-- Words and the delimiters between them take no more room than this. -/
theorem length_intercalate {b : UInt8} {texts : List Bytes} {k : Nat}
    (h : ∀ text ∈ texts, text.length ≤ k) :
    ([b].intercalate texts).length ≤ texts.length * (k + 1) := by
  induction texts with
  | nil => simp
  | cons text texts ih =>
    obtain ⟨htext, htexts⟩ := List.forall_mem_cons.mp h
    cases texts with
    | nil =>
      simp
      omega
    | cons next texts =>
      have hrest := ih htexts
      rw [List.intercalate_cons_cons, List.length_append, List.length_append,
        List.length_singleton, List.length_cons, Nat.add_mul]
      omega

end c_strings
