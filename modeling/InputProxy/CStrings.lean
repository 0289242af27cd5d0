-- C strings as programs handle them: bytes without a NUL, buffers of a fixed
-- size, the lines of a file, decimal numbers.
import Mathlib.Data.List.TakeWhile
import Mathlib.Data.Nat.Digits.Lemmas
import Mathlib.Tactic.NormNum

namespace c_strings

abbrev Bytes := List UInt8

/-- The bytes of an ASCII literal. -/
def ascii (s : String) : Bytes := s.toList.map fun c => c.toNat.toUInt8

@[ext]
structure CString where
  bytes : Bytes
  nul_free : 0 ∉ bytes
deriving DecidableEq

namespace CString

/-- The string that starts where the bytes do, and ends at the first NUL. -/
def of (bytes : Bytes) : CString :=
  ⟨bytes.takeWhile (· ≠ 0), fun h => by simpa using List.mem_takeWhile_imp h⟩

/-- `strlen`. -/
def length (s : CString) : Nat := s.bytes.length

instance : Append CString :=
  ⟨fun s t => ⟨s.bytes ++ t.bytes, by simp [s.nul_free, t.nul_free]⟩⟩

/-- The first bytes of a string. -/
def take (n : Nat) (s : CString) : CString :=
  ⟨s.bytes.take n, fun h => s.nul_free (List.mem_of_mem_take h)⟩

def drop (n : Nat) (s : CString) : CString :=
  ⟨s.bytes.drop n, fun h => s.nul_free (List.mem_of_mem_drop h)⟩

@[simp] theorem bytes_append (s t : CString) : (s ++ t).bytes = s.bytes ++ t.bytes := rfl

@[simp] theorem bytes_take (n : Nat) (s : CString) : (s.take n).bytes = s.bytes.take n := rfl

@[simp] theorem bytes_drop (n : Nat) (s : CString) : (s.drop n).bytes = s.bytes.drop n := rfl

@[simp] theorem length_append (s t : CString) : (s ++ t).length = s.length + t.length :=
  List.length_append

theorem append_right_inj {s t u : CString} : s ++ t = s ++ u ↔ t = u := by
  simp [CString.ext_iff]

theorem append_left_inj {s t u : CString} : s ++ u = t ++ u ↔ s = t := by
  simp [CString.ext_iff]

/-- `strcmp(s, t) <= 0`. -/
def le (s t : CString) : Bool := s.bytes ≤ t.bytes

/-- `strcmp(s, t) < 0`. -/
def Lt (s t : CString) : Prop := s.bytes < t.bytes

/-- What follows the last such byte, which `strrchr` finds. -/
def after_last (b : UInt8) (s : CString) : Option CString :=
  if b ∈ s.bytes then
    some ⟨(s.bytes.reverse.takeWhile (· ≠ b)).reverse, fun h => s.nul_free (by
      exact List.mem_reverse.mp ((List.takeWhile_sublist _).mem (List.mem_reverse.mp h)))⟩
  else none

theorem after_last_append {b : UInt8} (s : CString) {t u : CString} (ht : b ∉ t.bytes)
    (hu : u.bytes = [b]) : after_last b (s ++ u ++ t) = some t := by
  unfold after_last
  rw [if_pos (by simp [hu])]
  refine congrArg some (CString.ext ?_)
  have hall : ∀ x ∈ t.bytes.reverse, decide (x ≠ b) = true := by
    intro x hx
    rw [List.mem_reverse] at hx
    simpa using fun hb : x = b => ht (hb ▸ hx)
  simp only [bytes_append, hu, List.reverse_append, List.reverse_cons, List.reverse_nil,
    List.nil_append, List.singleton_append]
  rw [List.takeWhile_append_of_pos hall, List.takeWhile_cons_of_neg (by simp)]
  simp

/-- The string as text, a character for each byte. -/
def text (s : CString) : String := String.ofList (s.bytes.map fun b => Char.ofNat b.toNat)

theorem toList_text (s : CString) : s.text.toList = s.bytes.map fun b => Char.ofNat b.toNat :=
  String.toList_ofList

theorem toNat_char (b : UInt8) : (Char.ofNat b.toNat).toNat = b.toNat := by
  have hvalid : b.toNat.isValidChar := by
    have := b.toNat_lt
    left
    omega
  unfold Char.ofNat
  rw [dif_pos hvalid]
  rfl

theorem utf8Size_char {b : UInt8} (h : b < 128) : (Char.ofNat b.toNat).utf8Size = 1 := by
  rw [Char.utf8Size_eq_one_iff]
  have hb : b.toNat < 128 := UInt8.lt_iff_toNat_lt.mp h
  have hc : (Char.ofNat b.toNat).toNat ≤ 127 := by
    rw [toNat_char]
    omega
  exact UInt32.le_iff_toNat_le.mpr hc

/-- An ASCII string is as long as its text. -/
theorem utf8ByteSize_text {s : CString} (h : ∀ b ∈ s.bytes, b < 128) :
    s.text.utf8ByteSize = s.length := by
  unfold text length
  revert h
  induction s.bytes with
  | nil => exact fun _ => rfl
  | cons b bytes ih =>
    intro h
    obtain ⟨hb, hbytes⟩ := List.forall_mem_cons.mp h
    have hsize : (String.ofList [Char.ofNat b.toNat]).utf8ByteSize = 1 :=
      String.utf8ByteSize_singleton.trans (utf8Size_char hb)
    rw [List.map_cons, ← List.singleton_append, String.ofList_append, String.utf8ByteSize_append,
      ih hbytes, hsize, List.length_cons, Nat.add_comm]

theorem text_inj {s t : CString} : s.text = t.text ↔ s = t := by
  constructor
  · intro h
    have hmap := String.ofList_injective h
    refine CString.ext (List.map_injective_iff.mpr (fun a b hab => ?_) hmap)
    have := congrArg Char.toNat hab
    rw [toNat_char, toNat_char] at this
    exact UInt8.toNat_inj.mp this
  · rintro rfl
    rfl

end CString

/-- An ASCII literal as a string. -/
def cstr (s : String) : CString := .of (ascii s)

theorem CString.of_bytes (s : CString) : CString.of s.bytes = s := by
  refine CString.ext (List.takeWhile_eq_self_iff.mpr fun b hb => ?_)
  simpa using fun hz : b = 0 => s.nul_free (hz ▸ hb)

theorem ascii_text (s : CString) : ascii s.text = s.bytes := by
  unfold ascii
  rw [CString.toList_text, List.map_map]
  refine (List.map_congr_left fun b _ => ?_).trans (List.map_id s.bytes)
  simp [CString.toNat_char]

theorem cstr_append_text {s : String} (h : 0 ∉ ascii s) (t : CString) :
    cstr (s ++ t.text) = cstr s ++ t := by
  have happend : ascii (s ++ t.text) = ascii s ++ t.bytes := by
    rw [← ascii_text]
    simp [ascii]
  have hs : (cstr s).bytes = ascii s := by
    refine List.takeWhile_eq_self_iff.mpr fun b hb => ?_
    simpa using fun hz : b = 0 => h (hz ▸ hb)
  rw [← CString.of_bytes (cstr s ++ t), CString.bytes_append, hs, ← happend]
  rfl

/-! ## Buffers -/

/-- What `snprintf` leaves in a buffer of `size` bytes, of which one is the NUL. -/
def snprintf (size : Nat) (text : CString) : CString := text.take (size - 1)

theorem snprintf_eq {size : Nat} {text : CString} (h : text.length < size) :
    snprintf size text = text := by
  apply CString.ext
  apply List.take_of_length_le
  unfold CString.length at h
  omega

/-! ## Lines -/

/-- `'\n'`. -/
def newline : UInt8 := 10

/-- The lines of a file as `getline` reads them: each with its newline, which the last may
lack. -/
def lines : Bytes → List Bytes
  | [] => []
  | b :: rest =>
    if b = newline then [b] :: lines rest
    else
      match lines rest with
      | [] => [[b]]
      | line :: later => (b :: line) :: later

/-- `line[length - 1] == '\n'` takes the newline off. -/
def chomp (line : Bytes) : Bytes := if line.getLast? = some newline then line.dropLast else line

@[simp] theorem lines_nil : lines [] = [] := rfl

theorem lines_append {line : Bytes} (h : newline ∉ line) (rest : Bytes) :
    lines (line ++ newline :: rest) = (line ++ [newline]) :: lines rest := by
  induction line with
  | nil => simp [lines]
  | cons b line ih =>
    simp only [List.mem_cons, not_or] at h
    have hb : b ≠ newline := fun hb => h.1 hb.symm
    simp [lines, hb, ih h.2]

/-- Texts that end in a newline are lines, whatever comes after them. -/
theorem lines_flatMap_append {texts : List Bytes} (h : ∀ text ∈ texts, newline ∉ text)
    (rest : Bytes) :
    lines (texts.flatMap (· ++ [newline]) ++ rest) = texts.map (· ++ [newline]) ++ lines rest := by
  induction texts with
  | nil => rfl
  | cons text texts ih =>
    obtain ⟨htext, htexts⟩ := List.forall_mem_cons.mp h
    rw [List.flatMap_cons, List.append_assoc, List.append_assoc, List.singleton_append,
      lines_append htext, ih htexts]
    rfl

theorem lines_flatMap {texts : List Bytes} (h : ∀ text ∈ texts, newline ∉ text) :
    lines (texts.flatMap (· ++ [newline])) = texts.map (· ++ [newline]) := by
  simpa using lines_flatMap_append h []

@[simp] theorem chomp_append_newline (line : Bytes) : chomp (line ++ [newline]) = line := by
  simp [chomp]

theorem mem_of_mem_chomp {b : UInt8} {line : Bytes} (h : b ∈ chomp line) : b ∈ line := by
  unfold chomp at h
  split at h
  · exact List.mem_of_mem_dropLast h
  · exact h

/-! ## Decimal numbers -/

/-- `%u`: the digits of a number, and `0` for zero. -/
def decimal (n : Nat) : Bytes :=
  if n = 0 then [48] else (Nat.digits 10 n).reverse.map fun d => 48 + d.toUInt8

def isdigit (b : UInt8) : Bool := 48 ≤ b ∧ b ≤ 57

/-- The number that `strtoumax` reads from a string of digits, before its bound. -/
def of_decimal (text : Bytes) : Nat := text.foldl (fun value b => value * 10 + (b - 48).toNat) 0

theorem toNat_digit {d : Nat} (h : d < 10) : (48 + d.toUInt8 - 48).toNat = d := by
  rw [show (48 : UInt8) + d.toUInt8 - 48 = d.toUInt8 from by grind]
  exact UInt8.toNat_ofNat_of_lt' (by norm_num; omega)

theorem isdigit_digit {d : Nat} (h : d < 10) : isdigit (48 + d.toUInt8) = true := by
  interval_cases d <;> decide

theorem isdigit_of_mem_decimal {n : Nat} {b : UInt8} (h : b ∈ decimal n) : isdigit b = true := by
  unfold decimal at h
  split at h
  · simp only [List.mem_singleton] at h
    subst h
    decide
  · simp only [List.mem_map, List.mem_reverse] at h
    obtain ⟨d, hd, rfl⟩ := h
    exact isdigit_digit (Nat.digits_lt_base (by norm_num) hd)

/-- The bytes below the digits are in no number. -/
theorem not_mem_decimal {n : Nat} {b : UInt8} (h : b < 48) : b ∉ decimal n := by
  intro hb
  have := isdigit_of_mem_decimal hb
  simp only [isdigit, decide_eq_true_eq] at this
  exact absurd (UInt8.lt_of_lt_of_le h this.1) (UInt8.lt_irrefl b)

theorem decimal_ne_nil (n : Nat) : decimal n ≠ [] := by
  unfold decimal
  split
  · simp
  · rename_i hn
    simpa using Nat.digits_ne_nil_iff_ne_zero.mpr hn

theorem foldl_digits {ds : List Nat} (h : ∀ d ∈ ds, d < 10) :
    of_decimal (ds.reverse.map fun d => 48 + d.toUInt8) = Nat.ofDigits 10 ds := by
  induction ds with
  | nil => rfl
  | cons d ds ih =>
    have hd := toNat_digit (h d (by simp))
    have := ih fun d hd => h d (by simp [hd])
    simp only [of_decimal, List.reverse_cons, List.map_append, List.map_cons, List.map_nil,
      List.foldl_append, List.foldl_cons, List.foldl_nil, hd] at this ⊢
    rw [this, Nat.ofDigits_cons]
    ring

@[simp] theorem of_decimal_decimal (n : Nat) : of_decimal (decimal n) = n := by
  unfold decimal
  split
  · subst n; rfl
  · rw [foldl_digits fun d hd => Nat.digits_lt_base (by norm_num) hd, Nat.ofDigits_digits]

end c_strings
