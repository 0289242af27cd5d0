-- The capability bitmaps of sysfs (src/device_discovery.c): words in hexadecimal,
-- the most significant first. The reader finds in a line the bits that the kernel
-- rendered it from.
import InputProxy.Device
import InputProxy.Numerals
import Mathlib.Data.Finset.Max
import Mathlib.Data.List.DropRight
import Mathlib.Data.List.GetD
import Mathlib.Data.Nat.Bitwise

open c_strings

namespace input_proxy

/-! ## The reader -/

abbrev KEY_POWER : Nat := 116

abbrev KEY_SLEEP : Nat := 142

abbrev KEY_WAKEUP : Nat := 143

/-- The size of an `unsigned long`. -/
inductive MachineWord
  | BITS_32
  | BITS_64
deriving DecidableEq

def MachineWord.bits : MachineWord → Nat
  | BITS_32 => 32
  | BITS_64 => 64

/-- The array has room for 32 words, which are counted from the right. -/
def bitmap_has_bit (w : MachineWord) (bitmap : CString) (bit : Nat) : Bool :=
  if bitmap.length ≥ 1024 then false
  else
    let array := (words isblank bitmap.bytes).take 32
    let word_from_right := bit / w.bits
    let word_bit := bit % w.bits
    if word_from_right ≥ array.length then false
    else
      let c := strtoul w.bits 16 (array.getD (array.length - word_from_right - 1) [])
      if c.range_error ∨ c.rest ≠ [] then false else c.value.testBit word_bit

def bitmap_has_any_bit (w : MachineWord) (bitmap : CString) : Bool :=
  (List.range (KEY_MAX + 1)).any (bitmap_has_bit w bitmap)

/-- The loop over the bits that are left. -/
def only_system_buttons (w : MachineWord) (bitmap : CString) : List Nat → Bool → Bool
  | [], has_system_button => has_system_button
  | bit :: rest, has_system_button =>
    if !bitmap_has_bit w bitmap bit then only_system_buttons w bitmap rest has_system_button
    else if bit ≠ KEY_POWER ∧ bit ≠ KEY_SLEEP ∧ bit ≠ KEY_WAKEUP then false
    else only_system_buttons w bitmap rest true

def bitmap_has_only_system_buttons (w : MachineWord) (bitmap : CString) : Bool :=
  only_system_buttons w bitmap (List.range (KEY_MAX + 1)) false

/-! ## The kernel's line -/

/-- A set of capability bits. -/
structure CapabilityBits where
  bits : Finset Nat
  bound : ∀ bit ∈ bits, bit ≤ KEY_MAX

section line

variable (w : MachineWord) (s : CapabilityBits)

/-- The number of words for the bits up to `KEY_MAX`. -/
def word_count : Nat := (KEY_MAX + w.bits) / w.bits

/-- A word of the bitmap, counted from the least significant. -/
def capability_word (i : Nat) : Nat :=
  Nat.ofBits fun j : Fin w.bits => decide (i * w.bits + j ∈ s.bits)

/-- The words that are written: no leading zeros, but a zero where there is nothing else. -/
def written_words : List Nat :=
  let significant :=
    ((List.range (word_count w)).map (capability_word w s)).reverse.dropWhile (· = 0)
  if significant = [] then [0] else significant

theorem not_mem_hexadecimal {b : UInt8} {n : Nat} (h : b < 48) : b ∉ hexadecimal n := by
  intro hb
  have hdigit := isdigit_of_bounds (isdigit_of_mono (by decide) (isdigit_of_mem_hexadecimal hb))
  exact absurd (UInt8.lt_of_lt_of_le h hdigit.1) (UInt8.lt_irrefl b)

theorem zero_not_mem_line (numbers : List Nat) :
    0 ∉ [32].intercalate (numbers.map hexadecimal) := by
  intro h
  rcases mem_intercalate h with hzero | ⟨text, htext, hzero⟩
  · exact absurd hzero (by decide)
  · obtain ⟨n, -, rfl⟩ := List.mem_map.mp htext
    exact not_mem_hexadecimal (by decide) hzero

/-- Hexadecimal numbers with a space between each two of them. -/
def hexadecimal_line (numbers : List Nat) : CString :=
  ⟨[32].intercalate (numbers.map hexadecimal), zero_not_mem_line numbers⟩

/-- What the kernel writes into the file of the bitmap. -/
def capability_line : CString := hexadecimal_line (written_words w s)

end line

/-! ## The reader inverts the line -/

section reader

variable {w : MachineWord} {s : CapabilityBits} {numbers : List Nat} {bit : Nat}

/-- The reader finds the bit in its word. -/
theorem bitmap_has_bit_line (hcount : numbers.length ≤ 32)
    (hfits : ∀ n ∈ numbers, n < 2 ^ w.bits) :
    bitmap_has_bit w (hexadecimal_line numbers) bit =
      (numbers.reverse.getD (bit / w.bits) 0).testBit (bit % w.bits) := by
  have hwords : words isblank (hexadecimal_line numbers).bytes = numbers.map hexadecimal := by
    refine words_intercalate (by decide) ?_ ?_
    · intro text htext
      obtain ⟨n, -, rfl⟩ := List.mem_map.mp htext
      exact hexadecimal_ne_nil
    · intro text htext c hc
      obtain ⟨n, -, rfl⟩ := List.mem_map.mp htext
      unfold isblank
      refine decide_eq_false ?_
      rintro (rfl | rfl)
      · exact not_mem_hexadecimal (by decide) hc
      · exact not_mem_hexadecimal (by decide) hc
  have hlength : (hexadecimal_line numbers).length < 1024 := by
    have hword : ∀ text ∈ numbers.map hexadecimal, text.length ≤ 16 := by
      intro text htext
      obtain ⟨n, hn, rfl⟩ := List.mem_map.mp htext
      refine length_hexadecimal (by decide) ((hfits n hn).trans_le ?_)
      cases w <;> decide
    have hline := @length_intercalate 32 _ _ hword
    rw [List.length_map] at hline
    change ([32].intercalate (numbers.map hexadecimal)).length < 1024
    omega
  have harray : (numbers.map hexadecimal).take 32 = numbers.map hexadecimal :=
    List.take_of_length_le (by rw [List.length_map]; exact hcount)
  unfold bitmap_has_bit
  rw [if_neg (Nat.not_le.mpr hlength), hwords]
  simp only [harray, List.length_map]
  generalize bit / w.bits = i
  by_cases hin : i < numbers.length
  · have hright : numbers.length - i - 1 < numbers.length := by omega
    have hword : (numbers.map hexadecimal).getD (numbers.length - i - 1) [] =
        hexadecimal (numbers[numbers.length - i - 1]) := by
      rw [List.getD_eq_getElem _ _ (by rw [List.length_map]; exact hright), List.getElem_map]
    have hreverse : numbers.reverse.getD i 0 = numbers[numbers.length - i - 1] := by
      rw [List.getD_eq_getElem _ _ (by rw [List.length_reverse]; exact hin),
        List.getElem_reverse]
      congr 1
      omega
    rw [if_neg (Nat.not_le.mpr hin), hword, hreverse,
      strtoul_hexadecimal (hfits _ (List.getElem_mem hright))]
    simp
  · rw [if_pos (Nat.not_lt.mp hin),
      List.getD_eq_default _ _ (by rw [List.length_reverse]; exact Nat.not_lt.mp hin),
      Nat.zero_testBit]

theorem length_written_words : (written_words w s).length ≤ 32 := by
  have hcount : word_count w ≤ 32 := by cases w <;> decide
  unfold written_words
  dsimp only
  split
  · decide
  · refine (List.dropWhile_sublist _).length_le.trans ?_
    simpa using hcount

theorem written_words_fit {n : Nat} (h : n ∈ written_words w s) : n < 2 ^ w.bits := by
  unfold written_words at h
  dsimp only at h
  split at h
  · rw [List.mem_singleton.mp h]
    exact Nat.two_pow_pos _
  · have hmem := (List.dropWhile_sublist _).mem h
    rw [List.mem_reverse] at hmem
    obtain ⟨i, -, rfl⟩ := List.mem_map.mp hmem
    exact Nat.ofBits_lt_two_pow _

theorem getD_rdropWhile (l : List Nat) (i : Nat) :
    (l.rdropWhile (· = 0)).getD i 0 = l.getD i 0 := by
  induction l using List.reverseRecOn with
  | nil => rfl
  | append_singleton l n ih =>
    rw [List.rdropWhile_concat]
    split
    · rename_i hzero
      rw [ih]
      by_cases hin : i < l.length
      · exact (List.getD_append _ _ _ _ hin).symm
      · rw [List.getD_eq_default _ _ (Nat.not_lt.mp hin),
          List.getD_append_right _ _ _ _ (Nat.not_lt.mp hin), of_decide_eq_true hzero]
        cases i - l.length <;> rfl
    · rfl

/-- The zeros that are left out in front of the line read as zeros. -/
theorem written_words_getD (i : Nat) : (written_words w s).reverse.getD i 0 =
    ((List.range (word_count w)).map (capability_word w s)).getD i 0 := by
  rw [← getD_rdropWhile ((List.range (word_count w)).map (capability_word w s))]
  unfold written_words List.rdropWhile
  dsimp only
  split
  · rename_i hnone
    rw [hnone]
    cases i <;> rfl
  · rfl

theorem capability_line_bit (hbit : bit ≤ KEY_MAX) :
    bitmap_has_bit w (capability_line w s) bit = decide (bit ∈ s.bits) := by
  have hpos : 0 < w.bits := by cases w <;> decide
  have hin : bit / w.bits < word_count w := by
    unfold word_count
    rw [Nat.add_div_right _ hpos]
    exact Nat.lt_succ_of_le (Nat.div_le_div_right hbit)
  unfold capability_line
  rw [bitmap_has_bit_line length_written_words fun _ => written_words_fit, written_words_getD,
    List.getD_eq_getElem _ _ (by simpa using hin), List.getElem_map, List.getElem_range]
  unfold capability_word
  rw [Nat.testBit_ofBits_lt _ _ (Nat.mod_lt _ hpos)]
  simp only [Nat.div_add_mod']

/-- The loop goes through if all bits it finds are system buttons, and it finds one. -/
theorem only_system_buttons_iff {bitmap : CString} {rest : List Nat} {has_system_button : Bool} :
    only_system_buttons w bitmap rest has_system_button = true ↔
      (∀ bit ∈ rest, bitmap_has_bit w bitmap bit = true →
        bit = KEY_POWER ∨ bit = KEY_SLEEP ∨ bit = KEY_WAKEUP) ∧
      (has_system_button = true ∨ ∃ bit ∈ rest, bitmap_has_bit w bitmap bit = true) := by
  induction rest generalizing has_system_button with
  | nil => simp [only_system_buttons]
  | cons bit rest ih =>
    unfold only_system_buttons
    rw [List.forall_mem_cons, List.exists_mem_cons_iff]
    cases hbit : bitmap_has_bit w bitmap bit with
    | false => simp [ih]
    | true =>
      by_cases hbutton : bit = KEY_POWER ∨ bit = KEY_SLEEP ∨ bit = KEY_WAKEUP
      · have hgoes : ¬(bit ≠ KEY_POWER ∧ bit ≠ KEY_SLEEP ∧ bit ≠ KEY_WAKEUP) := by tauto
        simp [hgoes, hbutton, ih]
      · have hfails : bit ≠ KEY_POWER ∧ bit ≠ KEY_SLEEP ∧ bit ≠ KEY_WAKEUP := by tauto
        simp [hfails]

end reader

/-- The reader answers for each bit up to `KEY_MAX` whether the kernel had it in the set, so it
finds a bit exactly in a set with one, and only system buttons exactly in a set of these. -/
theorem the_reader_inverts_the_line (w : MachineWord) (s : CapabilityBits) :
    (∀ bit ≤ KEY_MAX, bitmap_has_bit w (capability_line w s) bit = decide (bit ∈ s.bits)) ∧
    (bitmap_has_any_bit w (capability_line w s) = true ↔ s.bits.Nonempty) ∧
    (bitmap_has_only_system_buttons w (capability_line w s) = true ↔
      s.bits.Nonempty ∧ s.bits ⊆ {KEY_POWER, KEY_SLEEP, KEY_WAKEUP}) := by
  have hread : ∀ bit ≤ KEY_MAX,
      bitmap_has_bit w (capability_line w s) bit = decide (bit ∈ s.bits) :=
    fun bit hbit => capability_line_bit hbit
  have hrange : ∀ bit, bit ∈ List.range (KEY_MAX + 1) ↔ bit ≤ KEY_MAX := by
    intro bit
    rw [List.mem_range]
    omega
  have hfound : (∃ bit ∈ List.range (KEY_MAX + 1),
      bitmap_has_bit w (capability_line w s) bit = true) ↔ s.bits.Nonempty := by
    constructor
    · rintro ⟨bit, hbit, hhas⟩
      rw [hread bit ((hrange bit).mp hbit)] at hhas
      exact ⟨bit, of_decide_eq_true hhas⟩
    · rintro ⟨bit, hbit⟩
      have hbound := s.bound bit hbit
      exact ⟨bit, (hrange bit).mpr hbound, (hread bit hbound).trans (decide_eq_true hbit)⟩
  refine ⟨hread, List.any_eq_true.trans hfound, ?_⟩
  unfold bitmap_has_only_system_buttons
  rw [only_system_buttons_iff, hfound, and_comm, or_iff_right Bool.false_ne_true]
  refine and_congr_right fun _ => ⟨fun h bit hbit => ?_, fun h bit hbit hhas => ?_⟩
  · have hbound := s.bound bit hbit
    have hbutton := h bit ((hrange bit).mpr hbound)
      ((hread bit hbound).trans (decide_eq_true hbit))
    simpa using hbutton
  · rw [hread bit ((hrange bit).mp hbit)] at hhas
    simpa using h (of_decide_eq_true hhas)

/-- The words above the one with the highest bit are left out. -/
example : (capability_line .BITS_64 ⟨{KEY_POWER, KEY_WAKEUP}, by decide⟩).bytes =
    ascii "8000 10000000000000 0" := by decide +kernel

end input_proxy
