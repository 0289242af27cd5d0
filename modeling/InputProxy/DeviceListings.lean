-- The listing of the devices (src/device_discovery.c): which event nodes it names, in
-- which order, and what it tells of each. It agrees with an inspection about the node
-- of a device, and leaves out no device of a kind that it knows.
import InputProxy.CapabilityBitmaps
import InputProxy.DeviceInspection
import Mathlib.Data.List.Sort

open c_strings

namespace input_proxy

/-! ## Event nodes -/

def is_event_node_name (name : CString) : Bool :=
  (ascii "event").isPrefixOf name.bytes && decide (name.bytes.drop 5 ≠ []) &&
    (name.bytes.drop 5).all isdigit

/-- `strtoul(d_name + 5, NULL, 10)` -/
def event_index (w : MachineWord) (name : CString) : Nat :=
  (strtoul w.bits 10 (name.bytes.drop 5)).value

/-- The sign of `strcmp`. -/
def strcmp (left right : CString) : Ordering :=
  if left.bytes < right.bytes then .lt else if left = right then .eq else .gt

def compare_event_nodes (w : MachineWord) (left right : CString) : Ordering :=
  if event_index w left < event_index w right then .lt
  else if event_index w left > event_index w right then .gt
  else strcmp left right

/-- `scandir` with `select_event_node` and `compare_event_nodes`. -/
def scan_event_nodes (w : MachineWord) (names : List CString) : List CString :=
  (names.filter is_event_node_name).mergeSort fun left right =>
    compare_event_nodes w left right ≠ .gt

/-! ## What a device is -/

abbrev KEY_ENTER : Nat := 28

abbrev KEY_Z : Nat := 44

abbrev BTN_MOUSE : Nat := 0x110

abbrev BTN_TOOL_PEN : Nat := 0x140

abbrev BTN_TOUCH : Nat := 0x14a

abbrev BTN_STYLUS : Nat := 0x14b

abbrev REL_X : Nat := 0

abbrev REL_Y : Nat := 1

abbrev ABS_X : Nat := 0

abbrev ABS_Y : Nat := 1

abbrev ABS_MT_POSITION_Y : Nat := 0x36

abbrev INPUT_PROP_POINTER : Nat := 0

abbrev INPUT_PROP_DIRECT : Nat := 1

/-- The texts of `classify_device`. -/
inductive Classification
  | Tablet
  | Touchscreen
  | Touchpad
  | Keyboard
  | Mouse
  | Other_input
deriving DecidableEq

def bus_names : List (Nat × CString) :=
  [(0x01, cstr "PCI"), (0x02, cstr "ISA PnP"), (0x03, cstr "USB"), (0x04, cstr "HIL"),
    (0x05, cstr "Bluetooth"), (0x06, cstr "Virtual"), (0x10, cstr "ISA"), (0x11, cstr "i8042"),
    (0x12, cstr "XT"), (0x13, cstr "RS-232"), (0x14, cstr "Gameport"), (0x15, cstr "Parallel"),
    (0x16, cstr "Amiga"), (0x17, cstr "ADB"), (0x18, cstr "I2C"), (0x19, cstr "Host"),
    (0x1a, cstr "GSC"), (0x1b, cstr "Atari"), (0x1c, cstr "SPI"), (0x1d, cstr "RMI"),
    (0x1e, cstr "CEC"), (0x1f, cstr "Intel ISHTP"), (0x20, cstr "AMD SFH"),
    (0x21, cstr "SoundWire")]

def bus_name (bus_type : Nat) : CString := (bus_names.lookup bus_type).getD (cstr "Unknown")

section reading

variable (w : MachineWord) (sysfs : Sysfs) (event_path : CString)

def capability_has_bit (capability : CString) (bit : Nat) : Bool :=
  (read_line sysfs event_path capability 1024).any (bitmap_has_bit w · bit)

def classify_device : Classification :=
  let has := capability_has_bit w sysfs event_path
  let key := has (cstr "capabilities/key")
  let absolute := has (cstr "capabilities/abs")
  let touch := key BTN_TOUCH
  let absolute_position :=
    (absolute ABS_X && absolute ABS_Y) || (absolute ABS_MT_POSITION_X && absolute ABS_MT_POSITION_Y)
  let direct := has (cstr "properties") INPUT_PROP_DIRECT
  let pointer := has (cstr "properties") INPUT_PROP_POINTER
  if key BTN_TOOL_PEN || key BTN_STYLUS then .Tablet
  else if direct && touch && absolute_position then .Touchscreen
  else if pointer && touch && absolute_position then .Touchpad
  else if key KEY_A && key KEY_Z && key KEY_ENTER then .Keyboard
  else if has (cstr "capabilities/rel") REL_X && has (cstr "capabilities/rel") REL_Y &&
      key BTN_MOUSE then .Mouse
  else .Other_input

/-- A file that cannot be read does not rule the device out. -/
def is_plausible_source : Bool :=
  match read_line sysfs event_path (cstr "capabilities/key") 1024,
      read_line sysfs event_path (cstr "capabilities/abs") 1024,
      read_line sysfs event_path (cstr "capabilities/rel") 1024,
      read_line sysfs event_path (cstr "capabilities/sw") 1024 with
  | some key_bitmap, some absolute_bitmap, some relative_bitmap, some _ =>
    if bitmap_has_any_bit w absolute_bitmap || bitmap_has_any_bit w relative_bitmap then true
    else if bitmap_has_any_bit w key_bitmap then !bitmap_has_only_system_buttons w key_bitmap
    else false
  | _, _, _, _ => true

/-- `read_bus_type`, with the type that it stores. -/
def bus_type : Option Nat :=
  match read_line sysfs event_path (cstr "id/bustype") 16 with
  | none => none
  | some bus =>
    let c := strtoul w.bits 16 bus.bytes
    if c.range_error ∨ c.rest ≠ [] then none else some c.value

/-- `struct input_proxy_device_identity`. -/
structure DeviceMetadata extends DeviceIdentity where
  name : CString
  bus : CString
  classification : Classification

/-- `input_proxy_read_device_identity`, all of it. -/
def read_device_metadata : DeviceMetadata where
  name :=
    match read_line sysfs event_path (cstr "name") 256 with
    | some name => if name.bytes = [] then cstr "(unknown)" else name
    | none => cstr "(unknown)"
  bus_id :=
    match read_line sysfs event_path (cstr "id/bustype") 16, bus_type w sysfs event_path with
    | some bus_id, some _ => bus_id
    | _, _ => cstr ""
  bus := ((bus_type w sysfs event_path).map bus_name).getD (cstr "Unknown")
  vendor_id := (read_line sysfs event_path (cstr "id/vendor") 16).getD (cstr "")
  product_id := (read_line sysfs event_path (cstr "id/product") 16).getD (cstr "")
  classification := classify_device w sysfs event_path
  virtual_device := is_virtual_input sysfs event_path

end reading

/-! ## The listing -/

/-- A line: `DEVICE`, and what `TYPE`, `BUS` and `NAME` are printed from. -/
structure DeviceLine where
  devnode : CString
  metadata : DeviceMetadata

def device_line (w : MachineWord) (sysfs : Sysfs) (sysfs_input_path device_path name : CString) :
    Option DeviceLine :=
  let event_path := join sysfs_input_path name
  let devnode := join device_path name
  if event_path.length < PATH_MAX ∧ devnode.length < PATH_MAX ∧
      is_virtual_input sysfs event_path = false ∧ is_plausible_source w sysfs event_path = true then
    some ⟨devnode, read_device_metadata w sysfs event_path⟩
  else none

/-- `input_proxy_list_devices`; the directory gives its entries in any order. -/
def list_devices (w : MachineWord) (sysfs : Sysfs) (readdir : CString → Option (List CString))
    (sysfs_input_path device_path : CString) : Option (List DeviceLine) :=
  (readdir sysfs_input_path).map fun names =>
    (scan_event_nodes w names).filterMap (device_line w sysfs sysfs_input_path device_path)

/-! ## The identity in it -/

section identity

theorem hex_digit_eq (b : UInt8) :
    is_hex_digit b = isdigit_of 16 b ∧
      (is_hex_digit b = true → hex_digit_value b = digit_value b) := by
  have hall : ∀ n < 256, is_hex_digit n.toUInt8 = isdigit_of 16 n.toUInt8 ∧
      (is_hex_digit n.toUInt8 = true → hex_digit_value n.toUInt8 = digit_value n.toUInt8) := by
    decide +kernel
  have hb := hall b.toNat b.toNat_lt
  rwa [show b.toNat.toUInt8 = b from UInt8.ofNat_toNat] at hb

theorem unsigned_part_eq (text : Bytes) :
    unsigned_part text = skip_sign (text.dropWhile isspace) := by
  have hspace : text.dropWhile is_space = text.dropWhile isspace := rfl
  unfold unsigned_part skip_sign
  rw [hspace]
  split
  · rename_i heq
    simp [heq]
  · rename_i heq
    simp [heq]
  · rename_i hplus hminus
    cases hrest : text.dropWhile isspace with
    | nil => rfl
    | cons b rest =>
      refine (if_neg ?_).symm
      rintro (h | h)
      · exact hminus rest (by rw [hrest, Option.some.inj h])
      · exact hplus rest (by rw [hrest, Option.some.inj h])

theorem hex_digits_eq (text : Bytes) : hex_digits text = skip_prefix 16 text := by
  unfold skip_prefix
  split
  · rename_i zero x b rest
    by_cases hzero : zero = 48
    · subst hzero
      simp only [hex_digits, true_and, (hex_digit_eq b).1]
    · unfold hex_digits
      split
      · rename_i heq
        cases heq
        exact absurd rfl hzero
      · simp [hzero]
  · rename_i hshort
    unfold hex_digits
    split
    · exact absurd rfl (hshort _ _ _ _)
    · rfl

/-- A text that is read as a hexadecimal number to its end. -/
theorem strtoul_accepts_iff {text : Bytes} : strtoul_accepts text = true ↔
    (strtoul MachineWord.BITS_64.bits 16 text).range_error = false ∧
      (strtoul MachineWord.BITS_64.bits 16 text).rest = [] := by
  unfold strtoul_accepts strtoul
  rw [unsigned_part_eq, hex_digits_eq]
  dsimp only
  generalize hsubject : skip_prefix 16 (skip_sign (text.dropWhile isspace)) = subject
  have hall : subject.all is_hex_digit = true ↔ subject.dropWhile (isdigit_of 16) = [] := by
    rw [List.dropWhile_eq_nil_iff, List.all_eq_true]
    simp only [hex_digit_eq]
  have happend := @List.takeWhile_append_dropWhile _ (isdigit_of 16) subject
  by_cases hdigits : subject.takeWhile (isdigit_of 16) = []
  · -- nothing is converted
    rw [if_pos hdigits, decide_eq_true_iff]
    simp only [true_and]
    constructor
    · rintro (h | ⟨hne, hhex, -⟩)
      · exact h
      · rw [hdigits, hall.mp hhex] at happend
        exact absurd happend.symm hne
    · exact .inl
  · have htext : text ≠ [] := by
      rintro rfl
      subst hsubject
      exact hdigits rfl
    rw [if_neg hdigits, decide_eq_true_iff, or_iff_right htext]
    by_cases hrest : subject.dropWhile (isdigit_of 16) = []
    · rw [hrest, List.append_nil] at happend
      have hvalue : of_hex subject = of_digits 16 subject := by
        unfold of_hex of_digits
        apply List.foldl_ext
        intro value b hb
        rw [(hex_digit_eq b).2 (List.all_eq_true.mp (hall.mpr hrest) b hb)]
      rw [happend] at hdigits
      rw [happend, hrest, hall, hvalue]
      unfold UINTMAX_MAX MachineWord.bits
      by_cases hlarge : 2 ^ 64 ≤ of_digits 16 subject
      · rw [if_pos hlarge]
        simp only [Bool.true_eq_false, false_and, iff_false, not_and]
        intro _ _
        omega
      · rw [if_neg hlarge]
        split
        · simp [hdigits, hrest]
          omega
        · simp [hdigits, hrest]
          omega
    · rw [hall]
      simp only [hrest, false_and, and_false, false_iff]
      split
      · simp [hrest]
      · split <;> simp [hrest]

theorem read_bus_type_eq (sysfs : Sysfs) (event_path : CString) :
    read_bus_type sysfs event_path = (bus_type .BITS_64 sysfs event_path).isSome := by
  unfold read_bus_type bus_type
  cases read_line sysfs event_path (cstr "id/bustype") 16 with
  | none => rfl
  | some bus =>
    rw [Bool.eq_iff_iff, strtoul_accepts_iff]
    dsimp only
    split
    · rename_i h
      simp only [Option.isSome_none, Bool.false_eq_true, iff_false, not_and]
      intro herror
      exact h.resolve_left (by simp [herror])
    · rename_i h
      simpa using h

/-- Rules are rendered from the identity in it. -/
theorem read_device_metadata_identity (sysfs : Sysfs) (event_path : CString) :
    (read_device_metadata .BITS_64 sysfs event_path).toDeviceIdentity =
      read_device_identity sysfs event_path := by
  unfold read_device_metadata read_device_identity
  rw [read_bus_type_eq]
  cases read_line sysfs event_path (cstr "id/bustype") 16 with
  | none => rfl
  | some bus_id => cases bus_type .BITS_64 sysfs event_path <;> rfl

end identity

/-! ## The order of the nodes -/

section order

variable {w : MachineWord} {left right : CString}

/-- The lower number, or the name that is first where the numbers are equal. -/
def Precedes (w : MachineWord) (left right : CString) : Prop :=
  event_index w left < event_index w right ∨
    event_index w left = event_index w right ∧ left.Lt right

theorem Precedes.trans {middle : CString} (h : Precedes w left middle)
    (h' : Precedes w middle right) : Precedes w left right := by
  rcases h with h | ⟨hindex, h⟩
  · left
    rcases h' with h' | ⟨hindex', -⟩
    · omega
    · omega
  · rcases h' with h' | ⟨hindex', h'⟩
    · left
      omega
    · right
      exact ⟨hindex.trans hindex', List.lt_trans h h'⟩

theorem Precedes.irrefl (name : CString) : ¬Precedes w name name := by
  rintro (h | ⟨-, h⟩)
  · exact Nat.lt_irrefl _ h
  · exact List.lt_irrefl _ h

/-- Two lists in this order with the same names are one. -/
theorem eq_of_precedes {names others : List CString} (h : names.Pairwise (Precedes w))
    (h' : others.Pairwise (Precedes w)) (hperm : names.Perm others) : names = others := by
  have hantisymm : ∀ left right, left ∈ names → right ∈ others → Precedes w left right →
      Precedes w right left → left = right := by
    intro left right _ _ hlt hgt
    exact absurd (hlt.trans hgt) (Precedes.irrefl left)
  exact hperm.eq_of_pairwise hantisymm h h'

theorem precedes_or_eq_or_precedes (w : MachineWord) (left right : CString) :
    Precedes w left right ∨ left = right ∨ Precedes w right left := by
  rcases Nat.lt_trichotomy (event_index w left) (event_index w right) with h | h | h
  · exact .inl (.inl h)
  · by_cases hlt : left.Lt right
    · exact .inl (.inr ⟨h, hlt⟩)
    · rcases List.le_iff_lt_or_eq.mp (List.not_lt.mp hlt) with hgt | heq
      · exact .inr (.inr (.inr ⟨h.symm, hgt⟩))
      · exact .inr (.inl (CString.ext heq.symm))
  · exact .inr (.inr (.inl h))

theorem compare_eq_lt_iff : compare_event_nodes w left right = .lt ↔ Precedes w left right := by
  unfold compare_event_nodes strcmp Precedes CString.Lt
  by_cases hlt : event_index w left < event_index w right
  · simp [hlt]
  · by_cases hgt : event_index w left > event_index w right
    · have hne : event_index w left ≠ event_index w right := by omega
      simp [hlt, hgt, hne]
    · have heq : event_index w left = event_index w right := by omega
      rw [if_neg hlt, if_neg hgt]
      by_cases hbytes : left.bytes < right.bytes
      · simp [hbytes, heq]
      · by_cases hname : left = right
        · simp [hname]
        · simp [hbytes, hname, hlt]

theorem compare_self (name : CString) : compare_event_nodes w name name = .eq := by
  have hbytes : ¬name.bytes < name.bytes := List.lt_irrefl _
  simp [compare_event_nodes, strcmp, hbytes]

theorem compare_eq_gt_iff : compare_event_nodes w left right = .gt ↔ Precedes w right left := by
  constructor
  · intro h
    rcases precedes_or_eq_or_precedes w left right with hlt | rfl | hgt
    · rw [compare_eq_lt_iff.mpr hlt] at h
      cases h
    · rw [compare_self] at h
      cases h
    · exact hgt
  · intro h
    have hlt : compare_event_nodes w left right ≠ .lt := fun hlt =>
      Precedes.irrefl _ (h.trans (compare_eq_lt_iff.mp hlt))
    unfold compare_event_nodes strcmp at hlt ⊢
    rcases h with hindex | ⟨hindex, h⟩
    · simp [hindex, hindex.le]
    · have hne : left ≠ right := by
        rintro rfl
        exact List.lt_irrefl _ h
      have hbytes : ¬left.bytes < right.bytes := List.lt_asymm h
      simp [hindex, hbytes, hne]

/-! ## The order of the listing -/

/-- The sort leaves the nodes in their order, whatever the order of the directory. -/
theorem scan_event_nodes_sorted {names : List CString} (h : names.Nodup) :
    (scan_event_nodes w names).Pairwise (Precedes w) := by
  have hsorted : (scan_event_nodes w names).Pairwise fun left right =>
      decide (compare_event_nodes w left right ≠ .gt) = true := by
    apply List.pairwise_mergeSort
    · intro left middle right hleft hright
      simp only [ne_eq, compare_eq_gt_iff, decide_eq_true_eq] at *
      intro hgt
      rcases precedes_or_eq_or_precedes w left middle with hlt | rfl | hlt
      · exact hright (hgt.trans hlt)
      · exact hright hgt
      · exact hleft hlt
    · intro left right
      simp only [ne_eq, compare_eq_gt_iff, Bool.or_eq_true, decide_eq_true_eq]
      by_cases hlt : Precedes w right left
      · exact .inr fun hgt => Precedes.irrefl _ (hlt.trans hgt)
      · exact .inl hlt
  have hnodup : (scan_event_nodes w names).Nodup :=
    (List.mergeSort_perm _ _).nodup_iff.mpr (h.filter _)
  refine (hsorted.and hnodup).imp fun {left right} hpair => ?_
  obtain ⟨hle, hne⟩ := hpair
  simp only [ne_eq, compare_eq_gt_iff, decide_eq_true_eq] at hle
  rcases precedes_or_eq_or_precedes w left right with hlt | heq | hgt
  · exact hlt
  · exact absurd heq hne
  · exact absurd hgt hle

theorem mem_scan_event_nodes {names : List CString} {name : CString} :
    name ∈ scan_event_nodes w names ↔ name ∈ names ∧ is_event_node_name name = true := by
  unfold scan_event_nodes
  rw [List.mem_mergeSort, List.mem_filter]

/-- Two orders of one directory give one listing. -/
theorem scan_event_nodes_perm {names others : List CString} (hnodup : names.Nodup)
    (h : others.Perm names) : scan_event_nodes w others = scan_event_nodes w names := by
  apply eq_of_precedes
  · exact scan_event_nodes_sorted (h.nodup_iff.mpr hnodup)
  · exact scan_event_nodes_sorted hnodup
  · exact (List.mergeSort_perm _ _).trans ((h.filter _).trans (List.mergeSort_perm _ _).symm)

/-! ## Numbers of nodes -/

/-- `event` and a number, as the kernel names a node. -/
def kernel_node (n : Nat) : CString := cstr "event" ++ decimal_text n

theorem drop_kernel_node (n : Nat) : (kernel_node n).bytes.drop 5 = decimal n := rfl

/-- A digit of `isdigit` has its value also in base 10. -/
theorem digit_value_of_isdigit {b : UInt8} (h : isdigit b = true) :
    digit_value b = (b - 48).toNat ∧ isdigit_of 10 b = true := by
  unfold isdigit at h
  have hbounds : 48 ≤ b ∧ b ≤ 57 := of_decide_eq_true h
  have hvalue : digit_value b = (b - 48).toNat := if_pos hbounds
  refine ⟨hvalue, ?_⟩
  unfold isdigit_of
  rw [hvalue]
  apply decide_eq_true
  have hlow : 48 ≤ b.toNat := UInt8.le_iff_toNat_le.mp hbounds.1
  have hhigh : b.toNat ≤ 57 := UInt8.le_iff_toNat_le.mp hbounds.2
  have hsub : (b - 48).toNat = b.toNat - 48 := UInt8.toNat_sub_of_le b 48 hbounds.1
  omega

theorem of_digits_eq_of_decimal {text : Bytes} (h : ∀ b ∈ text, isdigit b = true) :
    of_digits 10 text = of_decimal text := by
  unfold of_digits of_decimal
  apply List.foldl_ext
  intro value b hb
  rw [(digit_value_of_isdigit (h b hb)).1]

theorem event_index_kernel_node {n : Nat} (h : n < 2 ^ w.bits) :
    event_index w (kernel_node n) = n := by
  have hdigits : ∀ b ∈ decimal n, isdigit_of 10 b = true :=
    fun b hb => (digit_value_of_isdigit (isdigit_of_mem_decimal hb)).2
  let numeral : Numeral 10 (decimal n) :=
    { space := [], sign := [], digits := decimal n, rest := []
      text_eq := by simp
      space_isspace := by simp
      sign_cases := .inl rfl
      digits_ne_nil := decimal_ne_nil n
      digits_isdigit := hdigits
      rest_ends := by simp }
  have hread := @numeral.strtoul_eq w.bits 10 _ (by norm_num) (skip_prefix_of_ne (by norm_num))
  have hvalue : of_digits 10 (decimal n) = n := by
    rw [of_digits_eq_of_decimal fun b hb => isdigit_of_mem_decimal hb, of_decimal_decimal]
  unfold event_index
  rw [drop_kernel_node, hread]
  simp [numeral, hvalue, Nat.not_le.mpr h]

theorem kernel_node_precedes_iff {m n : Nat} (hm : m < 2 ^ w.bits) (hn : n < 2 ^ w.bits) :
    Precedes w (kernel_node m) (kernel_node n) ↔ m < n := by
  unfold Precedes
  rw [event_index_kernel_node hm, event_index_kernel_node hn]
  constructor
  · rintro (h | ⟨rfl, h⟩)
    · exact h
    · exact absurd h (List.lt_irrefl _)
  · exact .inl

end order

/-! ## Kinds of devices -/

section kinds

variable {w : MachineWord} {sysfs : Sysfs} {event_path capability : CString} {bit : Nat}

/-- A key that none of the system buttons has. -/
def OrdinaryKey (bit : Nat) : Prop :=
  bit ≤ KEY_MAX ∧ bit ≠ KEY_POWER ∧ bit ≠ KEY_SLEEP ∧ bit ≠ KEY_WAKEUP

theorem capability_has_bit_iff : capability_has_bit w sysfs event_path capability bit = true ↔
    ∃ bitmap, read_line sysfs event_path capability 1024 = some bitmap ∧
      bitmap_has_bit w bitmap bit = true := by
  unfold capability_has_bit
  cases read_line sysfs event_path capability 1024 <;> simp

/-- Each kind but the last takes an ordinary key. -/
theorem ordinary_key_of_kind (h : classify_device w sysfs event_path ≠ .Other_input) :
    ∃ bit, OrdinaryKey bit ∧
      capability_has_bit w sysfs event_path (cstr "capabilities/key") bit = true := by
  unfold classify_device at h
  dsimp only at h
  by_cases htablet :
      (capability_has_bit w sysfs event_path (cstr "capabilities/key") BTN_TOOL_PEN ||
        capability_has_bit w sysfs event_path (cstr "capabilities/key") BTN_STYLUS) = true
  · rcases Bool.or_eq_true_iff.mp htablet with hkey | hkey
    · exact ⟨BTN_TOOL_PEN, by unfold OrdinaryKey; decide, hkey⟩
    · exact ⟨BTN_STYLUS, by unfold OrdinaryKey; decide, hkey⟩
  by_cases htouch :
      capability_has_bit w sysfs event_path (cstr "capabilities/key") BTN_TOUCH = true
  · exact ⟨BTN_TOUCH, by unfold OrdinaryKey; decide, htouch⟩
  by_cases hletter : capability_has_bit w sysfs event_path (cstr "capabilities/key") KEY_A = true
  · exact ⟨KEY_A, by unfold OrdinaryKey; decide, hletter⟩
  by_cases hbutton :
      capability_has_bit w sysfs event_path (cstr "capabilities/key") BTN_MOUSE = true
  · exact ⟨BTN_MOUSE, by unfold OrdinaryKey; decide, hbutton⟩
  simp [htablet, htouch, hletter, hbutton] at h

theorem bitmap_has_any_bit_iff {bitmap : CString} : bitmap_has_any_bit w bitmap = true ↔
    ∃ bit ≤ KEY_MAX, bitmap_has_bit w bitmap bit = true := by
  unfold bitmap_has_any_bit
  simp

/-- The key bitmap makes a device plausible by an ordinary key. -/
theorem ordinary_key_iff {bitmap : CString} :
    (if bitmap_has_any_bit w bitmap then !bitmap_has_only_system_buttons w bitmap else false) =
        true ↔
      ∃ bit, OrdinaryKey bit ∧ bitmap_has_bit w bitmap bit = true := by
  have honly : bitmap_has_only_system_buttons w bitmap = true ↔ _ := only_system_buttons_iff
  constructor
  · intro h
    by_cases hany : bitmap_has_any_bit w bitmap = true
    · rw [if_pos hany, Bool.not_eq_true', Bool.eq_false_iff, ne_eq, honly] at h
      obtain ⟨bit, hmax, hhas⟩ := bitmap_has_any_bit_iff.mp hany
      have hfound : ∃ bit ∈ List.range (KEY_MAX + 1), bitmap_has_bit w bitmap bit = true :=
        ⟨bit, List.mem_range.mpr (Nat.lt_succ_of_le hmax), hhas⟩
      by_contra hnone
      refine h ⟨fun key hkey hhas => ?_, .inr hfound⟩
      by_contra hordinary
      simp only [not_or] at hordinary
      exact hnone ⟨key, ⟨Nat.le_of_lt_succ (List.mem_range.mp hkey), hordinary⟩, hhas⟩
    · simp [hany] at h
  · rintro ⟨bit, ⟨hmax, hpower, hsleep, hwakeup⟩, hhas⟩
    rw [if_pos (bitmap_has_any_bit_iff.mpr ⟨bit, hmax, hhas⟩), Bool.not_eq_true',
      Bool.eq_false_iff, ne_eq, honly]
    rintro ⟨hbuttons, -⟩
    rcases hbuttons bit (List.mem_range.mpr (Nat.lt_succ_of_le hmax)) hhas with h | h | h
    · exact hpower h
    · exact hsleep h
    · exact hwakeup h

theorem plausible_of_ordinary_key (hbit : OrdinaryKey bit)
    (h : capability_has_bit w sysfs event_path (cstr "capabilities/key") bit = true) :
    is_plausible_source w sysfs event_path = true := by
  obtain ⟨key_bitmap, hkey, hhas⟩ := capability_has_bit_iff.mp h
  unfold is_plausible_source
  rw [hkey]
  split
  · rename_i heq _ _ _
    cases heq
    rw [ordinary_key_iff.mpr ⟨bit, hbit, hhas⟩]
    exact ite_self true
  · rfl

/-- A device of a known kind is plausible, whatever else its files hold. -/
theorem plausible_of_kind (h : classify_device w sysfs event_path ≠ .Other_input) :
    is_plausible_source w sysfs event_path = true := by
  obtain ⟨bit, hbit, hkey⟩ := ordinary_key_of_kind h
  exact plausible_of_ordinary_key hbit hkey

end kinds

/-! ## What is listed -/

/-- The names in a directory, in the order in which it gives them. -/
structure Directory where
  names : List CString
  nodup : names.Nodup

/-- A node that the listing names. -/
structure Listed (w : MachineWord) (sysfs : Sysfs) (sysfs_input_path device_path : CString)
    (name : CString) : Prop where
  event_node : is_event_node_name name = true
  sysfs_room : (join sysfs_input_path name).length < PATH_MAX
  device_room : (join device_path name).length < PATH_MAX
  physical : is_virtual_input sysfs (join sysfs_input_path name) = false
  is_source : is_plausible_source w sysfs (join sysfs_input_path name) = true

section listing

variable {w : MachineWord} {sysfs : Sysfs} {sysfs_input_path device_path name : CString}

instance : Decidable (Listed w sysfs sysfs_input_path device_path name) :=
  decidable_of_iff
    (is_event_node_name name = true ∧ (join sysfs_input_path name).length < PATH_MAX ∧
      (join device_path name).length < PATH_MAX ∧
      is_virtual_input sysfs (join sysfs_input_path name) = false ∧
      is_plausible_source w sysfs (join sysfs_input_path name) = true)
    ⟨fun ⟨h₁, h₂, h₃, h₄, h₅⟩ => ⟨h₁, h₂, h₃, h₄, h₅⟩, fun ⟨h₁, h₂, h₃, h₄, h₅⟩ =>
      ⟨h₁, h₂, h₃, h₄, h₅⟩⟩

/-- The line of a node that is listed. -/
def line_of (w : MachineWord) (sysfs : Sysfs) (sysfs_input_path device_path name : CString) :
    DeviceLine :=
  ⟨join device_path name, read_device_metadata w sysfs (join sysfs_input_path name)⟩

theorem device_line_eq (hname : is_event_node_name name = true) :
    device_line w sysfs sysfs_input_path device_path name =
      if Listed w sysfs sysfs_input_path device_path name then
        some (line_of w sysfs sysfs_input_path device_path name)
      else none := by
  unfold device_line
  dsimp only
  by_cases h : Listed w sysfs sysfs_input_path device_path name
  · rw [if_pos h, if_pos ⟨h.sysfs_room, h.device_room, h.physical, h.is_source⟩]
    rfl
  · rw [if_neg h, if_neg fun hline => h ⟨hname, hline.1, hline.2.1, hline.2.2.1, hline.2.2.2⟩]

/-- The names that the listing shows, in its order. -/
def listed_nodes (w : MachineWord) (sysfs : Sysfs) (sysfs_input_path device_path : CString)
    (names : List CString) : List CString :=
  (scan_event_nodes w names).filter fun name =>
    Listed w sysfs sysfs_input_path device_path name

theorem mem_listed_nodes {names : List CString} :
    name ∈ listed_nodes w sysfs sysfs_input_path device_path names ↔
      name ∈ names ∧ Listed w sysfs sysfs_input_path device_path name := by
  unfold listed_nodes
  rw [List.mem_filter, mem_scan_event_nodes, decide_eq_true_iff, and_assoc]
  exact and_congr_right fun _ => and_iff_right_of_imp Listed.event_node

theorem list_devices_eq (names : List CString) :
    list_devices w sysfs (fun _ => some names) sysfs_input_path device_path =
      some ((listed_nodes w sysfs sysfs_input_path device_path names).map
        (line_of w sysfs sysfs_input_path device_path)) := by
  unfold list_devices listed_nodes
  rw [Option.map_some, ← List.filterMap_eq_map, List.filterMap_filter]
  refine congrArg some (List.filterMap_congr fun name hname => ?_)
  rw [device_line_eq (mem_scan_event_nodes.mp hname).2]
  simp

end listing

/-- The listing has a line for each node that it can name and that is neither virtual nor
implausible, and no other: it goes by the numbers of the nodes, and by the names where a number
stands twice, in whatever order the directory gives them. What it knows the kind of it lists. -/
theorem the_listing_goes_by_the_numbers (w : MachineWord) (sysfs : Sysfs) (directory : Directory)
    (sysfs_input_path device_path : CString) :
    ∃ nodes : List CString, nodes.Pairwise (Precedes w) ∧
      (nodes.Pairwise fun name later => ∀ m < 2 ^ w.bits, ∀ n < 2 ^ w.bits,
        name = kernel_node m → later = kernel_node n → m < n) ∧
      (∀ name, name ∈ nodes ↔
        name ∈ directory.names ∧ Listed w sysfs sysfs_input_path device_path name) ∧
      (∀ names, names.Perm directory.names →
        list_devices w sysfs (fun _ => some names) sysfs_input_path device_path =
          some (nodes.map (line_of w sysfs sysfs_input_path device_path))) ∧
      ∀ name ∈ directory.names, is_event_node_name name = true →
        (join sysfs_input_path name).length < PATH_MAX → (join device_path name).length < PATH_MAX →
        is_virtual_input sysfs (join sysfs_input_path name) = false →
        classify_device w sysfs (join sysfs_input_path name) ≠ .Other_input → name ∈ nodes := by
  have hsorted : (listed_nodes w sysfs sysfs_input_path device_path directory.names).Pairwise
      (Precedes w) := (scan_event_nodes_sorted directory.nodup).filter _
  refine ⟨listed_nodes w sysfs sysfs_input_path device_path directory.names, hsorted,
    ?_, ?_, ?_, ?_⟩
  · apply hsorted.imp
    rintro name later hprecedes m hm n hn rfl rfl
    exact (kernel_node_precedes_iff hm hn).mp hprecedes
  · intro name
    exact mem_listed_nodes
  · intro names hperm
    rw [list_devices_eq]
    unfold listed_nodes
    rw [scan_event_nodes_perm directory.nodup hperm]
  · intro name hname hevent hsysfs hdevice hphysical hkind
    exact mem_listed_nodes.mpr ⟨hname, hevent, hsysfs, hdevice, hphysical, plausible_of_kind hkind⟩

end input_proxy
