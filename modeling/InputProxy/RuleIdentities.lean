-- The identity that a rule is rendered from: what is read of the record and of
-- the id files of a device (src/device_discovery.c), and what fits into the
-- buffers of the identity (src/device_inspection.c).
import InputProxy.RuleRendering
import InputProxy.UdevRecords

open c_strings udev_rules

namespace input_proxy

/-! ## The identity of a device -/

/-- The identity part of `struct input_proxy_device_identity`. -/
structure DeviceIdentity where
  bus_id : CString
  vendor_id : CString
  product_id : CString
  virtual_device : Bool

/-- What `fopen` and `realpath` find in sysfs. -/
structure Sysfs where
  fopen : CString → Option CString
  realpath : CString → Option CString

/-- The first line of a file of the device, as far as it fits. -/
def read_line (sysfs : Sysfs) (event_path relative_path : CString) (value_size : Nat) :
    Option CString :=
  let path := event_path ++ cstr "/device/" ++ relative_path
  if path.length ≥ PATH_MAX then none
  else
    match sysfs.fopen path with
    | none => none
    | some content => (fgets value_size content.bytes).head?.map buffered_line

def is_space (b : UInt8) : Bool := b = 32 ∨ (9 ≤ b ∧ b ≤ 13)

def is_hex_digit (b : UInt8) : Bool := isdigit b ∨ (65 ≤ b ∧ b ≤ 70) ∨ (97 ≤ b ∧ b ≤ 102)

def hex_digit_value (b : UInt8) : Nat :=
  if isdigit b then (b - 48).toNat else if b ≤ 70 then (b - 55).toNat else (b - 87).toNat

def of_hex (text : Bytes) : Nat := text.foldl (fun value b => value * 16 + hex_digit_value b) 0

/-- Without blanks and the sign in front of it. -/
def unsigned_part (text : Bytes) : Bytes :=
  match text.dropWhile is_space with
  | 43 :: rest => rest
  | 45 :: rest => rest
  | rest => rest

/-- Without a `0x` that has a digit after it. -/
def hex_digits : Bytes → Bytes
  | 48 :: x :: d :: rest =>
    if (x = 120 ∨ x = 88) ∧ is_hex_digit d then d :: rest else 48 :: x :: d :: rest
  | text => text

/-- `strtoul` in base 16 sets no error and reads the text to its end. -/
def strtoul_accepts (text : Bytes) : Bool :=
  let digits := hex_digits (unsigned_part text)
  text = [] ∨ (digits ≠ [] ∧ digits.all is_hex_digit ∧ of_hex digits ≤ UINTMAX_MAX)

def read_bus_type (sysfs : Sysfs) (event_path : CString) : Bool :=
  match read_line sysfs event_path (cstr "id/bustype") 16 with
  | none => false
  | some bus => strtoul_accepts bus.bytes

/-- `strstr(canonical_path, "/devices/virtual/input/")`. -/
def is_virtual_input (sysfs : Sysfs) (event_path : CString) : Bool :=
  match sysfs.realpath event_path with
  | none => false
  | some canonical_path => decide (ascii "/devices/virtual/input/" <:+: canonical_path.bytes)

def read_device_identity (sysfs : Sysfs) (event_path : CString) : DeviceIdentity where
  bus_id :=
    match read_line sysfs event_path (cstr "id/bustype") 16 with
    | some bus_id => if read_bus_type sysfs event_path then bus_id else cstr ""
    | none => cstr ""
  vendor_id := (read_line sysfs event_path (cstr "id/vendor") 16).getD (cstr "")
  product_id := (read_line sysfs event_path (cstr "id/product") 16).getD (cstr "")
  virtual_device := is_virtual_input sysfs event_path

/-! ## The identity of a rule -/

def collect_rule_identity (identity : RuleIdentity) (property : CString × CString) :
    RuleIdentity :=
  if property.1 = cstr "ID_VENDOR_ID" then
    { identity with udev_vendor := snprintf 32 property.2 }
  else if property.1 = cstr "ID_MODEL_ID" then
    { identity with udev_model := snprintf 32 property.2 }
  else if property.1 = cstr "ID_PATH" then { identity with path := snprintf 512 property.2 }
  else identity

def rule_identity_add_kernel_identity (identity : RuleIdentity) (device : DeviceIdentity) :
    RuleIdentity :=
  { identity with
    bus := snprintf 16 device.bus_id
    vendor := snprintf 16 device.vendor_id
    product := snprintf 16 device.product_id }

/-- `{0}` -/
def no_identity : RuleIdentity := ⟨cstr "", cstr "", cstr "", cstr "", cstr "", cstr ""⟩

/-- The identity after the handler was called for each property and the device was read. -/
def collected_identity (properties : List (CString × CString)) (device : DeviceIdentity) :
    RuleIdentity :=
  rule_identity_add_kernel_identity (properties.foldl collect_rule_identity no_identity) device

section fields

variable {properties : List (CString × CString)} {device : DeviceIdentity}

/-- The last value of a name. -/
def last_value (name : CString) (properties : List (CString × CString)) : Option CString :=
  (properties.filter (·.1 = name)).getLast?.map Prod.snd

theorem last_value_append (name : CString) (before after : List (CString × CString)) :
    last_value name (before ++ after) = (last_value name after).or (last_value name before) := by
  unfold last_value
  rw [List.filter_append, List.getLast?_append]
  cases (after.filter (·.1 = name)).getLast? <;> rfl

theorem last_value_singleton (name : CString) (property : CString × CString) :
    last_value name [property] = if property.1 = name then some property.2 else none := by
  unfold last_value
  split
  · rename_i h
    simp [h]
  · rename_i h
    simp [h]

theorem last_value_concat (name : CString) (property : CString × CString) :
    last_value name (properties ++ [property]) =
      if property.1 = name then some property.2 else last_value name properties := by
  rw [last_value_append, last_value_singleton]
  split <;> rfl

/-- Each property of the identity holds what fits of the last value of its name. -/
theorem collected_properties (properties : List (CString × CString)) :
    let identity := properties.foldl collect_rule_identity no_identity
    identity.udev_vendor = ((last_value (cstr "ID_VENDOR_ID") properties).map
      (snprintf 32)).getD (cstr "") ∧
    identity.udev_model = ((last_value (cstr "ID_MODEL_ID") properties).map
      (snprintf 32)).getD (cstr "") ∧
    identity.path = ((last_value (cstr "ID_PATH") properties).map
      (snprintf 512)).getD (cstr "") := by
  induction properties using List.reverseRecOn with
  | nil => exact ⟨rfl, rfl, rfl⟩
  | append_singleton properties property ih =>
    obtain ⟨hvendor, hmodel, hpath⟩ := ih
    have hne : cstr "ID_MODEL_ID" ≠ cstr "ID_VENDOR_ID" ∧ cstr "ID_PATH" ≠ cstr "ID_VENDOR_ID" ∧
        cstr "ID_PATH" ≠ cstr "ID_MODEL_ID" := by decide +kernel
    rw [List.foldl_append, List.foldl_cons, List.foldl_nil, last_value_concat, last_value_concat,
      last_value_concat]
    generalize properties.foldl collect_rule_identity no_identity = identity at *
    unfold collect_rule_identity
    split
    · rename_i hname
      rw [if_neg fun h => hne.1 (h.symm.trans hname), if_neg fun h => hne.2.1 (h.symm.trans hname)]
      exact ⟨rfl, hmodel, hpath⟩
    · split
      · rename_i hname
        rw [if_neg fun h => hne.2.2 (h.symm.trans hname)]
        exact ⟨hvendor, rfl, hpath⟩
      · split
        · exact ⟨hvendor, hmodel, rfl⟩
        · exact ⟨hvendor, hmodel, hpath⟩

theorem length_snprintf_lt {size : Nat} (h : 0 < size) (text : CString) :
    (snprintf size text).length < size := by
  have hle : (snprintf size text).length ≤ size - 1 := List.length_take_le ..
  omega

theorem length_snprintf_getD_lt {size : Nat} (h : 0 < size) (text : Option CString) :
    ((text.map (snprintf size)).getD (cstr "")).length < size := by
  cases text with
  | none => exact h
  | some text => exact length_snprintf_lt h text

/-- What is collected fits into the buffers. -/
theorem collected_fits (properties : List (CString × CString)) (device : DeviceIdentity) :
    let identity := collected_identity properties device
    identity.udev_vendor.length < 32 ∧ identity.udev_model.length < 32 ∧
      identity.path.length < 512 ∧ identity.bus.length < 16 ∧ identity.vendor.length < 16 ∧
      identity.product.length < 16 := by
  obtain ⟨hvendor, hmodel, hpath⟩ := collected_properties properties
  unfold collected_identity rule_identity_add_kernel_identity
  dsimp only
  rw [hvendor, hmodel, hpath]
  have h16 : 0 < 16 := by decide
  have h32 : 0 < 32 := by decide
  have h512 : 0 < 512 := by decide
  exact ⟨length_snprintf_getD_lt h32 _, length_snprintf_getD_lt h32 _,
    length_snprintf_getD_lt h512 _, length_snprintf_lt h16 _, length_snprintf_lt h16 _,
    length_snprintf_lt h16 _⟩

/-- The buffers that the collection leaves. -/
def collected_buffers (properties : List (CString × CString)) (device : DeviceIdentity) :
    RuleBuffers where
  toRuleIdentity := collected_identity properties device
  udev_vendor_lt := (collected_fits properties device).1
  udev_model_lt := (collected_fits properties device).2.1
  path_lt := (collected_fits properties device).2.2.1
  bus_lt := (collected_fits properties device).2.2.2.1
  vendor_lt := (collected_fits properties device).2.2.2.2.1
  product_lt := (collected_fits properties device).2.2.2.2.2

end fields

end input_proxy
