-- Instance names (src/instance_name.c): the one validator, and the abstract
-- socket address that reserves a name.
import InputProxy.CStrings
import InputProxy.Device

open c_strings

namespace input_proxy

def INSTANCE_SOCKET_PREFIX : CString := cstr "input-proxy:"

/-- `sizeof(address.sun_path)`. -/
def SUN_PATH_SIZE : Nat := 108

def is_ascii_letter (byte : UInt8) : Bool :=
  (byte ≥ 65 ∧ byte ≤ 90) ∨ (byte ≥ 97 ∧ byte ≤ 122)

/-- `'_'` -/
abbrev underscore : UInt8 := 95

/-- `'-'` -/
abbrev hyphen : UInt8 := 45

/-- `none` is a null pointer. -/
def instance_name_validate : Option CString → Result
  | none => .ERROR_INVALID_ARGUMENT
  | some name =>
    match name.bytes with
    | [] => .ERROR_INVALID_INSTANCE_NAME
    | first :: rest =>
      if rest.length + 1 > 79 then .ERROR_INVALID_INSTANCE_NAME
      else if !is_ascii_letter first ∧ first ≠ underscore then .ERROR_INVALID_INSTANCE_NAME
      else if rest.any fun byte =>
          !is_ascii_letter byte && !(48 ≤ byte ∧ byte ≤ 57) && byte != underscore &&
            byte != hyphen then .ERROR_INVALID_INSTANCE_NAME
      else .SUCCESS

/-- The address that `input_proxy_instance_name_acquire` binds, or the result of its checks. -/
def instance_name_address (name : Option CString) : Except Result Bytes :=
  match instance_name_validate name, name with
  | .SUCCESS, some name =>
    if INSTANCE_SOCKET_PREFIX.length + name.length > SUN_PATH_SIZE - 1 then
      .error .ERROR_INVALID_ARGUMENT
    else .ok (0 :: (INSTANCE_SOCKET_PREFIX ++ name).bytes)
  | result, _ => .error result

/-! ## Accepted names -/

/-- A name that the validator accepts. -/
structure InstanceName where
  name : CString
  accepted : instance_name_validate (some name) = .SUCCESS

/-- A byte that an accepted name can have. -/
def NameByte (byte : UInt8) : Prop :=
  is_ascii_letter byte = true ∨ (48 ≤ byte ∧ byte ≤ 57) ∨ byte = underscore ∨ byte = hyphen

/-- A byte that an accepted name can start with. -/
def NameStart (byte : UInt8) : Prop := is_ascii_letter byte = true ∨ byte = underscore

theorem NameStart.name_byte {byte : UInt8} (h : NameStart byte) : NameByte byte :=
  h.elim .inl fun h => .inr (.inr (.inl h))

theorem NameByte.lt_128 {byte : UInt8} (h : NameByte byte) : byte < 128 := by
  simp only [NameByte, is_ascii_letter, decide_eq_true_eq] at h
  grind

theorem validate_eq_success_iff (name : CString) :
    instance_name_validate (some name) = .SUCCESS ↔ ∃ first rest, name.bytes = first :: rest ∧
      rest.length < 79 ∧ NameStart first ∧ ∀ byte ∈ rest, NameByte byte := by
  unfold instance_name_validate NameStart NameByte
  cases hname : name.bytes with
  | nil => simp [hname]
  | cons first rest =>
    simp only [hname, List.cons.injEq, existsAndEq, true_and]
    grind

namespace InstanceName

variable (n : InstanceName)

theorem bytes_eq : ∃ first rest, n.name.bytes = first :: rest ∧
    rest.length < 79 ∧ NameStart first ∧ ∀ byte ∈ rest, NameByte byte :=
  (validate_eq_success_iff n.name).mp n.accepted

theorem length_pos : 0 < n.name.length := by
  obtain ⟨first, rest, h, -⟩ := n.bytes_eq
  simp [CString.length, h]

theorem length_le : n.name.length ≤ 79 := by
  obtain ⟨first, rest, h, hlength, -⟩ := n.bytes_eq
  simp only [CString.length, h, List.length_cons]
  omega

theorem name_byte {byte : UInt8} (h : byte ∈ n.name.bytes) : NameByte byte := by
  obtain ⟨first, rest, hbytes, -, hstart, hrest⟩ := n.bytes_eq
  rw [hbytes, List.mem_cons] at h
  rcases h with rfl | h
  · exact hstart.name_byte
  · exact hrest byte h

/-- A byte that no name has. -/
theorem not_mem {byte : UInt8} (h : ¬NameByte byte) : byte ∉ n.name.bytes :=
  fun hb => h (n.name_byte hb)

theorem ext_bytes {n m : InstanceName} (h : n.name.bytes = m.name.bytes) : n = m := by
  cases n
  cases m
  congr
  exact CString.ext h

/-- The address of the socket that reserves the name. -/
def address : Bytes := 0 :: (INSTANCE_SOCKET_PREFIX ++ n.name).bytes

theorem instance_name_address_eq : instance_name_address n.name = .ok n.address := by
  have hprefix : INSTANCE_SOCKET_PREFIX.length = 12 := by decide
  have := n.length_le
  unfold instance_name_address
  rw [n.accepted]
  dsimp only
  rw [if_neg]
  · rfl
  · rw [ hprefix, SUN_PATH_SIZE]
    omega

end InstanceName

/-- `'/'` is in no name, so a name stays inside its directory. -/
theorem not_name_byte_slash : ¬NameByte 47 := by
  simp [NameByte, is_ascii_letter, underscore, hyphen]

/-- `'.'` is in no name, so a suffix starts where it seems to. -/
theorem not_name_byte_dot : ¬NameByte 46 := by
  simp [NameByte, is_ascii_letter, underscore, hyphen]

end input_proxy
