-- The virtual device (src/virtual_device.c): its template, the compatibility
-- with a source, creation, writes and the selective neutralization.
import InputProxy.SourceDevice

open programs

namespace input_proxy

/-! ## Compatibility -/

def nullable_strings_equal (left right : Option String) : Bool :=
  match left, right with
  | some left, some right => left == right
  | none, none => true
  | _, _ => false

def absolute_info_equal (left right : Option AbsInfo) : Bool :=
  match left, right with
  | some left, some right =>
    left.minimum == right.minimum && left.maximum == right.maximum &&
      left.fuzz == right.fuzz && left.flat == right.flat &&
      left.resolution == right.resolution
  | none, none => true
  | _, _ => false

/-- One turn of the loop over the codes of a type. -/
def event_code_equal (represented source : Capabilities) (type code : Nat) : Bool :=
  represented.has_event_code type code == source.has_event_code type code &&
    (!source.has_event_code type code ||
      ((type != EV_ABS ||
          absolute_info_equal (represented.get_abs_info code) (source.get_abs_info code)) &&
        (type != EV_REP || represented.repeat_value code == source.repeat_value code)))

/-- One turn of the loop over the types. -/
def event_type_equal (represented source : Capabilities) (type : Nat) : Bool :=
  represented.has_event_type type == source.has_event_type type &&
    match event_type_get_max type with
    | none => true
    | some maximum_code =>
      (List.range (maximum_code + 1)).all (event_code_equal represented source type)

def capabilities_equal (represented source : Capabilities) : Bool :=
  nullable_strings_equal represented.uniq source.uniq &&
    represented.bustype == source.bustype && represented.vendor == source.vendor &&
    represented.product == source.product && represented.version == source.version &&
    (List.range (INPUT_PROP_MAX + 1)).all (fun property =>
      represented.has_property property == source.has_property property) &&
    (List.range (EV_MAX + 1)).all (event_type_equal represented source)

/-! ## The template -/

/-- `libevdev_new`. -/
def libevdev_new : Capabilities where
  uniq := none
  bustype := 0
  vendor := 0
  product := 0
  version := 0
  property := fun _ => false
  event_type := fun _ => false
  event_code := fun _ _ => false
  abs_info := fun _ => ⟨0, 0, 0, 0, 0⟩
  repeat_value := fun _ => 0

def enable_property (c : Capabilities) (property : Nat) : Capabilities :=
  { c with property := fun p => p == property || c.property p }

def enable_event_type (c : Capabilities) (type : Nat) : Capabilities :=
  { c with event_type := fun t => t == type || c.event_type t }

/-- `libevdev_enable_event_code`, with the data that an axis or a repeat setting takes. -/
def enable_event_code (c source : Capabilities) (type code : Nat) : Capabilities :=
  { c with
    event_code := fun t k => (t == type && k == code) || c.event_code t k
    abs_info := fun k => if type = EV_ABS ∧ k = code then source.abs_info k else c.abs_info k
    repeat_value := fun k =>
      if type = EV_REP ∧ k = code then source.repeat_value k else c.repeat_value k }

def copy_event_codes (destination source : Capabilities) (type : Nat) : Capabilities :=
  match event_type_get_max type with
  | none => destination
  | some maximum_code =>
    (source.codes type maximum_code).foldl (fun c code => enable_event_code c source type code)
      destination

def copy_capabilities (destination source : Capabilities) : Capabilities :=
  let properties := (List.range (INPUT_PROP_MAX + 1)).filter source.has_property
  let types := (List.range (EV_MAX + 1)).filter source.has_event_type
  types.foldl (fun c type => copy_event_codes (enable_event_type c type) source type)
    (properties.foldl enable_property destination)

/-- The template of a new device. An allocation that fails on the way gives none. -/
def create_template (source : Capabilities) : Capabilities :=
  copy_capabilities
    { libevdev_new with
      uniq := source.uniq
      bustype := source.bustype
      vendor := source.vendor
      product := source.product
      version := source.version }
    source

/-! ## Creation -/

def virtual_device_create_failed (errno : Errno) : Result :=
  if errno = .ENOMEM then .ERROR_OUT_OF_MEMORY
  else if errno = .ENOENT ∨ errno = .EACCES ∨ errno = .EPERM then .ERROR_UINPUT_UNAVAILABLE
  else .ERROR_VIRTUAL_DEVICE_CREATE_FAILED

/-- The values of a fresh device: no key is pressed, and no contact is active. -/
def fresh_state (st : DeviceState) : DeviceState where
  key := fun _ => 0
  sw := st.sw
  abs := st.abs
  slot := 0
  mt := fun slot code => if code = ABS_MT_TRACKING_ID then -1 else st.mt slot code

def virtual_device_create : M Result := do
  modify_session fun s => { s with virtual_device := none }
  match (← session).source_device with
  | none =>
    record (.create_failed .ERROR_INVALID_ARGUMENT)
    return .ERROR_INVALID_ARGUMENT
  | some source =>
    let a ← ask
    if !a.memory then
      record (.create_failed .ERROR_OUT_OF_MEMORY)
      return .ERROR_OUT_OF_MEMORY
    else
      match a.uinput_errno with
      | some errno =>
        record (.create_failed (virtual_device_create_failed errno))
        return virtual_device_create_failed errno
      | none =>
        let id ← new_id
        modify_session fun s =>
          { s with
            virtual_device := some
              { id
                capabilities := create_template source.evdev.capabilities
                kernel := fresh_state a.fresh
                committed := fresh_state a.fresh } }
        record (.created id)
        return .SUCCESS

def virtual_device_is_compatible : M Bool := do
  let s ← session
  match s.virtual_device, s.source_device with
  | some device, some source =>
    let compatible := capabilities_equal device.capabilities source.evdev.capabilities
    record (.compared device.id compatible)
    return compatible
  | _, _ => return false

/-- `input_proxy_virtual_device_destroy`, for the pointer of the session. -/
def virtual_device_destroy : M Unit := do
  match (← session).virtual_device with
  | none => return
  | some device => record (.destroyed device.id)

/-! ## Writes -/

def virtual_device_write_event (cause : Cause) (event : InputEvent) : M Result := do
  let s ← session
  match s.virtual_device with
  | none => return .ERROR_INVALID_ARGUMENT
  | some device =>
    if (← ask).write then
      modify_session fun s => { s with virtual_device := some (device.write event) }
      record (.written cause s.runtime_state.paused event true)
      return .SUCCESS
    else
      record (.written cause s.runtime_state.paused event false)
      return .ERROR_EVENT_WRITE_FAILED

/-- A loop of writes that stops at the first failure. -/
def write_events (cause : Cause) : List InputEvent → M Result
  | [] => return .SUCCESS
  | event :: rest => do
    let result ← virtual_device_write_event cause event
    if result ≠ .SUCCESS then return result
    else write_events cause rest

/-! ## Neutralization -/

/-- The values of the advertised keys, from the kernel state of the device. -/
def query_keys (device : VirtualDevice) : M (Except Result (List (Nat × Int))) :=
  Program.walk (fun values code => do
      if !(← ask).query then return .error .ERROR_EVENT_READ_FAILED
      return .ok (values ++ [(code, device.kernel.key code)]))
    (device.capabilities.codes EV_KEY KEY_MAX) []

/-- The tracking identifier of every slot. -/
def query_slots (device : VirtualDevice) : M (Except Result (List (Nat × Int))) :=
  Program.walk (fun values slot => do
      if !(← ask).query then return .error .ERROR_EVENT_READ_FAILED
      return .ok (values ++ [(slot, device.kernel.slot_value slot ABS_MT_TRACKING_ID)]))
    (List.range device.capabilities.slots) []

/-- The slot queries of a Type-B device, after its slot count and the table for it. -/
def query_multitouch (device : VirtualDevice) : M (Except Result (List (Nat × Int))) := do
  if !device.capabilities.type_b_multitouch then return .ok []
  else if device.capabilities.get_num_slots ≤ 0 then return .error .ERROR_EVENT_READ_FAILED
  else if !(← ask).memory then return .error .ERROR_OUT_OF_MEMORY
  else query_slots device

/-- The release of each key that is pressed. -/
def key_releases (key_values : List (Nat × Int)) : List InputEvent :=
  (key_values.filter fun key => key.2 ≠ 0).map fun key => ⟨EV_KEY, key.1, 0⟩

/-- The end of each contact that is active. -/
def contact_ends (slot_tracking_ids : List (Nat × Int)) : List InputEvent :=
  (slot_tracking_ids.filter fun slot => ¬ slot.2 < 0).flatMap fun slot =>
    [⟨EV_ABS, ABS_MT_SLOT, slot.1⟩, ⟨EV_ABS, ABS_MT_TRACKING_ID, -1⟩]

/-- The writes of a neutralization whose queries are complete. -/
def write_neutralizing_events (key_values slot_tracking_ids : List (Nat × Int)) : M Result := do
  let result ← write_events .neutralize (key_releases key_values)
  if result ≠ .SUCCESS then return result
  else
    let result ← write_events .neutralize (contact_ends slot_tracking_ids)
    if result ≠ .SUCCESS then return result
    else if key_releases key_values ≠ [] ∨ contact_ends slot_tracking_ids ≠ [] then
      virtual_device_write_event .neutralize synchronization_boundary
    else return .SUCCESS

def neutralize_device : M Result := do
  match (← session).virtual_device with
  | none => return .ERROR_INVALID_ARGUMENT
  | some device =>
    -- the device node, its open and `libevdev_new_from_fd` fail alike
    if !(← ask).query then return .ERROR_EVENT_READ_FAILED
    else
      match ← query_keys device with
      | .error result => return result
      | .ok key_values =>
        match ← query_multitouch device with
        | .error result => return result
        | .ok slot_tracking_ids => write_neutralizing_events key_values slot_tracking_ids

def virtual_device_neutralize : M Result := do
  let before := (← session).virtual_device
  let result ← neutralize_device
  record (.neutralized before (← session).virtual_device result)
  return result

end input_proxy
