-- Input devices as libevdev and the kernel see them: the results of the
-- proxy's calls, events, capabilities, and the current values of a device.
import Mathlib.Logic.Function.Basic
import Mathlib.Tactic.SplitIfs

namespace input_proxy

/-- `enum input_proxy_result`. -/
inductive Result
  | SUCCESS
  | EVENT_SYNC_REQUIRED
  | EVENT_UNAVAILABLE
  | ERROR_UNKNOWN
  | ERROR_NOT_IMPLEMENTED
  | ERROR_INVALID_ARGUMENT
  | ERROR_INVALID_INSTANCE_NAME
  | ERROR_OUT_OF_MEMORY
  | ERROR_INSTANCE_NAME_OWNED
  | ERROR_INSTANCE_NAME_OWNERSHIP_FAILED
  | ERROR_SOURCE_UNAVAILABLE
  | ERROR_SOURCE_PERMISSION_DENIED
  | ERROR_SOURCE_OPEN_FAILED
  | ERROR_SOURCE_INCOMPATIBLE
  | ERROR_SOURCE_DISCONNECTED
  | ERROR_UINPUT_UNAVAILABLE
  | ERROR_VIRTUAL_DEVICE_CREATE_FAILED
  | ERROR_EVENT_READ_FAILED
  | ERROR_EVENT_WRITE_FAILED
  | ERROR_INTERNAL
deriving DecidableEq, Repr

/-- The values of `errno` that the code tells apart. -/
inductive Errno
  | ENOENT | ENOTDIR | EACCES | EPERM | ENOMEM | EAGAIN | EINTR | ENODEV | ENXIO
  | EEXIST | EALREADY | EINVAL | ENOBUFS | other
deriving DecidableEq, Repr

namespace Errno

/-- The errors of a device that is gone. -/
def device_gone (errno : Errno) : Bool := errno = ENODEV ∨ errno = ENXIO

end Errno

/-! ## Events -/

abbrev EV_SYN : Nat := 0x00
abbrev EV_KEY : Nat := 0x01
abbrev EV_REL : Nat := 0x02
abbrev EV_ABS : Nat := 0x03
abbrev EV_MSC : Nat := 0x04
abbrev EV_SW : Nat := 0x05
abbrev EV_LED : Nat := 0x11
abbrev EV_SND : Nat := 0x12
abbrev EV_REP : Nat := 0x14
abbrev EV_FF : Nat := 0x15
abbrev EV_FF_STATUS : Nat := 0x17
abbrev EV_MAX : Nat := 0x1f
abbrev SYN_REPORT : Nat := 0
abbrev SYN_MAX : Nat := 0x0f
abbrev KEY_A : Nat := 30
abbrev KEY_MAX : Nat := 0x2ff
abbrev REL_MAX : Nat := 0x0f
abbrev MSC_MAX : Nat := 0x07
abbrev SW_MAX : Nat := 0x10
abbrev LED_MAX : Nat := 0x0f
abbrev SND_MAX : Nat := 0x07
abbrev REP_MAX : Nat := 0x01
abbrev FF_MAX : Nat := 0x7f
abbrev FF_STATUS_MAX : Nat := 0x01
abbrev INPUT_PROP_MAX : Nat := 0x1f
abbrev ABS_RESERVED : Nat := 0x2e
abbrev ABS_MT_SLOT : Nat := 0x2f
abbrev ABS_MT_TOUCH_MAJOR : Nat := 0x30
abbrev ABS_MT_POSITION_X : Nat := 0x35
abbrev ABS_MT_TRACKING_ID : Nat := 0x39
abbrev ABS_MT_TOOL_Y : Nat := 0x3d
abbrev ABS_MAX : Nat := 0x3f

/-- `struct input_event`, without its time stamp. -/
structure InputEvent where
  type : Nat
  code : Nat
  value : Int
deriving DecidableEq, Repr

/-- In the kernel's multitouch protocol a tracking identifier is -1 or names a contact. -/
def InputEvent.valid (e : InputEvent) : Prop :=
  e.type = EV_ABS → e.code = ABS_MT_TRACKING_ID → -1 ≤ e.value

instance (e : InputEvent) : Decidable e.valid :=
  inferInstanceAs (Decidable (e.type = EV_ABS → e.code = ABS_MT_TRACKING_ID → -1 ≤ e.value))

/-- An event that libevdev delivers. -/
structure SourceEvent where
  event : InputEvent
  valid : event.valid

/-- The synchronization boundary that ends a frame. -/
def synchronization_boundary : InputEvent := ⟨EV_SYN, SYN_REPORT, 0⟩

def is_multitouch_axis (code : Nat) : Bool :=
  code ≥ ABS_MT_TOUCH_MAJOR && code ≤ ABS_MT_TOOL_Y

/-! ## Capabilities -/

/-- `struct input_absinfo`, without the current value. -/
structure AbsInfo where
  minimum : Int
  maximum : Int
  fuzz : Int
  flat : Int
  resolution : Int
deriving DecidableEq, Repr

/-- What libevdev knows of a device, apart from its current values. -/
structure Capabilities where
  uniq : Option String
  bustype : Nat
  vendor : Nat
  product : Nat
  version : Nat
  property : Nat → Bool
  event_type : Nat → Bool
  event_code : Nat → Nat → Bool
  abs_info : Nat → AbsInfo
  repeat_value : Nat → Int

/-- `libevdev_event_type_get_max`: `none` stands for -1. -/
def event_type_get_max (type : Nat) : Option Nat :=
  if type = EV_SYN then some SYN_MAX
  else if type = EV_KEY then some KEY_MAX
  else if type = EV_REL then some REL_MAX
  else if type = EV_ABS then some ABS_MAX
  else if type = EV_MSC then some MSC_MAX
  else if type = EV_SW then some SW_MAX
  else if type = EV_LED then some LED_MAX
  else if type = EV_SND then some SND_MAX
  else if type = EV_REP then some REP_MAX
  else if type = EV_FF then some FF_MAX
  else if type = EV_FF_STATUS then some FF_STATUS_MAX
  else none

namespace Capabilities

def has_property (c : Capabilities) (property : Nat) : Bool :=
  property ≤ INPUT_PROP_MAX && c.property property

/-- `libevdev_has_event_type`: every device has `EV_SYN`. -/
def has_event_type (c : Capabilities) (type : Nat) : Bool :=
  type == EV_SYN || (type ≤ EV_MAX && c.event_type type)

/-- `libevdev_has_event_code`. -/
def has_event_code (c : Capabilities) (type code : Nat) : Bool :=
  c.has_event_type type && (type == EV_SYN ||
    match event_type_get_max type with
    | none => false
    | some maximum => code ≤ maximum && c.event_code type code)

/-- `libevdev_get_abs_info`: `none` stands for NULL. -/
def get_abs_info (c : Capabilities) (code : Nat) : Option AbsInfo :=
  if c.has_event_code EV_ABS code then some (c.abs_info code) else none

/-- `libevdev_get_num_slots`: -1 for a device without slots. -/
def get_num_slots (c : Capabilities) : Int :=
  if c.has_event_code EV_ABS ABS_MT_SLOT && !c.has_event_code EV_ABS ABS_RESERVED then
    (c.abs_info ABS_MT_SLOT).maximum + 1
  else -1

/-- The number of slots as a loop bound: no turn for a negative number. -/
def slots (c : Capabilities) : Nat := c.get_num_slots.toNat

/-- A Type-B multitouch device. -/
def type_b_multitouch (c : Capabilities) : Bool :=
  c.has_event_code EV_ABS ABS_MT_SLOT && c.has_event_code EV_ABS ABS_MT_TRACKING_ID

/-- The codes that a loop from 0 to `maximum_code` does not skip. -/
def codes (c : Capabilities) (type maximum_code : Nat) : List Nat :=
  (List.range (maximum_code + 1)).filter (c.has_event_code type)

end Capabilities

/-! ## Current values -/

/-- The values of a device: by code, and for multitouch axes by slot and code.
A slot keeps its values while it is inactive. -/
structure DeviceState where
  key : Nat → Int
  sw : Nat → Int
  abs : Nat → Int
  slot : Nat
  mt : Nat → Nat → Int

instance : Inhabited DeviceState :=
  ⟨⟨fun _ => 0, fun _ => 0, fun _ => 0, 0,
    fun _ code => if code = ABS_MT_TRACKING_ID then -1 else 0⟩⟩

namespace DeviceState

def set_slot_value (st : DeviceState) (slot code : Nat) (value : Int) : DeviceState :=
  { st with mt := fun s k => if s = slot ∧ k = code then value else st.mt s k }

/-- One event changes one value. `ABS_MT_SLOT` selects the slot that the later
multitouch axes address, and an event that the device does not have is dropped. -/
def apply (c : Capabilities) (st : DeviceState) (e : InputEvent) : DeviceState :=
  if !c.has_event_code e.type e.code then st
  else if e.type = EV_KEY then { st with key := Function.update st.key e.code e.value }
  else if e.type = EV_SW then { st with sw := Function.update st.sw e.code e.value }
  else if e.type = EV_ABS then
    if 0 < c.slots ∧ e.code = ABS_MT_SLOT then
      if 0 ≤ e.value ∧ e.value.toNat < c.slots then { st with slot := e.value.toNat } else st
    else if 0 < c.slots ∧ is_multitouch_axis e.code then
      st.set_slot_value st.slot e.code e.value
    else { st with abs := Function.update st.abs e.code e.value }
  else st

/-- `libevdev_fetch_event_value` of a code that the device has. -/
def value (c : Capabilities) (st : DeviceState) (type code : Nat) : Int :=
  if type = EV_KEY then st.key code
  else if type = EV_SW then st.sw code
  else if type = EV_ABS then
    if 0 < c.slots ∧ code = ABS_MT_SLOT then st.slot
    else if 0 < c.slots ∧ is_multitouch_axis code then st.mt st.slot code
    else st.abs code
  else 0

/-- `libevdev_fetch_slot_value`. -/
def slot_value (st : DeviceState) (slot code : Nat) : Int := st.mt slot code

/-- The contact of a slot is active. -/
def active (st : DeviceState) (slot : Nat) : Bool := 0 ≤ st.slot_value slot ABS_MT_TRACKING_ID

end DeviceState

namespace DeviceState

/-- The slots hold a contact or are unused. -/
def tracked (st : DeviceState) : Prop := ∀ slot, -1 ≤ st.slot_value slot ABS_MT_TRACKING_ID

end DeviceState

theorem DeviceState.apply_slot_lt {c : Capabilities} {st : DeviceState} (e : InputEvent)
    (h : 0 < c.slots → st.slot < c.slots) : 0 < c.slots → (st.apply c e).slot < c.slots := by
  intro hs
  unfold DeviceState.apply
  split_ifs with _ _ _ _ _ hin
  all_goals first | exact hin.2 | exact h hs

theorem DeviceState.apply_tracked {c : Capabilities} {st : DeviceState} {e : InputEvent}
    (he : 0 < c.slots → e.valid) (h : st.tracked) : (st.apply c e).tracked := by
  intro slot
  have hs := h slot
  unfold DeviceState.apply DeviceState.slot_value at *
  split_ifs with _ _ _ habs _ _ hmt
  all_goals first | exact hs | skip
  simp only [DeviceState.set_slot_value]
  split_ifs with hc
  · exact he hmt.1 habs hc.2.symm
  · exact hs

/-- `struct libevdev` of a source: its capabilities, and the view of its values
that advances with each event that libevdev delivers. -/
structure Libevdev where
  capabilities : Capabilities
  state : DeviceState
  slot_lt : 0 < capabilities.slots → state.slot < capabilities.slots
  tracked : state.tracked

/-- The view after libevdev delivered `e`. -/
def Libevdev.advance (d : Libevdev) (e : SourceEvent) : Libevdev where
  capabilities := d.capabilities
  state := d.state.apply d.capabilities e.event
  slot_lt := DeviceState.apply_slot_lt e.event d.slot_lt
  tracked := DeviceState.apply_tracked (fun _ => e.valid) d.tracked

end input_proxy
