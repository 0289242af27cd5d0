-- A neutralization releases exactly what is pressed and ends exactly the
-- contacts that are active. It writes nothing before every query has succeeded,
-- and right after it there is nothing left to write.
import InputProxy.Neutrality
import InputProxy.StateQueries

open programs Program

namespace input_proxy

/-! ## The events -/

/-- The advertised keys that are pressed. -/
def pressed_keys (d : VirtualDevice) : List Nat :=
  (d.capabilities.codes EV_KEY KEY_MAX).filter fun code => d.kernel.key code ≠ 0

/-- The slots with a contact. -/
def active_slots (d : VirtualDevice) : List Nat :=
  if d.capabilities.type_b_multitouch then
    (List.range d.capabilities.slots).filter d.kernel.active
  else []

/-- The releases of these keys. -/
def releases (keys : List Nat) : List InputEvent := keys.map fun code => ⟨EV_KEY, code, 0⟩

/-- The ends of the contacts in these slots: each slot is selected, and then unused. -/
def ends_of_contacts (slots : List Nat) : List InputEvent :=
  slots.flatMap fun slot : Nat => [⟨EV_ABS, ABS_MT_SLOT, slot⟩, ⟨EV_ABS, ABS_MT_TRACKING_ID, -1⟩]

-- A loop over codes must not be run when two lists are compared.
attribute [local irreducible] Capabilities.codes

section events

variable {d : VirtualDevice}

theorem key_releases_eq (d : VirtualDevice) :
    key_releases (key_values d) = releases (pressed_keys d) := by
  unfold key_releases key_values releases pressed_keys
  rw [List.filter_map, List.map_map]
  rfl

theorem contact_ends_eq (d : VirtualDevice) :
    contact_ends (slot_tracking_ids d) = ends_of_contacts (active_slots d) := by
  unfold contact_ends slot_tracking_ids ends_of_contacts active_slots
  split
  · rw [List.filter_map, List.flatMap_map]
    congr 1
    refine List.filter_congr fun slot _ => ?_
    simp [DeviceState.active]
  · rfl

theorem neutralizing_events_eq (d : VirtualDevice) : neutralizing_events d =
    releases (pressed_keys d) ++ ends_of_contacts (active_slots d) ++
      if pressed_keys d = [] ∧ active_slots d = [] then [] else [synchronization_boundary] := by
  have hreleases : releases (pressed_keys d) ≠ [] ↔ pressed_keys d ≠ [] := by
    simp [releases]
  have hends : ends_of_contacts (active_slots d) ≠ [] ↔ active_slots d ≠ [] := by
    cases active_slots d <;> simp [ends_of_contacts]
  unfold neutralizing_events
  rw [key_releases_eq, contact_ends_eq]
  simp only [hreleases, hends]
  by_cases h : pressed_keys d = [] ∧ active_slots d = []
  · rw [if_pos h, if_neg (by simp [h.1, h.2])]
  · rw [if_neg h, if_pos (not_and_or.mp h)]

theorem mem_pressed_keys {code : Nat} : code ∈ pressed_keys d ↔
    d.capabilities.has_event_code EV_KEY code = true ∧ d.kernel.key code ≠ 0 := by
  unfold pressed_keys
  rw [List.mem_filter, decide_eq_true_eq]
  refine and_congr_left fun _ => ⟨fun h => (mem_codes.mp h).2, mem_key_codes⟩

theorem mem_active_slots {slot : Nat} : slot ∈ active_slots d ↔
    d.capabilities.type_b_multitouch = true ∧ slot < d.capabilities.slots ∧
      d.kernel.active slot = true := by
  unfold active_slots
  split
  · rename_i hb
    rw [List.mem_filter, List.mem_range]
    exact (and_iff_right hb).symm
  · rename_i hb
    simp [hb]

end events

/-! ## What the events change -/

namespace DeviceState

variable {c : Capabilities} (st : DeviceState)

theorem applies_releases {keys : List Nat}
    (h : ∀ code ∈ keys, c.has_event_code EV_KEY code = true) :
    st.applies c (releases keys) =
      { st with key := fun k => if k ∈ keys then 0 else st.key k } := by
  induction keys generalizing st with
  | nil => simp [releases]
  | cons code keys ih =>
    obtain ⟨hcode, hkeys⟩ := List.forall_mem_cons.mp h
    have hfirst : st.apply c ⟨EV_KEY, code, 0⟩ =
        { st with key := Function.update st.key code 0 } := by
      simp [apply, hcode]
    change (st.apply c ⟨EV_KEY, code, 0⟩).applies c (releases keys) = _
    rw [hfirst, ih _ hkeys]
    congr 1
    funext k
    by_cases hk : k = code
    · subst hk
      simp
    · simp [hk]

/-- The selection of a slot that the device has. -/
theorem apply_select {slot : Nat} (hhas : c.has_event_code EV_ABS ABS_MT_SLOT = true)
    (hslot : slot < c.slots) :
    st.apply c ⟨EV_ABS, ABS_MT_SLOT, slot⟩ = { st with slot := slot } := by
  unfold apply
  rw [if_neg (by simp [hhas]), if_neg (show EV_ABS ≠ EV_KEY by decide),
    if_neg (show EV_ABS ≠ EV_SW by decide), if_pos rfl, if_pos ⟨by omega, rfl⟩,
    if_pos ⟨by simp, by simpa using hslot⟩]
  rfl

/-- The current slot becomes unused. -/
theorem apply_unused (hhas : c.has_event_code EV_ABS ABS_MT_TRACKING_ID = true)
    (hpos : 0 < c.slots) : st.apply c ⟨EV_ABS, ABS_MT_TRACKING_ID, -1⟩ =
      st.set_slot_value st.slot ABS_MT_TRACKING_ID (-1) := by
  unfold apply
  rw [if_neg (by simp [hhas]), if_neg (by decide), if_neg (by decide), if_pos rfl,
    if_neg (fun h => absurd h.2 (by decide)), if_pos ⟨hpos, rfl⟩]

theorem applies_ends_of_contacts {slots : List Nat} (hb : c.type_b_multitouch = true)
    (h : ∀ slot ∈ slots, slot < c.slots) :
    st.applies c (ends_of_contacts slots) =
      { st with
        slot := slots.getLast?.getD st.slot
        mt := fun j k => if k = ABS_MT_TRACKING_ID ∧ j ∈ slots then -1 else st.mt j k } := by
  obtain ⟨hselect, htracking⟩ := Bool.and_eq_true_iff.mp hb
  induction slots generalizing st with
  | nil => simp [ends_of_contacts]
  | cons slot slots ih =>
    obtain ⟨hslot, hslots⟩ := List.forall_mem_cons.mp h
    change ((st.apply c ⟨EV_ABS, ABS_MT_SLOT, slot⟩).apply c
      ⟨EV_ABS, ABS_MT_TRACKING_ID, -1⟩).applies c (ends_of_contacts slots) = _
    rw [apply_select st hselect hslot, apply_unused _ htracking (by omega), ih _ hslots]
    unfold set_slot_value
    congr 1
    · cases slots <;> simp [List.getLast?_cons]
    · funext j k
      by_cases hk : k = ABS_MT_TRACKING_ID <;> by_cases hj : j = slot <;> simp [hk, hj]

end DeviceState

/-! ## The device after a neutralization -/

/-- All advertised keys are released and all slots unused; everything else but the current slot
is as it was. -/
structure Neutralized (d d' : VirtualDevice) : Prop where
  key : ∀ code, d'.kernel.key code =
    if d.capabilities.has_event_code EV_KEY code then 0 else d.kernel.key code
  inactive : d.capabilities.type_b_multitouch = true → ∀ slot < d.capabilities.slots,
    d'.kernel.active slot = false
  tracking : ∀ slot, d'.kernel.slot_value slot ABS_MT_TRACKING_ID =
    if slot ∈ active_slots d then -1 else d.kernel.slot_value slot ABS_MT_TRACKING_ID
  axes : ∀ slot code, code ≠ ABS_MT_TRACKING_ID →
    d'.kernel.slot_value slot code = d.kernel.slot_value slot code
  abs : d'.kernel.abs = d.kernel.abs
  sw : d'.kernel.sw = d.kernel.sw
  capabilities : d'.capabilities = d.capabilities

section after

variable {d d' : VirtualDevice}

theorem neutralizing_events_kernel (d : VirtualDevice) :
    (d.writes (neutralizing_events d)).kernel =
      { d.kernel with
        key := fun k => if k ∈ pressed_keys d then 0 else d.kernel.key k
        slot := (active_slots d).getLast?.getD d.kernel.slot
        mt := fun j k =>
          if k = ABS_MT_TRACKING_ID ∧ j ∈ active_slots d then -1 else d.kernel.mt j k } := by
  have hreleases := DeviceState.applies_releases d.kernel
    fun code (hcode : code ∈ pressed_keys d) => (mem_pressed_keys.mp hcode).1
  have hboundary : ∀ st : DeviceState, st.applies d.capabilities
      (if pressed_keys d = [] ∧ active_slots d = [] then [] else [synchronization_boundary]) =
        st := by
    intro st
    split
    · rfl
    · rw [DeviceState.applies_cons, apply_boundary, DeviceState.applies_nil]
  rw [VirtualDevice.writes_kernel, neutralizing_events_eq, DeviceState.applies_append,
    DeviceState.applies_append, hboundary, hreleases]
  by_cases hb : d.capabilities.type_b_multitouch = true
  · exact DeviceState.applies_ends_of_contacts _ hb fun slot hslot =>
      (mem_active_slots.mp hslot).2.1
  · have hnone : active_slots d = [] := by
      unfold active_slots
      rw [if_neg hb]
    simp [hnone, ends_of_contacts]

theorem neutralized (d : VirtualDevice) : Neutralized d (d.writes (neutralizing_events d)) := by
  have hkernel := neutralizing_events_kernel d
  have htracking : ∀ slot,
      (d.writes (neutralizing_events d)).kernel.slot_value slot ABS_MT_TRACKING_ID =
        if slot ∈ active_slots d then -1 else d.kernel.slot_value slot ABS_MT_TRACKING_ID := by
    intro slot
    rw [hkernel]
    simp [DeviceState.slot_value]
  refine ⟨fun code => ?_, fun hb slot hslot => ?_, htracking, fun slot code hcode => ?_, ?_, ?_,
    VirtualDevice.writes_capabilities ..⟩
  · rw [hkernel]
    by_cases hhas : d.capabilities.has_event_code EV_KEY code = true
    · by_cases hzero : d.kernel.key code = 0 <;> simp [mem_pressed_keys, hhas, hzero]
    · simp [mem_pressed_keys, hhas]
  · unfold DeviceState.active
    rw [htracking]
    by_cases hactive : d.kernel.active slot = true
    · rw [if_pos (mem_active_slots.mpr ⟨hb, hslot, hactive⟩)]
      rfl
    · rw [if_neg fun h => hactive (mem_active_slots.mp h).2.2]
      simpa [DeviceState.active] using hactive
  · rw [hkernel]
    simp [DeviceState.slot_value, hcode]
  · rw [hkernel]
  · rw [hkernel]

/-- Then there is nothing left to write. -/
theorem Neutralized.again (h : Neutralized d d') : neutralizing_events d' = [] := by
  have hkeys : pressed_keys d' = [] := by
    rw [List.eq_nil_iff_forall_not_mem]
    intro code hcode
    obtain ⟨hhas, hne⟩ := mem_pressed_keys.mp hcode
    rw [h.capabilities] at hhas
    rw [h.key, if_pos hhas] at hne
    exact hne rfl
  have hslots : active_slots d' = [] := by
    rw [List.eq_nil_iff_forall_not_mem]
    intro slot hslot
    obtain ⟨hb, hlt, hactive⟩ := mem_active_slots.mp hslot
    rw [h.capabilities] at hb hlt
    rw [h.inactive hb slot hlt] at hactive
    cases hactive
  rw [neutralizing_events_eq, hkeys, hslots]
  rfl

end after

/-! ## Every neutralization -/

section neutralizations

variable {w : World} {d : VirtualDevice}

/-- The writes reach the virtual device and nothing else. -/
theorem wrote_all_device {m : Moment} (hd : m.session.virtual_device = some d) (cause : Cause)
    (es : List InputEvent) : (m.wrote_all cause es).session =
      { m.session with virtual_device := some (d.writes es) } := by
  rw [Moment.wrote_all_session, hd]
  rfl

/-- What a neutralization comes to: unread, complete, or cut off by a write that failed. -/
theorem virtual_device_neutralize.outcome (hd : w.session.virtual_device = some d) :
    ∃ r w', virtual_device_neutralize w = (some r, w') ∧
      ((¬QueriesSucceed w d ∧ r ≠ .SUCCESS ∧ w'.session = w.session ∧
        w'.history = .neutralized (some d) (some d) r :: w.history) ∨
      ∃ m, QueriesSucceed w d ∧ Wrote .neutralize (neutralizing_events d) w.moment r m ∧
        w'.session = m.session ∧
        w'.history = .neutralized (some d) m.session.virtual_device r :: m.history) := by
  have hwp : wp (fun _ => False) virtual_device_neutralize (fun r w' =>
      (¬QueriesSucceed w d ∧ r ≠ .SUCCESS ∧ w'.session = w.session ∧
        w'.history = .neutralized (some d) (some d) r :: w.history) ∨
      ∃ m, QueriesSucceed w d ∧ Wrote .neutralize (neutralizing_events d) w.moment r m ∧
        w'.session = m.session ∧
        w'.history = .neutralized (some d) m.session.virtual_device r :: m.history) w := by
    unfold virtual_device_neutralize
    simp only [wp_bind, wp_session]
    refine wp_mono (neutralize_device.outcome hd) (fun _ h => h) fun r w1 h1 => ?_
    simp only [wp_record, hd]
    split at h1
    · rename_i hqueries
      exact .inr ⟨w1.moment, hqueries, h1, rfl, rfl⟩
    · rename_i hqueries
      have hsession : w1.session = w.session := congrArg Moment.session h1.2
      have hhistory : w1.history = w.history := congrArg Moment.history h1.2
      refine .inl ⟨hqueries, h1.1, hsession, ?_⟩
      change Action.neutralized (some d) w1.session.virtual_device r :: w1.history = _
      rw [hsession, hd, hhistory]
  exact exists_of_wp hwp

/-- Right after a neutralization another one writes nothing. -/
theorem virtual_device_neutralize.idle (hd : w.session.virtual_device = some d)
    (hnone : neutralizing_events d = []) : ∀ r w', virtual_device_neutralize w = (some r, w') →
      w'.session = w.session ∧
        w'.history = .neutralized (some d) (some d) r :: w.history := by
  intro r w' hrun
  obtain ⟨r', w1, hw1, h⟩ := virtual_device_neutralize.outcome hd
  obtain ⟨rfl, rfl⟩ : r' = r ∧ w1 = w' := by simpa using hw1.symm.trans hrun
  rcases h with ⟨-, -, hsession, hhistory⟩ | ⟨m, -, hwrote, hsession, hhistory⟩
  · exact ⟨hsession, hhistory⟩
  · rw [hnone] at hwrote
    cases hwrote
    refine ⟨hsession, ?_⟩
    rw [hhistory]
    change Action.neutralized (some d) w.session.virtual_device _ :: w.history = _
    rw [hd]

end neutralizations

/-- A neutralization asks for every advertised key and, of a Type-B device, for every slot before
it writes. Where a query fails it gives an error and writes nothing. Otherwise it writes one
release for each pressed key and one end for each active contact, and a boundary if there are
any, up to the first write that fails. When it succeeds, all keys are released and all slots
unused, all else but the current slot is as it was, and another one writes nothing. -/
theorem a_neutralization_is_exact (w : World) (d : VirtualDevice)
    (hd : w.session.virtual_device = some d) :
    let paused := w.session.runtime_state.paused
    let events := releases (pressed_keys d) ++ ends_of_contacts (active_slots d) ++
      if pressed_keys d = [] ∧ active_slots d = [] then [] else [synchronization_boundary]
    ∃ r w', virtual_device_neutralize w = (some r, w') ∧
      (¬QueriesSucceed w d → r ≠ .SUCCESS ∧ w'.session = w.session ∧
        w'.history = .neutralized (some d) (some d) r :: w.history) ∧
      (QueriesSucceed w d →
        (r = .SUCCESS ∧
          w'.session = { w.session with virtual_device := some (d.writes events) } ∧
          w'.history = .neutralized (some d) (some (d.writes events)) r ::
            (written_entries .neutralize paused events ++ w.history)) ∨
        (r = .ERROR_EVENT_WRITE_FAILED ∧ ∃ done e rest, events = done ++ e :: rest ∧
          w'.session = { w.session with virtual_device := some (d.writes done) } ∧
          w'.history = .neutralized (some d) (some (d.writes done)) r ::
            .written .neutralize paused e false ::
            (written_entries .neutralize paused done ++ w.history))) ∧
      (r = .SUCCESS → ∃ d', w'.session.virtual_device = some d' ∧ Neutralized d d' ∧
        ∀ r2 w2, virtual_device_neutralize w' = (some r2, w2) → w2.session = w'.session ∧
          w2.history = .neutralized (some d') (some d') r2 :: w'.history) := by
  intro paused events
  have hevents : neutralizing_events d = events := neutralizing_events_eq d
  have hmoment : w.moment.session.virtual_device = some d := hd
  obtain ⟨r, w', hrun, h⟩ := virtual_device_neutralize.outcome hd
  refine ⟨r, w', hrun, fun hunread => ?_, fun hread => ?_, fun hr => ?_⟩
  · rcases h with ⟨-, h⟩ | ⟨m, hread, -⟩
    · exact h
    · exact absurd hread hunread
  · rcases h with ⟨hunread, -⟩ | ⟨m, -, hwrote, hsession, hhistory⟩
    · exact absurd hread hunread
    rw [hevents] at hwrote
    rcases hwrote.outcome with ⟨hr, rfl⟩ | ⟨hr, done, e, rest, hsplit, rfl⟩
    · rw [wrote_all_device hmoment] at hsession hhistory
      exact .inl ⟨hr, hsession, hhistory⟩
    · rw [Moment.log_session, wrote_all_device hmoment] at hsession hhistory
      exact .inr ⟨hr, done, e, rest, hsplit, hsession, hhistory⟩
  · rcases h with ⟨-, hfail, -⟩ | ⟨m, -, hwrote, hsession, hhistory⟩
    · exact absurd hr hfail
    subst hr
    rw [hwrote.success, wrote_all_device hmoment] at hsession
    have hdevice := congrArg Session.virtual_device hsession
    exact ⟨_, hdevice, neutralized d,
      virtual_device_neutralize.idle hdevice (neutralized d).again⟩

/-- A keyboard whose key is pressed. -/
def pressed_keyboard : VirtualDevice where
  id := 1
  capabilities := keyboard
  kernel := { (default : DeviceState) with key := fun code => if code = KEY_A then 1 else 0 }
  committed := default

def pressed_session : World where
  session :=
    { new_session ⟨"keyboard", 0, 0, true, true, false⟩ with
      virtual_device := some pressed_keyboard }
  history := []
  answers := fun _ => {}
  asked := 0

theorem pressed_session_neutralizes :
    (virtual_device_neutralize pressed_session).1 = some .SUCCESS := by decide +kernel

/-- The key is released. -/
theorem a_pressed_key_is_released : ∃ d',
    (virtual_device_neutralize pressed_session).2.session.virtual_device = some d' ∧
      Neutralized pressed_keyboard d' := by
  obtain ⟨r, w', hrun, -, -, hsuccess⟩ :=
    a_neutralization_is_exact pressed_session pressed_keyboard rfl
  have hr := pressed_session_neutralizes
  rw [hrun] at hr ⊢
  obtain ⟨d', hd', hneutralized, -⟩ := hsuccess (Option.some.inj hr)
  exact ⟨d', hd', hneutralized⟩

end input_proxy
