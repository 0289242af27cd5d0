-- What a synchronization carries from the source to the virtual device: every
-- key, switch and other axis, the current slot and, slot by slot, the tracking
-- identifier and the axes of an active contact.
import InputProxy.DeviceStates

open programs

namespace input_proxy

/-! ## The captured events -/

/-- The axes that the capture reads for one slot. -/
def captured_axes (evdev : Libevdev) (slot : Nat) : List Nat :=
  ABS_MT_TRACKING_ID ::
    if evdev.state.slot_value slot ABS_MT_TRACKING_ID < 0 then []
    else contact_axes evdev.capabilities

/-- The events of these axes. -/
def axis_events (st : DeviceState) (slot : Nat) (codes : List Nat) : List InputEvent :=
  codes.map fun code => ⟨EV_ABS, code, st.slot_value slot code⟩

theorem slot_events_eq (evdev : Libevdev) (slot : Nat) : slot_events evdev slot =
    ⟨EV_ABS, ABS_MT_SLOT, slot⟩ :: axis_events evdev.state slot (captured_axes evdev slot) := by
  unfold slot_events axis_events captured_axes
  split <;> rfl

theorem mem_contact_axes {c : Capabilities} {code : Nat} : code ∈ contact_axes c ↔
    is_multitouch_axis code = true ∧ code ≠ ABS_MT_TRACKING_ID ∧
      c.has_event_code EV_ABS code = true := by
  have hdrop : (List.range (ABS_MT_TOOL_Y + 1)).drop ABS_MT_TOUCH_MAJOR =
      List.range' ABS_MT_TOUCH_MAJOR (ABS_MT_TOOL_Y + 1 - ABS_MT_TOUCH_MAJOR) := by
    decide
  unfold contact_axes is_multitouch_axis
  rw [hdrop, List.mem_filter, List.mem_range'_1]
  simp only [Bool.and_eq_true, bne_iff_ne, decide_eq_true_eq]
  constructor
  · rintro ⟨⟨h1, h2⟩, h3⟩
    exact ⟨⟨h1, by omega⟩, h3⟩
  · rintro ⟨⟨h1, h2⟩, h3⟩
    exact ⟨⟨h1, by omega⟩, h3⟩

theorem captured_axis_has {evdev : Libevdev} {slot code : Nat}
    (hb : evdev.capabilities.type_b_multitouch = true) (h : code ∈ captured_axes evdev slot) :
    is_multitouch_axis code = true ∧ evdev.capabilities.has_event_code EV_ABS code = true := by
  rcases List.mem_cons.mp h with rfl | h
  · exact ⟨rfl, (Bool.and_eq_true_iff.mp hb).2⟩
  · split at h
    · cases h
    · obtain ⟨h1, _, h3⟩ := mem_contact_axes.mp h
      exact ⟨h1, h3⟩

/-- What an event of a capture can be. -/
def CapturedEvent (s : DeviceState) (e : InputEvent) : Prop :=
  (∃ code, e = ⟨EV_KEY, code, s.key code⟩) ∨ (∃ code, e = ⟨EV_SW, code, s.sw code⟩) ∨
    (∃ code value, e = ⟨EV_ABS, code, value⟩ ∧
      (code ≠ ABS_MT_SLOT → is_multitouch_axis code = false → value = s.abs code)) ∨
    e = synchronization_boundary

theorem value_events_kind {evdev : Libevdev} {type : Nat} {codes : List Nat} {e : InputEvent}
    (ht : type = EV_KEY ∨ type = EV_SW ∨ type = EV_ABS) (h : e ∈ value_events evdev type codes) :
    CapturedEvent evdev.state e := by
  obtain ⟨code, _, rfl⟩ := List.mem_map.mp h
  rcases ht with rfl | rfl | rfl
  · exact .inl ⟨code, rfl⟩
  · exact .inr (.inl ⟨code, rfl⟩)
  · refine .inr (.inr (.inl ⟨code, _, rfl, fun hslot hmt => ?_⟩))
    unfold DeviceState.value
    rw [if_neg (by decide), if_neg (by decide), if_pos rfl, if_neg fun h => hslot h.2,
      if_neg (by simp [hmt])]

theorem multitouch_events_kind {evdev : Libevdev} {e : InputEvent}
    (hb : evdev.capabilities.type_b_multitouch = true) (h : e ∈ multitouch_events evdev) :
    ∃ code value, e = ⟨EV_ABS, code, value⟩ ∧
      (code = ABS_MT_SLOT ∨ is_multitouch_axis code = true) := by
  unfold multitouch_events at h
  rcases List.mem_append.mp h with h | h
  · obtain ⟨slot, _, he⟩ := List.mem_flatMap.mp h
    rw [slot_events_eq] at he
    rcases List.mem_cons.mp he with rfl | he
    · exact ⟨_, _, rfl, .inl rfl⟩
    · obtain ⟨code, hcode, rfl⟩ := List.mem_map.mp he
      exact ⟨_, _, rfl, .inr (captured_axis_has hb hcode).1⟩
  · rw [List.mem_singleton] at h
    exact ⟨_, _, h, .inl rfl⟩

theorem capture_events_kind {evdev : Libevdev} {e : InputEvent}
    (h : e ∈ capture_events evdev ++ [synchronization_boundary]) :
    CapturedEvent evdev.state e := by
  rcases List.mem_append.mp h with h | h
  · unfold capture_events at h
    simp only [List.mem_append] at h
    rcases h with ((h | h) | h) | h
    · exact value_events_kind (.inl rfl) h
    · exact value_events_kind (.inr (.inl rfl)) h
    · exact value_events_kind (.inr (.inr rfl)) h
    · split at h
      · rename_i hb
        obtain ⟨code, value, rfl, hcode⟩ := multitouch_events_kind hb h
        refine .inr (.inr (.inl ⟨code, value, rfl, fun hslot hmt => ?_⟩))
        rcases hcode with hcode | hcode
        · exact absurd hcode hslot
        · rw [hmt] at hcode
          cases hcode
      · cases h
  · exact .inr (.inr (.inr (List.mem_singleton.mp h)))

/-- A captured tracking identifier is valid. -/
theorem capture_events_valid {evdev : Libevdev} {e : InputEvent}
    (h : e ∈ capture_events evdev ++ [synchronization_boundary])
    (hpos : 0 < evdev.capabilities.slots) : e.valid := by
  have hvalues : ∀ {type codes}, e ∈ value_events evdev type codes → e.valid := by
    intro type codes h
    obtain ⟨code, _, rfl⟩ := List.mem_map.mp h
    rintro (rfl : type = EV_ABS) (rfl : code = ABS_MT_TRACKING_ID)
    change -1 ≤ evdev.state.value evdev.capabilities EV_ABS ABS_MT_TRACKING_ID
    have hvalue : evdev.state.value evdev.capabilities EV_ABS ABS_MT_TRACKING_ID =
        evdev.state.slot_value evdev.state.slot ABS_MT_TRACKING_ID := by
      unfold DeviceState.value
      rw [if_neg (by decide), if_neg (by decide), if_pos rfl,
        if_neg fun h => absurd h.2 (by decide), if_pos ⟨hpos, rfl⟩]
      rfl
    rw [hvalue]
    exact evdev.tracked _
  rcases List.mem_append.mp h with h | h
  · unfold capture_events at h
    simp only [List.mem_append] at h
    rcases h with ((h | h) | h) | h
    · exact hvalues h
    · exact hvalues h
    · exact hvalues h
    · split at h
      · unfold multitouch_events at h
        rcases List.mem_append.mp h with h | h
        · obtain ⟨slot, _, he⟩ := List.mem_flatMap.mp h
          rw [slot_events_eq] at he
          rcases List.mem_cons.mp he with rfl | he
          · intro _ hc
            cases hc
          · obtain ⟨code, _, rfl⟩ := List.mem_map.mp he
            rintro _ (rfl : code = ABS_MT_TRACKING_ID)
            exact evdev.tracked slot
        · rw [List.mem_singleton] at h
          subst h
          intro _ hc
          cases hc
      · cases h
  · rw [List.mem_singleton] at h
    subst h
    decide

/-! ## Keys, switches and other axes -/

section values

variable {c : Capabilities} {s st : DeviceState} {e : InputEvent}

/-- A captured event leaves a value that already equals the source's. -/
theorem CapturedEvent.keeps (h : CapturedEvent s e) :
    (∀ k, st.key k = s.key k → (st.apply c e).key k = s.key k) ∧
    (∀ k, st.sw k = s.sw k → (st.apply c e).sw k = s.sw k) ∧
    (∀ k, k ≠ ABS_MT_SLOT → is_multitouch_axis k = false → st.abs k = s.abs k →
      (st.apply c e).abs k = s.abs k) := by
  refine ⟨fun k hk => ?_, fun k hk => ?_, fun k hslot hmt hk => ?_⟩
  · rw [DeviceState.apply_key, hk]
    split_ifs with hc
    · rcases h with ⟨code, rfl⟩ | ⟨code, rfl⟩ | ⟨code, value, rfl, _⟩ | rfl
      · rw [← hc.2.2]
      · cases hc.2.1
      · cases hc.2.1
      · cases hc.2.1
    · rfl
  · rw [DeviceState.apply_sw, hk]
    split_ifs with hc
    · rcases h with ⟨code, rfl⟩ | ⟨code, rfl⟩ | ⟨code, value, rfl, _⟩ | rfl
      · cases hc.2.1
      · rw [← hc.2.2]
      · cases hc.2.1
      · cases hc.2.1
    · rfl
  · rw [DeviceState.apply_abs hslot hmt, hk]
    split_ifs with hc
    · rcases h with ⟨code, rfl⟩ | ⟨code, rfl⟩ | ⟨code, value, rfl, hvalue⟩ | rfl
      · cases hc.2.1
      · cases hc.2.1
      · obtain rfl : code = k := hc.2.2
        exact hvalue hslot hmt
      · cases hc.2.1
    · rfl

end values

/-- The events of a capture reach every key, switch and other axis. -/
theorem capture_reaches {evdev : Libevdev} {code : Nat} :
    (evdev.capabilities.has_event_code EV_KEY code = true →
      ⟨EV_KEY, code, evdev.state.key code⟩ ∈ capture_events evdev) ∧
    (evdev.capabilities.has_event_code EV_SW code = true →
      ⟨EV_SW, code, evdev.state.sw code⟩ ∈ capture_events evdev) ∧
    (evdev.capabilities.has_event_code EV_ABS code = true → code ≠ ABS_MT_SLOT →
      is_multitouch_axis code = false →
      ⟨EV_ABS, code, evdev.state.abs code⟩ ∈ capture_events evdev) := by
  unfold capture_events
  simp only [List.mem_append]
  refine ⟨fun h => ?_, fun h => ?_, fun h hslot hmt => ?_⟩
  · exact .inl (.inl (.inl (List.mem_map.mpr ⟨code, mem_key_codes h, rfl⟩)))
  · have hcode := mem_codes.mpr ⟨has_event_code_le (by decide) rfl h, h⟩
    exact .inl (.inl (.inr (List.mem_map.mpr ⟨code, hcode, rfl⟩)))
  · have hcode := mem_codes.mpr ⟨has_event_code_le (by decide) rfl h, h⟩
    refine .inl (.inr (List.mem_map.mpr ⟨code, ?_, ?_⟩))
    · refine List.mem_filter.mpr ⟨hcode, ?_⟩
      simp [hmt, hslot]
    · unfold DeviceState.value
      rw [if_neg (by decide), if_neg (by decide), if_pos rfl, if_neg fun h => hslot h.2,
        if_neg (by simp [hmt])]

/-! ## Slots -/

section slots

variable {c : Capabilities} {s : DeviceState} {slot : Nat}

/-- The events of some axes of the current slot. -/
theorem apply_axis_events {st : DeviceState} {codes : List Nat} (hpos : 0 < c.slots)
    (hcodes : ∀ code ∈ codes, is_multitouch_axis code = true ∧
      c.has_event_code EV_ABS code = true) (hslot : st.slot = slot) :
    (st.applies c (axis_events s slot codes)).slot = slot ∧
    ∀ j k, is_multitouch_axis k = true →
      (st.applies c (axis_events s slot codes)).mt j k =
        if j = slot ∧ k ∈ codes then s.mt slot k else st.mt j k := by
  induction codes generalizing st with
  | nil => exact ⟨hslot, fun j k _ => by simp [axis_events]⟩
  | cons code codes ih =>
    obtain ⟨⟨hmt, hhas⟩, hrest⟩ := List.forall_mem_cons.mp hcodes
    have hne : code ≠ ABS_MT_SLOT := by
      rintro rfl
      cases hmt
    have hslot' : (st.apply c ⟨EV_ABS, code, s.slot_value slot code⟩).slot = slot := by
      rw [DeviceState.apply_slot, if_neg fun h => hne h.2.2.2.1]
      exact hslot
    obtain ⟨h1, h2⟩ := ih hrest hslot'
    refine ⟨h1, fun j k hk => ?_⟩
    change ((st.apply c ⟨EV_ABS, code, s.slot_value slot code⟩).applies c
      (axis_events s slot codes)).mt j k = _
    rw [h2 j k hk, DeviceState.apply_mt j hk, hslot]
    by_cases hj : j = slot
    · subst hj
      by_cases hkc : code = k
      · subst hkc
        simp [hhas, hpos, DeviceState.slot_value]
      · simp [hkc, Ne.symm hkc]
    · simp [hj]

/-- The selection of a slot leaves the values of all slots alone. -/
theorem apply_slot_event {st : DeviceState} {value : Int} (j : Nat) {k : Nat}
    (hk : is_multitouch_axis k = true) :
    (st.apply c ⟨EV_ABS, ABS_MT_SLOT, value⟩).mt j k = st.mt j k := by
  rw [DeviceState.apply_mt j hk, if_neg]
  rintro ⟨_, _, _, rfl, _⟩
  cases hk

theorem select_slot (st : DeviceState) (hb : c.type_b_multitouch = true) (hslot : slot < c.slots) :
    (st.apply c ⟨EV_ABS, ABS_MT_SLOT, slot⟩).slot = slot := by
  rw [DeviceState.apply_slot, if_pos]
  · rfl
  · exact ⟨(Bool.and_eq_true_iff.mp hb).1, by omega, rfl, rfl, by simp, by simpa using hslot⟩

end slots

theorem apply_boundary {c : Capabilities} {st : DeviceState} :
    st.apply c synchronization_boundary = st := by
  simp [DeviceState.apply, synchronization_boundary]

section capture_slots

variable {c : Capabilities} {evdev : Libevdev} (st : DeviceState)

/-- The events of the first slots: these get what the capture read, the others stay. -/
theorem apply_slot_events (hshape : SameShape c evdev.capabilities)
    (hb : evdev.capabilities.type_b_multitouch = true) {n : Nat} (hn : n ≤ c.slots) (j k : Nat)
    (hk : is_multitouch_axis k = true) :
    (st.applies c ((List.range n).flatMap (slot_events evdev))).mt j k =
      if j < n ∧ k ∈ captured_axes evdev j then evdev.state.mt j k else st.mt j k := by
  induction n with
  | zero => simp
  | succ n ih =>
    have hlt : n < c.slots := by omega
    have hcodes : ∀ code ∈ captured_axes evdev n, is_multitouch_axis code = true ∧
        c.has_event_code EV_ABS code = true := by
      intro code hcode
      obtain ⟨h1, h2⟩ := captured_axis_has hb hcode
      exact ⟨h1, by rw [hshape.code _ _ (.inr (.inr rfl))]; exact h2⟩
    rw [List.range_succ, List.flatMap_append, DeviceState.applies_append]
    simp only [List.flatMap_cons, List.flatMap_nil, List.append_nil]
    rw [slot_events_eq, DeviceState.applies_cons]
    have hselected := select_slot (st.applies c ((List.range n).flatMap (slot_events evdev)))
      (hshape.type_b.trans hb) hlt
    rw [(apply_axis_events (by omega) hcodes hselected).2 j k hk, apply_slot_event j hk,
      ih (by omega)]
    by_cases hj : j = n
    · subst hj
      simp
    · have hlt' : j < n + 1 ↔ j < n := by omega
      simp [hj, hlt']

/-- The events of a capture before its multitouch events leave the slots alone. -/
theorem apply_value_events (c : Capabilities) (evdev : Libevdev) (j : Nat) {k : Nat}
    (hk : is_multitouch_axis k = true) :
    (st.applies c (value_events evdev EV_KEY (evdev.capabilities.codes EV_KEY KEY_MAX) ++
      value_events evdev EV_SW (evdev.capabilities.codes EV_SW SW_MAX) ++
      value_events evdev EV_ABS (absolute_codes evdev.capabilities true))).mt j k = st.mt j k := by
  refine DeviceState.applies_keep (fun st' => st'.mt j k = st.mt j k) (fun e he st' hst => ?_) rfl
  rw [DeviceState.apply_mt j hk, hst, if_neg]
  rintro ⟨_, _, htype, rfl, _⟩
  simp only [List.mem_append] at he
  rcases he with (he | he) | he
  · obtain ⟨code, _, rfl⟩ := List.mem_map.mp he
    cases htype
  · obtain ⟨code, _, rfl⟩ := List.mem_map.mp he
    cases htype
  · obtain ⟨code, hcode, rfl⟩ := List.mem_map.mp he
    have hskip := (List.mem_filter.mp hcode).2
    change is_multitouch_axis code = true at hk
    simp [hk] at hskip

/-- After a capture of a Type-B source: its current slot, and in each slot the captured axes. -/
theorem capture_slots (hshape : SameShape c evdev.capabilities)
    (hb : evdev.capabilities.type_b_multitouch = true) (hpos : 0 < evdev.capabilities.slots) :
    (st.applies c (capture_events evdev ++ [synchronization_boundary])).slot = evdev.state.slot ∧
    ∀ j k, j < evdev.capabilities.slots → is_multitouch_axis k = true →
      (st.applies c (capture_events evdev ++ [synchronization_boundary])).mt j k =
        if k ∈ captured_axes evdev j then evdev.state.mt j k else st.mt j k := by
  have hcurrent : evdev.state.value evdev.capabilities EV_ABS ABS_MT_SLOT = evdev.state.slot := by
    unfold DeviceState.value
    rw [if_neg (by decide), if_neg (by decide), if_pos rfl, if_pos ⟨hpos, rfl⟩]
  have hlt : evdev.state.slot < c.slots := by
    rw [hshape.slots]
    exact evdev.slot_lt hpos
  unfold capture_events multitouch_events
  rw [if_pos hb, hb, hcurrent]
  simp only [DeviceState.applies_append, DeviceState.applies_cons, DeviceState.applies_nil]
  rw [apply_boundary]
  constructor
  · exact select_slot _ (hshape.type_b.trans hb) hlt
  · intro j k hj hk
    have hvalues := apply_value_events st c evdev j hk
    simp only [DeviceState.applies_append] at hvalues
    have hle : evdev.capabilities.slots ≤ c.slots := Nat.le_of_eq hshape.slots.symm
    rw [apply_slot_event j hk, apply_slot_events _ hshape hb hle j k hk, hvalues]
    simp [hj]

end capture_slots

/-- After a synchronization the virtual device mirrors the source. -/
theorem capture_mirrors {d : VirtualDevice} {evdev : Libevdev}
    (hshape : SameShape d.capabilities evdev.capabilities)
    (hpos : evdev.capabilities.type_b_multitouch = true → 0 < evdev.capabilities.slots) :
    Mirrors evdev.capabilities
      (d.writes (capture_events evdev ++ [synchronization_boundary])).kernel evdev.state := by
  rw [VirtualDevice.writes_kernel]
  have hkind : ∀ e ∈ capture_events evdev ++ [synchronization_boundary],
      CapturedEvent evdev.state e := fun e he => capture_events_kind he
  constructor
  · intro code hcode
    refine DeviceState.applies_establish (fun st => st.key code = evdev.state.key code)
      (List.mem_append_left _ (capture_reaches.1 hcode)) (fun st => ?_)
      fun e he st => (hkind e he).keeps.1 code
    rw [DeviceState.apply_key, if_pos ⟨(hshape.code _ _ (.inl rfl)).trans hcode, rfl, rfl⟩]
  · intro code hcode
    refine DeviceState.applies_establish (fun st => st.sw code = evdev.state.sw code)
      (List.mem_append_left _ (capture_reaches.2.1 hcode)) (fun st => ?_)
      fun e he st => (hkind e he).keeps.2.1 code
    rw [DeviceState.apply_sw, if_pos ⟨(hshape.code _ _ (.inr (.inl rfl))).trans hcode, rfl, rfl⟩]
  · intro code hcode hslot hmt
    refine DeviceState.applies_establish (fun st => st.abs code = evdev.state.abs code)
      (List.mem_append_left _ (capture_reaches.2.2 hcode hslot hmt)) (fun st => ?_)
      fun e he st => (hkind e he).keeps.2.2 code hslot hmt
    rw [DeviceState.apply_abs hslot hmt,
      if_pos ⟨(hshape.code _ _ (.inr (.inr rfl))).trans hcode, rfl, rfl⟩]
  · intro hb
    exact (capture_slots _ hshape hb (hpos hb)).1
  · intro hb slot hslot
    have hmt := (capture_slots d.kernel hshape hb (hpos hb)).2 slot ABS_MT_TRACKING_ID
      hslot rfl
    have htracking : ABS_MT_TRACKING_ID ∈ captured_axes evdev slot := List.mem_cons_self ..
    rw [if_pos htracking] at hmt
    exact hmt

end input_proxy
