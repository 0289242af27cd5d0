-- A synchronization brings the virtual device to the state of the source from
-- whatever state it was in, and does nothing when it is repeated. A capture
-- that fails anywhere gives no events, so that nothing is written.
import InputProxy.Contacts
import InputProxy.Neutrality
import InputProxy.StateQueries

open programs Program

namespace input_proxy

/-! ## Changes that settle -/

/-- After the change, the value is one that the change gives, or it is as it was. -/
def Settles {β : Type} (change : DeviceState → DeviceState) (value : DeviceState → β) : Prop :=
  (∃ b, ∀ st, value (change st) = b) ∨ ∀ st, value (change st) = value st

/-- Every value settles. -/
structure SettlesAll (change : DeviceState → DeviceState) : Prop where
  key : ∀ k, Settles change (·.key k)
  sw : ∀ k, Settles change (·.sw k)
  abs : ∀ k, Settles change (·.abs k)
  slot : Settles change (·.slot)
  mt : ∀ j k, Settles change (·.mt j k)

section settling

variable {β : Type} {change : DeviceState → DeviceState} {value : DeviceState → β}

theorem Settles.again (h : Settles change value) (st : DeviceState) :
    value (change (change st)) = value (change st) := by
  rcases h with ⟨b, hb⟩ | hsame
  · rw [hb, hb]
  · exact hsame _

/-- A later change that gives the value always, or never. -/
theorem Settles.ite {p : Prop} [Decidable p] {b : β} {later : DeviceState → DeviceState}
    (h : Settles change value)
    (hlater : ∀ st, value (later st) = if p then b else value (change st)) :
    Settles later value := by
  by_cases hp : p
  · exact .inl ⟨b, fun st => by rw [hlater, if_pos hp]⟩
  · have hsame : ∀ st, value (later st) = value (change st) := fun st => by
      rw [hlater, if_neg hp]
    rcases h with ⟨b', hb⟩ | hkept
    · exact .inl ⟨b', fun st => (hsame st).trans (hb st)⟩
    · exact .inr fun st => (hsame st).trans (hkept st)

theorem settlesAll_id : SettlesAll fun st => st :=
  ⟨fun _ => .inr fun _ => rfl, fun _ => .inr fun _ => rfl, fun _ => .inr fun _ => rfl,
    .inr fun _ => rfl, fun _ _ => .inr fun _ => rfl⟩

/-- What settles does nothing when it is repeated. -/
theorem SettlesAll.again (h : SettlesAll change) (st : DeviceState) :
    change (change st) = change st := by
  have hkey : (change (change st)).key = (change st).key := funext fun k => (h.key k).again st
  have hsw : (change (change st)).sw = (change st).sw := funext fun k => (h.sw k).again st
  have habs : (change (change st)).abs = (change st).abs := funext fun k => (h.abs k).again st
  have hslot : (change (change st)).slot = (change st).slot := h.slot.again st
  have hmt : (change (change st)).mt = (change st).mt :=
    funext fun j => funext fun k => (h.mt j k).again st
  generalize change (change st) = after at hkey hsw habs hslot hmt
  generalize change st = before at hkey hsw habs hslot hmt
  cases after
  cases before
  simp_all

end settling

/-! ## Events that address a slot -/

/-- An event of a multitouch axis, which changes the current slot. -/
def MultitouchEvent (c : Capabilities) (e : InputEvent) : Prop :=
  c.has_event_code e.type e.code = true ∧ 0 < c.slots ∧ e.type = EV_ABS ∧
    is_multitouch_axis e.code = true

/-- An event that selects a slot. -/
def SelectsSlot (c : Capabilities) (e : InputEvent) : Prop :=
  c.has_event_code e.type e.code = true ∧ 0 < c.slots ∧ e.type = EV_ABS ∧
    e.code = ABS_MT_SLOT ∧ 0 ≤ e.value ∧ e.value.toNat < c.slots

instance (c : Capabilities) (e : InputEvent) : Decidable (MultitouchEvent c e) :=
  inferInstanceAs (Decidable (_ ∧ _))

/-- No event of a multitouch axis comes before a slot is selected. -/
def Addressed (c : Capabilities) (selected : Prop) : List InputEvent → Prop
  | [] => True
  | e :: es => (MultitouchEvent c e → selected) ∧ Addressed c (selected ∨ SelectsSlot c e) es

section addressed

variable {c : Capabilities} {e : InputEvent} {es pre post : List InputEvent} {selected : Prop}

theorem addressed_of_selected (h : selected) : Addressed c selected es := by
  induction es generalizing selected with
  | nil => trivial
  | cons e es ih => exact ⟨fun _ => h, ih (.inl h)⟩

theorem addressed_of_none (h : ∀ e ∈ es, ¬MultitouchEvent c e) : Addressed c selected es := by
  induction es generalizing selected with
  | nil => trivial
  | cons e es ih =>
    obtain ⟨he, hes⟩ := List.forall_mem_cons.mp h
    exact ⟨fun hm => absurd hm he, ih hes⟩

theorem addressed_append (h : ∀ e ∈ pre, ¬MultitouchEvent c e) (hs : SelectsSlot c e) :
    Addressed c selected (pre ++ e :: post) := by
  induction pre generalizing selected with
  | nil =>
    refine ⟨fun hm => ?_, addressed_of_selected (.inr hs)⟩
    have hcode : e.code = ABS_MT_SLOT := hs.2.2.2.1
    have haxis := hm.2.2.2
    rw [hcode] at haxis
    cases haxis
  | cons e' pre ih =>
    obtain ⟨he, hpre⟩ := List.forall_mem_cons.mp h
    exact ⟨fun hm => absurd hm he, ih hpre⟩

end addressed

namespace DeviceState

variable {c : Capabilities} {st : DeviceState} {e : InputEvent} {es : List InputEvent}

/-- Any value of the table of axes. -/
theorem apply_axis (k : Nat) : (st.apply c e).abs k =
    if c.has_event_code e.type e.code = true ∧ e.type = EV_ABS ∧ e.code = k ∧
      ¬(0 < c.slots ∧ (e.code = ABS_MT_SLOT ∨ is_multitouch_axis e.code = true)) then e.value
    else st.abs k := by
  unfold apply
  split_ifs <;> grind [Function.update_apply, set_slot_value]

/-- Any value of a slot. -/
theorem apply_contact (j k : Nat) : (st.apply c e).mt j k =
    if MultitouchEvent c e ∧ e.code = k ∧ j = st.slot then e.value else st.mt j k := by
  have hslot : is_multitouch_axis ABS_MT_SLOT = false := rfl
  unfold apply MultitouchEvent
  split_ifs <;> grind [set_slot_value]

/-- Events whose slots are selected settle, from every state. -/
theorem settles_of_addressed {change : DeviceState → DeviceState} {selected : Prop}
    (h : SettlesAll change) (hs : selected → ∃ slot, ∀ st, (change st).slot = slot)
    (ha : Addressed c selected es) : SettlesAll fun st => (change st).applies c es := by
  induction es generalizing change selected with
  | nil => exact h
  | cons e es ih =>
    obtain ⟨he, hes⟩ := ha
    have hnext := @ih fun st => (change st).apply c e
    refine hnext ⟨fun k => ?_, fun k => ?_, fun k => ?_,
      ?_, fun j k => ?_⟩ ?_ hes
    · exact (h.key k).ite fun st => apply_key k
    · exact (h.sw k).ite fun st => apply_sw k
    · exact (h.abs k).ite fun st => apply_axis k
    · exact h.slot.ite fun st => apply_slot
    · by_cases hm : MultitouchEvent c e
      · obtain ⟨slot, hslot⟩ := hs (he hm)
        exact (h.mt j k).ite fun st => (apply_contact j k).trans (by rw [hslot])
      · have hkept : ∀ st, ((change st).apply c e).mt j k =
            if MultitouchEvent c e then e.value else (change st).mt j k := fun st => by
          rw [apply_contact, if_neg fun hc => hm hc.1, if_neg hm]
        exact (h.mt j k).ite hkept
    · rintro (hsel | hsel)
      · obtain ⟨slot, hslot⟩ := hs hsel
        by_cases hselects : SelectsSlot c e
        · exact ⟨e.value.toNat, fun st => apply_slot.trans (if_pos hselects)⟩
        · exact ⟨slot, fun st => (apply_slot.trans (if_neg hselects)).trans (hslot st)⟩
      · exact ⟨e.value.toNat, fun st => apply_slot.trans (if_pos hsel)⟩

/-- Such a list does nothing when it is repeated. -/
theorem applies_again (ha : Addressed c False es) (st : DeviceState) :
    (st.applies c es).applies c es = st.applies c es :=
  (settles_of_addressed settlesAll_id (fun h => h.elim) ha).again st

end DeviceState

/-! ## The captured list addresses its slots -/

theorem codes_sorted (c : Capabilities) (type maximum_code : Nat) :
    (c.codes type maximum_code).Pairwise (· < ·) :=
  List.pairwise_lt_range.filter _

section captured

-- A loop over codes must not be run when two lists are compared.
attribute [local irreducible] Capabilities.codes

variable {c : Capabilities} {evdev : Libevdev}

theorem current_slot_value (hpos : 0 < evdev.capabilities.slots) :
    evdev.state.value evdev.capabilities EV_ABS ABS_MT_SLOT = evdev.state.slot := by
  unfold DeviceState.value
  rw [if_neg (by decide), if_neg (by decide), if_pos rfl, if_pos ⟨hpos, rfl⟩]

theorem selects_slot {slot : Nat} (hshape : SameShape c evdev.capabilities)
    (hhas : evdev.capabilities.has_event_code EV_ABS ABS_MT_SLOT = true)
    (hslot : slot < evdev.capabilities.slots) :
    SelectsSlot c ⟨EV_ABS, ABS_MT_SLOT, slot⟩ := by
  have hc : c.has_event_code EV_ABS ABS_MT_SLOT = true :=
    (hshape.code _ _ (.inr (.inr rfl))).trans hhas
  rw [← hshape.slots] at hslot
  exact ⟨hc, by omega, rfl, rfl, by simp, by simpa using hslot⟩

/-- Keys and switches, and axes below the multitouch axes, address no slot. -/
theorem value_event_plain {type : Nat} {codes : List Nat} {e : InputEvent}
    (h : type = EV_ABS → ∀ code ∈ codes, is_multitouch_axis code = false)
    (he : e ∈ value_events evdev type codes) : ¬MultitouchEvent c e := by
  obtain ⟨code, hcode, rfl⟩ := List.mem_map.mp he
  rintro ⟨-, -, rfl, haxis⟩
  have hplain := h rfl code hcode
  change is_multitouch_axis code = true at haxis
  rw [hplain] at haxis
  cases haxis

theorem keys_and_switches_plain {e : InputEvent}
    (he : e ∈ value_events evdev EV_KEY (evdev.capabilities.codes EV_KEY KEY_MAX) ++
      value_events evdev EV_SW (evdev.capabilities.codes EV_SW SW_MAX)) :
    ¬MultitouchEvent c e := by
  rcases List.mem_append.mp he with he | he
  · exact value_event_plain (fun h => absurd h (by decide)) he
  · exact value_event_plain (fun h => absurd h (by decide)) he

/-- The axes of a device with slots: those below `ABS_MT_SLOT`, it, and the others. -/
theorem absolute_codes_split
    (hhas : evdev.capabilities.has_event_code EV_ABS ABS_MT_SLOT = true) :
    ∃ low high, absolute_codes evdev.capabilities false = low ++ ABS_MT_SLOT :: high ∧
      ∀ code ∈ low, is_multitouch_axis code = false := by
  have hcodes : absolute_codes evdev.capabilities false =
      evdev.capabilities.codes EV_ABS ABS_MAX := by
    unfold absolute_codes
    simp
  have hmem : ABS_MT_SLOT ∈ evdev.capabilities.codes EV_ABS ABS_MAX :=
    mem_codes.mpr ⟨by decide, hhas⟩
  obtain ⟨low, high, hsplit⟩ := List.append_of_mem hmem
  refine ⟨low, high, hcodes.trans hsplit, fun code hcode => ?_⟩
  have hsorted : (low ++ ABS_MT_SLOT :: high).Pairwise (· < ·) := by
    rw [← hsplit]
    exact codes_sorted ..
  have hlt : code < ABS_MT_SLOT :=
    (List.pairwise_append.mp hsorted).2.2 code hcode ABS_MT_SLOT (by simp)
  unfold is_multitouch_axis
  have hnot : ¬code ≥ ABS_MT_TOUCH_MAJOR := by
    simp only [ABS_MT_SLOT] at hlt
    simp only [ABS_MT_TOUCH_MAJOR]
    omega
  simp [hnot]

/-- In the list of a capture a slot is selected before any multitouch axis is written. -/
theorem capture_addressed (hshape : SameShape c evdev.capabilities) :
    Addressed c False (capture_events evdev ++ [synchronization_boundary]) := by
  by_cases hslots : 0 < evdev.capabilities.slots
  · have hhas : evdev.capabilities.has_event_code EV_ABS ABS_MT_SLOT = true := by
      by_contra hno
      unfold Capabilities.slots Capabilities.get_num_slots at hslots
      simp [hno] at hslots
    unfold capture_events
    cases hb : evdev.capabilities.type_b_multitouch with
    | true =>
      -- the events of slot 0 come first, and the first of them selects it
      obtain ⟨n, hn⟩ := Nat.exists_eq_succ_of_ne_zero (Nat.ne_of_gt hslots)
      have hfirst : multitouch_events evdev = ⟨EV_ABS, ABS_MT_SLOT, (0 : Nat)⟩ ::
          (axis_events evdev.state 0 (captured_axes evdev 0) ++
            (((List.range n).map Nat.succ).flatMap (slot_events evdev) ++
              [⟨EV_ABS, ABS_MT_SLOT,
                evdev.state.value evdev.capabilities EV_ABS ABS_MT_SLOT⟩])) := by
        unfold multitouch_events
        rw [hn, List.range_succ_eq_map, List.flatMap_cons, slot_events_eq]
        simp
      rw [if_pos rfl, hfirst, List.append_assoc, List.cons_append]
      refine addressed_append (fun e he => ?_) (selects_slot hshape hhas hslots)
      rcases List.mem_append.mp he with he | he
      · exact keys_and_switches_plain he
      · refine value_event_plain (fun _ code hcode => ?_) he
        have hskip := (List.mem_filter.mp hcode).2
        simp only [Bool.true_and, Bool.not_eq_true', Bool.or_eq_false_iff] at hskip
        exact hskip.2
    | false =>
      obtain ⟨low, high, hsplit, hlow⟩ := absolute_codes_split hhas
      have hvalues : value_events evdev EV_ABS (absolute_codes evdev.capabilities false) =
          value_events evdev EV_ABS low ++ ⟨EV_ABS, ABS_MT_SLOT, evdev.state.slot⟩ ::
            value_events evdev EV_ABS high := by
        rw [hsplit]
        unfold value_events
        rw [List.map_append, List.map_cons, current_slot_value hslots]
      rw [if_neg (by simp), hvalues, List.append_nil, ← List.append_assoc, List.append_assoc,
        List.cons_append]
      refine addressed_append (fun e he => ?_)
        (selects_slot hshape hhas (evdev.slot_lt hslots))
      rcases List.mem_append.mp he with he | he
      · exact keys_and_switches_plain he
      · exact value_event_plain (fun _ => hlow) he
  · -- without slots there are no multitouch events
    refine addressed_of_none fun e _ hm => hslots ?_
    rw [← hshape.slots]
    exact hm.2.1

/-- Of an active contact every axis is carried. -/
theorem active_contact_captured {d : VirtualDevice}
    (hshape : SameShape d.capabilities evdev.capabilities)
    (hpos : evdev.capabilities.type_b_multitouch = true → 0 < evdev.capabilities.slots)
    (hb : evdev.capabilities.type_b_multitouch = true) {slot code : Nat}
    (hslot : slot < evdev.capabilities.slots) (hactive : evdev.state.active slot = true)
    (haxis : is_multitouch_axis code = true)
    (hhas : evdev.capabilities.has_event_code EV_ABS code = true) :
    (d.writes (capture_events evdev ++ [synchronization_boundary])).kernel.slot_value slot code =
      evdev.state.slot_value slot code := by
  have hcaptured : code ∈ captured_axes evdev slot := by
    unfold captured_axes
    unfold DeviceState.active at hactive
    rw [if_neg (by simpa using hactive), List.mem_cons, mem_contact_axes]
    by_cases htracking : code = ABS_MT_TRACKING_ID
    · exact .inl htracking
    · exact .inr ⟨haxis, htracking, hhas⟩
  rw [VirtualDevice.writes_kernel]
  have hmt := (capture_slots d.kernel hshape hb (hpos hb)).2 slot code hslot haxis
  rw [if_pos hcaptured] at hmt
  exact hmt

end captured

/-! ## The synchronization -/

/-- The virtual device has the values of the source: keys, switches, other axes, current slot,
contacts, and every axis of an active contact. -/
structure InSynchrony (c : Capabilities) (v s : DeviceState) : Prop extends Mirrors c v s where
  contact : c.type_b_multitouch = true → ∀ slot < c.slots, s.active slot = true →
    ∀ code, is_multitouch_axis code = true → c.has_event_code EV_ABS code = true →
      v.slot_value slot code = s.slot_value slot code

section synchronization

attribute [local irreducible] Capabilities.codes

variable {d : VirtualDevice} {evdev : Libevdev} {w : World} {source : SourceDevice}

theorem capture_synchronizes (hshape : SameShape d.capabilities evdev.capabilities)
    (hpos : evdev.capabilities.type_b_multitouch = true → 0 < evdev.capabilities.slots) :
    InSynchrony evdev.capabilities
      (d.writes (capture_events evdev ++ [synchronization_boundary])).kernel evdev.state :=
  ⟨capture_mirrors hshape hpos, fun hb _ hslot hactive _ haxis hhas =>
    active_contact_captured hshape hpos hb hslot hactive haxis hhas⟩

/-- Complete frames that address their slots do nothing when they are written again. -/
theorem writes_again {es : List InputEvent}
    (h : Addressed d.capabilities False (es ++ [synchronization_boundary])) :
    (d.writes (es ++ [synchronization_boundary])).writes (es ++ [synchronization_boundary]) =
      d.writes (es ++ [synchronization_boundary]) := by
  have hkernel := DeviceState.applies_again h d.kernel
  rw [← VirtualDevice.writes_kernel] at hkernel
  have hcommitted := d.writes_boundary es
  have hcommitted' := (d.writes (es ++ [synchronization_boundary])).writes_boundary es
  have hafter := VirtualDevice.writes_kernel (d.writes (es ++ [synchronization_boundary]))
    (es ++ [synchronization_boundary])
  rw [VirtualDevice.writes_capabilities, hkernel] at hafter
  have hid := VirtualDevice.writes_id (d.writes (es ++ [synchronization_boundary]))
    (es ++ [synchronization_boundary])
  have hcapabilities := VirtualDevice.writes_capabilities
    (d.writes (es ++ [synchronization_boundary])) (es ++ [synchronization_boundary])
  rw [hafter, ← hcommitted] at hcommitted'
  generalize (d.writes (es ++ [synchronization_boundary])).writes
    (es ++ [synchronization_boundary]) = after at *
  generalize d.writes (es ++ [synchronization_boundary]) = before at *
  cases after
  cases before
  simp_all

/-- After a capture that failed nothing is written. -/
theorem session_synchronize_state.uncaptured (hs : w.session.source_device = some source)
    (hfails : ¬CaptureSucceeds w source.evdev) :
    wp (fun _ => False) session_synchronize_state (fun r w' => r ≠ .SUCCESS ∧
      w'.session = w.session ∧ w'.history = .synchronized r :: w.history) w := by
  unfold session_synchronize_state synchronize_state
  simp only [wp_bind, wp_session]
  split
  · exact ⟨by decide, rfl, rfl⟩
  · refine wp_bind.mpr (wp_mono (source_device_capture_state.outcome hs) (fun _ h => h) ?_)
    rintro r w1 ⟨hm, hr⟩
    rw [if_neg hfails] at hr
    obtain ⟨e, rfl, he⟩ := hr
    have hsession : w1.session = w.session := congrArg Moment.session hm
    have hhistory : w1.history = w.history := congrArg Moment.history hm
    refine ⟨?_, hsession, congrArg (Action.synchronized e :: ·) hhistory⟩
    rcases he with rfl | rfl <;> decide

/-- A synchronization that succeeds has written the events of the capture and the boundary. -/
theorem Synchronize.success {m m' : Moment} {r : Result} (h : Synchronize m r m')
    (hr : r = .SUCCESS) (hs : m.session.source_device = some source) :
    m'.session = { m.session with
      virtual_device := m.session.virtual_device.map
        (·.writes (capture_events source.evdev ++ [synchronization_boundary])) } ∧
    (source.evdev.capabilities.type_b_multitouch = true →
      0 < source.evdev.capabilities.slots) := by
  cases h with
  | uncaptured h =>
    rcases h with rfl | rfl <;> cases hr
  | unwritten _ _ _ h => exact absurd hr h
  | checked hs' hb hw _ =>
    obtain rfl := Option.some.inj (hs.symm.trans hs')
    refine ⟨?_, hb⟩
    rw [hw.success]
    rfl

theorem session_synchronize_state.success {w' : World} (hs : w.session.source_device = some source)
    (hd : w.session.virtual_device = some d)
    (h : session_synchronize_state w = (some .SUCCESS, w')) :
    w'.session = { w.session with
      virtual_device :=
        some (d.writes (capture_events source.evdev ++ [synchronization_boundary])) } ∧
    (source.evdev.capabilities.type_b_multitouch = true →
      0 < source.evdev.capabilities.slots) := by
  obtain ⟨r, w1, hw1, hspec⟩ := exists_of_wp
    (session_synchronize_state.spec w ⟨by simp [hs], by simp [hd]⟩)
  obtain ⟨rfl, rfl⟩ : r = .SUCCESS ∧ w1 = w' := by simpa using hw1.symm.trans h
  obtain ⟨hsession, hpos⟩ := hspec.success rfl hs
  have hbefore : w.moment.session = w.session := rfl
  have hafter : w1.moment.session = w1.session := rfl
  rw [hbefore, hafter, hd] at hsession
  exact ⟨hsession, hpos⟩

/-- Whatever state the virtual device is in, a synchronization that succeeds brings it to the
state of the source, before and behind the boundary, and another one right after it changes
nothing. The capture gives its list exactly where all its calls succeed; where it does not, it
gives an error and nothing is written. -/
theorem a_synchronization_ignores_the_state_before (w : World) (source : SourceDevice)
    (hs : w.session.source_device = some source) :
    (∀ d, w.session.virtual_device = some d →
      SameShape d.capabilities source.evdev.capabilities →
      ∀ w', session_synchronize_state w = (some .SUCCESS, w') → ∃ d',
        w'.session = { w.session with virtual_device := some d' } ∧
        InSynchrony source.evdev.capabilities d'.kernel source.evdev.state ∧
        InSynchrony source.evdev.capabilities d'.committed source.evdev.state ∧
        ∀ w'', session_synchronize_state w' = (some .SUCCESS, w'') →
          w''.session = w'.session) ∧
    (∀ events w', source_device_capture_state w = (some (.ok events), w') →
      ∀ d : VirtualDevice, SameShape d.capabilities source.evdev.capabilities →
        let d' := d.writes (events ++ [synchronization_boundary])
        InSynchrony source.evdev.capabilities d'.kernel source.evdev.state ∧
        d'.writes (events ++ [synchronization_boundary]) = d') ∧
    (CaptureSucceeds w source.evdev → ∃ w',
      source_device_capture_state w = (some (.ok (capture_events source.evdev)), w')) ∧
    (¬CaptureSucceeds w source.evdev →
      (∃ e w', source_device_capture_state w = (some (.error e), w') ∧ w'.moment = w.moment) ∧
      ∃ r w', session_synchronize_state w = (some r, w') ∧ r ≠ .SUCCESS ∧
        w'.session = w.session ∧ w'.history = .synchronized r :: w.history) := by
  have hcapture := exists_of_wp (source_device_capture_state.outcome hs)
  refine ⟨fun d hd hshape w' hw' => ?_, fun events w' hw' d hshape => ?_, fun hc => ?_,
    fun hc => ⟨?_, ?_⟩⟩
  · obtain ⟨hsession, hpos⟩ := session_synchronize_state.success hs hd hw'
    refine ⟨_, hsession, capture_synchronizes hshape hpos, ?_, fun w2 hw2 => ?_⟩
    · rw [VirtualDevice.writes_boundary]
      exact capture_synchronizes hshape hpos
    · have hs1 : w'.session.source_device = some source := by rw [hsession]; exact hs
      have hd1 : w'.session.virtual_device = some (d.writes (capture_events source.evdev ++
          [synchronization_boundary])) := by rw [hsession]
      rw [(session_synchronize_state.success hs1 hd1 hw2).1, hsession,
        writes_again (capture_addressed hshape)]
  · obtain ⟨r, w1, hw1, hm, hr⟩ := hcapture
    obtain ⟨rfl, rfl⟩ : r = .ok events ∧ w1 = w' := by simpa using hw1.symm.trans hw'
    split at hr
    · rename_i hc
      obtain rfl := Except.ok.inj hr
      exact ⟨capture_synchronizes hshape hc.2, writes_again (capture_addressed hshape)⟩
    · obtain ⟨e, he, -⟩ := hr
      cases he
  · obtain ⟨r, w1, hw1, -, hr⟩ := hcapture
    rw [if_pos hc] at hr
    exact ⟨w1, hr ▸ hw1⟩
  · obtain ⟨r, w1, hw1, hm, hr⟩ := hcapture
    rw [if_neg hc] at hr
    obtain ⟨e, rfl, -⟩ := hr
    exact ⟨e, w1, hw1, hm⟩
  · exact exists_of_wp (session_synchronize_state.uncaptured hs hc)

end synchronization

theorem contact_valid : InputEvent.valid ⟨EV_ABS, ABS_MT_TRACKING_ID, 5⟩ := by decide

theorem position_valid : InputEvent.valid ⟨EV_ABS, ABS_MT_POSITION_X, 100⟩ := by decide

/-- A source with one contact. -/
def touched : Libevdev :=
  ((Libevdev.untouched touchpad).advance ⟨_, contact_valid⟩).advance ⟨_, position_valid⟩

/-- It, and a virtual device with other values, in a session. -/
def touched_session : World where
  session :=
    { new_session ⟨"touchpad", 0, 0, true, true, false⟩ with
      source_device := some ⟨0, touched⟩
      virtual_device := some ⟨1, touchpad, default, default⟩ }
  history := []
  answers := fun _ => {}
  asked := 0

theorem touched_session_synchronizes :
    (session_synchronize_state touched_session).1 = some .SUCCESS := by decide +kernel

/-- The contact is carried over. -/
theorem a_contact_is_synchronized : ∃ d',
    (session_synchronize_state touched_session).2.session.virtual_device = some d' ∧
      InSynchrony touchpad d'.kernel touched.state := by
  have h := (a_synchronization_ignores_the_state_before touched_session ⟨0, touched⟩ rfl).1
  have hsuccess := touched_session_synchronizes
  generalize hrun : session_synchronize_state touched_session = run at hsuccess ⊢
  obtain ⟨r, w'⟩ := run
  subst hsuccess
  obtain ⟨d', hd', hsynchronized, -⟩ := h ⟨1, touchpad, default, default⟩ rfl
    ⟨fun _ _ _ => rfl, rfl⟩ w' hrun
  exact ⟨d', congrArg Session.virtual_device hd', hsynchronized⟩

end input_proxy
