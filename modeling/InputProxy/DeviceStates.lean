-- How events change the values of a device, value by value; the relation
-- between a virtual device that mirrors its source; and the neutral values.
import InputProxy.Corrections

open programs

namespace input_proxy

/-! ## One event, value by value -/

namespace DeviceState

variable {c : Capabilities} {st : DeviceState} {e : InputEvent}

theorem apply_key (k : Nat) : (st.apply c e).key k =
    if c.has_event_code e.type e.code = true ∧ e.type = EV_KEY ∧ e.code = k then e.value
    else st.key k := by
  unfold apply
  split_ifs <;> grind [Function.update_apply, set_slot_value]

theorem apply_sw (k : Nat) : (st.apply c e).sw k =
    if c.has_event_code e.type e.code = true ∧ e.type = EV_SW ∧ e.code = k then e.value
    else st.sw k := by
  unfold apply
  split_ifs <;> grind [Function.update_apply, set_slot_value]

/-- An axis that is not a multitouch axis. -/
theorem apply_abs {k : Nat} (hslot : k ≠ ABS_MT_SLOT) (hmt : is_multitouch_axis k = false) :
    (st.apply c e).abs k =
      if c.has_event_code e.type e.code = true ∧ e.type = EV_ABS ∧ e.code = k then e.value
      else st.abs k := by
  unfold apply
  split_ifs <;> grind [Function.update_apply, set_slot_value]

/-- The slot that `ABS_MT_SLOT` selects. -/
theorem apply_slot : (st.apply c e).slot =
    if c.has_event_code e.type e.code = true ∧ 0 < c.slots ∧ e.type = EV_ABS ∧
      e.code = ABS_MT_SLOT ∧ 0 ≤ e.value ∧ e.value.toNat < c.slots then e.value.toNat
    else st.slot := by
  unfold apply
  split_ifs <;> grind [set_slot_value]

/-- A multitouch axis of one slot. -/
theorem apply_mt (slot : Nat) {k : Nat} (hmt : is_multitouch_axis k = true) :
    (st.apply c e).mt slot k =
      if c.has_event_code e.type e.code = true ∧ 0 < c.slots ∧ e.type = EV_ABS ∧ e.code = k ∧
        slot = st.slot then e.value
      else st.mt slot k := by
  have hslot : k ≠ ABS_MT_SLOT := by
    rintro rfl
    cases hmt
  unfold apply
  split_ifs <;> grind [set_slot_value]

/-! ## Several events -/

/-- The values after the events of a list. -/
def applies (c : Capabilities) (st : DeviceState) (es : List InputEvent) : DeviceState :=
  es.foldl (apply c) st

@[simp] theorem applies_nil : st.applies c [] = st := rfl

@[simp] theorem applies_cons {es : List InputEvent} :
    st.applies c (e :: es) = (st.apply c e).applies c es := rfl

@[simp] theorem applies_append {es fs : List InputEvent} :
    st.applies c (es ++ fs) = (st.applies c es).applies c fs := by
  simp [applies]

/-- What each event of the list keeps, the list keeps. -/
theorem applies_keep (P : DeviceState → Prop) {es : List InputEvent}
    (hkeep : ∀ e ∈ es, ∀ st : DeviceState, P st → P (st.apply c e)) (hst : P st) :
    P (st.applies c es) := by
  induction es generalizing st with
  | nil => exact hst
  | cons e es ih =>
    obtain ⟨he, hes⟩ := List.forall_mem_cons.mp hkeep
    exact ih hes (he st hst)

/-- What one event of the list brings about and the others keep, the list brings about. -/
theorem applies_establish (P : DeviceState → Prop) {es : List InputEvent} (he : e ∈ es)
    (hset : ∀ st : DeviceState, P (st.apply c e))
    (hkeep : ∀ e ∈ es, ∀ st : DeviceState, P st → P (st.apply c e)) :
    P (st.applies c es) := by
  obtain ⟨before, after, rfl⟩ := List.append_of_mem he
  rw [applies_append, applies_cons]
  refine applies_keep P (fun e' he' => hkeep e' ?_) (hset _)
  exact List.mem_append_right before (List.mem_cons_of_mem e he')

end DeviceState

theorem VirtualDevice.writes_kernel (d : VirtualDevice) (es : List InputEvent) :
    (d.writes es).kernel = d.kernel.applies d.capabilities es := by
  induction es generalizing d with
  | nil => rfl
  | cons e es ih => rw [writes_cons, ih]; rfl

/-- Writes with valid tracking identifiers keep them valid. -/
theorem VirtualDevice.writes_tracked {d : VirtualDevice} {es : List InputEvent}
    (hes : ∀ e ∈ es, 0 < d.capabilities.slots → e.valid) (h : d.kernel.tracked) :
    (d.writes es).kernel.tracked := by
  rw [d.writes_kernel]
  exact DeviceState.applies_keep DeviceState.tracked
    (fun e he st hst => DeviceState.apply_tracked (hes e he) hst) h

/-! ## Capabilities of the same shape -/

/-- The same keys, switches and axes, and as many slots. -/
structure SameShape (c c' : Capabilities) : Prop where
  code : ∀ type code, type = EV_KEY ∨ type = EV_SW ∨ type = EV_ABS →
    c.has_event_code type code = c'.has_event_code type code
  slots : c.slots = c'.slots

theorem SameShape.type_b {c c' : Capabilities} (h : SameShape c c') :
    c.type_b_multitouch = c'.type_b_multitouch := by
  unfold Capabilities.type_b_multitouch
  rw [h.code EV_ABS ABS_MT_SLOT (.inr (.inr rfl)), h.code EV_ABS ABS_MT_TRACKING_ID
    (.inr (.inr rfl))]

/-- An event that one of two such devices has, the other has too. -/
theorem SameShape.has {c c' : Capabilities} (h : SameShape c c') {e : InputEvent}
    (he : e.type = EV_KEY ∨ e.type = EV_SW ∨ e.type = EV_ABS) :
    c.has_event_code e.type e.code = c'.has_event_code e.type e.code := h.code _ _ he

/-! ## Mirrors -/

/-- The values of a virtual device equal those of the source, as far as a synchronization
carries them: keys, switches, other axes, and for a Type-B device the current slot and
the contacts. -/
structure Mirrors (c : Capabilities) (v s : DeviceState) : Prop where
  key : ∀ code, c.has_event_code EV_KEY code = true → v.key code = s.key code
  sw : ∀ code, c.has_event_code EV_SW code = true → v.sw code = s.sw code
  abs : ∀ code, c.has_event_code EV_ABS code = true → code ≠ ABS_MT_SLOT →
    is_multitouch_axis code = false → v.abs code = s.abs code
  slot : c.type_b_multitouch = true → v.slot = s.slot
  tracking : c.type_b_multitouch = true → ∀ slot < c.slots,
    v.slot_value slot ABS_MT_TRACKING_ID = s.slot_value slot ABS_MT_TRACKING_ID

/-- The same event on both sides keeps the mirror. -/
theorem Mirrors.apply {c c' : Capabilities} {v s : DeviceState} (h : Mirrors c' v s)
    (hshape : SameShape c c') (e : InputEvent) : Mirrors c' (v.apply c e) (s.apply c' e) := by
  constructor
  · intro code hcode
    rw [DeviceState.apply_key, DeviceState.apply_key, h.key code hcode]
    by_cases hk : e.type = EV_KEY
    · rw [hshape.has (.inl hk)]
    · rw [if_neg fun hc => hk hc.2.1, if_neg fun hc => hk hc.2.1]
  · intro code hcode
    rw [DeviceState.apply_sw, DeviceState.apply_sw, h.sw code hcode]
    by_cases hk : e.type = EV_SW
    · rw [hshape.has (.inr (.inl hk))]
    · rw [if_neg fun hc => hk hc.2.1, if_neg fun hc => hk hc.2.1]
  · intro code hcode hslot hmt
    rw [DeviceState.apply_abs hslot hmt, DeviceState.apply_abs hslot hmt,
      h.abs code hcode hslot hmt]
    by_cases hk : e.type = EV_ABS
    · rw [hshape.has (.inr (.inr hk))]
    · rw [if_neg fun hc => hk hc.2.1, if_neg fun hc => hk hc.2.1]
  · intro hb
    rw [DeviceState.apply_slot, DeviceState.apply_slot, h.slot hb, hshape.slots]
    by_cases hk : e.type = EV_ABS
    · rw [hshape.has (.inr (.inr hk))]
    · rw [if_neg fun hc => hk hc.2.2.1, if_neg fun hc => hk hc.2.2.1]
  · intro hb slot hslot
    unfold DeviceState.slot_value
    have htracking := h.tracking hb slot hslot
    unfold DeviceState.slot_value at htracking
    rw [DeviceState.apply_mt slot rfl, DeviceState.apply_mt slot rfl, htracking, h.slot hb,
      hshape.slots]
    by_cases hk : e.type = EV_ABS
    · rw [hshape.has (.inr (.inr hk))]
    · rw [if_neg fun hc => hk hc.2.2.1, if_neg fun hc => hk hc.2.2.1]

/-! ## Neutral values -/

/-- No key is pressed and no contact is active. -/
structure Neutral (c : Capabilities) (st : DeviceState) : Prop where
  key : ∀ code, c.has_event_code EV_KEY code = true → st.key code = 0
  tracking : c.type_b_multitouch = true → ∀ slot < c.slots,
    st.slot_value slot ABS_MT_TRACKING_ID = -1

theorem fresh_neutral (c : Capabilities) (st : DeviceState) : Neutral c (fresh_state st) := by
  constructor
  · intro code _
    rfl
  · intro _ slot _
    rfl

theorem fresh_tracked (st : DeviceState) : (fresh_state st).tracked := by
  intro slot
  change (-1 : Int) ≤ -1
  omega

/-- A source on which nothing is pressed or touched. -/
def Libevdev.untouched (c : Capabilities) : Libevdev where
  capabilities := c
  state := default
  slot_lt := id
  tracked := fresh_tracked default

theorem synchronization_boundary_valid : synchronization_boundary.valid := by
  decide

theorem mem_codes {c : Capabilities} {type maximum code : Nat} :
    code ∈ c.codes type maximum ↔ code ≤ maximum ∧ c.has_event_code type code = true := by
  unfold Capabilities.codes
  rw [List.mem_filter, List.mem_range]
  constructor
  · rintro ⟨h, hc⟩
    exact ⟨by omega, hc⟩
  · rintro ⟨h, hc⟩
    exact ⟨by omega, hc⟩

/-- A code that a device has is within the maximum of its type. -/
theorem has_event_code_le {c : Capabilities} {type maximum code : Nat} (ht : type ≠ EV_SYN)
    (hmax : event_type_get_max type = some maximum) (h : c.has_event_code type code = true) :
    code ≤ maximum := by
  unfold Capabilities.has_event_code at h
  rw [hmax] at h
  simp only [Bool.and_eq_true, Bool.or_eq_true, beq_iff_eq, ht, false_or] at h
  simpa using h.2.1

theorem mem_key_codes {c : Capabilities} {code : Nat}
    (h : c.has_event_code EV_KEY code = true) : code ∈ c.codes EV_KEY KEY_MAX :=
  mem_codes.mpr ⟨has_event_code_le (by decide) rfl h, h⟩

/-! ## The neutralization neutralizes -/

theorem mem_key_releases {values : List (Nat × Int)} {e : InputEvent} :
    e ∈ key_releases values ↔ ∃ key ∈ values, key.2 ≠ 0 ∧ e = ⟨EV_KEY, key.1, 0⟩ := by
  unfold key_releases
  constructor
  · intro h
    obtain ⟨key, hkey, rfl⟩ := List.mem_map.mp h
    obtain ⟨hmem, hne⟩ := List.mem_filter.mp hkey
    exact ⟨key, hmem, by simpa using hne, rfl⟩
  · rintro ⟨key, hmem, hne, rfl⟩
    exact List.mem_map.mpr ⟨key, List.mem_filter.mpr ⟨hmem, by simpa using hne⟩, rfl⟩

theorem mem_contact_ends {ids : List (Nat × Int)} {e : InputEvent} (h : e ∈ contact_ends ids) :
    (∃ slot : Nat, e = ⟨EV_ABS, ABS_MT_SLOT, slot⟩) ∨ e = ⟨EV_ABS, ABS_MT_TRACKING_ID, -1⟩ := by
  unfold contact_ends at h
  obtain ⟨slot, _, he⟩ := List.mem_flatMap.mp h
  simp only [List.mem_cons, List.not_mem_nil, or_false] at he
  rcases he with he | he
  · exact .inl ⟨slot.1, he⟩
  · exact .inr he

/-- What an event of a neutralization can be. -/
def NeutralizingEvent (e : InputEvent) : Prop :=
  (∃ code, e = ⟨EV_KEY, code, 0⟩) ∨ (∃ slot : Nat, e = ⟨EV_ABS, ABS_MT_SLOT, slot⟩) ∨
    e = ⟨EV_ABS, ABS_MT_TRACKING_ID, -1⟩ ∨ e = synchronization_boundary

theorem neutralizing_events_kind {d : VirtualDevice} {e : InputEvent}
    (h : e ∈ neutralizing_events d) : NeutralizingEvent e := by
  unfold neutralizing_events at h
  rcases List.mem_append.mp h with h | h
  · rcases List.mem_append.mp h with h | h
    · obtain ⟨key, _, _, rfl⟩ := mem_key_releases.mp h
      exact .inl ⟨_, rfl⟩
    · rcases mem_contact_ends h with ⟨slot, rfl⟩ | rfl
      · exact .inr (.inl ⟨slot, rfl⟩)
      · exact .inr (.inr (.inl rfl))
  · split at h
    · rw [List.mem_singleton] at h
      exact .inr (.inr (.inr h))
    · cases h

theorem NeutralizingEvent.valid {e : InputEvent} (h : NeutralizingEvent e) : e.valid := by
  rcases h with ⟨code, rfl⟩ | ⟨slot, rfl⟩ | rfl | rfl
  · intro ht
    cases ht
  · intro _ hc
    cases hc
  · decide
  · decide

/-- A key that is released, and a slot that is unused, stay so. -/
theorem NeutralizingEvent.keeps {e : InputEvent} (h : NeutralizingEvent e) {c : Capabilities}
    {st : DeviceState} : (∀ k, st.key k = 0 → (st.apply c e).key k = 0) ∧
      ∀ slot, st.slot_value slot ABS_MT_TRACKING_ID = -1 →
        (st.apply c e).slot_value slot ABS_MT_TRACKING_ID = -1 := by
  constructor
  · intro k hk
    rw [DeviceState.apply_key, hk]
    split_ifs with hc
    · rcases h with ⟨code, rfl⟩ | ⟨slot, rfl⟩ | rfl | rfl
      · rfl
      · cases hc.2.1
      · cases hc.2.1
      · cases hc.2.1
    · rfl
  · intro slot hslot
    unfold DeviceState.slot_value at *
    rw [DeviceState.apply_mt slot rfl, hslot]
    split_ifs with hc
    · rcases h with ⟨code, rfl⟩ | ⟨slot, rfl⟩ | rfl | rfl
      · cases hc.2.2.1
      · cases hc.2.2.2.1
      · rfl
      · cases hc.2.2.1
    · rfl

/-- The end of a contact: its slot is selected, and then unused. -/
theorem contact_ended {c : Capabilities} {st : DeviceState} {slot : Nat}
    (hb : c.type_b_multitouch = true) (hslot : slot < c.slots) :
    ((st.apply c ⟨EV_ABS, ABS_MT_SLOT, slot⟩).apply c ⟨EV_ABS, ABS_MT_TRACKING_ID, -1⟩).slot_value
      slot ABS_MT_TRACKING_ID = -1 := by
  have hpos : 0 < c.slots := by omega
  unfold Capabilities.type_b_multitouch at hb
  obtain ⟨hs, ht⟩ := Bool.and_eq_true_iff.mp hb
  have hselected : (st.apply c ⟨EV_ABS, ABS_MT_SLOT, slot⟩).slot = slot := by
    rw [DeviceState.apply_slot, if_pos ⟨hs, hpos, rfl, rfl, by simp, by simpa using hslot⟩]
    rfl
  unfold DeviceState.slot_value
  rw [DeviceState.apply_mt slot rfl, hselected, if_pos ⟨ht, hpos, rfl, rfl, rfl⟩]

/-- After all its events the device is neutral. -/
theorem neutralizing_events_neutralize {d : VirtualDevice} (htracked : d.kernel.tracked) :
    Neutral d.capabilities (d.writes (neutralizing_events d)).kernel := by
  rw [VirtualDevice.writes_kernel]
  have hkeeps : ∀ e ∈ neutralizing_events d, NeutralizingEvent e :=
    fun e he => neutralizing_events_kind he
  constructor
  · intro code hcode
    by_cases hzero : d.kernel.key code = 0
    · exact DeviceState.applies_keep (fun st => st.key code = 0)
        (fun e he st => (hkeeps e he).keeps.1 code) hzero
    · have hrelease : ⟨EV_KEY, code, 0⟩ ∈ neutralizing_events d := by
        refine List.mem_append_left _ (List.mem_append_left _ ?_)
        refine mem_key_releases.mpr ⟨(code, d.kernel.key code), ?_, hzero, rfl⟩
        exact List.mem_map.mpr ⟨code, mem_key_codes hcode, rfl⟩
      refine DeviceState.applies_establish (fun st => st.key code = 0) hrelease (fun st => ?_)
        fun e he st => (hkeeps e he).keeps.1 code
      rw [DeviceState.apply_key, if_pos ⟨hcode, rfl, rfl⟩]
  · intro hb slot hslot
    have hkeep : ∀ e ∈ neutralizing_events d, ∀ st : DeviceState,
        st.slot_value slot ABS_MT_TRACKING_ID = -1 →
        (st.apply d.capabilities e).slot_value slot ABS_MT_TRACKING_ID = -1 :=
      fun e he st => (hkeeps e he).keeps.2 slot
    by_cases hactive : d.kernel.slot_value slot ABS_MT_TRACKING_ID < 0
    · have hunused : d.kernel.slot_value slot ABS_MT_TRACKING_ID = -1 := by
        have := htracked slot
        omega
      exact DeviceState.applies_keep _ hkeep hunused
    · -- the two events of this slot stand next to each other in the list
      have hmem : (slot, d.kernel.slot_value slot ABS_MT_TRACKING_ID) ∈
          (slot_tracking_ids d).filter fun slot => ¬ slot.2 < 0 := by
        refine List.mem_filter.mpr ⟨?_, by simpa using hactive⟩
        unfold slot_tracking_ids
        rw [if_pos hb]
        exact List.mem_map.mpr ⟨slot, List.mem_range.mpr hslot, rfl⟩
      obtain ⟨before, after, hsplit⟩ := List.append_of_mem hmem
      unfold neutralizing_events contact_ends at hkeep ⊢
      rw [hsplit] at hkeep ⊢
      simp only [List.flatMap_append, List.flatMap_cons, DeviceState.applies_append,
        DeviceState.applies_cons, DeviceState.applies_nil] at hkeep ⊢
      refine DeviceState.applies_keep _ (fun e he => hkeep e ?_)
        (DeviceState.applies_keep _ (fun e he => hkeep e ?_) (contact_ended hb hslot))
      · exact List.mem_append_right _ he
      · refine List.mem_append_left _ (List.mem_append_right _ (List.mem_append_right _ ?_))
        exact List.mem_append_right _ he

end input_proxy
