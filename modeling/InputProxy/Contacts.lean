-- The coordinates of contacts. A slot keeps the values of its axes while it is
-- inactive, and a source does not repeat a value that its slot still has. A
-- capture skips these axes of an inactive slot, so the next contact in the slot
-- is where the source has it only if the skipped values already agreed.
import InputProxy.Mirror

open programs

namespace input_proxy

/-! ## The relation -/

/-- Every multitouch axis of every slot has the value of the source, also while the slot
is inactive. -/
def SameContacts (c : Capabilities) (v s : DeviceState) : Prop :=
  c.type_b_multitouch = true → ∀ slot < c.slots, ∀ code, is_multitouch_axis code = true →
    c.has_event_code EV_ABS code = true → v.slot_value slot code = s.slot_value slot code

/-- The axes that a capture skips, those of the inactive slots of the source, already have
the values of the source. -/
def SkipsNothing (d : VirtualDevice) (source : SourceDevice) : Prop :=
  source.evdev.capabilities.type_b_multitouch = true →
    ∀ slot < source.evdev.capabilities.slots, source.evdev.state.active slot = false →
      ∀ code, is_multitouch_axis code = true →
        source.evdev.capabilities.has_event_code EV_ABS code = true →
        code ≠ ABS_MT_TRACKING_ID →
        d.kernel.slot_value slot code = source.evdev.state.slot_value slot code

/-- A capture in this session loses no value of an inactive slot. -/
def LosesNothing (s : Session) : Prop :=
  ∀ d source, s.virtual_device = some d → s.source_device = some source → SkipsNothing d source

/-- The same event on both sides keeps all slots the same. -/
theorem SameContacts.apply {c c' : Capabilities} {v s : DeviceState} (h : SameContacts c' v s)
    (hm : Mirrors c' v s) (hshape : SameShape c c') (e : InputEvent) :
    SameContacts c' (v.apply c e) (s.apply c' e) := by
  intro hb slot hslot code hmt hhas
  have hcode : v.mt slot code = s.mt slot code := h hb slot hslot code hmt hhas
  unfold DeviceState.slot_value
  rw [DeviceState.apply_mt slot hmt, DeviceState.apply_mt slot hmt, hcode, hm.slot hb,
    hshape.slots]
  by_cases hk : e.type = EV_ABS
  · rw [hshape.has (.inr (.inr hk))]
  · rw [if_neg fun hc => hk hc.2.2.1, if_neg fun hc => hk hc.2.2.1]

/-- A synchronization makes all slots the same if its capture skips nothing. -/
theorem capture_contacts {d : VirtualDevice} {source : SourceDevice}
    (hshape : SameShape d.capabilities source.evdev.capabilities)
    (hpos : source.evdev.capabilities.type_b_multitouch = true →
      0 < source.evdev.capabilities.slots)
    (hskip : SkipsNothing d source) :
    SameContacts source.evdev.capabilities
      (d.writes (capture_events source.evdev ++ [synchronization_boundary])).kernel
      source.evdev.state := by
  intro hb slot hslot code hmt hhas
  have hvalue := (capture_slots d.kernel hshape hb (hpos hb)).2 slot code hslot hmt
  unfold DeviceState.slot_value
  rw [VirtualDevice.writes_kernel, hvalue]
  split_ifs with hcaptured
  · rfl
  · have htracking : code ≠ ABS_MT_TRACKING_ID := by
      rintro rfl
      exact hcaptured (List.mem_cons_self ..)
    refine hskip hb slot hslot ?_ code hmt hhas htracking
    by_contra hactive
    have hactive : 0 ≤ source.evdev.state.slot_value slot ABS_MT_TRACKING_ID := by
      simpa [DeviceState.active] using hactive
    refine hcaptured (List.mem_cons_of_mem _ ?_)
    rw [if_neg (by omega)]
    exact mem_contact_axes.mpr ⟨hmt, htracking, hhas⟩

/-- The mirror with all axes of all slots, which a capture establishes that skips nothing. -/
def contacts : Correspondence where
  relates := fun c v s => Mirrors c v s ∧ SameContacts c v s
  allows := LosesNothing
  apply := fun h hshape e => ⟨h.1.apply hshape e, h.2.apply h.1 hshape e⟩
  capture := fun hallowed hd hs hshape hpos =>
    ⟨capture_mirrors hshape hpos, capture_contacts hshape hpos (hallowed _ _ hd hs)⟩

/-! ## The law -/

/-- The session at a dispatch of D-Bus messages or at the head of the inner loop. -/
def Action.loop_session : Action → Option Session
  | .observed .dispatch s | .observed .loop_head s => some s
  | _ => none

/-- The contact of this slot of the source is active in the virtual device, with the same
tracking identifier and the same value on every axis. -/
def TrueContact (c : Capabilities) (v s : DeviceState) (slot : Nat) : Prop :=
  v.active slot = true ∧ ∀ code ≤ ABS_MAX, is_multitouch_axis code = true →
    c.has_event_code EV_ABS code = true → v.slot_value slot code = s.slot_value slot code

instance (c : Capabilities) (v s : DeviceState) (slot : Nat) :
    Decidable (TrueContact c v s slot) :=
  inferInstanceAs (Decidable (v.active slot = true ∧ ∀ code ≤ ABS_MAX,
    is_multitouch_axis code = true → c.has_event_code EV_ABS code = true →
    v.slot_value slot code = s.slot_value slot code))

/-- Every contact of an open source of an unpaused session is a true one. -/
def TrueContacts (s : Session) : Prop :=
  s.runtime_state.paused = false → ∀ source ∈ s.source_device,
    source.evdev.capabilities.type_b_multitouch = true →
    ∃ d ∈ s.virtual_device, ∀ slot < source.evdev.capabilities.slots,
      source.evdev.state.active slot = true →
        TrueContact source.evdev.capabilities d.kernel source.evdev.state slot

instance (s : Session) : Decidable (TrueContacts s) :=
  inferInstanceAs (Decidable (s.runtime_state.paused = false → ∀ source ∈ s.source_device,
    source.evdev.capabilities.type_b_multitouch = true →
    ∃ d ∈ s.virtual_device, ∀ slot < source.evdev.capabilities.slots,
      source.evdev.state.active slot = true →
        TrueContact source.evdev.capabilities d.kernel source.evdev.state slot))

/-- The law at the dispatches and at the head of the inner loop. -/
def ContactsEntry (a : Action) (past : List Action) : Prop :=
  ∀ s ∈ a.loop_session, s.fatal_result = .SUCCESS →
    (∀ s' es, .captured s' es ∈ past → LosesNothing s') → TrueContacts s

/-- In every run, at every dispatch of D-Bus messages and at every head of the inner loop
where no correction has failed: if every capture so far skipped only values that the virtual
device already had, every contact of the open source of an unpaused session is active in the
virtual device, with the same tracking identifier and the same value on every axis. This
holds after every event, not only at the end of a frame. -/
theorem contacts_are_true_while_captures_lose_nothing (config : SessionConfig)
    (answers : Nat → Answer) (fuel : Nat) :
    Always ContactsEntry (run_history config answers fuel) := by
  refine (correspondence_law contacts config answers fuel).mono fun a past ha _ => ?_
  intro s hs hf hcaptures hp source hsource hb
  obtain ⟨point, hpoint, rfl⟩ : ∃ point, point ≠ .step ∧ a = .observed point s := by
    cases a with
    | observed point s' =>
      cases point with
      | step => cases hs
      | dispatch | loop_head =>
        obtain rfl := Option.some.inj hs
        exact ⟨_, by decide, rfl⟩
    | _ => cases hs
  obtain ⟨d, hd, hmirrors, hsame⟩ := (ha hpoint hf hcaptures).relates hp source hsource
  refine ⟨d, hd, fun slot hslot hactive => ⟨?_, fun code _ hmt hhas => ?_⟩⟩
  · have htracking := hmirrors.tracking hb slot hslot
    unfold DeviceState.active at hactive ⊢
    rw [htracking]
    exact hactive
  · exact hsame hb slot hslot code hmt hhas

/-! ## A contact that is misplaced -/

/-- The event that was delivered last. -/
def last_delivered (h : List Action) : Option InputEvent :=
  h.findSome? fun
    | .delivered _ e => some e
    | _ => none

/-- The session as it was looked at last. -/
def last_observed (h : List Action) : Option Session :=
  h.findSome? fun
    | .observed _ s => some s
    | _ => none

/-- A delivered event of a multitouch axis. -/
def Action.contact_event : Action → Option InputEvent
  | .delivered _ e => if e.type = EV_ABS ∧ is_multitouch_axis e.code then some e else none
  | _ => none

/-- The kernel dropped events of the source. -/
def Action.drops : Action → Bool
  | .read_failed .EVENT_SYNC_REQUIRED => true
  | _ => false

/-- What the kernel promises of a source whose events are not dropped: an event of a
multitouch axis does not repeat the value that its slot has. -/
def Unrepeated (a : Action) (past : List Action) : Prop :=
  a.drops = false ∧ ∀ e ∈ a.contact_event, ∀ s ∈ last_observed past, ∀ source ∈ s.source_device,
    source.evdev.state.slot_value source.evdev.state.slot e.code ≠ e.value

instance (a : Action) (past : List Action) : Decidable (Unrepeated a past) :=
  inferInstanceAs (Decidable (a.drops = false ∧ ∀ e ∈ a.contact_event,
    ∀ s ∈ last_observed past, ∀ source ∈ s.source_device,
      source.evdev.state.slot_value source.evdev.state.slot e.code ≠ e.value))

/-- Every contact is a true one after the last event of a frame. -/
def TrueAfterFrames (a : Action) (past : List Action) : Prop :=
  ∀ s ∈ a.loop_session, s.fatal_result = .SUCCESS →
    last_delivered past = some synchronization_boundary → TrueContacts s

instance (a : Action) (past : List Action) : Decidable (TrueAfterFrames a past) :=
  inferInstanceAs (Decidable (∀ s ∈ a.loop_session, s.fatal_result = .SUCCESS →
    last_delivered past = some synchronization_boundary → TrueContacts s))

/-- A touchpad with one slot and one axis. -/
def touchpad : Capabilities where
  uniq := none
  bustype := 3
  vendor := 1
  product := 2
  version := 1
  property := fun _ => false
  event_type := fun type => type == EV_ABS
  event_code := fun type code => type == EV_ABS &&
    [ABS_MT_SLOT, ABS_MT_TRACKING_ID, ABS_MT_POSITION_X].contains code
  abs_info := fun _ => ⟨0, 0, 0, 0, 0⟩
  repeat_value := fun _ => 0

/-- Pause; a contact at 100 begins and ends; Resume; a contact begins at 100 again, which
the source does not repeat. -/
def touched_while_paused : Nat → Answer
  | 5 => { evdev := some (.untouched touchpad) }
  | 21 => { call := some true, processed := .more }
  | 28 => { read := .success ⟨⟨EV_ABS, ABS_MT_TRACKING_ID, 5⟩, by decide⟩ }
  | 33 => { read := .success ⟨⟨EV_ABS, ABS_MT_POSITION_X, 100⟩, by decide⟩ }
  | 38 => { read := .success ⟨_, synchronization_boundary_valid⟩ }
  | 42 => { read := .success ⟨⟨EV_ABS, ABS_MT_TRACKING_ID, -1⟩, by decide⟩ }
  | 47 => { read := .success ⟨_, synchronization_boundary_valid⟩ }
  | 49 => { call := some false, processed := .more }
  | 63 => { read := .success ⟨⟨EV_ABS, ABS_MT_TRACKING_ID, 6⟩, by decide⟩ }
  | 69 => { read := .success ⟨_, synchronization_boundary_valid⟩ }
  | _ => {}

-- Only the kernel runs the session on this script.
attribute [local irreducible] run_history

/-- A contact that begins after Resume where one ended during the pause is misplaced. -/
theorem a_contact_after_resume_is_misplaced :
    ¬ ∀ (config : SessionConfig) (answers : Nat → Answer) (fuel : Nat),
      Always Unrepeated (run_history config answers fuel) →
        Always TrueAfterFrames (run_history config answers fuel) := by
  intro h
  have hrun := h ⟨"touchpad", 0, 0, true, true, false⟩ touched_while_paused 10
    (by decide +kernel)
  exact absurd hrun (by decide +kernel)

end input_proxy
