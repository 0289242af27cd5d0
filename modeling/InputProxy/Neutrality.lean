-- Neutrality as the readers of the virtual device see it. A neutralization
-- looks at the kernel state of the device and writes a boundary only if it
-- releases something there, so what earlier writes of an open frame changed
-- reaches the readers only then.
import InputProxy.Correspondence

open programs

namespace input_proxy

/-! ## The committed state -/

/-- In the kernel state of the device a key is pressed or a contact is active. -/
def HoldsInput (d : VirtualDevice) : Prop :=
  (∃ code ≤ KEY_MAX, d.capabilities.has_event_code EV_KEY code = true ∧ d.kernel.key code ≠ 0) ∨
    (d.capabilities.type_b_multitouch = true ∧
      ∃ slot < d.capabilities.slots, d.kernel.active slot = true)

instance (d : VirtualDevice) : Decidable (HoldsInput d) :=
  inferInstanceAs (Decidable ((∃ code ≤ KEY_MAX,
    d.capabilities.has_event_code EV_KEY code = true ∧ d.kernel.key code ≠ 0) ∨
    (d.capabilities.type_b_multitouch = true ∧
      ∃ slot < d.capabilities.slots, d.kernel.active slot = true)))

/-- Neutrality is a question about finitely many keys and slots. -/
theorem neutral_iff {c : Capabilities} {st : DeviceState} : Neutral c st ↔
    (∀ code ≤ KEY_MAX, c.has_event_code EV_KEY code = true → st.key code = 0) ∧
    (c.type_b_multitouch = true → ∀ slot < c.slots,
      st.slot_value slot ABS_MT_TRACKING_ID = -1) := by
  constructor
  · intro h
    exact ⟨fun code _ hcode => h.key code hcode, h.tracking⟩
  · rintro ⟨hkey, htracking⟩
    exact ⟨fun code hcode => hkey code (has_event_code_le (by decide) rfl hcode) hcode, htracking⟩

instance (c : Capabilities) (st : DeviceState) : Decidable (Neutral c st) :=
  decidable_of_iff _ neutral_iff.symm

/-- A boundary commits what was written before it. -/
theorem VirtualDevice.writes_boundary (d : VirtualDevice) (es : List InputEvent) :
    (d.writes (es ++ [synchronization_boundary])).committed =
      (d.writes (es ++ [synchronization_boundary])).kernel := by
  rw [VirtualDevice.writes_append]
  simp [VirtualDevice.write, synchronization_boundary]

theorem key_releases_ne_nil {d : VirtualDevice} : key_releases (key_values d) ≠ [] ↔
    ∃ code ≤ KEY_MAX, d.capabilities.has_event_code EV_KEY code = true ∧
      d.kernel.key code ≠ 0 := by
  constructor
  · intro hne
    obtain ⟨e, he⟩ := List.exists_mem_of_ne_nil _ hne
    obtain ⟨key, hkey, hpressed, rfl⟩ := mem_key_releases.mp he
    obtain ⟨code, hcode, rfl⟩ := List.mem_map.mp hkey
    obtain ⟨hle, hhas⟩ := mem_codes.mp hcode
    exact ⟨code, hle, hhas, hpressed⟩
  · rintro ⟨code, hle, hhas, hne⟩
    have hkey : (code, d.kernel.key code) ∈ key_values d :=
      List.mem_map.mpr ⟨code, mem_codes.mpr ⟨hle, hhas⟩, rfl⟩
    exact List.ne_nil_of_mem (mem_key_releases.mpr ⟨_, hkey, hne, rfl⟩)

theorem contact_ends_ne_nil {d : VirtualDevice} : contact_ends (slot_tracking_ids d) ≠ [] ↔
    d.capabilities.type_b_multitouch = true ∧
      ∃ slot < d.capabilities.slots, d.kernel.active slot = true := by
  unfold contact_ends slot_tracking_ids
  split_ifs with hb
  · simp [hb, DeviceState.active, List.flatMap_eq_nil_iff]
  · simp [hb]

/-- A neutralization writes something exactly if the kernel state holds input. -/
theorem neutralizing_events_boundary {d : VirtualDevice} (h : HoldsInput d) :
    ∃ es, neutralizing_events d = es ++ [synchronization_boundary] := by
  refine ⟨key_releases (key_values d) ++ contact_ends (slot_tracking_ids d), ?_⟩
  unfold neutralizing_events
  rw [if_pos]
  exact h.imp key_releases_ne_nil.mpr contact_ends_ne_nil.mpr

theorem neutralizing_events_nil {d : VirtualDevice} (h : ¬ HoldsInput d) :
    neutralizing_events d = [] := by
  have hkeys : key_releases (key_values d) = [] := by
    by_contra hne
    exact h (.inl (key_releases_ne_nil.mp hne))
  have hcontacts : contact_ends (slot_tracking_ids d) = [] := by
    by_contra hne
    exact h (.inr (contact_ends_ne_nil.mp hne))
  simp [neutralizing_events, hkeys, hcontacts]

/-! ## The law -/

/-- What the readers of the virtual device have, after a neutralization that succeeded. -/
theorem Neutralize.committed {m m' : Moment} {before after : VirtualDevice}
    (h : Neutralize m .SUCCESS m') (htracked : Tracked m.session)
    (hbefore : m.session.virtual_device = some before)
    (hafter : m'.session.virtual_device = some after) :
    Neutral after.capabilities after.committed ↔
      HoldsInput before ∨ Neutral before.capabilities before.committed := by
  cases h with
  | unread hd hr => rcases hr with hr | hr <;> cases hr
  | @wrote d _ m1 hd hw =>
    obtain rfl : d = before := by simpa [hd] using hbefore
    obtain rfl : d.writes (neutralizing_events d) = after := by
      rw [Moment.log_session, hw.success, Moment.wrote_all_session, hd] at hafter
      exact Option.some.inj hafter
    rw [VirtualDevice.writes_capabilities]
    by_cases hholds : HoldsInput d
    · obtain ⟨es, hes⟩ := neutralizing_events_boundary hholds
      have hneutral := neutralizing_events_neutralize (htracked d hd)
      rw [hes] at hneutral ⊢
      rw [VirtualDevice.writes_boundary]
      exact ⟨fun _ => .inl hholds, fun _ => hneutral⟩
    · rw [neutralizing_events_nil hholds]
      exact ⟨.inr, fun h => h.resolve_left hholds⟩

/-- The virtual device before and after a neutralization that succeeded. -/
def Action.neutralization : Action → Option (VirtualDevice × VirtualDevice)
  | .neutralized (some before) (some after) .SUCCESS => some (before, after)
  | _ => none

/-- After a neutralization that succeeds no reader has a pressed key or an active contact. -/
def NeutralToReaders (a : Action) : Prop :=
  ∀ devices ∈ a.neutralization, Neutral devices.2.capabilities devices.2.committed

instance (a : Action) : Decidable (NeutralToReaders a) :=
  inferInstanceAs (Decidable (∀ devices ∈ a.neutralization,
    Neutral devices.2.capabilities devices.2.committed))

/-- The neutralization had something to release in the kernel state, or the readers had
nothing to begin with. -/
def Releasable (a : Action) : Prop :=
  ∀ devices ∈ a.neutralization,
    HoldsInput devices.1 ∨ Neutral devices.1.capabilities devices.1.committed

/-- Each entry of a neutralization is neutral to the readers exactly if it was releasable. -/
def NeutralityEntry (a : Action) : Prop := NeutralToReaders a ↔ Releasable a

theorem neutrality_of_none {a : Action} (h : a.neutralization = none) : NeutralityEntry a := by
  unfold NeutralityEntry NeutralToReaders Releasable
  simp [h]

theorem Neutralize.neutrality {m m' : Moment} {r : Result} (h : Neutralize m r m')
    (htracked : Tracked m.session) : Adds NeutralityEntry m m' := by
  have hwritten : ∀ a, a.of_write .neutralize → NeutralityEntry a := by
    rintro a ⟨p, e, ok, rfl⟩
    exact neutrality_of_none rfl
  have hsucceeds := h
  cases h with
  | unread hd hr =>
    refine Adds.refl.log (neutrality_of_none ?_)
    rcases hr with rfl | rfl <;> rfl
  | @wrote d r m1 hd hw =>
    refine (hw.adds.mono hwritten).log ?_
    rcases hw.outcome with ⟨rfl, _⟩ | ⟨rfl, _⟩
    · cases hafter : m1.session.virtual_device with
      | none => exact neutrality_of_none rfl
      | some after =>
        have hiff := hsucceeds.committed htracked hd hafter
        unfold NeutralityEntry NeutralToReaders Releasable
        simpa [Action.neutralization] using hiff
    · refine neutrality_of_none ?_
      cases m1.session.virtual_device <;> rfl

theorem neutrality_step {config : SessionConfig} {ph ph' : Phase} {m m' : Moment}
    (hr : Reach config (ph, m)) (h : Step (ph, m) (ph', m')) : Adds NeutralityEntry m m' := by
  have htracked : Tracked m.session := (device_reach hr).tracked
  refine h.adds (fun hc => hc.adds.mono fun a ha => neutrality_of_none ?_) ⟨?_, ?_⟩
    fun a ha => neutrality_of_none ?_
  · cases a <;> first | rfl | exact ha.elim
  · intro m1 r m1' hm1 hn
    exact hn.neutrality (hm1 ▸ htracked)
  · intro m1 r m1' _ hs
    refine hs.adds_synchronization.mono fun a ha => neutrality_of_none ?_
    cases a <;> first | rfl | exact ha.elim
  · cases a <;> first | rfl | exact ha.elim

/-- In every run a neutralization that succeeds leaves the readers of the virtual device
without a pressed key and without an active contact exactly if the kernel state held one
that it could release, or the readers had none before. -/
theorem readers_are_neutral_iff_something_was_releasable (config : SessionConfig)
    (answers : Nat → Answer) (fuel : Nat) :
    Always (fun a _ => NeutralToReaders a ↔ Releasable a) (run_history config answers fuel) :=
  run_entries NeutralityEntry neutrality_step answers fuel

/-! ## A key that stays pressed -/

/-- A keyboard with one key. -/
def keyboard : Capabilities where
  uniq := none
  bustype := 3
  vendor := 1
  product := 1
  version := 1
  property := fun _ => false
  event_type := fun type => type == EV_KEY
  event_code := fun type code => type == EV_KEY && code == KEY_A
  abs_info := fun _ => ⟨0, 0, 0, 0, 0⟩
  repeat_value := fun _ => 0

/-- A key is pressed in one frame; its release is read, and Pause comes before the boundary
of that frame. -/
def paused_within_a_frame : Nat → Answer
  | 5 => { evdev := some (.untouched keyboard) }
  | 18 => { read := .success ⟨⟨EV_KEY, KEY_A, 1⟩, by decide⟩ }
  | 24 => { read := .success ⟨_, synchronization_boundary_valid⟩ }
  | 29 => { read := .success ⟨⟨EV_KEY, KEY_A, 0⟩, by decide⟩ }
  | 33 => { call := some true, processed := .more }
  | _ => {}

-- Only the kernel runs the session on this script.
attribute [local irreducible] run_history

/-- After a Pause within a frame a reader may still have the key pressed. -/
theorem a_pause_within_a_frame_leaves_a_key_pressed :
    ¬ ∀ (config : SessionConfig) (answers : Nat → Answer) (fuel : Nat),
      Always (fun a _ => NeutralToReaders a) (run_history config answers fuel) := by
  intro h
  have hrun := h ⟨"keyboard", 0, 0, true, true, false⟩ paused_within_a_frame 5
  exact absurd hrun (by decide +kernel)

end input_proxy
