-- The specs of the state corrections: the capture, the writes, the
-- neutralization and the synchronization do what `Wrote`, `Neutralize` and
-- `Synchronize` say, and nothing else.
import InputProxy.ControlSpecs

open programs Program

namespace input_proxy

/-! ## Programs that only ask -/

section asks

variable {α β : Type} {Q : α → Prop} {R : β → Prop}

/-- The program leaves the session and the history alone. -/
def Asks (f : M α) (Q : α → Prop) : Prop :=
  ∀ w, wp (fun _ => False) f (fun a w' => w'.moment = w.moment ∧ Q a) w

theorem Asks.call {f : M α} {I : World → Prop} {P : α → World → Prop} {w : World}
    (h : Asks f Q) (hP : ∀ a w', w'.moment = w.moment → Q a → P a w') : wp I f P w :=
  wp_mono (h w) (fun _ h => h.elim) fun a w' h => hP a w' h.1 h.2

theorem Asks.pure {a : α} (h : Q a) : Asks (pure a) Q := fun _ => ⟨rfl, h⟩

theorem Asks.ask : Asks ask (fun _ => True) := fun _ => ⟨rfl, trivial⟩

theorem Asks.bind {f : M α} {g : α → M β} (hf : Asks f Q) (hg : ∀ a, Q a → Asks (g a) R) :
    Asks (f >>= g) R := by
  intro w
  refine wp_bind.mpr (hf.call fun a w1 h1 ha => ?_)
  exact (hg a ha).call fun b w2 h2 hb => ⟨h2.trans h1, hb⟩

theorem Asks.ite {c : Prop} [Decidable c] {f g : M α} (hf : c → Asks f Q)
    (hg : ¬ c → Asks g Q) : Asks (if c then f else g) Q := by
  split
  · exact hf ‹_›
  · exact hg ‹_›

end asks

/-- A capture or a query gives this list, or it fails. -/
def Captures {β : Type} (es : List β) (r : Except Result (List β)) : Prop :=
  match r with
  | .ok es' => es' = es
  | .error r => r = .ERROR_EVENT_READ_FAILED ∨ r = .ERROR_OUT_OF_MEMORY

theorem captures_ok {β : Type} {es es' : List β} : Captures es (.ok es') ↔ es' = es := Iff.rfl

theorem Asks.walk {α β : Type} {body : List β → α → M (Except Result (List β))}
    {f : α → List β} (h : ∀ b a, Asks (body b a) (Captures (b ++ f a))) (l : List α)
    (b : List β) : Asks (walk body l b) (Captures (b ++ l.flatMap f)) := by
  induction l generalizing b with
  | nil => exact .pure (by simp [Captures])
  | cons a rest ih =>
    refine (h b a).bind fun r hr => ?_
    cases r with
    | error e => exact .pure hr
    | ok b' =>
      obtain rfl := captures_ok.mp hr
      simpa [List.append_assoc] using ih (b ++ f a)

/-! ## The capture -/

-- A loop over codes must not be run when a goal is compared with a spec.
attribute [local irreducible] Capabilities.codes

theorem append_state_event.spec (state : List InputEvent) (type code : Nat) (value : Int) :
    Asks (append_state_event state type code value)
      (Captures (state ++ [⟨type, code, value⟩])) := by
  unfold append_state_event
  refine Asks.ask.bind fun a _ => .ite (fun _ => ?_) fun _ => ?_
  · exact .pure (Or.inr rfl)
  · exact .pure rfl

theorem append_value.spec (state : List InputEvent) (type code : Nat) (value : Int) :
    Asks (append_value state type code value) (Captures (state ++ [⟨type, code, value⟩])) := by
  unfold append_value
  refine Asks.ask.bind fun a _ => .ite (fun _ => ?_) fun _ => ?_
  · exact .pure (Or.inl rfl)
  · exact append_state_event.spec state type code value

/-- A capture loop over codes. -/
theorem capture_values.spec (state : List InputEvent) (type : Nat) (value : Nat → Int)
    (codes : List Nat) :
    Asks (walk (fun state code => append_value state type code (value code)) codes state)
      (Captures (state ++ codes.map fun code => ⟨type, code, value code⟩)) := by
  rw [List.map_eq_flatMap]
  exact .walk (fun state code => append_value.spec state type code (value code)) codes state

theorem capture_event_type.spec (evdev : Libevdev) (state : List InputEvent)
    (type maximum_code : Nat) :
    Asks (capture_event_type evdev state type maximum_code)
      (Captures (state ++
        value_events evdev type (evdev.capabilities.codes type maximum_code))) :=
  capture_values.spec state type _ _

theorem capture_absolute_state.spec (evdev : Libevdev) (state : List InputEvent) (b : Bool) :
    Asks (capture_absolute_state evdev state b)
      (Captures (state ++ value_events evdev EV_ABS (absolute_codes evdev.capabilities b))) :=
  capture_values.spec state EV_ABS _ _

theorem capture_slot.spec (evdev : Libevdev) (state : List InputEvent) (slot : Nat) :
    Asks (capture_slot evdev state slot) (Captures (state ++ slot_events evdev slot)) := by
  unfold capture_slot
  refine (append_state_event.spec _ _ _ _).bind fun r hr => ?_
  cases r with
  | error e => exact .pure hr
  | ok st =>
    obtain rfl := captures_ok.mp hr
    refine (append_value.spec _ _ _ _).bind fun r hr => ?_
    cases r with
    | error e => exact .pure hr
    | ok st =>
      obtain rfl := captures_ok.mp hr
      refine .ite (fun hv => ?_) fun hv => ?_
      · exact .pure (by simp [Captures, slot_events, hv])
      · have h := capture_values.spec (state ++ [⟨EV_ABS, ABS_MT_SLOT, slot⟩] ++
          [⟨EV_ABS, ABS_MT_TRACKING_ID, evdev.state.slot_value slot ABS_MT_TRACKING_ID⟩])
          EV_ABS (evdev.state.slot_value slot) (contact_axes evdev.capabilities)
        simpa [slot_events, hv, List.append_assoc] using h

theorem capture_multitouch_state.spec (evdev : Libevdev) (state : List InputEvent) :
    Asks (capture_multitouch_state evdev state) (fun r =>
      Captures (state ++ multitouch_events evdev) r ∧
        (r.isOk → 0 < evdev.capabilities.slots)) := by
  unfold capture_multitouch_state
  refine Asks.ask.bind fun a _ => .ite (fun _ => ?_) fun _ => .ite (fun _ => ?_) fun hs => ?_
  · exact .pure ⟨Or.inl rfl, by simp [Except.isOk, Except.toBool]⟩
  · exact .pure ⟨Or.inl rfl, by simp [Except.isOk, Except.toBool]⟩
  have hslots : 0 < evdev.capabilities.slots := by unfold Capabilities.slots; omega
  refine (Asks.walk (capture_slot.spec evdev) _ _).bind fun r hr => ?_
  cases r with
  | error e => exact .pure ⟨hr, fun _ => hslots⟩
  | ok st =>
    obtain rfl := captures_ok.mp hr
    intro w
    refine (append_state_event.spec _ _ _ _).call fun r w' hm hr => ⟨hm, ?_, fun _ => hslots⟩
    simpa [multitouch_events, List.append_assoc] using hr

/-- The capture gives the list of `capture_events`, or it fails. -/
theorem source_device_capture_state.spec {I : World → Prop} {source : SourceDevice} {w : World}
    {Q : Except Result (List InputEvent) → World → Prop}
    (hs : w.session.source_device = some source)
    (hQ : ∀ r w', w'.moment = w.moment → Captures (capture_events source.evdev) r →
      (r.isOk → source.evdev.capabilities.type_b_multitouch →
        0 < source.evdev.capabilities.slots) → Q r w') :
    wp I source_device_capture_state Q w := by
  unfold source_device_capture_state
  simp only [wp_bind, wp_session, hs]
  refine (capture_event_type.spec _ _ _ _).call fun r w1 h1 hr => ?_
  cases r with
  | error e => exact hQ _ _ h1 hr (by simp [Except.isOk, Except.toBool])
  | ok keys =>
    obtain rfl := captures_ok.mp hr
    refine wp_bind.mpr ((capture_event_type.spec _ _ _ _).call fun r w2 h2 hr => ?_)
    cases r with
    | error e => exact hQ _ _ (h2.trans h1) hr (by simp [Except.isOk, Except.toBool])
    | ok switches =>
      obtain rfl := captures_ok.mp hr
      refine wp_bind.mpr ((capture_absolute_state.spec _ _ _).call fun r w3 h3 hr => ?_)
      cases r with
      | error e =>
        exact hQ _ _ (h3.trans (h2.trans h1)) hr (by simp [Except.isOk, Except.toBool])
      | ok axes =>
        obtain rfl := captures_ok.mp hr
        have hm := h3.trans (h2.trans h1)
        cases hb : source.evdev.capabilities.type_b_multitouch with
        | false =>
          refine hQ _ _ hm ?_ (by simp [hb])
          simp [Captures, capture_events, hb]
        | true =>
          refine (capture_multitouch_state.spec _ _).call fun r w4 h4 hr => ?_
          refine hQ _ _ (h4.trans hm) ?_ fun hok _ => hr.2 hok
          simpa [capture_events, hb] using hr.1

/-! ## Writes -/

/-- The program, in a session with a virtual device, goes from moment to moment by `R`. -/
def Does {α : Type} (P : World → Prop) (f : M α) (R : Moment → α → Moment → Prop) : Prop :=
  ∀ w, P w → wp (fun _ => False) f (fun a w' => R w.moment a w'.moment) w

theorem Does.call {α : Type} {P : World → Prop} {f : M α} {R : Moment → α → Moment → Prop}
    {I : World → Prop} {Q : α → World → Prop} {w : World} (h : Does P f R) (hw : P w)
    (hQ : ∀ a w', R w.moment a w'.moment → Q a w') : wp I f Q w :=
  wp_mono (h w hw) (fun _ h => h.elim) hQ

theorem virtual_device_write_event.spec (cause : Cause) (event : InputEvent) :
    Does (fun w => w.session.virtual_device.isSome) (virtual_device_write_event cause event)
      (fun m r m' => (r = .SUCCESS ∧ m' = m.wrote cause event) ∨
        (r = .ERROR_EVENT_WRITE_FAILED ∧
          m' = m.log (.written cause m.session.runtime_state.paused event false))) := by
  intro w hd
  obtain ⟨d, hd⟩ := Option.isSome_iff_exists.mp hd
  unfold virtual_device_write_event
  simp only [wp_bind, wp_session, hd]
  simp only [wp_ask]
  split
  · refine Or.inl ⟨rfl, ?_⟩
    simp [World.moment, Moment.wrote, Moment.log, Moment.put, hd]
  · exact Or.inr ⟨rfl, rfl⟩

theorem write_events.spec (cause : Cause) (events : List InputEvent) :
    Does (fun w => w.session.virtual_device.isSome) (write_events cause events)
      (Wrote cause events) := by
  induction events with
  | nil => exact fun w _ => .nil w.moment
  | cons e es ih =>
    intro w hd
    unfold write_events
    refine wp_bind.mpr ((virtual_device_write_event.spec cause e).call hd fun r w1 h => ?_)
    rcases h with ⟨rfl, hm⟩ | ⟨rfl, hm⟩
    · have hd1 : w1.session.virtual_device.isSome := by
        have : w1.session = (w.moment.wrote cause e).session := congrArg Moment.session hm
        simpa [this, Moment.wrote, World.moment] using hd
      refine ih.call hd1 fun r w2 h2 => .cons ?_
      rwa [← hm]
    · change Wrote cause (e :: es) w.moment _ w1.moment
      rw [hm]
      exact .fail e es w.moment

/-- Two lists of writes, one after the other. -/
theorem Wrote.append {cause : Cause} {es fs : List InputEvent} {m m1 m2 : Moment} {r : Result}
    (h : Wrote cause es m .SUCCESS m1) (h2 : Wrote cause fs m1 r m2) :
    Wrote cause (es ++ fs) m r m2 := by
  generalize hs : Result.SUCCESS = s at h
  induction h with
  | nil m => exact h2
  | fail e es m => cases hs
  | cons _ ih => exact .cons (ih h2 hs)

theorem Wrote.stop {cause : Cause} {es fs : List InputEvent} {m m1 : Moment} {r : Result}
    (h : Wrote cause es m r m1) (hr : r ≠ .SUCCESS) : Wrote cause (es ++ fs) m r m1 := by
  induction h with
  | nil m => exact absurd rfl hr
  | fail e es m => exact .fail e (es ++ fs) m
  | cons _ ih => exact .cons (ih hr)

theorem Wrote.virtual {cause : Cause} {es : List InputEvent} {m m' : Moment} {r : Result}
    (h : Wrote cause es m r m') :
    m'.session.virtual_device.isSome = m.session.virtual_device.isSome := by
  obtain ⟨fs, hfs⟩ := h.same.session
  rw [hfs]
  simp

/-! ## Neutralization -/

theorem query_keys.spec (d : VirtualDevice) : Asks (query_keys d) (Captures (key_values d)) := by
  unfold query_keys key_values
  rw [List.map_eq_flatMap, ← List.nil_append (List.flatMap _ _)]
  refine .walk (fun values code => Asks.ask.bind fun a _ => .ite (fun _ => ?_) fun _ => ?_) _ []
  · exact .pure (Or.inl rfl)
  · exact .pure rfl

theorem query_multitouch.spec (d : VirtualDevice) :
    Asks (query_multitouch d) (Captures (slot_tracking_ids d)) := by
  unfold query_multitouch slot_tracking_ids
  refine .ite (fun hb => ?_) fun hb => .ite (fun _ => ?_) fun _ => ?_
  · rw [if_neg (by simpa using hb)]
    exact .pure rfl
  · exact .pure (Or.inl rfl)
  refine Asks.ask.bind fun a _ => .ite (fun _ => ?_) fun _ => ?_
  · exact .pure (Or.inr rfl)
  simp only [Bool.not_eq_true', Bool.not_eq_false] at hb
  rw [if_pos hb]
  unfold query_slots
  rw [List.map_eq_flatMap, ← List.nil_append (List.flatMap _ _)]
  refine .walk (fun values slot => Asks.ask.bind fun a _ => .ite (fun _ => ?_) fun _ => ?_) _ []
  · exact .pure (Or.inl rfl)
  · exact .pure rfl

theorem write_neutralizing_events.spec (d : VirtualDevice) :
    Does (fun w => w.session.virtual_device.isSome)
      (write_neutralizing_events (key_values d) (slot_tracking_ids d))
      (Wrote .neutralize (neutralizing_events d)) := by
  intro w hd
  unfold write_neutralizing_events neutralizing_events
  refine wp_bind.mpr ((write_events.spec _ _).call hd fun r w1 h1 => ?_)
  split
  · rename_i hr
    rw [List.append_assoc]
    exact h1.stop hr
  rename_i hr
  obtain rfl := not_not.mp hr
  have hd1 : w1.session.virtual_device.isSome := h1.virtual.trans hd
  refine wp_bind.mpr ((write_events.spec _ _).call hd1 fun r w2 h2 => ?_)
  split
  · rename_i hr
    rw [List.append_assoc]
    exact h1.append (h2.stop hr)
  rename_i hr
  obtain rfl := not_not.mp hr
  have hd2 : w2.session.virtual_device.isSome := h2.virtual.trans hd1
  split
  · refine (virtual_device_write_event.spec _ _).call hd2 fun r w3 h3 => ?_
    refine (h1.append h2).append ?_
    rcases h3 with ⟨rfl, hm⟩ | ⟨rfl, hm⟩ <;> rw [hm]
    · exact .cons (.nil _)
    · exact .fail _ _ _
  · exact (h1.append h2).append (.nil _)

theorem virtual_device_neutralize.spec :
    Does (fun w => w.session.virtual_device.isSome) virtual_device_neutralize Neutralize := by
  intro w hd
  have hsome := hd
  obtain ⟨d, hd⟩ := Option.isSome_iff_exists.mp hd
  have unread : ∀ (w' : World) r, w'.moment = w.moment →
      (r = .ERROR_EVENT_READ_FAILED ∨ r = .ERROR_OUT_OF_MEMORY) →
      Neutralize w.moment r
        (w'.moment.log (.neutralized w.session.virtual_device w'.session.virtual_device r)) := by
    intro w' r hm hr
    have hs : w'.session = w.session := congrArg Moment.session hm
    rw [hm, hs, hd]
    exact .unread hd hr
  unfold virtual_device_neutralize neutralize_device
  simp only [wp_bind, wp_session, hd]
  simp only [wp_ask]
  split
  · rw [← hd]
    exact unread _ _ rfl (Or.inl rfl)
  refine wp_bind.mpr ((query_keys.spec d).call fun r w1 h1 hr => ?_)
  cases r with
  | error e => rw [← hd]; exact unread _ _ h1 hr
  | ok keys =>
    obtain rfl := captures_ok.mp hr
    refine wp_bind.mpr ((query_multitouch.spec d).call fun r w2 h2 hr => ?_)
    cases r with
    | error e => rw [← hd]; exact unread _ _ (h2.trans h1) hr
    | ok slots =>
      obtain rfl := captures_ok.mp hr
      have hm : w2.moment = w.moment := h2.trans h1
      have hd2 : w2.session.virtual_device.isSome := by
        rw [show w2.session = w.session from congrArg Moment.session hm]
        exact hsome
      refine (write_neutralizing_events.spec d).call hd2 fun r w3 h3 => ?_
      rw [hm] at h3
      exact .wrote hd h3

/-! ## Synchronization -/

theorem source_device_check_available.spec :
    ∀ w : World, w.session.source_device.isSome →
      wp (fun _ => False) source_device_check_available (fun r w' => w'.moment = w.moment ∧
        (r = .SUCCESS ∨ r = .ERROR_SOURCE_DISCONNECTED ∨ r = .ERROR_EVENT_READ_FAILED)) w := by
  intro w hs
  obtain ⟨source, hs⟩ := Option.isSome_iff_exists.mp hs
  unfold source_device_check_available
  simp only [wp_bind, wp_session, hs]
  simp only [wp_ask]
  split
  · exact ⟨rfl, Or.inl rfl⟩
  · split
    · exact ⟨rfl, Or.inr (Or.inl rfl)⟩
    · exact ⟨rfl, Or.inr (Or.inr rfl)⟩

theorem session_synchronize_state.spec :
    Does (fun w => w.session.source_device.isSome ∧ w.session.virtual_device.isSome)
      session_synchronize_state Synchronize := by
  rintro w ⟨hs, hd⟩
  obtain ⟨source, hs⟩ := Option.isSome_iff_exists.mp hs
  have hn : (w.session.source_device.isNone || w.session.virtual_device.isNone) = false := by
    simp [hs, Option.isNone_eq_false_iff, hd]
  unfold session_synchronize_state synchronize_state
  simp only [wp_bind, wp_session, hn]
  refine wp_bind.mpr (source_device_capture_state.spec hs fun r w1 h1 hr hb => ?_)
  cases r with
  | error e =>
    change Synchronize w.moment e (w1.moment.log _)
    rw [h1]
    exact .uncaptured hr
  | ok events =>
    obtain rfl := captures_ok.mp hr
    simp only [wp_bind, wp_record]
    have hd1 : w1.session.virtual_device.isSome := by
      rw [show w1.session = w.session from congrArg Moment.session h1]; exact hd
    have hb := hb rfl
    refine (write_events.spec _ _).call hd1 fun r w2 h2 => ?_
    have h2 : Wrote .synchronize (capture_events source.evdev)
        (w.moment.log (.captured w.session (capture_events source.evdev))) r w2.moment := by
      rw [← h1]; exact h2
    split
    · rename_i hr
      exact .unwritten hs hb (h2.stop hr) hr
    rename_i hr
    obtain rfl := not_not.mp hr
    have hd2 : w2.session.virtual_device.isSome := h2.virtual.trans hd
    refine wp_bind.mpr ((virtual_device_write_event.spec _ _).call hd2 fun r w3 h3 => ?_)
    have h3 : Wrote .synchronize (capture_events source.evdev ++ [synchronization_boundary])
        (w.moment.log (.captured w.session (capture_events source.evdev))) r w3.moment := by
      refine h2.append ?_
      rcases h3 with ⟨rfl, hm⟩ | ⟨rfl, hm⟩ <;> rw [hm]
      · exact .cons (.nil _)
      · exact .fail _ _ _
    split
    · rename_i hr
      exact .unwritten hs hb h3 hr
    rename_i hr
    obtain rfl := not_not.mp hr
    have hs3 : w3.session.source_device.isSome := by
      obtain ⟨fs, hfs⟩ := h3.same.session
      rw [show w3.session = _ from hfs]
      simp [World.moment, hs]
    refine wp_bind.mpr (wp_mono (source_device_check_available.spec w3 hs3)
      (fun _ h => h.elim) fun r w4 h4 => ?_)
    simp only [wp_bind, wp_record, wp_pure]
    change Synchronize w.moment r ((w4.moment.log (.checked r)).log (.synchronized r))
    rw [h4.1]
    exact .checked hs hb h3 h4.2

end input_proxy
