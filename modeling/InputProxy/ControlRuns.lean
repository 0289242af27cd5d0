-- Every run is a path of turns: each function of the session, down to the
-- devices, is one turn, or a path of them, whatever the world answers.
import InputProxy.ControlTurns

open programs Program

namespace input_proxy

/-! ## Paths -/

/-- The later world has the same answers, and a path of calls leads to it. -/
def World.calls (w w' : World) : Prop :=
  w'.answers = w.answers ∧ Calls w.answers w.moment w'.moment

/-- The same, of calls that leave control and activity alone. -/
def World.aside (w w' : World) : Prop :=
  w'.answers = w.answers ∧ Outside w.moment w'.moment

/-- From a calm world, a path of turns leads to the later world. -/
def World.reaches (w w' : World) : Prop :=
  w.moment.calm → w'.answers = w.answers ∧ Turns w.answers w.moment w'.moment

/-- And then it is calm, too. -/
def World.turns (w w' : World) : Prop := w.reaches w' ∧ (w.moment.calm → w'.moment.calm)

instance : IsPreorder World World.calls where
  refl _ := ⟨rfl, .refl⟩
  trans _ _ _ h h' := ⟨h'.1.trans h.1, h.2.trans (h.1 ▸ h'.2)⟩

instance : IsPreorder World World.aside where
  refl w := ⟨rfl, Beside.refl w.moment⟩
  trans _ _ _ h h' := ⟨h'.1.trans h.1, h.2.trans h'.2⟩

theorem World.reaches_after {w w1 w' : World} (h : w.turns w1) (h' : w1.reaches w') :
    w.reaches w' := by
  intro hq
  obtain ⟨ha, ht⟩ := h.1 hq
  obtain ⟨ha', ht'⟩ := h' (h.2 hq)
  exact ⟨ha'.trans ha, ht.trans (ha ▸ ht')⟩

instance : Chains World.reaches World.turns where
  refl _ := ⟨fun _ => ⟨rfl, .refl⟩, fun hq => hq⟩
  trans _ _ _ h h' := ⟨World.reaches_after h h'.1, fun hq => h'.2 (h.2 hq)⟩
  cut h := h.1
  after := World.reaches_after

/-- The program is a path of calls. -/
abbrev Runs {α : Type} (f : M α) : Prop := Follows World.calls World.calls f

/-- The program leaves control and activity alone. -/
abbrev Spares {α : Type} (f : M α) : Prop := Follows World.aside World.aside f

/-- The program is a path of turns, if it begins in a calm world. -/
abbrev Goes {α : Type} (f : M α) : Prop := Follows World.reaches World.turns f

section paths

variable {α : Type} {w w' : World}

theorem World.calls_single {m : Moment} (ha : w'.answers = w.answers) (hm : w'.moment = m)
    (h : Call w.answers w.moment m) : w.calls w' :=
  ⟨ha, hm ▸ .single h⟩

theorem World.aside_calls (h : w.aside w') : w.calls w' :=
  World.calls_single h.1 rfl (.outside h.2)

theorem spares_runs {f : M α} (h : Spares f) : Runs f :=
  h.mono (fun _ _ => World.aside_calls) fun _ _ => World.aside_calls

theorem ask_spares : Spares ask := fun w => ⟨rfl, .refl w.moment⟩

theorem session_spares : Spares session := fun w => ⟨rfl, .refl w.moment⟩

theorem new_id_spares : Spares new_id := fun w => ⟨rfl, .refl w.moment⟩

theorem monotonic_now_spares : Spares monotonic_now := fun w => ⟨rfl, .refl w.moment⟩

/-- A change of the session, and an entry, that are none of control's business. -/
theorem modify_spares {f : Session → Session} (h : ∀ s, (f s).tracked = s.tracked) :
    Spares (modify_session f) := fun w => ⟨rfl, h w.session, Adds.refl⟩

theorem record_spares {a : Action} (h : a.outside) : Spares (record a) := fun _ =>
  ⟨rfl, rfl, Adds.refl.log h⟩

theorem modify_then {f : Session → Session} {g : Unit → M α}
    (h : ∀ s, (f s).tracked = s.tracked) (hg : Spares (g ())) :
    Spares (modify_session f >>= g) :=
  (modify_spares h).bind fun _ => hg

theorem record_then {a : Action} {g : Unit → M α} (h : a.outside)
    (hg : Spares (g ())) : Spares (record a >>= g) :=
  (record_spares h).bind fun _ => hg

theorem after_modify {f : Session → Session} {g : Unit → M α}
    (h : ∀ s, (f s).tracked = s.tracked) (hg : Runs (g ())) : Runs (modify_session f >>= g) :=
  (spares_runs (modify_spares h)).bind fun _ => hg

theorem after_record {a : Action} {g : Unit → M α} (h : a.outside)
    (hg : Runs (g ())) : Runs (record a >>= g) :=
  (spares_runs (record_spares h)).bind fun _ => hg

theorem World.calls_path (h : w.calls w') : Turns w.answers w.moment w'.moment :=
  Relation.ReflTransGen.mono (fun _ _ hc => Turn.call hc) _ _ h.2

theorem World.calls_reaches (h : w.calls w') : w.reaches w' := fun _ =>
  ⟨h.1, World.calls_path h⟩

/-- Calls begin no dispatch. -/
theorem World.calls_turns (h : w.calls w') : w.turns w' :=
  ⟨World.calls_reaches h, fun hq => h.2.calm hq⟩

theorem runs_goes {f : M α} (h : Runs f) : Goes f :=
  h.mono (fun _ _ => World.calls_reaches) fun _ _ => World.calls_turns

theorem loop_head_goes : Goes (observe .loop_head) := fun _ =>
  ⟨fun hm => ⟨rfl, .single (.looped hm.quiet)⟩, fun hm => ⟨hm.quiet, hm.settled⟩⟩

theorem spares_goes {f : M α} (h : Spares f) : Goes f := runs_goes (spares_runs h)

end paths

/-! ## Source devices -/

-- A loop over codes must not be run when a goal is compared with a rule.
attribute [local irreducible] Capabilities.codes

theorem source_device_open.spares : Spares source_device_open := by
  unfold source_device_open
  refine modify_then (fun _ => rfl) (ask_spares.bind fun a => ?_)
  split
  · exact record_then trivial (.pure _)
  · refine new_id_spares.bind fun id => modify_then (fun _ => rfl) ?_
    exact record_then trivial (.pure _)

theorem source_device_close.spares : Spares source_device_close := by
  unfold source_device_close
  refine session_spares.bind fun s => ?_
  split
  · exact .pure _
  · exact record_spares trivial

theorem append_state_event.spares (state : List InputEvent) (type code : Nat) (value : Int) :
    Spares (append_state_event state type code value) := by
  unfold append_state_event
  exact ask_spares.bind fun a => .ite (.pure _) (.pure _)

theorem append_value.spares (state : List InputEvent) (type code : Nat) (value : Int) :
    Spares (append_value state type code value) := by
  unfold append_value
  exact ask_spares.bind fun a => .ite (.pure _) (append_state_event.spares _ _ _ _)

theorem capture_slot.spares (evdev : Libevdev) (state : List InputEvent) (slot : Nat) :
    Spares (capture_slot evdev state slot) := by
  unfold capture_slot
  refine (append_state_event.spares _ _ _ _).bind fun r => ?_
  split
  · exact .pure _
  · refine (append_value.spares _ _ _ _).bind fun r => ?_
    split
    · exact .pure _
    · exact .ite (.pure _) (.walk (fun _ _ => append_value.spares _ _ _ _) _ _)

theorem capture_multitouch_state.spares (evdev : Libevdev) (state : List InputEvent) :
    Spares (capture_multitouch_state evdev state) := by
  unfold capture_multitouch_state
  refine ask_spares.bind fun a => .ite (.pure _) (.ite (.pure _) ?_)
  refine (Follows.walk (capture_slot.spares evdev) _ _).bind fun r => ?_
  split
  · exact .pure _
  · exact append_state_event.spares _ _ _ _

theorem source_device_capture_state.spares : Spares source_device_capture_state := by
  unfold source_device_capture_state
  have hvalues : ∀ (type : Nat) (value : Nat → Int) codes (state : List InputEvent),
      Spares (Program.walk (fun state code => append_value state type code (value code)) codes
        state) := fun type value codes state =>
    .walk (fun _ _ => append_value.spares _ _ _ _) codes state
  refine session_spares.bind fun s => ?_
  split
  · exact .pure _
  · refine Follows.bind (hvalues EV_KEY _ _ _) fun r => ?_
    split
    · exact .pure _
    · refine Follows.bind (hvalues EV_SW _ _ _) fun r => ?_
      split
      · exact .pure _
      · refine Follows.bind (hvalues EV_ABS _ _ _) fun r => ?_
        split
        · exact .pure _
        · exact .ite (capture_multitouch_state.spares _ _) (.pure _)

theorem source_device_check_available.spares : Spares source_device_check_available := by
  unfold source_device_check_available
  refine session_spares.bind fun s => ?_
  split
  · exact .pure _
  · refine ask_spares.bind fun a => ?_
    split
    · exact .pure _
    · exact .ite (.pure _) (.pure _)

/-! ## Virtual devices -/

theorem virtual_device_create.spares : Spares virtual_device_create := by
  unfold virtual_device_create
  refine modify_then (fun _ => rfl) (session_spares.bind fun s => ?_)
  split
  · exact record_then trivial (.pure _)
  · refine ask_spares.bind fun a => .ite ?_ ?_
    · exact record_then trivial (.pure _)
    · split
      · exact record_then trivial (.pure _)
      · refine new_id_spares.bind fun id => modify_then (fun _ => rfl) ?_
        exact record_then trivial (.pure _)

theorem virtual_device_is_compatible.spares : Spares virtual_device_is_compatible := by
  unfold virtual_device_is_compatible
  refine session_spares.bind fun s => ?_
  split
  · exact record_then trivial (.pure _)
  · exact .pure _

theorem virtual_device_destroy.spares : Spares virtual_device_destroy := by
  unfold virtual_device_destroy
  refine session_spares.bind fun s => ?_
  split
  · exact .pure _
  · exact record_spares trivial

theorem virtual_device_write_event.spares (cause : Cause) (event : InputEvent) :
    Spares (virtual_device_write_event cause event) := by
  unfold virtual_device_write_event
  refine session_spares.bind fun s => ?_
  split
  · exact .pure _
  · refine ask_spares.bind fun a => .ite ?_ ?_
    · refine modify_then (fun _ => rfl) ?_
      exact record_then trivial (.pure _)
    · exact record_then trivial (.pure _)

theorem write_events.spares (cause : Cause) (events : List InputEvent) :
    Spares (write_events cause events) := by
  induction events with
  | nil => exact .pure _
  | cons event rest ih =>
    unfold write_events
    exact (virtual_device_write_event.spares cause event).bind fun r => .ite (.pure _) ih

theorem query_multitouch.spares (device : VirtualDevice) : Spares (query_multitouch device) := by
  unfold query_multitouch
  refine .ite (.pure _) (.ite (.pure _) (ask_spares.bind fun a => .ite (.pure _) ?_))
  exact .walk (fun _ _ => ask_spares.bind fun a => .ite (.pure _) (.pure _)) _ _

theorem write_neutralizing_events.spares (key_values slot_tracking_ids : List (Nat × Int)) :
    Spares (write_neutralizing_events key_values slot_tracking_ids) := by
  unfold write_neutralizing_events
  refine (write_events.spares _ _).bind fun r => .ite (.pure _) ?_
  refine (write_events.spares _ _).bind fun r => .ite (.pure _) ?_
  exact .ite (virtual_device_write_event.spares _ _) (.pure _)

theorem neutralize_device.spares : Spares neutralize_device := by
  unfold neutralize_device
  refine session_spares.bind fun s => ?_
  split
  · exact .pure _
  · refine ask_spares.bind fun a => .ite (.pure _) ?_
    refine Follows.bind (.walk (fun _ _ => ask_spares.bind fun a => .ite (.pure _) (.pure _)) _ _)
      fun r => ?_
    split
    · exact .pure _
    · refine (query_multitouch.spares _).bind fun r => ?_
      split
      · exact .pure _
      · exact write_neutralizing_events.spares _ _

theorem virtual_device_neutralize.spares : Spares virtual_device_neutralize := by
  unfold virtual_device_neutralize
  refine session_spares.bind fun s => neutralize_device.spares.bind fun r => ?_
  exact session_spares.bind fun s => record_then trivial (.pure _)

/-! ## Corrections -/

theorem synchronize_state.spares : Spares synchronize_state := by
  unfold synchronize_state
  refine session_spares.bind fun s => .ite (.pure _) ?_
  refine source_device_capture_state.spares.bind fun r => ?_
  split
  · exact .pure _
  · refine record_then trivial ((write_events.spares _ _).bind fun r => ?_)
    refine .ite (.pure _) ((virtual_device_write_event.spares _ _).bind fun r => .ite (.pure _) ?_)
    refine source_device_check_available.spares.bind fun r => ?_
    exact record_then trivial (.pure _)

theorem session_synchronize_state.spares : Spares session_synchronize_state := by
  unfold session_synchronize_state
  exact synchronize_state.spares.bind fun r => record_then trivial (.pure _)

theorem correct_state.spares (paused : Bool) : Spares (correct_state paused) := by
  unfold correct_state
  refine session_spares.bind fun s => .ite ?_ (.pure _)
  refine record_then trivial ?_
  exact .ite virtual_device_neutralize.spares session_synchronize_state.spares

/-! ## The control object and the activity -/

/-- From `w` the program comes to a moment that `M` allows. -/
def Effect (f : M Unit) (w : World) (m : Moment → Prop) : Prop :=
  wp (fun _ => False) f (fun _ w' => w'.answers = w.answers ∧ m w'.moment) w

theorem Effect.call {I : World → Prop} {f : M Unit} {w : World} {m : Moment → Prop}
    {Q : Unit → World → Prop} (h : Effect f w m)
    (hQ : ∀ w', w'.answers = w.answers → m w'.moment → Q () w') : wp I f Q w :=
  wp_mono h (fun _ h => h.elim) fun _ w' h => hQ w' h.1 h.2

theorem Effect.calls {f : M Unit} {w : World} {m : Moment → Prop} (h : Effect f w m)
    (hm : ∀ m', m m' → Calls w.answers w.moment m') : wp w.calls f (fun _ w' => w.calls w') w :=
  h.call fun _ ha hm' => ⟨ha, hm _ hm'⟩

theorem emit_properties_changed.effect (control : RuntimeControl) (changed : List Property)
    (w : World) :
    Effect (emit_properties_changed control changed) w fun m' =>
      ∃ j, m' = w.moment.notify control changed (w.answers j).emit := by
  unfold Effect emit_properties_changed
  simp only [wp_bind, wp_ask, wp_record_emitted]
  cases ho : (w.answers w.asked).emit with
  | true => exact ⟨rfl, w.asked, by rw [ho]; rfl⟩
  | false =>
    cases hd : control.dispatch_active with
    | true => exact ⟨rfl, w.asked, by simp [ho, Moment.notify, hd]; rfl⟩
    | false => exact ⟨rfl, w.asked, by simp [ho, Moment.notify, hd]; rfl⟩

theorem runtime_control_apply_changes.effect (changes : Changes) (w : World) :
    Effect (runtime_control_apply_changes true changes) w fun m' =>
      ∃ j, m' = w.moment.apply changes (w.answers j).emit := by
  unfold Effect runtime_control_apply_changes
  simp only [wp_bind, wp_session, wp_modify_session]
  split
  · rename_i h
    have h : changed_properties w.session.runtime_state changes = [] := by simpa using h
    exact ⟨rfl, 0, (Moment.apply_silent (m := w.moment) (.inr h)).symm⟩
  rename_i h
  have h : changed_properties w.session.runtime_state changes ≠ [] := fun he => h (.inl he)
  split
  · rename_i hc
    exact ⟨rfl, 0, (Moment.apply_silent (m := w.moment) (.inl hc)).symm⟩
  · rename_i control hc
    refine (emit_properties_changed.effect _ _ _).call fun w' ha hm => ⟨ha, ?_⟩
    obtain ⟨j, hj⟩ := hm
    exact ⟨j, hj.trans (Moment.apply_notified (m := w.moment) hc h).symm⟩

theorem schedule_runtime_control_retry.effect (w : World) :
    Effect schedule_runtime_control_retry w fun m' =>
      ∃ k, m' = w.moment.schedule (w.answers k).clock := by
  unfold Effect schedule_runtime_control_retry
  simp only [wp_bind, wp_monotonic_now]
  cases hc : (w.answers w.asked).clock with
  | none => exact ⟨rfl, w.asked, by rw [hc]; rfl⟩
  | some now => exact ⟨rfl, w.asked, by rw [hc]; rfl⟩

theorem discard_activity_tracking.effect (w : World) :
    Effect discard_activity_tracking w fun m' => m' = w.moment.discard := by
  unfold Effect discard_activity_tracking runtime_control_apply_changes
  simp only [wp_bind, wp_modify_session, wp_session]
  rw [if_pos (.inr rfl)]
  exact ⟨rfl, rfl⟩

theorem update_control_availability.effect (w : World) :
    Effect update_control_availability w fun m' =>
      ∃ k, m' = w.moment.update (w.answers k).clock := by
  unfold Effect update_control_availability
  simp only [wp_bind, wp_session]
  split
  · rename_i hc
    split
    · rename_i ht
      refine wp_bind.mpr ((discard_activity_tracking.effect w).call fun w1 ha1 hm1 => ?_)
      refine wp_bind.mpr ((schedule_runtime_control_retry.effect w1).call fun w2 ha2 hm2 => ?_)
      obtain ⟨k, hk⟩ := hm2
      rw [hm1, ha1] at hk
      refine ⟨ha2.trans ha1, k, ?_⟩
      rw [Moment.update_lost hc ht, ← hk]
      rfl
    · rename_i ht
      have ht : w.session.activity_tracking_available = false := by simpa using ht
      exact ⟨rfl, 0, (Moment.update_gone (m := w.moment) hc ht).symm⟩
  · rename_i hc
    have hlive : ∀ w' : World, w'.answers = w.answers →
        w'.moment = (w.moment.put fun s => { s with activity_tracking_available := true }) →
        w'.answers = w.answers ∧
          ∃ k, w'.moment.observe .step = w.moment.update (w.answers k).clock := by
      intro w' ha hm
      refine ⟨ha, 0, ?_⟩
      rw [hm, Moment.update_live]
      simpa using Option.isSome_iff_ne_none.mpr (by simpa using hc)
    split
    · exact hlive
        { w with session := { w.session with activity_tracking_available := true } } rfl rfl
    · rename_i ht
      have ht : w.session.activity_tracking_available = true := by simpa using ht
      refine hlive w rfl ?_
      simp [World.moment, Moment.put, ← ht]

theorem update_control_availability.runs : Runs update_control_availability := fun w =>
  (update_control_availability.effect w).calls fun _ ⟨k, hk⟩ => hk ▸ .single (.updated _ k)

/-- The end of every change. -/
theorem change.effect (changes : Changes) (w : World) :
    Effect (do runtime_control_apply_changes true changes; update_control_availability) w
      fun m' => ∃ j k, m' = w.moment.change changes (w.answers j).emit (w.answers k).clock := by
  refine wp_bind.mpr ((runtime_control_apply_changes.effect changes w).call fun w1 ha1 h1 => ?_)
  refine (update_control_availability.effect w1).call fun w2 ha2 h2 => ?_
  obtain ⟨j, hj⟩ := h1
  obtain ⟨k, hk⟩ := h2
  refine ⟨ha2.trans ha1, j, k, ?_⟩
  rw [hk, hj, ha1]
  rfl

/-- A change from a moment, as one turn from an earlier one. -/
theorem change.call {changes : Changes} {w w1 : World} (ha : w1.answers = w.answers)
    (h : ∀ j k, Call w.answers w.moment
      (w1.moment.change changes (w.answers j).emit (w.answers k).clock)) :
    wp w.calls (do runtime_control_apply_changes true changes; update_control_availability)
      (fun _ w' => w.calls w') w1 := by
  refine (change.effect changes w1).call fun w2 ha2 h2 => ?_
  obtain ⟨j, k, hm⟩ := h2
  rw [ha] at hm
  exact World.calls_single (ha2.trans ha) hm (h j k)

theorem set_source_available.runs (b : Bool) : Runs (set_source_available b) := fun w =>
  change.call rfl fun j k => .available w.moment b j k

theorem commit_paused.runs {p : Bool} {w w1 : World} (hw : w.calls w1)
    (hp : w1.session.runtime_state.paused ≠ p) :
    wp w.calls (commit_paused p) (fun _ w' => w.calls w') w1 := by
  refine Follows.later hw ?_
  unfold commit_paused
  simp only [wp_bind, wp_modify_session, wp_record]
  exact wp_bind.mp (change.call rfl fun j k => .committed (m := w1.moment) j k hp)

/-! ## Activity -/

/-- The world after a program that only asked, and one entry. -/
theorem World.eq_of_log {w w1 : World} {a : Action} (ha : w1.answers = w.answers)
    (hm : w1.moment = w.moment.log a) :
    w1 = { w with history := a :: w.history, asked := w1.asked } := by
  obtain ⟨s, h, answers, n⟩ := w1
  simp only [World.moment, Moment.log, Moment.mk.injEq] at hm
  obtain ⟨rfl, rfl⟩ := hm
  cases ha
  rfl

theorem process_paused_activity.effect (w : World) (now : Timespec) :
    Effect (process_paused_activity now) { w with history := .active now :: w.history } fun m' =>
      (w.session.paused_activity_timer_active = true ∧ m' = w.moment.log (.active now)) ∨
      (w.session.paused_activity_timer_active = false ∧ ∃ j k, m' =
        (w.moment.throttle now).change
          { activity_while_paused := some (w.session.detection_throttle_ms != 0) }
          (w.answers j).emit (w.answers k).clock) := by
  unfold process_paused_activity
  refine wp_bind.mpr (wp_session.mpr ?_)
  split
  · rename_i hr
    exact ⟨rfl, .inl ⟨hr, rfl⟩⟩
  · rename_i hr
    have hr : w.session.paused_activity_timer_active = false := by simpa using hr
    simp only [wp_bind, wp_modify_session]
    split
    · rename_i hd
      have hb : (w.session.detection_throttle_ms != 0) = true := by simpa using hd
      simp only [wp_bind, wp_modify_session, wp_record, hb]
      rw [Moment.throttle_set hd]
      refine wp_bind.mp ((change.effect _ _).call fun w2 ha2 h2 => ?_)
      exact ⟨ha2, .inr ⟨hr, h2⟩⟩
    · rename_i hd
      have hb : (w.session.detection_throttle_ms != 0) = false := by simpa using hd
      simp only [hb]
      rw [Moment.throttle_zero (not_not.mp hd)]
      refine (change.effect _ _).call fun w2 ha2 h2 => ?_
      exact ⟨ha2, .inr ⟨hr, h2⟩⟩

theorem process_running_activity.effect (w : World) (now : Timespec) :
    Effect (process_running_activity now) { w with history := .active now :: w.history } fun m' =>
      ∃ j k, m' =
        (w.moment.hold now).change
          { activity_while_running := some (w.session.activity_timeout_ms != 0) }
          (w.answers j).emit (w.answers k).clock := by
  unfold process_running_activity
  simp only [Effect, wp_bind, wp_session, wp_modify_session]
  split
  · rename_i hd
    have hb : (w.session.activity_timeout_ms != 0) = true := by simpa using hd
    simp only [wp_bind, wp_modify_session, wp_record, hb]
    rw [Moment.hold_set hd]
    exact wp_bind.mp (change.effect _ _)
  · rename_i hd
    have hb : (w.session.activity_timeout_ms != 0) = false := by simpa using hd
    simp only [hb]
    rw [Moment.hold_zero (not_not.mp hd)]
    exact change.effect _ _

/-- After an update, the tracking is available exactly with a control object. -/
theorem Moment.update_tracking (m : Moment) (clock : Option Timespec) :
    (m.update clock).session.activity_tracking_available =
      (m.update clock).session.runtime_control.isSome := by
  cases hc : m.session.runtime_control with
  | some control =>
    rw [Moment.update_live (by simp [hc])]
    simp [Moment.observe, hc]
  | none =>
    cases ht : m.session.activity_tracking_available with
    | true =>
      rw [Moment.update_lost (by simp [hc]) ht]
      cases clock <;> simp [Moment.observe, Moment.schedule, Moment.discard, hc]
    | false =>
      rw [Moment.update_gone (by simp [hc]) ht]
      simp [Moment.observe, hc, ht]

theorem process_physical_activity.effect (w : World) :
    Effect process_physical_activity w (Physical w.answers w.moment) := by
  unfold process_physical_activity
  refine wp_bind.mpr ((update_control_availability.effect w).call fun w1 ha1 h1 => ?_)
  obtain ⟨l, hl⟩ := h1
  have htracking := Moment.update_tracking w.moment (w.answers l).clock
  rw [← hl] at htracking
  simp only [wp_bind, wp_session]
  split
  · rename_i ht
    refine ⟨ha1, hl ▸ .lost l ?_⟩
    rw [← @Moment.update_control (w.answers l).clock w.moment, ← hl]
    rw [← Option.not_isSome_iff_eq_none]
    exact fun hsome => absurd (htracking.trans hsome) (by simpa using ht)
  rename_i ht
  have hc1 : w1.session.runtime_control.isSome = true := htracking.symm.trans (by simpa using ht)
  have hc : w.session.runtime_control.isSome = true := by
    rw [← World.moment_session w1, hl, Moment.update_control] at hc1
    exact hc1
  have hs : w1.session = { w.session with activity_tracking_available := true } := by
    rw [← World.moment_session w1, hl, Moment.update_live hc]
    rfl
  simp only [wp_bind, wp_monotonic_now]
  split
  · rename_i hi
    rw [ha1] at hi
    exact ⟨ha1, hl ▸ .unsampled _ l hi⟩
  rename_i now hi
  rw [ha1] at hi
  simp only [wp_bind, wp_record, wp_session]
  split
  · rename_i hp
    rw [hs] at hp
    refine (process_paused_activity.effect { w1 with asked := w1.asked + 1 } now).call
      fun w2 ha2 h2 => ⟨ha2.trans ha1, ?_⟩
    rcases h2 with ⟨hr, h2⟩ | ⟨hr, j, k, h2⟩
    · rw [hs] at hr
      rw [h2]
      exact hl ▸ .suppressed _ l now hi hc hp hr
    · have hd : w1.session.detection_throttle_ms = w.session.detection_throttle_ms := by rw [hs]
      rw [hs] at hr
      rw [h2]
      change Physical w.answers w.moment ((w1.moment.throttle now).change
        { activity_while_paused := some (w1.session.detection_throttle_ms != 0) }
        (w1.answers j).emit (w1.answers k).clock)
      rw [hd, hl, ha1]
      exact .throttled _ l now j k hi hc hp hr
  · rename_i hp
    rw [hs] at hp
    refine (process_running_activity.effect { w1 with asked := w1.asked + 1 } now).call
      fun w2 ha2 h2 => ⟨ha2.trans ha1, ?_⟩
    obtain ⟨j, k, h2⟩ := h2
    have hd : w1.session.activity_timeout_ms = w.session.activity_timeout_ms := by rw [hs]
    rw [h2]
    change Physical w.answers w.moment ((w1.moment.hold now).change
      { activity_while_running := some (w1.session.activity_timeout_ms != 0) }
      (w1.answers j).emit (w1.answers k).clock)
    rw [hd, hl, ha1]
    exact .held _ l now j k hi hc (by simpa using hp)

theorem expire_activity_timers.runs {w w1 : World} {i : Nat} {now : Timespec}
    (ha : w1.answers = w.answers) (hm : w1.moment = w.moment.log (.ticked now))
    (hi : (w.answers i).clock = some now)
    (ht : w.session.activity_tracking_available = true)
    (hc : w.session.runtime_control.isSome) :
    wp w.calls (expire_activity_timers now) (fun _ w' => w.calls w') w1 := by
  have hidle := Call.idle (m := w.moment) i now hi ht hc
  have hexpired := fun j k => Call.expired (m := w.moment) i now j k hi ht hc
  unfold Moment.tick Moment.cleared at hexpired
  rw [World.eq_of_log ha hm]
  unfold expire_activity_timers
  simp only [wp_bind, wp_session]
  have hrunning : (w.session.running_activity_timer_active &&
      deadline_expired w.session.running_activity_deadline now) = w.moment.due now .running := rfl
  have hpaused : (w.session.paused_activity_timer_active &&
      deadline_expired w.session.paused_activity_deadline now) = w.moment.due now .paused := rfl
  rw [hrunning, hpaused]
  cases hr : w.moment.due now .running with
  | false =>
    cases hp : w.moment.due now .paused with
    | false =>
      refine World.calls_single rfl rfl (hidle fun mode => ?_)
      cases mode
      · exact hr
      · exact hp
    | true =>
      simp only [Bool.false_eq_true, if_false, if_true, Bool.false_or, wp_bind, wp_modify_session,
        wp_record]
      refine wp_bind.mp (change.call rfl fun j k => ?_)
      have h := hexpired j k ⟨.paused, hp⟩
      simp only [hr, hp] at h
      exact h
  | true =>
    cases hp : w.moment.due now .paused with
    | false =>
      simp only [Bool.false_eq_true, if_false, if_true, Bool.true_or, wp_bind, wp_modify_session,
        wp_record]
      refine wp_bind.mp (change.call rfl fun j k => ?_)
      have h := hexpired j k ⟨.running, hr⟩
      simp only [hr, hp] at h
      exact h
    | true =>
      simp only [if_true, Bool.true_or, wp_bind, wp_modify_session, wp_record]
      refine wp_bind.mp (change.call rfl fun j k => ?_)
      have h := hexpired j k ⟨.running, hr⟩
      simp only [hr, hp] at h
      exact h

theorem session_process_activity_timers.runs : Runs session_process_activity_timers := by
  intro w
  unfold session_process_activity_timers
  refine wp_bind.mpr ((update_control_availability.effect w).call fun w1 ha1 h1 => ?_)
  obtain ⟨k, hk⟩ := h1
  have hw1 : w.calls w1 := ⟨ha1, hk ▸ .single (.updated _ k)⟩
  simp only [wp_bind, wp_session]
  split
  · exact hw1
  rename_i ht
  have ht : w1.session.activity_tracking_available = true := by simpa using ht
  have hc : w1.session.runtime_control.isSome = true := by
    have h := Moment.update_tracking w.moment (w.answers k).clock
    rw [← hk] at h
    exact h.symm.trans ht
  simp only [wp_bind, wp_monotonic_now]
  split
  · exact trans_of World.calls hw1 ⟨rfl, .refl⟩
  rename_i now hi
  simp only [wp_bind, wp_record]
  exact Follows.later hw1 (expire_activity_timers.runs (w := w1) rfl rfl hi ht hc)

/-! ## Recovery -/

theorem create_runtime_control.effect {I : World → Prop} {w : World}
    {Q : Except RuntimeControlFailure RuntimeControl → World → Prop}
    (hQ : Q ((w.answers w.asked).control w.session.instance_name)
      { w with asked := w.asked + 1 }) : wp I create_runtime_control Q w := hQ

theorem Answer.control_ok {a : Answer} {instance_name : String} {control : RuntimeControl}
    (h : a.control instance_name = .ok control) : control = ⟨false, false⟩ := by
  unfold Answer.control at h
  split_ifs at h
  split at h
  · cases h
  split at h <;> cases h
  rfl

/-- The recreation at `now`, and the step that ends it. -/
theorem recover_runtime_control.runs {w w1 : World} {i : Nat} {now : Timespec}
    (ha : w1.answers = w.answers) (hm : w1.moment = w.moment)
    (hi : (w.answers i).clock = some now)
    (hr : w.session.runtime_control_retry_active = true)
    (hd : deadline_expired w.session.runtime_control_retry_deadline now = true) :
    wp w.calls (do recover_runtime_control now; observe .step) (fun _ w' => w.calls w') w1 := by
  obtain ⟨s, h, a, n⟩ := w1
  simp only [World.moment, Moment.mk.injEq] at hm
  obtain ⟨rfl, rfl⟩ := hm
  cases ha
  unfold recover_runtime_control
  simp only [wp_bind, wp_session, wp_ask]
  split
  · rename_i errno herror
    simp only [wp_modify_session, wp_observe]
    exact World.calls_single rfl rfl
      (.underivable (m := w.moment) i now n hi hr hd (.inr ⟨errno, herror⟩))
  simp only [wp_bind, wp_record]
  refine create_runtime_control.effect ?_
  split
  · rename_i failure hfailure
    simp only [wp_bind, wp_modify_session]
    split
    · rename_i hinvalid
      subst hinvalid
      simp only [wp_modify_session, wp_observe]
      exact World.calls_single rfl rfl
        (.refused (m := w.moment) i now (n + 1) hi hr hd (.inl hfailure))
    · refine (schedule_runtime_control_retry.effect _).call fun w2 ha2 h2 => ?_
      obtain ⟨k, hk⟩ := h2
      simp only [wp_observe]
      refine World.calls_single ha2 ?_ (.not_recreated (m := w.moment) i now k hi hr hd)
      change w2.moment.observe .step = _
      rw [hk]
      rfl
  · rename_i control hcontrol
    obtain rfl := Answer.control_ok hcontrol
    simp only [wp_modify_session, wp_observe]
    exact World.calls_single rfl rfl (.recreated (m := w.moment) i now hi hr hd)

theorem process_runtime_control_recovery.runs : Runs process_runtime_control_recovery := by
  intro w
  unfold process_runtime_control_recovery
  refine wp_bind.mpr ((update_control_availability.effect w).call fun w1 ha1 h1 => ?_)
  obtain ⟨k, hk⟩ := h1
  have hw1 : w.calls w1 := ⟨ha1, hk ▸ .single (.updated _ k)⟩
  simp only [wp_bind, wp_session]
  split
  · exact hw1
  rename_i hr
  simp only [wp_bind, wp_monotonic_now]
  split
  · exact trans_of World.calls hw1 ⟨rfl, .refl⟩
  rename_i now hi
  split
  · exact trans_of World.calls hw1 ⟨rfl, .refl⟩
  rename_i hd
  exact Follows.later hw1 (recover_runtime_control.runs (w := w1) rfl rfl hi (by simpa using hr)
    (by simpa using hd))

/-- The first creation, which no update precedes. -/
theorem start_runtime_control.started (config : SessionConfig) (answers : Nat → Answer) :
    wp (fun _ => False) start_runtime_control
      (fun _ w => w.answers = answers ∧ Started answers config w.moment)
      (World.start config answers) := by
  unfold start_runtime_control
  refine wp_bind.mpr (create_runtime_control.effect ?_)
  split
  · rename_i control hcontrol
    obtain rfl := Answer.control_ok hcontrol
    exact ⟨rfl, .created⟩
  · rename_i failure hfailure
    simp only [wp_bind, wp_modify_session]
    split
    · refine (schedule_runtime_control_retry.effect _).call fun w ha h => ⟨ha, ?_⟩
      obtain ⟨k, hk⟩ := h
      rw [hk]
      exact .failed k
    · rename_i hinvalid
      obtain rfl := not_not.mp hinvalid
      exact ⟨rfl, .refused (.inl hfailure)⟩

/-! ## Dispatch -/

theorem destroy_runtime_control.runs : Runs destroy_runtime_control := fun w =>
  World.calls_single rfl rfl (.dropped w.moment)

/-- The world after `sd_bus_process` has returned. -/
def World.dispatched (w : World) : World :=
  { w with
    session :=
      { w.session with
        runtime_control := w.session.runtime_control.map ({ · with dispatch_active := false }) } }

/-- The end of a dispatch, which leaves no mark of it. -/
theorem finish_dispatch.calls (processed : Processed) (w : World) :
    wp (fun _ => False) (finish_dispatch processed)
      (fun _ w' => w.calls w' ∧ w'.moment.quiet) w := by
  have hfinished := @Call.finished w.answers w.moment
  have hquiet := w.moment.finish_quiet
  unfold finish_dispatch
  simp only [wp_bind, wp_modify_session, wp_session]
  split
  · rename_i hp
    simp only [wp_bind, destroy_runtime_control, wp_modify_session]
    refine ⟨World.calls_single (w := w) rfl ?_ hfinished, Moment.quiet_none rfl⟩
    cases hc : w.session.runtime_control with
    | none => simp [World.moment, Moment.put, hc]
    | some control =>
      have hp : control.disable_pending = true := by simpa [hc] using hp
      simp [World.moment, Moment.put, hc, hp, Option.filter]
  · rename_i hp
    have hw1 : w.dispatched.moment = w.moment.put fun s =>
        { s with
          runtime_control :=
            (s.runtime_control.map ({ · with dispatch_active := false })).filter
              (!·.disable_pending) } := by
      cases hc : w.session.runtime_control with
      | none => simp [World.dispatched, World.moment, Moment.put, hc]
      | some control =>
        have hp : control.disable_pending = false := by simpa [hc] using hp
        simp [World.dispatched, World.moment, Moment.put, hc, hp, Option.filter]
    have hcalls : w.calls w.dispatched := World.calls_single rfl hw1 hfinished
    rw [← hw1] at hquiet
    split
    · exact ⟨hcalls, hquiet⟩
    · exact ⟨hcalls, hquiet⟩
    · simp only [wp_bind, destroy_runtime_control, wp_modify_session]
      refine ⟨trans_of World.calls hcalls ?_, Moment.quiet_none rfl⟩
      exact World.calls_single rfl rfl (.dropped _)

/-- The world at the start of a dispatch. -/
def World.dispatching (w : World) : World :=
  let session :=
    { w.session with
      runtime_control := w.session.runtime_control.map ({ · with dispatch_active := true }) }
  { w with
    session
    history := .observed .dispatch session :: w.history
    asked := w.asked + 1 }

/-- A dispatch: its start, the calls of the handler, and its end. -/
theorem dispatch_messages.goes {pause_handler : Bool → M Result}
    (h : ∀ paused, Runs (pause_handler paused)) :
    Goes (dispatch_messages pause_handler ()) := by
  intro w
  have hcalled : ∀ w', w.dispatching.calls w' → w.reaches w' := fun w' h hm =>
    ⟨h.1, .head (.dispatched hm.quiet) (World.calls_path h)⟩
  have hend : ∀ processed w1, w.dispatching.calls w1 →
      wp w.reaches (finish_dispatch processed) (fun _ w' => w.turns w') w1 := by
    intro processed w1 h1
    refine wp_mono (finish_dispatch.calls processed w1) (fun _ h => h.elim) fun _ w2 h2 => ?_
    have hcalls := trans_of World.calls h1 h2.1
    exact ⟨hcalled w2 hcalls, fun hm => ⟨h2.2, Calls.settled hcalls.2 hm.settled⟩⟩
  unfold dispatch_messages
  simp only [wp_bind, wp_modify_session, wp_observe, wp_ask]
  cases (w.answers w.asked).call with
  | none => exact hend _ w.dispatching (refl_of World.calls _)
  | some paused =>
    have hcall : Runs (request_paused_method pause_handler paused) := by
      unfold request_paused_method
      refine after_record trivial ((h paused).bind fun r => ?_)
      exact spares_runs (record_spares trivial)
    refine wp_bind.mpr (wp_mono (hcall w.dispatching) hcalled fun _ w1 h1 => ?_)
    exact hend _ w1 h1

theorem runtime_control_process.goes {pause_handler : Bool → M Result}
    (h : ∀ paused, Runs (pause_handler paused)) (fuel : Nat) :
    Goes (runtime_control_process pause_handler fuel) := by
  unfold runtime_control_process
  refine (spares_goes session_spares).bind fun s => .ite (.pure _) ?_
  exact .loop (fun _ => dispatch_messages.goes h) fuel ()

theorem runtime_control_wait.goes {pause_handler : Bool → M Result}
    (h : ∀ paused, Runs (pause_handler paused)) (fuel timeout_usec : Nat) :
    Goes (runtime_control_wait pause_handler fuel timeout_usec) := by
  unfold runtime_control_wait
  refine (spares_goes session_spares).bind fun s => .ite (.pure _) ?_
  refine (spares_goes ask_spares).bind fun a => ?_
  split
  · exact .pure _
  · exact runs_goes destroy_runtime_control.runs
  · exact runtime_control_process.goes h fuel

/-- The correction leaves the pause state alone, so the commit changes it. -/
theorem session_request_paused.runs (paused : Bool) : Runs (session_request_paused paused) := by
  intro w
  unfold session_request_paused
  simp only [wp_bind, wp_session]
  split
  · exact refl_of World.calls w
  rename_i hp
  simp only [wp_bind, wp_record]
  have hrequested : w.aside { w with history := .requested paused :: w.history } :=
    ⟨rfl, rfl, Adds.refl.log trivial⟩
  refine wp_mono ((correct_state.spares paused).call hrequested)
    (fun _ h => World.aside_calls h) fun r w1 h1 => ?_
  have hw1 := World.aside_calls h1
  split
  · have hfailed : Runs (do
        modify_session fun s => { s with fatal_result := r }
        record (.failed r)
        return r) :=
      after_modify (fun _ => rfl) (after_record trivial (.pure _))
    exact hfailed.call hw1
  · refine wp_bind.mpr (commit_paused.runs hw1 ?_)
    have hs : w1.session.runtime_state = w.session.runtime_state :=
      h1.2.field Session.runtime_state fun _ => rfl
    rw [hs]
    exact hp

/-! ## The session -/

theorem deadline_wait_timeout_usec.spares (deadline : Option Timespec) (maximum_usec : Nat) :
    Spares (deadline_wait_timeout_usec deadline maximum_usec) := by
  unfold deadline_wait_timeout_usec
  split
  · exact .pure _
  · refine monotonic_now_spares.bind fun now => ?_
    split
    · exact .pure _
    · exact .ite (.pure _) (.pure _)

theorem runtime_wait_timeout_usec.runs (maximum_usec : Nat) :
    Runs (runtime_wait_timeout_usec maximum_usec) := by
  unfold runtime_wait_timeout_usec
  refine session_process_activity_timers.runs.bind fun _ => spares_runs ?_
  refine session_spares.bind fun s => (deadline_wait_timeout_usec.spares _ _).bind fun t => ?_
  exact .ite (deadline_wait_timeout_usec.spares _ _) (.pure _)

theorem wait_with_activity_timer.goes (fuel maximum_usec : Nat) :
    Goes (wait_with_activity_timer fuel maximum_usec) := by
  unfold wait_with_activity_timer
  refine (runs_goes (runtime_wait_timeout_usec.runs _)).bind fun timeout_usec => ?_
  refine (runtime_control_wait.goes session_request_paused.runs _ _).bind fun _ => ?_
  refine runs_goes (update_control_availability.runs.bind fun _ => ?_)
  exact session_process_activity_timers.runs.bind fun _ => process_runtime_control_recovery.runs

theorem shutdown_requested.spares : Spares shutdown_requested := by
  unfold shutdown_requested
  refine ask_spares.bind fun a => modify_then (fun _ => rfl) ?_
  exact session_spares.bind fun s => .pure _

theorem loop_ends.runs : Runs loop_ends := by
  unfold loop_ends
  refine spares_runs (shutdown_requested.spares.bind fun b => ?_)
  exact record_then trivial (.pure _)

theorem service_runtime_control.goes (fuel : Nat) : Goes (service_runtime_control fuel) := by
  unfold service_runtime_control
  refine (runtime_control_process.goes session_request_paused.runs _).bind fun _ => ?_
  refine runs_goes (update_control_availability.runs.bind fun _ => ?_)
  exact process_runtime_control_recovery.runs.bind fun _ => session_process_activity_timers.runs

theorem report_libinput_status.spares : Spares report_libinput_status := by
  unfold report_libinput_status
  refine session_spares.bind fun s => .ite (ask_spares.bind fun a => ?_) (.pure _)
  exact .ite (modify_spares fun _ => rfl) (.pure _)

theorem synchronize_unless_paused.spares : Spares synchronize_unless_paused := by
  unfold synchronize_unless_paused
  exact session_spares.bind fun s => .ite (.pure _) session_synchronize_state.spares

theorem close_source_device.runs : Runs close_source_device := by
  unfold close_source_device
  refine (spares_runs source_device_close.spares).bind fun _ => ?_
  refine after_modify (fun _ => rfl) ?_
  exact set_source_available.runs false

theorem activate_source.runs : Runs activate_source := by
  have hready := spares_runs synchronize_unless_paused.spares
  unfold activate_source
  refine after_modify (fun _ => rfl) ?_
  refine (set_source_available.runs true).bind fun _ => ?_
  refine (spares_runs report_libinput_status.spares).bind fun _ => ?_
  refine (spares_runs virtual_device_is_compatible.spares).bind fun b => .ite hready ?_
  refine (spares_runs virtual_device_destroy.spares).bind fun _ => ?_
  refine after_modify (fun _ => rfl) ?_
  refine (spares_runs virtual_device_create.spares).bind fun r => .ite ?_ hready
  exact close_source_device.runs.bind fun _ => .pure _

theorem settle_permission.spares (deadline : Option Timespec) :
    Spares (settle_permission deadline) := by
  unfold settle_permission
  exact monotonic_now_spares.bind fun now => record_then trivial (.pure _)

theorem acquire_source.goes (fuel : Nat) (deadline : Option Timespec) :
    Goes (acquire_source fuel deadline) := by
  have hwait : ∀ deadline : Option Timespec, Goes (α := Option Timespec ⊕ Result)
      (do wait_for_source fuel; return .inl deadline) := fun _ =>
    (wait_with_activity_timer.goes _ _).bind fun _ => .pure _
  unfold acquire_source
  refine (runs_goes loop_ends.runs).bind fun b => .ite (.pure _) ?_
  refine (service_runtime_control.goes fuel).bind fun _ => ?_
  refine (spares_goes session_spares).bind fun s => .ite (.pure _) ?_
  refine (spares_goes source_device_open.spares).bind fun r => .ite (hwait _) (.ite ?_ ?_)
  · refine (spares_goes (settle_permission.spares _)).bind fun x => ?_
    split
    · exact .pure _
    · exact hwait _
  · exact .ite (.pure _) (runs_goes (activate_source.runs.bind fun r => .pure _))

theorem process_read_event.spares (event : InputEvent) : Spares (process_read_event event) := by
  unfold process_read_event
  exact session_spares.bind fun s => .ite (.pure _) (virtual_device_write_event.spares _ _)

/-- Both devices are there. -/
def World.equipped (w : World) : Prop :=
  w.session.source_device.isSome ∧ w.session.virtual_device.isSome

/-- One read by a session that has both devices, and keeps them. -/
structure World.read (a : Action) (w w' : World) : Prop where
  answers : w'.answers = w.answers
  reads : Reads a w.moment w'.moment
  equipped : w'.equipped

/-- Only a normal read asks for the recovery. -/
theorem ReadStatus.sync_result (status : ReadStatus) :
    status.result .SYNC ≠ .error .EVENT_SYNC_REQUIRED := by
  cases status with
  | success | sync => simp [ReadStatus.result]
  | errno error =>
    unfold ReadStatus.result
    dsimp only
    split_ifs <;> simp

theorem source_device_next_event.reads (flag : ReadFlag) {w : World} (hw : w.equipped) :
    wp (fun _ => False) (source_device_next_event flag)
      (fun x w' => match x with
        | .ok event => w.read (.delivered w.session.runtime_state.paused event) w'
        | .error r =>
          w.read (.read_failed r) w' ∧ (flag = .SYNC → r ≠ .EVENT_SYNC_REQUIRED)) w := by
  obtain ⟨source, hsource⟩ := Option.isSome_iff_exists.mp hw.1
  unfold source_device_next_event
  simp only [wp_bind, wp_session, hsource]
  simp only [wp_ask]
  split
  · rename_i r hr
    refine ⟨⟨rfl, ⟨rfl, rfl, trivial⟩, hw⟩, ?_⟩
    rintro rfl rfl
    exact ReadStatus.sync_result _ hr
  · simp only [wp_bind, wp_modify_session, wp_record]
    exact ⟨rfl, ⟨rfl, rfl, rfl⟩, rfl, hw.2⟩

/-- The event of a read is forwarded, unless the session is paused. A failure is recorded. -/
theorem process_read_event.outcome (event : InputEvent) {w : World} (hw : w.equipped) :
    wp (fun _ => False) (process_read_event event)
      (fun r w' => w.aside w' ∧ w'.equipped ∧
        (r ≠ .SUCCESS → ∃ paused, w'.history = .written .forward paused event false :: w.history) ∧
        (r = .SUCCESS → recovering w'.history = recovering w.history)) w := by
  obtain ⟨device, hdevice⟩ := Option.isSome_iff_exists.mp hw.2
  have hrefl : w.aside w := refl_of World.aside w
  unfold process_read_event virtual_device_write_event
  simp only [wp_bind, wp_session]
  split
  · exact ⟨hrefl, hw, fun h => absurd rfl h, fun _ => rfl⟩
  · simp only [wp_bind, wp_session, hdevice]
    simp only [wp_ask]
    split
    · simp only [wp_bind, wp_modify_session, wp_record]
      exact ⟨⟨rfl, rfl, [_], rfl, by simp [Action.outside]⟩, ⟨hw.1, rfl⟩,
        fun h => absurd rfl h, fun _ => rfl⟩
    · simp only [wp_bind, wp_record]
      refine ⟨⟨rfl, rfl, Adds.refl.log trivial⟩, hw, fun _ => ⟨_, rfl⟩, fun h => ?_⟩
      cases h

theorem World.read.quiet {a : Action} {w w' : World} (h : w.read a w') (hq : w.moment.quiet) :
    w'.moment.quiet :=
  hq.congr (h.reads.aside.field Session.runtime_control fun _ => rfl)

theorem World.aside.quiet {w w' : World} (h : w.aside w') (hq : w.moment.quiet) :
    w'.moment.quiet :=
  hq.congr (h.2.field Session.runtime_control fun _ => rfl)

/-- A path of turns has led into the recovery. -/
structure World.recovers (w w' : World) : Prop where
  reaches : w.reaches w'
  recovering : w.moment.calm → w'.moment.quiet ∧ recovering w'.history = true
  equipped : w'.equipped

/-- One turn, from a world that is reached. -/
theorem World.reaches.turn {w w1 w2 : World} (h : w.reaches w1) (ha : w2.answers = w1.answers)
    (ht : w.moment.calm → Turn w1.answers w1.moment w2.moment) : w.reaches w2 := by
  intro hm
  obtain ⟨ha1, h1⟩ := h hm
  exact ⟨ha.trans ha1, h1.tail (ha1 ▸ ht hm)⟩

/-- A turn of the recovery leads on in it, or out of it. -/
theorem recover_event.turn {w w1 : World} (h : w.recovers w1) :
    wp w.reaches (recover_event ()) (fun x w' =>
      x.elim (fun _ => w.recovers w') (fun _ => w.turns w')) w1 := by
  unfold recover_event source_device_read_sync_event
  refine wp_bind.mpr (wp_mono (source_device_next_event.reads .SYNC h.equipped)
    (fun _ h => h.elim) fun x w2 h2 => ?_)
  -- the read is a turn, and only a failed one ends the recovery
  have hturn : ∀ a, w1.read a w2 → w.reaches w2 := fun a hr =>
    h.reaches.turn hr.answers fun hm => .read hr.reads (.inl (h.recovering hm).2)
  have hended : ∀ r, w1.read (.read_failed r) w2 → r ≠ .EVENT_SYNC_REQUIRED → w.turns w2 := by
    intro r hr hne
    refine ⟨hturn _ hr, fun hm => ⟨hr.quiet (h.recovering hm).1, ?_⟩⟩
    rw [hr.reads.history]
    simpa [input_proxy.recovering] using hne
  split
  · exact hended _ h2.1 (h2.2 rfl)
  · exact hended _ h2.1 (h2.2 rfl)
  · rename_i event
    refine wp_bind.mpr (wp_mono (process_read_event.outcome event h2.equipped)
      (fun _ h => h.elim) fun r w3 h3 => ?_)
    obtain ⟨haside, hequipped, hfailed, hwritten⟩ := h3
    have hreaches : w.reaches w3 :=
      (hturn _ h2).turn haside.1 fun _ => .call (.outside haside.2)
    have hquiet : w.moment.calm → w3.moment.quiet := fun hm =>
      haside.quiet (h2.quiet (h.recovering hm).1)
    split
    · rename_i hr
      obtain ⟨paused, hhistory⟩ := hfailed hr
      refine ⟨hreaches, fun hm => ⟨hquiet hm, ?_⟩⟩
      rw [World.moment_history, hhistory]
      rfl
    · rename_i hr
      refine ⟨hreaches, fun hm => ⟨hquiet hm, ?_⟩, hequipped⟩
      rw [hwritten (not_not.mp hr), ← World.moment_history w2, h2.reads.history]
      exact (h.recovering hm).2

theorem process_physical_activity.turn {w w1 : World} {a : Action} (h : w.read a w1)
    (ha : a.eligible w.session) :
    wp (fun _ => False) process_physical_activity (fun _ w' => w.turns w') w1 := by
  refine (process_physical_activity.effect w1).call fun w2 ha2 hp => ?_
  rw [h.answers] at hp
  refine ⟨fun hm => ⟨ha2.trans h.answers, .single (.eligible h.reads hm.settled ha hp)⟩,
    fun hm => ⟨hp.quiet (h.quiet hm.quiet), hp.unread.settled ?_⟩⟩
  rw [h.reads.history]
  cases a with
  | delivered => exact hm.settled
  | _ => exact ha.elim

theorem session_process_event.goes (fuel : Nat) : Goes (session_process_event fuel) := by
  intro w
  have hrefl : w.turns w := refl_of World.turns w
  unfold session_process_event source_device_read_event recover_synchronization
  simp only [wp_bind, wp_session]
  split
  · exact hrefl
  rename_i hdevices
  have hw : w.equipped := by
    simpa [World.equipped, Option.ne_none_iff_isSome] using hdevices
  refine wp_bind.mpr (wp_mono (source_device_next_event.reads .NORMAL hw)
    (fun _ h => h.elim) fun x w1 h1 => ?_)
  -- a read that gives no activity
  have hread : ∀ a, w.read a w1 → ¬ a.eligible w.session → w.reaches w1 := fun a hr ha hm =>
    ⟨hr.answers, .single (.read hr.reads (.inr ha))⟩
  split
  · have hreaches := hread _ h1.1 fun ha => ha
    refine Spec.loop (fun _ => w.recovers) (fun _ _ h => h.reaches)
      (fun _ _ h => recover_event.turn h) fuel () w1 ?_
    refine ⟨hreaches, fun hm => ⟨h1.1.quiet hm.quiet, ?_⟩, h1.1.equipped⟩
    rw [← World.moment_history, h1.1.reads.history]
    rfl
  · rename_i r hr
    refine ⟨hread _ h1.1 fun ha => ha, fun hm => ⟨h1.1.quiet hm.quiet, ?_⟩⟩
    rw [h1.1.reads.history]
    simpa [recovering] using hr
  · rename_i event
    have hstate := h1.reads.aside.field Session.runtime_state fun _ => rfl
    have hpaused := h1.reads.aside.field Session.paused_motion_activity fun _ => rfl
    have hrunning := h1.reads.aside.field Session.running_motion_activity fun _ => rfl
    simp only [World.moment_session] at hstate hpaused hrunning
    have hevent : Goes (process_read_event event) := spares_goes (process_read_event.spares event)
    simp only [wp_bind, wp_session, hstate, hpaused, hrunning]
    cases hactive : session_event_is_activity event
        (if w.session.runtime_state.paused then w.session.paused_motion_activity
          else w.session.running_motion_activity) with
    | true =>
      refine wp_bind.mpr (wp_mono (process_physical_activity.turn h1 hactive) ?_ ?_)
      · exact fun _ h => h.elim
      · exact fun _ w2 h2 => hevent.call h2
    | false =>
      have hinactive := hread _ h1 (by simp [Action.eligible, hactive])
      refine hevent.call ⟨hinactive, fun hm => ⟨h1.quiet hm.quiet, ?_⟩⟩
      rw [h1.reads.history]
      exact hm.settled

theorem forward_events.goes (fuel : Nat) (result : Result) :
    Goes (forward_events fuel result) := by
  unfold forward_events
  refine (runs_goes loop_ends.runs).bind fun b => .ite (.pure _) ?_
  refine loop_head_goes.bind fun _ => ?_
  refine (service_runtime_control.goes fuel).bind fun _ => ?_
  refine (spares_goes session_spares).bind fun s => .ite (.pure _) ?_
  refine (session_process_event.goes fuel).bind fun r => .ite ?_ (.ite (.pure _) (.pure _))
  exact (wait_with_activity_timer.goes _ _).bind fun _ => .pure _

theorem lose_source.runs : Runs lose_source := by
  unfold lose_source
  refine (set_source_available.runs false).bind fun _ => ?_
  refine (spares_runs session_spares).bind fun s => ?_
  refine after_record trivial ?_
  refine (spares_runs virtual_device_neutralize.spares).bind fun r => ?_
  exact close_source_device.runs.bind fun _ => .pure _

theorem run_devices.goes (fuel : Nat) (result : Result) : Goes (run_devices fuel result) := by
  have hshutdown := spares_goes shutdown_requested.spares
  unfold run_devices create_active_devices
  refine (runs_goes loop_ends.runs).bind fun b => .ite (.pure _) ?_
  refine (Follows.loop (acquire_source.goes fuel) fuel none).bind fun r => .ite (.pure _) ?_
  refine hshutdown.bind fun b => .ite (.pure _) ?_
  refine (Follows.loop (forward_events.goes fuel) fuel _).bind fun r => ?_
  refine hshutdown.bind fun b => .ite (.pure _) (.ite ?_ (.pure _))
  exact runs_goes (lose_source.runs.bind fun r => .ite (.pure _) (.pure _))

theorem cleanup_active_devices.runs : Runs cleanup_active_devices := by
  unfold cleanup_active_devices
  refine after_record trivial ?_
  refine (spares_runs virtual_device_destroy.spares).bind fun _ => ?_
  refine after_modify (fun _ => rfl) ?_
  refine (spares_runs source_device_close.spares).bind fun _ => ?_
  refine after_modify (fun _ => rfl) ?_
  exact set_source_available.runs false

/-- Every run, complete or cut short, is a path of turns from its start. -/
theorem run_turns (config : SessionConfig) (answers : Nat → Answer) (fuel : Nat) :
    ∃ m, Started answers config m ∧ Turns answers m (run_moment config answers fuel) := by
  have hstart := start_runtime_control.started config answers
  have hrest : Goes (do
      let result ← Program.loop (run_devices fuel) fuel .SUCCESS
      cleanup_active_devices
      destroy_runtime_control
      return result) := by
    refine (Follows.loop (run_devices.goes fuel) fuel _).bind fun r => ?_
    refine runs_goes (cleanup_active_devices.runs.bind fun _ => ?_)
    exact destroy_runtime_control.runs.bind fun _ => .pure _
  have hrun : wp (fun w => ∃ m, Started answers config m ∧ Turns answers m w.moment)
      (session_run fuel) (fun _ w => ∃ m, Started answers config m ∧ Turns answers m w.moment)
      (World.start config answers) := by
    unfold session_run
    refine wp_bind.mpr (wp_mono hstart (fun _ h => h.elim) fun _ w1 h1 => ?_)
    obtain ⟨ha, hs⟩ := h1
    have hreaches : ∀ w2, w1.reaches w2 →
        ∃ m, Started answers config m ∧ Turns answers m w2.moment := fun w2 h2 =>
      ⟨w1.moment, hs, ha ▸ (h2 hs.calm).2⟩
    exact wp_mono (hrest w1) hreaches fun _ w2 h2 => hreaches w2 h2.1
  unfold wp at hrun
  unfold run_moment
  split at hrun
  · rename_i heq
    rw [heq]
    exact hrun
  · rename_i heq
    rw [heq]
    exact hrun

end input_proxy
