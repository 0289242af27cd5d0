-- A signal ends a run. Once a signal has come, and the bus and the source have no more of
-- what their loops wait for the end of, every loop of the session leaves at its next turn.
import InputProxy.ControlSpecs
import InputProxy.EndingPrograms
import InputProxy.Histories

open programs Program

namespace input_proxy

/-! ## The calls so far -/

/-- Calls were made in between, or none. -/
def World.precedes (w w' : World) : Prop := w.asked ≤ w'.asked

instance : IsPreorder World World.precedes where
  refl w := Nat.le_refl w.asked
  trans _ _ _ h h' := Nat.le_trans h h'

/-- The program ends, whatever it is answered of these answers. -/
abbrev Ending (answers : Nat → Answer) {α : Type} (f : M α) : Prop :=
  Terminates (fun w => w.answers = answers) World.precedes f

section ending

variable {answers : Nat → Answer} {α : Type}

theorem ask.ends : Ending answers ask := fun w h => ⟨h, Nat.le_succ w.asked⟩

theorem session.ends : Ending answers session := fun w h => ⟨h, Nat.le_refl w.asked⟩

theorem new_id.ends : Ending answers new_id := fun w h => ⟨h, Nat.le_refl w.asked⟩

theorem monotonic_now.ends : Ending answers monotonic_now := fun w h => ⟨h, Nat.le_succ w.asked⟩

theorem modify_session.ends (f : Session → Session) : Ending answers (modify_session f) :=
  fun w h => ⟨h, Nat.le_refl w.asked⟩

theorem record.ends (a : Action) : Ending answers (record a) := fun w h => ⟨h, Nat.le_refl w.asked⟩

theorem observe.ends (point : Point) : Ending answers (observe point) :=
  fun w h => ⟨h, Nat.le_refl w.asked⟩

theorem record_ends {a : Action} {f : Unit → M α} (hf : Ending answers (f ())) :
    Ending answers (record a >>= f) := (record.ends a).bind fun _ => hf

theorem modify_ends {g : Session → Session} {f : Unit → M α} (hf : Ending answers (f ())) :
    Ending answers (modify_session g >>= f) := (modify_session.ends g).bind fun _ => hf

/-! ## Source devices -/

-- A loop over codes must not be run when a goal is compared with a rule.
attribute [local irreducible] Capabilities.codes

theorem source_device_open.ends : Ending answers source_device_open := by
  unfold source_device_open
  apply modify_ends
  apply ask.ends.bind
  intro a
  split
  · exact record_ends (.pure _)
  · exact new_id.ends.bind fun id => modify_ends (record_ends (.pure _))

theorem source_device_close.ends : Ending answers source_device_close := by
  unfold source_device_close
  apply session.ends.bind
  intro s
  split
  · exact .pure _
  · exact record.ends _

theorem source_device_next_event.ends (flag : ReadFlag) :
    Ending answers (source_device_next_event flag) := by
  unfold source_device_next_event
  apply session.ends.bind
  intro s
  split
  · exact .pure _
  · apply ask.ends.bind
    intro a
    split
    · exact record_ends (.pure _)
    · exact modify_ends (record_ends (.pure _))

theorem append_state_event.ends (state : List InputEvent) (type code : Nat) (value : Int) :
    Ending answers (append_state_event state type code value) := by
  unfold append_state_event
  exact ask.ends.bind fun a => .ite (.pure _) (.pure _)

theorem append_value.ends (state : List InputEvent) (type code : Nat) (value : Int) :
    Ending answers (append_value state type code value) := by
  unfold append_value
  exact ask.ends.bind fun a => .ite (.pure _) (append_state_event.ends _ _ _ _)

theorem capture_slot.ends (evdev : Libevdev) (state : List InputEvent) (slot : Nat) :
    Ending answers (capture_slot evdev state slot) := by
  unfold capture_slot
  apply (append_state_event.ends _ _ _ _).bind
  intro r
  split
  · exact .pure _
  · apply (append_value.ends _ _ _ _).bind
    intro r
    split
    · exact .pure _
    · exact .ite (.pure _) (.walk (fun _ _ => append_value.ends _ _ _ _) _ _)

theorem capture_multitouch_state.ends (evdev : Libevdev) (state : List InputEvent) :
    Ending answers (capture_multitouch_state evdev state) := by
  unfold capture_multitouch_state
  apply ask.ends.bind
  intro a
  apply Terminates.ite (.pure _) (.ite (.pure _) _)
  apply (Terminates.walk (capture_slot.ends evdev) _ _).bind
  intro r
  split
  · exact .pure _
  · exact append_state_event.ends _ _ _ _

theorem source_device_capture_state.ends : Ending answers source_device_capture_state := by
  have hvalues : ∀ (type : Nat) (value : Nat → Int) codes (state : List InputEvent),
      Ending answers (Program.walk (fun state code => append_value state type code (value code))
        codes state) := by
    intro type value codes state
    exact .walk (fun _ _ => append_value.ends _ _ _ _) codes state
  unfold source_device_capture_state
  apply session.ends.bind
  intro s
  split
  · exact .pure _
  · apply Terminates.bind (hvalues EV_KEY _ _ _)
    intro r
    split
    · exact .pure _
    · apply Terminates.bind (hvalues EV_SW _ _ _)
      intro r
      split
      · exact .pure _
      · apply Terminates.bind (hvalues EV_ABS _ _ _)
        intro r
        split
        · exact .pure _
        · exact .ite (capture_multitouch_state.ends _ _) (.pure _)

theorem source_device_check_available.ends : Ending answers source_device_check_available := by
  unfold source_device_check_available
  apply session.ends.bind
  intro s
  split
  · exact .pure _
  · apply ask.ends.bind
    intro a
    split
    · exact .pure _
    · exact .ite (.pure _) (.pure _)

/-! ## Virtual devices -/

theorem virtual_device_create.ends : Ending answers virtual_device_create := by
  unfold virtual_device_create
  apply modify_ends
  apply session.ends.bind
  intro s
  split
  · exact record_ends (.pure _)
  · apply ask.ends.bind
    intro a
    split
    · exact record_ends (.pure _)
    · split
      · exact record_ends (.pure _)
      · exact new_id.ends.bind fun id => modify_ends (record_ends (.pure _))

theorem virtual_device_is_compatible.ends : Ending answers virtual_device_is_compatible := by
  unfold virtual_device_is_compatible
  apply session.ends.bind
  intro s
  split
  · exact record_ends (.pure _)
  · exact .pure _

theorem virtual_device_destroy.ends : Ending answers virtual_device_destroy := by
  unfold virtual_device_destroy
  apply session.ends.bind
  intro s
  split
  · exact .pure _
  · exact record.ends _

theorem virtual_device_write_event.ends (cause : Cause) (event : InputEvent) :
    Ending answers (virtual_device_write_event cause event) := by
  unfold virtual_device_write_event
  apply session.ends.bind
  intro s
  split
  · exact .pure _
  · apply ask.ends.bind
    intro a
    exact .ite (modify_ends (record_ends (.pure _))) (record_ends (.pure _))

theorem write_events.ends (cause : Cause) (events : List InputEvent) :
    Ending answers (write_events cause events) := by
  induction events with
  | nil => exact .pure _
  | cons event rest ih =>
    unfold write_events
    exact (virtual_device_write_event.ends cause event).bind fun r => .ite (.pure _) ih

theorem query_keys.ends (device : VirtualDevice) : Ending answers (query_keys device) := by
  unfold query_keys
  exact .walk (fun _ _ => ask.ends.bind fun a => .ite (.pure _) (.pure _)) _ _

theorem query_slots.ends (device : VirtualDevice) : Ending answers (query_slots device) := by
  unfold query_slots
  exact .walk (fun _ _ => ask.ends.bind fun a => .ite (.pure _) (.pure _)) _ _

theorem query_multitouch.ends (device : VirtualDevice) :
    Ending answers (query_multitouch device) := by
  unfold query_multitouch
  apply Terminates.ite (.pure _) (.ite (.pure _) _)
  exact ask.ends.bind fun a => .ite (.pure _) (query_slots.ends _)

theorem write_neutralizing_events.ends (key_values slot_tracking_ids : List (Nat × Int)) :
    Ending answers (write_neutralizing_events key_values slot_tracking_ids) := by
  unfold write_neutralizing_events
  apply (write_events.ends _ _).bind
  intro r
  apply Terminates.ite (.pure _)
  apply (write_events.ends _ _).bind
  intro r
  exact .ite (.pure _) (.ite (virtual_device_write_event.ends _ _) (.pure _))

theorem neutralize_device.ends : Ending answers neutralize_device := by
  unfold neutralize_device
  apply session.ends.bind
  intro s
  split
  · exact .pure _
  · apply ask.ends.bind
    intro a
    apply Terminates.ite (.pure _)
    apply (query_keys.ends _).bind
    intro r
    split
    · exact .pure _
    · apply (query_multitouch.ends _).bind
      intro r
      split
      · exact .pure _
      · exact write_neutralizing_events.ends _ _

theorem virtual_device_neutralize.ends : Ending answers virtual_device_neutralize := by
  unfold virtual_device_neutralize
  apply session.ends.bind
  intro s
  apply neutralize_device.ends.bind
  intro r
  exact session.ends.bind fun s => record_ends (.pure _)

/-! ## The control object -/

theorem create_runtime_control.ends : Ending answers create_runtime_control := by
  unfold create_runtime_control
  exact ask.ends.bind fun a => session.ends.bind fun s => .pure _

theorem record_emitted.ends (properties : List Property) (ok : Bool) :
    Ending answers (record_emitted properties ok) := by
  unfold record_emitted
  exact session.ends.bind fun s => record.ends _

theorem emit_properties_changed.ends (control : RuntimeControl) (properties : List Property) :
    Ending answers (emit_properties_changed control properties) := by
  unfold emit_properties_changed
  apply ask.ends.bind
  intro a
  apply (record_emitted.ends properties a.emit).bind
  intro
  exact .ite (.ite (modify_session.ends _) (modify_session.ends _)) (.pure _)

theorem runtime_control_apply_changes.ends (control : Bool) (changes : Changes) :
    Ending answers (runtime_control_apply_changes control changes) := by
  unfold runtime_control_apply_changes
  apply session.ends.bind
  intro s
  apply modify_ends
  apply Terminates.ite (.pure _)
  split
  · exact .pure _
  · exact emit_properties_changed.ends _ _

theorem schedule_runtime_control_retry.ends : Ending answers schedule_runtime_control_retry := by
  unfold schedule_runtime_control_retry
  apply monotonic_now.ends.bind
  intro now
  split
  · exact modify_session.ends _
  · exact modify_ends (record.ends _)

theorem discard_activity_tracking.ends : Ending answers discard_activity_tracking := by
  unfold discard_activity_tracking
  exact modify_ends (runtime_control_apply_changes.ends _ _)

theorem update_control_availability.ends : Ending answers update_control_availability := by
  unfold update_control_availability
  apply session.ends.bind
  intro s
  split
  · split
    · apply discard_activity_tracking.ends.bind
      intro _
      exact schedule_runtime_control_retry.ends.bind fun _ => observe.ends _
    · exact observe.ends _
  · split
    · exact modify_ends (observe.ends _)
    · exact observe.ends _

theorem recover_runtime_control.ends (now : Timespec) :
    Ending answers (recover_runtime_control now) := by
  unfold recover_runtime_control
  apply session.ends.bind
  intro s
  apply ask.ends.bind
  intro a
  split
  · exact modify_session.ends _
  · apply record_ends
    apply create_runtime_control.ends.bind
    intro r
    split
    · exact modify_ends (.ite (modify_session.ends _) schedule_runtime_control_retry.ends)
    · exact modify_session.ends _

theorem process_runtime_control_recovery.ends :
    Ending answers process_runtime_control_recovery := by
  unfold process_runtime_control_recovery
  apply update_control_availability.ends.bind
  intro _
  apply session.ends.bind
  intro s
  apply Terminates.ite (.pure _)
  apply monotonic_now.ends.bind
  intro now
  split
  · exact .pure _
  · exact .ite (.pure _) ((recover_runtime_control.ends _).bind fun _ => observe.ends _)

theorem start_runtime_control.ends : Ending answers start_runtime_control := by
  unfold start_runtime_control
  apply create_runtime_control.ends.bind
  intro r
  split
  · exact modify_session.ends _
  · exact modify_ends (.ite schedule_runtime_control_retry.ends (.pure _))

/-! ## Activity -/

/-- The end of every change. -/
theorem change.ends (changes : Changes) : Ending answers (do
    runtime_control_apply_changes true changes
    update_control_availability) :=
  (runtime_control_apply_changes.ends _ _).bind fun _ => update_control_availability.ends

theorem process_paused_activity.ends (now : Timespec) :
    Ending answers (process_paused_activity now) := by
  unfold process_paused_activity
  apply session.ends.bind
  intro s
  apply Terminates.ite (.pure _)
  apply modify_ends
  split
  · exact modify_ends (record_ends (change.ends _))
  · exact change.ends _

theorem process_running_activity.ends (now : Timespec) :
    Ending answers (process_running_activity now) := by
  unfold process_running_activity
  apply session.ends.bind
  intro s
  apply modify_ends
  split
  · exact modify_ends (record_ends (change.ends _))
  · exact change.ends _

theorem process_physical_activity.ends : Ending answers process_physical_activity := by
  unfold process_physical_activity
  apply update_control_availability.ends.bind
  intro _
  apply session.ends.bind
  intro s
  apply Terminates.ite (.pure _)
  apply monotonic_now.ends.bind
  intro now
  split
  · exact .pure _
  · apply record_ends
    apply session.ends.bind
    intro s
    exact .ite (process_paused_activity.ends _) (process_running_activity.ends _)

theorem expire_activity_timers.ends (now : Timespec) :
    Ending answers (expire_activity_timers now) := by
  have hchange : ∀ (b : Bool) (changes : Changes), Ending answers (do
      if b then
        runtime_control_apply_changes true changes
        update_control_availability) := by
    intro b changes
    exact .ite (change.ends _) (.pure _)
  unfold expire_activity_timers
  apply session.ends.bind
  intro s
  dsimp only
  split
  · apply modify_ends
    apply record_ends
    split
    · exact modify_ends (record_ends (hchange _ _))
    · exact hchange _ _
  · split
    · exact modify_ends (record_ends (hchange _ _))
    · exact hchange _ _

theorem session_process_activity_timers.ends : Ending answers session_process_activity_timers := by
  unfold session_process_activity_timers
  apply update_control_availability.ends.bind
  intro _
  apply session.ends.bind
  intro s
  apply Terminates.ite (.pure _)
  apply monotonic_now.ends.bind
  intro now
  split
  · exact .pure _
  · exact record_ends (expire_activity_timers.ends _)

theorem set_source_available.ends (source_available : Bool) :
    Ending answers (set_source_available source_available) := change.ends _

/-! ## Corrections -/

theorem synchronize_state.ends : Ending answers synchronize_state := by
  unfold synchronize_state
  apply session.ends.bind
  intro s
  apply Terminates.ite (.pure _)
  apply source_device_capture_state.ends.bind
  intro r
  split
  · exact .pure _
  · apply record_ends
    apply (write_events.ends _ _).bind
    intro r
    apply Terminates.ite (.pure _)
    apply (virtual_device_write_event.ends _ _).bind
    intro r
    apply Terminates.ite (.pure _)
    exact source_device_check_available.ends.bind fun r => record_ends (.pure _)

theorem session_synchronize_state.ends : Ending answers session_synchronize_state := by
  unfold session_synchronize_state
  exact synchronize_state.ends.bind fun r => record_ends (.pure _)

theorem correct_state.ends (paused : Bool) : Ending answers (correct_state paused) := by
  unfold correct_state
  apply session.ends.bind
  intro s
  apply Terminates.ite (record_ends _) (.pure _)
  exact .ite virtual_device_neutralize.ends session_synchronize_state.ends

theorem commit_paused.ends (paused : Bool) : Ending answers (commit_paused paused) := by
  unfold commit_paused
  exact modify_ends (record_ends (change.ends _))

theorem session_request_paused.ends (paused : Bool) :
    Ending answers (session_request_paused paused) := by
  unfold session_request_paused
  apply session.ends.bind
  intro s
  apply Terminates.ite (.pure _)
  apply record_ends
  apply (correct_state.ends _).bind
  intro r
  exact .ite (modify_ends (record_ends (.pure _))) ((commit_paused.ends _).bind fun _ => .pure _)

/-! ## Straight programs of the main loop -/

theorem destroy_runtime_control.ends : Ending answers destroy_runtime_control :=
  modify_session.ends _

theorem deadline_wait_timeout_usec.ends (deadline : Option Timespec) (maximum_usec : Nat) :
    Ending answers (deadline_wait_timeout_usec deadline maximum_usec) := by
  unfold deadline_wait_timeout_usec
  split
  · exact .pure _
  · apply monotonic_now.ends.bind
    intro now
    split
    · exact .pure _
    · exact .ite (.pure _) (.pure _)

theorem runtime_wait_timeout_usec.ends (maximum_usec : Nat) :
    Ending answers (runtime_wait_timeout_usec maximum_usec) := by
  unfold runtime_wait_timeout_usec
  apply session_process_activity_timers.ends.bind
  intro _
  apply session.ends.bind
  intro s
  apply (deadline_wait_timeout_usec.ends _ _).bind
  intro timeout_usec
  exact .ite (deadline_wait_timeout_usec.ends _ _) (.pure _)

theorem shutdown_requested.ends : Ending answers shutdown_requested := by
  unfold shutdown_requested
  exact ask.ends.bind fun a => modify_ends (session.ends.bind fun s => .pure _)

theorem settle_permission.ends (deadline : Option Timespec) :
    Ending answers (settle_permission deadline) := by
  unfold settle_permission
  exact monotonic_now.ends.bind fun now => record_ends (.pure _)

theorem report_libinput_status.ends : Ending answers report_libinput_status := by
  unfold report_libinput_status
  apply session.ends.bind
  intro s
  apply Terminates.ite _ (.pure _)
  exact ask.ends.bind fun a => .ite (modify_session.ends _) (.pure _)

theorem synchronize_unless_paused.ends : Ending answers synchronize_unless_paused := by
  unfold synchronize_unless_paused
  exact session.ends.bind fun s => .ite (.pure _) session_synchronize_state.ends

theorem close_source_device.ends : Ending answers close_source_device := by
  unfold close_source_device
  exact source_device_close.ends.bind fun _ => modify_ends (set_source_available.ends _)

theorem cleanup_active_devices.ends : Ending answers cleanup_active_devices := by
  unfold cleanup_active_devices
  apply record_ends
  apply virtual_device_destroy.ends.bind
  intro _
  apply modify_ends
  exact source_device_close.ends.bind fun _ => modify_ends (set_source_available.ends _)

theorem activate_source.ends : Ending answers activate_source := by
  unfold activate_source
  apply modify_ends
  apply (set_source_available.ends _).bind
  intro _
  apply report_libinput_status.ends.bind
  intro _
  apply virtual_device_is_compatible.ends.bind
  intro compatible
  apply Terminates.ite synchronize_unless_paused.ends
  apply virtual_device_destroy.ends.bind
  intro _
  apply modify_ends
  apply virtual_device_create.ends.bind
  intro r
  exact .ite (close_source_device.ends.bind fun _ => .pure _) synchronize_unless_paused.ends

theorem process_read_event.ends (event : InputEvent) :
    Ending answers (process_read_event event) := by
  unfold process_read_event
  exact session.ends.bind fun s => .ite (.pure _) (virtual_device_write_event.ends _ _)

theorem lose_source.ends : Ending answers lose_source := by
  unfold lose_source
  apply (set_source_available.ends _).bind
  intro _
  apply session.ends.bind
  intro s
  apply record_ends
  apply virtual_device_neutralize.ends.bind
  intro r
  exact close_source_device.ends.bind fun _ => .pure _

end ending

/-! ## Loops -/

/-- From the `k`-th call on: a signal has come, no message waits on the bus, and no event waits
for a recovery. -/
structure QuietFrom (answers : Nat → Answer) (k : Nat) : Prop where
  signalled : ∀ j ≥ k, (answers j).signal = true
  dispatched : ∀ j ≥ k, (answers j).processed ≠ .more
  recovered : ∀ j ≥ k, ∀ event, (answers j).read.result .SYNC ≠ .ok event

/-- The calls that are left until it is quiet. -/
def calls_until (k : Nat) (w : World) : Nat := k - w.asked

/-- A turn that goes round again was not quiet. -/
abbrev Turning (answers : Nat → Answer) (k : Nat) {α β : Type} (f : M (β ⊕ α)) : Prop :=
  Descends (fun w => w.answers = answers) World.precedes (calls_until k) f

section loops

variable {answers : Nat → Answer} {k : Nat} {α β : Type}

/-- A loop of such turns, with more turns than there are calls until it is quiet. -/
theorem turning_loop {body : β → M (β ⊕ α)} (hbody : ∀ b, Turning answers k (body b)) {fuel : Nat}
    (hfuel : k < fuel) (b : β) : Ending answers (Program.loop body fuel b) := by
  apply Terminates.loop hbody
  intro w _
  unfold calls_until
  omega

/-- What is left of a turn after a call that came before it was quiet. -/
theorem descends_after {f : M (β ⊕ α)} {w w1 : World} (hf : Ending answers f)
    (hearly : w.asked < k) (hw : w1.answers = answers) (h1 : w.asked < w1.asked) :
    wp (fun _ => False) f (fun r w' => (w'.answers = answers ∧ w.precedes w') ∧
      ∀ b, r = .inl b → calls_until k w' < calls_until k w) w1 := by
  apply wp_mono (hf w1 hw) fun _ h => h
  intro r w' h
  obtain ⟨hw', hasked⟩ := h
  unfold World.precedes at hasked ⊢
  refine ⟨⟨hw', by omega⟩, ?_⟩
  intro b _
  unfold calls_until
  omega

/-- The loops that test for the shutdown first leave once a signal has come. -/
theorem loop_ends.turning {a : α} {f : M (β ⊕ α)} (hquiet : QuietFrom answers k)
    (hf : Ending answers f) :
    Turning answers k (do if ← loop_ends then return .inr a else f) := by
  intro w hw
  unfold loop_ends shutdown_requested
  simp only [wp_bind, wp_ask, wp_modify_session, wp_session, wp_record, wp_pure]
  split
  · refine ⟨⟨hw, Nat.le_succ w.asked⟩, ?_⟩
    intro b hb
    cases hb
  · rename_i hshutdown
    have hearly : w.asked < k := by
      by_contra hlate
      have hsignal := hquiet.signalled w.asked (by omega)
      rw [← hw] at hsignal
      exact hshutdown (by simp [hsignal])
    exact descends_after hf hearly hw (Nat.lt_succ_self w.asked)

theorem finish_dispatch.turns (processed : Processed) (w : World) :
    wp (fun _ => False) (finish_dispatch processed) (fun r w' =>
      (w'.answers = w.answers ∧ w.precedes w') ∧ ∀ b, r = .inl b → processed = .more) w := by
  unfold finish_dispatch destroy_runtime_control
  simp only [wp_bind, wp_modify_session, wp_session]
  split
  · exact ⟨⟨rfl, Nat.le_refl w.asked⟩, by simp⟩
  · cases processed with
    | more => exact ⟨⟨rfl, Nat.le_refl w.asked⟩, fun _ _ => rfl⟩
    | idle | failed => exact ⟨⟨rfl, Nat.le_refl w.asked⟩, by simp⟩

theorem dispatch_messages.turning (hquiet : QuietFrom answers k) {pause_handler : Bool → M Result}
    (hhandler : ∀ paused, Ending answers (pause_handler paused)) (u : Unit) :
    Turning answers k (dispatch_messages pause_handler u) := by
  intro w hw
  have hfinish : ∀ w1 : World, w1.answers = answers → w.asked < w1.asked →
      wp (fun _ => False) (finish_dispatch (w.answers w.asked).processed) (fun r w' =>
        (w'.answers = answers ∧ w.precedes w') ∧
          ∀ b, r = .inl b → calls_until k w' < calls_until k w) w1 := by
    intro w1 hw1 h1
    apply wp_mono (finish_dispatch.turns _ w1) fun _ h => h
    intro r w2 h2
    obtain ⟨⟨hw2, hasked⟩, hmore⟩ := h2
    unfold World.precedes at hasked ⊢
    refine ⟨⟨hw2.trans hw1, by omega⟩, ?_⟩
    intro b hb
    have hearly : w.asked < k := by
      by_contra hlate
      apply hquiet.dispatched w.asked (by omega)
      rw [← hw]
      exact hmore b hb
    unfold calls_until
    omega
  unfold dispatch_messages
  simp only [wp_bind, wp_modify_session, wp_observe, wp_ask]
  split
  · rename_i paused _
    have hrequest : Ending answers (request_paused_method pause_handler paused) := by
      unfold request_paused_method
      exact record_ends ((hhandler _).bind fun r => record.ends _)
    apply wp_bind.mpr
    apply wp_mono (hrequest _ _) fun _ h => h
    · intro _ w1 h1
      exact hfinish w1 h1.1 h1.2
    · exact hw
  · exact hfinish _ hw (Nat.lt_succ_self w.asked)

theorem recover_event.turning (hquiet : QuietFrom answers k) (u : Unit) :
    Turning answers k (recover_event u) := by
  intro w hw
  unfold recover_event source_device_read_sync_event source_device_next_event
  simp only [wp_bind, wp_session]
  split
  · exact ⟨⟨hw, Nat.le_refl w.asked⟩, by simp⟩
  · simp only [wp_bind, wp_ask]
    split
    · rename_i result hread
      simp only [wp_bind, wp_record, wp_pure]
      split
      · exact ⟨⟨hw, Nat.le_succ w.asked⟩, by simp⟩
      · exact ⟨⟨hw, Nat.le_succ w.asked⟩, by simp⟩
      · rename_i hok
        cases hok
    · rename_i event hread
      have hearly : w.asked < k := by
        by_contra hlate
        rw [hw] at hread
        exact hquiet.recovered w.asked (by omega) event hread
      have hrest : Ending answers (do
          let result ← process_read_event event.event
          if result ≠ .SUCCESS then return .inr result
          else return .inl () : M (Unit ⊕ Result)) :=
        (process_read_event.ends _).bind fun r => .ite (.pure _) (.pure _)
      -- the event is delivered, and then forwarded
      apply wp_bind.mpr
      apply wp_modify_session.mpr
      apply wp_bind.mpr
      apply wp_record.mpr
      apply (wp_pure _).mpr
      exact descends_after hrest hearly hw (Nat.lt_succ_self w.asked)

/-! ## The main loop -/

variable {fuel : Nat} (hquiet : QuietFrom answers k) (hfuel : k < fuel)

include hquiet hfuel

theorem runtime_control_process.ends :
    Ending answers (runtime_control_process session_request_paused fuel) := by
  unfold runtime_control_process
  apply session.ends.bind
  intro s
  apply Terminates.ite (.pure _)
  exact turning_loop (dispatch_messages.turning hquiet session_request_paused.ends) hfuel _

theorem runtime_control_wait.ends (timeout_usec : Nat) :
    Ending answers (runtime_control_wait session_request_paused fuel timeout_usec) := by
  unfold runtime_control_wait
  apply session.ends.bind
  intro s
  apply Terminates.ite (.pure _)
  apply ask.ends.bind
  intro a
  split
  · exact .pure _
  · exact destroy_runtime_control.ends
  · exact runtime_control_process.ends hquiet hfuel

theorem wait_with_activity_timer.ends (maximum_usec : Nat) :
    Ending answers (wait_with_activity_timer fuel maximum_usec) := by
  unfold wait_with_activity_timer
  apply (runtime_wait_timeout_usec.ends _).bind
  intro timeout_usec
  apply (runtime_control_wait.ends hquiet hfuel _).bind
  intro _
  apply update_control_availability.ends.bind
  intro _
  apply session_process_activity_timers.ends.bind
  intro _
  exact process_runtime_control_recovery.ends

theorem service_runtime_control.ends : Ending answers (service_runtime_control fuel) := by
  unfold service_runtime_control
  apply (runtime_control_process.ends hquiet hfuel).bind
  intro _
  apply update_control_availability.ends.bind
  intro _
  apply process_runtime_control_recovery.ends.bind
  intro _
  exact session_process_activity_timers.ends

theorem create_active_devices.ends : Ending answers (create_active_devices fuel) := by
  have hwait : Ending answers (wait_for_source fuel) := wait_with_activity_timer.ends hquiet hfuel _
  unfold create_active_devices
  refine turning_loop (fun deadline => ?_) hfuel _
  unfold acquire_source
  apply loop_ends.turning hquiet
  apply (service_runtime_control.ends hquiet hfuel).bind
  intro _
  apply session.ends.bind
  intro s
  apply Terminates.ite (.pure _)
  apply source_device_open.ends.bind
  intro r
  split
  · exact hwait.bind fun _ => .pure _
  · split
    · apply (settle_permission.ends _).bind
      intro settled
      split
      · exact .pure _
      · exact hwait.bind fun _ => .pure _
    · exact .ite (.pure _) (activate_source.ends.bind fun r => .pure _)

theorem session_process_event.ends : Ending answers (session_process_event fuel) := by
  unfold session_process_event
  apply session.ends.bind
  intro s
  apply Terminates.ite (.pure _)
  apply (source_device_next_event.ends .NORMAL).bind
  intro r
  split
  · exact turning_loop (recover_event.turning hquiet) hfuel _
  · exact .pure _
  · apply session.ends.bind
    intro s
    apply Terminates.ite _ (process_read_event.ends _)
    exact process_physical_activity.ends.bind fun _ => process_read_event.ends _

theorem forward_events.ends (result : Result) :
    Ending answers (Program.loop (forward_events fuel) fuel result) := by
  refine turning_loop (fun result => ?_) hfuel _
  unfold forward_events
  apply loop_ends.turning hquiet
  apply (observe.ends _).bind
  intro _
  apply (service_runtime_control.ends hquiet hfuel).bind
  intro _
  apply session.ends.bind
  intro s
  apply Terminates.ite (.pure _)
  apply (session_process_event.ends hquiet hfuel).bind
  intro r
  apply Terminates.ite _ (.ite (.pure _) (.pure _))
  exact (wait_with_activity_timer.ends hquiet hfuel _).bind fun _ => .pure _

theorem run_devices.ends (result : Result) :
    Ending answers (Program.loop (run_devices fuel) fuel result) := by
  refine turning_loop (fun result => ?_) hfuel _
  unfold run_devices
  apply loop_ends.turning hquiet
  apply (create_active_devices.ends hquiet hfuel).bind
  intro r
  apply Terminates.ite (.pure _)
  apply shutdown_requested.ends.bind
  intro shutdown
  apply Terminates.ite (.pure _)
  apply (forward_events.ends hquiet hfuel _).bind
  intro r
  apply shutdown_requested.ends.bind
  intro shutdown
  apply Terminates.ite (.pure _)
  apply Terminates.ite _ (.pure _)
  exact lose_source.ends.bind fun r => .ite (.pure _) (.pure _)

theorem session_run.ends : Ending answers (session_run fuel) := by
  unfold session_run
  apply start_runtime_control.ends.bind
  intro _
  apply (run_devices.ends hquiet hfuel _).bind
  intro r
  apply cleanup_active_devices.ends.bind
  intro _
  exact destroy_runtime_control.ends.bind fun _ => .pure _

end loops

/-! ## More turns -/

section turns

variable {fuel fuel' : Nat} (h : fuel ≤ fuel')

include h

theorem runtime_control_process.below : Below (runtime_control_process session_request_paused fuel)
    (runtime_control_process session_request_paused fuel') := by
  unfold runtime_control_process
  apply (Below.refl session).bind
  intro s
  exact .ite (.refl _) (.loop (fun _ => .refl _) h _)

theorem wait_with_activity_timer.below (maximum_usec : Nat) :
    Below (wait_with_activity_timer fuel maximum_usec)
      (wait_with_activity_timer fuel' maximum_usec) := by
  unfold wait_with_activity_timer runtime_control_wait
  apply (Below.refl _).bind
  intro timeout_usec
  apply Below.bind _ fun _ => .refl _
  apply (Below.refl session).bind
  intro s
  apply Below.ite (.refl _)
  apply (Below.refl ask).bind
  intro a
  split
  · exact .refl _
  · exact .refl _
  · exact runtime_control_process.below h

theorem service_runtime_control.below :
    Below (service_runtime_control fuel) (service_runtime_control fuel') := by
  unfold service_runtime_control
  exact (runtime_control_process.below h).bind fun _ => .refl _

theorem create_active_devices.below :
    Below (create_active_devices fuel) (create_active_devices fuel') := by
  have hwait := wait_with_activity_timer.below h (SOURCE_RETRY_DELAY_NS / 1000)
  unfold create_active_devices
  refine Below.loop (fun deadline => ?_) h _
  unfold acquire_source wait_for_source
  apply (Below.refl loop_ends).bind
  intro shutdown
  apply Below.ite (.refl _)
  apply (service_runtime_control.below h).bind
  intro _
  apply (Below.refl session).bind
  intro s
  apply Below.ite (.refl _)
  apply (Below.refl source_device_open).bind
  intro r
  split
  · exact hwait.bind fun _ => .refl _
  · split
    · apply (Below.refl _).bind
      intro settled
      split
      · exact .refl _
      · exact hwait.bind fun _ => .refl _
    · exact .refl _

theorem forward_events.below (result : Result) :
    Below (Program.loop (forward_events fuel) fuel result)
      (Program.loop (forward_events fuel') fuel' result) := by
  refine Below.loop (fun result => ?_) h _
  unfold forward_events session_process_event recover_synchronization wait_for_event
  apply (Below.refl loop_ends).bind
  intro shutdown
  apply Below.ite (.refl _)
  apply (Below.refl _).bind
  intro _
  apply (service_runtime_control.below h).bind
  intro _
  apply (Below.refl session).bind
  intro s
  apply Below.ite (.refl _)
  apply Below.bind
  · apply (Below.refl session).bind
    intro s
    apply Below.ite (.refl _)
    apply (Below.refl source_device_read_event).bind
    intro r
    split
    · exact .loop (fun _ => .refl _) h _
    · exact .refl _
    · exact .refl _
  · intro r
    apply Below.ite _ (.refl _)
    exact (wait_with_activity_timer.below h _).bind fun _ => .refl _

theorem session_run.below : Below (session_run fuel) (session_run fuel') := by
  unfold session_run
  apply (Below.refl start_runtime_control).bind
  intro _
  apply Below.bind _ fun _ => .refl _
  refine Below.loop (fun result => ?_) h _
  unfold run_devices
  apply (Below.refl loop_ends).bind
  intro shutdown
  apply Below.ite (.refl _)
  apply (create_active_devices.below h).bind
  intro r
  apply Below.ite (.refl _)
  apply (Below.refl shutdown_requested).bind
  intro shutdown
  apply Below.ite (.refl _)
  exact (forward_events.below h _).bind fun _ => .refl _

end turns

/-! ## Every run -/

/-- A run that returns with some turns for its loops returns the same with more of them. -/
theorem Returns.more {config : SessionConfig} {answers : Nat → Answer} {fuel fuel' : Nat}
    {r : Result} {w : World} (hreturns : Returns config answers fuel r w) (h : fuel ≤ fuel') :
    Returns config answers fuel' r w :=
  session_run.below h _ _ _ hreturns

/-- A signal ends a run: it returns, and however many more turns its loops were given, they
would not be used. -/
theorem a_signal_ends_a_run (config : SessionConfig) (answers : Nat → Answer) (k : Nat)
    (hquiet : QuietFrom answers k) :
    ∃ r w, ∀ fuel, k < fuel → Returns config answers fuel r w := by
  have hends := session_run.ends hquiet (Nat.lt_succ_self k)
  obtain ⟨r, w, hrun, -⟩ := exists_of_wp (hends (World.start config answers) rfl)
  refine ⟨r, w, ?_⟩
  intro fuel hfuel
  have hreturns : Returns config answers (k + 1) r w := hrun
  exact hreturns.more hfuel

/-- A source that is not there, and a signal before the fourth call. -/
def interrupted_wait (j : Nat) : Answer where
  open_errno := some .ENOENT
  signal := decide (3 ≤ j)

theorem a_wait_that_is_interrupted_returns :
    ∃ r w, ∀ fuel, 3 < fuel →
      Returns ⟨"desk", 1000, 1000, true, true, false⟩ interrupted_wait fuel r w := by
  apply a_signal_ends_a_run _ interrupted_wait 3
  constructor
  · intro j hj
    exact decide_eq_true hj
  · intro j _
    exact Processed.noConfusion
  · intro j _ event hread
    cases hread

end input_proxy
