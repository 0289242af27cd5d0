-- The specs of the two loops: the acquisition of the source, forwarding and
-- the loss of the source, up to the whole run.
import InputProxy.Refinement

open programs Program

namespace input_proxy

variable (config : SessionConfig)

/-! ## The acquisition of the source -/

/-- An attempt to open the source: it fails, or the session has a new source. -/
theorem source_device_open.spec {I : World → Prop} {w : World} {Q : Result → World → Prop}
    (hfail : ∀ r w', r ≠ .SUCCESS →
      w'.moment = (w.moment.put fun s => { s with source_device := none }).log (.attempted r) →
      Q r w')
    (hopen : ∀ evdev w', w'.moment = (w.moment.put fun s =>
        { s with source_device := some ⟨w.history.length, evdev⟩ }).log
          (.opened w.history.length) → Q .SUCCESS w') :
    wp I source_device_open Q w := by
  unfold source_device_open
  simp only [wp_bind, wp_modify_session, wp_ask]
  split
  · rename_i r hr
    refine hfail r _ ?_ rfl
    rintro rfl
    unfold Answer.source source_device_open_failed at hr
    split at hr
    · split_ifs at hr <;> cases hr
    · split at hr
      · cases hr
      · split at hr <;> cases hr
  · rename_i evdev _
    exact hopen evdev _ rfl

/-- A session with a virtual device at last: forwarding may begin, or the run ends. -/
def Activated (r : Result) : World → Prop :=
  At config (if r = .SUCCESS then .ready else .ended r)

theorem synchronize_unless_paused.spec :
    Spec (Reached config) (At config .prepared) synchronize_unless_paused (Activated config) := by
  intro w hw
  unfold synchronize_unless_paused Activated
  simp only [wp_bind, wp_session]
  split
  · rename_i hp
    exact hw.step (.stay_paused hp)
  rename_i hp
  have hp : w.session.runtime_state.paused = false := by simpa using hp
  have hd : LoopHolds .active w.session := hw.holds
  refine session_synchronize_state.spec.call ⟨hd.1, hd.2.2⟩ fun r w1 h1 => ?_
  by_cases hr : r = .SUCCESS
  · subst hr
    exact hw.step (.synchronized hp h1)
  · rw [if_neg hr]
    exact hw.step (.not_synchronized hp h1 hr)

theorem source_device_close.spec {I : World → Prop} {w : World} {Q : Unit → World → Prop}
    (hQ : ∀ w', w'.moment = (match w.session.source_device with
      | none => w.moment
      | some source => w.moment.log (.closed source.id)) → Q () w') :
    wp I source_device_close Q w := by
  unfold source_device_close
  simp only [wp_bind, wp_session]
  split
  · rename_i hs
    exact hQ w (by rw [hs])
  · rename_i source hs
    exact hQ _ (by rw [hs]; rfl)

theorem close_source_device.spec {I : World → Prop} {w : World} {Q : Unit → World → Prop}
    (hQ : ∀ w', ControlSteps w.moment.close w'.moment → Q () w') :
    wp I close_source_device Q w := by
  unfold close_source_device
  refine wp_bind.mpr (source_device_close.spec fun w1 h1 => ?_)
  simp only [wp_bind, wp_modify_session]
  refine set_source_available.spec _ _ fun w2 h2 => hQ w2 ?_
  have hc : w.moment.close = w1.moment.put fun s =>
      { s with
        source_device := none
        runtime_state := { s.runtime_state with source_available := false } } := by
    rw [h1]
    rfl
  rw [hc]
  exact h2

theorem virtual_device_destroy.spec {I : World → Prop} {w : World} {Q : Unit → World → Prop}
    (hQ : ∀ w', (w'.moment.put fun s => { s with virtual_device := none }) = w.moment.destroy →
      Q () w') :
    wp I virtual_device_destroy Q w := by
  unfold virtual_device_destroy
  simp only [wp_bind, wp_session]
  split
  · rename_i hs
    refine hQ w ?_
    have hs : w.moment.session.virtual_device = none := hs
    simp [Moment.destroy, hs]
  · rename_i d hs
    refine hQ _ ?_
    have hs : w.moment.session.virtual_device = some d := hs
    simp only [Moment.destroy, hs]
    rfl

/-- The creation of a virtual device for a session that has none. -/
theorem virtual_device_create.spec {w : World} {Q : Result → World → Prop}
    (hw : At config .creating w)
    (hfail : ∀ r w', CreationFailure r → w'.moment = w.moment.log (.create_failed r) → Q r w')
    (hcreate : ∀ w', At config .prepared w' → Q .SUCCESS w') :
    wp (Reached config) virtual_device_create Q w := by
  obtain ⟨hs, _, hv⟩ := hw.holds
  obtain ⟨source, hs⟩ := Option.isSome_iff_exists.mp hs
  have hsame : { w.session with virtual_device := none } = w.session := by rw [← hv]
  unfold virtual_device_create
  simp only [wp_bind, wp_modify_session, wp_session]
  rw [hsame]
  simp only [hs, wp_bind, wp_ask]
  split
  · exact hfail _ _ (.inl rfl) rfl
  · split
    · refine hfail _ _ ?_ rfl
      unfold virtual_device_create_failed
      split_ifs
      · exact .inl rfl
      · exact .inr (.inl rfl)
      · exact .inr (.inr rfl)
    · exact hcreate _ (hw.step (.create _ hs))

theorem activate_source.spec {w : World} {Q : Result → World → Prop}
    (hw : ∀ w', ControlSteps (w.moment.put fun s =>
        { s with
          source_opened_successfully := true
          runtime_state := { s.runtime_state with source_available := true } }) w'.moment →
      At config .opened w')
    (hQ : ∀ r w', Activated config r w' → Q r w') :
    wp (Reached config) activate_source Q w := by
  unfold activate_source
  simp only [wp_bind, wp_modify_session]
  refine set_source_available.spec _ _ fun w1 h1 => ?_
  refine wp_bind.mpr (report_libinput_status.spec.call trivial fun _ w2 h2 => ?_)
  have hw2 : At config .opened w2 := hw w2 (h1.trans h2)
  obtain ⟨hs, _⟩ := hw2.holds
  obtain ⟨source, hs⟩ := Option.isSome_iff_exists.mp hs
  have hsync : ∀ w3, At config .prepared w3 →
      wp (Reached config) synchronize_unless_paused Q w3 := fun w3 hw3 =>
    (synchronize_unless_paused.spec config).call hw3 hQ
  have hcreate : ∀ w3, At config .creating w3 → wp (Reached config) (do
      let result ← virtual_device_create
      if result ≠ .SUCCESS then
        close_source_device
        return result
      else synchronize_unless_paused) Q w3 := by
    intro w3 hw3
    refine wp_bind.mpr (virtual_device_create.spec config hw3 (fun r w4 hr h4 => ?_)
      fun w4 hw4 => ?_)
    · rw [if_pos hr.ne_success]
      refine wp_bind.mpr (close_source_device.spec fun w5 h5 => hQ r w5 ?_)
      unfold Activated
      rw [if_neg hr.ne_success]
      rw [h4] at h5
      exact hw3.step_control (.create_failed hr) h5
    · rw [if_neg (by decide)]
      exact hsync w4 hw4
  unfold virtual_device_is_compatible
  simp only [wp_bind, wp_session]
  cases hv : w2.session.virtual_device with
  | none =>
    simp only [wp_pure]
    rw [if_neg (by decide)]
    refine wp_bind.mpr (virtual_device_destroy.spec fun w3 h3 => ?_)
    simp only [wp_bind, wp_modify_session] at hcreate ⊢
    refine hcreate _ ?_
    have hm : (w2.moment.destroy) = w2.moment := by
      have hv : w2.moment.session.virtual_device = none := hv
      simp only [Moment.destroy, hv, Moment.put]
      rw [← hv]
    refine hw2.step ?_
    change Step _ (.creating, w3.moment.put fun s => { s with virtual_device := none })
    rw [h3, hm]
    exact .first hv
  | some d =>
    simp only [hs, wp_bind, wp_record, wp_pure]
    split
    · rename_i hc
      exact hsync _ (hw2.step (hc ▸ .compatible hv hs hc))
    · rename_i hc
      have hc : capabilities_equal d.capabilities source.evdev.capabilities = false := by
        simpa using hc
      refine wp_bind.mpr (virtual_device_destroy.spec fun w3 h3 => ?_)
      simp only [wp_bind, wp_modify_session] at hcreate ⊢
      refine hcreate _ (hw2.step ?_)
      change Step _ (.creating, w3.moment.put fun s => { s with virtual_device := none })
      rw [h3, hc]
      exact .incompatible hv hs hc

/-- What the wait for the source leaves: a session that may forward, a session that
was told to shut down, or a failure. -/
def Acquired (r : Result) (w : World) : Prop :=
  (r = .SUCCESS ∧ (At config .ready w ∨
    (At config (.ended .SUCCESS) w ∧ w.session.shutdown_requested = true))) ∨
  (r ≠ .SUCCESS ∧ At config (.ended r) w)

theorem Acquired.of_activated {r : Result} {w : World} (h : Activated config r w) :
    Acquired config r w := by
  unfold Activated at h
  by_cases hr : r = .SUCCESS
  · rw [if_pos hr] at h
    exact .inl ⟨hr, .inl h⟩
  · rw [if_neg hr] at h
    exact .inr ⟨hr, h⟩

/-- What one turn of the wait leaves. -/
def AcquireTurn (x : Option Timespec ⊕ Result) (w : World) : Prop :=
  match x with
  | .inl deadline => At config (.idle (.waiting deadline)) w
  | .inr r => Acquired config r w

theorem wait_for_source.spec {fuel : Nat} {deadline : Option Timespec} {w : World}
    (hw : At config (.idle (.waiting deadline)) w) :
    wp (Reached config) (do
      wait_for_source fuel
      return .inl deadline) (AcquireTurn config) w :=
  wp_bind.mpr ((wait_with_activity_timer.spec config _ fuel _).call hw fun _ _ h => h)

/-- Only denials end a settling period. -/
theorem settle_inr {deadline now : Option Timespec} {r : Result}
    (hs : settle deadline now = .inr r) : r = .ERROR_SOURCE_PERMISSION_DENIED := by
  unfold settle at hs
  split at hs
  · split at hs
    · exact (Sum.inr.inj hs).symm
    · cases hs
  · split_ifs at hs
    exact (Sum.inr.inj hs).symm

theorem acquire_source.spec (fuel : Nat) (deadline : Option Timespec) :
    Spec (Reached config) (At config (.idle (.waiting deadline))) (acquire_source fuel deadline)
      (AcquireTurn config) := by
  intro w hw
  unfold acquire_source
  refine wp_bind.mpr ((loop_ends.spec config _).call hw fun b w1 h1 => ?_)
  cases b with
  | true => exact .inl ⟨rfl, .inr h1⟩
  | false =>
    simp only [Bool.false_eq_true, if_false] at h1 ⊢
    refine wp_bind.mpr ((service_runtime_control.spec config _ fuel).call h1 fun _ w2 hw2 => ?_)
    simp only [wp_bind, wp_session]
    split
    · rename_i hf
      exact .inr ⟨hf, hw2.step (.give_up hf)⟩
    rename_i hf
    have hf : w2.session.fatal_result = .SUCCESS := not_not.mp hf
    refine wp_bind.mpr (source_device_open.spec (fun r w3 hr h3 => ?_) fun evdev w3 h3 => ?_)
    · -- the attempt has failed
      split
      · rename_i hu
        subst hu
        refine wait_for_source.spec config (hw2.step ?_)
        rw [h3]
        exact .unavailable hf
      rename_i hu
      split
      · rename_i hd
        obtain ⟨rfl, ho⟩ := hd
        unfold settle_permission
        simp only [wp_bind, wp_monotonic_now, wp_record, wp_pure]
        have hs : ∀ now, ({ w3 with
            history := .sampled now :: w3.history, asked := w3.asked + 1 } : World).moment =
              ((w2.moment.put fun s => { s with source_device := none }).log
                (.attempted .ERROR_SOURCE_PERMISSION_DENIED)).log (.sampled now) := by
          intro now
          rw [← h3]
          rfl
        split
        · rename_i r hr
          refine .inr ⟨?_, hw2.step (hs _ ▸ .denied_end hf ho hr)⟩
          rw [settle_inr hr]
          decide
        · rename_i t ht
          exact wait_for_source.spec config (hw2.step (hs _ ▸ .denied hf ho ht))
      · rename_i hd
        exact .inr ⟨hr, hw2.step (h3 ▸ .open_failed hf hr hu hd)⟩
    · -- the source is open
      simp only [reduceCtorEq, false_and, ne_eq, not_true_eq_false, if_false]
      refine wp_bind.mpr (activate_source.spec config (fun w4 h4 => ?_) fun r w4 h4 => ?_)
      · rw [h3] at h4
        exact hw2.step_control (.open_source evdev hf) h4
      · exact Acquired.of_activated config h4

theorem create_active_devices.spec (fuel : Nat) :
    Spec (Reached config) (At config (.idle (.waiting none))) (create_active_devices fuel)
      (Acquired config) := by
  unfold create_active_devices
  refine Spec.loop (fun deadline => At config (.idle (.waiting deadline)))
    (fun _ _ h => h.reached trivial) (fun deadline => ?_) fuel none
  exact (acquire_source.spec config fuel deadline).mono (fun _ h => h) fun x _ h => by
    cases x <;> exact h

/-! ## Events -/

/-- A read gives an event or a reason why there is none. -/
theorem source_device_next_event.spec {I : World → Prop} {flag : ReadFlag} {w : World}
    {Q : Except Result InputEvent → World → Prop} (hs : w.session.source_device.isSome)
    (hread : ∀ e w', w'.moment = w.moment.deliver e → Q (.ok e.event) w')
    (hnone : ∀ r w', r = .EVENT_UNAVAILABLE ∨ r = .ERROR_SOURCE_DISCONNECTED ∨
        r = .ERROR_EVENT_READ_FAILED ∨ (r = .EVENT_SYNC_REQUIRED ∧ flag = .NORMAL) →
      w'.moment = w.moment.log (.read_failed r) → Q (.error r) w') :
    wp I (source_device_next_event flag) Q w := by
  obtain ⟨source, hs⟩ := Option.isSome_iff_exists.mp hs
  unfold source_device_next_event
  simp only [wp_bind, wp_session, hs]
  simp only [wp_ask]
  split
  · rename_i r hr
    refine hnone r _ ?_ rfl
    cases hread : (w.answers w.asked).read with
    | success e => rw [hread] at hr; cases hr
    | sync e =>
      rw [hread] at hr
      unfold ReadStatus.result at hr
      dsimp only at hr
      cases flag with
      | NORMAL => cases hr; exact .inr (.inr (.inr ⟨rfl, rfl⟩))
      | SYNC => cases hr
    | errno error =>
      rw [hread] at hr
      unfold ReadStatus.result at hr
      dsimp only at hr
      split_ifs at hr <;> cases hr
      · exact .inl rfl
      · exact .inr (.inl rfl)
      · exact .inr (.inr (.inl rfl))
  · rename_i e _
    refine hread e _ ?_
    simp [World.moment, Moment.deliver, Moment.put, Moment.log, hs]

/-- The end of forwarding: the source is lost, or the run ends. -/
def Broken (r : Result) (w : World) : Prop :=
  (r = .ERROR_SOURCE_DISCONNECTED ∧ At config .lost w) ∨
  (r ≠ .SUCCESS ∧ r ≠ .EVENT_UNAVAILABLE ∧ r ≠ .ERROR_SOURCE_DISCONNECTED ∧
    At config (.ended r) w)

theorem process_read_event.spec (recovering : Bool) (event : InputEvent) {w : World}
    {Q : Result → World → Prop} (hw : At config (.delivered recovering event) w)
    (hok : ∀ w', At config (.after recovering) w' → Q .SUCCESS w')
    (hfail : ∀ r w', r ≠ .SUCCESS → Broken config r w' → Q r w') :
    wp (Reached config) (process_read_event event) Q w := by
  unfold process_read_event
  simp only [wp_bind, wp_session]
  split
  · rename_i hp
    exact hok w (hw.step (.suppress hp))
  rename_i hp
  have hp : w.moment.session.runtime_state.paused = false := by
    change w.session.runtime_state.paused = false
    simpa using hp
  have hd : LoopHolds .active w.session := hw.holds
  refine (virtual_device_write_event.spec _ _).call hd.2.2 fun r w1 h1 => ?_
  rcases h1 with ⟨rfl, h1⟩ | ⟨rfl, h1⟩
  · exact hok w1 (hw.step (h1 ▸ .forward hp))
  · rw [hp] at h1
    exact hfail _ w1 (by decide) (.inr ⟨by decide, by decide, by decide,
      hw.step (h1 ▸ .forward_failed hp)⟩)

theorem recover_event.spec :
    Spec (Reached config) (At config .recovering) (recover_event ()) fun x w =>
      match x with
      | .inl _ => At config .recovering w
      | .inr r => (r = .SUCCESS ∧ At config (.idle .active) w) ∨ Broken config r w := by
  intro w hw
  have hd : LoopHolds .active w.session := hw.holds
  unfold recover_event source_device_read_sync_event
  refine wp_bind.mpr (source_device_next_event.spec hd.1 (fun e w1 h1 => ?_)
    fun r w1 hr h1 => ?_)
  · have hw1 : At config (.delivered true e.event) w1 := hw.step (h1 ▸ .recover)
    refine wp_bind.mpr (process_read_event.spec config true e.event hw1 (fun w2 hw2 => ?_)
      fun r w2 hr h2 => ?_)
    · exact hw2
    · rw [if_pos hr]
      exact .inr h2
  · rcases hr with rfl | rfl | rfl | ⟨_, hflag⟩
    · exact .inl ⟨rfl, hw.step (h1 ▸ .recovered)⟩
    · exact .inr (.inl ⟨rfl, hw.step (h1 ▸ .recover_lost)⟩)
    · exact .inr (.inr ⟨by decide, by decide, by decide, hw.step (h1 ▸ .recover_failed)⟩)
    · cases hflag

theorem recover_synchronization.spec (fuel : Nat) :
    Spec (Reached config) (At config .recovering) (recover_synchronization fuel) fun r w =>
      (r = .SUCCESS ∧ At config (.idle .active) w) ∨ Broken config r w := by
  unfold recover_synchronization
  refine Spec.loop (fun _ => At config .recovering) (fun _ _ h => h.reached trivial)
    (fun _ => ?_) fuel ()
  exact (recover_event.spec config).mono (fun _ h => h) fun x _ h => by
    cases x <;> exact h

/-- What one event, or its absence, leaves. -/
def Progress (r : Result) (w : World) : Prop :=
  ((r = .SUCCESS ∨ r = .EVENT_UNAVAILABLE) ∧ At config (.idle .active) w) ∨ Broken config r w

theorem session_process_event.spec (fuel : Nat) {w : World} (hw : At config (.idle .active) w)
    (hf : w.session.fatal_result = .SUCCESS) :
    wp (Reached config) (session_process_event fuel) (Progress config) w := by
  have hd : LoopHolds .active w.session := hw.holds
  have hn : (w.session.source_device.isNone || w.session.virtual_device.isNone) = false := by
    simp [Option.isNone_eq_false_iff, hd.1, hd.2.2]
  unfold session_process_event source_device_read_event
  simp only [wp_bind, wp_session, hn]
  refine wp_bind.mpr (source_device_next_event.spec hd.1 (fun e w1 h1 => ?_)
    fun r w1 hr h1 => ?_)
  · have hw1 : At config (.delivered false e.event) w1 := hw.step (h1 ▸ .read hf)
    have hlast : ∀ w2, At config (.delivered false e.event) w2 →
        wp (Reached config) (process_read_event e.event) (Progress config) w2 := fun w2 hw2 =>
      process_read_event.spec config false e.event hw2 (fun w3 hw3 => .inl ⟨.inl rfl, hw3⟩)
        fun r w3 _ h3 => .inr h3
    simp only [wp_bind, wp_session]
    generalize session_event_is_activity e.event _ = activity
    split
    · refine wp_bind.mpr (process_physical_activity.spec.call trivial fun _ w2 h2 => ?_)
      exact hlast w2 (hw1.control h2)
    · exact hlast w1 hw1
  · rcases hr with rfl | rfl | rfl | ⟨rfl, _⟩
    · exact .inl ⟨.inr rfl, hw.step (h1 ▸ .read_nothing hf)⟩
    · exact .inr (.inl ⟨rfl, hw.step (h1 ▸ .read_lost hf)⟩)
    · exact .inr (.inr ⟨by decide, by decide, by decide, hw.step (h1 ▸ .read_failed hf)⟩)
    · refine (recover_synchronization.spec config fuel).call (hw.step (h1 ▸ .read_dropped hf))
        fun r w2 h2 => ?_
      rcases h2 with ⟨hr, h2⟩ | h2
      · exact .inl ⟨.inl hr, h2⟩
      · exact .inr h2

/-! ## The main loop -/

/-- What the inner loop leaves. -/
def Forwarded (r : Result) (w : World) : Prop :=
  ((r = .SUCCESS ∨ r = .EVENT_UNAVAILABLE) ∧ At config (.ended .SUCCESS) w ∧
    w.session.shutdown_requested = true) ∨ Broken config r w

/-- The result that the inner loop carries. -/
def Forwarding (r : Result) (w : World) : Prop :=
  (r = .SUCCESS ∨ r = .EVENT_UNAVAILABLE) ∧ At config (.idle .active) w

theorem forward_events.spec (fuel : Nat) (result : Result) :
    Spec (Reached config) (Forwarding config result) (forward_events fuel result) fun x w =>
      x.elim (fun r => Forwarding config r w) fun r => Forwarded config r w := by
  rintro w ⟨hr, hw⟩
  unfold forward_events
  refine wp_bind.mpr ((loop_ends.spec config _).call hw fun b w1 h1 => ?_)
  cases b with
  | true => exact .inl ⟨hr, h1⟩
  | false =>
    simp only [Bool.false_eq_true, if_false, wp_bind, wp_observe] at h1 ⊢
    have hw2 : At config (.idle .active)
        { w1 with history := .observed .loop_head w1.session :: w1.history } :=
      h1.step .loop_head
    refine (service_runtime_control.spec config _ fuel).call hw2 fun _ w3 hw3 => ?_
    simp only [wp_session]
    split
    · rename_i hf
      refine .inr ?_
      by_cases hd : w3.session.fatal_result = .ERROR_SOURCE_DISCONNECTED
      · exact .inl ⟨hd, hw3.step (.fatal_lost hd)⟩
      · refine .inr ⟨hf, ?_, hd, hw3.step (.fatal hf hd)⟩
        have hc := fatal_reach hw3
        intro hu
        change w3.session.fatal_result = _ ∨ CorrectionFailure w3.session.fatal_result at hc
        rw [hu] at hc
        rcases hc with hc | hc | hc | hc | hc <;> cases hc
    rename_i hf
    refine wp_bind.mpr (wp_mono (session_process_event.spec config fuel hw3 (not_not.mp hf))
      (fun _ h => h) fun r w4 h4 => ?_)
    rcases h4 with ⟨hr4, hw4⟩ | h4
    · split
      · rename_i hu
        exact wp_bind.mpr ((wait_with_activity_timer.spec config _ fuel _).call hw4
          fun _ w5 hw5 => ⟨hr4, hw5⟩)
      · rename_i hu
        rw [if_pos (hr4.resolve_right hu)]
        exact ⟨hr4, hw4⟩
    · have hne : r ≠ .EVENT_UNAVAILABLE ∧ r ≠ .SUCCESS := by
        rcases h4 with ⟨rfl, _⟩ | ⟨h1, h2, _⟩
        · decide
        · exact ⟨h2, h1⟩
      rw [if_neg hne.1, if_neg hne.2]
      exact .inr h4

theorem lose_source.spec :
    Spec (Reached config) (At config .lost) lose_source fun r =>
      At config (if r = .SUCCESS then .idle (.waiting none) else .ended r) := by
  intro w hw
  unfold lose_source
  refine wp_bind.mpr (set_source_available.spec _ _ fun w1 h1 => ?_)
  have hw1 : At config .losing w1 := hw.step_control .lose h1
  obtain ⟨_, _, hd⟩ := hw1.holds
  simp only [wp_bind, wp_session, wp_record]
  refine virtual_device_neutralize.spec.call hd fun r w2 h2 => ?_
  have h2 : Neutralize (w1.moment.log (.lost w1.moment.session)) r w2.moment := h2
  refine close_source_device.spec fun w3 h3 => ?_
  by_cases hr : r = .SUCCESS
  · subst hr
    exact hw1.step_control (.neutralized h2) h3
  · simp only [wp_pure, if_neg hr]
    exact hw1.step_control (.not_neutralized h2 hr) h3

/-- What one turn of the outer loop leaves: the wait for the source, or the cleanup. -/
def RunTurn (x : Result ⊕ Result) (w : World) : Prop :=
  match x with
  | .inl r => r = .SUCCESS ∧ At config (.idle (.waiting none)) w
  | .inr r => At config (.ended r) w

/-- What the outer loop makes of the end of the inner loop. -/
theorem end_forwarding.spec {r : Result} {w : World} (hw : Forwarded config r w) :
    wp (Reached config) (do
      if (← shutdown_requested) && (r = .SUCCESS ∨ r = .EVENT_UNAVAILABLE) then
        return .inr .SUCCESS
      else if r = .ERROR_SOURCE_DISCONNECTED then
        let result ← lose_source
        if result ≠ .SUCCESS then return .inr result
        else return .inl result
      else return .inr r) (RunTurn config) w := by
  -- a shutdown that is seen here stays without effect unless forwarding went well
  have hbroken : ∀ w', Broken config r w' → wp (Reached config) (do
      if r = .ERROR_SOURCE_DISCONNECTED then
        let result ← lose_source
        if result ≠ .SUCCESS then return .inr result
        else return .inl result
      else return .inr r) (RunTurn config) w' := by
    rintro w' (⟨hr, hw'⟩ | ⟨_, _, hd, hw'⟩)
    · rw [if_pos hr]
      refine wp_bind.mpr ((lose_source.spec config).call hw' fun r' w2 h2 => ?_)
      split
      · rename_i hr'
        rw [if_neg hr'] at h2
        exact h2
      · rename_i hr'
        rw [if_pos (not_not.mp hr')] at h2
        exact ⟨not_not.mp hr', h2⟩
    · rw [if_neg hd]
      exact hw'
  refine wp_bind.mpr (shutdown_requested.spec (fun w1 h1 hs => ?_) fun w1 h1 => ?_)
  · rw [if_neg (by simp)]
    refine hbroken w1 ?_
    rcases hw with ⟨_, _, hf⟩ | ⟨hr, hw⟩ | ⟨h1', h2', h3', hw⟩
    · rw [hf] at hs; cases hs
    · exact .inl ⟨hr, hw.eq h1⟩
    · exact .inr ⟨h1', h2', h3', hw.eq h1⟩
  · rcases hw with ⟨hr, hw, _⟩ | ⟨hr, hw⟩ | ⟨h1', h2', h3', hw⟩
    · rw [if_pos (by simpa using hr)]
      exact hw.step (h1 ▸ .signal_ended)
    · rw [if_neg (by simp [hr])]
      exact hbroken w1 (.inl ⟨hr, hw.step (h1 ▸ .signal_lost)⟩)
    · rw [if_neg (by simp [h1', h2'])]
      exact hbroken w1 (.inr ⟨h1', h2', h3', hw.step (h1 ▸ .signal_ended)⟩)

theorem run_devices.spec (fuel : Nat) (result : Result) :
    Spec (Reached config) (fun w => result = .SUCCESS ∧ At config (.idle (.waiting none)) w)
      (run_devices fuel result) (RunTurn config) := by
  rintro w ⟨rfl, hw⟩
  unfold run_devices
  refine wp_bind.mpr ((loop_ends.spec config _).call hw fun b w1 h1 => ?_)
  cases b with
  | true => exact h1.1
  | false =>
    simp only [Bool.false_eq_true, if_false] at h1 ⊢
    refine wp_bind.mpr ((create_active_devices.spec config fuel).call h1 fun r w2 h2 => ?_)
    split
    · rename_i hr
      exact (h2.resolve_left fun h => hr h.1).2
    rename_i hr
    obtain rfl := not_not.mp hr
    have h2 := (h2.resolve_right fun h => h.1 rfl).2
    refine wp_bind.mpr (shutdown_requested.spec (fun w3 h3 hs => ?_) fun w3 h3 => ?_)
    · rw [if_neg (by decide)]
      have hw2 : At config .ready w2 := h2.resolve_right fun h => by
        rw [h.2] at hs; cases hs
      have hw3 : At config (.idle .active) w3 := hw2.step (h3 ▸ .activate)
      refine wp_bind.mpr ((Spec.loop (Forwarding config) (fun _ _ h => h.2.reached trivial)
        (forward_events.spec config fuel) fuel .SUCCESS).call ⟨.inl rfl, hw3⟩
          fun r w4 h4 => ?_)
      exact end_forwarding.spec config h4
    · rw [if_pos rfl]
      rcases h2 with hw2 | ⟨hw2, _⟩
      · exact hw2.step (h3 ▸ .interrupted)
      · exact hw2.step (h3 ▸ .signal_ended)

theorem cleanup_active_devices.spec (r : Result) :
    Leads config (.ended r) cleanup_active_devices fun _ => .stopped r := by
  intro w hw
  unfold cleanup_active_devices
  simp only [wp_bind, wp_record]
  refine virtual_device_destroy.spec fun w1 h1 => ?_
  simp only [wp_modify_session]
  refine source_device_close.spec fun w2 h2 => set_source_available.spec _ _ fun w3 h3 => ?_
  refine hw.step_control .clean ?_
  have hc : (w.moment.log .cleanup).destroy.close = w2.moment.put fun s =>
      { s with
        source_device := none
        runtime_state := { s.runtime_state with source_available := false } } := by
    rw [h2, ← show _ = (w.moment.log .cleanup).destroy from h1]
    rfl
  rw [hc]
  exact h3

/-- A run that is cut short is at a moment of the lifecycle, and a run that returns
`r` has stopped with `r`. -/
theorem session_run.spec (fuel : Nat) (answers : Nat → Answer) :
    wp (Reached config) (session_run fuel) (fun r w => At config (.stopped r) w)
      (World.start config answers) := by
  have hw : At config (.idle (.waiting none)) (World.start config answers) := .refl
  unfold session_run
  refine wp_bind.mpr (start_runtime_control.spec.call trivial fun _ w1 h1 => ?_)
  have hturn : ∀ result, Spec (Reached config)
      (fun w => result = .SUCCESS ∧ At config (.idle (.waiting none)) w) (run_devices fuel result)
      fun x w => x.elim (fun r => r = .SUCCESS ∧ At config (.idle (.waiting none)) w)
        fun r => At config (.ended r) w :=
    fun result => (run_devices.spec config fuel result).mono (fun _ h => h) fun x _ h => by
      cases x <;> exact h
  have hloop := Spec.loop
    (fun result w => result = Result.SUCCESS ∧ At config (.idle (.waiting none)) w)
    (fun _ _ h => h.2.reached trivial) hturn fuel .SUCCESS
  refine wp_bind.mpr (hloop.call ⟨rfl, hw.control h1⟩ fun r w2 h2 => ?_)
  refine wp_bind.mpr ((cleanup_active_devices.spec config r).call h2 fun _ w3 h3 => ?_)
  exact h3.step (.control (.control _ none))

/-- Every moment at which a run can be found is a moment of the lifecycle. -/
theorem session_run.reached (fuel : Nat) (answers : Nat → Answer) :
    Reached config (session_run fuel (World.start config answers)).2 := by
  have h := session_run.spec config fuel answers
  unfold wp at h
  split at h
  · rename_i heq
    rw [heq]
    exact h.reached trivial
  · rename_i heq
    rw [heq]
    exact h

theorem session_run.returned {fuel : Nat} {answers : Nat → Answer} {r : Result} {w : World}
    (h : session_run fuel (World.start config answers) = (some r, w)) :
    At config (.stopped r) w := by
  have hs := session_run.spec config fuel answers
  unfold wp at hs
  rw [h] at hs
  exact hs

end input_proxy
