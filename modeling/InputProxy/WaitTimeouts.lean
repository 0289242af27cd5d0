-- The waits of the session: a wait ends no later than the next deadline, and
-- it ends at once only where a deadline has passed.
import InputProxy.ActivityPeriods
import InputProxy.ControlRuns

open programs Program

namespace input_proxy

/-! ## The time that is left -/

/-- The time from `now` to the deadline in microseconds, rounded up. Nothing is left of a
deadline that has expired. -/
def Timespec.usec_left (deadline now : Timespec) : Nat :=
  ((deadline.ns - now.ns + 999) / 1000).toNat

section left

variable {deadline now : Timespec}

theorem to_uint64_eq {x : Int} (h0 : 0 ≤ x) (h : x < UINT64_VALUES) : to_uint64 x = x.toNat := by
  unfold to_uint64
  rw [Int.emod_eq_of_lt h0 h]

/-- The subtraction borrows across the fields, and nothing of it wraps. -/
theorem remaining_usec_eq (hd : deadline.Normal) (hn : now.Normal) (hlt : now.ns < deadline.ns)
    (hnear : deadline.ns < now.ns + UINT64_VALUES) :
    remaining_usec deadline now = deadline.usec_left now := by
  obtain ⟨hd0, hd1⟩ := hd
  obtain ⟨hn0, hn1⟩ := hn
  unfold Timespec.ns at hlt hnear
  unfold UINT64_VALUES at hnear
  unfold remaining_usec Timespec.usec_left Timespec.ns
  dsimp only
  split
  · rw [to_uint64_eq (by omega) (by unfold UINT64_VALUES; omega),
      to_uint64_eq (by omega) (by unfold UINT64_VALUES; omega)]
    unfold MICROSECONDS_PER_SECOND UINT64_VALUES
    omega
  · rw [to_uint64_eq (by omega) (by unfold UINT64_VALUES; omega),
      to_uint64_eq (by omega) (by unfold UINT64_VALUES; omega)]
    unfold MICROSECONDS_PER_SECOND UINT64_VALUES
    omega

theorem usec_left_eq_zero : deadline.usec_left now = 0 ↔ deadline.ns ≤ now.ns := by
  unfold Timespec.usec_left
  omega

/-- After a sleep of the time that was left, the deadline has expired. -/
theorem expired_after_usec_left {later : Timespec} (hd : deadline.Normal) (hl : later.Normal)
    (h : now.ns + deadline.usec_left now * 1000 ≤ later.ns) :
    deadline_expired deadline later = true := by
  rw [deadline_expired_iff_ns hd hl]
  unfold Timespec.usec_left at h
  omega

end left

/-! ## Where the deadlines come from -/

/-- The deadlines that are active: of the two activity timers and of the retry. -/
def Session.active_deadlines (s : Session) : List Timespec :=
  (if s.running_activity_timer_active then [s.running_activity_deadline] else []) ++
    (if s.paused_activity_timer_active then [s.paused_activity_deadline] else []) ++
    if s.runtime_control_retry_active then [s.runtime_control_retry_deadline] else []

/-- The times at which deadlines were set. -/
def set_times : List Action → List Timespec
  | [] => []
  | .timer_set _ now :: past => now :: set_times past
  | .retry_scheduled now :: past => now :: set_times past
  | _ :: past => set_times past

/-- Every active deadline was set at a time that the history has. -/
def Moment.Dated (m : Moment) : Prop :=
  ∀ d ∈ m.session.active_deadlines,
    ∃ t duration_ms, t ∈ set_times m.history ∧ t.Normal ∧ d = set_deadline t duration_ms

section dated

variable {m m' : Moment} {s s' : Session} {t now : Timespec} {clock : Option Timespec}

theorem mem_active_deadlines {d : Timespec} : d ∈ s.active_deadlines ↔
    s.running_activity_timer_active = true ∧ d = s.running_activity_deadline ∨
    s.paused_activity_timer_active = true ∧ d = s.paused_activity_deadline ∨
    s.runtime_control_retry_active = true ∧ d = s.runtime_control_retry_deadline := by
  unfold Session.active_deadlines
  simp only [List.mem_append, or_assoc]
  split_ifs <;> simp_all

/-- Deadlines only become inactive. -/
theorem active_deadlines_subset (hr : s'.running_activity_timer_active = true →
      s.running_activity_timer_active = true ∧
        s'.running_activity_deadline = s.running_activity_deadline)
    (hp : s'.paused_activity_timer_active = true → s.paused_activity_timer_active = true ∧
      s'.paused_activity_deadline = s.paused_activity_deadline)
    (hc : s'.runtime_control_retry_active = true → s.runtime_control_retry_active = true ∧
      s'.runtime_control_retry_deadline = s.runtime_control_retry_deadline) :
    s'.active_deadlines ⊆ s.active_deadlines := by
  intro d hd
  apply mem_active_deadlines.mpr
  rcases mem_active_deadlines.mp hd with ⟨h, rfl⟩ | ⟨h, rfl⟩ | ⟨h, rfl⟩
  · exact .inl (hr h)
  · exact .inr (.inl (hp h))
  · exact .inr (.inr (hc h))

theorem mem_set_times_append {new past : List Action} (h : t ∈ set_times past) :
    t ∈ set_times (new ++ past) := by
  induction new with
  | nil => exact h
  | cons a new ih => cases a <;> simp [set_times, ih]

theorem Moment.Dated.log (h : m.Dated) (a : Action) : (m.log a).Dated := by
  intro d hd
  obtain ⟨t, duration_ms, ht, hset⟩ := h d hd
  exact ⟨t, duration_ms, @mem_set_times_append t [a] _ ht, hset⟩

theorem Moment.Dated.put {f : Session → Session} (h : m.Dated)
    (hf : (f m.session).active_deadlines ⊆ m.session.active_deadlines) : (m.put f).Dated :=
  fun d hd => h d (hf hd)

/-- What leaves the deadlines alone. -/
theorem Moment.Dated.keep {P : Action → Prop} (h : m.Dated) (hadds : Adds P m m')
    (hs : m'.session.active_deadlines = m.session.active_deadlines) : m'.Dated := by
  obtain ⟨new, hnew, -⟩ := hadds
  intro d hd
  rw [hs] at hd
  obtain ⟨t, duration_ms, ht, hset⟩ := h d hd
  refine ⟨t, duration_ms, ?_, hset⟩
  rw [hnew]
  exact mem_set_times_append ht

/-- One deadline is set, at the time that is recorded. -/
theorem Moment.Dated.set {f : Session → Session} {a : Action} (h : m.Dated)
    (ha : t ∈ set_times (a :: m.history)) (hn : t.Normal)
    (hf : ∀ d ∈ (f m.session).active_deadlines, d ∈ m.session.active_deadlines ∨
      ∃ duration_ms, d = set_deadline t duration_ms) : ((m.put f).log a).Dated := by
  intro d hd
  rcases hf d hd with hd | ⟨duration_ms, hset⟩
  · exact h.log a d hd
  · exact ⟨t, duration_ms, ha, hn, hset⟩

theorem Moment.Dated.schedule (h : m.Dated) (hn : ∀ now ∈ clock, now.Normal) :
    (m.schedule clock).Dated := by
  unfold Moment.schedule
  cases clock with
  | none =>
    refine h.put ?_
    apply active_deadlines_subset <;> simp
  | some now =>
    refine h.set List.mem_cons_self (hn now rfl) fun d hd => ?_
    rcases mem_active_deadlines.mp hd with hd | hd | ⟨-, hd⟩
    · exact .inl (mem_active_deadlines.mpr (.inl hd))
    · exact .inl (mem_active_deadlines.mpr (.inr (.inl hd)))
    · exact .inr ⟨_, hd⟩

theorem Moment.Dated.update (h : m.Dated) (hn : ∀ now ∈ clock, now.Normal) :
    (m.update clock).Dated := by
  refine Moment.Dated.log ?_ _
  split_ifs
  · refine Moment.Dated.schedule (h.put ?_) hn
    apply active_deadlines_subset <;> simp
  · exact h
  · exact h.put (List.Subset.refl _)

theorem Moment.Dated.change {changes : Changes} {ok : Bool} (h : m.Dated)
    (hn : ∀ now ∈ clock, now.Normal) : (m.change changes ok clock).Dated := by
  refine Moment.Dated.update (h.keep (m.apply_adds changes ok) ?_) hn
  rw [m.apply_session changes ok]
  rfl

theorem Moment.Dated.cancel (h : m.Dated) (p : Bool) : (m.cancel p).Dated := by
  refine Moment.Dated.log (h.put ?_) _
  cases p <;> apply active_deadlines_subset <;> simp

theorem Moment.Dated.expire {due : Bool} {mode : Mode} (h : m.Dated) :
    (m.expire due mode).Dated := by
  unfold Moment.expire
  split
  · refine Moment.Dated.log (h.put ?_) _
    cases mode <;> apply active_deadlines_subset <;> simp
  · exact h

theorem Moment.Dated.tick (h : m.Dated) (now : Timespec) : (m.tick now).Dated :=
  (h.log (.ticked now)).expire.expire

theorem Moment.Dated.throttle (h : m.Dated) (hn : now.Normal) : (m.throttle now).Dated := by
  by_cases hzero : m.session.detection_throttle_ms = 0
  · rw [Moment.throttle_zero hzero]
    refine (h.log _).put ?_
    apply active_deadlines_subset <;> simp
  · rw [Moment.throttle_set hzero]
    refine (h.log _).set List.mem_cons_self hn fun d hd => ?_
    rcases mem_active_deadlines.mp hd with hd | ⟨-, hd⟩ | hd
    · exact .inl (mem_active_deadlines.mpr (.inl hd))
    · exact .inr ⟨_, hd⟩
    · exact .inl (mem_active_deadlines.mpr (.inr (.inr hd)))

theorem Moment.Dated.hold (h : m.Dated) (hn : now.Normal) : (m.hold now).Dated := by
  by_cases hzero : m.session.activity_timeout_ms = 0
  · rw [Moment.hold_zero hzero]
    refine (h.log _).put ?_
    apply active_deadlines_subset <;> simp
  · rw [Moment.hold_set hzero]
    refine (h.log _).set List.mem_cons_self hn fun d hd => ?_
    rcases mem_active_deadlines.mp hd with ⟨-, hd⟩ | hd | hd
    · exact .inr ⟨_, hd⟩
    · exact .inl (mem_active_deadlines.mpr (.inr (.inl hd)))
    · exact .inl (mem_active_deadlines.mpr (.inr (.inr hd)))

end dated

section turns

variable {answers : Nat → Answer} {config : SessionConfig} {m m' : Moment}

theorem Moment.Dated.aside {P : Action → Prop} (h : m.Dated) (hm : Beside P m m') : m'.Dated :=
  h.keep hm.adds (hm.field Session.active_deadlines fun _ => rfl)

theorem dated_call (hn : NormalClock answers) (h : m.Dated) (hcall : Call answers m m') :
    m'.Dated := by
  cases hcall with
  | outside ho => exact h.aside ho
  | updated k => exact h.update (hn k)
  | available b j k => exact h.change (hn k)
  | @committed p j k hp => exact (h.cancel p).change (hn k)
  | idle i now => exact h.log _
  | expired i now j k => exact (h.tick now).change (hn k)
  | underivable =>
    refine Moment.Dated.log (h.put ?_) _
    apply active_deadlines_subset <;> simp
  | refused | recreated =>
    refine Moment.Dated.log ((h.log _).put ?_) _
    apply active_deadlines_subset <;> simp
  | not_recreated i now k =>
    have hlost : Moment.Dated ((m.log (.recreating m.session now)).put fun s =>
        { s with runtime_control := none }) := (h.log _).put (List.Subset.refl _)
    exact (hlost.schedule (hn k)).log _
  | finished | dropped => exact h.put (List.Subset.refl _)

theorem dated_physical (hn : NormalClock answers) (h : m.Dated) (hp : Physical answers m m') :
    m'.Dated := by
  cases hp with
  | lost k | unsampled i k => exact h.update (hn k)
  | suppressed i l => exact (h.update (hn l)).log _
  | throttled i l now j k hi => exact ((h.update (hn l)).throttle (hn i now hi)).change (hn k)
  | held i l now j k hi => exact ((h.update (hn l)).hold (hn i now hi)).change (hn k)

theorem dated_turn (hn : NormalClock answers) (h : m.Dated) (ht : Turn answers m m') :
    m'.Dated := by
  cases ht with
  | call hc => exact dated_call hn h hc
  | looped => exact h.log _
  | dispatched => exact Moment.Dated.log (h.put (List.Subset.refl _)) _
  | read hr => exact h.aside hr.aside
  | eligible hr _ _ hp => exact dated_physical hn (h.aside hr.aside) hp

theorem dated_start (hn : NormalClock answers) (h : Started answers config m) : m.Dated := by
  have hnew : Moment.Dated ⟨new_session config, []⟩ := fun d hd => (nomatch hd)
  cases h with
  | created => exact hnew.put (List.Subset.refl _)
  | refused => exact hnew
  | failed k => exact hnew.schedule (hn k)

end turns

/-! ## The samples of a call -/

/-- A time that the clock gives from the question of `w` to that of `w'`. -/
def Between (w w' : World) (t : Timespec) : Prop :=
  ∃ k, w.asked ≤ k ∧ k < w'.asked ∧ t ∈ (w.answers k).clock

/-- The later world has the same answers, and the deadlines were set at times that the history
had, or that the clock gave since then. -/
structure World.clocked (w w' : World) : Prop where
  answers : w'.answers = w.answers
  asked : w.asked ≤ w'.asked
  times : ∀ t ∈ set_times w'.history, t ∈ set_times w.history ∨ Between w w' t

/-- The program comes to an end, and sets deadlines only at its own reads of the clock. -/
def Clocked {α : Type} (f : M α) : Prop :=
  ∀ w, wp (fun _ => False) f (fun _ w' => w.clocked w') w

section clocked

variable {α β : Type} {w w1 w' : World}

theorem World.clocked.refl (w : World) : w.clocked w := ⟨rfl, le_rfl, fun _ ht => .inl ht⟩

theorem World.clocked.trans (h : w.clocked w1) (h' : w1.clocked w') : w.clocked w' := by
  refine ⟨h'.answers.trans h.answers, h.asked.trans h'.asked, fun t ht => ?_⟩
  rcases h'.times t ht with ht | ⟨k, hfrom, hto, hk⟩
  · rcases h.times t ht with ht | ⟨k, hfrom, hto, hk⟩
    · exact .inl ht
    · exact .inr ⟨k, hfrom, hto.trans_le h'.asked, hk⟩
  · exact .inr ⟨k, h.asked.trans hfrom, hto, h.answers ▸ hk⟩

theorem Clocked.pure (a : α) : Clocked (Pure.pure a) := World.clocked.refl

theorem Clocked.bind {f : M α} {g : α → M β} (hf : Clocked f) (hg : ∀ a, Clocked (g a)) :
    Clocked (f >>= g) := by
  intro w
  refine wp_bind.mpr (wp_mono (hf w) (fun _ h => h) fun a w1 h1 => ?_)
  exact wp_mono (hg a w1) (fun _ h => h) fun _ _ h => h1.trans h

theorem session_clocked : Clocked session := World.clocked.refl

theorem modify_clocked (f : Session → Session) : Clocked (modify_session f) := fun _ =>
  ⟨rfl, le_rfl, fun _ ht => .inl ht⟩

theorem ask_clocked : Clocked ask := fun w => ⟨rfl, w.asked.le_succ, fun _ ht => .inl ht⟩

theorem monotonic_now_clocked : Clocked monotonic_now := ask_clocked.bind fun _ => .pure _

/-- An entry that sets no deadline. -/
theorem record_clocked {a : Action} (h : ∀ past, set_times (a :: past) = set_times past) :
    Clocked (record a) := fun w => ⟨rfl, le_rfl, fun _ ht => .inl (h w.history ▸ ht)⟩

theorem emit_properties_changed.clocked (control : RuntimeControl) (properties : List Property) :
    Clocked (emit_properties_changed control properties) := by
  have hemitted : ∀ ok, Clocked (record_emitted properties ok) := fun ok =>
    session_clocked.bind fun _ => record_clocked fun _ => rfl
  unfold emit_properties_changed
  refine ask_clocked.bind fun a => (hemitted _).bind fun _ => ?_
  split_ifs
  · exact modify_clocked _
  · exact modify_clocked _
  · exact .pure ()

theorem runtime_control_apply_changes.clocked (control : Bool) (changes : Changes) :
    Clocked (runtime_control_apply_changes control changes) := by
  unfold runtime_control_apply_changes
  refine session_clocked.bind fun s => (modify_clocked _).bind fun _ => ?_
  split
  · exact .pure ()
  · split
    · exact .pure ()
    · exact emit_properties_changed.clocked _ _

/-- The retry is set at the read of the clock that this call makes. -/
theorem schedule_runtime_control_retry.clocked : Clocked schedule_runtime_control_retry := by
  intro w
  unfold schedule_runtime_control_retry
  simp only [wp_bind, wp_monotonic_now]
  cases hclock : (w.answers w.asked).clock with
  | none => exact ⟨rfl, w.asked.le_succ, fun _ ht => .inl ht⟩
  | some now =>
    refine ⟨rfl, w.asked.le_succ, fun t ht => ?_⟩
    rcases List.mem_cons.mp ht with rfl | ht
    · exact .inr ⟨w.asked, le_rfl, w.asked.lt_succ_self, hclock⟩
    · exact .inl ht

theorem update_control_availability.clocked : Clocked update_control_availability := by
  have hobserve : Clocked (observe .step) := session_clocked.bind fun _ =>
    record_clocked fun _ => rfl
  unfold update_control_availability discard_activity_tracking
  refine session_clocked.bind fun s => ?_
  split
  · split
    · refine Clocked.bind ?_ fun _ => schedule_runtime_control_retry.clocked.bind fun _ => hobserve
      exact (modify_clocked _).bind fun _ => runtime_control_apply_changes.clocked _ _
    · exact hobserve
  · split
    · exact (modify_clocked _).bind fun _ => hobserve
    · exact hobserve

theorem expire_activity_timers.clocked (now : Timespec) :
    Clocked (expire_activity_timers now) := by
  have hexpired : ∀ mode, Clocked (record (.timer_expired mode)) := fun mode =>
    record_clocked fun _ => rfl
  have hend : ∀ (expired : Bool) changes, Clocked (if expired then do
      runtime_control_apply_changes true changes
      update_control_availability else Pure.pure ()) := by
    intro expired changes
    split
    · exact (runtime_control_apply_changes.clocked _ _).bind fun _ =>
        update_control_availability.clocked
    · exact .pure ()
  unfold expire_activity_timers
  refine session_clocked.bind fun s => ?_
  dsimp only
  split
  · refine (modify_clocked _).bind fun _ => (hexpired .running).bind fun _ => ?_
    split
    · exact (modify_clocked _).bind fun _ => (hexpired .paused).bind fun _ => hend _ _
    · exact hend _ _
  · split
    · exact (modify_clocked _).bind fun _ => (hexpired .paused).bind fun _ => hend _ _
    · exact hend _ _

theorem session_process_activity_timers.clocked : Clocked session_process_activity_timers := by
  unfold session_process_activity_timers
  refine update_control_availability.clocked.bind fun _ => session_clocked.bind fun s => ?_
  split
  · exact .pure ()
  · refine monotonic_now_clocked.bind fun now => ?_
    split
    · exact .pure ()
    · exact (record_clocked fun _ => rfl).bind fun _ => expire_activity_timers.clocked _

end clocked

/-! ## One wait -/

section wait

variable {w : World} {deadline now : Timespec} {maximum_usec : Nat}

theorem deadline_wait_timeout_usec.left (hnow : (w.answers w.asked).clock = some now)
    (hd : deadline.Normal) (hn : now.Normal) (hnear : deadline.ns < now.ns + UINT64_VALUES) :
    wp (fun _ => False) (deadline_wait_timeout_usec (some deadline) maximum_usec)
      (fun timeout_usec w' => timeout_usec = min (deadline.usec_left now) maximum_usec ∧
        w' = { w with asked := w.asked + 1 }) w := by
  have hexpired := deadline_expired_iff_ns hd hn
  unfold deadline_wait_timeout_usec
  simp only [wp_bind, wp_monotonic_now, hnow]
  split
  · rename_i he
    have hleft : deadline.usec_left now = 0 := usec_left_eq_zero.mpr (hexpired.mp he)
    simp [hleft]
  · rename_i he
    have hlt : now.ns < deadline.ns := by
      rw [← not_le, ← hexpired]
      exact he
    have hmin : (if remaining_usec deadline now < maximum_usec then remaining_usec deadline now
        else maximum_usec) = min (deadline.usec_left now) maximum_usec := by
      rw [remaining_usec_eq hd hn hlt hnear]
      split
      · rename_i h
        exact (min_eq_left h.le).symm
      · rename_i h
        exact (min_eq_right (not_lt.mp h)).symm
    exact ⟨hmin, rfl⟩

/-- At most one deadline is active: a timer runs only in its own pause state, and with a retry
nothing is tracked. -/
theorem TimerInvariant.one_deadline {config : SessionConfig} {m : Moment}
    (h : TimerInvariant config m) : m.session.active_deadlines.length ≤ 1 := by
  have hboth : m.session.running_activity_timer_active = false ∨
      m.session.paused_activity_timer_active = false := by
    cases hp : m.session.runtime_state.paused with
    | true => exact .inl (h.other .running (by rw [hp]; decide))
    | false => exact .inr (h.other .paused (by rw [hp]; decide))
  have hretry : m.session.runtime_control_retry_active = true →
      m.session.running_activity_timer_active = false ∧
        m.session.paused_activity_timer_active = false := by
    intro hr
    have htimers := (h.untracked (h.retry hr)).timers
    exact ⟨htimers .running, htimers .paused⟩
  unfold Session.active_deadlines
  cases hr : m.session.runtime_control_retry_active with
  | true =>
    obtain ⟨hrunning, hpaused⟩ := hretry hr
    simp [hrunning, hpaused]
  | false =>
    rcases hboth with hrunning | hpaused
    · cases hp : m.session.paused_activity_timer_active <;> simp [hrunning]
    · cases hrunning : m.session.running_activity_timer_active <;> simp [hpaused]

/-- The deadline can be waited for: at every time the clock has still to give it lies within
what the computation can hold. -/
structure World.Near (w : World) (deadline : Timespec) : Prop where
  normal : deadline.Normal
  near : ∀ k, w.asked ≤ k → ∀ now ∈ (w.answers k).clock, deadline.ns < now.ns + UINT64_VALUES

/-- What a wait for these deadlines takes: all of the maximum without a deadline, and otherwise
no more than is left of it at the read of the clock. -/
def TimeoutOf (w : World) (maximum_usec timeout_usec : Nat) (w' : World) : Prop :=
  (w.session.active_deadlines = [] ∧ timeout_usec = maximum_usec ∧ w' = w) ∨
    ∃ deadline now, w.session.active_deadlines = [deadline] ∧
      (w.answers w.asked).clock = some now ∧
      timeout_usec = min (deadline.usec_left now) maximum_usec ∧
      w' = { w with asked := w.asked + 1 }

/-- The part of `runtime_wait_timeout_usec` after the timers. -/
theorem timeout_of (hone : w.session.active_deadlines.length ≤ 1)
    (hnear : ∀ d ∈ w.session.active_deadlines, w.Near d)
    (hread : (w.answers w.asked).clock.isSome)
    (hnormal : ∀ now ∈ (w.answers w.asked).clock, now.Normal) :
    wp (fun _ => False)
      (do
        let s ← session
        let deadline :=
          if s.running_activity_timer_active then some s.running_activity_deadline
          else if s.paused_activity_timer_active then some s.paused_activity_deadline
          else none
        let timeout_usec ← deadline_wait_timeout_usec deadline maximum_usec
        if s.runtime_control_retry_active then
          deadline_wait_timeout_usec (some s.runtime_control_retry_deadline) timeout_usec
        else return timeout_usec)
      (TimeoutOf w maximum_usec) w := by
  obtain ⟨now, hnow⟩ := Option.isSome_iff_exists.mp hread
  have hspec : ∀ deadline, w.session.active_deadlines = [deadline] →
      wp (fun _ => False) (deadline_wait_timeout_usec (some deadline) maximum_usec)
        (TimeoutOf w maximum_usec) w := by
    intro deadline hd
    have hn := hnear deadline (by rw [hd]; simp)
    refine wp_mono (deadline_wait_timeout_usec.left hnow hn.normal (hnormal now hnow)
      (hn.near _ le_rfl now hnow)) (fun _ h => h) fun timeout_usec w' h => ?_
    exact .inr ⟨deadline, now, hd, hnow, h.1, h.2⟩
  have hactive := Session.active_deadlines.eq_1 w.session
  rw [hactive] at hone
  simp only [wp_bind, wp_session]
  cases hrunning : w.session.running_activity_timer_active with
  | true =>
    obtain ⟨hpaused, hretry⟩ : w.session.paused_activity_timer_active = false ∧
        w.session.runtime_control_retry_active = false := by
      rw [hrunning] at hone
      cases hp : w.session.paused_activity_timer_active <;>
        cases hr : w.session.runtime_control_retry_active <;> simp [hp, hr] at hone ⊢
    rw [hrunning, hpaused, hretry] at hactive
    simp only [if_true, hretry, Bool.false_eq_true, if_false, wp_pure]
    exact hspec _ hactive
  | false =>
    cases hpaused : w.session.paused_activity_timer_active with
    | true =>
      have hretry : w.session.runtime_control_retry_active = false := by
        rw [hrunning, hpaused] at hone
        cases hr : w.session.runtime_control_retry_active <;> simp [hr] at hone ⊢
      rw [hrunning, hpaused, hretry] at hactive
      simp only [if_true, hretry, Bool.false_eq_true, if_false, wp_pure]
      exact hspec _ hactive
    | false =>
      -- without an activity timer the maximum itself is what the retry may shorten
      simp only [Bool.false_eq_true, if_false, deadline_wait_timeout_usec, wp_pure]
      cases hretry : w.session.runtime_control_retry_active with
      | true =>
        rw [hrunning, hpaused, hretry] at hactive
        exact hspec _ hactive
      | false =>
        rw [hrunning, hpaused, hretry] at hactive
        exact .inl ⟨hactive, rfl, rfl⟩

end wait

/-! ## Every wait -/

/-- A path of turns leads to this world. -/
def InRun (config : SessionConfig) (w : World) : Prop :=
  ∃ m, Started w.answers config m ∧ Turns w.answers m w.moment

/-- The samples of the clock are normal. None of those that are still to come fails, they do not
decrease, and they are not before the times at which deadlines were set. -/
structure SteadyClock (w : World) : Prop where
  normal : NormalClock w.answers
  readable : ∀ k, w.asked ≤ k → (w.answers k).clock.isSome
  ordered : ∀ k l, w.asked ≤ k → k ≤ l → ∀ t ∈ (w.answers k).clock,
    ∀ now ∈ (w.answers l).clock, t.ns ≤ now.ns
  past : ∀ t ∈ set_times w.history, ∀ k, w.asked ≤ k → ∀ now ∈ (w.answers k).clock, t.ns ≤ now.ns

/-- The clock as the last question gave it. -/
def World.last_sample (w : World) : Option Timespec := (w.answers (w.asked - 1)).clock

/-- The wait, from the sample `now` on, is neither late for one of these deadlines nor busy. -/
structure Timely (maximum_usec timeout_usec : Nat) (deadlines : List Timespec) (now : Timespec) :
    Prop where
  bounded : timeout_usec ≤ maximum_usec
  early : ∀ d ∈ deadlines, timeout_usec ≤ d.usec_left now
  idle : timeout_usec = 0 → maximum_usec = 0 ∨ ∃ d ∈ deadlines, deadline_expired d now = true
  woken : timeout_usec < maximum_usec → ∃ d ∈ deadlines, timeout_usec = d.usec_left now ∧
    ∀ later : Timespec, later.Normal → now.ns + timeout_usec * 1000 ≤ later.ns →
      deadline_expired d later = true

section every_wait

variable {config : SessionConfig} {w w1 : World}

/-- Every run is in it, also where it is cut short. -/
theorem run_in_run (config : SessionConfig) (answers : Nat → Answer) (fuel n : Nat) :
    InRun config ⟨(run_moment config answers fuel).session, run_history config answers fuel,
      answers, n⟩ :=
  run_turns config answers fuel

theorem InRun.dated (h : InRun config w) (hn : NormalClock w.answers) : w.moment.Dated := by
  obtain ⟨m, hm, hturns⟩ := h
  exact invariant_of_step Moment.Dated (fun _ _ => dated_turn hn) (dated_start hn hm) hturns

theorem InRun.timers (h : InRun config w) (hn : NormalClock w.answers)
    (hfit : config.durations_fit) : TimerInvariant config w.moment := by
  obtain ⟨m, hm, hturns⟩ := h
  exact invariant_of_step (TimerInvariant config) (fun _ _ h ht => timer_turn hn hfit h ht)
    (timer_start hm) hturns

theorem InRun.calls (h : InRun config w) (hcalls : w.calls w1) : InRun config w1 := by
  obtain ⟨m, hm, hturns⟩ := h
  unfold InRun
  rw [hcalls.1]
  exact ⟨m, hm, hturns.trans (World.calls_path hcalls)⟩

/-- The clock goes on after a call. -/
theorem SteadyClock.after (h : SteadyClock w) (h1 : w.clocked w1) : SteadyClock w1 := by
  have hle := h1.asked
  refine ⟨?_, ?_, ?_, fun t ht l hl now hnow => ?_⟩
  · rw [h1.answers]
    exact h.normal
  · rw [h1.answers]
    exact fun k hk => h.readable k (hle.trans hk)
  · rw [h1.answers]
    exact fun k l hk => h.ordered k l (hle.trans hk)
  · rw [h1.answers] at hnow
    rcases h1.times t ht with ht | ⟨k, hfrom, hto, hk⟩
    · exact h.past t ht l (hle.trans hl) now hnow
    · exact h.ordered k l hfrom (hto.le.trans hl) t hk now hnow

/-- Every active deadline can be waited for. -/
theorem SteadyClock.near (h : SteadyClock w) (hdated : w.moment.Dated) :
    ∀ d ∈ w.session.active_deadlines, w.Near d := by
  intro d hd
  obtain ⟨t, duration_ms, ht, hn, rfl⟩ := hdated d hd
  obtain ⟨hnormal, hns⟩ := set_deadline_ns duration_ms hn
  refine ⟨hnormal, fun k hk now hnow => ?_⟩
  have hle := h.past t ht k hk now hnow
  have hlt : duration_ms * NANOSECONDS_PER_MILLISECOND % UINT64_VALUES < UINT64_VALUES :=
    Nat.mod_lt _ (by decide)
  rw [hns]
  omega

/-- The least of the maximum and what is left of a deadline is timely for it. -/
theorem timely_min {deadline now : Timespec} {maximum_usec : Nat} (hd : deadline.Normal)
    (hn : now.Normal) :
    Timely maximum_usec (min (deadline.usec_left now) maximum_usec) [deadline] now := by
  constructor
  · exact min_le_right _ _
  · intro d hmem
    obtain rfl := List.mem_singleton.mp hmem
    exact min_le_left _ _
  · intro hzero
    rcases Nat.min_eq_zero_iff.mp hzero with hleft | hmaximum
    · refine .inr ⟨deadline, List.mem_singleton_self _, ?_⟩
      exact (deadline_expired_iff_ns hd hn).mpr (usec_left_eq_zero.mp hleft)
    · exact .inl hmaximum
  · intro hlt
    have hmin : min (deadline.usec_left now) maximum_usec = deadline.usec_left now := by
      omega
    rw [hmin]
    refine ⟨deadline, List.mem_singleton_self _, rfl, fun later hlater hslept => ?_⟩
    exact expired_after_usec_left hd hlater hslept

end every_wait

/-- In every state of a run, with samples of the clock that do not decrease: a wait is as long as
the maximum where no deadline is active, and otherwise it begins at a sample from which it is
neither late nor busy. -/
theorem waits_are_neither_late_nor_busy {config : SessionConfig} {w : World} (maximum_usec : Nat)
    (hfit : config.durations_fit) (hrun : InRun config w) (hclock : SteadyClock w) :
    ∃ timeout_usec w', runtime_wait_timeout_usec maximum_usec w = (some timeout_usec, w') ∧
      ((w'.session.active_deadlines = [] ∧ timeout_usec = maximum_usec) ∨
        w.asked < w'.asked ∧ ∃ now ∈ w'.last_sample,
          Timely maximum_usec timeout_usec w'.session.active_deadlines now) := by
  -- the timers are processed first
  obtain ⟨_, w1, hrun1, h1⟩ := exists_of_wp (session_process_activity_timers.clocked w)
  have hcalls : w.calls w1 := by
    have h := session_process_activity_timers.runs w
    unfold wp at h
    rw [hrun1] at h
    exact h
  have hin : InRun config w1 := hrun.calls hcalls
  have hclock1 := hclock.after h1
  have hone := (hin.timers hclock1.normal hfit).one_deadline
  have hnear := hclock1.near (hin.dated hclock1.normal)
  -- then their deadlines are waited for
  have hwait : wp (fun _ => False) (runtime_wait_timeout_usec maximum_usec)
      (TimeoutOf w1 maximum_usec) w := by
    unfold runtime_wait_timeout_usec
    refine wp_bind.mpr ?_
    unfold wp
    rw [hrun1]
    exact timeout_of hone hnear (hclock1.readable _ le_rfl) (hclock1.normal _)
  obtain ⟨timeout_usec, w', hrun', htimeout⟩ := exists_of_wp hwait
  refine ⟨timeout_usec, w', hrun', ?_⟩
  rcases htimeout with ⟨hnone, rfl, rfl⟩ | ⟨deadline, now, hactive, hnow, rfl, rfl⟩
  · exact .inl ⟨hnone, rfl⟩
  have hd : deadline.Normal := (hnear deadline (by rw [hactive]; simp)).normal
  have hn : now.Normal := hclock1.normal _ now hnow
  refine .inr ⟨Nat.lt_succ_of_le h1.asked, now, hnow, ?_⟩
  rw [hactive]
  exact timely_min hd hn

-- Only the kernel runs the session on this script.
attribute [local irreducible] run_moment run_history runtime_wait_timeout_usec

/-- The bus is not there, and the retry is due nine hundred nanoseconds after the wait begins. -/
def retry_soon : Nat → Answer
  | 0 => { bus_errno := some .ENOENT }
  | 1 => { clock := some ⟨0, 500⟩ }
  | _ => { clock := some ⟨4, 999999600⟩ }

/-- Where the run has come to that could not start its control object. -/
def after_failed_start : World :=
  ⟨(run_moment ⟨"keyboard", 0, 0, true, true, false⟩ retry_soon 0).session,
    run_history ⟨"keyboard", 0, 0, true, true, false⟩ retry_soon 0, retry_soon, 2⟩

/-- The wait for it ends in the next microsecond, and is not left out. -/
theorem the_retry_is_waited_for_to_the_microsecond :
    ∃ w' now, runtime_wait_timeout_usec 10000 after_failed_start = (some 1, w') ∧
      Timely 10000 1 w'.session.active_deadlines now := by
  have hin : InRun ⟨"keyboard", 0, 0, true, true, false⟩ after_failed_start :=
    run_in_run _ retry_soon 0 2
  have hsamples : ∀ k, ∃ now, (retry_soon k).clock = some now ∧ now.Normal := by
    rintro (_ | _ | k) <;> exact ⟨_, rfl, by decide⟩
  have hlater : ∀ k, 2 ≤ k → (retry_soon k).clock = some ⟨4, 999999600⟩ := by
    rintro (_ | _ | k) hk
    · omega
    · omega
    · rfl
  have hclock : SteadyClock after_failed_start := by
    refine ⟨fun k now hnow => ?_, fun k hk => ?_, fun k l hk hl t ht now hnow => ?_,
      fun t ht k hk now hnow => ?_⟩
    · obtain ⟨sample, hsample, hnormal⟩ := hsamples k
      exact Option.some.inj (hsample.symm.trans hnow) ▸ hnormal
    · exact Option.isSome_iff_exists.mpr ⟨_, hlater k hk⟩
    · have heq := Option.some.inj ((hlater k hk).symm.trans ht)
      have heq' := Option.some.inj ((hlater l (hk.trans hl)).symm.trans hnow)
      rw [← heq, ← heq']
    · have hset : set_times after_failed_start.history = [⟨0, 500⟩] := by decide +kernel
      rw [hset, List.mem_singleton] at ht
      rw [ht, ← Option.some.inj ((hlater k hk).symm.trans hnow)]
      decide
  have hone : (runtime_wait_timeout_usec 10000 after_failed_start).1 = some 1 := by
    decide +kernel
  obtain ⟨timeout_usec, w', hrun, h⟩ := waits_are_neither_late_nor_busy 10000
    ⟨by decide, by decide⟩ hin hclock
  rw [hrun] at hone
  obtain rfl : timeout_usec = 1 := Option.some.inj hone
  rcases h with ⟨-, hmaximum⟩ | ⟨-, now, -, htimely⟩
  · cases hmaximum
  · exact ⟨w', now, hrun, htimely⟩

end input_proxy
