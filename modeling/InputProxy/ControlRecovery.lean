-- The recovery of the control object. It is scheduled whenever there is no
-- object, unless the identifier was refused, and an attempt is never made
-- while there is one, nor sooner than the retry time after the loss or the
-- attempt before.
import InputProxy.ControlRuns
import InputProxy.MonotonicTimes

open programs Program

namespace input_proxy

/-! ## The law -/

/-- With a control object the activity is tracked and no retry is scheduled. Without one
nothing is tracked or indicated, and a retry is scheduled, unless the identifier was
refused. -/
structure Settled (answers : Nat → Answer) (s : Session) : Prop where
  live : s.runtime_control.isSome →
    s.activity_tracking_available = true ∧ s.runtime_control_retry_active = false
  gone : s.runtime_control = none →
    s.activity_tracking_available = false ∧
    s.running_activity_timer_active = false ∧ s.paused_activity_timer_active = false ∧
    s.runtime_state.activity_while_running = false ∧
    s.runtime_state.activity_while_paused = false ∧
    (s.runtime_control_retry_active = true ∨ ∃ k, RefusedBy (answers k) s.instance_name)

/-- The time at which a retry was scheduled, if no attempt was made since then and no
control object was seen. -/
def scheduled : List Action → Option Timespec
  | [] => none
  | .retry_scheduled now :: _ => some now
  | .recreating _ _ :: _ => none
  | .observed _ s :: past => if s.runtime_control.isSome then none else scheduled past
  | _ :: past => scheduled past

/-- What the entries of a history say about the control object. -/
def RecoveryEntry (answers : Nat → Answer) (a : Action) (past : List Action) : Prop :=
  match a with
  | .observed .step s => Settled answers s
  | .recreating s now => s.runtime_control = none ∧
      ∃ time ∈ scheduled past, time.ns + milliseconds RUNTIME_CONTROL_RETRY_MS ≤ now.ns
  | _ => True

/-- The values of `Paused` and `SourceAvailable` are the same. -/
def SameValues (w w' : World) : Prop :=
  w'.session.runtime_state.paused = w.session.runtime_state.paused ∧
    w'.session.runtime_state.source_available = w.session.runtime_state.source_available

instance : IsPreorder World SameValues where
  refl _ := ⟨rfl, rfl⟩
  trans _ _ _ h h' := ⟨h'.1.trans h.1, h'.2.trans h.2⟩

/-- The program leaves these two values alone. -/
abbrev KeepsValues {α : Type} (f : M α) : Prop := Follows SameValues SameValues f

/-- The program leaves no control object behind, and no retry. -/
def LeavesUnscheduled (f : M Unit) (w : World) : Prop :=
  (f w).2.session.runtime_control = none ∧
    (f w).2.session.runtime_control_retry_active = false

/-! ## The invariant -/

structure RecoveryInvariant (answers : Nat → Answer) (m : Moment) : Prop where
  live : m.session.runtime_control.isSome → m.session.activity_tracking_available = true
  tracked : m.session.activity_tracking_available = true →
    m.session.runtime_control_retry_active = false
  untracked : m.session.activity_tracking_available = false →
    m.session.running_activity_timer_active = false ∧
    m.session.paused_activity_timer_active = false ∧
    m.session.runtime_state.activity_while_running = false ∧
    m.session.runtime_state.activity_while_paused = false ∧
    (m.session.runtime_control_retry_active = true ∨
      ∃ k, RefusedBy (answers k) m.session.instance_name)
  pending : m.session.runtime_control_retry_active = true →
    ∃ time ∈ scheduled m.history, time.Normal ∧
      m.session.runtime_control_retry_deadline = set_deadline time RUNTIME_CONTROL_RETRY_MS
  lawful : Always (RecoveryEntry answers) m.history

section invariant

variable {answers : Nat → Answer} {m m' : Moment}

/-- A scheduled retry has no control object beside it. -/
theorem RecoveryInvariant.gone (h : RecoveryInvariant answers m)
    (hr : m.session.runtime_control_retry_active = true) :
    m.session.activity_tracking_available = false ∧ m.session.runtime_control = none := by
  have ht : m.session.activity_tracking_available = false := by
    by_contra ht
    rw [h.tracked (by simpa using ht)] at hr
    cases hr
  refine ⟨ht, ?_⟩
  by_contra hc
  rw [h.live (Option.isSome_iff_ne_none.mpr hc)] at ht
  cases ht

/-- An entry that is no schedule and no attempt, and saw no control object. -/
def Action.unscheduled : Action → Prop
  | .retry_scheduled _ | .recreating _ _ => False
  | .observed _ s => s.runtime_control = none
  | _ => True

theorem scheduled_append {new past : List Action} (h : ∀ a ∈ new, a.unscheduled) :
    scheduled (new ++ past) = scheduled past := by
  induction new with
  | nil => rfl
  | cons a new ih =>
    obtain ⟨ha, hnew⟩ := List.forall_mem_cons.mp h
    rw [List.cons_append, ← ih hnew]
    cases a with
    | retry_scheduled | recreating => exact ha.elim
    | observed point s =>
      have ha : s.runtime_control = none := ha
      simp [scheduled, ha]
    | _ => rfl

/-- An entry that no law of the recovery is about, beside a control object as it is in `s`. -/
def Action.plain (s : Session) : Action → Prop
  | .retry_scheduled _ | .recreating _ _ => False
  | .observed point s' => point ≠ .step ∧ (s.runtime_control = none → s'.runtime_control = none)
  | _ => True

theorem Action.plain.unscheduled {s : Session} {a : Action} (h : a.plain s)
    (hc : s.runtime_control = none) : a.unscheduled := by
  cases a with
  | retry_scheduled | recreating => exact h
  | observed point s' => exact h.2 hc
  | _ => trivial

theorem Action.plain.lawful {s : Session} {a : Action} (h : a.plain s) (past : List Action) :
    RecoveryEntry answers a past := by
  cases a with
  | recreating => exact h.elim
  | observed point s' =>
    cases point with
    | step => exact absurd rfl h.1
    | _ => trivial
  | _ => trivial

theorem Action.besides.plain {s : Session} {a : Action} (h : a.besides) : a.plain s := by
  rcases h with h | ⟨_, h⟩
  · cases a with
    | observed | retry_scheduled | recreating => exact h.elim
    | _ => trivial
  · cases a with
    | observed | retry_scheduled | recreating => exact h.elim
    | _ => trivial

/-- A change that makes no control object, leaves the retry alone, and indicates nothing
where nothing is tracked. -/
theorem RecoveryInvariant.keep (h : RecoveryInvariant answers m)
    (hadds : Adds (Action.plain m.session) m m')
    (hc : m'.session.runtime_control.isSome → m.session.runtime_control.isSome)
    (ht : m'.session.activity_tracking_available = m.session.activity_tracking_available)
    (hr : m'.session.runtime_control_retry_active = m.session.runtime_control_retry_active)
    (hd : m'.session.runtime_control_retry_deadline = m.session.runtime_control_retry_deadline)
    (hn : m'.session.instance_name = m.session.instance_name)
    (hu : m.session.activity_tracking_available = false →
      m'.session.running_activity_timer_active = false ∧
      m'.session.paused_activity_timer_active = false ∧
      m'.session.runtime_state.activity_while_running = false ∧
      m'.session.runtime_state.activity_while_paused = false) : RecoveryInvariant answers m' := by
  obtain ⟨new, hnew, hall⟩ := hadds
  refine ⟨fun hsome => ?_, fun htrue => ?_, fun hfalse => ?_, fun hretry => ?_, ?_⟩
  · rw [ht]
    exact h.live (hc hsome)
  · rw [hr]
    exact h.tracked (ht ▸ htrue)
  · obtain ⟨h1, h2, h3, h4⟩ := hu (ht ▸ hfalse)
    refine ⟨h1, h2, h3, h4, ?_⟩
    rw [hr, hn]
    exact (h.untracked (ht ▸ hfalse)).2.2.2.2
  · rw [hr] at hretry
    rw [hnew, hd, scheduled_append fun a ha => (hall a ha).unscheduled (h.gone hretry).2]
    exact h.pending hretry
  · exact Adds.law ⟨new, hnew, hall⟩ h.lawful fun a _ ha => ha.lawful _

/-- The step that ends an update. -/
theorem RecoveryInvariant.observe (h : RecoveryInvariant answers m)
    (hc : m.session.runtime_control = none → m.session.activity_tracking_available = false) :
    RecoveryInvariant answers (m.observe .step) := by
  refine ⟨h.live, h.tracked, h.untracked, fun hr => ?_, ⟨fun hsome => ?_, fun hnone => ?_⟩,
    h.lawful⟩
  · obtain ⟨time, htime, hpending⟩ := h.pending hr
    refine ⟨time, ?_, hpending⟩
    simpa [Moment.observe, scheduled, (h.gone hr).2] using htime
  · exact ⟨h.live hsome, h.tracked (h.live hsome)⟩
  · exact ⟨hc hnone, h.untracked (hc hnone)⟩

/-- A retry is scheduled where there is no control object and nothing is tracked. -/
theorem RecoveryInvariant.schedule {now : Timespec} (hm : Always (RecoveryEntry answers) m.history)
    (hn : now.Normal) (hc : m.session.runtime_control = none)
    (ht : m.session.activity_tracking_available = false)
    (hu : m.session.running_activity_timer_active = false ∧
      m.session.paused_activity_timer_active = false ∧
      m.session.runtime_state.activity_while_running = false ∧
      m.session.runtime_state.activity_while_paused = false) :
    RecoveryInvariant answers (m.schedule (some now)) := by
  refine ⟨fun hsome => ?_, fun htrue => ?_, fun _ => ?_, fun _ => ⟨now, rfl, hn, rfl⟩,
    trivial, hm⟩
  · simp [Moment.schedule, hc] at hsome
  · simp [Moment.schedule, ht] at htrue
  · obtain ⟨h1, h2, h3, h4⟩ := hu
    exact ⟨h1, h2, h3, h4, .inl rfl⟩

theorem RecoveryInvariant.update {now : Timespec} (h : RecoveryInvariant answers m)
    (hn : now.Normal) : RecoveryInvariant answers (m.update (some now)) := by
  cases hc : m.session.runtime_control with
  | some control =>
    have hsome : m.session.runtime_control.isSome := by simp [hc]
    have ht := h.live hsome
    rw [Moment.update_live hsome]
    refine RecoveryInvariant.observe ?_ fun hnone => ?_
    · exact h.keep Adds.refl.put (fun h => h) ht.symm rfl rfl rfl
        fun hfalse => (by rw [ht] at hfalse; cases hfalse)
    · rw [Moment.put_session, hc] at hnone
      cases hnone
  | none =>
    cases ht : m.session.activity_tracking_available with
    | true =>
      rw [Moment.update_lost (by simp [hc]) ht]
      refine (RecoveryInvariant.schedule (m := m.discard) h.lawful hn hc rfl
        ⟨rfl, rfl, rfl, rfl⟩).observe ?_
      exact fun _ => rfl
    | false =>
      rw [Moment.update_gone (by simp [hc]) ht]
      exact h.observe fun _ => ht

/-- The notification can only take the control object away. -/
theorem RecoveryInvariant.apply {changes : Changes} {ok : Bool}
    (h : RecoveryInvariant answers m)
    (hu : m.session.activity_tracking_available = false →
      changes.activity_while_running ≠ some true ∧ changes.activity_while_paused ≠ some true) :
    RecoveryInvariant answers (m.apply changes ok) := by
  have hs := m.apply_session changes ok
  refine h.keep ((m.apply_adds changes ok).mono ?_) Moment.apply_control (by rw [hs])
    (by rw [hs]) (by rw [hs]) (by rw [hs]) fun hfalse => ?_
  · rintro a ⟨state, ps, rfl⟩
    trivial
  · obtain ⟨h1, h2, h3, h4, _⟩ := h.untracked hfalse
    obtain ⟨hr, hp⟩ := hu hfalse
    rw [hs]
    refine ⟨h1, h2, ?_, ?_⟩
    · cases hc : changes.activity_while_running with
      | none => simpa [RuntimeControlState.commit, commit_boolean, hc] using h3
      | some b =>
        rw [hc] at hr
        simpa [RuntimeControlState.commit, commit_boolean, hc] using hr
    · cases hc : changes.activity_while_paused with
      | none => simpa [RuntimeControlState.commit, commit_boolean, hc] using h4
      | some b =>
        rw [hc] at hp
        simpa [RuntimeControlState.commit, commit_boolean, hc] using hp

theorem RecoveryInvariant.change {changes : Changes} {ok : Bool} {now : Timespec}
    (h : RecoveryInvariant answers m) (hn : now.Normal)
    (hu : m.session.activity_tracking_available = false →
      changes.activity_while_running ≠ some true ∧ changes.activity_while_paused ≠ some true) :
    RecoveryInvariant answers (m.change changes ok (some now)) :=
  (h.apply hu).update hn

/-- Where the activity is tracked, only the timers change. -/
theorem RecoveryInvariant.times (h : RecoveryInvariant answers m)
    (ht : m.session.activity_tracking_available = true) (htimes : Times m m') :
    RecoveryInvariant answers m' := by
  obtain ⟨⟨running, deadline, paused, deadline', hs⟩, hadds⟩ := htimes
  refine h.keep (hadds.mono fun a ha => ?_) (by rw [hs]; exact fun h => h) (by rw [hs])
    (by rw [hs]) (by rw [hs]) (by rw [hs]) fun hfalse => ?_
  · cases a <;> trivial
  · rw [ht] at hfalse
    cases hfalse

theorem RecoveryInvariant.times_change {changes : Changes} {ok : Bool} {now : Timespec}
    (h : RecoveryInvariant answers m)
    (ht : m.session.activity_tracking_available = true) (htimes : Times m m')
    (hn : now.Normal) : RecoveryInvariant answers (m'.change changes ok (some now)) := by
  refine (h.times ht htimes).change hn fun hfalse => ?_
  rw [htimes.tracking, ht] at hfalse
  cases hfalse

/-- A recreation is lawful when its deadline has passed. -/
theorem RecoveryInvariant.recreating (h : RecoveryInvariant answers m) {now : Timespec}
    (hn : now.Normal) (hr : m.session.runtime_control_retry_active = true)
    (hd : deadline_expired m.session.runtime_control_retry_deadline now = true) :
    RecoveryEntry answers (.recreating m.session now) m.history := by
  obtain ⟨time, htime, hnormal, hdeadline⟩ := h.pending hr
  rw [hdeadline, expired_iff hnormal hn (by decide)] at hd
  exact ⟨(h.gone hr).2, time, htime, hd⟩

end invariant

/-! ## Every turn -/

/-- The clock reads of a run whose clock is readable. -/
theorem Readable.clock {answers : Nat → Answer} (hr : Readable answers)
    (hn : NormalClock answers) (k : Nat) :
    ∃ now, (answers k).clock = some now ∧ now.Normal := by
  obtain ⟨now, hnow⟩ := Option.isSome_iff_exists.mp (hr k)
  exact ⟨now, hnow, hn k now hnow⟩

/-- Calls and reads beside the tracked part. -/
theorem RecoveryInvariant.aside {answers : Nat → Answer} {m m' : Moment}
    (h : RecoveryInvariant answers m) (hm : Beside Action.besides m m') :
    RecoveryInvariant answers m' := by
  have ht := hm.field Session.activity_tracking_available fun _ => rfl
  refine h.keep (hm.adds.mono fun a ha => ha.plain) ?_ ht
    (hm.field Session.runtime_control_retry_active fun _ => rfl)
    (hm.field Session.runtime_control_retry_deadline fun _ => rfl)
    (hm.field Session.instance_name fun _ => rfl) fun hfalse => ?_
  · rw [hm.field Session.runtime_control fun _ => rfl]
    exact fun h => h
  · obtain ⟨h1, h2, h3, h4, _⟩ := h.untracked hfalse
    rw [hm.field Session.running_activity_timer_active fun _ => rfl,
      hm.field Session.paused_activity_timer_active fun _ => rfl,
      hm.field Session.runtime_state fun _ => rfl]
    exact ⟨h1, h2, h3, h4⟩

theorem recovery_call {answers : Nat → Answer} (hr : Readable answers)
    (hnormal : NormalClock answers) {m m' : Moment} (h : RecoveryInvariant answers m)
    (ht : Call answers m m') : RecoveryInvariant answers m' := by
  cases ht with
  | outside ho => exact h.aside ho.aside
  | updated k =>
    obtain ⟨now, hk, hn⟩ := hr.clock hnormal k
    rw [hk]
    exact h.update hn
  | available b j k =>
    obtain ⟨now, hk, hn⟩ := hr.clock hnormal k
    rw [hk]
    exact h.change hn fun _ => ⟨by simp, by simp⟩
  | @committed p j k hp =>
    obtain ⟨now, hk, hn⟩ := hr.clock hnormal k
    rw [hk]
    have hs := m.cancel_session p
    have hcancel : RecoveryInvariant answers (m.cancel p) := by
      refine h.keep (Adds.refl.put.log trivial) (by rw [hs]; exact fun h => h) (by rw [hs])
        (by rw [hs]) (by rw [hs]) (by rw [hs]) fun hfalse => ?_
      obtain ⟨h1, h2, h3, h4, _⟩ := h.untracked hfalse
      rw [hs]
      exact ⟨by simp [h1], by simp [h2], h3, h4⟩
    refine hcancel.change hn fun _ => ?_
    cases p
    · exact ⟨by simp, by simp⟩
    · exact ⟨by simp, by simp⟩
  | idle i now hi ht hc hd => exact h.times ht (.log trivial)
  | expired i now j k hi ht hc hd =>
    obtain ⟨time, hk, hn⟩ := hr.clock hnormal k
    rw [hk]
    exact h.times_change ht (m.tick_times now) hn
  | underivable i now k hi hretry hd hk =>
    obtain ⟨ht, hc⟩ := h.gone hretry
    obtain ⟨h1, h2, h3, h4, _⟩ := h.untracked ht
    refine RecoveryInvariant.observe ⟨h.live, fun _ => rfl, fun _ => ?_, fun hretry => ?_,
      h.lawful⟩ fun _ => ht
    · exact ⟨h1, h2, h3, h4, .inr ⟨k, hk⟩⟩
    · cases hretry
  | refused i now k hi hretry hd hk =>
    obtain ⟨ht, hc⟩ := h.gone hretry
    obtain ⟨h1, h2, h3, h4, _⟩ := h.untracked ht
    refine RecoveryInvariant.observe ⟨fun hsome => ?_, fun _ => rfl, fun _ => ?_,
      fun hretry => ?_, h.recreating (hnormal i now hi) hretry hd, h.lawful⟩ fun _ => ht
    · cases hsome
    · exact ⟨h1, h2, h3, h4, .inr ⟨k, hk⟩⟩
    · cases hretry
  | not_recreated i now k hi hretry hd =>
    obtain ⟨time, hk, hn⟩ := hr.clock hnormal k
    obtain ⟨ht, hc⟩ := h.gone hretry
    obtain ⟨h1, h2, h3, h4, _⟩ := h.untracked ht
    rw [hk]
    refine RecoveryInvariant.observe (RecoveryInvariant.schedule ?_ hn rfl ht
      ⟨h1, h2, h3, h4⟩) fun _ => ht
    exact ⟨h.recreating (hnormal i now hi) hretry hd, h.lawful⟩
  | recreated i now hi hretry hd =>
    refine RecoveryInvariant.observe ⟨fun _ => rfl, fun _ => rfl, fun hfalse => ?_,
      fun hretry => ?_, h.recreating (hnormal i now hi) hretry hd, h.lawful⟩ fun hnone => ?_
    · cases hfalse
    · cases hretry
    · cases hnone
  | finished =>
    refine h.keep Adds.refl.put (fun hsome => ?_) rfl rfl rfl rfl fun hfalse => ?_
    · cases hc : m.session.runtime_control with
      | none => simp [hc] at hsome
      | some control => rfl
    · obtain ⟨h1, h2, h3, h4, _⟩ := h.untracked hfalse
      exact ⟨h1, h2, h3, h4⟩
  | dropped =>
    refine h.keep Adds.refl.put (by simp) rfl rfl rfl rfl fun hfalse => ?_
    obtain ⟨h1, h2, h3, h4, _⟩ := h.untracked hfalse
    exact ⟨h1, h2, h3, h4⟩

theorem recovery_physical {answers : Nat → Answer} (hr : Readable answers)
    (hnormal : NormalClock answers) {m m' : Moment} (h : RecoveryInvariant answers m)
    (hp : Physical answers m m') : RecoveryInvariant answers m' := by
  -- the update, with its clock read, comes first
  have hupdate : ∀ l, RecoveryInvariant answers (m.update (answers l).clock) := by
    intro l
    obtain ⟨now, hl, hn⟩ := hr.clock hnormal l
    rw [hl]
    exact h.update hn
  have htracked : ∀ l, m.session.runtime_control.isSome →
      (m.update (answers l).clock).session.activity_tracking_available = true := by
    intro l hc
    rw [Moment.update_live hc]
    rfl
  cases hp with
  | lost l | unsampled i l => exact hupdate l
  | suppressed i l now hi hc => exact (hupdate l).times (htracked l hc) (.log trivial)
  | throttled i l now j k hi hc =>
    obtain ⟨time, hk, hn⟩ := hr.clock hnormal k
    rw [hk]
    exact (hupdate l).times_change (htracked l hc) (Moment.throttle_times _ now) hn
  | held i l now j k hi hc =>
    obtain ⟨time, hk, hn⟩ := hr.clock hnormal k
    rw [hk]
    exact (hupdate l).times_change (htracked l hc) (Moment.hold_times _ now) hn

theorem recovery_turn {answers : Nat → Answer} (hr : Readable answers)
    (hnormal : NormalClock answers) {m m' : Moment} (h : RecoveryInvariant answers m)
    (ht : Turn answers m m') : RecoveryInvariant answers m' := by
  cases ht with
  | call hc => exact recovery_call hr hnormal h hc
  | looped hq =>
    refine h.keep ?_ (fun hsome => hsome) rfl rfl rfl rfl fun hfalse => ?_
    · exact Adds.refl.log ⟨by decide, fun hc => hc⟩
    · obtain ⟨h1, h2, h3, h4, _⟩ := h.untracked hfalse
      exact ⟨h1, h2, h3, h4⟩
  | dispatched hq =>
    refine h.keep ?_ (by simp [Moment.observe]) rfl rfl rfl rfl fun hfalse => ?_
    · exact Adds.refl.put.log ⟨by decide, fun hc => by simp [hc]⟩
    · obtain ⟨h1, h2, h3, h4, _⟩ := h.untracked hfalse
      exact ⟨h1, h2, h3, h4⟩
  | read hread => exact h.aside hread.aside
  | eligible hread _ _ hp => exact recovery_physical hr hnormal (h.aside hread.aside) hp

theorem recovery_start {answers : Nat → Answer} {config : SessionConfig} {m : Moment}
    (hr : Readable answers) (hnormal : NormalClock answers) (h : Started answers config m) :
    RecoveryInvariant answers m := by
  cases h with
  | created =>
    exact ⟨fun _ => rfl, fun _ => rfl, fun h => (nomatch h), fun h => (nomatch h), trivial⟩
  | refused hk =>
    exact ⟨fun h => (nomatch h), fun h => (nomatch h), fun _ => ⟨rfl, rfl, rfl, rfl, .inr ⟨0, hk⟩⟩,
      fun h => (nomatch h), trivial⟩
  | failed k =>
    obtain ⟨now, hk, hn⟩ := hr.clock hnormal k
    rw [hk]
    exact RecoveryInvariant.schedule trivial hn rfl rfl ⟨rfl, rfl, rfl, rfl⟩

/-! ## The values that a loss and a recovery keep -/

section values

theorem keeps_session : KeepsValues session := fun w => refl_of SameValues w

theorem keeps_ask : KeepsValues ask := fun w => refl_of SameValues w

theorem keeps_monotonic_now : KeepsValues monotonic_now := fun w => refl_of SameValues w

theorem keeps_record (a : Action) : KeepsValues (record a) := fun w => refl_of SameValues w

theorem keeps_observe (point : Point) : KeepsValues (observe point) := fun w =>
  refl_of SameValues w

theorem keeps_record_emitted (properties : List Property) (ok : Bool) :
    KeepsValues (record_emitted properties ok) := fun w => refl_of SameValues w

/-- A change of the session that leaves the properties alone. -/
theorem modify_keeps {α : Type} {f : Session → Session} {g : Unit → M α}
    (h : ∀ s, (f s).runtime_state = s.runtime_state) (hg : KeepsValues (g ())) :
    KeepsValues (modify_session f >>= g) := by
  have hf : KeepsValues (modify_session f) := fun w => by
    refine wp_modify_session.mpr ⟨?_, ?_⟩
    · exact congrArg RuntimeControlState.paused (h w.session)
    · exact congrArg RuntimeControlState.source_available (h w.session)
  exact hf.bind fun _ => hg

theorem emit_properties_changed.keeps (control : RuntimeControl) (properties : List Property) :
    KeepsValues (emit_properties_changed control properties) := by
  unfold emit_properties_changed
  refine keeps_ask.bind fun a => (keeps_record_emitted _ _).bind fun _ => ?_
  refine .ite (.ite ?_ ?_) (.pure _)
  · exact modify_keeps (fun _ => rfl) (.pure ())
  · exact modify_keeps (fun _ => rfl) (.pure ())

theorem discard_activity_tracking.keeps : KeepsValues discard_activity_tracking := by
  intro w
  refine (discard_activity_tracking.effect w).call fun w' _ hm => ?_
  have hs : w'.session = w.moment.discard.session := congrArg Moment.session hm
  unfold SameValues
  rw [hs]
  exact ⟨rfl, rfl⟩

theorem schedule_runtime_control_retry.keeps : KeepsValues schedule_runtime_control_retry := by
  unfold schedule_runtime_control_retry
  refine keeps_monotonic_now.bind fun now => ?_
  split
  · exact modify_keeps (fun _ => rfl) (.pure ())
  · exact modify_keeps (fun _ => rfl) (keeps_record _)

theorem update_control_availability.keeps : KeepsValues update_control_availability := by
  unfold update_control_availability
  refine keeps_session.bind fun s => .ite (.ite ?_ (keeps_observe _)) (.ite ?_ (keeps_observe _))
  · refine discard_activity_tracking.keeps.bind fun _ => ?_
    exact schedule_runtime_control_retry.keeps.bind fun _ => keeps_observe _
  · exact modify_keeps (fun _ => rfl) (keeps_observe _)

theorem create_runtime_control.keeps : KeepsValues create_runtime_control := by
  unfold create_runtime_control
  exact keeps_ask.bind fun a => keeps_session.bind fun s => .pure _

theorem recover_runtime_control.keeps (now : Timespec) :
    KeepsValues (recover_runtime_control now) := by
  unfold recover_runtime_control
  refine keeps_session.bind fun s => keeps_ask.bind fun a => ?_
  split
  · exact modify_keeps (fun _ => rfl) (.pure ())
  · refine (keeps_record _).bind fun _ => create_runtime_control.keeps.bind fun r => ?_
    split
    · refine modify_keeps (fun _ => rfl) (.ite ?_ schedule_runtime_control_retry.keeps)
      exact modify_keeps (fun _ => rfl) (.pure ())
    · exact modify_keeps (fun _ => rfl) (.pure ())

theorem process_runtime_control_recovery.keeps : KeepsValues process_runtime_control_recovery := by
  unfold process_runtime_control_recovery
  refine update_control_availability.keeps.bind fun _ => keeps_session.bind fun s => ?_
  refine .ite (.pure _) (keeps_monotonic_now.bind fun now => ?_)
  split
  · exact .pure _
  · refine .ite (.pure _) ((recover_runtime_control.keeps _).bind fun _ => keeps_observe _)

theorem start_runtime_control.keeps : KeepsValues start_runtime_control := by
  unfold start_runtime_control
  refine create_runtime_control.keeps.bind fun r => ?_
  split
  · exact modify_keeps (fun _ => rfl) (.pure ())
  · refine modify_keeps (fun _ => rfl) (.ite schedule_runtime_control_retry.keeps (.pure _))

theorem destroy_runtime_control.keeps : KeepsValues destroy_runtime_control :=
  modify_keeps (fun _ => rfl) (.pure ())

theorem finish_dispatch.keeps (processed : Processed) :
    KeepsValues (finish_dispatch processed) := by
  unfold finish_dispatch
  refine modify_keeps (fun _ => rfl) (keeps_session.bind fun s => ?_)
  refine .ite (destroy_runtime_control.keeps.bind fun _ => .pure _) ?_
  split
  · exact .pure _
  · exact .pure _
  · exact destroy_runtime_control.keeps.bind fun _ => .pure _

end values

/-! ## What a creation leaves -/

section creations

variable {w : World}

theorem wp_readable {α : Type} {I : World → Prop} {f : M α} {Q : World → Prop}
    (h : wp I f (fun _ => Q) w) (hI : ∀ w, I w → Q w) : Q (f w).2 := by
  unfold wp at h
  split at h
  · rename_i heq
    rw [heq]
    exact h
  · rename_i heq
    rw [heq]
    exact hI _ h

/-- With a readable clock a retry is scheduled. -/
theorem schedule_runtime_control_retry.schedules (hr : Readable w.answers) :
    wp (fun _ => False) schedule_runtime_control_retry
      (fun _ w' => w'.session.runtime_control_retry_active = true) w := by
  refine (schedule_runtime_control_retry.effect w).call fun w' _ h => ?_
  obtain ⟨k, hk⟩ := h
  obtain ⟨now, hnow⟩ := Option.isSome_iff_exists.mp (hr k)
  rw [hnow] at hk
  have hs : w'.session = (w.moment.schedule (some now)).session := congrArg Moment.session hk
  rw [hs]
  rfl

/-- A start that leaves no control object and no retry was refused its identifier. -/
theorem start_runtime_control.unscheduled (hr : Readable w.answers)
    (h : LeavesUnscheduled start_runtime_control w) :
    (w.answers w.asked).control w.session.instance_name = .error .INVALID_IDENTIFIER := by
  have hwp : wp (fun _ => False) start_runtime_control (fun _ w' =>
      w'.session.runtime_control = none ∧ w'.session.runtime_control_retry_active = false →
      (w.answers w.asked).control w.session.instance_name = .error .INVALID_IDENTIFIER) w := by
    unfold start_runtime_control
    refine wp_bind.mpr (create_runtime_control.effect ?_)
    split
    · rintro ⟨h, -⟩
      cases h
    · rename_i failure hfailure
      simp only [wp_bind, wp_modify_session]
      split
      · refine wp_mono (schedule_runtime_control_retry.schedules hr) (fun _ h => h) ?_
        intro _ w' hw' h
        rw [hw'] at h
        cases h.2
      · rename_i hinvalid
        obtain rfl := not_not.mp hinvalid
        exact fun _ => hfailure
  exact wp_readable hwp (fun _ h => h.elim) h

/-- So was a recreation, before the attempt or by it. -/
theorem recover_runtime_control.unscheduled {now : Timespec} (hr : Readable w.answers)
    (h : LeavesUnscheduled (recover_runtime_control now) w) :
    (∃ errno, runtime_control_derive_service_name (w.answers w.asked).service_name_is_valid 256
        w.session.instance_name = .error errno) ∨
      (w.answers (w.asked + 1)).control w.session.instance_name =
        .error .INVALID_IDENTIFIER := by
  have hwp : wp (fun _ => False) (recover_runtime_control now) (fun _ w' =>
      w'.session.runtime_control = none ∧ w'.session.runtime_control_retry_active = false →
      (∃ errno, runtime_control_derive_service_name (w.answers w.asked).service_name_is_valid 256
          w.session.instance_name = .error errno) ∨
        (w.answers (w.asked + 1)).control w.session.instance_name =
          .error .INVALID_IDENTIFIER) w := by
    unfold recover_runtime_control
    simp only [wp_bind, wp_session, wp_ask]
    split
    · rename_i errno herror
      exact fun _ => .inl ⟨errno, herror⟩
    simp only [wp_bind, wp_record]
    refine create_runtime_control.effect ?_
    split
    · rename_i failure hfailure
      simp only [wp_bind, wp_modify_session]
      split
      · rename_i hinvalid
        subst hinvalid
        exact fun _ => .inr hfailure
      · refine wp_mono (schedule_runtime_control_retry.schedules hr) (fun _ h => h) ?_
        intro _ w' hw' h
        rw [hw'] at h
        cases h.2
    · rintro ⟨h, -⟩
      cases h
  exact wp_readable hwp (fun _ h => h.elim) h

end creations

/-! ## Every run -/

/-- With a readable clock: after every update of every run the control object, the tracking
and the retry fit, a recreation has no object to replace and comes at least the retry time
after the loss or the attempt before, a start or a recreation leaves no retry only where its
identifier was refused, and no loss and no recovery changes `Paused` or `SourceAvailable`. -/
theorem the_recovery_of_runtime_control_is_never_stuck (config : SessionConfig)
    (answers : Nat → Answer) (fuel : Nat) (hreadable : Readable answers)
    (hnormal : NormalClock answers) :
    Always (RecoveryEntry answers) (run_history config answers fuel) ∧
    (∀ w, Readable w.answers → LeavesUnscheduled start_runtime_control w →
      (w.answers w.asked).control w.session.instance_name = .error .INVALID_IDENTIFIER) ∧
    (∀ w now, Readable w.answers → LeavesUnscheduled (recover_runtime_control now) w →
      (∃ errno, runtime_control_derive_service_name (w.answers w.asked).service_name_is_valid
          256 w.session.instance_name = .error errno) ∨
        (w.answers (w.asked + 1)).control w.session.instance_name =
          .error .INVALID_IDENTIFIER) ∧
    KeepsValues start_runtime_control ∧ KeepsValues update_control_availability ∧
    KeepsValues process_runtime_control_recovery ∧ KeepsValues destroy_runtime_control ∧
    (∀ processed, KeepsValues (finish_dispatch processed)) ∧
    ∀ control properties, KeepsValues (emit_properties_changed control properties) := by
  refine ⟨?_, fun w hr h => start_runtime_control.unscheduled hr h,
    fun w now hr h => recover_runtime_control.unscheduled hr h, start_runtime_control.keeps,
    update_control_availability.keeps, process_runtime_control_recovery.keeps,
    destroy_runtime_control.keeps, finish_dispatch.keeps, emit_properties_changed.keeps⟩
  obtain ⟨m, hm, hturns⟩ := run_turns config answers fuel
  have hinv := invariant_of_step (RecoveryInvariant answers)
    (fun _ _ => recovery_turn hreadable hnormal) (recovery_start hreadable hnormal hm) hturns
  exact hinv.lawful

-- Only the kernel runs the session on this script.
attribute [local irreducible] run_history

/-- The bus is not there at first. Each call takes a second. -/
def no_bus_at_first : Nat → Answer
  | 0 => { bus_errno := some .ENOENT }
  | n + 1 => { clock := some ⟨n + 1, 0⟩, open_errno := some .ENOENT }

def Action.recreates : Action → Bool
  | .recreating _ _ => true
  | _ => false

/-- A start without a bus is made good. -/
theorem runtime_control_is_recreated_after_a_failed_start :
    (run_history ⟨"keyboard", 0, 0, true, true, false⟩ no_bus_at_first 2).any
        Action.recreates = true ∧
      Always (RecoveryEntry no_bus_at_first)
        (run_history ⟨"keyboard", 0, 0, true, true, false⟩ no_bus_at_first 2) := by
  refine ⟨by decide +kernel, (the_recovery_of_runtime_control_is_never_stuck _ _ _ ?_ ?_).1⟩
  · intro k
    cases k <;> rfl
  · intro k now hnow
    cases k with
    | zero =>
      obtain rfl : ⟨0, 0⟩ = now := Option.some.inj hnow
      decide
    | succ n =>
      obtain rfl : ⟨n + 1, 0⟩ = now := Option.some.inj hnow
      simp [Timespec.Normal]

end input_proxy
