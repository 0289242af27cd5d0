-- The settling of permissions after a reconnect. The deadline that the first
-- denial of a reacquisition sets is not taken back when the device goes away
-- again, so it also ends the wait for a device that has only just come back.
import InputProxy.Neutrality
import InputProxy.Settling
import Mathlib.Data.Prod.Lex

open programs

namespace input_proxy

/-! ## Times -/

/-- Times in order: first the seconds, then the nanoseconds. -/
def Timespec.key (t : Timespec) : Lex (Int × Int) := toLex (t.tv_sec, t.tv_nsec)

theorem Timespec.key_injective : Function.Injective Timespec.key := by
  rintro ⟨s, n⟩ ⟨s', n'⟩ h
  cases h
  rfl

instance : LinearOrder Timespec := LinearOrder.lift' Timespec.key Timespec.key_injective

theorem Timespec.le_iff {t t' : Timespec} :
    t ≤ t' ↔ t.tv_sec < t'.tv_sec ∨ t.tv_sec = t'.tv_sec ∧ t.tv_nsec ≤ t'.tv_nsec :=
  Prod.Lex.toLex_le_toLex

theorem deadline_expired_iff {deadline now : Timespec} :
    deadline_expired deadline now = true ↔ deadline ≤ now := by
  rw [Timespec.le_iff]
  unfold deadline_expired
  simp only [Bool.or_eq_true, Bool.and_eq_true, decide_eq_true_eq, beq_iff_eq]
  constructor
  · rintro (h | ⟨h1, h2⟩)
    · exact .inl h
    · exact .inr ⟨h1.symm, h2⟩
  · rintro (h | ⟨h1, h2⟩)
    · exact .inl h
    · exact .inr ⟨h1.symm, h2⟩

theorem permission_deadline_monotone : Monotone permission_deadline := by
  intro t t' h
  rw [Timespec.le_iff] at *
  simp only [permission_deadline]
  omega

theorem permission_deadline_future (t : Timespec) : ¬ permission_deadline t ≤ t := by
  rw [Timespec.le_iff]
  simp only [permission_deadline, RECONNECT_SETTLING_WINDOW_SECONDS]
  omega

/-! ## The attempts of a reacquisition -/

/-- An attempt to open the source. A denied one stands with the clock read that follows it. -/
def Action.attempt : Action → Option (Attempt Timespec)
  | .attempted .ERROR_SOURCE_UNAVAILABLE => some .other
  | .sampled (some now) => some (.denied now)
  | _ => none

def Action.opens : Action → Bool
  | .opened _ => true
  | _ => false

/-- The attempts since the source was opened last, newest first. -/
def attempts : List Action → List (Attempt Timespec)
  | [] => []
  | a :: past => if a.opens then [] else a.attempt.toList ++ attempts past

/-- The source was opened before. -/
def opened_before (h : List Action) : Bool := h.any Action.opens

/-- The clock read after a denied reacquisition. -/
def Action.sample : Action → Option (Option Timespec)
  | .sampled now => some now
  | _ => none

/-- The clock can be read, and does not go back. -/
def Steady (a : Action) (past : List Action) : Prop :=
  ∀ sample ∈ a.sample, ∃ now ∈ sample,
    ∀ earlier ∈ past.filterMap Action.sample, ∀ time ∈ earlier, time ≤ now

instance (a : Action) (past : List Action) : Decidable (Steady a past) :=
  inferInstanceAs (Decidable (∀ sample ∈ a.sample, ∃ now ∈ sample,
    ∀ earlier ∈ past.filterMap Action.sample, ∀ time ∈ earlier, time ≤ now))

/-- A further attempt to open the source. -/
def Action.tries : Action → Bool
  | .attempted _ | .opened _ => true
  | _ => false

/-- A denial that has persisted through the settling window is not tried again. -/
def Reported (a : Action) (past : List Action) : Prop :=
  a.tries = true → ¬ Persistent permission_deadline (attempts past)

/-- An entry that is no attempt, no opening and no clock read. -/
def Action.idles (a : Action) : Prop := a.opens = false ∧ a.attempt = none ∧ a.tries = false

theorem attempts_append {new past : List Action} (h : ∀ a ∈ new, a.idles) :
    attempts (new ++ past) = attempts past := by
  induction new with
  | nil => rfl
  | cons a new ih =>
    obtain ⟨⟨hopens, hattempt, _⟩, hnew⟩ := List.forall_mem_cons.mp h
    rw [List.cons_append, attempts, hopens, hattempt]
    exact ih hnew

theorem opened_before_append {new past : List Action} (h : ∀ a ∈ new, a.idles) :
    opened_before (new ++ past) = opened_before past :=
  any_append_of_none fun a ha => (h a ha).1

/-- An entry that is an attempt is the failed open itself, or the clock read of a denial. -/
theorem attempt_eq_some {a : Action} {attempt : Attempt Timespec} (h : a.attempt = some attempt) :
    (a = .attempted .ERROR_SOURCE_UNAVAILABLE ∧ attempt = .other) ∨
      ∃ now, a = .sampled (some now) ∧ attempt = .denied now := by
  unfold Action.attempt at h
  split at h
  · exact .inl ⟨rfl, (Option.some.inj h).symm⟩
  · exact .inr ⟨_, rfl, (Option.some.inj h).symm⟩
  · cases h

theorem mem_denials {h : List Action} {time : Timespec} (ht : time ∈ denials (attempts h)) :
    some time ∈ h.filterMap Action.sample := by
  induction h with
  | nil => cases ht
  | cons a past ih =>
    unfold attempts at ht
    split at ht
    · cases ht
    have hpast : time ∈ denials (attempts past) →
        some time ∈ (a :: past).filterMap Action.sample := by
      intro ht
      obtain ⟨b, hb, hsample⟩ := List.mem_filterMap.mp (ih ht)
      exact List.mem_filterMap.mpr ⟨b, List.mem_cons_of_mem a hb, hsample⟩
    cases hattempt : a.attempt with
    | none =>
      rw [hattempt] at ht
      exact hpast ht
    | some attempt =>
      rw [hattempt] at ht
      rcases attempt_eq_some hattempt with ⟨_, rfl⟩ | ⟨now, rfl, rfl⟩
      · exact hpast ht
      · rcases List.mem_cons.mp ht with rfl | ht
        · exact List.mem_cons_self ..
        · exact hpast ht

/-- In time order, as far as the clock is steady. -/
theorem denials_ordered {h : List Action} (hsteady : Always Steady h) :
    (denials (attempts h)).Pairwise fun newer older => older ≤ newer := by
  induction h with
  | nil => exact List.Pairwise.nil
  | cons a past ih =>
    obtain ⟨ha, hpast⟩ := hsteady
    unfold attempts
    split
    · exact List.Pairwise.nil
    cases hattempt : a.attempt with
    | none => exact ih hpast
    | some attempt =>
      rcases attempt_eq_some hattempt with ⟨_, rfl⟩ | ⟨now, rfl, rfl⟩
      · exact ih hpast
      · refine List.pairwise_cons.mpr ⟨fun time ht => ?_, ih hpast⟩
        obtain ⟨now', hnow, hle⟩ := ha (some now) rfl
        obtain rfl : now = now' := by simpa using hnow
        exact hle (some time) (mem_denials ht) time rfl

/-! ## The invariant -/

/-- The permission deadline that a phase of the wait for the source is under. -/
def Phase.waits (t : Option Timespec) : Phase → Prop
  | .idle (.waiting t') | .handling (.waiting t') _ | .replying (.waiting t') _ _ => t' = t
  | _ => False

/-- The run has ended. -/
def Phase.ends : Phase → Prop
  | .ended _ | .stopped _ => True
  | _ => False

/-- The run has ended because permission was denied. -/
def Phase.denied : Phase → Prop
  | .ended r | .stopped r => r = .ERROR_SOURCE_PERMISSION_DENIED
  | _ => False

/-- With a steady clock: a denial is overdue exactly if it has ended the run, and no denial
that persisted was tried again. -/
structure Decided (ph : Phase) (h : List Action) : Prop where
  pending : ¬ ph.denied → ¬ Overdue permission_deadline (attempts h)
  overdue : ph.denied → opened_before h = true → Overdue permission_deadline (attempts h)
  lawful : Always Reported h

/-- The deadline that the first denial of the reacquisition has set. -/
def settling_deadline (h : List Action) : Option Timespec :=
  (denials (attempts h)).getLast?.map permission_deadline

structure SettlingInvariant (ph : Phase) (m : Moment) : Prop where
  deadline : ∀ t, ph.waits t → t = settling_deadline m.history
  fresh : ph.ends ∨ (∃ t, ph.waits t) ∨ attempts m.history = []
  opened : opened_before m.history = m.session.source_opened_successfully
  known : denials (attempts m.history) ≠ [] → opened_before m.history = true
  decided : Always Steady m.history → Decided ph m.history

/-- Entries that are no attempts, between two phases with the same deadline and end. -/
theorem SettlingInvariant.keep {ph ph' : Phase} {m m' : Moment} (hm : SettlingInvariant ph m)
    (hadds : Adds Action.idles m m')
    (hopened : m'.session.source_opened_successfully = m.session.source_opened_successfully)
    (hwaits : ∀ t, ph'.waits t → ph.waits t)
    (hfresh : ph.ends ∨ (∃ t, ph.waits t) → ph'.ends ∨ ∃ t, ph'.waits t)
    (hdenied : ph'.denied ↔ ph.denied) : SettlingInvariant ph' m' := by
  obtain ⟨new, hnew, hall⟩ := hadds
  have hattempts : attempts m'.history = attempts m.history := by
    rw [hnew, attempts_append hall]
  have hbefore : opened_before m'.history = opened_before m.history := by
    rw [hnew, opened_before_append hall]
  refine ⟨fun t ht => ?_, ?_, ?_, fun hne => ?_, fun hsteady => ?_⟩
  · unfold settling_deadline
    rw [hattempts]
    exact hm.deadline t (hwaits t ht)
  · rw [hattempts]
    rcases hm.fresh with h | h | h
    · exact or_assoc.mp (.inl (hfresh (.inl h)))
    · exact or_assoc.mp (.inl (hfresh (.inr h)))
    · exact .inr (.inr h)
  · rw [hbefore, hm.opened, hopened]
  · rw [hbefore]
    exact hm.known (hattempts ▸ hne)
  · have hdecided := hm.decided (Adds.past ⟨new, hnew, hall⟩ hsteady)
    refine ⟨fun hd => ?_, fun hd hb => ?_, ?_⟩
    · rw [hattempts]
      exact hdecided.pending fun h => hd (hdenied.mpr h)
    · rw [hattempts]
      exact hdecided.overdue (hdenied.mp hd) (hbefore ▸ hb)
    · refine Adds.law ⟨new, hnew, hall⟩ hdecided.lawful fun a _ ha htries => ?_
      rw [ha.2.2] at htries
      cases htries

theorem Action.of_control.idles {a : Action} (h : a.of_control) : a.idles := by
  cases a <;> first | exact ⟨rfl, rfl, rfl⟩ | exact h.elim

theorem Action.of_correction.idles {a : Action} (h : a.of_correction) : a.idles := by
  cases a <;> first | exact ⟨rfl, rfl, rfl⟩ | exact h.elim

/-- To go on waiting the clock is read, and the first denial keeps its deadline. -/
theorem settle_inl {deadline : Option Timespec} {now : Option Timespec} {h : List Action}
    (hs : settle (settling_deadline h) now = .inl deadline) :
    ∃ time, now = some time ∧
      deadline = (denials (.denied time :: attempts h)).getLast?.map permission_deadline := by
  unfold settling_deadline settle at hs
  cases now with
  | none =>
    split at hs
    · cases hs
    · split_ifs at hs with hexpired
      exact absurd rfl hexpired
  | some time =>
    refine ⟨time, rfl, ?_⟩
    rw [denials_denied, List.getLast?_cons]
    cases hlast : (denials (attempts h)).getLast? with
    | none =>
      rw [hlast] at hs
      exact (Sum.inl.inj hs).symm
    | some first =>
      rw [hlast] at hs
      simp only [Option.map_some] at hs
      split_ifs at hs
      exact (Sum.inl.inj hs).symm

/-- In time order the clock read of a denial ends the settling period exactly if the denial
is overdue. -/
theorem settle_overdue {now : Timespec} {h : List Action}
    (horder : (denials (.denied now :: attempts h)).Pairwise fun newer older => older ≤ newer) :
    (∃ r, settle (settling_deadline h) (some now) = .inr r) ↔
      Overdue permission_deadline (.denied now :: attempts h) := by
  unfold settling_deadline
  cases hlast : (denials (attempts h)).getLast? with
  | none =>
    have hnil : denials (attempts h) = [] := List.getLast?_eq_none_iff.mp hlast
    have hfirst : (denials (.denied now :: attempts h)).getLast? = some now := by simp [hnil]
    rw [overdue_iff_first permission_deadline_monotone hfirst horder]
    simp [settle, permission_deadline_future]
  | some first =>
    have hfirst : (denials (.denied now :: attempts h)).getLast? = some first := by
      rw [denials_denied, List.getLast?_cons, hlast]
      rfl
    have hexpired : reconnect_settling_expired (permission_deadline first) (some now) = true ↔
        permission_deadline first ≤ now := deadline_expired_iff
    rw [overdue_iff_first permission_deadline_monotone hfirst horder, ← hexpired]
    simp only [settle, Option.map_some]
    split_ifs with hx
    · simp [hx]
    · simp [hx]

/-! ## Every step -/

theorem Decided.reported {ph : Phase} {h : List Action} {a : Action} (hd : Decided ph h)
    (hph : ¬ ph.denied) : Reported a h :=
  fun _ hpersistent => hd.pending hph hpersistent.overdue

section steps

variable {m : Moment} {t : Option Timespec}

/-- The source is unavailable: the deadline stays, and nothing is overdue. -/
theorem SettlingInvariant.unavailable (hm : SettlingInvariant (.idle (.waiting t)) m) :
    SettlingInvariant (.idle (.waiting t)) ((m.put fun s => { s with source_device := none }).log
      (.attempted .ERROR_SOURCE_UNAVAILABLE)) := by
  refine ⟨fun t' ht => hm.deadline t' ht, .inr (.inl ⟨t, rfl⟩), hm.opened, hm.known,
    fun hsteady => ?_⟩
  have hdecided := hm.decided hsteady.2
  exact ⟨fun _ => not_overdue_other, fun h => h.elim, hdecided.reported id, hdecided.lawful⟩

/-- The source is denied, the clock is read, and the wait goes on. -/
theorem SettlingInvariant.denied {t' now : Option Timespec}
    (hm : SettlingInvariant (.idle (.waiting t)) m)
    (ho : m.session.source_opened_successfully = true) (hs : settle t now = .inl t') :
    SettlingInvariant (.idle (.waiting t')) (((m.put fun s => { s with source_device := none }).log
      (.attempted .ERROR_SOURCE_PERMISSION_DENIED)).log (.sampled now)) := by
  rw [hm.deadline t rfl] at hs
  obtain ⟨time, rfl, hdeadline⟩ := settle_inl hs
  refine ⟨?_, .inr (.inl ⟨t', rfl⟩), hm.opened, fun _ => hm.opened.trans ho, fun hsteady => ?_⟩
  · rintro t'' (rfl : t' = t'')
    exact hdeadline
  · have hdecided := hm.decided hsteady.2.2
    have horder : (denials (.denied time :: attempts m.history)).Pairwise
        fun newer older => older ≤ newer := denials_ordered hsteady
    refine ⟨fun _ hoverdue => ?_, fun h => h.elim, fun h => (nomatch h), hdecided.reported id,
      hdecided.lawful⟩
    obtain ⟨r, hr⟩ := (settle_overdue horder).mpr hoverdue
    rw [hs] at hr
    cases hr

/-- The source is denied, the clock is read, and the run ends. -/
theorem SettlingInvariant.denied_end {r : Result} {now : Option Timespec}
    (hm : SettlingInvariant (.idle (.waiting t)) m)
    (ho : m.session.source_opened_successfully = true) (hs : settle t now = .inr r) :
    SettlingInvariant (.ended r) (((m.put fun s => { s with source_device := none }).log
      (.attempted .ERROR_SOURCE_PERMISSION_DENIED)).log (.sampled now)) := by
  obtain rfl := settle_inr hs
  rw [hm.deadline t rfl] at hs
  refine ⟨fun _ h => h.elim, .inl trivial, hm.opened, fun _ => hm.opened.trans ho,
    fun hsteady => ?_⟩
  have hdecided := hm.decided hsteady.2.2
  obtain ⟨time, rfl, _⟩ := hsteady.1 now rfl
  have horder : (denials (.denied time :: attempts m.history)).Pairwise
      fun newer older => older ≤ newer := denials_ordered hsteady
  exact ⟨fun h => absurd rfl h, fun _ _ => (settle_overdue horder).mp ⟨_, hs⟩, fun h => (nomatch h),
    hdecided.reported id, hdecided.lawful⟩

/-- The open fails in another way, or is denied before the source was ever opened. -/
theorem SettlingInvariant.open_failed {r : Result} (hm : SettlingInvariant (.idle (.waiting t)) m)
    (hu : r ≠ .ERROR_SOURCE_UNAVAILABLE)
    (hd : ¬ (r = .ERROR_SOURCE_PERMISSION_DENIED ∧
      m.session.source_opened_successfully = true)) :
    SettlingInvariant (.ended r) ((m.put fun s => { s with source_device := none }).log
      (.attempted r)) := by
  have hnone : (Action.attempted r).attempt = none := by
    cases r <;> first | rfl | exact absurd rfl hu
  have hattempts : attempts (.attempted r :: m.history) = attempts m.history := by
    change (Action.attempted r).attempt.toList ++ attempts m.history = _
    rw [hnone]
    rfl
  refine ⟨fun _ h => h.elim, .inl trivial, hm.opened, fun hne => ?_, fun hsteady => ?_⟩
  · change denials (attempts (.attempted r :: m.history)) ≠ [] at hne
    rw [hattempts] at hne
    exact hm.known hne
  · have hdecided := hm.decided hsteady.2
    refine ⟨fun _ => ?_, fun hr hbefore => ?_, hdecided.reported id, hdecided.lawful⟩
    · change ¬ Overdue permission_deadline (attempts (.attempted r :: m.history))
      rw [hattempts]
      exact hdecided.pending id
    · exact absurd ⟨hr, hm.opened.symm.trans hbefore⟩ hd

/-- The source opens: its attempts are over. -/
theorem SettlingInvariant.open_source {id : Nat} {f : Session → Session}
    (hm : SettlingInvariant (.idle (.waiting t)) m)
    (hf : (f m.session).source_opened_successfully = true) :
    SettlingInvariant .opened ((m.put f).log (.opened id)) := by
  refine ⟨fun _ h => h.elim, .inr (.inr rfl), hf.symm, fun h => absurd rfl h, fun hsteady => ?_⟩
  have hdecided := hm.decided hsteady.2
  exact ⟨fun _ => not_overdue_nil, fun h => h.elim, hdecided.reported fun h => h.elim,
    hdecided.lawful⟩

end steps

section phases

variable {ph ph' : Phase} {m m' : Moment}

/-- The run goes to its end with another result. -/
theorem SettlingInvariant.end_with {r : Result} (hm : SettlingInvariant ph m)
    (hadds : Adds Action.idles m m')
    (hopened : m'.session.source_opened_successfully = m.session.source_opened_successfully)
    (hph : ¬ ph.denied) (hr : r ≠ .ERROR_SOURCE_PERMISSION_DENIED) :
    SettlingInvariant (.ended r) m' :=
  hm.keep hadds hopened (fun _ h => h.elim) (fun _ => .inl trivial)
    ⟨fun h => absurd h hr, fun h => absurd h hph⟩

/-- A phase that neither waits for the source nor ends. -/
def Phase.acts : Phase → Prop
  | .idle (.waiting _) | .handling (.waiting _) _ | .replying (.waiting _) _ _ | .ended _
  | .stopped _ => False
  | _ => True

theorem Phase.acts.not_ends (h : ph.acts) : ¬ ph.ends := by
  cases ph <;> first | exact h.elim | exact id

theorem Phase.acts.not_waits (h : ph.acts) (t : Option Timespec) : ¬ ph.waits t := by
  cases ph with
  | idle l | handling l _ | replying l _ _ => cases l <;> first | exact h.elim | exact id
  | ended | stopped => exact h.elim
  | _ => exact id

theorem Phase.acts.not_denied (h : ph.acts) : ¬ ph.denied := by
  intro hd
  cases ph <;> first | exact hd.elim | exact h.elim

/-- From one such phase to the next. -/
theorem SettlingInvariant.act (hm : SettlingInvariant ph m) (hadds : Adds Action.idles m m')
    (hopened : m'.session.source_opened_successfully = m.session.source_opened_successfully)
    (hph : ph.acts) (hph' : ph'.acts) : SettlingInvariant ph' m' := by
  refine hm.keep hadds hopened (fun t h => absurd h (hph'.not_waits t)) ?_ ?_
  · rintro (h | ⟨t, h⟩)
    · exact absurd h hph.not_ends
    · exact absurd h (hph.not_waits t)
  · exact ⟨fun h => absurd h hph'.not_denied, fun h => absurd h hph.not_denied⟩

/-- From such a phase to a new wait. -/
theorem SettlingInvariant.begin_wait (hm : SettlingInvariant ph m)
    (hadds : Adds Action.idles m m')
    (hopened : m'.session.source_opened_successfully = m.session.source_opened_successfully)
    (hph : ph.acts) : SettlingInvariant (.idle (.waiting none)) m' := by
  have hm' : SettlingInvariant .ready m' := hm.act hadds hopened hph trivial
  have hnil : attempts m'.history = [] := by
    rcases hm'.fresh with h | ⟨_, h⟩ | h
    · exact h.elim
    · exact h.elim
    · exact h
  refine ⟨fun t ht => ?_, .inr (.inl ⟨none, rfl⟩), hm'.opened, hm'.known, fun hsteady => ?_⟩
  · obtain rfl : none = t := ht
    unfold settling_deadline
    rw [hnil]
    rfl
  · have hdecided := hm'.decided hsteady
    exact ⟨hdecided.pending, fun h => h.elim, hdecided.lawful⟩

end phases

theorem SameButState.opened {m m' : Moment} (h : SameButState m m') :
    m'.session.source_opened_successfully = m.session.source_opened_successfully := by
  obtain ⟨es, hes⟩ := h.session
  rw [hes]

theorem CreationFailure.ne_denied {r : Result} (h : CreationFailure r) :
    r ≠ .ERROR_SOURCE_PERMISSION_DENIED := by
  rcases h with rfl | rfl | rfl <;> decide

theorem CorrectionFailure.ne_denied {r : Result} (h : CorrectionFailure r) :
    r ≠ .ERROR_SOURCE_PERMISSION_DENIED := by
  rcases h with rfl | rfl | rfl | rfl <;> decide

theorem settling_step {config : SessionConfig} {ph ph' : Phase} {m m' : Moment}
    (hr : Reach config (ph, m)) (hm : SettlingInvariant ph m) (h : Step (ph, m) (ph', m')) :
    SettlingInvariant ph' m' := by
  have hfatal : m.session.fatal_result ≠ .ERROR_SOURCE_PERMISSION_DENIED := by
    rcases fatal_reach hr with hf | hf
    · rw [hf]
      decide
    · exact hf.ne_denied
  have hlog : ∀ {a : Action}, a.idles → Adds Action.idles m (m.log a) := fun ha => Adds.refl.log ha
  have hclosed : ∀ id, (Action.closed id).idles := fun _ => ⟨rfl, rfl, rfl⟩
  have hdestroyed : ∀ id, (Action.destroyed id).idles := fun _ => ⟨rfl, rfl, rfl⟩
  cases h with
  | control h =>
    exact hm.keep (h.adds.mono fun _ ha => ha.idles) h.same.2.2.2.2.2.1 (fun _ => id) id Iff.rfl
  | @dispatch l =>
    exact hm.keep (hlog ⟨rfl, rfl, rfl⟩) rfl (fun _ => id) id Iff.rfl
  | loop_head => exact hm.keep (hlog ⟨rfl, rfl, rfl⟩) rfl (fun _ => id) id Iff.rfl
  | @go_on l => exact hm.keep (hlog ⟨rfl, rfl, rfl⟩) rfl (fun _ => id) id Iff.rfl
  | @call l | @reply l =>
    cases l <;> exact hm.keep (hlog ⟨rfl, rfl, rfl⟩) rfl (fun _ => id) id Iff.rfl
  | @unchanged l => cases l <;> exact hm.keep Adds.refl rfl (fun _ => id) id Iff.rfl
  | @changed l p m m1 hp hc =>
    have hadds : Adds Action.idles m (m1.commit p) :=
      (hc.adds (fun _ ha => ha.idles) ⟨rfl, rfl, rfl⟩ fun _ => ⟨rfl, rfl, rfl⟩).put.log
        ⟨rfl, rfl, rfl⟩
    have hopened : (m1.commit p).session.source_opened_successfully =
        m.session.source_opened_successfully := by
      simpa using hc.same.of_log.opened
    cases l <;> exact hm.keep hadds hopened (fun _ => id) id Iff.rfl
  | @failed l p m r m1 hp hc hr =>
    have hadds : Adds Action.idles m ((m1.put fun s => { s with fatal_result := r }).log
        (.failed r)) :=
      (hc.adds (fun _ ha => ha.idles) ⟨rfl, rfl, rfl⟩ fun _ => ⟨rfl, rfl, rfl⟩).put.log
        ⟨rfl, rfl, rfl⟩
    cases l <;> exact hm.keep hadds hc.same.of_log.opened (fun _ => id) id Iff.rfl
  | shutdown => exact hm.end_with (Adds.refl.put.log ⟨rfl, rfl, rfl⟩) rfl id (by decide)
  | interrupted => exact hm.end_with Adds.refl rfl id (by decide)
  | signal_lost => exact hm.keep Adds.refl rfl (fun _ => id) id Iff.rfl
  | signal_ended => exact hm.keep Adds.refl rfl (fun _ => id) id Iff.rfl
  | give_up | fatal => exact hm.end_with Adds.refl rfl id hfatal
  | unavailable hf => exact hm.unavailable
  | denied hf ho hs => exact hm.denied ho hs
  | denied_end hf ho hs => exact hm.denied_end ho hs
  | open_failed hf hr hu hd => exact hm.open_failed hu hd
  | open_source evdev hf => exact hm.open_source rfl
  | compatible => exact hm.act (hlog ⟨rfl, rfl, rfl⟩) rfl trivial trivial
  | incompatible hd hs hc =>
    exact hm.act ((hlog ⟨rfl, rfl, rfl⟩).destroy hdestroyed) (by simp) trivial trivial
  | create => exact hm.act (Adds.refl.put.log ⟨rfl, rfl, rfl⟩) rfl trivial trivial
  | create_failed hne =>
    exact hm.end_with ((hlog ⟨rfl, rfl, rfl⟩).close hclosed) (by simp) id hne.ne_denied
  | synchronized hp hs =>
    exact hm.act (hs.adds.mono fun _ ha => ha.idles) hs.same.opened trivial trivial
  | not_synchronized hp hs hne =>
    exact hm.end_with (hs.adds.mono fun _ ha => ha.idles) hs.same.opened id
      (hs.result.resolve_left hne).ne_denied
  | first | stay_paused | activate | fatal_lost | lose =>
    exact hm.act Adds.refl rfl trivial trivial
  | read | recover => exact hm.act (Adds.refl.put.log ⟨rfl, rfl, rfl⟩) rfl trivial trivial
  | read_nothing | read_dropped | read_lost | recovered | recover_lost =>
    exact hm.act (hlog ⟨rfl, rfl, rfl⟩) rfl trivial trivial
  | read_failed | recover_failed | forward_failed =>
    exact hm.end_with (hlog ⟨rfl, rfl, rfl⟩) rfl id (by decide)
  | @suppress b =>
    exact hm.act Adds.refl rfl trivial (by cases b <;> trivial)
  | @forward b =>
    exact hm.act (Adds.refl.put.log ⟨rfl, rfl, rfl⟩) rfl trivial
      (by cases b <;> trivial)
  | neutralized hn =>
    exact hm.begin_wait (hn.adds_loss (fun _ ha => ha.idles) ⟨rfl, rfl, rfl⟩ hclosed)
      (by simpa using hn.same.of_log.opened) trivial
  | not_neutralized hn hne =>
    exact hm.end_with (hn.adds_loss (fun _ ha => ha.idles) ⟨rfl, rfl, rfl⟩ hclosed)
      (by simpa using hn.same.of_log.opened) id (hn.result.resolve_left hne).ne_denied
  | clean =>
    exact hm.keep (((hlog ⟨rfl, rfl, rfl⟩).destroy hdestroyed).close hclosed) (by simp)
      (fun _ => id) id Iff.rfl

theorem settling_reach {config : SessionConfig} {ph : Phase} {m : Moment}
    (h : Reach config (ph, m)) : SettlingInvariant ph m := by
  refine reach_induction SettlingInvariant ?_ settling_step h
  refine ⟨fun t ht => ?_, .inr (.inr rfl), rfl, fun h => absurd rfl h,
    fun _ => ⟨fun _ => not_overdue_nil, fun h => h.elim, trivial⟩⟩
  obtain rfl : none = t := ht
  rfl

/-! ## Every run -/

/-- A reacquisition that ends because permission is denied ends after a persistent denial. -/
def EndsPersistent (r : Result) (h : List Action) : Prop :=
  r = .ERROR_SOURCE_PERMISSION_DENIED → opened_before h = true →
    Persistent permission_deadline (attempts h)

instance (r : Result) (h : List Action) : Decidable (EndsPersistent r h) :=
  inferInstanceAs (Decidable (r = .ERROR_SOURCE_PERMISSION_DENIED → opened_before h = true →
    Persistent permission_deadline (attempts h)))

/-- With a steady clock a denial that has persisted through the settling window is never
tried again. And a run ends for a persistent denial only, exactly if no denial that comes
when the window of the first denial has passed was interrupted within its own window. -/
theorem only_a_persistent_denial_ends_the_run_iff_none_was_interrupted (config : SessionConfig)
    (answers : Nat → Answer) (fuel : Nat)
    (hsteady : Always Steady (run_history config answers fuel)) :
    Always Reported (run_history config answers fuel) ∧
    ∀ r w, Returns config answers fuel r w →
      (EndsPersistent r w.history ↔
        (Overdue permission_deadline (attempts w.history) →
          Persistent permission_deadline (attempts w.history))) := by
  constructor
  · refine run_law (fun m => Always Steady m.history → Always Reported m.history)
      (fun ph m _ hr hsteady => ?_) answers fuel hsteady
    exact ((settling_reach hr).decided hsteady).lawful
  · intro r w hw
    have hr : At config (.stopped r) w := session_run.returned config hw
    rw [hw.history] at hsteady
    have hm : SettlingInvariant (.stopped r) w.moment := settling_reach hr
    have hdecided := hm.decided hsteady
    constructor
    · intro hends hoverdue
      have hdenied : r = .ERROR_SOURCE_PERMISSION_DENIED := by
        by_contra hne
        exact hdecided.pending hne hoverdue
      refine hends hdenied (hm.known ?_)
      obtain ⟨_, _, time, htime, _⟩ := hoverdue
      exact List.ne_nil_of_mem htime
    · intro hcondition hdenied hbefore
      exact hcondition (hdecided.overdue hdenied hbefore)

-- Only the kernel runs the session on these scripts.
attribute [local irreducible] run_history session_run

/-- A keyboard is opened, lost at once, and then denied. Each call takes a tenth of a second. -/
def denied_after_loss : Nat → Answer
  | 5 => { evdev := some (.untouched keyboard) }
  | n =>
    { open_errno := some .EACCES
      read := .errno .ENODEV
      clock := some ⟨n / 10, n % 10 * 100000000⟩ }

/-- The same, but for a while it is unplugged again. -/
def unplugged_again (n : Nat) : Answer :=
  if 30 ≤ n ∧ n < 60 then { denied_after_loss n with open_errno := some .ENOENT }
  else denied_after_loss n

/-- A denial that persists ends the run. -/
theorem a_persistent_denial_ends_the_run :
    EndsPersistent .ERROR_SOURCE_PERMISSION_DENIED
        (run_history ⟨"keyboard", 0, 0, true, true, false⟩ denied_after_loss 9) := by
  have hreturns : Returns ⟨"keyboard", 0, 0, true, true, false⟩ denied_after_loss 9
      .ERROR_SOURCE_PERMISSION_DENIED
      (session_run 9 (World.start ⟨"keyboard", 0, 0, true, true, false⟩ denied_after_loss)).2 :=
    returns_of (by decide +kernel)
  rw [hreturns.history]
  exact ((only_a_persistent_denial_ends_the_run_iff_none_was_interrupted _ _ _
    (by decide +kernel)).2 _ _ hreturns).mpr (by decide +kernel)

/-- A denial that comes right after the device was unplugged may end the run. -/
theorem an_interrupted_denial_ends_the_run :
    ¬ ∀ (config : SessionConfig) (answers : Nat → Answer) (fuel : Nat),
      Always Steady (run_history config answers fuel) →
        ∀ r w, Returns config answers fuel r w → EndsPersistent r w.history := by
  intro h
  have hrun := h ⟨"keyboard", 0, 0, true, true, false⟩ unplugged_again 9 (by decide +kernel)
    .ERROR_SOURCE_PERMISSION_DENIED _ (returns_of (by decide +kernel))
  exact absurd hrun (by decide +kernel)

end input_proxy
