-- One-shot timers. An event starts the timer, a tick at or after its deadline
-- stops it. A retriggerable timer starts again at every event; another one is
-- a throttle, whose intervals the events outside all earlier ones should start.
import Mathlib.Algebra.Order.Group.Defs
import Mathlib.Data.List.Basic

namespace programs

/-! ## The timer -/

/-- What a timer is told, at a time. -/
inductive Sample (τ : Type)
  | event (time : τ)
  | tick (time : τ)

namespace Sample

variable {τ : Type}

def time : Sample τ → τ
  | event t | tick t => t

@[simp] theorem event_time (t : τ) : (event t).time = t := rfl

@[simp] theorem tick_time (t : τ) : (tick t).time = t := rfl

end Sample

/-- A timer: how long it runs, and whether an event restarts it. -/
structure Timer (τ : Type) where
  duration : τ
  retriggerable : Bool

namespace Timer

variable {τ : Type} [AddCommGroup τ] [LinearOrder τ]

/-- The deadline of a timer that an event starts. -/
def start (timer : Timer τ) (t : τ) : Option τ :=
  if timer.duration = 0 then none else some (t + timer.duration)

/-- The deadline of the timer after one sample. -/
def step (timer : Timer τ) (deadline : Option τ) : Sample τ → Option τ
  | .event t =>
    match deadline with
    | none => timer.start t
    | some d => if timer.retriggerable then timer.start t else some d
  | .tick t => deadline.filter (t < ·)

/-- The deadline after these samples, the newest first. -/
def run (timer : Timer τ) : List (Sample τ) → Option τ
  | [] => none
  | x :: past => timer.step (timer.run past) x

/-- The times do not decrease. -/
def Ordered : List (Sample τ) → Prop
  | [] => True
  | x :: past => (∀ y ∈ past, y.time ≤ x.time) ∧ Ordered past

variable {timer : Timer τ} {past : List (Sample τ)} {x : Sample τ} {d t : τ}

theorem start_some : timer.start t = some d ↔ timer.duration ≠ 0 ∧ t + timer.duration = d := by
  unfold start
  split_ifs with h <;> simp [h]

theorem step_restart {deadline : Option τ} (hr : timer.retriggerable = true) :
    timer.step deadline (.event t) = timer.start t := by
  cases deadline <;> simp [step, hr]

theorem step_tick {deadline : Option τ} :
    timer.step deadline (.tick t) = some d ↔ deadline = some d ∧ t < d := by
  simp [step, Option.filter_eq_some_iff]

/-! ## Retriggerable timers -/

section retriggerable

variable [IsOrderedAddMonoid τ]

/-- The deadline belongs to the last of the events; without one every event is over. -/
structure Restarted (timer : Timer τ) (past : List (Sample τ)) : Prop where
  running : ∀ d, timer.run past = some d →
    (∃ e, .event e ∈ past ∧ d = e + timer.duration) ∧
      ∀ e, .event e ∈ past → e + timer.duration ≤ d
  elapsed : timer.run past = none → ∀ e, .event e ∈ past → ∀ x ∈ past.head?,
    e + timer.duration ≤ x.time

theorem restarted (hr : timer.retriggerable = true) (h : Ordered past) :
    timer.Restarted past := by
  induction past with
  | nil => exact ⟨fun d hd => (nomatch hd), fun _ e he => (nomatch he)⟩
  | cons x past ih =>
    obtain ⟨hx, hpast⟩ := h
    have ih := ih hpast
    cases x with
    | event t =>
      have hrun : timer.run (.event t :: past) = timer.start t := step_restart hr
      have hold : ∀ e, Sample.event e ∈ Sample.event t :: past → e ≤ t := by
        intro e he
        rcases List.mem_cons.mp he with he | he
        · exact (Sample.event.inj he).le
        · exact hx _ he
      refine ⟨fun d hd => ?_, fun hnone e he y hy => ?_⟩
      · rw [hrun, start_some] at hd
        obtain ⟨_, rfl⟩ := hd
        exact ⟨⟨t, by simp, rfl⟩, fun e he => by gcongr; exact hold e he⟩
      · rw [hrun] at hnone
        obtain rfl : Sample.event t = y := by simpa using hy
        have hzero : timer.duration = 0 := by
          unfold start at hnone
          split_ifs at hnone with h
          exact h
        rw [hzero, add_zero]
        exact hold e he
    | tick t =>
      have hevents : ∀ e, Sample.event e ∈ Sample.tick t :: past → Sample.event e ∈ past := by
        intro e he
        simpa using he
      refine ⟨fun d hd => ?_, fun hnone e he y hy => ?_⟩
      · obtain ⟨hd, _⟩ := step_tick.mp hd
        obtain ⟨⟨e, he, hde⟩, hall⟩ := ih.running d hd
        exact ⟨⟨e, List.mem_cons_of_mem _ he, hde⟩, fun e he => hall e (hevents e he)⟩
      · obtain rfl : Sample.tick t = y := by simpa using hy
        have he := hevents e he
        cases hrun : timer.run past with
        | none =>
          cases past with
          | nil => cases he
          | cons z past =>
            exact (ih.elapsed hrun e he z rfl).trans (hx z (List.mem_cons_self ..))
        | some d =>
          have hd : ¬ t < d := by
            intro hd
            have hsome : timer.step (timer.run past) (.tick t) = some d :=
              step_tick.mpr ⟨hrun, hd⟩
            rw [show timer.step (timer.run past) (.tick t) = none from hnone] at hsome
            cases hsome
          exact ((ih.running d hrun).2 e he).trans (not_lt.mp hd)

/-- A retriggerable timer runs exactly as long as one of the events is recent. -/
theorem run_isSome_iff (hr : timer.retriggerable = true) (hd : 0 ≤ timer.duration)
    (h : Ordered (x :: past)) :
    (timer.run (x :: past)).isSome ↔
      ∃ e, .event e ∈ x :: past ∧ x.time < e + timer.duration := by
  obtain ⟨hrunning, hover⟩ := restarted hr h
  cases hrun : timer.run (x :: past) with
  | none =>
    refine ⟨fun hsome => (nomatch hsome), fun ⟨e, he, hlt⟩ => ?_⟩
    exact absurd (hover hrun e he x rfl) (not_le.mpr hlt)
  | some d =>
    refine ⟨fun _ => ?_, fun _ => rfl⟩
    obtain ⟨⟨e, he, hde⟩, _⟩ := hrunning d hrun
    refine ⟨e, he, hde ▸ ?_⟩
    cases x with
    | tick t => exact (step_tick.mp hrun).2
    | event t =>
      have hstart : timer.start t = some d := (step_restart hr).symm.trans hrun
      obtain ⟨hne, hstart⟩ := start_some.mp hstart
      rw [← hstart]
      exact lt_add_of_pos_right t (lt_of_le_of_ne hd (Ne.symm hne))

end retriggerable

/-! ## Throttles -/

section throttles

variable {D a : τ}

/-- The starts of the intervals that a throttle of duration `D` should begin, the latest
first: an event starts one unless an earlier one contains it. -/
def starts (D : τ) : List (Sample τ) → List τ
  | [] => []
  | .event e :: past =>
    if ∃ a ∈ starts D past, a ≤ e ∧ e < a + D then starts D past else e :: starts D past
  | .tick _ :: past => starts D past

/-- The events that start a timer. -/
def fired (timer : Timer τ) : List (Sample τ) → List τ
  | [] => []
  | .event e :: past => if timer.run past = none then e :: timer.fired past else timer.fired past
  | .tick _ :: past => timer.fired past

/-- A tick has come between the end of an interval and the next event outside of it. -/
def Swept (D : τ) : List (Sample τ) → Prop
  | [] => True
  | .event e :: past =>
    (∀ a ∈ (starts D past).head?, a + D ≤ e → ∃ t, .tick t ∈ past ∧ a + D ≤ t) ∧ Swept D past
  | .tick _ :: past => Swept D past

/-- The timer is in the latest interval, or every interval has been seen to end. -/
structure Throttled (timer : Timer τ) (past : List (Sample τ)) : Prop where
  fired : timer.fired past = starts timer.duration past
  running : ∀ d, timer.run past = some d →
    (∃ a, (starts timer.duration past).head? = some a ∧ a + timer.duration = d) ∧
      (∀ a ∈ starts timer.duration past, a + timer.duration ≤ d) ∧ ∀ x ∈ past, x.time < d
  elapsed : timer.run past = none → ∀ a ∈ starts timer.duration past,
    ∃ t, .tick t ∈ past ∧ a + timer.duration ≤ t
  older : ∀ a ∈ starts timer.duration past, .event a ∈ past

theorem throttled [IsOrderedAddMonoid τ] (hr : timer.retriggerable = false)
    (hd : 0 < timer.duration) (h : Ordered past) (hs : Swept timer.duration past) :
    timer.Throttled past := by
  induction past with
  | nil =>
    exact ⟨rfl, fun d hd => (nomatch hd), fun _ a ha => (nomatch ha), fun a ha => (nomatch ha)⟩
  | cons x past ih =>
    obtain ⟨hx, hpast⟩ := h
    cases x with
    | tick t =>
      obtain ⟨hfired, hrunning, hover, holder⟩ := ih hpast hs
      have hstarts : starts timer.duration (.tick t :: past) = starts timer.duration past := rfl
      refine ⟨hfired, fun d hd => ?_, fun hnone a ha => ?_, fun a ha => ?_⟩
      · obtain ⟨hd, ht⟩ := step_tick.mp hd
        obtain ⟨hlatest, hall, htimes⟩ := hrunning d hd
        exact ⟨hlatest, hall, List.forall_mem_cons.mpr ⟨ht, htimes⟩⟩
      · cases hrun : timer.run past with
        | none =>
          obtain ⟨t', ht', hle⟩ := hover hrun a ha
          exact ⟨t', List.mem_cons_of_mem _ ht', hle⟩
        | some d =>
          have ht : ¬ t < d := by
            intro ht
            have hsome : timer.step (timer.run past) (.tick t) = some d :=
              step_tick.mpr ⟨hrun, ht⟩
            rw [show timer.step (timer.run past) (.tick t) = none from hnone] at hsome
            cases hsome
          exact ⟨t, by simp, ((hrunning d hrun).2.1 a ha).trans (not_lt.mp ht)⟩
      · exact List.mem_cons_of_mem _ (holder a ha)
    | event e =>
      obtain ⟨hsweep, hs⟩ := hs
      obtain ⟨hfired, hrunning, hover, holder⟩ := ih hpast hs
      have hbefore : ∀ a ∈ starts timer.duration past, a ≤ e := fun a ha => hx _ (holder a ha)
      cases hrun : timer.run past with
      | some d =>
        obtain ⟨⟨a, hhead, rfl⟩, hall, htimes⟩ := hrunning d hrun
        have ha := List.mem_of_mem_head? hhead
        -- no tick has come since the interval would be over, so it is not
        have he : e < a + timer.duration := by
          by_contra hle
          obtain ⟨t, ht, hat⟩ := hsweep a hhead (not_lt.mp hle)
          exact absurd (htimes _ ht) (not_lt.mpr hat)
        have hstarts : starts timer.duration (.event e :: past) = starts timer.duration past :=
          if_pos ⟨a, ha, hbefore a ha, he⟩
        have hstep : timer.run (.event e :: past) = some (a + timer.duration) := by
          simp [run, step, hrun, hr]
        refine ⟨?_, fun d hd => ?_, fun hnone => ?_, fun a ha => ?_⟩
        · rw [hstarts, ← hfired]
          exact if_neg (by simp [hrun])
        · rw [hstep] at hd
          obtain rfl := Option.some.inj hd
          rw [hstarts]
          exact ⟨⟨a, hhead, rfl⟩, hall, List.forall_mem_cons.mpr ⟨he, htimes⟩⟩
        · rw [hstep] at hnone
          cases hnone
        · rw [hstarts] at ha
          exact List.mem_cons_of_mem _ (holder a ha)
      | none =>
        have hstarts : starts timer.duration (.event e :: past) =
            e :: starts timer.duration past := by
          refine if_neg fun ⟨a, ha, _, he⟩ => ?_
          obtain ⟨t, ht, hat⟩ := hover hrun a ha
          exact absurd (he.trans_le (hat.trans (hx _ ht))) (lt_irrefl e)
        have hstep : timer.run (.event e :: past) = some (e + timer.duration) := by
          simp [run, step, hrun, start, hd.ne']
        refine ⟨?_, fun d hd' => ?_, fun hnone => ?_, fun a ha => ?_⟩
        · rw [hstarts, ← hfired]
          exact if_pos hrun
        · rw [hstep] at hd'
          obtain rfl := Option.some.inj hd'
          rw [hstarts]
          refine ⟨⟨e, rfl, rfl⟩, fun a ha => ?_, fun y hy => ?_⟩
          · gcongr
            rcases List.mem_cons.mp ha with rfl | ha
            · exact le_rfl
            · exact hbefore a ha
          · refine lt_of_le_of_lt ?_ (lt_add_of_pos_right e hd)
            rcases List.mem_cons.mp hy with rfl | hy
            · exact le_rfl
            · exact hx y hy
        · rw [hstep] at hnone
          cases hnone
        · rw [hstarts] at ha
          rcases List.mem_cons.mp ha with rfl | ha
          · exact List.mem_cons_self ..
          · exact List.mem_cons_of_mem _ (holder a ha)

/-- A swept throttle starts the intervals that it should, and runs exactly in the latest. -/
theorem throttle_spec [IsOrderedAddMonoid τ] (hr : timer.retriggerable = false)
    (hd : 0 < timer.duration) (h : Ordered (x :: past))
    (hs : Swept timer.duration (x :: past)) :
    timer.fired (x :: past) = starts timer.duration (x :: past) ∧
      ((timer.run (x :: past)).isSome ↔
        ∃ a, (starts timer.duration (x :: past)).head? = some a ∧
          a ≤ x.time ∧ x.time < a + timer.duration) := by
  obtain ⟨hfired, hrunning, hover, holder⟩ := throttled hr hd h hs
  have hnewest : ∀ y ∈ x :: past, y.time ≤ x.time :=
    List.forall_mem_cons.mpr ⟨le_rfl, h.1⟩
  refine ⟨hfired, ?_⟩
  cases hrun : timer.run (x :: past) with
  | some d =>
    obtain ⟨⟨a, hhead, rfl⟩, _, htimes⟩ := hrunning d hrun
    have ha := holder a (List.mem_of_mem_head? hhead)
    exact ⟨fun _ => ⟨a, hhead, hnewest _ ha, htimes x (List.mem_cons_self ..)⟩, fun _ => rfl⟩
  | none =>
    refine ⟨fun hsome => (nomatch hsome), fun ⟨a, hhead, _, hlt⟩ => ?_⟩
    obtain ⟨t, ht, hat⟩ := hover hrun a (List.mem_of_mem_head? hhead)
    exact absurd (hlt.trans_le (hat.trans (hnewest _ ht))) (lt_irrefl x.time)

end throttles

end Timer

end programs
