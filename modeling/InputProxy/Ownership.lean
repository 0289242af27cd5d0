-- Processes that own resources of a system. What a process owns can be read off the calls
-- that it has left, so in every system of such processes, in whatever order their calls
-- come, a resource stays with its owner until that gives it up or is gone.
import InputProxy.Systems
import Mathlib.Data.Set.Basic

namespace processes

variable {Pid Call Choice σ α β Resource : Type} {Reply : Call → Type}

/-- The resource that a call takes, by its answer, and the one that it gives up. -/
structure Effects {Call : Type} (Reply : Call → Type) (Resource : Type) where
  takes : (c : Call) → Reply c → Option Resource
  gives : Call → Option Resource

namespace Effects

variable (effects : Effects Reply Resource)

/-- What is owned after a call. -/
def after (owned : Set Resource) (c : Call) (r : Reply c) : Set Resource :=
  {resource | (resource ∈ owned ∧ effects.gives c ≠ some resource) ∨
    effects.takes c r = some resource}

/-- A call that takes nothing and gives nothing up. -/
def Neutral (c : Call) : Prop := effects.gives c = none ∧ ∀ r, effects.takes c r = none

variable {effects} {c : Call}

theorem Neutral.after (h : effects.Neutral c) (owned : Set Resource) (r : Reply c) :
    effects.after owned c r = owned := by
  ext resource
  simp [Effects.after, h.1, h.2 r]

end Effects

namespace Process

/-- From what is owned at first, the process gives up only what it owns, and ends with a result
and what it owns then as `Q` says. -/
def Owns (effects : Effects Reply Resource) :
    Process Reply α → Set Resource → (α → Set Resource → Prop) → Prop
  | .done a, owned, Q => Q a owned
  | .cut, _, _ => True
  | .call c next, owned, Q => (∀ resource, effects.gives c = some resource → resource ∈ owned) ∧
      ∀ r, Owns effects (next r) (effects.after owned c r) Q

section rules

variable {effects : Effects Reply Resource} {m : Process Reply α} {f : α → Process Reply β}
  {owned : Set Resource} {Q Q' : α → Set Resource → Prop}

@[simp] theorem owns_pure (a : α) : Owns effects (pure a) owned Q ↔ Q a owned := Iff.rfl

theorem owns_bind {R : β → Set Resource → Prop}
    (h : Owns effects m owned fun a owned => Owns effects (f a) owned R) :
    Owns effects (m >>= f) owned R := by
  change Owns effects (m.bind f) owned R
  induction m generalizing owned with
  | done a => exact h
  | cut => trivial
  | call c next ih => exact ⟨h.1, fun r => ih r (h.2 r)⟩

theorem owns_mono (h : Owns effects m owned Q) (hQ : ∀ a owned, Q a owned → Q' a owned) :
    Owns effects m owned Q' := by
  induction m generalizing owned with
  | done a => exact hQ a owned h
  | cut => trivial
  | call c next ih => exact ⟨h.1, fun r => ih r (h.2 r)⟩

theorem owns_ask {c : Call} {Q : Reply c → Set Resource → Prop}
    (hgives : ∀ resource, effects.gives c = some resource → resource ∈ owned)
    (h : ∀ r, Q r (effects.after owned c r)) : Owns effects (ask c) owned Q :=
  ⟨hgives, h⟩

/-- A step that goes on where a call succeeded. -/
theorem owns_unless {b : Bool} {m' : Process Reply α} (hfail : Owns effects m owned Q)
    (hok : Owns effects m' owned Q) : Owns effects (if !b then m else m') owned Q := by
  split
  · exact hfail
  · exact hok

/-- Neutral calls leave what is owned as it is. -/
theorem owns_of_makes (hm : m.Makes effects.Neutral) :
    Owns effects m owned fun _ owned' => owned' = owned := by
  induction m with
  | done a => rfl
  | cut => trivial
  | call c next ih =>
    refine ⟨fun resource hgives => ?_, fun r => ?_⟩
    · rw [hm.1.1] at hgives
      cases hgives
    · rw [hm.1.after]
      exact ih r (hm.2 r)

/-- A step of neutral calls. -/
theorem owns_bind_neutral {R : β → Set Resource → Prop} (hm : m.Makes effects.Neutral)
    (h : ∀ a, Owns effects (f a) owned R) : Owns effects (m >>= f) owned R := by
  apply owns_bind
  apply owns_mono (owns_of_makes hm)
  rintro a _ rfl
  exact h a

/-- Two ways to a step, of neutral calls. -/
theorem owns_ite_bind {R : β → Set Resource → Prop} {b : Prop} [Decidable b] {m' : Process Reply α}
    (hm : m.Makes effects.Neutral) (hm' : m'.Makes effects.Neutral)
    (h : ∀ a, Owns effects (f a) owned R) :
    Owns effects (if b then m >>= f else m' >>= f) owned R := by
  split
  · exact owns_bind_neutral hm h
  · exact owns_bind_neutral hm' h

end rules

end Process

/-! ## Systems -/

namespace System

variable {answer : Pid → Choice → (c : Call) → σ → Reply c × σ} {leave : Pid → σ → σ}
  {effects : Effects Reply Resource} {holder : σ → Resource → Option Pid}

/-- What a process holds. -/
def held (holder : σ → Resource → Option Pid) (pid : Pid) (s : σ) : Set Resource :=
  {resource | holder s resource = some pid}

/-- The holders are those that took the resource, and have neither given it up nor gone. -/
structure Accounts (answer : Pid → Choice → (c : Call) → σ → Reply c × σ) (leave : Pid → σ → σ)
    (effects : Effects Reply Resource) (holder : σ → Resource → Option Pid) : Prop where
  own : ∀ pid choice c s, held holder pid (answer pid choice c s).2 =
    effects.after (held holder pid s) c (answer pid choice c s).1
  others : ∀ pid choice c s pid', pid' ≠ pid →
    (∀ resource, effects.gives c = some resource → resource ∈ held holder pid s) →
    held holder pid' (answer pid choice c s).2 = held holder pid' s
  leave_own : ∀ pid s, held holder pid (leave pid s) = ∅
  leave_others : ∀ pid s pid', pid' ≠ pid → held holder pid' (leave pid s) = held holder pid' s

/-- A process that runs alone holds what it owns, and leaves the holdings of others as they are. -/
theorem wp_of_owns (haccounts : Accounts answer leave effects holder) {pid : Pid}
    {can : Option Choice → Call → σ → Prop} {m : Process Reply α} {Q : α → Set Resource → Prop}
    {s0 s : σ} (h : m.Owns effects (held holder pid s) Q)
    (hothers : ∀ pid', pid' ≠ pid → held holder pid' s = held holder pid' s0) :
    m.wp (answer pid) can (fun s => ∀ pid', pid' ≠ pid → held holder pid' s = held holder pid' s0)
      (fun a s => Q a (held holder pid s) ∧
        ∀ pid', pid' ≠ pid → held holder pid' s = held holder pid' s0) s := by
  induction m generalizing s with
  | done a => exact ⟨h, hothers⟩
  | cut => exact hothers
  | call c next ih =>
    refine ⟨fun _ => hothers, fun choice _ => ih _ ?_ fun pid' hpid => ?_⟩
    · rw [haccounts.own]
      exact h.2 _
    · exact (haccounts.others pid choice c s pid' hpid h.1).trans (hothers pid' hpid)

/-- Each process that is there owns what it holds, and gives all of it up before its end; one that
is gone holds nothing, and one that was never there what it held at first. -/
structure Kept (effects : Effects Reply Resource) (holder : σ → Resource → Option Pid)
    (s0 s : System Pid Reply α σ) : Prop where
  there : ∀ pid p, s.tasks pid = some p →
    Process.Owns effects p (held holder pid s.state) fun _ owned => owned = ∅
  gone : ∀ pid, (s0.tasks pid).isSome → s.tasks pid = none → held holder pid s.state = ∅
  never : ∀ pid, s0.tasks pid = none →
    s.tasks pid = none ∧ held holder pid s.state = held holder pid s0.state

section kept

variable {s0 s : System Pid Reply α σ} {pid : Pid}

theorem Kept.gives (h : Kept effects holder s0 s) {c : Call} {next : Reply c → Process Reply α}
    (htask : s.tasks pid = some (.call c next)) :
    ∀ resource, effects.gives c = some resource → resource ∈ held holder pid s.state :=
  (h.there pid _ htask).1

theorem Kept.ended (h : Kept effects holder s0 s) {a : α} (htask : s.tasks pid = some (.done a)) :
    held holder pid s.state = ∅ :=
  h.there pid _ htask

/-- Once every process has come to its end or is gone, the holders are those of the beginning. -/
theorem Kept.restored (h : Kept effects holder s0 s)
    (hfree : ∀ pid, (s0.tasks pid).isSome → held holder pid s0.state = ∅)
    (hover : ∀ pid p, s.tasks pid = some p → ∃ a, p = .done a) :
    holder s.state = holder s0.state := by
  have hheld : ∀ pid, held holder pid s.state = held holder pid s0.state := by
    intro pid
    cases hfirst : s0.tasks pid with
    | none => exact (h.never pid hfirst).2
    | some p =>
      have hsome : (s0.tasks pid).isSome := Option.isSome_of_eq_some hfirst
      rw [hfree pid hsome]
      cases htask : s.tasks pid with
      | none => exact h.gone pid hsome htask
      | some p' =>
        obtain ⟨a, rfl⟩ := hover pid p' htask
        exact h.ended htask
  funext resource
  apply Option.ext
  intro pid
  exact Set.ext_iff.mp (hheld pid) resource

variable [DecidableEq Pid]

/-- An event is about one process that is there. -/
theorem Kept.update (h : Kept effects holder s0 s) {state : σ} {task : Option (Process Reply α)}
    {trace : List (Sight Pid Reply)} (hthere : (s.tasks pid).isSome)
    (hown : ∀ p, task = some p →
      Process.Owns effects p (held holder pid state) fun _ owned => owned = ∅)
    (hgone : task = none → held holder pid state = ∅)
    (hothers : ∀ pid', pid' ≠ pid → held holder pid' state = held holder pid' s.state) :
    Kept effects holder s0 ⟨state, Function.update s.tasks pid task, trace⟩ := by
  refine ⟨fun pid' p hp => ?_, fun pid' hfirst hnone => ?_, fun pid' hnever => ?_⟩
  · by_cases hpid : pid' = pid
    · subst hpid
      exact hown p ((Function.update_self pid' task s.tasks).symm.trans hp)
    · rw [hothers pid' hpid]
      exact h.there pid' p ((Function.update_of_ne hpid ..).symm.trans hp)
  · by_cases hpid : pid' = pid
    · subst hpid
      exact hgone ((Function.update_self pid' task s.tasks).symm.trans hnone)
    · rw [hothers pid' hpid]
      exact h.gone pid' hfirst ((Function.update_of_ne hpid ..).symm.trans hnone)
  · obtain ⟨hnone, hheld⟩ := h.never pid' hnever
    have hpid : pid' ≠ pid := by
      rintro rfl
      rw [hnone] at hthere
      cases hthere
    exact ⟨(Function.update_of_ne hpid ..).trans hnone, (hothers pid' hpid).trans hheld⟩

theorem Kept.fire (haccounts : Accounts answer leave effects holder)
    (h : Kept effects holder s0 s) (event : Event Pid Choice) :
    Kept effects holder s0 (System.fire answer leave s event) := by
  rcases System.fire_cases answer leave s event with heq |
    ⟨pid, choice, c, next, -, htask, heq⟩ | ⟨pid, -, hthere, heq⟩
  · rwa [heq]
  · rw [heq]
    apply h.update (Option.isSome_of_eq_some htask)
    · rintro p ⟨⟩
      rw [haccounts.own]
      exact (h.there pid _ htask).2 _
    · exact nofun
    · exact fun pid' hpid => haccounts.others pid choice c s.state pid' hpid (h.gives htask)
  · rw [heq]
    apply h.update hthere
    · exact nofun
    · exact fun _ => haccounts.leave_own pid s.state
    · exact fun pid' hpid => haccounts.leave_others pid s.state pid' hpid

/-- What each process keeps to from its first call on, the system keeps to. -/
theorem Kept.run (haccounts : Accounts answer leave effects holder)
    (hfirst : ∀ pid p, s0.tasks pid = some p →
      Process.Owns effects p (held holder pid s0.state) fun _ owned => owned = ∅)
    (events : List (Event Pid Choice)) :
    Kept effects holder s0 (System.run answer leave events s0) := by
  apply System.run_induction answer leave fun s event h => h.fire haccounts event
  refine ⟨hfirst, fun pid hsome hnone => ?_, fun pid hnone => ⟨hnone, rfl⟩⟩
  rw [hnone] at hsome
  cases hsome

/-- What a process holds, it holds through whatever the others do. -/
theorem Kept.held_of_other (haccounts : Accounts answer leave effects holder)
    (h : Kept effects holder s0 s) {event : Event Pid Choice} (hgone : event ≠ .gone pid)
    (hstep : ∀ choice, event ≠ .step pid choice) :
    held holder pid (System.fire answer leave s event).state = held holder pid s.state := by
  rcases System.fire_cases answer leave s event with heq |
    ⟨pid', choice, c, next, rfl, htask, heq⟩ | ⟨pid', rfl, -, heq⟩
  · rw [heq]
  · rw [heq]
    have hpid : pid ≠ pid' := by
      rintro rfl
      exact hstep choice rfl
    exact haccounts.others pid' choice c s.state pid hpid (h.gives htask)
  · rw [heq]
    have hpid : pid ≠ pid' := by
      rintro rfl
      exact hgone rfl
    exact haccounts.leave_others pid' s.state pid hpid

end kept

end System

end processes
