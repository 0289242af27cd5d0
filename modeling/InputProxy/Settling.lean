-- Attempts that are denied for a while: when an attempt comes after the
-- settling window of some earlier denial, and when every attempt of such a
-- window was denied. The lists have the newest attempt first.
import Mathlib.Order.Monotone.Defs
import Mathlib.Data.List.Basic

namespace programs

/-- An attempt: denied at some time, or met with something else. -/
inductive Attempt (T : Type)
  | other
  | denied (time : T)
deriving DecidableEq

section attempts

variable {T : Type}

/-- The time of a denial. -/
def Attempt.time : Attempt T → Option T
  | .other => none
  | .denied time => some time

/-- The time of the newest attempt, if it was denied. -/
def latest (l : List (Attempt T)) : Option T := l.head?.bind Attempt.time

/-- The times of all denials. -/
def denials (l : List (Attempt T)) : List T := l.filterMap Attempt.time

/-- The times of the denials that nothing else interrupts up to the newest attempt. -/
def unbroken : List (Attempt T) → List T
  | .denied time :: l => time :: unbroken l
  | _ => []

@[simp] theorem denials_denied {time : T} {l : List (Attempt T)} :
    denials (.denied time :: l) = time :: denials l := rfl

@[simp] theorem denials_other {l : List (Attempt T)} : denials (.other :: l) = denials l := rfl

theorem unbroken_subset (l : List (Attempt T)) : ∀ time ∈ unbroken l, time ∈ denials l := by
  induction l with
  | nil => simp [unbroken]
  | cons a l ih =>
    cases a with
    | other => simp [unbroken]
    | denied time =>
      intro t ht
      rcases List.mem_cons.mp ht with rfl | ht
      · exact List.mem_cons_self ..
      · exact List.mem_cons_of_mem time (ih t ht)

variable [LE T] (window : T → T)

/-- The newest attempt is a denial, and the window of some denial has passed by then. -/
def Overdue (l : List (Attempt T)) : Prop :=
  ∃ now ∈ latest l, ∃ time ∈ denials l, window time ≤ now

/-- The same for a denial since which every attempt was denied. -/
def Persistent (l : List (Attempt T)) : Prop :=
  ∃ now ∈ latest l, ∃ time ∈ unbroken l, window time ≤ now

instance [DecidableLE T] (l : List (Attempt T)) : Decidable (Overdue window l) :=
  inferInstanceAs (Decidable (∃ now ∈ latest l, ∃ time ∈ denials l, window time ≤ now))

instance [DecidableLE T] (l : List (Attempt T)) : Decidable (Persistent window l) :=
  inferInstanceAs (Decidable (∃ now ∈ latest l, ∃ time ∈ unbroken l, window time ≤ now))

variable {window}

theorem Persistent.overdue {l : List (Attempt T)} (h : Persistent window l) :
    Overdue window l := by
  obtain ⟨now, hnow, time, htime, hle⟩ := h
  exact ⟨now, hnow, time, unbroken_subset l time htime, hle⟩

theorem not_overdue_nil : ¬ Overdue window ([] : List (Attempt T)) := by
  simp [Overdue, latest]

theorem not_overdue_other {l : List (Attempt T)} : ¬ Overdue window (.other :: l) := by
  simp [Overdue, latest, Attempt.time]

end attempts

/-- In time order the first denial decides. -/
theorem overdue_iff_first {T : Type} [Preorder T] {window : T → T} (hwindow : Monotone window)
    {now first : T} {l : List (Attempt T)}
    (hfirst : (denials (.denied now :: l)).getLast? = some first)
    (horder : (denials (.denied now :: l)).Pairwise fun newer older => older ≤ newer) :
    Overdue window (.denied now :: l) ↔ window first ≤ now := by
  constructor
  · rintro ⟨now', hnow', time, htime, hle⟩
    obtain rfl : now = now' := by simpa [latest, Attempt.time] using hnow'
    have hle' : first ≤ time := by
      obtain ⟨init, hinit⟩ := List.getLast?_eq_some_iff.mp hfirst
      rw [hinit] at horder htime
      rcases List.mem_append.mp htime with htime | htime
      · exact (List.pairwise_append.mp horder).2.2 time htime first (List.mem_singleton_self _)
      · rw [List.mem_singleton.mp htime]
    exact (hwindow hle').trans hle
  · intro hle
    exact ⟨now, by simp [latest, Attempt.time], first, List.mem_of_getLast? hfirst, hle⟩

end programs
