-- Resources with names in a history: when a resource is only acquired while
-- none is live, and only the live one is released, then at most one is live
-- at any time, and each name is released at most once.
import InputProxy.Program
import Mathlib.Data.List.Count

namespace programs

/-- Which entries of a history acquire and release a resource, and its name. -/
structure Resource (α : Type) where
  acquires : α → Option Nat
  releases : α → Option Nat

namespace Resource

variable {α : Type} (R : Resource α)

/-- The names that are live after a history, newest entry first. -/
def live : List α → List Nat
  | [] => []
  | a :: past =>
    match R.acquires a, R.releases a with
    | some id, _ => id :: live past
    | none, some id => (live past).erase id
    | none, none => live past

def acquired (id : Nat) (h : List α) : Nat := h.countP fun a => R.acquires a == some id

def released (id : Nat) (h : List α) : Nat := h.countP fun a => R.releases a == some id

/-- An entry acquires a new name while none is live, or releases the live one. -/
structure Disciplined (a : α) (past : List α) : Prop where
  acquire : ∀ id, R.acquires a = some id →
    R.live past = [] ∧ R.acquired id past = 0 ∧ R.releases a = none
  release : ∀ id, R.releases a = some id → R.live past = [id]

/-- An entry that has nothing to do with the resource. -/
structure Neutral (a : α) : Prop where
  acquires : R.acquires a = none
  releases : R.releases a = none

variable {R} {a : α} {h past : List α}

theorem Neutral.disciplined (hn : R.Neutral a) : R.Disciplined a past := by
  constructor
  · intro id ha
    rw [hn.acquires] at ha
    cases ha
  · intro id ha
    rw [hn.releases] at ha
    cases ha

theorem Neutral.live (hn : R.Neutral a) : R.live (a :: past) = R.live past := by
  simp [Resource.live, hn.acquires, hn.releases]

theorem live_append {new : List α} (hn : ∀ a ∈ new, R.Neutral a) :
    R.live (new ++ past) = R.live past := by
  induction new with
  | nil => rfl
  | cons a new ih =>
    obtain ⟨ha, hall⟩ := List.forall_mem_cons.mp hn
    rw [List.cons_append, ha.live]
    exact ih hall

theorem live_acquire {id : Nat} (ha : R.acquires a = some id) :
    R.live (a :: past) = id :: R.live past := by
  simp [Resource.live, ha]

theorem live_release {id : Nat} (ha : R.acquires a = none) (hr : R.releases a = some id) :
    R.live (a :: past) = (R.live past).erase id := by
  simp [Resource.live, ha, hr]

theorem acquired_cons (id : Nat) :
    R.acquired id (a :: past) = R.acquired id past + if R.acquires a = some id then 1 else 0 := by
  simp [acquired, List.countP_cons]

theorem released_cons (id : Nat) :
    R.released id (a :: past) = R.released id past + if R.releases a = some id then 1 else 0 := by
  simp [released, List.countP_cons]

/-- An entry either acquires, or releases, or is neutral. -/
theorem Disciplined.kind (hd : R.Disciplined a past) :
    (∃ id, R.acquires a = some id ∧ R.releases a = none) ∨
      (∃ id, R.acquires a = none ∧ R.releases a = some id) ∨ R.Neutral a := by
  rcases ha : R.acquires a with _ | id
  · rcases hr : R.releases a with _ | id
    · exact .inr (.inr ⟨ha, hr⟩)
    · exact .inr (.inl ⟨id, rfl, rfl⟩)
  · exact .inl ⟨id, rfl, (hd.acquire id ha).2.2⟩

/-- At most one resource is live. -/
theorem live_le_one (hh : Always R.Disciplined h) : (R.live h).length ≤ 1 := by
  induction h with
  | nil => simp [Resource.live]
  | cons a past ih =>
    obtain ⟨hd, hpast⟩ := hh
    rcases hd.kind with ⟨id, ha, _⟩ | ⟨id, ha, hr⟩ | hn
    · rw [live_acquire ha, (hd.acquire id ha).1]
      simp
    · rw [live_release ha hr, hd.release id hr]
      simp
    · rw [hn.live]
      exact ih hpast

/-- A name is acquired at most once, and released as often, unless it is live. -/
theorem acquired_eq (hh : Always R.Disciplined h) (id : Nat) :
    R.acquired id h ≤ 1 ∧ R.acquired id h = R.released id h + (R.live h).count id := by
  induction h with
  | nil => simp [acquired, released, Resource.live]
  | cons a past ih =>
    obtain ⟨hd, hpast⟩ := hh
    have hih := ih hpast
    rw [acquired_cons, released_cons]
    rcases hd.kind with ⟨id', ha, hr⟩ | ⟨id', ha, hr⟩ | hn
    · obtain ⟨hlive, hnew, _⟩ := hd.acquire id' ha
      rw [live_acquire ha, ha, hr, hlive]
      rw [hlive] at hih
      by_cases he : id' = id
      · subst he
        simp_all
      · simp_all
    · have hlive := hd.release id' hr
      rw [live_release ha hr, ha, hr, hlive]
      rw [hlive] at hih
      by_cases he : id' = id
      · subst he
        simp_all
      · simp_all
    · rw [hn.live, hn.acquires, hn.releases]
      simpa using hih

end Resource

end programs
