-- The monotonic clock in nanoseconds: a deadline lies its duration after the
-- time it was set at, and has expired from then on.
import InputProxy.ProxySession

open programs

namespace input_proxy

/-- The time in nanoseconds. -/
def Timespec.ns (t : Timespec) : Int := t.tv_sec * 1000000000 + t.tv_nsec

/-- A time as `clock_gettime` gives it. -/
def Timespec.Normal (t : Timespec) : Prop := 0 ≤ t.tv_nsec ∧ t.tv_nsec < 1000000000

instance (t : Timespec) : Decidable t.Normal :=
  inferInstanceAs (Decidable (0 ≤ t.tv_nsec ∧ t.tv_nsec < 1000000000))

/-- A duration in milliseconds, in nanoseconds. -/
def milliseconds (duration_ms : Nat) : Int := duration_ms * 1000000

/-- The clock gives normal times whenever it can be read. -/
def NormalClock (answers : Nat → Answer) : Prop :=
  ∀ k, ∀ now ∈ (answers k).clock, now.Normal

/-- The clock can always be read. -/
def Readable (answers : Nat → Answer) : Prop := ∀ k, (answers k).clock.isSome

theorem deadline_expired_iff_ns {deadline now : Timespec} (hd : deadline.Normal)
    (hn : now.Normal) : deadline_expired deadline now = true ↔ deadline.ns ≤ now.ns := by
  obtain ⟨hd0, hd1⟩ := hd
  obtain ⟨hn0, hn1⟩ := hn
  unfold deadline_expired Timespec.ns
  simp only [Bool.or_eq_true, Bool.and_eq_true, decide_eq_true_eq, beq_iff_eq]
  omega

/-- A deadline lies its duration after the time it was set at, in the nanoseconds that
`uint64_t` can hold. -/
theorem set_deadline_ns {now : Timespec} (duration_ms : Nat) (hn : now.Normal) :
    (set_deadline now duration_ms).Normal ∧
      (set_deadline now duration_ms).ns =
        now.ns + (duration_ms * NANOSECONDS_PER_MILLISECOND % UINT64_VALUES : Nat) := by
  obtain ⟨h0, h1⟩ := hn
  unfold set_deadline
  generalize duration_ms * NANOSECONDS_PER_MILLISECOND % UINT64_VALUES = duration_ns
  unfold Timespec.ns Timespec.Normal
  dsimp only
  split
  · dsimp only
    constructor <;> omega
  · dsimp only
    constructor <;> omega

/-- The product of `set_deadline` does not wrap for these durations. -/
theorem duration_fits {duration_ms : Nat} (h : duration_ms ≤ 4294967295) :
    duration_ms * NANOSECONDS_PER_MILLISECOND % UINT64_VALUES = duration_ms * 1000000 := by
  apply Nat.mod_eq_of_lt
  unfold NANOSECONDS_PER_MILLISECOND UINT64_VALUES
  omega

theorem set_deadline_spec {now : Timespec} {duration_ms : Nat} (hn : now.Normal)
    (h : duration_ms ≤ 4294967295) :
    (set_deadline now duration_ms).Normal ∧
      (set_deadline now duration_ms).ns = now.ns + milliseconds duration_ms := by
  have hns := set_deadline_ns duration_ms hn
  rw [duration_fits h] at hns
  simpa [milliseconds] using hns

/-- A deadline has expired from its duration after the time it was set at. -/
theorem expired_iff {start now : Timespec} {duration_ms : Nat} (hs : start.Normal)
    (hn : now.Normal) (h : duration_ms ≤ 4294967295) :
    deadline_expired (set_deadline start duration_ms) now = true ↔
      start.ns + milliseconds duration_ms ≤ now.ns := by
  obtain ⟨hd, hns⟩ := set_deadline_spec hs h
  rw [deadline_expired_iff_ns hd hn, hns]

/-- A deadline is computed without an overflow, and has expired exactly from its duration on. So a
later one, and one of a longer duration, expires no earlier. -/
theorem the_arithmetic_of_deadlines_is_exact {now t : Timespec} {duration_ms : Nat}
    (hn : now.Normal) (ht : t.Normal) (h : duration_ms ≤ 4294967295) :
    duration_ms * NANOSECONDS_PER_MILLISECOND < UINT64_VALUES ∧
      now.tv_nsec + (duration_ms * NANOSECONDS_PER_MILLISECOND % 1000000000 : Nat) < 2000000000 ∧
      (set_deadline now duration_ms).Normal ∧
      (deadline_expired (set_deadline now duration_ms) t = true ↔
        now.ns + duration_ms * 1000000 ≤ t.ns) ∧
      ∀ now' duration_ms', now'.Normal → now.ns ≤ now'.ns → duration_ms ≤ duration_ms' →
        duration_ms' ≤ 4294967295 →
        deadline_expired (set_deadline now' duration_ms') t = true →
          deadline_expired (set_deadline now duration_ms) t = true := by
  have hiff := expired_iff hn ht h
  refine ⟨?_, ?_, (set_deadline_spec hn h).1, hiff, ?_⟩
  · unfold NANOSECONDS_PER_MILLISECOND UINT64_VALUES
    omega
  · have hnsec := hn.2
    omega
  · intro now' duration_ms' hn' hlater hlonger h' hexpired
    rw [expired_iff hn' ht h'] at hexpired
    rw [hiff]
    unfold milliseconds at hexpired ⊢
    omega

/-- The longest duration, with a carry, at the nanosecond in which it ends. -/
theorem the_longest_deadline_carries :
    deadline_expired (set_deadline ⟨5, 999999999⟩ 4294967295) ⟨4294973, 294999999⟩ = true :=
  (@the_arithmetic_of_deadlines_is_exact ⟨5, 999999999⟩ _ _ (by decide) (by decide)
    (by decide)).2.2.2.1.mpr (by decide)

end input_proxy
