-- The two `write_all` loops (src/installed_instance.c, src/installation_application.c)
-- on any results of `write`: that of a rule gives up where nothing is taken, that of
-- the store goes round again, and ends only where the results let it.
import InputProxy.Installation
import InputProxy.StoreHistories
import Mathlib.Algebra.BigOperators.Intervals

open c_strings processes

namespace input_proxy

/-! ## Both loops -/

/-- What a loop reports, if it comes to an end, and the bytes that `write` takes on the way, when
its results come in this order. The loops differ in what they do where nothing is taken. -/
def write_turns (gives_up : Bool) : Nat → (Nat → Choice) → Bytes → Option Bool × Bytes
  | 0, _, _ => (none, [])
  | fuel + 1, results, content =>
    if content = [] then (some true, [])
    else
      match (results 0).fault with
      | some .EINTR => write_turns gives_up fuel (fun k => results (k + 1)) content
      | some _ => (some false, [])
      | none =>
        let written := min (results 0).taken content.length
        if gives_up ∧ written = 0 then (some false, [])
        else
          let later :=
            write_turns gives_up fuel (fun k => results (k + 1)) (content.drop written)
          (later.1, content.take written ++ later.2)

section machine

variable (m : Machine) (id : Nat) (bytes bytes' : Bytes)

theorem Machine.append_nil : m.append id [] = m := by
  unfold Machine.append disks.Disk.append
  rw [List.append_nil, Function.update_eq_self]

theorem Machine.append_append :
    (m.append id bytes).append id bytes' = m.append id (bytes ++ bytes') := by
  unfold Machine.append disks.Disk.append
  simp

end machine

section turns

variable {gives_up : Bool} {pid fuel descriptor : Nat} {content accepted : Bytes}
  {results : Nat → Choice} {success : Bool} {m : Machine}

theorem run_write {α : Type} {f : Except Errno Nat → Proc α} :
    Process.run (answer pid) (write descriptor content >>= f) (fun k _ => some (results k)) m =
    match (results 0).fault with
    | some errno =>
      Process.run (answer pid) (f (.error errno)) (fun k _ => some (results (k + 1))) m
    | none =>
      let written := min (results 0).taken content.length
      Process.run (answer pid) (f (.ok written)) (fun k _ => some (results (k + 1)))
        (m.append descriptor (content.take written)) := by
  have hrun : Process.run (answer pid) (write descriptor content >>= f)
      (fun k _ => some (results k)) m =
      Process.run (answer pid) (f (answer pid (results 0) (.write descriptor content) m).1)
        (fun k _ => some (results (k + 1)))
        (answer pid (results 0) (.write descriptor content) m).2 :=
    Process.run_ask_bind rfl
  rw [hrun]
  unfold answer
  cases (results 0).fault <;> rfl

/-- A loop whose turn does this with the result of its `write`. -/
theorem run_write_loop {turn : Bytes → Except Errno Nat → Proc (Bytes ⊕ Bool)}
    (hinterrupted : ∀ content, turn content (.error .EINTR) = pure (.inl content))
    (hfailed : ∀ content errno, errno ≠ .EINTR → turn content (.error errno) = pure (.inr false))
    (hwritten : ∀ content written, turn content (.ok written) =
      pure (if gives_up ∧ written = 0 then .inr false else .inl (content.drop written))) :
    Process.run (answer pid) (.loop (fun content =>
        if content = [] then pure (.inr true) else write descriptor content >>= turn content)
      fuel content) (fun k _ => some (results k)) m =
    ((write_turns gives_up fuel results content).1,
      m.append descriptor (write_turns gives_up fuel results content).2) := by
  induction fuel generalizing results content m with
  | zero => exact congrArg (Prod.mk none) (m.append_nil _).symm
  | succ fuel ih =>
    unfold write_turns
    by_cases hdone : content = []
    · subst hdone
      exact congrArg (Prod.mk (some true)) (m.append_nil _).symm
    rw [if_neg hdone]
    unfold Process.loop
    rw [if_neg hdone, Process.bind_bind, run_write]
    cases (results 0).fault with
    | some errno =>
      by_cases heintr : errno = .EINTR
      · subst heintr
        dsimp only
        rw [hinterrupted]
        exact ih
      · dsimp only
        rw [hfailed _ _ heintr]
        cases errno with
        | EINTR => exact absurd rfl heintr
        | _ => exact congrArg (Prod.mk (some false)) (m.append_nil _).symm
    | none =>
      dsimp only
      rw [hwritten]
      split
      · rename_i hnothing
        rw [hnothing.2]
        rfl
      · refine Eq.trans ih ?_
        rw [Machine.append_append]

theorem run_store_write_all : Process.run (answer pid) (store_write_all fuel descriptor content)
      (fun k _ => some (results k)) m =
    ((write_turns false fuel results content).1,
      m.append descriptor (write_turns false fuel results content).2) := by
  refine run_write_loop (fun _ => rfl) (fun _ errno hfailed => ?_) fun _ written => ?_
  · cases errno with
    | EINTR => exact absurd rfl hfailed
    | _ => rfl
  · rw [if_neg (by simp)]

theorem run_rule_write_all : Process.run (answer pid) (rule_write_all fuel descriptor content)
      (fun k _ => some (results k)) m =
    ((write_turns true fuel results content).1,
      m.append descriptor (write_turns true fuel results content).2) := by
  refine run_write_loop (fun _ => rfl) (fun _ errno hfailed => ?_) fun _ written => ?_
  · cases errno with
    | EINTR => exact absurd rfl hfailed
    | _ => rfl
  · cases written <;> rfl

theorem append_eq_iff (written : Nat) (later : Bytes) :
    content.take written ++ later = content ↔ later = content.drop written := by
  have hall : content.take written ++ content.drop written = content :=
    List.take_append_drop written content
  constructor
  · exact fun h => List.append_cancel_left (h.trans hall.symm)
  · rintro rfl
    exact hall

/-- A loop reports a success exactly if all bytes were taken. -/
theorem success_iff_accepted
    (h : write_turns gives_up fuel results content = (some success, accepted)) :
    success = true ↔ accepted = content := by
  induction fuel generalizing results content accepted with
  | zero => cases h
  | succ fuel ih =>
    unfold write_turns at h
    split at h
    · rename_i hdone
      cases h
      simp [hdone]
    rename_i hleft
    have hnone : false = true ↔ [] = content := by
      simp only [Bool.false_eq_true, false_iff]
      exact fun hempty => hleft hempty.symm
    split at h
    · exact ih h
    · cases h
      exact hnone
    · dsimp only at h
      split at h
      · cases h
        exact hnone
      · obtain ⟨hlater, rfl⟩ := Prod.mk.inj h
        exact (ih (Prod.ext hlater rfl)).trans (append_eq_iff _ _).symm

/-- More turns change nothing. -/
theorem write_turns_succ
    (h : write_turns gives_up fuel results content = (some success, accepted)) :
    write_turns gives_up (fuel + 1) results content = (some success, accepted) := by
  induction fuel generalizing results content accepted with
  | zero => cases h
  | succ fuel ih =>
    unfold write_turns at h ⊢
    split at h
    · rename_i hdone
      rw [if_pos hdone]
      exact h
    rename_i hleft
    rw [if_neg hleft]
    split at h
    · exact ih h
    · exact h
    · dsimp only at h ⊢
      split at h
      · rename_i hnothing
        rw [if_pos hnothing]
        exact h
      · rename_i hgoes
        rw [if_neg hgoes]
        obtain ⟨hlater, rfl⟩ := Prod.mk.inj h
        rw [ih (Prod.ext hlater rfl)]

theorem write_turns_le {fuel' : Nat} (hfuel : fuel ≤ fuel')
    (h : write_turns gives_up fuel results content = (some success, accepted)) :
    write_turns gives_up fuel' results content = (some success, accepted) := by
  induction hfuel with
  | refl => exact h
  | step _ ih => exact write_turns_succ ih

end turns

/-! ## Where a loop ends -/

/-- The bytes that a `write` takes, where it is given enough. -/
def Choice.count (choice : Choice) : Nat := if choice.fault = none then choice.taken else 0

/-- One of the first results is an error other than `EINTR`, or they take all bytes. -/
def Decides (results : Nat → Choice) (content : Bytes) (n : Nat) : Prop :=
  (∃ k < n, ∃ errno, (results k).fault = some errno ∧ errno ≠ .EINTR) ∨
    content.length ≤ ∑ k ∈ Finset.range n, (results k).count

section ends

variable {n fuel : Nat} {content accepted : Bytes} {results : Nat → Choice} {success : Bool}

/-- The first result, and the others. -/
theorem decides_succ : Decides results content (n + 1) ↔
    match (results 0).fault with
    | some .EINTR => Decides (fun k => results (k + 1)) content n
    | some _ => True
    | none => Decides (fun k => results (k + 1))
        (content.drop (min (results 0).taken content.length)) n := by
  unfold Decides
  have herror : (∃ k < n + 1, ∃ errno, (results k).fault = some errno ∧ errno ≠ .EINTR) ↔
      (∃ errno, (results 0).fault = some errno ∧ errno ≠ .EINTR) ∨
        ∃ k < n, ∃ errno, (results (k + 1)).fault = some errno ∧ errno ≠ .EINTR := by
    constructor
    · rintro ⟨_ | k, hk, h⟩
      · exact .inl h
      · exact .inr ⟨k, by omega, h⟩
    · rintro (h | ⟨k, hk, h⟩)
      · exact ⟨0, by omega, h⟩
      · exact ⟨k + 1, by omega, h⟩
  rw [herror, Finset.sum_range_succ', Choice.count]
  cases hfault : (results 0).fault with
  | none =>
    have hlength : (content.drop (min (results 0).taken content.length)).length =
        content.length - (results 0).taken := by
      rw [List.length_drop]
      omega
    simp [hlength]
  | some errno => cases errno <;> simp

theorem decides_of_write_turns
    (h : write_turns false fuel results content = (some success, accepted)) :
    Decides results content fuel := by
  induction fuel generalizing results content accepted with
  | zero => cases h
  | succ fuel ih =>
    unfold write_turns at h
    split at h
    · rename_i hdone
      exact .inr (by simp [hdone])
    rw [decides_succ]
    split at h
    · exact ih h
    · trivial
    · dsimp only at h
      rw [if_neg (by simp)] at h
      exact ih (Prod.ext (Prod.mk.inj h).1 rfl)

theorem write_turns_of_decides (h : Decides results content n) : ∃ success accepted,
    write_turns false (n + 1) results content = (some success, accepted) := by
  induction n generalizing results content with
  | zero =>
    have hempty : content = [] := by simpa [Decides] using h
    exact ⟨true, [], if_pos hempty⟩
  | succ n ih =>
    unfold write_turns
    split
    · exact ⟨true, [], rfl⟩
    rw [decides_succ] at h
    split at h
    · exact ih h
    · exact ⟨false, [], rfl⟩
    · obtain ⟨success, accepted, hlater⟩ := ih h
      dsimp only
      rw [if_neg (by simp), hlater]
      exact ⟨success, _, rfl⟩

/-- The loop of a rule ends: after the last `EINTR`, each turn takes a byte or is the last. -/
theorem rule_ends (h : ∀ k ≥ n, (results k).fault ≠ some .EINTR) : ∃ success accepted,
    write_turns true (n + content.length + 1) results content = (some success, accepted) := by
  induction hleft : n + content.length using Nat.strong_induction_on
    generalizing n results content with
  | _ left ih =>
    have hshift : ∀ k ≥ n - 1, (results (k + 1)).fault ≠ some .EINTR :=
      fun k hk => h (k + 1) (by omega)
    unfold write_turns
    split
    · exact ⟨true, [], rfl⟩
    rename_i hcontent
    have hpos : 0 < content.length := List.length_pos_iff.mpr hcontent
    split
    · rename_i heintr
      have hn : 0 < n := Nat.pos_of_ne_zero fun hzero => h 0 (by omega) heintr
      obtain ⟨success, accepted, hlater⟩ := ih (n - 1 + content.length) (by omega) hshift rfl
      exact ⟨success, accepted, write_turns_le (by omega) hlater⟩
    · exact ⟨false, [], rfl⟩
    · dsimp only
      split
      · exact ⟨false, [], rfl⟩
      · rename_i hgoes
        have hwritten : min (results 0).taken content.length ≠ 0 := fun hzero => hgoes ⟨rfl, hzero⟩
        have hless : (content.drop (min (results 0).taken content.length)).length <
            content.length := by
          rw [List.length_drop]
          omega
        obtain ⟨success, accepted, hlater⟩ :=
          ih (n - 1 + (content.drop (min (results 0).taken content.length)).length) (by omega)
            hshift rfl
        have hmore := @write_turns_le _ _ _ _ _ _ left (by omega) hlater
        rw [hmore]
        exact ⟨success, _, rfl⟩

end ends

/-! ## Termination and completeness -/

/-- With enough turns the loop ends, always in the same way, and reports a success exactly if the
file has become longer by the content. -/
def WritesAll (write_all : Nat → Nat → Bytes → Proc Bool) (pid descriptor : Nat) (content : Bytes)
    (results : Nat → Choice) (m : Machine) : Prop :=
  ∃ (fuel : Nat) (success : Bool) (m' : Machine),
    (∀ fuel' ≥ fuel, Process.run (answer pid) (write_all fuel' descriptor content)
      (fun k _ => some (results k)) m = (some success, m')) ∧
    (success = true ↔ (m'.disk.files descriptor).content =
      (m.disk.files descriptor).content ++ content)

section complete

variable {write_all : Nat → Nat → Bytes → Proc Bool} {gives_up : Bool} {pid descriptor : Nat}
  {content : Bytes} {results : Nat → Choice} {m : Machine}

/-- A loop that ends is right. -/
theorem complete_iff_ends (hrun : ∀ fuel,
    Process.run (answer pid) (write_all fuel descriptor content) (fun k _ => some (results k)) m =
      ((write_turns gives_up fuel results content).1,
        m.append descriptor (write_turns gives_up fuel results content).2)) :
    WritesAll write_all pid descriptor content results m ↔ ∃ fuel success accepted,
      write_turns gives_up fuel results content = (some success, accepted) := by
  constructor
  · rintro ⟨fuel, success, m', hends, -⟩
    have hresult := congrArg Prod.fst ((hrun fuel).symm.trans (hends fuel (Nat.le_refl fuel)))
    exact ⟨fuel, success, _, Prod.ext hresult rfl⟩
  · rintro ⟨fuel, success, accepted, hends⟩
    refine ⟨fuel, success, m.append descriptor accepted, fun fuel' hfuel => ?_, ?_⟩
    · rw [hrun, write_turns_le hfuel hends]
    · have hfile : ((m.append descriptor accepted).disk.files descriptor).content =
          (m.disk.files descriptor).content ++ accepted :=
        congrArg disks.File.content disks.Disk.files_append_self
      rw [hfile, List.append_right_inj]
      exact success_iff_accepted hends

theorem store_complete_iff : WritesAll store_write_all pid descriptor content results m ↔
    ∃ n, Decides results content n := by
  rw [complete_iff_ends fun _ => run_store_write_all]
  constructor
  · rintro ⟨fuel, success, accepted, hends⟩
    exact ⟨fuel, decides_of_write_turns hends⟩
  · rintro ⟨n, hdecides⟩
    exact ⟨n + 1, write_turns_of_decides hdecides⟩

end complete

/-- Where `EINTR` comes only finitely often, the loop of a rule ends and is right, and that of the
store is exactly if its results come to an error or take all bytes. -/
theorem both_writers_are_complete_iff_the_results_decide (pid descriptor : Nat) (content : Bytes)
    (results : Nat → Choice) (m : Machine)
    (hfinite : {k | (results k).fault = some .EINTR}.Finite) :
    (WritesAll rule_write_all pid descriptor content results m ∧
        WritesAll store_write_all pid descriptor content results m ↔
      ∃ n, Decides results content n) ∧
    WritesAll rule_write_all pid descriptor content results m := by
  obtain ⟨last, hlast⟩ := hfinite.bddAbove
  have hrest : ∀ k ≥ last + 1, (results k).fault ≠ some .EINTR := by
    intro k hk heintr
    have hle : k ≤ last := hlast heintr
    omega
  have hrule : WritesAll rule_write_all pid descriptor content results m :=
    (complete_iff_ends fun _ => run_rule_write_all).mpr ⟨_, rule_ends hrest⟩
  exact ⟨(and_iff_right hrule).trans store_complete_iff, hrule⟩

/-- A file that is written byte by byte, after an `EINTR`. -/
theorem both_writers_get_through_short_counts :
    let results : Nat → Choice := fun k =>
      { calm with fault := if k = 0 then some .EINTR else none, taken := 1 }
    let m := empty_machine.create (cstr "/run/a") 0
    (WritesAll rule_write_all 0 0 (ascii "ab") results m ∧
        WritesAll store_write_all 0 0 (ascii "ab") results m ↔
      ∃ n, Decides results (ascii "ab") n) ∧
    WritesAll rule_write_all 0 0 (ascii "ab") results m :=
  both_writers_are_complete_iff_the_results_decide 0 0 (ascii "ab") _ _ <|
    (Set.finite_singleton 0).subset fun k hk => by
      by_contra hne
      have hnone : (if k = 0 then some Errno.EINTR else none) = none := if_neg hne
      have hsome : (if k = 0 then some Errno.EINTR else none) = some Errno.EINTR := hk
      rw [hnone] at hsome
      cases hsome

/-- One byte, and a `write` that never takes it: the loop of the store has no end. -/
theorem the_store_does_not_end_where_nothing_is_taken :
    let results : Nat → Choice := fun _ => { calm with taken := 0 }
    let m := empty_machine.create (cstr "/run/a") 0
    {k | (results k).fault = some .EINTR} = ∅ ∧
      (∀ fuel, (Process.run (answer 0) (store_write_all fuel 0 [1])
        (fun k _ => some (results k)) m).1 = none) ∧
      ¬WritesAll store_write_all 0 0 [1] results m := by
  intro results m
  have hnothing : ¬∃ n, Decides results [1] n := by
    rintro ⟨n, ⟨k, -, errno, hfault, -⟩ | hlength⟩
    · cases hfault
    · have hcount : ∑ k ∈ Finset.range n, (results k).count = 0 :=
        Finset.sum_eq_zero fun _ _ => rfl
      rw [hcount] at hlength
      exact absurd hlength (by decide)
  refine ⟨Set.eq_empty_of_forall_notMem nofun, fun fuel => ?_, store_complete_iff.not.mpr hnothing⟩
  rw [run_store_write_all]
  cases hends : (write_turns false fuel results [1]).1 with
  | none => rfl
  | some success => exact absurd ⟨fuel, decides_of_write_turns (Prod.ext hends rfl)⟩ hnothing

end input_proxy
