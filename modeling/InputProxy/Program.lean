-- Programs that act on a state, and that can be cut short: a loop gets a
-- number of turns, and a run that needs more of them stops where it is and
-- keeps its state. So the states of all cut runs are the states that an
-- endless run goes through, and a law of every cut run is a safety law.
import Mathlib.Logic.Relation
import Mathlib.Order.Defs.Unbundled

namespace programs

/-- A program on the state `σ`. The result is `none` where the run was cut
short; the state is the one that the run had reached. -/
def Program (σ α : Type) := σ → Option α × σ

variable {σ α β γ ε : Type}

namespace Program

/-- The run stops here. -/
def cut : Program σ α := fun s => (none, s)

instance : Monad (Program σ) where
  pure a := fun s => (some a, s)
  bind m f := fun s =>
    match m s with
    | (some a, s') => f a s'
    | (none, s') => (none, s')

/-- The state, as it is now. -/
def get : Program σ σ := fun s => (some s, s)

/-- A change of the state. -/
def modify (f : σ → σ) : Program σ Unit := fun s => (some (), f s)

/-- A loop with at most `fuel` turns: `.inl` goes round again, `.inr` leaves. -/
def loop (body : β → Program σ (β ⊕ α)) : Nat → β → Program σ α
  | 0, _ => cut
  | fuel + 1, b => do
    match ← body b with
    | .inl b => loop body fuel b
    | .inr a => pure a

/-- A walk over a list that stops at the first error. -/
def walk (body : β → α → Program σ (Except ε β)) : List α → β → Program σ (Except ε β)
  | [], b => pure (.ok b)
  | a :: rest, b => do
    match ← body b a with
    | .ok b => walk body rest b
    | .error e => pure (.error e)

/-! ## What a program may do -/

/-- From `s`, the program ends with a result and a state that `Q` allows, or is
cut short in a state that `I` allows. -/
def wp (I : σ → Prop) (m : Program σ α) (Q : α → σ → Prop) (s : σ) : Prop :=
  match m s with
  | (some a, s') => Q a s'
  | (none, s') => I s'

/-- From every state that `P` allows. -/
def Spec (I P : σ → Prop) (m : Program σ α) (Q : α → σ → Prop) : Prop :=
  ∀ s, P s → wp I m Q s

variable {I J P P' : σ → Prop} {m : Program σ α} {f : α → Program σ β}
  {Q Q' : α → σ → Prop} {R : β → σ → Prop} {s : σ}

@[simp] theorem wp_pure (a : α) : wp I (pure a) Q s ↔ Q a s := Iff.rfl

@[simp] theorem wp_bind : wp I (m >>= f) R s ↔ wp I m (fun a s' => wp I (f a) R s') s := by
  unfold wp
  simp only [bind]
  rcases h : m s with ⟨_ | a, s'⟩ <;> simp

@[simp] theorem wp_get {Q : σ → σ → Prop} : wp I get Q s ↔ Q s s := Iff.rfl

@[simp] theorem wp_modify {g : σ → σ} {Q : Unit → σ → Prop} :
    wp I (modify g) Q s ↔ Q () (g s) := Iff.rfl

theorem wp_mono (h : wp I m Q s) (hI : ∀ s, I s → J s) (hQ : ∀ a s, Q a s → Q' a s) :
    wp J m Q' s := by
  unfold wp at *
  rcases hm : m s with ⟨_ | a, s'⟩
  · rw [hm] at h; exact hI _ h
  · rw [hm] at h; exact hQ _ _ h

/-- A run that is never cut short has a result. -/
theorem exists_of_wp (h : wp (fun _ => False) m Q s) : ∃ a s', m s = (some a, s') ∧ Q a s' := by
  unfold wp at h
  rcases hm : m s with ⟨_ | a, s'⟩
  · rw [hm] at h
    exact h.elim
  · rw [hm] at h
    exact ⟨a, s', rfl, h⟩

/-- A call of a program with a known spec. -/
theorem Spec.call (h : Spec I P m Q) (hs : P s) (hQ : ∀ a s, Q a s → Q' a s) :
    wp I m Q' s :=
  wp_mono (h s hs) (fun _ h => h) hQ

theorem Spec.mono (h : Spec I P m Q) (hP : ∀ s, P' s → P s) (hQ : ∀ a s, Q a s → Q' a s) :
    Spec I P' m Q' :=
  fun _ hs => h.call (hP _ hs) hQ

theorem Spec.bind {R : α → σ → Prop} {Q : β → σ → Prop} (hm : Spec I P m R)
    (hf : ∀ a, Spec I (R a) (f a) Q) : Spec I P (m >>= f) Q :=
  fun _ hs => wp_bind.mpr (hm.call hs fun a s h => hf a s h)

/-- The rule of the loop: each turn keeps `Inv`, and a cut inside the loop finds `Inv`. -/
theorem Spec.loop {body : β → Program σ (β ⊕ α)} (Inv : β → σ → Prop)
    (hcut : ∀ b s, Inv b s → I s)
    (hbody : ∀ b, Spec I (Inv b) (body b) (fun r s => r.elim (fun b => Inv b s) (fun a => Q a s)))
    (fuel : Nat) (b : β) : Spec I (Inv b) (Program.loop body fuel b) Q := by
  induction fuel generalizing b with
  | zero => exact fun s hs => hcut b s hs
  | succ fuel ih =>
    refine Spec.bind (hbody b) fun r => ?_
    cases r with
    | inl b => exact ih b
    | inr a => exact fun s hs => hs

/-! ## Programs that follow a relation -/

/-- From every state the program comes to one that `R` relates to it, or is cut short in one
that `C` does. -/
def Follows (C R : σ → σ → Prop) (m : Program σ α) : Prop :=
  ∀ s, wp (C s) m (fun _ s' => R s s') s

/-- Programs that follow these relations can be put together. -/
class Chains (C R : σ → σ → Prop) : Prop extends IsPreorder σ R where
  cut {s s' : σ} : R s s' → C s s'
  after {s s1 s' : σ} : R s s1 → C s1 s' → C s s'

/-- A preorder can stand for both. -/
instance {R : σ → σ → Prop} [IsPreorder σ R] : Chains R R where
  cut h := h
  after := trans_of R

section follows

variable {C C' R R' : σ → σ → Prop} {body : β → Program σ (β ⊕ α)} {s s1 s2 : σ}

theorem Follows.mono (h : Follows C R m) (hC : ∀ s s', C s s' → C' s s')
    (hR : ∀ s s', R s s' → R' s s') : Follows C' R' m :=
  fun s => wp_mono (h s) (hC s) fun _ => hR s

theorem Follows.ite {c : Prop} [Decidable c] {m' : Program σ α} (hm : Follows C R m)
    (hm' : Follows C R m') : Follows C R (if c then m else m') := by
  split
  · exact hm
  · exact hm'

variable [Chains C R]

theorem Follows.pure (a : α) : Follows C R (Pure.pure a) := fun s => refl_of R s

/-- What follows the relations from a later state, follows them from an earlier one. -/
theorem Follows.later (h1 : R s s1) (h : wp (C s1) m (fun _ s' => R s1 s') s2) :
    wp (C s) m (fun _ s' => R s s') s2 :=
  wp_mono h (fun _ h => Chains.after h1 h) fun _ _ h => trans_of R h1 h

theorem Follows.call (h : Follows C R m) (h1 : R s s1) : wp (C s) m (fun _ s' => R s s') s1 :=
  Follows.later h1 (h s1)

theorem Follows.bind (hm : Follows C R m) (hf : ∀ a, Follows C R (f a)) :
    Follows C R (m >>= f) :=
  fun s => wp_bind.mpr (wp_mono (hm s) (fun _ h => h) fun a _ h => (hf a).call h)

theorem Follows.loop (h : ∀ b, Follows C R (body b)) (fuel : Nat) (b : β) :
    Follows C R (Program.loop body fuel b) := by
  intro s
  refine Spec.loop (fun _ => R s) (fun _ _ h => Chains.cut h) (fun b s1 hs => ?_) fuel b s
    (refl_of R s)
  refine wp_mono ((h b).call hs) (fun _ h => h) fun x _ h => ?_
  cases x <;> exact h

theorem Follows.walk {body : β → α → Program σ (Except ε β)}
    (h : ∀ b a, Follows C R (body b a)) (l : List α) (b : β) :
    Follows C R (Program.walk body l b) := by
  induction l generalizing b with
  | nil => exact .pure _
  | cons a rest ih =>
    refine (h b a).bind fun r => ?_
    cases r with
    | error e => exact .pure _
    | ok b => exact ih b

end follows

end Program

/-! ## Laws of histories, newest entry first -/

/-- Every entry of the history meets `P`, which sees the entry and its past. -/
def Always (P : α → List α → Prop) : List α → Prop
  | [] => True
  | a :: past => P a past ∧ Always P past

@[simp] theorem always_nil {P : α → List α → Prop} : Always P [] := trivial

@[simp] theorem always_cons {P : α → List α → Prop} {a : α} {past : List α} :
    Always P (a :: past) ↔ P a past ∧ Always P past := Iff.rfl

instance Always.decidable {P : α → List α → Prop} [∀ a past, Decidable (P a past)] :
    (h : List α) → Decidable (Always P h)
  | [] => isTrue trivial
  | a :: past =>
    have : Decidable (Always P past) := Always.decidable past
    inferInstanceAs (Decidable (P a past ∧ Always P past))

theorem always_append {P : α → List α → Prop} {later past : List α} (hp : Always P past)
    (hl : ∀ l a r, later = l ++ a :: r → P a (r ++ past)) : Always P (later ++ past) := by
  induction later with
  | nil => exact hp
  | cons a later ih =>
    exact ⟨hl [] a later rfl, ih fun l b r heq => hl (a :: l) b r (by rw [heq]; rfl)⟩

theorem always_older {P : α → List α → Prop} {later past : List α}
    (h : Always P (later ++ past)) : Always P past := by
  induction later with
  | nil => exact h
  | cons a later ih => exact ih h.2

theorem Always.mono {P Q : α → List α → Prop} {h : List α} (hp : Always P h)
    (hpq : ∀ a past, P a past → Always P past → Q a past) : Always Q h := by
  induction h with
  | nil => trivial
  | cons a past ih => exact ⟨hpq a past hp.1 hp.2, ih hp.2⟩

theorem Always.and {P Q : α → List α → Prop} {h : List α} (hp : Always P h) (hq : Always Q h) :
    Always (fun a past => P a past ∧ Q a past) h := by
  induction h with
  | nil => trivial
  | cons a past ih => exact ⟨⟨hp.1, hq.1⟩, ih hp.2 hq.2⟩

/-- Without an entry that has `p`, no entry has one in its past either. -/
theorem always_none {p : α → Bool} {h : List α} (hp : h.any p = false) :
    Always (fun a past => p a = false ∧ past.any p = false) h := by
  induction h with
  | nil => trivial
  | cons a past ih =>
    have hpast := Bool.or_eq_false_iff.mp (List.any_cons.symm.trans hp)
    exact ⟨hpast, ih hpast.2⟩

theorem any_append_of_none {p : α → Bool} {later past : List α}
    (h : ∀ a ∈ later, p a = false) : (later ++ past).any p = past.any p := by
  rw [List.any_append, List.any_eq_false.mpr fun a ha => by simp [h a ha], Bool.false_or]

/-- What one step keeps, a whole path keeps. -/
theorem invariant_of_step {Step : α → α → Prop} (Inv : α → Prop)
    (hstep : ∀ x y, Inv x → Step x y → Inv y) {x y : α} (hx : Inv x)
    (h : Relation.ReflTransGen Step x y) : Inv y := by
  induction h with
  | refl => exact hx
  | tail _ hs ih => exact hstep _ _ ih hs

end programs
