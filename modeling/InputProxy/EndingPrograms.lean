-- Programs that end. Where each turn of a loop that goes round again brings a variant down,
-- turns enough for the variant are never used up. And turns that are not used up could as
-- well be more: the run is the same.
import InputProxy.Program

namespace programs

namespace Program

variable {σ α β ε : Type}

/-! ## Programs that are never cut short -/

/-- From a state that `P` allows, the program ends in one, and `R` relates the two. -/
def Terminates (P : σ → Prop) (R : σ → σ → Prop) (m : Program σ α) : Prop :=
  ∀ s, P s → wp (fun _ => False) m (fun _ s' => P s' ∧ R s s') s

section ends

variable {P : σ → Prop} {R : σ → σ → Prop} [IsPreorder σ R] {m m' : Program σ α}
  {f : α → Program σ β} {s s1 : σ}

theorem Terminates.pure (a : α) : Terminates P R (Pure.pure a) := fun s hs => ⟨hs, refl_of R s⟩

/-- What ends from a later state, ends from an earlier one. -/
theorem Terminates.later (h : Terminates P R m) (hs : P s1) (h1 : R s s1) :
    wp (fun _ => False) m (fun _ s' => P s' ∧ R s s') s1 := by
  apply wp_mono (h s1 hs) fun _ h => h
  intro a s' hs'
  exact ⟨hs'.1, trans_of R h1 hs'.2⟩

theorem Terminates.bind (hm : Terminates P R m) (hf : ∀ a, Terminates P R (f a)) :
    Terminates P R (m >>= f) := by
  intro s hs
  apply wp_bind.mpr
  apply wp_mono (hm s hs) fun _ h => h
  intro a s1 hs1
  exact (hf a).later hs1.1 hs1.2

omit [IsPreorder σ R] in
theorem Terminates.ite {c : Prop} [Decidable c] (hm : Terminates P R m) (hm' : Terminates P R m') :
    Terminates P R (if c then m else m') := by
  split
  · exact hm
  · exact hm'

theorem Terminates.walk {body : β → α → Program σ (Except ε β)}
    (h : ∀ b a, Terminates P R (body b a)) (l : List α) (b : β) :
    Terminates P R (Program.walk body l b) := by
  induction l generalizing b with
  | nil => exact .pure _
  | cons a rest ih =>
    apply (h b a).bind
    intro r
    cases r with
    | error e => exact .pure _
    | ok b => exact ih b

/-- A turn that goes round again has brought the variant down. -/
def Descends (P : σ → Prop) (R : σ → σ → Prop) (variant : σ → Nat) (m : Program σ (β ⊕ α)) : Prop :=
  ∀ s, P s → wp (fun _ => False) m
    (fun r s' => (P s' ∧ R s s') ∧ ∀ b, r = .inl b → variant s' < variant s) s

/-- The rule of the loop: it is given more turns than the variant has steps to go. -/
theorem Terminates.loop {body : β → Program σ (β ⊕ α)} {variant : σ → Nat}
    (hbody : ∀ b, Descends P R variant (body b)) {fuel : Nat} (hfuel : ∀ s, P s → variant s < fuel)
    (b : β) : Terminates P R (Program.loop body fuel b) := by
  have hloop : ∀ fuel b s, P s → variant s < fuel →
      wp (fun _ => False) (Program.loop body fuel b) (fun _ s' => P s' ∧ R s s') s := by
    intro fuel
    induction fuel with
    | zero => intro b s _ hnot; exact absurd hnot (Nat.not_lt_zero _)
    | succ fuel ih =>
      intro b s hs hvariant
      apply wp_bind.mpr
      apply wp_mono (hbody b s hs) fun _ h => h
      rintro (b' | a) s1 ⟨⟨hs1, hr1⟩, hdown⟩
      · have hless : variant s1 < fuel := by
          have := hdown b' rfl
          omega
        apply wp_mono (ih b' s1 hs1 hless) fun _ h => h
        intro a s' hs'
        exact ⟨hs'.1, trans_of R hr1 hs'.2⟩
      · exact ⟨hs1, hr1⟩
  intro s hs
  exact hloop fuel b s hs (hfuel s hs)

end ends

/-! ## More turns -/

/-- Where the first program ends, the second does the same. -/
def Below (m m' : Program σ α) : Prop := ∀ s a s', m s = (some a, s') → m' s = (some a, s')

section below

variable {m m' : Program σ α} {f f' : α → Program σ β}

theorem Below.refl (m : Program σ α) : Below m m := fun _ _ _ h => h

theorem Below.bind (hm : Below m m') (hf : ∀ a, Below (f a) (f' a)) :
    Below (m >>= f) (m' >>= f') := by
  intro s b s' h
  simp only [Bind.bind] at h ⊢
  rcases hrun : m s with ⟨_ | a, s1⟩
  · rw [hrun] at h
    cases h
  · rw [hrun] at h
    rw [hm s a s1 hrun]
    exact hf a s1 b s' h

theorem Below.ite {c : Prop} [Decidable c] {n n' : Program σ α} (hm : Below m m')
    (hn : Below n n') : Below (if c then m else n) (if c then m' else n') := by
  split
  · exact hm
  · exact hn

theorem Below.loop {body body' : β → Program σ (β ⊕ α)} (hbody : ∀ b, Below (body b) (body' b))
    {fuel fuel' : Nat} (h : fuel ≤ fuel') (b : β) :
    Below (Program.loop body fuel b) (Program.loop body' fuel' b) := by
  induction fuel generalizing fuel' b with
  | zero =>
    intro s a s' hcut
    cases hcut
  | succ fuel ih =>
    obtain ⟨more, rfl⟩ : ∃ more, fuel' = more + 1 := ⟨fuel' - 1, by omega⟩
    apply (hbody b).bind
    intro r
    cases r with
    | inl b => exact ih (by omega) b
    | inr a => exact .refl _

end below

end Program

end programs
