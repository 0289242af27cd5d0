-- Processes that make calls to a system: trees that branch on the answer of
-- each call. A process runs alone, where each call can fail and the process can
-- be killed before it, or as one of many, whose calls interleave.
import Mathlib.Logic.Function.Basic

namespace processes

/-- A process is done, has used up the turns of a loop, or makes a call and goes on with the
answer. -/
inductive Process {Call : Type} (Reply : Call → Type) (α : Type)
  | done (a : α)
  | cut
  | call (c : Call) (next : Reply c → Process Reply α)

variable {Call Choice σ α β γ : Type} {Reply : Call → Type}

namespace Process

def bind (f : α → Process Reply β) : Process Reply α → Process Reply β
  | .done a => f a
  | .cut => .cut
  | .call c next => .call c fun r => (next r).bind f

instance : Monad (Process Reply) where
  pure := .done
  bind m f := m.bind f

/-- One call. -/
def ask (c : Call) : Process Reply (Reply c) := .call c .done

/-- A loop with at most `fuel` turns: `.inl` goes round again, `.inr` leaves. -/
def loop (body : β → Process Reply (β ⊕ α)) : Nat → β → Process Reply α
  | 0, _ => .cut
  | fuel + 1, b => do
    match ← body b with
    | .inl b => loop body fuel b
    | .inr a => pure a

/-! ## A process that runs alone -/

/-- The result of a run and the state it reaches. The choice for the `k`-th call decides how
the system answers it; `none` kills the process in front of the call. -/
def run (answer : Choice → (c : Call) → σ → Reply c × σ) :
    Process Reply α → (Nat → Call → Option Choice) → σ → Option α × σ
  | .done a, _, s => (some a, s)
  | .cut, _, s => (none, s)
  | .call c next, choices, s =>
    match choices 0 c with
    | none => (none, s)
    | some choice =>
      run answer (next (answer choice c s).1) (fun k => choices (k + 1)) (answer choice c s).2

/-- Each choice that the run uses is one that `can` allows. -/
def Along (answer : Choice → (c : Call) → σ → Reply c × σ) (can : Option Choice → Call → σ → Prop) :
    Process Reply α → (Nat → Call → Option Choice) → σ → Prop
  | .done _, _, _ => True
  | .cut, _, _ => True
  | .call c next, choices, s =>
    can (choices 0 c) c s ∧ ∀ choice, choices 0 c = some choice →
      Along answer can (next (answer choice c s).1) (fun k => choices (k + 1))
        (answer choice c s).2

/-- The calls that a run makes, each with the choice that answers it. -/
def calls (answer : Choice → (c : Call) → σ → Reply c × σ) :
    Process Reply α → (Nat → Call → Option Choice) → σ → List (Call × Choice)
  | .done _, _, _ => []
  | .cut, _, _ => []
  | .call c next, choices, s =>
    match choices 0 c with
    | none => []
    | some choice =>
      (c, choice) ::
        calls answer (next (answer choice c s).1) (fun k => choices (k + 1)) (answer choice c s).2

/-- A choice that answers a call of these, or none. -/
def Met (met : List (Call × Choice)) : Option Choice → Call → σ → Prop :=
  fun choice c _ => ∀ a ∈ choice, (c, a) ∈ met

/-- A run on fixed choices can be checked step by step. -/
instance decidable_along {answer : Choice → (c : Call) → σ → Reply c × σ}
    {can : Option Choice → Call → σ → Prop} [∀ choice c s, Decidable (can choice c s)] :
    ∀ (m : Process Reply α) choices s, Decidable (Along answer can m choices s)
  | .done _, _, _ => inferInstanceAs (Decidable True)
  | .cut, _, _ => inferInstanceAs (Decidable True)
  | .call c next, choices, s =>
    match h : choices 0 c with
    | none => decidable_of_iff (can none c s) (by simp [Along, h])
    | some choice =>
      have : Decidable (Along answer can (next (answer choice c s).1) (fun k => choices (k + 1))
          (answer choice c s).2) :=
        decidable_along ..
      decidable_of_iff (can (some choice) c s ∧ Along answer can (next (answer choice c s).1)
        (fun k => choices (k + 1)) (answer choice c s).2) (by simp [Along, h])

/-- With the choices that `can` allows, the process ends with a result and a state that `Q`
allows, or stops in a state that `I` allows. -/
def wp (answer : Choice → (c : Call) → σ → Reply c × σ) (can : Option Choice → Call → σ → Prop)
    (I : σ → Prop) : Process Reply α → (α → σ → Prop) → σ → Prop
  | .done a, Q, s => Q a s
  | .cut, _, s => I s
  | .call c next, Q, s =>
    (can none c s → I s) ∧ ∀ choice, can (some choice) c s →
      wp answer can I (next (answer choice c s).1) Q (answer choice c s).2

/-- The process makes no other calls, and is never cut. -/
def Uses (allowed : Call → Prop) : Process Reply α → Prop
  | .done _ => True
  | .cut => False
  | .call c next => allowed c ∧ ∀ r, Uses allowed (next r)

/-- The process makes no other calls, cut or not. -/
def Makes (allowed : Call → Prop) : Process Reply α → Prop
  | .done _ => True
  | .cut => True
  | .call c next => allowed c ∧ ∀ r, Makes allowed (next r)

/-- Any choice, and a kill. -/
def Any : Option Choice → Call → σ → Prop := fun _ _ _ => True

section rules

variable {answer : Choice → (c : Call) → σ → Reply c × σ}
  {can can' : Option Choice → Call → σ → Prop} {I J : σ → Prop} {m : Process Reply α}
  {f : α → Process Reply β} {Q Q' : α → σ → Prop} {s : σ}

@[simp] theorem wp_done (a : α) : wp answer can I (.done a) Q s ↔ Q a s := Iff.rfl

@[simp] theorem wp_pure (a : α) : wp answer can I (pure a) Q s ↔ Q a s := Iff.rfl

@[simp] theorem wp_bind {R : β → σ → Prop} :
    wp answer can I (m >>= f) R s ↔ wp answer can I m (fun a s => wp answer can I (f a) R s) s := by
  change wp answer can I (m.bind f) R s ↔ _
  induction m generalizing s with
  | done a => rfl
  | cut => rfl
  | call c next ih =>
    simp only [bind, wp]
    exact and_congr_right fun _ => forall_congr' fun choice => forall_congr' fun _ => ih _

theorem pure_bind (a : α) : (pure a >>= f) = f a := rfl

theorem bind_bind {g : β → Process Reply γ} : (m >>= f) >>= g = m >>= fun a => f a >>= g := by
  change (m.bind f).bind g = m.bind fun a => (f a).bind g
  induction m with
  | done a => rfl
  | cut => rfl
  | call c next ih => exact congrArg (Process.call c) (funext ih)

@[simp] theorem wp_ask {c : Call} {Q : Reply c → σ → Prop} :
    wp answer can I (ask c) Q s ↔ (can none c s → I s) ∧
      ∀ choice, can (some choice) c s → Q (answer choice c s).1 (answer choice c s).2 :=
  Iff.rfl

theorem wp_mono (h : wp answer can I m Q s) (hI : ∀ s, I s → J s)
    (hQ : ∀ a s, Q a s → Q' a s) : wp answer can J m Q' s := by
  induction m generalizing s with
  | done a => exact hQ a s h
  | cut => exact hI s h
  | call c next ih =>
    exact ⟨fun hk => hI s (h.1 hk), fun choice hc => ih _ (h.2 choice hc)⟩

/-- What every end and every state meets. -/
theorem wp_of_forall (hI : ∀ s, I s) (hQ : ∀ a s, Q a s) : wp answer can I m Q s := by
  induction m generalizing s with
  | done a => exact hQ a s
  | cut => exact hI s
  | call c next ih => exact ⟨fun _ => hI s, fun _ _ => ih _⟩

theorem wp_can_mono (h : wp answer can I m Q s)
    (hcan : ∀ choice c s, can' choice c s → can choice c s) : wp answer can' I m Q s := by
  induction m generalizing s with
  | done a => exact h
  | cut => exact h
  | call c next ih =>
    exact ⟨fun hk => h.1 (hcan _ _ _ hk), fun choice hc => ih _ (h.2 choice (hcan _ _ _ hc))⟩

theorem wp_and {J : σ → Prop} (h : wp answer can I m Q s) (h' : wp answer can J m Q' s) :
    wp answer can (fun s => I s ∧ J s) m (fun a s => Q a s ∧ Q' a s) s := by
  induction m generalizing s with
  | done a => exact ⟨h, h'⟩
  | cut => exact ⟨h, h'⟩
  | call c next ih =>
    exact ⟨fun hk => ⟨h.1 hk, h'.1 hk⟩, fun choice hc => ih _ (h.2 choice hc) (h'.2 choice hc)⟩

/-- A step that goes on where a call succeeded. -/
theorem wp_unless {b : Bool} {m' : Process Reply α} (hfail : wp answer can I m Q s)
    (hok : b = true → wp answer can I m' Q s) :
    wp answer can I (if !b then m else m') Q s := by
  cases b with
  | false => exact hfail
  | true => exact hok rfl

theorem wp_ite_bind {b : Prop} [Decidable b] {m' : Process Reply α} {R : β → σ → Prop}
    (hm : b → wp answer can I m Q s) (hm' : ¬b → wp answer can I m' Q s)
    (h : ∀ a s, Q a s → wp answer can I (f a) R s) :
    wp answer can I (if b then m >>= f else m' >>= f) R s := by
  split
  · exact wp_bind.mpr (wp_mono (hm ‹_›) (fun _ h => h) h)
  · exact wp_bind.mpr (wp_mono (hm' ‹_›) (fun _ h => h) h)

@[simp] theorem uses_pure {allowed : Call → Prop} (a : α) :
    (pure a : Process Reply α).Uses allowed := trivial

@[simp] theorem uses_ask {allowed : Call → Prop} {c : Call} :
    (ask c : Process Reply (Reply c)).Uses allowed ↔ allowed c :=
  and_iff_left fun _ => trivial

theorem uses_bind {allowed : Call → Prop} (hm : m.Uses allowed)
    (hf : ∀ a, (f a).Uses allowed) : (m >>= f).Uses allowed := by
  change (m.bind f).Uses allowed
  induction m with
  | done a => exact hf a
  | cut => exact hm.elim
  | call c next ih => exact ⟨hm.1, fun r => ih r (hm.2 r)⟩

theorem uses_unless {allowed : Call → Prop} {b : Bool} {m' : Process Reply α}
    (hm : m.Uses allowed) (hm' : m'.Uses allowed) : (if !b then m else m').Uses allowed := by
  split
  · exact hm
  · exact hm'

theorem Uses.mono {allowed allowed' : Call → Prop} (hm : m.Uses allowed)
    (h : ∀ c, allowed c → allowed' c) : m.Uses allowed' := by
  induction m with
  | done a => trivial
  | cut => exact hm.elim
  | call c next ih => exact ⟨h c hm.1, fun r => ih r (hm.2 r)⟩

/-- Only the calls that the process makes matter. -/
theorem wp_can_of_uses {allowed : Call → Prop} (hm : m.Uses allowed) (h : wp answer can I m Q s)
    (hcan : ∀ choice c s, allowed c → can' choice c s → can choice c s) :
    wp answer can' I m Q s := by
  induction m generalizing s with
  | done a => exact h
  | cut => exact h
  | call c next ih =>
    exact ⟨fun hk => h.1 (hcan _ _ _ hm.1 hk),
      fun choice hc => ih _ (hm.2 _) (h.2 choice (hcan _ _ _ hm.1 hc))⟩

/-- What its calls keep, a process keeps. -/
theorem wp_of_uses {allowed : Call → Prop} (hm : m.Uses allowed)
    (hkept : ∀ choice c s, allowed c → I s → I (answer choice c s).2)
    (hkilled : ∀ c s, can none c s → I s → J s) (hs : I s) :
    wp answer can J m (fun _ => I) s := by
  induction m generalizing s with
  | done a => exact hs
  | cut => exact hm.elim
  | call c next ih =>
    exact ⟨fun hk => hkilled c s hk hs,
      fun choice _ => ih _ (hm.2 _) (hkept choice c s hm.1 hs)⟩

/-- The rule of the loop: each turn keeps `Inv`, and a cut inside the loop finds `Inv`. -/
theorem wp_loop {body : β → Process Reply (β ⊕ α)} (Inv : β → σ → Prop)
    (hcut : ∀ b s, Inv b s → I s)
    (hbody : ∀ b s, Inv b s →
      wp answer can I (body b) (fun r s => r.elim (fun b => Inv b s) (fun a => Q a s)) s)
    (fuel : Nat) {b : β} (h : Inv b s) : wp answer can I (loop body fuel b) Q s := by
  induction fuel generalizing b s with
  | zero => exact hcut b s h
  | succ fuel ih =>
    refine wp_bind.mpr (wp_mono (hbody b s h) (fun _ h => h) fun r s hr => ?_)
    cases r with
    | inl b => exact ih hr
    | inr a => exact hr

/-- The rule of a loop that is never cut: each turn takes less than the one before. -/
theorem wp_loop_total {body : β → Process Reply (β ⊕ α)} (Inv : β → σ → Prop) (left : β → Nat)
    (hbody : ∀ b s, Inv b s → wp answer can I (body b)
      (fun r s => r.elim (fun b' => Inv b' s ∧ left b' < left b) (fun a => Q a s)) s)
    {fuel : Nat} {b : β} (h : Inv b s) (hfuel : left b < fuel) :
    wp answer can I (loop body fuel b) Q s := by
  induction fuel generalizing b s with
  | zero => omega
  | succ fuel ih =>
    refine wp_bind.mpr (wp_mono (hbody b s h) (fun _ h => h) fun r s hr => ?_)
    cases r with
    | inl b' =>
      have hless : left b' < left b := hr.2
      exact ih hr.1 (by omega)
    | inr a => exact hr

/-- A run does what the weakest precondition says. -/
theorem run_of_wp {choices : Nat → Call → Option Choice} (h : wp answer can I m Q s)
    (ha : Along answer can m choices s) :
    ((run answer m choices s).1 = none ∧ I (run answer m choices s).2) ∨
      ∃ a, (run answer m choices s).1 = some a ∧ Q a (run answer m choices s).2 := by
  induction m generalizing choices s with
  | done a => exact .inr ⟨a, rfl, h⟩
  | cut => exact .inl ⟨rfl, h⟩
  | call c next ih =>
    obtain ⟨hcan, hrest⟩ := ha
    simp only [run]
    cases hk : choices 0 c with
    | none => exact .inl ⟨rfl, h.1 (hk ▸ hcan)⟩
    | some choice => exact ih _ (h.2 choice (hk ▸ hcan)) (hrest choice hk)

/-- The first call of a run. -/
theorem run_ask_bind {c : Call} {f : Reply c → Process Reply α}
    {choices : Nat → Call → Option Choice} {choice : Choice} (h : choices 0 c = some choice) :
    run answer (ask c >>= f) choices s =
      run answer (f (answer choice c s).1) (fun k => choices (k + 1)) (answer choice c s).2 := by
  have hcall : (ask c >>= f) = .call c f := rfl
  simp only [hcall, run, h]

theorem along_of_forall {choices : Nat → Call → Option Choice}
    (h : ∀ k c s, can (choices k c) c s) :
    Along answer can m choices s := by
  induction m generalizing choices s with
  | done a => trivial
  | cut => trivial
  | call c next ih =>
    exact ⟨h 0 c s, fun choice _ => ih _ fun k => h (k + 1)⟩

theorem along_any {choices : Nat → Call → Option Choice} :
    Along answer Any m choices s :=
  along_of_forall fun _ _ _ => trivial

/-- A run meets its own calls. -/
theorem along_met {choices : Nat → Call → Option Choice} {met : List (Call × Choice)}
    (h : m.calls answer choices s ⊆ met) : Along answer (Met met) m choices s := by
  induction m generalizing choices s with
  | done a => trivial
  | cut => trivial
  | call c next ih =>
    unfold calls at h
    constructor
    · intro a ha
      rw [ha] at h
      exact h List.mem_cons_self
    · intro choice hchoice
      rw [hchoice] at h
      exact ih _ fun call hcall => h (List.mem_cons_of_mem _ hcall)

/-- What comes after a process that ends goes on with the choices that are left. -/
theorem run_bind {choices : Nat → Call → Option Choice} {a : α} {s' : σ}
    (h : run answer m choices s = (some a, s')) (f : α → Process Reply β) :
    run answer (m >>= f) choices s =
      run answer (f a) (fun k => choices (k + (m.calls answer choices s).length)) s' := by
  induction m generalizing choices s with
  | done b =>
    obtain ⟨hb, rfl⟩ := Prod.mk.inj h
    obtain rfl := Option.some.inj hb
    rfl
  | cut => cases h
  | call c next ih =>
    have hcall : (Process.call c next >>= f) = .call c fun r => next r >>= f := rfl
    simp only [run] at h
    cases hk : choices 0 c with
    | none =>
      rw [hk] at h
      cases h
    | some choice =>
      rw [hk] at h
      simp only [hcall, run, calls, hk, List.length_cons]
      exact ih _ h

/-- The calls of the first part are calls of the whole. -/
theorem along_of_bind {choices : Nat → Call → Option Choice} {f : α → Process Reply β}
    (h : Along answer can (m >>= f) choices s) : Along answer can m choices s := by
  induction m generalizing choices s with
  | done a => trivial
  | cut => trivial
  | call c next ih => exact ⟨h.1, fun choice hchoice => ih _ (h.2 choice hchoice)⟩

/-! ### Calls that are made -/

variable {allowed allowed' : Call → Prop}

@[simp] theorem makes_pure (a : α) : (pure a : Process Reply α).Makes allowed := trivial

@[simp] theorem makes_ask {c : Call} :
    (ask c : Process Reply (Reply c)).Makes allowed ↔ allowed c :=
  and_iff_left fun _ => trivial

theorem makes_bind (hm : m.Makes allowed) (hf : ∀ a, (f a).Makes allowed) :
    (m >>= f).Makes allowed := by
  change (m.bind f).Makes allowed
  induction m with
  | done a => exact hf a
  | cut => trivial
  | call c next ih => exact ⟨hm.1, fun r => ih r (hm.2 r)⟩

theorem makes_ite {b : Prop} [Decidable b] {m' : Process Reply α} (hm : m.Makes allowed)
    (hm' : m'.Makes allowed) : (if b then m else m').Makes allowed := by
  split
  · exact hm
  · exact hm'

theorem makes_loop {body : β → Process Reply (β ⊕ α)} (hbody : ∀ b, (body b).Makes allowed)
    (fuel : Nat) (b : β) : (loop body fuel b).Makes allowed := by
  induction fuel generalizing b with
  | zero => trivial
  | succ fuel ih =>
    apply makes_bind (hbody b)
    intro r
    cases r with
    | inl b => exact ih b
    | inr a => trivial

theorem Uses.makes (hm : m.Uses allowed) : m.Makes allowed := by
  induction m with
  | done a => trivial
  | cut => trivial
  | call c next ih => exact ⟨hm.1, fun r => ih r (hm.2 r)⟩

theorem Makes.mono (hm : m.Makes allowed) (h : ∀ c, allowed c → allowed' c) :
    m.Makes allowed' := by
  induction m with
  | done a => trivial
  | cut => trivial
  | call c next ih => exact ⟨h c hm.1, fun r => ih r (hm.2 r)⟩

/-- What its calls keep, a process keeps, also where it stops. -/
theorem wp_of_makes (hm : m.Makes allowed)
    (hkept : ∀ choice c s, allowed c → I s → I (answer choice c s).2) (hs : I s) :
    wp answer can I m (fun _ => I) s := by
  induction m generalizing s with
  | done a => exact hs
  | cut => exact hs
  | call c next ih => exact ⟨fun _ => hs, fun choice _ => ih _ (hm.2 _) (hkept choice c s hm.1 hs)⟩

end rules

end Process

end processes
