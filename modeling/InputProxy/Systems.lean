-- Systems of processes that share a state: their calls interleave in any order,
-- and each process can be gone at any point. What each of them relies on and
-- what it guarantees to the others is kept in every system that they are part of.
import InputProxy.Processes

namespace processes

variable {Pid Call Choice σ α β : Type} {Reply : Call → Type}

/-- What was seen of a process. -/
inductive Sight (Pid : Type) {Call : Type} (Reply : Call → Type)
  | made (pid : Pid) (c : Call) (r : Reply c)
  | gone (pid : Pid)

/-- A shared state, what is left of each process, and what was seen so far, newest first. -/
structure System (Pid : Type) {Call : Type} (Reply : Call → Type) (α σ : Type) where
  state : σ
  tasks : Pid → Option (Process Reply α)
  trace : List (Sight Pid Reply)

/-- A process makes its next call, or is gone: it was killed, or it had come to its end. -/
inductive Event (Pid Choice : Type)
  | step (pid : Pid) (choice : Choice)
  | gone (pid : Pid)

namespace System

variable [DecidableEq Pid] (answer : Pid → Choice → (c : Call) → σ → Reply c × σ)
  (leave : Pid → σ → σ)

def fire (s : System Pid Reply α σ) : Event Pid Choice → System Pid Reply α σ
  | .step pid choice =>
    match s.tasks pid with
    | some (.call c next) =>
      { state := (answer pid choice c s.state).2
        tasks := Function.update s.tasks pid (some (next (answer pid choice c s.state).1))
        trace := .made pid c (answer pid choice c s.state).1 :: s.trace }
    | _ => s
  | .gone pid =>
    if (s.tasks pid).isSome then
      { state := leave pid s.state
        tasks := Function.update s.tasks pid none
        trace := .gone pid :: s.trace }
    else s

/-- The system after some events, in this order. -/
def run (events : List (Event Pid Choice)) (s : System Pid Reply α σ) : System Pid Reply α σ :=
  events.foldl (fire answer leave) s

/-- What an event can do. -/
theorem fire_cases (s : System Pid Reply α σ) (event : Event Pid Choice) :
    fire answer leave s event = s ∨
    (∃ pid choice c next, event = .step pid choice ∧ s.tasks pid = some (.call c next) ∧
      fire answer leave s event =
        ⟨(answer pid choice c s.state).2,
          Function.update s.tasks pid (some (next (answer pid choice c s.state).1)),
          .made pid c (answer pid choice c s.state).1 :: s.trace⟩) ∨
    ∃ pid, event = .gone pid ∧ (s.tasks pid).isSome ∧ fire answer leave s event =
      ⟨leave pid s.state, Function.update s.tasks pid none, .gone pid :: s.trace⟩ := by
  cases event with
  | step pid choice =>
    simp only [fire]
    split
    · rename_i c next htask
      exact .inr (.inl ⟨pid, choice, c, next, rfl, htask, rfl⟩)
    · exact .inl rfl
  | gone pid =>
    simp only [fire]
    split
    · exact .inr (.inr ⟨pid, rfl, ‹_›, rfl⟩)
    · exact .inl rfl

/-- What an event keeps, every run keeps. -/
theorem run_induction {P : System Pid Reply α σ → Prop} {s : System Pid Reply α σ}
    (hstep : ∀ s event, P s → P (fire answer leave s event)) (h : P s)
    (events : List (Event Pid Choice)) : P (run answer leave events s) := by
  induction events generalizing s with
  | nil => exact h
  | cons event events ih => exact ih (hstep s event h)

end System

/-! ## Rely and guarantee -/

namespace Process

/-- Whatever the others do in between, as far as `rely` says, each call of the process does no
more than `guar` says, and its result and the state it is left in are ones that `Q` allows. -/
def rg (answer : Choice → (c : Call) → σ → Reply c × σ) (rely guar : σ → σ → Prop) :
    Process Reply α → (α → σ → Prop) → σ → Prop
  | .done a, Q, s => Q a s
  | .cut, _, _ => True
  | .call c next, Q, s => ∀ s', rely s s' → ∀ choice, guar s' (answer choice c s').2 ∧
      rg answer rely guar (next (answer choice c s').1) Q (answer choice c s').2

section rules

variable {answer : Choice → (c : Call) → σ → Reply c × σ} {rely guar : σ → σ → Prop}
  {m m' : Process Reply α} {f : α → Process Reply β} {Q Q' : α → σ → Prop} {s s' : σ}

@[simp] theorem rg_pure (a : α) : rg answer rely guar (pure a) Q s ↔ Q a s := Iff.rfl

theorem rg_bind {R : β → σ → Prop}
    (h : rg answer rely guar m (fun a s => rg answer rely guar (f a) R s) s) :
    rg answer rely guar (m >>= f) R s := by
  change rg answer rely guar (m.bind f) R s
  induction m generalizing s with
  | done a => exact h
  | cut => trivial
  | call c next ih => exact fun s' hs choice => ⟨(h s' hs choice).1, ih _ (h s' hs choice).2⟩

theorem rg_ask {c : Call} {Q : Reply c → σ → Prop}
    (h : ∀ s', rely s s' → ∀ choice, guar s' (answer choice c s').2 ∧
      Q (answer choice c s').1 (answer choice c s').2) :
    rg answer rely guar (ask c) Q s := h

theorem rg_mono (h : rg answer rely guar m Q s) (hQ : ∀ a s, Q a s → Q' a s) :
    rg answer rely guar m Q' s := by
  induction m generalizing s with
  | done a => exact hQ a s h
  | cut => trivial
  | call c next ih => exact fun s' hs choice => ⟨(h s' hs choice).1, ih _ (h s' hs choice).2⟩

theorem rg_ite_bind {b : Prop} [Decidable b] {R : β → σ → Prop}
    (hm : b → rg answer rely guar m Q s) (hm' : ¬b → rg answer rely guar m' Q s)
    (h : ∀ a s, Q a s → rg answer rely guar (f a) R s) :
    rg answer rely guar (if b then m >>= f else m' >>= f) R s := by
  split
  · exact rg_bind (rg_mono (hm ‹_›) h)
  · exact rg_bind (rg_mono (hm' ‹_›) h)

theorem rg_unless {b : Bool} (hfail : rg answer rely guar m Q s)
    (hok : b = true → rg answer rely guar m' Q s) :
    rg answer rely guar (if !b then m else m') Q s := by
  cases b with
  | false => exact hfail
  | true => exact hok rfl

/-- A process whose calls keep what others keep as well. -/
theorem rg_of_uses {allowed : Call → Prop} {P : σ → Prop} (hm : m.Uses allowed)
    (hstable : ∀ s s', rely s s' → P s → P s')
    (hcall : ∀ choice c s, allowed c → P s →
      guar s (answer choice c s).2 ∧ P (answer choice c s).2) (hs : P s) :
    rg answer rely guar m (fun _ => P) s := by
  induction m generalizing s with
  | done a => exact hs
  | cut => exact hm.elim
  | call c next ih =>
    intro s' hrely choice
    obtain ⟨hguar, hP⟩ := hcall choice c s' hm.1 (hstable s s' hrely hs)
    exact ⟨hguar, ih _ (hm.2 _) hP⟩

/-- The same of a process that can be cut. -/
theorem rg_of_makes {allowed : Call → Prop} {P : σ → Prop} (hm : m.Makes allowed)
    (hstable : ∀ s s', rely s s' → P s → P s')
    (hcall : ∀ choice c s, allowed c → P s →
      guar s (answer choice c s).2 ∧ P (answer choice c s).2) (hs : P s) :
    rg answer rely guar m (fun _ => P) s := by
  induction m generalizing s with
  | done a => exact hs
  | cut => trivial
  | call c next ih =>
    intro s' hrely choice
    obtain ⟨hguar, hP⟩ := hcall choice c s' hm.1 (hstable s s' hrely hs)
    exact ⟨hguar, ih _ (hm.2 _) hP⟩

theorem rg_loop {body : β → Process Reply (β ⊕ α)} (Inv : β → σ → Prop)
    (hbody : ∀ b s, Inv b s → rg answer rely guar (body b)
      (fun r s => r.elim (fun b => Inv b s) (fun a => Q a s)) s) (fuel : Nat) {b : β}
    (h : Inv b s) : rg answer rely guar (loop body fuel b) Q s := by
  induction fuel generalizing b s with
  | zero => trivial
  | succ fuel ih =>
    refine rg_bind (rg_mono (hbody b s h) fun r s hr => ?_)
    cases r with
    | inl b => exact ih hr
    | inr a => exact hr

/-- What others do does not matter to a process that has not gone on since. -/
theorem rg_stable (htrans : ∀ s s' s'', rely s s' → rely s' s'' → rely s s'')
    (hrely : rely s s') (h : rg answer rely guar m (fun _ _ => True) s) :
    rg answer rely guar m (fun _ _ => True) s' := by
  cases m with
  | done a => trivial
  | cut => trivial
  | call c next => exact fun s'' hs => h s'' (htrans s s' s'' hrely hs)

end rules

end Process

namespace System

section sound

variable {answer : Pid → Choice → (c : Call) → σ → Reply c × σ} {leave : Pid → σ → σ}
  {rely guar : Pid → σ → σ → Prop}

/-- Each process that is still there keeps to its guarantee. -/
def Sound (answer : Pid → Choice → (c : Call) → σ → Reply c × σ) (rely guar : Pid → σ → σ → Prop)
    (s : System Pid Reply α σ) : Prop :=
  ∀ pid m, s.tasks pid = some m →
    Process.rg (answer pid) (rely pid) (guar pid) m (fun _ _ => True) s.state

/-- A step of a sound system is one that its process guarantees. -/
theorem Sound.guarantee (hrefl : ∀ pid s, rely pid s s) {s : System Pid Reply α σ}
    (h : Sound answer rely guar s) {pid : Pid} {choice : Choice} {c : Call}
    {next : Reply c → Process Reply α} (htask : s.tasks pid = some (.call c next)) :
    guar pid s.state (answer pid choice c s.state).2 :=
  (h pid _ htask s.state (hrefl pid s.state) choice).1

variable [DecidableEq Pid] (hrefl : ∀ pid s, rely pid s s)
  (htrans : ∀ pid s s' s'', rely pid s s' → rely pid s' s'' → rely pid s s'')
  (hguar : ∀ pid pid' s s', pid ≠ pid' → guar pid s s' → rely pid' s s')
  (hleave : ∀ pid pid' s, pid ≠ pid' → rely pid' s (leave pid s))

include hrefl htrans hguar hleave in
theorem Sound.fire (s : System Pid Reply α σ) (event : Event Pid Choice)
    (h : Sound answer rely guar s) : Sound answer rely guar (fire answer leave s event) := by
  rcases fire_cases answer leave s event with heq | ⟨pid, choice, c, next, -, htask, heq⟩ |
    ⟨pid, -, -, heq⟩
  · rwa [heq]
  · rw [heq]
    intro pid' m hm
    dsimp only at hm ⊢
    obtain ⟨hg, hnext⟩ := h pid _ htask s.state (hrefl pid s.state) choice
    by_cases hpid : pid' = pid
    · subst hpid
      rw [Function.update_self] at hm
      exact Option.some.inj hm ▸ hnext
    · rw [Function.update_of_ne hpid] at hm
      exact Process.rg_stable (htrans pid') (hguar pid pid' _ _ (Ne.symm hpid) hg) (h pid' m hm)
  · rw [heq]
    intro pid' m hm
    dsimp only at hm ⊢
    by_cases hpid : pid' = pid
    · subst hpid
      rw [Function.update_self] at hm
      contradiction
    · rw [Function.update_of_ne hpid] at hm
      exact Process.rg_stable (htrans pid') (hleave pid pid' _ (Ne.symm hpid)) (h pid' m hm)

include hrefl htrans hguar hleave in
/-- What every guarantee keeps, and a process that goes does not harm, holds at every point. -/
theorem Sound.invariant {P : σ → Prop} {s : System Pid Reply α σ} (h : Sound answer rely guar s)
    (hkept : ∀ pid s s', guar pid s s' → P s → P s') (hgone : ∀ pid s, P s → P (leave pid s))
    (hs : P s.state) (events : List (Event Pid Choice)) :
    P (System.run answer leave events s).state := by
  refine (System.run_induction answer leave
    (P := fun s => Sound answer rely guar s ∧ P s.state) ?_ ⟨h, hs⟩ events).2
  intro s event hpair
  obtain ⟨hsound, hstate⟩ := hpair
  refine ⟨Sound.fire hrefl htrans hguar hleave s event hsound, ?_⟩
  rcases fire_cases answer leave s event with heq | ⟨pid, choice, c, next, -, htask, heq⟩ |
    ⟨pid, -, -, heq⟩
  · rwa [heq]
  · rw [heq]
    exact hkept pid _ _ (hsound.guarantee hrefl htask) hstate
  · rw [heq]
    exact hgone pid _ hstate

end sound

end System

end processes
