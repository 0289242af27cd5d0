-- Any number of processes that run the program, with whatever commands and arguments, in
-- whatever order their calls come and whichever of them are killed: a name that one of them
-- has reserved stays its own until it gives the name up or is gone, and none of them comes
-- to its end with a name.
import InputProxy.ConcurrentInstallers
import InputProxy.MainCommand
import InputProxy.Ownership

open c_strings disks processes

namespace input_proxy

/-! ## Addresses as resources -/

/-- The address that a `bind` takes. -/
def bound_address (address : Bytes) : Bound → Option Bytes
  | .BOUND => some address
  | .IN_USE | .FAILED => none

/-- An address is given up where its socket is closed. -/
def name_effects : Effects Reply Bytes where
  takes
    | .bind address => bound_address address
    | _ => fun _ => none
  gives
    | .close_socket address => some address
    | _ => none

section accounts

variable {c : SystemCall} {pid : Nat} {choice : Choice} {m : Machine}

theorem neutral_of_ne (hbind : ∀ address, c ≠ .bind address)
    (hclose : ∀ address, c ≠ .close_socket address) : name_effects.Neutral c := by
  cases c
  case bind address => exact absurd rfl (hbind address)
  case close_socket address => exact absurd rfl (hclose address)
  all_goals exact ⟨rfl, fun _ => rfl⟩

theorem Idle.neutral (h : Idle c) : name_effects.Neutral c := by
  apply neutral_of_ne
  · rintro address rfl
    have hsockets : empty_machine.sockets.insert address 0 = empty_machine.sockets :=
      (h 0 calm empty_machine).2
    have hlookup : (empty_machine.sockets.insert address 0).lookup address = some 0 :=
      AList.lookup_insert _
    rw [hsockets] at hlookup
    cases hlookup
  · rintro address rfl
    let m : Machine := { empty_machine with sockets := empty_machine.sockets.insert address 0 }
    have hheld : m.holder address = some 0 := AList.lookup_insert _
    have hsockets := (h 0 calm m).2
    simp only [answer, if_pos hheld] at hsockets
    have hlookup : (m.sockets.erase address).lookup address = none := AList.lookup_erase ..
    rw [hsockets] at hlookup
    exact absurd (hheld.symm.trans hlookup) (by simp)

theorem neutral_unlink (path : CString) : name_effects.Neutral (.unlink path) :=
  neutral_of_ne nofun nofun

theorem held_bind (address : Bytes) :
    System.held Machine.holder pid (answer pid choice (.bind address) m).2 =
      name_effects.after (System.held Machine.holder pid m) (.bind address)
        (answer pid choice (.bind address) m).1 := by
  have hrefused : ∀ bound, bound_address address bound = none →
      System.held Machine.holder pid m =
        name_effects.after (System.held Machine.holder pid m) (.bind address) bound := by
    intro bound hbound
    ext other
    simp [Effects.after, name_effects, hbound]
  simp only [answer]
  split
  · exact hrefused .FAILED rfl
  split
  · exact hrefused .IN_USE rfl
  · ext other
    by_cases hother : other = address
    · subst hother
      simp [System.held, Machine.holder, Effects.after, name_effects, bound_address]
    · simp [System.held, Machine.holder, Effects.after, name_effects, bound_address,
        AList.lookup_insert_ne hother, Ne.symm hother]

theorem held_close (address : Bytes) :
    System.held Machine.holder pid (answer pid choice (.close_socket address) m).2 =
      name_effects.after (System.held Machine.holder pid m) (.close_socket address) () := by
  ext other
  simp only [answer]
  by_cases hother : other = address
  · subst hother
    by_cases hown : m.holder other = some pid
    · rw [if_pos hown]
      simp [System.held, Machine.holder, Effects.after, name_effects]
    · rw [if_neg hown]
      simp [System.held, Effects.after, name_effects, hown]
  · split
    · simp [System.held, Machine.holder, Effects.after, name_effects, AList.lookup_erase_ne hother,
        Ne.symm hother]
    · simp [System.held, Effects.after, name_effects, Ne.symm hother]

theorem held_neutral {pid' : Nat} (hbind : ∀ address, c ≠ .bind address)
    (hclose : ∀ address, c ≠ .close_socket address) :
    System.held Machine.holder pid' (answer pid choice c m).2 =
      System.held Machine.holder pid' m := by
  unfold System.held Machine.holder
  rw [sockets_answer hbind hclose]

theorem accounts : System.Accounts answer Machine.leave name_effects Machine.holder where
  own pid choice c m := by
    by_cases hbind : ∃ address, c = .bind address
    · obtain ⟨address, rfl⟩ := hbind
      exact held_bind address
    by_cases hclose : ∃ address, c = .close_socket address
    · obtain ⟨address, rfl⟩ := hclose
      exact held_close address
    rw [not_exists] at hbind hclose
    rw [held_neutral hbind hclose, (neutral_of_ne hbind hclose).after]
  others pid choice c m pid' hpid _ := by
    by_cases hbind : ∃ address, c = .bind address
    · obtain ⟨address, rfl⟩ := hbind
      simp only [answer]
      split
      · rfl
      split
      · rfl
      rename_i hfree
      ext other
      by_cases hother : other = address
      · subst hother
        simp_all [System.held, Machine.holder, Ne.symm hpid]
      · simp [System.held, Machine.holder, AList.lookup_insert_ne hother]
    by_cases hclose : ∃ address, c = .close_socket address
    · obtain ⟨address, rfl⟩ := hclose
      simp only [answer]
      split
      · rename_i hown
        ext other
        by_cases hother : other = address
        · subst hother
          simp_all [System.held, Machine.holder, Ne.symm hpid]
        · simp [System.held, Machine.holder, AList.lookup_erase_ne hother]
      · rfl
    rw [not_exists] at hbind hclose
    exact held_neutral hbind hclose
  leave_own pid m := by
    ext address
    simp [System.held, Machine.holder_leave]
  leave_others pid m pid' hpid := by
    ext address
    simp [System.held, Machine.holder_leave, hpid]

end accounts

/-! ## Programs that are not about names -/

/-- The program reserves no name, and gives none up. -/
def Offline {α : Type} (p : Proc α) : Prop := p.Makes name_effects.Neutral

section offline

open Process

variable {α β : Type} {p p' : Proc α} {f : α → Proc β} {store : Store}

theorem offline_of_idle (h : p.Uses Idle) : Offline p :=
  h.makes.mono fun _ => Idle.neutral

theorem offline_of_removing (h : p.Uses Removing) : Offline p := by
  apply h.makes.mono
  rintro c (hidle | ⟨store, name, rfl⟩ | ⟨rules, name, rfl⟩)
  · exact hidle.neutral
  · exact neutral_unlink _
  · exact neutral_unlink _

theorem offline_bind (hp : Offline p) (hf : ∀ a, Offline (f a)) : Offline (p >>= f) :=
  makes_bind hp hf

theorem offline_unless {b : Bool} (hp : Offline p) (hp' : Offline p') :
    Offline (if !b then p else p') :=
  makes_ite hp hp'

/-- A call on files. -/
theorem offline_call {c : SystemCall} (hbind : ∀ address, c ≠ .bind address)
    (hclose : ∀ address, c ≠ .close_socket address) : Offline (Process.ask c : Proc (Reply c)) :=
  makes_ask.mpr (neutral_of_ne hbind hclose)

theorem offline_status {call : Proc Bool} (hcall : StatusCall call) : Offline call := by
  cases hcall
  all_goals exact offline_call nofun nofun

theorem offline_unlink (path : CString) : Offline (unlink path) := offline_call nofun nofun

theorem offline_mkstemp (template : CString) : Offline (mkstemp template) :=
  offline_call nofun nofun

theorem offline_link (path path' : CString) : Offline (link path path') :=
  offline_call nofun nofun

theorem offline_write (descriptor : Nat) (bytes : Bytes) : Offline (write descriptor bytes) :=
  offline_call nofun nofun

theorem offline_lstat (path : CString) : Offline (lstat path) := offline_call nofun nofun

theorem offline_installed_instance_path (name : Option CString) :
    Offline (installed_instance_path store name) := by
  unfold installed_instance_path
  split
  · apply offline_bind (offline_status .malloc)
    exact fun _ => offline_unless (makes_pure _) (makes_pure _)
  · exact makes_pure _

theorem offline_create_cleanup (descriptor : Option Nat) (path : Option CString)
    (result : StoreResult) : Offline (create_cleanup descriptor path result) := by
  unfold create_cleanup
  cases descriptor with
  | none =>
    cases path with
    | none => exact makes_pure _
    | some path => exact offline_bind (offline_unlink path) fun _ => makes_pure _
  | some id =>
    apply offline_bind (offline_status (.close id))
    intro r
    cases path with
    | none => exact makes_pure _
    | some path => exact offline_bind (offline_unlink path) fun _ => makes_pure _

theorem offline_store_write_all (fuel descriptor : Nat) (content : Bytes) :
    Offline (store_write_all fuel descriptor content) := by
  apply makes_loop
  intro rest
  apply makes_ite (makes_pure _)
  apply offline_bind (offline_write descriptor rest)
  intro r
  split <;> exact makes_pure _

theorem offline_rule_write_all (fuel descriptor : Nat) (content : Bytes) :
    Offline (rule_write_all fuel descriptor content) := by
  apply makes_loop
  intro rest
  apply makes_ite (makes_pure _)
  apply offline_bind (offline_write descriptor rest)
  intro r
  split <;> exact makes_pure _

theorem offline_create_artifact (fuel : Nat) (path : CString) (content : Bytes) :
    Offline (create_artifact fuel store path content) := by
  have hcleanup : ∀ {descriptor path result}, Offline (create_cleanup descriptor path result) :=
    offline_create_cleanup _ _ _
  apply offline_bind (offline_mkstemp _)
  rintro ⟨made, temporary_path⟩
  cases made with
  | error errno => exact hcleanup
  | ok descriptor =>
    apply offline_bind (offline_status (.fchmod descriptor))
    intro r
    apply offline_unless hcleanup
    apply offline_bind (offline_store_write_all fuel descriptor content)
    intro r
    apply offline_unless hcleanup
    apply offline_bind (offline_status (.fsync descriptor))
    intro r
    apply offline_unless hcleanup
    apply offline_bind (offline_status (.close descriptor))
    intro r
    apply offline_unless hcleanup
    apply offline_bind (offline_link temporary_path path)
    intro r
    split
    · exact hcleanup
    · apply offline_bind (offline_unlink temporary_path)
      intro r
      split <;> exact hcleanup

theorem offline_installed_instance_create (fuel : Nat) (config : RunConfig) :
    Offline (installed_instance_create fuel store config) := by
  unfold installed_instance_create
  split
  · exact makes_pure _
  apply makes_ite (makes_pure _)
  apply offline_bind (offline_installed_instance_path _)
  intro path
  split
  · exact makes_pure _
  · exact makes_pure _
  · apply offline_bind (offline_status .malloc)
    intro r
    apply offline_unless (makes_pure _)
    apply offline_bind (offline_status .malloc)
    intro r
    apply offline_unless (makes_pure _)
    exact offline_create_artifact fuel _ _

theorem offline_publish_cleanup (descriptor : Option Nat) (temporary : CString) (success : Bool) :
    Offline (publish_cleanup descriptor temporary success) := by
  have hend : Offline (do
      let _ ← unlink temporary
      return success) :=
    offline_bind (offline_unlink temporary) fun _ => makes_pure _
  cases descriptor with
  | none => exact hend
  | some id => exact offline_bind (offline_status (.close id)) fun _ => hend

theorem offline_publish_rule (fuel : Nat) (directory path : CString) (content : Bytes)
    (inject_failure : Bool) :
    Offline (publish_rule fuel directory path content inject_failure) := by
  have hcleanup : ∀ {descriptor temporary success},
      Offline (publish_cleanup descriptor temporary success) := offline_publish_cleanup _ _ _
  apply offline_bind (offline_status .malloc)
  intro r
  apply offline_unless (makes_pure _)
  apply offline_bind (offline_mkstemp _)
  rintro ⟨made, temporary⟩
  cases made with
  | error errno => exact hcleanup
  | ok descriptor =>
    apply offline_bind (offline_status (.fchmod descriptor))
    intro r
    apply offline_unless hcleanup
    apply offline_bind (offline_rule_write_all fuel descriptor content)
    intro r
    apply offline_unless hcleanup
    apply offline_bind (offline_status (.fsync descriptor))
    intro r
    apply offline_unless hcleanup
    apply offline_bind (offline_status (.close descriptor))
    intro r
    apply offline_unless hcleanup
    apply makes_ite hcleanup
    apply offline_bind (offline_link temporary path)
    intro r
    split <;> exact hcleanup

theorem offline_roll_back (environment : ApplicationEnvironment) (name : Option CString) :
    Offline (roll_back store environment name) := by
  have hremove : Offline (installed_instance_remove store name) := by
    apply offline_bind (offline_installed_instance_path name)
    intro path
    split
    · exact makes_pure _
    · apply offline_bind (offline_unlink _)
      intro r
      split <;> exact makes_pure _
  unfold roll_back
  -- what is said of the rollback goes by whether the artifact is gone
  refine makes_ite (offline_bind (makes_pure _) ?_) (offline_bind hremove ?_)
  all_goals
    intro removed
    apply makes_ite (makes_pure _)
    apply offline_bind (offline_installed_instance_path name)
    intro path
    split <;> exact makes_pure _

theorem offline_installation_plan_apply (fuel : Nat) (environment : ApplicationEnvironment)
    (plan : InstallationPlan) :
    Offline (installation_plan_apply fuel store environment plan) := by
  unfold installation_plan_apply
  split
  case h_2 => exact makes_pure _
  apply makes_ite (makes_pure _)
  apply makes_ite
  · apply offline_bind (offline_installed_instance_create fuel _)
    intro r
    exact makes_ite (makes_pure _) (makes_pure _)
  split
  · exact makes_pure _
  apply offline_bind (offline_status .malloc)
  intro r
  apply offline_unless (makes_pure _)
  split
  · exact makes_pure _
  apply offline_bind (offline_status .malloc)
  intro r
  apply offline_unless (makes_pure _)
  apply offline_bind (offline_lstat _)
  intro r
  split
  · apply offline_bind (offline_installed_instance_create fuel _)
    intro r
    apply makes_ite (makes_pure _)
    apply offline_bind (offline_publish_rule ..)
    intro published
    exact makes_ite (makes_pure _) (offline_roll_back environment _)
  · exact makes_pure _

end offline

/-! ## Programs that reserve a name -/

/-- A program that ends without a name, whatever it is called with. -/
def EndsWithout {α : Type} (p : Proc α) (owned : Set Bytes) : Prop :=
  p.Owns name_effects owned fun _ owned' => owned' = ∅

section reserving

open Process

variable {α β : Type} {p : Proc α} {f : α → Proc β} {store : Store} {owned : Set Bytes}
  {address : Bytes}

theorem EndsWithout.of_offline (h : Offline p) : EndsWithout p ∅ := owns_of_makes h

theorem EndsWithout.bind (hp : Offline p) (hf : ∀ a, EndsWithout (f a) owned) :
    EndsWithout (p >>= f) owned :=
  owns_bind_neutral hp hf

/-- Who has the ownership has the address. -/
theorem owns_instance_name_acquire (name : Option CString) :
    (instance_name_acquire name).Owns name_effects ∅ fun acquired owned =>
      owned = {address | acquired = .ok address} := by
  have hfail : ∀ result, (pure (.error result) : Proc (Except Result Bytes)).Owns name_effects ∅
      fun acquired owned => owned = {address | acquired = .ok address} := by
    intro result
    apply (owns_pure _).mpr
    ext other
    simp
  unfold instance_name_acquire
  split
  · exact hfail _
  rename_i address _
  apply owns_bind_neutral (offline_status .malloc)
  intro r
  apply owns_unless (hfail _)
  have hsocket : Offline socket := offline_call nofun nofun
  apply owns_bind_neutral hsocket
  intro r
  apply owns_unless (hfail _)
  apply owns_bind
  apply owns_ask nofun
  intro (bound : Bound)
  cases bound with
  | BOUND =>
    ext other
    simp [Effects.after, name_effects, bound_address]
  | IN_USE =>
    ext other
    simp [Effects.after, name_effects, bound_address]
  | FAILED =>
    ext other
    simp [Effects.after, name_effects, bound_address]

theorem owns_instance_name_release (ownership : Option Bytes) :
    (instance_name_release ownership).Owns name_effects {address | ownership = some address}
      fun _ owned => owned = ∅ := by
  cases ownership with
  | none =>
    apply (owns_pure _).mpr
    ext other
    simp
  | some address =>
    apply owns_ask
    · rintro other ⟨⟩
      rfl
    · intro r
      ext other
      simp [Effects.after, name_effects, eq_comm]

theorem EndsWithout.release (ownership : Option Bytes)
    {f : Unit → Proc α} (hf : ∀ u, EndsWithout (f u) ∅) :
    EndsWithout (instance_name_release ownership >>= f) {address | ownership = some address} := by
  apply owns_bind
  apply owns_mono (owns_instance_name_release ownership)
  rintro u _ rfl
  exact hf u

/-- A plan comes with its name. -/
theorem owns_installation_plan_create (request : InstallationRequest) :
    (installation_plan_create store request).Owns name_effects ∅ fun created owned =>
      owned = {address | ∃ plan, created = .ok (plan, address)} := by
  have hfail : ∀ result, (pure (.error result) :
      Proc (Except PlanResult (InstallationPlan × Bytes))).Owns name_effects ∅
        fun created owned => owned = {address | ∃ plan, created = .ok (plan, address)} := by
    intro result
    apply (owns_pure _).mpr
    ext other
    simp
  unfold installation_plan_create
  split
  case h_2 => exact hfail _
  split
  · exact hfail _
  split
  · exact hfail _
  split
  · exact hfail _
  split
  · exact hfail _
  apply owns_bind_neutral (offline_of_idle (uses_installed_instance_exists _))
  intro found
  split
  · exact hfail _
  · exact hfail _
  · exact hfail _
  apply owns_bind_neutral (offline_status .malloc)
  intro r
  apply owns_unless (hfail _)
  apply owns_bind
  apply owns_mono (owns_instance_name_acquire _)
  rintro acquired _ rfl
  cases acquired with
  | error result =>
    have hnone : {address | (Except.error result : Except Result Bytes) = .ok address} = ∅ := by
      ext other
      simp
    rw [hnone]
    exact hfail _
  | ok address =>
    apply owns_bind_neutral (offline_status .malloc)
    intro source_copied
    apply owns_bind_neutral (offline_status .malloc)
    intro name_copied
    apply owns_unless
    · apply owns_bind
      have hset : {other | (Except.ok address : Except Result Bytes) = .ok other} =
          {other | some address = some other} := by
        ext other
        simp
      rw [hset]
      apply owns_mono (owns_instance_name_release (some address))
      rintro u _ rfl
      exact hfail _
    · apply (owns_pure _).mpr
      ext other
      simp

/-- The activation has what its result says. -/
theorem owns_installation_plan_activate (plan : InstallationPlan) (source_path : CString)
    (ownership : Option Bytes) :
    (installation_plan_activate plan source_path ownership).Owns name_effects
      {address | ownership = some address} fun activated owned =>
        owned = {address | activated.2 = some address} := by
  have hkept : ∀ result, (pure (result, ownership) :
      Proc (ActivationResult × Option Bytes)).Owns name_effects {address | ownership = some address}
        fun activated owned => owned = {address | activated.2 = some address} :=
    fun _ => rfl
  have hnone : ∀ result, (pure (result, none) :
      Proc (ActivationResult × Option Bytes)).Owns name_effects ∅
        fun activated owned => owned = {address | activated.2 = some address} := by
    intro result
    ext other
    simp
  have hcommand : ∀ arguments, Offline (do return (← run_command arguments) = 0 : Proc Bool) :=
    fun arguments => offline_of_idle (uses_command arguments)
  unfold installation_plan_activate
  split
  case h_2 => exact hkept _
  rename_i resolution readiness name _ _ _
  split
  · exact hkept _
  apply owns_ite_bind (offline_of_idle (uses_activate_rule _)) (makes_pure _)
  intro failure
  dsimp only
  split
  · exact hkept _
  split
  · exact hkept _
  apply owns_bind_neutral (hcommand _)
  intro enabled
  apply owns_unless (hkept _)
  apply owns_bind
  apply owns_mono (owns_instance_name_release ownership)
  rintro u _ rfl
  apply owns_bind_neutral (hcommand _)
  intro started
  apply owns_unless (hnone _)
  apply owns_bind_neutral (offline_of_idle (uses_default_service_state _))
  exact fun state => hnone _

theorem carry_out_ends_without (fuel : Nat) (environment : ApplicationEnvironment)
    (plan : InstallationPlan) (source_path : CString) :
    EndsWithout (carry_out fuel store environment plan source_path address)
      {other | some address = some other} := by
  apply EndsWithout.bind (offline_installation_plan_apply fuel environment plan)
  intro applied
  split
  · exact EndsWithout.release _ fun _ => .of_offline (makes_pure _)
  apply owns_bind
  apply owns_mono (owns_installation_plan_activate plan source_path (some address))
  rintro ⟨result, ownership⟩ _ rfl
  exact EndsWithout.release ownership fun _ => .of_offline (makes_pure _)

theorem install_command_ends_without (fuel : Nat) (environment : ApplicationEnvironment)
    (request : InstallationRequest) (assessment : Option Assessment) :
    EndsWithout (install_command fuel store environment request assessment) ∅ := by
  apply owns_bind
  apply owns_mono (owns_installation_plan_create request)
  rintro created _ rfl
  cases created with
  | error result =>
    ext other
    simp
  | ok created =>
    obtain ⟨plan, address⟩ := created
    have hset : {other | ∃ plan', (Except.ok (plan, address) :
        Except PlanResult (InstallationPlan × Bytes)) = .ok (plan', other)} =
          {other | some address = some other} := by
      ext other
      simp
    rw [hset]
    dsimp only
    split
    · exact EndsWithout.release _ fun _ => .of_offline (makes_pure _)
    split
    · exact EndsWithout.release _ fun _ => .of_offline (makes_pure _)
    · exact carry_out_ends_without fuel ..

theorem install_environment_ends_without (fuel : Nat) (environment : InstallEnvironment)
    (argv : List CString) :
    EndsWithout (install_command_with_environment fuel environment argv) ∅ := by
  have hfailed : EndsWithout (pure Exit.FAILURE) ∅ := .of_offline (makes_pure _)
  unfold install_command_with_environment
  split
  · exact hfailed
  split
  · exact hfailed
  unfold install_options
  split
  · exact hfailed
  unfold install_source
  split
  · exact hfailed
  unfold install_request
  split
  · exact hfailed
  apply EndsWithout.bind (offline_status .malloc)
  intro r
  apply owns_unless hfailed
  apply EndsWithout.bind (offline_status .malloc)
  intro r
  apply owns_unless hfailed
  exact install_command_ends_without fuel ..

theorem owns_session_create (config : Option RunConfig) :
    (session_create config).Owns name_effects ∅ fun created owned =>
      owned = {address | ∃ session, created = .ok (session, address)} := by
  have hfail : ∀ result, (pure (.error result) :
      Proc (Except Result (SessionConfig × Bytes))).Owns name_effects ∅
        fun created owned => owned = {address | ∃ session, created = .ok (session, address)} := by
    intro result
    ext other
    simp
  unfold session_create
  split
  · exact hfail _
  split
  case h_2 => exact hfail _
  split
  · exact hfail _
  apply owns_bind_neutral (offline_status .malloc)
  intro r
  apply owns_unless (hfail _)
  apply owns_bind_neutral (offline_status .malloc)
  intro r
  apply owns_unless (hfail _)
  apply owns_bind_neutral (offline_status .malloc)
  intro r
  apply owns_unless (hfail _)
  apply owns_bind
  apply owns_mono (owns_instance_name_acquire _)
  rintro acquired _ rfl
  cases acquired with
  | error result =>
    ext other
    simp
  | ok address =>
    ext other
    simp

/-- A session that goes on and on keeps its name; one that ends gives it up. -/
theorem run_proxy_ends_without (fuel : Nat) (environment : RunEnvironment) (argv : List CString) :
    EndsWithout (run_proxy fuel environment argv) ∅ := by
  have hfailed : EndsWithout (pure Exit.FAILURE) ∅ := .of_offline (makes_pure _)
  have hsession : ∀ session, Offline (run_of_session fuel environment session) := by
    intro session
    unfold run_of_session
    split <;> trivial
  unfold run_proxy
  split
  · exact hfailed
  apply owns_bind
  apply owns_mono (owns_session_create _)
  rintro created _ rfl
  cases created with
  | error result =>
    ext other
    simp
  | ok created =>
    obtain ⟨session, address⟩ := created
    have hset : {other | ∃ session', (Except.ok (session, address) :
        Except Result (SessionConfig × Bytes)) = .ok (session', other)} =
          {other | some address = some other} := by
      ext other
      simp
    rw [hset]
    apply owns_unless
    · exact EndsWithout.release _ fun _ => hfailed
    apply EndsWithout.bind (hsession session)
    intro result
    exact EndsWithout.release _ fun _ => .of_offline (makes_pure _)

theorem main_ends_without (fuel : Nat) (environment : MainEnvironment) (argv : List CString) :
    EndsWithout (main fuel environment argv) ∅ := by
  have hdone : ∀ exit : Exit, EndsWithout (pure exit) ∅ := fun _ => .of_offline (makes_pure _)
  have huninstall : ∀ program_name argument,
      EndsWithout (uninstall_command environment.uninstall program_name argument) ∅ :=
    fun _ _ => .of_offline (offline_of_removing (removing_uninstall_command ..))
  unfold main
  split
  case h_2 => exact hdone _
  split
  · exact hdone _
  split
  · exact hdone _
  split
  · exact hdone _
  split
  · split
    · split
      · apply EndsWithout.bind (offline_of_idle ((uses_response_file_read ..).mono fun _ =>
          Reading.idle))
        intro argv
        split
        · exact hdone _
        · exact run_proxy_ends_without ..
      · exact run_proxy_ends_without ..
    · exact run_proxy_ends_without ..
  split
  · exact hdone _
  split
  · exact install_environment_ends_without ..
  split
  · exact hdone _
  split
  · split
    · exact huninstall ..
    · exact huninstall ..
    · exact hdone _
  · exact hdone _

end reserving

/-! ## The system -/

/-- A process that runs the program. -/
structure Invocation where
  fuel : Nat
  environment : MainEnvironment
  argv : List CString

def Invocation.program (invocation : Invocation) : Proc Exit :=
  main invocation.fuel invocation.environment invocation.argv

/-- Any number of them, none of which has made a call. -/
def started (invocations : Nat → Option Invocation) (m : Machine) :
    System Nat Reply Exit Machine :=
  ⟨m, fun pid => (invocations pid).map Invocation.program, []⟩

/-- The names are reserved and given up in order. -/
structure NamesKept (invocations : Nat → Option Invocation) (m : Machine)
    (s : System Nat Reply Exit Machine) : Prop where
  reserved : ∀ n pid, HasName n pid s.trace → s.state.holder n.address = some pid
  stay : ∀ pid address event, s.state.holder address = some pid → event ≠ .gone pid →
    (∀ choice, event ≠ .step pid choice) →
    (System.fire answer Machine.leave s event).state.holder address = some pid
  given_up : ∀ pid address, (invocations pid).isSome →
    (s.tasks pid = none ∨ ∃ exit, s.tasks pid = some (.done exit)) →
    s.state.holder address ≠ some pid
  restored : (∀ pid p, s.tasks pid = some p → ∃ exit, p = .done exit) →
    s.state.holder = m.holder

section system

variable {invocations : Nat → Option Invocation} {m : Machine}

theorem started_isSome {pid : Nat} :
    ((started invocations m).tasks pid).isSome = (invocations pid).isSome :=
  Option.isSome_map ..

/-- None of the processes has a name at first. -/
theorem kept_started
    (hfree : ∀ pid, (invocations pid).isSome → ∀ address, m.holder address ≠ some pid)
    (events : List (Event Nat Choice)) :
    System.Kept name_effects Machine.holder (started invocations m)
      (System.run answer Machine.leave events (started invocations m)) := by
  apply System.Kept.run accounts
  intro pid p hp
  obtain ⟨invocation, hinvocation, rfl⟩ := Option.map_eq_some_iff.mp hp
  have hnone : System.held Machine.holder pid (started invocations m).state = ∅ :=
    Set.eq_empty_of_forall_notMem fun address =>
      hfree pid (Option.isSome_of_eq_some hinvocation) address
  rw [hnone]
  exact main_ends_without ..

theorem reserved_fire (s : System Nat Reply Exit Machine) (event : Event Nat Choice)
    (h : ∀ n pid, HasName n pid s.trace → s.state.holder n.address = some pid) :
    ∀ n pid, HasName n pid (System.fire answer Machine.leave s event).trace →
      (System.fire answer Machine.leave s event).state.holder n.address = some pid := by
  rcases System.fire_cases answer Machine.leave s event with heq |
    ⟨pid', choice, c, next, -, -, heq⟩ | ⟨pid', -, -, heq⟩
  · rwa [heq]
  · rw [heq]
    exact fun n pid => holder_of_holds (h n pid)
  · rw [heq]
    rintro n pid ⟨hpid, hholds⟩
    exact Machine.holder_leave.mpr ⟨h n pid hholds, hpid.symm⟩

/-- However many processes run the program, with whatever commands, in whatever order their calls
come and whichever of them are killed. -/
theorem names_stay_with_their_owners
    (hfree : ∀ pid, (invocations pid).isSome → ∀ address, m.holder address ≠ some pid)
    (events : List (Event Nat Choice)) :
    NamesKept invocations m
      (System.run answer Machine.leave events (started invocations m)) := by
  have hkept := kept_started hfree events
  have hfirst : ∀ n pid, HasName n pid (started invocations m).trace →
      (started invocations m).state.holder n.address = some pid := by
    intro n pid hholds
    exact hholds.elim
  have hnone : ∀ pid, ((started invocations m).tasks pid).isSome →
      System.held Machine.holder pid (started invocations m).state = ∅ := by
    intro pid hsome
    rw [started_isSome] at hsome
    exact Set.eq_empty_of_forall_notMem fun address => hfree pid hsome address
  refine ⟨?_, fun pid address event hheld hgone hstep => ?_,
    fun pid address hsome hover hheld => ?_, hkept.restored hnone⟩
  · exact System.run_induction answer Machine.leave reserved_fire hfirst events
  · have hsame := hkept.held_of_other accounts hgone hstep
    exact (Set.ext_iff.mp hsame address).mpr hheld
  · rcases hover with htask | ⟨exit, htask⟩
    · have hempty := hkept.gone pid (started_isSome.trans hsome) htask
      exact (Set.ext_iff.mp hempty address).mp hheld
    · exact (Set.ext_iff.mp (hkept.ended htask) address).mp hheld

end system

def desk : InstanceName := ⟨cstr "desk", by decide⟩

/-- Two runs of one name. -/
def two_runs : Nat → Option Invocation
  | 0 | 1 => some ⟨2, keyboard_environment, [cstr "input-proxy", RUN, cstr "--source",
      cstr "/dev/input/event8", cstr "--name", desk.name]⟩
  | _ => none

theorem the_second_run_of_a_name_leaves_it_to_the_first :
    let s := System.run answer Machine.leave (turns 6) (started two_runs empty_machine)
    NamesKept two_runs empty_machine s ∧ s.state.holder desk.address = some 0 := by
  intro s
  have hfree : ∀ pid address, empty_machine.holder address ≠ some pid := by
    intro pid address hheld
    cases hheld
  refine ⟨names_stay_with_their_owners (fun pid _ => hfree pid) (turns 6), ?_⟩
  decide +kernel

end input_proxy
