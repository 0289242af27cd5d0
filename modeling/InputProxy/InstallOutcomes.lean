-- The install command as a whole, from its arguments to its exit status: what it leaves
-- behind wherever it ends or is killed. Where it ends with success, what was agreed is on
-- disk, and the service has been enabled, started and seen to run.
import InputProxy.AtomicApplication
import InputProxy.NameOwnership
import InputProxy.UninstallAttempts

open c_strings disks processes

namespace input_proxy

/-! ## Commands -/

def ENABLE (unit : CString) : List CString := [cstr "systemctl", cstr "enable", unit]

def START (unit : CString) : List CString := [cstr "systemctl", cstr "start", unit]

def SHOW (unit : CString) : List CString :=
  [cstr "systemctl", cstr "show", cstr "--property=ActiveState", cstr "--property=SubState",
    cstr "--value", unit]

/-- The commands of an activation, where a rule is made to act on the device at `path`. -/
def activation_commands (libinput_ignore_action : Bool) (path unit : CString) :
    List (List CString) :=
  (if libinput_ignore_action then [RELOAD, TRIGGER path, SETTLE] else []) ++
    [ENABLE unit, START unit, SHOW unit]

/-- The path in sysfs of what a source was found to be. -/
def Resolves (calls : List (SystemCall × Choice)) (source_path path : CString) : Prop :=
  ∃ choice, (SystemCall.realpath source_path, choice) ∈ calls ∧
    choice.resolved.bind (source_sysfs_path · 4096) = some path

namespace Machine

/-- After commands that all ended with 0. -/
def ran (m : Machine) (commands : List (List CString)) : Machine :=
  { m with log := m.log ++ commands.map fun arguments => .ran arguments 0 }

def take_name (m : Machine) (pid : Nat) (address : Bytes) : Machine :=
  { m with sockets := m.sockets.insert address pid }

def give_name_up (m : Machine) (address : Bytes) : Machine :=
  { m with sockets := m.sockets.erase address }

variable {m : Machine} {pid : Nat} {address : Bytes} {commands commands' : List (List CString)}

@[simp] theorem give_name_up_ran :
    (m.ran commands).give_name_up address = (m.give_name_up address).ran commands := rfl

@[simp] theorem ran_ran : (m.ran commands).ran commands' = m.ran (commands ++ commands') := by
  simp [ran]

@[simp] theorem ran_nil : m.ran [] = m := by
  simp [ran]

theorem holder_take_name : (m.take_name pid address).holder address = some pid :=
  AList.lookup_insert _

/-- A name that was free is free again. -/
theorem holder_give_name_up {m' : Machine} (hfree : m.holder address = none)
    (hsockets : m'.sockets = (m.take_name pid address).sockets) :
    (m'.give_name_up address).holder = m.holder := by
  funext other
  unfold holder give_name_up
  rw [hsockets]
  by_cases hother : other = address
  · subst hother
    exact (AList.lookup_erase ..).trans hfree.symm
  · exact (AList.lookup_erase_ne hother).trans (AList.lookup_insert_ne hother)

end Machine

/-! ## The activation -/

section activation

open Process

variable {calls : List (SystemCall × Choice)} {pid : Nat} {m : Machine} {store : Store}

/-- Nothing is known of a process that is killed. -/
theorem wp_answered {c : SystemCall} {Q : Reply c → Machine → Prop}
    (h : ∀ choice, Q (answer pid choice c m).1 (answer pid choice c m).2) :
    wp (answer pid) Any (fun _ => True) (Process.ask c) Q m :=
  Process.wp_ask.mpr ⟨fun _ => trivial, fun choice _ => h choice⟩

theorem met_ask {c : SystemCall} {Q : Reply c → Machine → Prop}
    (h : ∀ choice, (c, choice) ∈ calls → Q (answer pid choice c m).1 (answer pid choice c m).2) :
    wp (answer pid) (Met calls) (fun _ => True) (Process.ask c) Q m :=
  Process.wp_ask.mpr ⟨fun _ => trivial, fun choice hchoice => h choice (hchoice choice rfl)⟩

/-- What holds of any calls. -/
theorem met_any {α : Type} {p : Proc α} {I : Machine → Prop} {Q : α → Machine → Prop}
    (h : wp (answer pid) Any I p Q m) : wp (answer pid) (Met calls) (fun _ => True) p Q m :=
  wp_can_mono (wp_mono h (fun _ _ => trivial) fun _ _ h => h) fun _ _ _ _ => trivial

/-- Memory is there or not. -/
theorem met_allocation {Q : Bool → Machine → Prop} (h : ∀ r, Q r m) :
    wp (answer pid) (Met calls) (fun _ => True) malloc Q m :=
  met_ask fun _ _ => h _

/-- A run that comes to its end. -/
theorem run_of_met {α : Type} {p : Proc α} {a : α} {choices : Nat → SystemCall → Option Choice}
    {Q : α → Machine → Prop}
    (h : wp (answer pid) (Met (p.calls (answer pid) choices m)) (fun _ => True) p Q m)
    (hended : (Process.run (answer pid) p choices m).1 = some a) :
    Q a (Process.run (answer pid) p choices m).2 := by
  rcases Process.run_of_wp h (along_met fun _ h => h) with ⟨hkilled, -⟩ | ⟨a', ha', hQ⟩
  · exact absurd (hended.symm.trans hkilled) (Option.some_ne_none a)
  · obtain rfl : a = a' := Option.some.inj (hended.symm.trans ha')
    exact hQ

theorem wp_command (arguments : List CString) :
    wp (answer pid) Any (fun _ => True) (do return (← run_command arguments) = 0 : Proc Bool)
      (fun r m' => r = true → m' = m.ran [arguments]) m := by
  apply wp_bind.mpr
  apply wp_answered
  intro choice hzero
  have hstatus : choice.status = 0 := of_decide_eq_true hzero
  simp only [answer, hstatus]
  rfl

theorem met_default_trigger (source_path : CString) :
    wp (answer pid) (Met calls) (fun _ => True) (default_trigger source_path)
      (fun r m' => r = true → ∃ path, Resolves calls source_path path ∧ m' = m.ran [TRIGGER path])
      m := by
  apply wp_bind.mpr
  apply met_ask
  intro choice hchoice
  simp only [answer]
  split
  · exact (wp_pure _).mpr (by simp)
  rename_i resolved hresolved
  split
  · exact (wp_pure _).mpr (by simp)
  · rename_i path hpath
    apply wp_mono (met_any (wp_command _)) fun _ h => h
    exact fun r m' h hr => ⟨path, ⟨choice, hchoice, by rw [hresolved]; exact hpath⟩, h hr⟩

theorem met_activate_rule (source_path : CString) :
    wp (answer pid) (Met calls) (fun _ => True) (activate_rule source_path)
      (fun r m' => r ≠ some .SUCCESS ∧ (r = none → ∃ path, Resolves calls source_path path ∧
        m' = m.ran [RELOAD, TRIGGER path, SETTLE])) m := by
  have hfail : ∀ {result : ActivationResult} {m'}, result ≠ .SUCCESS →
      wp (answer pid) (Met calls) (fun _ => True) (pure (some result))
        (fun r m' => r ≠ some .SUCCESS ∧ (r = none → ∃ path, Resolves calls source_path path ∧
          m' = m.ran [RELOAD, TRIGGER path, SETTLE])) m' :=
    fun hresult => (wp_pure _).mpr (by simpa using hresult)
  apply wp_bind.mpr
  apply wp_mono (met_any (wp_command RELOAD)) fun _ h => h
  intro reloaded m1 h1
  apply wp_unless (hfail (by decide))
  intro hreloaded
  obtain rfl := h1 hreloaded
  apply wp_bind.mpr
  apply wp_mono (met_default_trigger source_path) fun _ h => h
  intro triggered m2 h2
  apply wp_unless (hfail (by decide))
  intro htriggered
  obtain ⟨path, hpath, rfl⟩ := h2 htriggered
  apply wp_bind.mpr
  apply wp_mono (met_any (wp_command SETTLE)) fun _ h => h
  intro settled m3 h3
  apply wp_unless (hfail (by decide))
  intro hsettled
  obtain rfl := h3 hsettled
  apply wp_bind.mpr
  refine met_any (wp_idle (I := fun _ => True) (fun _ => rfl) trivial fun verified => ?_)
  apply wp_unless (hfail (by decide))
  intro _
  exact (wp_pure _).mpr ⟨by simp, fun _ => ⟨path, hpath, by simp⟩⟩

theorem wp_default_service_state (unit : CString) :
    wp (answer pid) Any (fun _ => True) (default_service_state unit)
      (fun r m' => r = .SUCCESS → m' = m.ran [SHOW unit]) m := by
  apply wp_bind.mpr
  apply wp_answered
  intro choice
  have hother : ∀ {state : ActivationResult} {m' : Machine}, state ≠ .SUCCESS →
      wp (answer pid) Any (fun _ => True) (pure state : Proc ActivationResult)
        (fun r m'' => r = .SUCCESS → m'' = m.ran [SHOW unit]) m' :=
    fun hne => (wp_pure _).mpr fun h => absurd h hne
  simp only [answer]
  split
  · exact hother (by decide)
  rename_i hstatus
  rw [not_not.mp hstatus]
  split
  · exact fun _ => rfl
  split
  · exact hother (by decide)
  · exact hother (by decide)

theorem wp_instance_name_release {address : Bytes} (hheld : m.holder address = some pid) :
    wp (answer pid) Any (fun _ => True) (instance_name_release (some address))
      (fun _ m' => m' = m.give_name_up address) m := by
  apply wp_answered
  intro choice
  simp only [answer, if_pos hheld]
  rfl

/-- The name is given up, and every command succeeds; where there is a rule, it is made to act on
the source. -/
def ServiceActivated (calls : List (SystemCall × Choice)) (plan : InstallationPlan)
    (source_path : CString) (address : Bytes) (m : Machine)
    (activated : ActivationResult × Option Bytes) (m' : Machine) : Prop :=
  activated.1 = .SUCCESS → activated.2 = none ∧ ∃ resolution name path unit,
    plan.resolution = some resolution ∧ plan.config.instance_name = some name ∧
    (resolution.libinput_ignore_action = true → Resolves calls source_path path) ∧
    unit_name 256 name = some unit ∧ m' = (m.give_name_up address).ran
      (activation_commands resolution.libinput_ignore_action path unit)

theorem met_installation_plan_activate {plan : InstallationPlan} {source_path : CString}
    {address : Bytes} (hheld : m.holder address = some pid) :
    wp (answer pid) (Met calls) (fun _ => True)
      (installation_plan_activate plan source_path (some address))
      (ServiceActivated calls plan source_path address m) m := by
  have hfail : ∀ {result : ActivationResult} {ownership m'}, result ≠ .SUCCESS →
      wp (answer pid) (Met calls) (fun _ => True) (pure (result, ownership))
        (ServiceActivated calls plan source_path address m) m' :=
    fun hresult hsuccess => absurd hsuccess hresult
  unfold installation_plan_activate
  split
  case h_2 => exact hfail (by decide)
  rename_i resolution readiness name hresolution _ hname
  split
  · exact hfail (by decide)
  refine wp_ite_bind (Q := fun r m' => r ≠ some .SUCCESS ∧ (r = none → ∃ path,
      (resolution.libinput_ignore_action = true → Resolves calls source_path path) ∧ m' = m.ran
        (if resolution.libinput_ignore_action then [RELOAD, TRIGGER path, SETTLE] else [])))
    (fun haction => ?_) (fun haction => ?_) fun failure m1 h1 => ?_
  · apply wp_mono (met_activate_rule source_path) fun _ h => h
    rintro r m' ⟨hr, hrule⟩
    refine ⟨hr, fun hnone => ?_⟩
    obtain ⟨path, hpath, rfl⟩ := hrule hnone
    exact ⟨path, fun _ => hpath, by rw [if_pos haction]⟩
  · refine (wp_pure _).mpr ⟨by simp, fun _ => ⟨cstr "", fun h => absurd h haction, ?_⟩⟩
    rw [if_neg haction, Machine.ran_nil]
  obtain ⟨hfailure, hrule⟩ := h1
  dsimp only
  split
  · apply hfail
    rintro rfl
    exact hfailure rfl
  obtain ⟨path, hpath, rfl⟩ := hrule rfl
  split
  · exact hfail (by decide)
  rename_i unit hunit
  apply wp_bind.mpr
  apply wp_mono (met_any (wp_command (ENABLE unit))) fun _ h => h
  intro enabled m2 h2
  apply wp_unless (hfail (by decide))
  intro henabled
  obtain rfl := h2 henabled
  have hstill : ((m.ran (if resolution.libinput_ignore_action then [RELOAD, TRIGGER path, SETTLE]
      else [])).ran [ENABLE unit]).holder address = some pid := hheld
  apply wp_bind.mpr
  apply wp_mono (met_any (wp_instance_name_release hstill)) fun _ h => h
  rintro u _ rfl
  apply wp_bind.mpr
  apply wp_mono (met_any (wp_command (START unit))) fun _ h => h
  intro started m3 h3
  apply wp_unless (hfail (by decide))
  intro hstarted
  obtain rfl := h3 hstarted
  apply wp_bind.mpr
  apply wp_mono (met_any (wp_default_service_state unit)) fun _ h => h
  intro state m4 h4 hstate
  refine ⟨rfl, resolution, name, path, unit, hresolution, hname, hpath, hunit, ?_⟩
  rw [h4 hstate]
  simp [activation_commands]

end activation

/-! ## The plan and its application -/

section application

open Process

variable {pid : Nat} {m : Machine} {store : Store}

theorem wp_bind_address {address : Bytes} {Q : Bound → Machine → Prop} (hfailed : Q .FAILED m)
    (hin_use : Q .IN_USE m)
    (hbound : m.holder address = none → Q .BOUND (m.take_name pid address)) :
    wp (answer pid) Any (fun _ => True) (input_proxy.bind address) Q m := by
  apply wp_answered
  intro choice
  simp only [answer]
  split
  · exact hfailed
  split
  · exact hin_use
  · rename_i hfree
    exact hbound (by simpa using hfree)

/-- A reservation that succeeds takes a name that was free. -/
theorem wp_instance_name_acquire (n : InstanceName) :
    wp (answer pid) Any (fun _ => True) (instance_name_acquire n.name)
      (fun r m' => ∀ address, r = .ok address →
        address = n.address ∧ m.holder n.address = none ∧ m' = m.take_name pid n.address) m := by
  have hfail : ∀ {result : Result} {m'}, wp (answer pid) Any (fun _ => True)
      (pure (.error result) : Proc (Except Result Bytes)) (fun r m' => ∀ address, r = .ok address →
        address = n.address ∧ m.holder n.address = none ∧ m' = m.take_name pid n.address) m' := by
    intro result m' address h
    cases h
  unfold instance_name_acquire
  rw [n.instance_name_address_eq]
  apply wp_bind.mpr
  apply wp_status .malloc trivial
  intro r
  apply wp_unless hfail
  intro _
  apply wp_bind.mpr
  apply wp_idle (fun _ => rfl) trivial
  intro r
  apply wp_unless hfail
  intro _
  apply wp_bind.mpr
  apply wp_bind_address hfail hfail
  intro hfree address h
  obtain rfl := Except.ok.inj h
  exact ⟨rfl, hfree, rfl⟩

/-- A plan that is made has a valid policy, and comes with its name. -/
structure PlanMade (request : InstallationRequest) (pid : Nat) (n : InstanceName)
    (plan : InstallationPlan) (address : Bytes) (m m' : Machine) : Prop where
  named : request.instance_name = some n.name
  config : plan.config = request.config
  address : address = n.address
  valid : runtime_policy_is_valid request.config = true
  free : m.holder n.address = none
  taken : m' = m.take_name pid n.address

theorem wp_installation_plan_create (request : InstallationRequest) :
    wp (answer pid) Any (fun _ => True) (installation_plan_create store request)
      (fun r m' => ∀ plan address, r = .ok (plan, address) →
        ∃ n, PlanMade request pid n plan address m m') m := by
  have hfail : ∀ {result : PlanResult} {m'}, wp (answer pid) Any (fun _ => True)
      (pure (.error result) : Proc (Except PlanResult (InstallationPlan × Bytes)))
      (fun r m' => ∀ plan address, r = .ok (plan, address) →
        ∃ n, PlanMade request pid n plan address m m') m' := by
    intro result m' plan address h
    cases h
  unfold installation_plan_create
  split
  case h_2 => exact hfail
  rename_i source_path name _ hname
  split
  · exact hfail
  split
  · exact hfail
  split
  · exact hfail
  rename_i hvalid
  split
  · exact hfail
  rename_i hvalidated
  let n : InstanceName := ⟨name, not_not.mp hvalidated⟩
  apply wp_bind.mpr
  apply wp_mono (wp_installed_instance_exists _ trivial) fun _ h => h
  rintro found _ ⟨rfl, -⟩
  split
  · exact hfail
  · exact hfail
  · exact hfail
  apply wp_bind.mpr
  apply wp_status .malloc trivial
  intro r
  apply wp_unless hfail
  intro _
  apply wp_bind.mpr
  apply wp_mono (wp_instance_name_acquire n) fun _ h => h
  intro acquired m' hacquired
  split
  · exact hfail
  rename_i address
  obtain ⟨rfl, hfree, rfl⟩ := hacquired address rfl
  apply wp_bind.mpr
  apply wp_status .malloc trivial
  intro source_copied
  apply wp_bind.mpr
  apply wp_status .malloc trivial
  intro name_copied
  apply wp_unless
  · apply wp_bind.mpr
    exact wp_of_forall (fun _ => trivial) fun _ _ => hfail
  · intro _ plan address h
    obtain ⟨rfl, rfl⟩ := Prod.mk.inj (Except.ok.inj h)
    exact ⟨n, hname, rfl, rfl, by simpa using hvalid, hfree, rfl⟩

/-- An application keeps all names. -/
theorem wp_installation_plan_apply_sockets (fuel : Nat) (environment : ApplicationEnvironment)
    (plan : InstallationPlan) :
    wp (answer pid) Any (fun m' => m'.sockets = m.sockets)
      (installation_plan_apply fuel store environment plan)
      (fun _ m' => m'.sockets = m.sockets) m := by
  have hmakes : (installation_plan_apply fuel store environment plan).Makes
      name_effects.Neutral := offline_installation_plan_apply fuel environment plan
  apply wp_of_makes hmakes
  · intro choice c m' hneutral hm
    rw [← hm]
    apply sockets_answer
    · rintro address rfl
      have htakes := hneutral.2 Bound.BOUND
      cases htakes
    · rintro address rfl
      cases hneutral.1
  · rfl

/-- The source is a line of the artifact. -/
def OneLine (config : RunConfig) : Prop :=
  ∀ source_path, config.source_path = some source_path → newline ∉ source_path.bytes

theorem wp_create_one_line (fuel : Nat) (config : RunConfig) :
    wp (answer pid) Any (fun _ => True) (installed_instance_create fuel store config)
      (fun r _ => r = .SUCCESS → OneLine config) m := by
  apply wp_mono (wp_installed_instance_create fuel config) fun _ _ => trivial
  intro r m' hcreated hsuccess
  obtain ⟨source_path, n, hsource, -, hline, -⟩ := hcreated.2 hsuccess
  intro source_path' hsource'
  obtain rfl := Option.some.inj (hsource.symm.trans hsource')
  exact hline

theorem wp_installation_plan_apply_one_line (fuel : Nat) (environment : ApplicationEnvironment)
    (plan : InstallationPlan) :
    wp (answer pid) Any (fun _ => True) (installation_plan_apply fuel store environment plan)
      (fun a _ => a.result = .SUCCESS → OneLine plan.config) m := by
  have hfail : ∀ {result : ApplicationResult} {path m'}, result ≠ .SUCCESS →
      wp (answer pid) Any (fun _ => True) (pure (Application.mk result path))
        (fun a _ => a.result = .SUCCESS → OneLine plan.config) m' :=
    fun hresult hsuccess => absurd hsuccess hresult
  unfold installation_plan_apply
  split
  case h_2 => exact hfail (by decide)
  split
  · exact hfail (by decide)
  split
  · apply wp_bind.mpr
    apply wp_mono (wp_create_one_line fuel plan.config) fun _ h => h
    intro r m' hcreated
    split
    · rename_i hsuccess
      exact fun _ => hcreated hsuccess
    · exact hfail (by decide)
  split
  · exact hfail (by decide)
  apply wp_bind.mpr
  apply wp_status .malloc trivial
  intro r
  apply wp_unless (hfail (by decide))
  intro _
  split
  · exact hfail (by decide)
  apply wp_bind.mpr
  apply wp_status .malloc trivial
  intro r
  apply wp_unless (hfail (by decide))
  intro _
  apply wp_bind.mpr
  apply wp_of_forall fun _ => trivial
  intro r m'
  split
  · apply wp_bind.mpr
    apply wp_mono (wp_create_one_line fuel plan.config) fun _ h => h
    intro r m' hcreated
    split
    · exact hfail (by decide)
    rename_i hsuccess
    have hline := hcreated (not_not.mp hsuccess)
    exact wp_of_forall (fun _ => trivial) fun _ _ _ => hline
  · exact hfail (by decide)

end application

/-! ## The command -/

/-- What a command that ends with success has done, by these calls and for this source, with a
rule or without one. -/
structure InstallDone (calls : List (SystemCall × Choice)) (store : Store) (rules : CString)
    (config : RunConfig) (n : InstanceName) (source_path : CString) (rule_identity : RuleIdentity)
    (rule : Bool) (m m' : Machine) : Prop where
  named : config.instance_name = some n.name
  one_line : OneLine config
  applied : AppliedInFull store rules ⟨config, some rule_identity, some ⟨rule, true, true⟩⟩ m m'
  activated : ∃ path unit, (rule = true → Resolves calls source_path path) ∧
    unit_name 256 n.name = some unit ∧ (activation_commands rule path unit).map
      (fun arguments => Deed.ran arguments 0) <:+ m'.log
  free : m.holder n.address = none
  holders : m'.holder = m.holder

section command

open Process

variable {calls : List (SystemCall × Choice)} {pid : Nat} {m : Machine} {store : Store}
  {rules : CString} {config : RunConfig} {plan : InstallationPlan}

/-- Only the files matter. -/
theorem AppliedInFull.of_disk {m0 m0' m' : Machine} (h : AppliedInFull store rules plan m0 m)
    (h0 : m0.disk = m0'.disk) (h1 : m.disk = m'.disk) : AppliedInFull store rules plan m0' m' := by
  have hlook : ∀ path, m0'.look path = m0.look path := by
    intro path
    unfold Machine.look
    rw [h0]
  have hcontent : ∀ path, m'.content path = m.content path := fun path => content_congr h1.symm path
  obtain ⟨resolution, readiness, h1', h2, h3, h4, hfull⟩ := h
  refine ⟨resolution, readiness, h1', h2, h3, h4, ?_⟩
  split
  · rename_i haction
    rw [if_pos haction] at hfull
    obtain ⟨rule, hrule, source_path, n, hsource, hname, hfree, hfree', hartifact, hrules,
      hkeeps⟩ := hfull
    refine ⟨rule, hrule, source_path, n, hsource, hname, ?_, ?_, ?_, ?_, ?_⟩
    · rw [hlook, hfree]
    · rw [hlook, hfree']
    · rw [hcontent, hartifact]
    · rw [hcontent, hrules]
    · rwa [← h0, ← h1]
  · rename_i haction
    rw [if_neg haction] at hfull
    obtain ⟨source_path, n, hsource, hname, hfree, hartifact, hkeeps⟩ := hfull
    refine ⟨source_path, n, hsource, hname, ?_, ?_, ?_⟩
    · rw [hlook, hfree]
    · rw [hcontent, hartifact]
    · rwa [← h0, ← h1]

/-- What has been applied, was resolved. -/
theorem AppliedInFull.resolved {rule_identity : Option RuleIdentity} {resolution : Resolution}
    {m0 : Machine}
    (h : AppliedInFull store rules ⟨config, rule_identity, some resolution⟩ m0 m) :
    resolution = ⟨resolution.libinput_ignore_action, true, true⟩ := by
  obtain ⟨action, resolved, ready⟩ := resolution
  obtain ⟨resolution', _, hresolution, -, hresolved, hready, -⟩ := h
  obtain rfl := Option.some.inj hresolution
  obtain rfl : resolved = true := hresolved
  obtain rfl : ready = true := hready
  rfl

theorem met_carry_out (fuel : Nat) (environment : ApplicationEnvironment) {n : InstanceName}
    {rule_identity : RuleIdentity} {resolution : Resolution} {source_path : CString}
    (hname : config.instance_name = some n.name) (hfree : m.holder n.address = none) :
    wp (answer pid) (Met calls) (fun _ => True)
      (carry_out fuel store environment ⟨config, some rule_identity, some resolution⟩ source_path
        n.address)
      (fun exit m' => exit = .SUCCESS → InstallDone calls store environment.udev_rule_directory
        config n source_path rule_identity resolution.libinput_ignore_action m m')
      (m.take_name pid n.address) := by
  have hrelease : ∀ {ownership exit m'}, exit ≠ Exit.SUCCESS →
      wp (answer pid) (Met calls) (fun _ => True)
      (do
        instance_name_release ownership
        return exit)
      (fun exit m' => exit = .SUCCESS → InstallDone calls store environment.udev_rule_directory
        config n source_path rule_identity resolution.libinput_ignore_action m m') m' := by
    intro ownership exit m' hexit
    apply wp_bind.mpr
    exact wp_of_forall (fun _ => trivial) fun _ _ hsuccess => absurd hsuccess hexit
  unfold carry_out
  apply wp_bind.mpr
  apply wp_mono (met_any (wp_and (wp_and (wp_installation_plan_apply_outcome store _ fuel
    environment) (wp_installation_plan_apply_one_line fuel environment _))
    (wp_installation_plan_apply_sockets fuel environment _))) fun _ h => h
  rintro applied m1 ⟨⟨houtcome, hline⟩, hsockets⟩
  split
  · exact hrelease (by decide)
  rename_i happlied
  have hsuccess := not_not.mp happlied
  have hheld : m1.holder n.address = some pid := by
    unfold Machine.holder
    rw [hsockets]
    exact Machine.holder_take_name
  apply wp_bind.mpr
  apply wp_mono (met_installation_plan_activate hheld) fun _ h => h
  rintro ⟨result, ownership⟩ m2 hactivated
  dsimp only
  by_cases hresult : result = .SUCCESS
  · obtain ⟨rfl, resolution', name, path, unit, hresolution, hinstance, hpath, hunit, rfl⟩ :=
      hactivated hresult
    obtain rfl : resolution = resolution' := Option.some.inj hresolution
    obtain rfl : n.name = name := Option.some.inj (hname.symm.trans hinstance)
    intro _
    have happlied := houtcome.success hsuccess
    rw [happlied.resolved] at happlied
    exact {
      named := hname
      one_line := hline hsuccess
      applied := happlied.of_disk rfl rfl
      activated := ⟨path, unit, hpath, hunit, List.suffix_append ..⟩
      free := hfree
      holders := Machine.holder_give_name_up hfree hsockets }
  · rw [if_neg hresult]
    exact hrelease (by decide)

/-- From the request on. -/
theorem met_install_command (fuel : Nat) (environment : ApplicationEnvironment)
    (request : InstallationRequest) (assessment : Option Assessment) :
    wp (answer pid) (Met calls) (fun _ => True)
      (install_command fuel store environment request assessment)
      (fun exit m' => exit = .SUCCESS → ∃ decided n, assessment = some decided ∧
        decided.resolution.application_ready = true ∧
        runtime_policy_is_valid request.config = true ∧
        InstallDone calls store environment.udev_rule_directory
          { request.config with source_path := some decided.persistent_source_path } n
          (request.source_path.getD (cstr "")) decided.rule_identity
          decided.resolution.libinput_ignore_action m m') m := by
  unfold install_command
  apply wp_bind.mpr
  apply wp_mono (met_any (wp_installation_plan_create request)) fun _ h => h
  intro created m1 hcreated
  split
  · exact (wp_pure _).mpr nofun
  rename_i plan address
  obtain ⟨n, hmade⟩ := hcreated plan address rfl
  obtain rfl := hmade.address
  obtain rfl := hmade.taken
  split
  · apply wp_bind.mpr
    exact wp_of_forall (fun _ => trivial) fun _ _ => nofun
  rename_i decided
  split
  · apply wp_bind.mpr
    exact wp_of_forall (fun _ => trivial) fun _ _ => nofun
  rename_i hready
  have hready : decided.resolution.application_ready = true := by simpa using hready
  have hplan : decided.plan plan = ⟨{ request.config with
      source_path := some decided.persistent_source_path }, some decided.rule_identity,
      some decided.resolution⟩ := by
    unfold Assessment.plan
    rw [hmade.config]
  rw [hplan]
  apply wp_mono (met_carry_out fuel environment hmade.named hmade.free) fun _ h => h
  exact fun exit m' hdone hsuccess =>
    ⟨decided, n, rfl, hready, hmade.valid, hdone hsuccess⟩

end command

/-! ## The decisions -/

section decisions

variable {fs : Filesystem} {deployment : DeploymentEnvironment} {source_path : CString}

theorem supplied_of_assess :
    (installation_plan_assess fs deployment source_path).supplied_source_path = source_path := by
  unfold installation_plan_assess
  split
  · rfl
  split
  · rfl
  split
  · rfl
  · rfl

theorem preferred_of_assess
    (h : (installation_plan_assess fs deployment source_path).preferred_source_differs = true) :
    ∃ preferred, (installation_plan_assess fs deployment source_path).preferred_source_path =
      some preferred := by
  unfold installation_plan_assess at h ⊢
  split at h
  · cases h
  split at h
  · cases h
  rename_i hdevice
  split at h
  · cases h
  rw [if_neg hdevice]
  dsimp only at h ⊢
  obtain ⟨preferred, hpreferred, -⟩ := (Option.any_eq_true ..).mp h
  exact ⟨preferred, hpreferred⟩

/-- The path that is selected is the one of the configuration that was agreed. -/
theorem selected_of_chosen {interactive preferred : Bool} {given : Option Bool}
    {input rest : List Bytes} {readiness : DeploymentReadiness}
    (hassess : readiness = installation_plan_assess fs deployment source_path)
    (h : Chosen readiness.preferred_source_differs interactive given input preferred rest) :
    some (if preferred then readiness.preferred_source_path.getD (cstr "")
      else readiness.supplied_source_path) =
      if preferred then readiness.preferred_source_path else some source_path := by
  subst hassess
  cases preferred with
  | false => exact congrArg some supplied_of_assess
  | true =>
    have hdiffers : (installation_plan_assess fs deployment source_path).preferred_source_differs =
        true := by
      by_contra hsame
      unfold Chosen at h
      rw [if_neg hsame] at h
      exact Bool.noConfusion h.2.1
    obtain ⟨path, hpath⟩ := preferred_of_assess hdiffers
    rw [if_pos rfl, if_pos rfl, hpath]
    rfl

end decisions

/-! ## The whole command -/

/-- The service of an install that ends with success: root has installed it with the policy of its
arguments, as they and what was typed agree on the source, the name and the rule, and its user has
access to what it needs. -/
structure InstalledAsAgreed (environment : InstallEnvironment) (argv : List CString)
    (calls : List (SystemCall × Choice)) (store : Store) (config : RunConfig) (n : InstanceName)
    (m m' : Machine) : Prop where
  root : environment.effective_uid = 0
  directory : store.directory = environment.installed_instance_directory
  valid : runtime_policy_is_valid config = true
  done : ∃ request choices deployment agreement readiness,
    parse_arguments argv = some (request, choices) ∧
    service_environment_resolve environment.users = .ok deployment ∧
    readiness = installation_plan_assess environment.fs deployment agreement.source ∧
    Agreed environment request choices readiness agreement ∧
    readiness.blockers = Blockers.none ∧
    config = agreement.config request readiness ∧
    InstallDone calls store environment.application.udev_rule_directory config n agreement.source
      readiness.rule_identity agreement.rule m m'

theorem InstalledAsAgreed.installed {environment : InstallEnvironment} {argv : List CString}
    {calls : List (SystemCall × Choice)} {store : Store} {config : RunConfig} {n : InstanceName}
    {m m' : Machine} (h : InstalledAsAgreed environment argv calls store config n m m') :
    ∃ source_path rule_identity rule, InstallDone calls store
      environment.application.udev_rule_directory config n source_path rule_identity rule m m' := by
  obtain ⟨_, _, _, agreement, readiness, -, -, -, -, -, -, hdone⟩ := h.done
  exact ⟨agreement.source, readiness.rule_identity, agreement.rule, hdone⟩

section whole

open Process

variable {calls : List (SystemCall × Choice)} {pid : Nat} {m : Machine}
  {environment : InstallEnvironment}

/-- A request whose source and name have been obtained. -/
theorem met_install_request (fuel : Nat) (hroot : environment.effective_uid = 0)
    {argv : List CString} {request : CommandRequest} {choices : DeploymentChoices}
    (hparse : parse_arguments argv = some (request, choices)) {source name : CString}
    {input input' : List Bytes}
    (hsource : Obtained TypedText environment.interactive request.source_path environment.input
      source input)
    (hname : Obtained TypedText environment.interactive request.instance_name input name input') :
    wp (answer pid) (Met calls) (fun _ => True)
      (install_request fuel environment { request with
        source_path := some source, source_supplied := true
        instance_name := some name, instance_name_supplied := true } choices input')
      (fun exit m' => exit = .SUCCESS →
        ∃ store config n, InstalledAsAgreed environment argv calls store config n m m') m := by
  have hfailed : wp (answer pid) (Met calls) (fun _ => True) (pure .FAILURE : Proc Exit)
      (fun exit m' => exit = .SUCCESS →
        ∃ store config n, InstalledAsAgreed environment argv calls store config n m m') m :=
    (wp_pure _).mpr fun h => absurd h (by decide)
  unfold install_request
  split
  · exact hfailed
  rename_i hdirectory
  apply wp_bind.mpr
  apply met_allocation
  intro r
  apply wp_unless hfailed
  intro _
  apply wp_bind.mpr
  apply met_allocation
  intro r
  apply wp_unless hfailed
  intro _
  apply wp_mono (met_install_command fuel environment.application _ _) fun _ h => h
  intro exit m' hdone hsuccess
  obtain ⟨decided, n, hassess, hready, hvalid, hinstalled⟩ := hdone hsuccess
  unfold assess_deployment at hassess
  split at hassess
  · cases hassess
  rename_i deployment hdeployment
  let readiness := installation_plan_assess environment.fs deployment source
  have hdecided : decide_deployment environment.interactive readiness choices input' =
    some decided := hassess
  obtain ⟨hblockers, hidentity, preferred, rest, rest', hpreferred, hrule, hpath⟩ :=
    chosen_of_decide_deployment hdecided hready
  let agreement : Agreement :=
    ⟨source, name, preferred, decided.resolution.libinput_ignore_action⟩
  have hconfig : { request.config with
      source_path := some decided.persistent_source_path, instance_name := some name } =
        agreement.config request readiness := by
    have hassessed : readiness = installation_plan_assess environment.fs deployment source := rfl
    have hselected := selected_of_chosen hassessed hpreferred
    rw [← hpath] at hselected
    unfold Agreement.config
    rw [hselected]
  refine ⟨⟨_, hdirectory⟩, agreement.config request readiness, n, hroot, rfl, ?_, request, choices,
    deployment, agreement, readiness, hparse, hdeployment, rfl, ?_, hblockers, rfl, ?_⟩
  · rw [← hconfig]
    unfold runtime_policy_is_valid at hvalid ⊢
    simp only [decide_eq_true_eq] at hvalid ⊢
    exact ⟨rfl, hvalid.2⟩
  · exact ⟨input, input', rest, rest', hsource, hname, hpreferred, hrule⟩
  · rw [← hconfig, ← hidentity]
    exact hinstalled

theorem met_install_command_with_environment (fuel : Nat) (argv : List CString) :
    wp (answer pid) (Met calls) (fun _ => True)
      (install_command_with_environment fuel environment argv)
      (fun exit m' => exit = .SUCCESS →
        ∃ store config n, InstalledAsAgreed environment argv calls store config n m m') m := by
  unfold install_command_with_environment
  split
  · exact (wp_pure _).mpr nofun
  rename_i hroot
  split
  · exact (wp_pure _).mpr nofun
  rename_i request choices hparse
  have hentered : ∃ o : InstallOptions, Entered o ∧ o.request = request := by
    obtain ⟨o, ho, heq⟩ := Option.map_eq_some_iff.mp hparse
    exact ⟨o, Entered.parse ⟨rfl, rfl, rfl, rfl, rfl⟩ ho, congrArg Prod.fst heq⟩
  obtain ⟨o, ho, rfl⟩ := hentered
  unfold install_options
  split
  · exact (wp_pure _).mpr nofun
  rename_i request1 input1 hprompt1
  obtain ⟨source, hsource, rfl⟩ := obtained_of_prompt_source hprompt1 ho.source_path
  unfold install_source
  split
  · exact (wp_pure _).mpr nofun
  · rename_i request2 input2 hprompt2
    obtain ⟨name, hname, rfl⟩ := obtained_of_prompt_name hprompt2 ho.instance_name
    exact met_install_request fuel (not_not.mp hroot) hparse hsource hname

theorem installed_as_agreed {fuel : Nat} {argv : List CString}
    {choices : Nat → SystemCall → Option Choice}
    (hexit : (Process.run (answer pid) (install_command_with_environment fuel environment argv)
      choices m).1 = some .SUCCESS) :
    ∃ store config n, InstalledAsAgreed environment argv
      ((install_command_with_environment fuel environment argv).calls (answer pid) choices m) store
      config n m
      (Process.run (answer pid) (install_command_with_environment fuel environment argv)
        choices m).2 :=
  run_of_met (met_install_command_with_environment fuel argv) hexit rfl

end whole

/-! ## What is there already -/

/-- A call that leaves the files as they are. -/
def Diskless (c : SystemCall) : Prop :=
  ∀ pid choice m, (answer pid choice c m).2.disk = m.disk

section diskless

open Process

variable {pid : Nat} {m : Machine} {store : Store} {rules : CString} {α β : Type} {p : Proc α}
  {f : α → Proc β}

theorem diskless_of_idle (h : p.Uses Idle) : p.Makes Diskless :=
  h.makes.mono fun _ hidle pid choice m => (hidle pid choice m).1

theorem diskless_malloc : malloc.Makes Diskless := diskless_of_idle uses_malloc

theorem diskless_bind_address (address : Bytes) : Diskless (.bind address) := by
  intro pid choice m
  simp only [answer]
  split
  · rfl
  split
  · rfl
  · rfl

theorem diskless_close_socket (address : Bytes) : Diskless (.close_socket address) := by
  intro pid choice m
  simp only [answer]
  split
  · rfl
  · rfl

theorem diskless_release (ownership : Option Bytes) :
    (instance_name_release ownership).Makes Diskless := by
  cases ownership with
  | none => exact makes_pure _
  | some address => exact makes_ask.mpr (diskless_close_socket address)

theorem diskless_acquire (name : Option CString) :
    (instance_name_acquire name).Makes Diskless := by
  unfold instance_name_acquire
  split
  · exact makes_pure _
  apply makes_bind diskless_malloc
  intro r
  apply makes_ite (makes_pure _)
  apply makes_bind (diskless_of_idle (p := socket) (uses_ask.mpr fun _ _ _ => ⟨rfl, rfl⟩))
  intro r
  apply makes_ite (makes_pure _)
  apply makes_bind (makes_ask.mpr (diskless_bind_address _))
  intro (bound : Bound)
  cases bound <;> exact makes_pure _

theorem diskless_plan_create (request : InstallationRequest) :
    (installation_plan_create store request).Makes Diskless := by
  unfold installation_plan_create
  split
  case h_2 => exact makes_pure _
  apply makes_ite (makes_pure _)
  apply makes_ite (makes_pure _)
  apply makes_ite (makes_pure _)
  apply makes_ite (makes_pure _)
  apply makes_bind (diskless_of_idle (uses_installed_instance_exists _))
  intro found
  split
  · exact makes_pure _
  · exact makes_pure _
  · exact makes_pure _
  apply makes_bind diskless_malloc
  intro r
  apply makes_ite (makes_pure _)
  apply makes_bind (diskless_acquire _)
  intro acquired
  split
  · exact makes_pure _
  apply makes_bind diskless_malloc
  intro source_copied
  apply makes_bind diskless_malloc
  intro name_copied
  apply makes_ite
  · exact makes_bind (diskless_release _) fun _ => makes_pure _
  · exact makes_pure _

theorem diskless_activate (plan : InstallationPlan) (source_path : CString)
    (ownership : Option Bytes) :
    (installation_plan_activate plan source_path ownership).Makes Diskless := by
  have hcommand : ∀ arguments,
      (do return (← run_command arguments) = 0 : Proc Bool).Makes Diskless :=
    fun arguments => diskless_of_idle (uses_command arguments)
  have hrule : ∀ (b : Prop) [Decidable b] (f : Option ActivationResult →
      Proc (ActivationResult × Option Bytes)), (∀ failure, (f failure).Makes Diskless) →
      (if b then activate_rule source_path >>= f else pure none >>= f).Makes Diskless := by
    intro b _ f hf
    apply makes_ite
    · exact makes_bind (diskless_of_idle (uses_activate_rule _)) hf
    · exact makes_bind (makes_pure _) hf
  unfold installation_plan_activate
  split
  case h_2 => exact makes_pure _
  apply makes_ite (makes_pure _)
  apply hrule
  intro failure
  dsimp only
  split
  · exact makes_pure _
  split
  · exact makes_pure _
  apply makes_bind (hcommand _)
  intro enabled
  apply makes_ite (makes_pure _)
  apply makes_bind (diskless_release _)
  intro u
  apply makes_bind (hcommand _)
  intro started
  apply makes_ite (makes_pure _)
  exact makes_bind (diskless_of_idle (uses_default_service_state _)) fun _ => makes_pure _

/-- What keeps the files, keeps what is preserved of them. -/
theorem wp_of_diskless {can : Option Choice → SystemCall → Machine → Prop} {m0 : Machine}
    (hp : p.Makes Diskless) (h : Preserved store rules m0 m) :
    wp (answer pid) can (Preserved store rules m0) p (fun _ => Preserved store rules m0) m := by
  apply wp_of_makes hp
  · intro choice c m' hdiskless hm'
    unfold Preserved
    rwa [hdiskless pid choice m']
  · exact h

theorem wp_install_command_preserved (fuel : Nat) (environment : ApplicationEnvironment)
    (request : InstallationRequest) (assessment : Option Assessment)
    (hrules : environment.udev_rule_directory = rules) :
    wp (answer pid) Any (Preserved store rules m)
      (install_command fuel store environment request assessment)
      (fun _ => Preserved store rules m) m := by
  have hrefl : Preserved store rules m m := Restored.refl.preserved
  have hrelease : ∀ {ownership} {exit : Exit} {m'}, Preserved store rules m m' →
      wp (answer pid) Any (Preserved store rules m) (do
        instance_name_release ownership
        return exit) (fun _ => Preserved store rules m) m' :=
    fun hm' => wp_of_diskless (makes_bind (diskless_release _) fun _ => makes_pure _) hm'
  unfold install_command
  apply wp_bind.mpr
  have hdisk : wp (answer pid) Any (fun m' => m'.disk = m.disk)
      (installation_plan_create store request) (fun _ m' => m'.disk = m.disk) m := by
    apply wp_of_makes (diskless_plan_create request)
    · exact fun choice c m' hdiskless hm' => (hdiskless pid choice m').trans hm'
    · rfl
  have hsame : ∀ {m'}, m'.disk = m.disk → Preserved store rules m m' := by
    intro m' hm'
    unfold Preserved
    rw [hm']
    exact hrefl
  apply wp_mono hdisk fun _ => hsame
  intro created m1 h1
  split
  · exact hsame h1
  split
  · exact hrelease (hsame h1)
  split
  · exact hrelease (hsame h1)
  unfold carry_out
  have hbase : ∀ {m'}, Preserved store rules m1 m' → Preserved store rules m m' := by
    intro m' hm'
    unfold Preserved Machine.look at hm' ⊢
    rwa [h1] at hm'
  subst hrules
  apply wp_bind.mpr
  apply wp_mono (wp_installation_plan_apply_outcome store _ fuel environment) fun _ => hbase
  intro applied m2 houtcome
  have h2 := hbase houtcome.preserved
  split
  · exact hrelease h2
  apply wp_bind.mpr
  apply wp_mono (wp_of_diskless (diskless_activate ..) h2) fun _ h => h
  exact fun activated m3 h3 => hrelease h3

theorem wp_install_preserved (fuel : Nat) {environment : InstallEnvironment} (argv : List CString)
    (hdirectory : store.directory = environment.installed_instance_directory) :
    wp (answer pid) Any (Preserved store environment.application.udev_rule_directory m)
      (install_command_with_environment fuel environment argv)
      (fun _ => Preserved store environment.application.udev_rule_directory m) m := by
  have hrefl : Preserved store environment.application.udev_rule_directory m m :=
    Restored.refl.preserved
  have hfailed : wp (answer pid) Any (Preserved store environment.application.udev_rule_directory m)
      (pure Exit.FAILURE : Proc Exit)
      (fun _ => Preserved store environment.application.udev_rule_directory m) m :=
    (wp_pure _).mpr hrefl
  unfold install_command_with_environment
  split
  · exact hfailed
  split
  · exact hfailed
  unfold install_options
  split
  · exact hfailed
  unfold install_source
  split
  · exact hfailed
  unfold install_request
  split
  · exact hfailed
  apply wp_bind.mpr
  apply wp_status .malloc hrefl
  intro r
  apply wp_unless hfailed
  intro _
  apply wp_bind.mpr
  apply wp_status .malloc hrefl
  intro r
  apply wp_unless hfailed
  intro _
  obtain ⟨directory, hnonempty⟩ := store
  subst hdirectory
  exact wp_install_command_preserved fuel _ _ _ rfl

end diskless

/-- What an install comes to by these calls, also one that is killed. -/
structure InstallOutcome (environment : InstallEnvironment) (argv : List CString) (pid : Nat)
    (m : Machine) (calls : List (SystemCall × Choice)) (run : Option Exit × Machine) : Prop where
  preserved : ∀ store : Store, store.directory = environment.installed_instance_directory →
    Preserved store environment.application.udev_rule_directory m run.2
  others : ∀ pid', pid' ≠ pid → ∀ address,
    run.2.holder address = some pid' ↔ m.holder address = some pid'
  names : run.1 ≠ none → run.2.holder = m.holder
  success : run.1 = some .SUCCESS →
    ∃ store config n, InstalledAsAgreed environment argv calls store config n m run.2

/-- Whatever its calls come to and wherever it is killed, an install leaves the instances that are
there as they are; where it comes to its end it has given its name up, and where it ends with
success, all that it is for has been done. -/
theorem an_install_leaves_what_is_there (fuel : Nat) (environment : InstallEnvironment)
    (argv : List CString) (m : Machine) (pid : Nat) (choices : Nat → SystemCall → Option Choice)
    (hfree : ∀ address, m.holder address ≠ some pid) :
    InstallOutcome environment argv pid m
      ((install_command_with_environment fuel environment argv).calls (answer pid) choices m)
      (Process.run (answer pid) (install_command_with_environment fuel environment argv)
        choices m) := by
  have hnone : System.held Machine.holder pid m = ∅ := Set.eq_empty_of_forall_notMem hfree
  have howns : (install_command_with_environment fuel environment argv).Owns name_effects
      (System.held Machine.holder pid m) fun _ owned => owned = ∅ := by
    rw [hnone]
    exact install_environment_ends_without fuel environment argv
  have hspec := run_spec m pid choices (System.wp_of_owns accounts howns fun _ _ => rfl)
  have hothers : ∀ pid', pid' ≠ pid → ∀ address,
      (Process.run (answer pid) (install_command_with_environment fuel environment argv)
        choices m).2.holder address = some pid' ↔ m.holder address = some pid' := by
    rcases hspec with ⟨-, hother⟩ | ⟨exit, -, -, hother⟩
    · exact fun pid' hpid address => Set.ext_iff.mp (hother pid' hpid) address
    · exact fun pid' hpid address => Set.ext_iff.mp (hother pid' hpid) address
  refine ⟨fun store hdirectory => ?_, hothers, fun hended => ?_, installed_as_agreed⟩
  · rcases run_spec m pid choices (wp_install_preserved fuel argv hdirectory) with
      ⟨-, h⟩ | ⟨exit, -, h⟩
    · exact h
    · exact h
  · rcases hspec with ⟨hkilled, -⟩ | ⟨exit, -, hempty, -⟩
    · exact absurd hkilled hended
    · funext address
      apply Option.ext
      intro pid'
      by_cases hpid : pid' = pid
      · subst hpid
        constructor
        · exact fun hheld => absurd hheld (Set.ext_iff.mp hempty address).mp
        · exact fun hheld => absurd hheld (hfree address)
      · exact hothers pid' hpid address

def desk_install : InstallEnvironment where
  effective_uid := 0
  interactive := false
  input := []
  installed_instance_directory := etc_store.directory
  application := ⟨UDEV_RULE_DIRECTORY, false, false⟩
  fs := installable_files
  users := packaged_database

def desk_arguments : List CString :=
  [cstr "input-proxy", cstr "install", cstr "--source", keyboard_node, cstr "--name", desk.name,
    cstr "--use-preferred-run-source", cstr "yes"]

/-- A service that runs. -/
def running : Choice := { calm with foreign := ascii "active\nrunning\n" }

/-- Beside the artifact of the mouse. -/
theorem an_install_that_is_killed_leaves_what_is_there :
    let m := file_machine (artifact_path etc_store mouse.name) (ascii "--name\nmouse\n")
    let choices : Nat → SystemCall → Option Choice :=
      fun k _ => if k < 20 then some running else none
    let install := install_command_with_environment 2 desk_install desk_arguments
    InstallOutcome desk_install desk_arguments 1 m (install.calls (answer 1) choices m)
      (Process.run (answer 1) install choices m) := by
  intro m choices install
  apply an_install_leaves_what_is_there
  intro address hheld
  cases hheld

end input_proxy
