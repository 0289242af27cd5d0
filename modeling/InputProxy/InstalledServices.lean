-- The service of an install that has ended with success: the line of its unit runs the
-- program with the artifact as the argument file (systemd/input-proxy@.service), and that
-- runs the session that was agreed.
import InputProxy.InstallOutcomes

open c_strings disks processes

namespace input_proxy

/-! ## A run without faults -/

/-- What a run of a session ends with, if it ends. -/
def session_exit (fuel : Nat) (environment : RunEnvironment) (config : SessionConfig) :
    Option Exit :=
  if environment.signal_handlers then
    (session_run fuel (World.start config environment.answers)).1.map fun result =>
      if result = .SUCCESS then .SUCCESS else .FAILURE
  else some .FAILURE

section service

open Process

variable {pid : Nat} {m : Machine} {config : RunConfig} {n : InstanceName}

/-- Without faults, a name that is free is taken. -/
theorem smooth_session_create {I : Machine → Prop} (hvalid : runtime_policy_is_valid config = true)
    (hname : config.instance_name = some n.name) (hfree : m.holder n.address = none) :
    wp (answer pid) Smooth I (session_create (some config))
      (fun r m' => r = .ok (config.session_config n.name, n.address) ∧
        m' = m.take_name pid n.address) m := by
  unfold runtime_policy_is_valid at hvalid
  simp only [decide_eq_true_eq] at hvalid
  obtain ⟨source_path, hsource⟩ := Option.isSome_iff_exists.mp hvalid.1
  unfold session_create
  dsimp only
  rw [hsource, hname]
  dsimp only
  rw [if_neg (not_not.mpr n.accepted)]
  refine wp_bind.mpr (smooth_status .malloc (wp_bind.mpr (smooth_status .malloc ?_)))
  refine wp_bind.mpr (smooth_status .malloc ?_)
  unfold instance_name_acquire
  rw [n.instance_name_address_eq]
  refine wp_bind.mpr (wp_bind.mpr (smooth_status .malloc ?_))
  refine wp_bind.mpr (smooth_status .socket ?_)
  apply wp_bind.mpr
  apply wp_smooth
  intro choice hfault
  have hsucceeds : choice.succeeds = true := by simp [Choice.succeeds, hfault]
  have hunheld : ¬(m.holder n.address).isSome = true := by simp [hfree]
  simp only [answer, hsucceeds, if_neg hunheld]
  exact ⟨rfl, rfl⟩

theorem smooth_run_proxy (fuel : Nat) (environment : RunEnvironment) {argv : List CString}
    (hparse : parse_run_config argv = .ok config) (hvalid : runtime_policy_is_valid config = true)
    (hname : config.instance_name = some n.name) (hfree : m.holder n.address = none) :
    wp (answer pid) Smooth
      (fun _ => session_exit fuel environment (config.session_config n.name) = none)
      (run_proxy fuel environment argv)
      (fun exit _ => session_exit fuel environment (config.session_config n.name) = some exit)
      m := by
  have hrelease : ∀ {exit m'},
      session_exit fuel environment (config.session_config n.name) = some exit →
      wp (answer pid) Smooth
        (fun _ => session_exit fuel environment (config.session_config n.name) = none)
        (do
          instance_name_release (some n.address)
          return exit)
        (fun exit _ => session_exit fuel environment (config.session_config n.name) = some exit)
        m' := by
    intro exit m' hexit
    apply wp_bind.mpr
    apply wp_smooth
    exact fun choice _ => hexit
  unfold run_proxy
  rw [hparse]
  dsimp only
  apply wp_bind.mpr
  apply wp_mono (smooth_session_create hvalid hname hfree) fun _ h => h
  rintro _ m' ⟨rfl, -⟩
  dsimp only
  split
  · rename_i hhandlers
    apply hrelease
    unfold session_exit
    rw [if_neg (by simpa using hhandlers)]
  rename_i hhandlers
  have hexit : session_exit fuel environment (config.session_config n.name) =
      (session_run fuel (World.start (config.session_config n.name) environment.answers)).1.map
        fun result => if result = .SUCCESS then .SUCCESS else .FAILURE :=
    if_pos (by simpa using hhandlers)
  unfold run_of_session
  cases hrun : (session_run fuel
      (World.start (config.session_config n.name) environment.answers)).1 with
  | none =>
    rw [hrun] at hexit
    exact hexit
  | some result =>
    rw [hrun] at hexit
    exact hrelease hexit

end service

/-- The artifact that has been published is the one of the configuration. -/
theorem InstallDone.content {calls : List (SystemCall × Choice)} {store : Store} {rules : CString}
    {config : RunConfig} {n : InstanceName} {supplied : CString} {rule_identity : RuleIdentity}
    {rule : Bool} {m m' : Machine}
    (h : InstallDone calls store rules config n supplied rule_identity rule m m') :
    ∃ source_path, config.source_path = some source_path ∧
      m'.content (artifact_path store n.name) =
        some (render_response source_path.bytes n.name.bytes config) := by
  obtain ⟨_, _, -, -, -, -, hfull⟩ := h.applied
  split at hfull
  · obtain ⟨_, -, source_path, k, hsource, hname, -, -, hcontent, -, -⟩ := hfull
    obtain hk : k.name = n.name := Option.some.inj (hname.symm.trans h.named)
    exact ⟨source_path, hsource, hk ▸ hcontent⟩
  · obtain ⟨source_path, k, hsource, hname, -, hcontent, -⟩ := hfull
    obtain hk : k.name = n.name := Option.some.inj (hname.symm.trans h.named)
    exact ⟨source_path, hsource, hk ▸ hcontent⟩

/-- The line of the unit that starts the service: `run` with the artifact as its argument file. -/
def exec_start (fuel : Nat) (service : MainEnvironment) (program_name : CString) (store : Store)
    (n : InstanceName) : Proc Exit :=
  main fuel service [program_name, RUN, cstr "@" ++ artifact_path store n.name]

/-- Wherever the artifact is as it is here and the name is free, a service that meets no fault reads
this configuration, and runs a session with it, whatever that session meets. -/
def RunsAs (store : Store) (config : RunConfig) (n : InstanceName) (m : Machine) : Prop :=
  ∀ (later : Machine) fuel service program_name pid (choices : Nat → SystemCall → Option Choice),
    later.content (artifact_path store n.name) = m.content (artifact_path store n.name) →
    later.holder n.address = none →
    Process.Along (answer pid) Smooth (exec_start fuel service program_name store n) choices later →
    (∃ argv, (Process.run (answer pid) (response_file_read (artifact_path store n.name)
        program_name) choices later).1 = some (some argv) ∧
      parse_run_config argv = .ok { config with verbose := false }) ∧
    (Process.run (answer pid) (exec_start fuel service program_name store n) choices later).1 =
      session_exit fuel service.run (config.session_config n.name)

theorem InstalledAsAgreed.runs {environment : InstallEnvironment} {argv : List CString}
    {calls : List (SystemCall × Choice)} {store : Store} {config : RunConfig} {n : InstanceName}
    {m0 m : Machine} (h : InstalledAsAgreed environment argv calls store config n m0 m) :
    RunsAs store config n m := by
  intro later fuel service program_name pid choices hsame hfree hsmooth
  have hvalid := h.valid
  obtain ⟨_, _, _, hdone⟩ := h.installed
  obtain ⟨source_path, hsource, hcontent⟩ := hdone.content
  have hbounds := hvalid
  unfold runtime_policy_is_valid at hbounds
  simp only [decide_eq_true_eq] at hbounds
  obtain ⟨argv, hargv, hparse⟩ := response_file_round_trip program_name rfl
    (hdone.one_line source_path hsource) hbounds.2.2.1 hbounds.2.2.2
  have hconfig : { config with
      source_path := some source_path, instance_name := some n.name, verbose := false } =
        { config with verbose := false } := by
    rw [← hsource, ← hdone.named]
  rw [hconfig] at hparse
  have hpath := artifact_path_ne_nil store n.name
  have hthere := hsame.trans hcontent
  have hreading : Process.Along (answer pid) Smooth
      (response_file_read (artifact_path store n.name) program_name) choices later := by
    unfold exec_start at hsmooth
    rw [main_response_file] at hsmooth
    exact Process.along_of_bind hsmooth
  have hreader := run_smooth_reader hpath hthere hreading
  rw [hargv] at hreader
  refine ⟨⟨argv, congrArg Prod.fst hreader, hparse⟩, ?_⟩
  have hwp : Process.wp (answer pid) Smooth
      (fun _ => session_exit fuel service.run (config.session_config n.name) = none)
      (exec_start fuel service program_name store n)
      (fun exit _ => session_exit fuel service.run (config.session_config n.name) = some exit)
      later := by
    unfold exec_start
    rw [main_response_file]
    apply Process.wp_bind.mpr
    apply Process.wp_mono (smooth_response_file_read hpath hthere) fun _ h => h
    rintro r _ ⟨rfl, rfl⟩
    rw [hargv]
    exact @smooth_run_proxy pid _ { config with verbose := false } n fuel service.run argv hparse
      hvalid hdone.named hfree
  rcases Process.run_of_wp hwp hsmooth with ⟨hnone, hexit⟩ | ⟨exit, hsome, hexit⟩
  · exact hnone.trans hexit.symm
  · exact hsome.trans hexit.symm

end input_proxy
