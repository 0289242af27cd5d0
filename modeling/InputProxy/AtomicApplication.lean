-- An application of a plan is all or nothing: the artifact and the rule of a
-- name are both there in full, or both paths are as they were. Only a rollback
-- that fails itself leaves the artifact that it should have removed.
import InputProxy.RuleArtifacts

open c_strings disks processes

namespace input_proxy

/-! ## What stays -/

/-- Everything but temporary files is as it was. -/
def Restored (store : Store) (rules : CString) (m0 m : Machine) : Prop :=
  m0.disk.Keeps (fun path => ¬Scratch store rules path) m.disk

/-- What was there, is there as it was. -/
def Preserved (store : Store) (rules : CString) (m0 m : Machine) : Prop :=
  m0.disk.Keeps (fun path => ¬Scratch store rules path ∧ (m0.look path).isSome) m.disk

/-- The artifact of the configuration is published, and temporary files aside there is nothing
else. -/
def ArtifactOnly (store : Store) (rules : CString) (config : RunConfig) (m0 m : Machine) : Prop :=
  ∃ source_path, ∃ n : InstanceName, config.source_path = some source_path ∧
    config.instance_name = some n.name ∧ m0.look (artifact_path store n.name) = none ∧
    m.content (artifact_path store n.name) =
      some (render_response source_path.bytes n.name.bytes config) ∧
    m0.disk.Keeps (fun path => ¬Scratch store rules path ∧ path ≠ artifact_path store n.name) m.disk

section stays

variable {store : Store} {rules : CString} {m0 m m' : Machine} {config : RunConfig}

theorem Restored.refl : Restored store rules m m := Disk.Keeps.refl

theorem Restored.of_unchanged (h : Unchanged store m0 m) : Restored store rules m0 m :=
  h.mono fun _ hp ht => hp (.inl ht)

theorem Restored.preserved (h : Restored store rules m0 m) : Preserved store rules m0 m :=
  h.mono fun _ hp => hp.1

theorem ArtifactOnly.of_installed (h : Installed store config m0 m) :
    ArtifactOnly store rules config m0 m := by
  obtain ⟨source_path, n, hsource, hname, -, hp⟩ := h
  exact ⟨source_path, n, hsource, hname, hp.free, hp.content,
    hp.keeps.mono fun path hpath => ⟨fun ht => hpath.1 (.inl ht), hpath.2⟩⟩

/-- The artifact is new, so everything that was there is as it was. -/
theorem ArtifactOnly.preserved (h : ArtifactOnly store rules config m0 m) :
    Preserved store rules m0 m := by
  obtain ⟨_, n, -, -, hfree, -, hkeeps⟩ := h
  refine hkeeps.mono fun path hpath => ⟨hpath.1, ?_⟩
  rintro rfl
  simp [hfree] at hpath

/-- A change of temporary rules only. -/
theorem ArtifactOnly.kept (h : ArtifactOnly store rules config m0 m)
    (hk : KeptRules rules (fun _ => True) m m') : ArtifactOnly store rules config m0 m' := by
  obtain ⟨source_path, n, hsource, hname, hfree, hcontent, hkeeps⟩ := h
  refine ⟨source_path, n, hsource, hname, hfree, ?_, hkeeps.trans (hk.mono fun path hpath =>
    ⟨fun ht => hpath.1 (.inr ht), trivial⟩)⟩
  rw [← hcontent]
  exact (sameAt_of_keeps hk ⟨fun ht => artifact_not_scratch store rules n.name (.inr ht),
    trivial⟩).2

/-- The rollback undoes the publication of the artifact. -/
theorem ArtifactOnly.unlink {n : InstanceName} (h : ArtifactOnly store rules config m0 m)
    (hn : config.instance_name = some n.name) :
    Restored store rules m0 (m.unlink (artifact_path store n.name)) := by
  obtain ⟨_, n', -, hname, hfree, -, hkeeps⟩ := h
  obtain hn : n'.name = n.name := Option.some.inj (hname.symm.trans hn)
  rw [hn] at hfree hkeeps
  refine ⟨fun path hpath => ?_, hkeeps.files, hkeeps.next⟩
  by_cases hp : path = artifact_path store n.name
  · subst hp
    exact Disk.look_unlink_self.trans hfree.symm
  · exact (Disk.look_unlink_ne hp).trans (hkeeps.look path ⟨hpath, hp⟩)

end stays

/-! ## The application -/

/-- Both the artifact and the rule of the configuration are published, and temporary files aside
there is nothing else. -/
def ArtifactAndRule (store : Store) (rules : CString) (config : RunConfig) (rule : CString)
    (m0 m : Machine) : Prop :=
  ∃ source_path, ∃ n : InstanceName, config.source_path = some source_path ∧
    config.instance_name = some n.name ∧ m0.look (artifact_path store n.name) = none ∧
    m0.look (rule_path rules n.name) = none ∧
    m.content (artifact_path store n.name) =
      some (render_response source_path.bytes n.name.bytes config) ∧
    m.content (rule_path rules n.name) = some rule.bytes ∧
    m0.disk.Keeps (Elsewhere store rules n.name) m.disk

/-- What the plan asks for is published in full. -/
def AppliedInFull (store : Store) (rules : CString) (plan : InstallationPlan) (m0 m : Machine) :
    Prop :=
  ∃ resolution readiness, plan.resolution = some resolution ∧ plan.readiness = some readiness ∧
    resolution.choices_resolved = true ∧ resolution.application_ready = true ∧
    if resolution.libinput_ignore_action then
      ∃ rule, render_libinput_ignore_rule readiness = some rule ∧
        ArtifactAndRule store rules plan.config rule m0 m
    else ArtifactOnly store rules plan.config m0 m

/-- What an application with a result has done. -/
structure Outcome (store : Store) (rules : CString) (plan : InstallationPlan) (m0 : Machine)
    (result : ApplicationResult) (m : Machine) : Prop where
  success : result = .SUCCESS → AppliedInFull store rules plan m0 m
  left : result = .ROLLBACK_FAILED → ArtifactOnly store rules plan.config m0 m
  restored : result ≠ .SUCCESS → result ≠ .ROLLBACK_FAILED → Restored store rules m0 m

section application

open Process

variable {pid : Nat} {store : Store} {rules rule : CString} {m0 m m' : Machine}
  {config : RunConfig} {plan : InstallationPlan}

theorem ArtifactOnly.publish {n : InstanceName} (h : ArtifactOnly store rules config m0 m)
    (hn : config.instance_name = some n.name)
    (hp : RulePublished rules (rule_path rules n.name) rule.bytes m m') :
    ArtifactAndRule store rules config rule m0 m' := by
  obtain ⟨source_path, n', hsource, hname, hfree, hcontent, hkeeps⟩ := h
  obtain hn : n'.name = n.name := Option.some.inj (hname.symm.trans hn)
  have hne : artifact_path store n.name ≠ rule_path rules n.name :=
    artifact_path_ne_rule_path store rules n.name n.name
  have hrule := hkeeps.look (rule_path rules n.name)
    ⟨rule_not_scratch store rules rules n.name, hn ▸ hne.symm⟩
  rw [hn] at hfree hcontent hkeeps
  have hsame := sameAt_of_keeps hp.keeps
    ⟨fun ht => artifact_not_scratch store rules n.name (.inr ht), hne⟩
  refine ⟨source_path, n, hsource, hn ▸ hname, hfree, hrule.symm.trans hp.free,
    hsame.2.trans hcontent, hp.content, (hkeeps.mono ?_).trans (hp.keeps.mono ?_)⟩
  · exact fun path hpath => ⟨hpath.1, hpath.2.1⟩
  · exact fun path hpath => ⟨fun ht => hpath.1 (.inr ht), hpath.2.2⟩

theorem ArtifactAndRule.preserved (h : ArtifactAndRule store rules config rule m0 m) :
    Preserved store rules m0 m := by
  obtain ⟨_, n, -, -, hartifact, hrule, -, -, hkeeps⟩ := h
  refine hkeeps.mono fun path hpath => ⟨hpath.1, ?_, ?_⟩
  · rintro rfl
    simp [hartifact] at hpath
  · rintro rfl
    simp [hrule] at hpath

theorem Outcome.preserved {result : ApplicationResult} (h : Outcome store rules plan m0 result m) :
    Preserved store rules m0 m := by
  by_cases hs : result = .SUCCESS
  · obtain ⟨resolution, readiness, -, -, -, -, hfull⟩ := h.success hs
    split at hfull
    · obtain ⟨rule, -, hboth⟩ := hfull
      exact hboth.preserved
    · exact hfull.preserved
  · by_cases hr : result = .ROLLBACK_FAILED
    · exact (h.left hr).preserved
    · exact (h.restored hs hr).preserved

theorem wp_create_preserved (fuel : Nat) :
    wp (answer pid) Any (Preserved store rules m) (installed_instance_create fuel store config)
      (fun r m' => (r ≠ .SUCCESS → Restored store rules m m') ∧
        (r = .SUCCESS → ArtifactOnly store rules config m m')) m := by
  refine wp_mono (wp_installed_instance_create fuel config) ?_ ?_
  · rintro m' (h | h)
    · exact (Restored.of_unchanged h).preserved
    · exact (ArtifactOnly.of_installed h).preserved
  · exact fun r m' h => ⟨fun hr => .of_unchanged (h.1 hr), fun hr => .of_installed (h.2 hr)⟩

theorem wp_installation_plan_apply_outcome (store : Store) (plan : InstallationPlan) (fuel : Nat)
    (environment : ApplicationEnvironment) :
    wp (answer pid) Any (Preserved store environment.udev_rule_directory m)
      (installation_plan_apply fuel store environment plan)
      (fun a => Outcome store environment.udev_rule_directory plan m a.result) m := by
  have hsame : Preserved store environment.udev_rule_directory m m := Restored.refl.preserved
  have hrefused : ∀ {result : ApplicationResult} {m'}, result ≠ .SUCCESS →
      result ≠ .ROLLBACK_FAILED → Restored store environment.udev_rule_directory m m' →
      Outcome store environment.udev_rule_directory plan m result m' :=
    fun hs hr h => ⟨fun h => absurd h hs, fun h => absurd h hr, fun _ _ => h⟩
  have hinvalid : ∀ {result : ApplicationResult}, result ≠ .SUCCESS →
      result ≠ .ROLLBACK_FAILED → Outcome store environment.udev_rule_directory plan m result m :=
    fun hs hr => hrefused hs hr .refl
  unfold installation_plan_apply
  split
  · rename_i resolution readiness hresolution hreadiness
    split
    · exact hinvalid (by decide) (by decide)
    rename_i hready
    have hresolved : resolution.choices_resolved = true ∧ resolution.application_ready = true := by
      simpa using hready
    split
    · rename_i haction
      have haction : resolution.libinput_ignore_action = false := by simpa using haction
      refine wp_bind.mpr (wp_mono (wp_create_preserved fuel) (fun _ h => h) fun r m' h => ?_)
      split
      · refine ⟨fun _ => ?_, fun h => absurd h (by decide), fun h => absurd rfl h⟩
        refine ⟨resolution, readiness, hresolution, hreadiness, hresolved.1, hresolved.2, ?_⟩
        rw [haction]
        exact h.2 ‹_›
      · exact hrefused (by decide) (by decide) (h.1 ‹_›)
    rename_i haction
    have haction : resolution.libinput_ignore_action = true := by simpa using haction
    split
    · exact hinvalid (by decide) (by decide)
    rename_i rule hrule
    refine wp_bind.mpr (wp_status .malloc hsame fun r => ?_)
    refine wp_unless (hinvalid (by decide) (by decide)) fun _ => ?_
    cases hinstance : plan.config.instance_name with
    | none => exact hinvalid (by decide) (by decide)
    | some name =>
    refine wp_bind.mpr (wp_status .malloc hsame fun r => ?_)
    refine wp_unless (hinvalid (by decide) (by decide)) fun _ => ?_
    refine wp_bind.mpr (wp_lstat hsame (fun _ => ?_) (fun hfree => ?_) fun errno he => ?_)
    · exact hinvalid (by decide) (by decide)
    · refine wp_bind.mpr (wp_mono (wp_create_preserved fuel) (fun _ h => h) fun r m1 h => ?_)
      split
      · exact hrefused (by decide) (by decide) (h.1 ‹_›)
      rename_i hs
      have hartifact := h.2 (not_not.mp hs)
      obtain ⟨_, n, -, hn, -⟩ := id hartifact
      obtain rfl : n.name = name := Option.some.inj (hn.symm.trans hinstance)
      have hpath : ¬RuleTemporary environment.udev_rule_directory
          (rule_path environment.udev_rule_directory n.name) := fun ht =>
        rule_not_scratch store _ environment.udev_rule_directory n.name (.inr ht)
      refine wp_bind.mpr (wp_mono (wp_publish_rule_complete fuel _ hpath) ?_ ?_)
      · rintro m2 (hk | hp)
        · exact (hartifact.kept hk).preserved
        · exact (hartifact.publish hn hp).preserved
      rintro published m2 ⟨hok, hfail⟩
      split
      · rename_i hpublished
        refine ⟨fun _ => ?_, fun h => absurd h (by decide), fun h => absurd rfl h⟩
        refine ⟨resolution, readiness, hresolution, hreadiness, hresolved.1, hresolved.2, ?_⟩
        rw [haction]
        exact ⟨rule, hrule, hartifact.publish hn (hok hpublished)⟩
      · rename_i hpublished
        have hkept := hartifact.kept (hfail (by simpa using hpublished))
        refine wp_mono (wp_roll_back_outcome hkept.preserved fun k hk => ?_) (fun _ h => h) ?_
        · exact (hkept.unlink (hn.trans hk)).preserved
        · rintro a m3 (⟨ha, k, hk, rfl⟩ | ⟨ha, rfl⟩)
          · exact hrefused (ha ▸ by decide) (ha ▸ by decide) (hkept.unlink (hn.trans hk))
          · refine ⟨fun h => ?_, fun _ => hkept, fun _ h => absurd ha h⟩
            rw [ha] at h
            exact absurd h (by decide)
    · split
      · rename_i h
        exact absurd (Option.some.inj h) he
      · exact hinvalid (by decide) (by decide)
  · exact hinvalid (by decide) (by decide)

/-- Every artifact and every rule is a path that is not a temporary one. -/
theorem Preserved.final_paths {environment : ApplicationEnvironment} {name path : CString}
    (h : Preserved store environment.udev_rule_directory m m')
    (hpath : path = artifact_path store name ∨
      path = rule_path environment.udev_rule_directory name)
    (hthere : (m.look path).isSome) : SameAt m m' path := by
  refine sameAt_of_keeps h ⟨?_, hthere⟩
  rcases hpath with rfl | rfl
  · exact artifact_not_scratch store _ name
  · exact rule_not_scratch store _ _ name

/-- An application that runs alone, whatever the system answers to its calls: success means that
all of the plan is published, and any other result but a failed rollback that nothing is. -/
theorem an_application_is_all_or_nothing (fuel : Nat) (store : Store)
    (environment : ApplicationEnvironment) (plan : InstallationPlan) (m : Machine) (pid : Nat)
    (choices : Nat → SystemCall → Option Choice) :
    let rules := environment.udev_rule_directory
    let r :=
      Process.run (answer pid) (installation_plan_apply fuel store environment plan) choices m
    (∀ a, r.1 = some a →
      (a.result = .SUCCESS → ∃ resolution readiness source_path, ∃ n : InstanceName,
        plan.resolution = some resolution ∧ plan.readiness = some readiness ∧
        resolution.choices_resolved = true ∧ resolution.application_ready = true ∧
        plan.config.source_path = some source_path ∧ plan.config.instance_name = some n.name ∧
        r.2.content (artifact_path store n.name) =
          some (render_response source_path.bytes n.name.bytes plan.config) ∧
        (resolution.libinput_ignore_action = true → ∃ rule,
          render_libinput_ignore_rule readiness = some rule ∧
          r.2.content (rule_path rules n.name) = some rule.bytes) ∧
        (resolution.libinput_ignore_action = false → SameAt m r.2 (rule_path rules n.name))) ∧
      (a.result = .ROLLBACK_FAILED → ∃ source_path, ∃ n : InstanceName,
        plan.config.source_path = some source_path ∧ plan.config.instance_name = some n.name ∧
        m.look (artifact_path store n.name) = none ∧
        r.2.content (artifact_path store n.name) =
          some (render_response source_path.bytes n.name.bytes plan.config) ∧
        ∀ path, ¬Scratch store rules path → path ≠ artifact_path store n.name →
          SameAt m r.2 path) ∧
      (a.result ≠ .SUCCESS → a.result ≠ .ROLLBACK_FAILED →
        ∀ path, ¬Scratch store rules path → SameAt m r.2 path)) ∧
    ∀ name path, path = artifact_path store name ∨ path = rule_path rules name →
      ¬Scratch store rules path ∧ ((m.look path).isSome → SameAt m r.2 path) := by
  intro rules r
  have hspec := run_spec m pid choices (wp_installation_plan_apply_outcome store plan fuel
    environment)
  refine ⟨fun a ha => ?_, fun name path hpath => ⟨?_, fun hthere => ?_⟩⟩
  · have houtcome : Outcome store rules plan m a.result r.2 := by
      rcases hspec with ⟨hnone, -⟩ | ⟨a', hsome, hq⟩
      · exact absurd (ha.symm.trans hnone) (by simp)
      · exact Option.some.inj (ha.symm.trans hsome) ▸ hq
    refine ⟨fun hs => ?_, fun hr => ?_, fun hs hr path hpath => ?_⟩
    · obtain ⟨resolution, readiness, h1, h2, h3, h4, hfull⟩ := houtcome.success hs
      split at hfull
      · rename_i haction
        obtain ⟨rule, hrule, source_path, n, hsource, hn, -, -, hartifact, hcontent, -⟩ := hfull
        exact ⟨resolution, readiness, source_path, n, h1, h2, h3, h4, hsource, hn, hartifact,
          fun _ => ⟨rule, hrule, hcontent⟩, fun h => absurd (haction.symm.trans h) (by decide)⟩
      · rename_i haction
        obtain ⟨source_path, n, hsource, hn, -, hartifact, hkeeps⟩ := hfull
        refine ⟨resolution, readiness, source_path, n, h1, h2, h3, h4, hsource, hn, hartifact,
          fun h => absurd h haction, fun _ => sameAt_of_keeps hkeeps ⟨?_, ?_⟩⟩
        · exact rule_not_scratch store rules rules n.name
        · exact (artifact_path_ne_rule_path store rules n.name n.name).symm
    · obtain ⟨source_path, n, hsource, hn, hfree, hartifact, hkeeps⟩ := houtcome.left hr
      exact ⟨source_path, n, hsource, hn, hfree, hartifact,
        fun path hpath hne => sameAt_of_keeps hkeeps ⟨hpath, hne⟩⟩
    · exact sameAt_of_keeps (houtcome.restored hs hr) hpath
  · rcases hpath with rfl | rfl
    · exact artifact_not_scratch store rules name
    · exact rule_not_scratch store rules rules name
  · rcases hspec with ⟨-, hstopped⟩ | ⟨a, -, hq⟩
    · exact hstopped.final_paths hpath hthere
    · exact hq.preserved.final_paths hpath hthere

end application

end input_proxy
