-- Inspection and installation: when the verdict of an inspection on an Installed
-- Instance is that of the assessment which the installation makes of the same path
-- (src/device_inspection.c, src/installation_planner.c).
import InputProxy.RuntimeAssociations

open c_strings

namespace input_proxy

/-! ## Agreement -/

/-- With a valid service identity, the inspection reports that an Installed Instance is ready
exactly if the assessment finds no blocker, and it suggests no installation of a source for which
the assessment finds one. -/
structure ReadinessAgrees (fs : Filesystem) (environment : DeploymentEnvironment)
    (path : CString) : Prop where
  verdict : ∀ snapshot installed,
    (∃ report, inspect_device fs environment.toInputPaths path snapshot .IDENTITY_VALID
        (some environment) installed = some report ∧ report.installed_instance ≠ .NOT_READY) ↔
      (installation_plan_assess fs environment path).blockers = .none
  suggestion : ∀ snapshot installed report,
    inspect_device fs environment.toInputPaths path snapshot .IDENTITY_VALID (some environment)
      installed = some report →
    ∀ source ∈ report.suggested_install,
      (installation_plan_assess fs environment source).blockers = .none

section agreement

variable {fs : Filesystem} {environment : DeploymentEnvironment} {path : CString}
  {status : FileStatus} {event_node sysfs_path : CString}

theorem verdict_ne_not_ready {ready ignored virtual_device : Bool} :
    verdict ready ignored virtual_device ≠ .NOT_READY ↔ ready = true := by
  cases ready <;> cases ignored <;> cases virtual_device <;> decide

/-- Only the device number of a path is resolved. -/
theorem resolve_of_same_rdev {other : FileStatus} (h : same_rdev other status = true) :
    resolve_event_node fs environment.toInputPaths other =
      resolve_event_node fs environment.toInputPaths status := by
  simp only [same_rdev, decide_eq_true_eq] at h
  unfold resolve_event_node event_candidate
  rw [h.1, h.2]

/-- What the inspection tells of a path that resolves to a device. -/
theorem inspect_of_resolved (hstat : fs.stat path = some status)
    (hdevice : status.character_device = true)
    (hresolve : resolve_event_node fs environment.toInputPaths status =
      some (event_node, sysfs_path))
    (snapshot : Option RuntimeSnapshot) (installed : Option (List CString)) :
    ∃ report, inspect_device fs environment.toInputPaths path snapshot .IDENTITY_VALID
        (some environment) installed = some report ∧
      (report.installed_instance ≠ .NOT_READY ↔ service_reads status environment = true ∧
        service_writes (fs.stat environment.uinput_path) environment = true) ∧
      report.suggested_install =
        if (service_reads status environment = true ∧
            service_writes (fs.stat environment.uinput_path) environment = true) ∧
          associated_instance_count snapshot event_node
            (first_link fs environment.device_input_path status) = 0 then
          some ((first_link fs environment.device_input_path status).getD path)
        else none := by
  unfold inspect_device
  rw [hstat]
  simp only [hdevice, Bool.not_true, Bool.false_eq_true, if_false, hresolve,
    find_persistent_input_path_eq]
  refine ⟨_, rfl, ?_, ?_⟩
  · rw [verdict_ne_not_ready]
    simp
  · simp

theorem inspect_unresolved (h : ∀ status event_node sysfs_path, fs.stat path = some status →
      status.character_device = true →
      resolve_event_node fs environment.toInputPaths status ≠ some (event_node, sysfs_path))
    (snapshot : Option RuntimeSnapshot) (result : ServiceIdentityResult)
    (service_environment : Option DeploymentEnvironment) (installed : Option (List CString)) :
    inspect_device fs environment.toInputPaths path snapshot result service_environment
      installed = none := by
  unfold inspect_device
  split
  · rfl
  · rename_i status hstat
    split
    · rfl
    · rename_i hdevice
      split
      · rfl
      · rename_i event_node sysfs_path hresolve
        exact absurd hresolve (h status event_node sysfs_path hstat (by simpa using hdevice))

theorem assess_of_resolved (hstat : fs.stat path = some status)
    (hdevice : status.character_device = true)
    (hresolve : resolve_event_node fs environment.toInputPaths status =
      some (event_node, sysfs_path)) :
    (installation_plan_assess fs environment path).blockers = .none ↔
      is_virtual_input fs.sysfs sysfs_path = false ∧ service_reads status environment = true ∧
        service_writes (fs.stat environment.uinput_path) environment = true := by
  unfold installation_plan_assess
  rw [hstat]
  simp only [hdevice, Bool.not_true, Bool.false_eq_true, if_false, hresolve, read_device_identity,
    Blockers.none, Blockers.mk.injEq, Bool.not_eq_false']

theorem assess_unresolved (h : ∀ status event_node sysfs_path, fs.stat path = some status →
      status.character_device = true →
      resolve_event_node fs environment.toInputPaths status ≠ some (event_node, sysfs_path)) :
    (installation_plan_assess fs environment path).blockers ≠ .none := by
  have hblocked : (no_source path).blockers ≠ .none := fun h => by cases h
  unfold installation_plan_assess
  split
  · exact hblocked
  · rename_i status hstat
    split
    · exact hblocked
    · rename_i hdevice
      split
      · exact hblocked
      · rename_i event_node sysfs_path hresolve
        exact absurd hresolve (h status event_node sysfs_path hstat (by simpa using hdevice))

/-- The link that is suggested is assessed as the same device, with the access of its own. -/
theorem assess_of_first_link {link : CString}
    (hresolve : resolve_event_node fs environment.toInputPaths status =
      some (event_node, sysfs_path))
    (hlink : first_link fs environment.device_input_path status = some link) :
    ∃ link_status, fs.stat link = some link_status ∧
      ((installation_plan_assess fs environment link).blockers = .none ↔
        is_virtual_input fs.sysfs sysfs_path = false ∧
          service_reads link_status environment = true ∧
            service_writes (fs.stat environment.uinput_path) environment = true) := by
  obtain ⟨directory, -, hpath⟩ := List.mem_flatMap.mp (first_link_mem hlink)
  have hleads := (List.mem_filter.mp hpath).2
  unfold leads_to at hleads
  obtain ⟨link_status, hstat, hdevice⟩ := (Option.any_eq_true _ _).mp hleads
  simp only [decide_eq_true_eq] at hdevice
  refine ⟨link_status, hstat, ?_⟩
  exact assess_of_resolved hstat hdevice.1 ((resolve_of_same_rdev hdevice.2).trans hresolve)

/-- A path that resolves to no device is refused by both. -/
theorem agrees_of_unresolved (h : ∀ status event_node sysfs_path, fs.stat path = some status →
      status.character_device = true →
      resolve_event_node fs environment.toInputPaths status ≠ some (event_node, sysfs_path)) :
    ReadinessAgrees fs environment path where
  verdict snapshot installed := by
    simp only [inspect_unresolved h, assess_unresolved h, iff_false]
    rintro ⟨report, hreport, -⟩
    cases hreport
  suggestion snapshot installed report hreport := by
    rw [inspect_unresolved h] at hreport
    cases hreport

/-- Of a device that the service identity may use, it is decided by its origin and its link. -/
theorem agrees_of_resolved (hstat : fs.stat path = some status)
    (hdevice : status.character_device = true)
    (hresolve : resolve_event_node fs environment.toInputPaths status =
      some (event_node, sysfs_path))
    (h : service_reads status environment = true →
      service_writes (fs.stat environment.uinput_path) environment = true →
      is_virtual_input fs.sysfs sysfs_path = false ∧
        ∀ link link_status, first_link fs environment.device_input_path status = some link →
          fs.stat link = some link_status → service_reads link_status environment = true) :
    ReadinessAgrees fs environment path where
  verdict snapshot installed := by
    obtain ⟨report, hreport, hready, -⟩ :=
      inspect_of_resolved hstat hdevice hresolve snapshot installed
    rw [assess_of_resolved hstat hdevice hresolve]
    constructor
    · rintro ⟨report', hreport', hverdict⟩
      obtain rfl := Option.some.inj (hreport.symm.trans hreport')
      obtain ⟨hreads, hwrites⟩ := hready.mp hverdict
      exact ⟨(h hreads hwrites).1, hreads, hwrites⟩
    · rintro ⟨-, huse⟩
      exact ⟨report, hreport, hready.mpr huse⟩
  suggestion snapshot installed report hreport source hsource := by
    obtain ⟨report', hreport', -, hsuggested⟩ :=
      inspect_of_resolved hstat hdevice hresolve snapshot installed
    obtain rfl := Option.some.inj (hreport.symm.trans hreport')
    rw [hsuggested] at hsource
    split at hsource
    · rename_i huse
      obtain ⟨⟨hreads, hwrites⟩, -⟩ := huse
      obtain ⟨hvirtual, hlinks⟩ := h hreads hwrites
      obtain rfl := Option.some.inj hsource
      cases hlink : first_link fs environment.device_input_path status with
      | none => exact (assess_of_resolved hstat hdevice hresolve).mpr ⟨hvirtual, hreads, hwrites⟩
      | some link =>
        obtain ⟨link_status, hlinkstat, hassess⟩ := assess_of_first_link hresolve hlink
        exact hassess.mpr ⟨hvirtual, hlinks _ _ hlink hlinkstat, hwrites⟩
    · cases hsource

/-- Inspection and installation agree on a path exactly if it is not that of a virtual device
which the service identity may use, and the link that is suggested instead of it is as readable. -/
theorem readiness_agrees_iff_no_usable_device_is_virtual (fs : Filesystem)
    (environment : DeploymentEnvironment) (path : CString) :
    ReadinessAgrees fs environment path ↔
      ∀ status event_node sysfs_path, fs.stat path = some status →
        status.character_device = true →
        resolve_event_node fs environment.toInputPaths status = some (event_node, sysfs_path) →
        service_reads status environment = true →
        service_writes (fs.stat environment.uinput_path) environment = true →
        is_virtual_input fs.sysfs sysfs_path = false ∧
          ∀ link link_status, first_link fs environment.device_input_path status = some link →
            fs.stat link = some link_status → service_reads link_status environment = true := by
  constructor
  · intro h status event_node sysfs_path hstat hdevice hresolve hreads hwrites
    -- with no instance running, the inspection reports and suggests what it can
    obtain ⟨report, hreport, hready, hsuggested⟩ :=
      inspect_of_resolved hstat hdevice hresolve none none
    have hblockers := (h.verdict none none).mp ⟨report, hreport, hready.mpr ⟨hreads, hwrites⟩⟩
    refine ⟨((assess_of_resolved hstat hdevice hresolve).mp hblockers).1, ?_⟩
    intro link link_status hlink hlinkstat
    rw [if_pos ⟨⟨hreads, hwrites⟩, rfl⟩, hlink, Option.getD_some] at hsuggested
    obtain ⟨link_status', hstat', hassess⟩ := assess_of_first_link hresolve hlink
    obtain rfl := Option.some.inj (hlinkstat.symm.trans hstat')
    exact (hassess.mp (h.suggestion none none report hreport link hsuggested)).2.1
  · intro h
    by_cases hresolved : ∃ status event_node sysfs_path, fs.stat path = some status ∧
        status.character_device = true ∧
        resolve_event_node fs environment.toInputPaths status = some (event_node, sysfs_path)
    · obtain ⟨status, event_node, sysfs_path, hstat, hdevice, hresolve⟩ := hresolved
      exact agrees_of_resolved hstat hdevice hresolve (h _ _ _ hstat hdevice hresolve)
    · refine agrees_of_unresolved fun status event_node sysfs_path hstat hdevice hresolve => ?_
      exact hresolved ⟨status, event_node, sysfs_path, hstat, hdevice, hresolve⟩

end agreement

/-! ## A virtual keyboard -/

/-- The files of the keyboard, with its sysfs path among those of virtual devices. -/
def virtual_keyboard_files : Filesystem := { keyboard_files with
  stat := fun path =>
    if path = cstr "/dev/uinput" then some ⟨true, 10, 223, 0, 990, 0o660⟩
    else keyboard_files.stat path
  sysfs := { keyboard_files.sysfs with
    realpath := fun _ => some (cstr "/sys/devices/virtual/input/input9/event8") } }

/-- The service identity of the package: in the group of `/dev/uinput`, and in that of the
devices. -/
def package_environment : DeploymentEnvironment :=
  { system_paths with service_uid := 990, service_gid := 990, service_groups := [0] }

/-- A virtual keyboard is reported as ready, and refused. -/
theorem a_virtual_keyboard_is_ready_and_refused :
    ¬∀ (fs : Filesystem) (environment : DeploymentEnvironment) (path : CString),
      ReadinessAgrees fs environment path := by
  intro h
  have hiff := (h virtual_keyboard_files package_environment keyboard_node).verdict none none
  have hready : ∃ report, inspect_device virtual_keyboard_files package_environment.toInputPaths
      keyboard_node none .IDENTITY_VALID (some package_environment) none = some report ∧
        report.installed_instance ≠ .NOT_READY := by
    have hreport : (inspect_device virtual_keyboard_files package_environment.toInputPaths
        keyboard_node none .IDENTITY_VALID (some package_environment) none).any
          (·.installed_instance ≠ .NOT_READY) = true := by decide +kernel
    obtain ⟨report, hreport, hverdict⟩ := (Option.any_eq_true _ _).mp hreport
    exact ⟨report, hreport, by simpa using hverdict⟩
  exact absurd (hiff.mp hready) (by decide +kernel)

end input_proxy
