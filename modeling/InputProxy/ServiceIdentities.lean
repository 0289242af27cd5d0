-- The identity that installed instances run under (src/service_identity.c): its
-- account and its groups in the user database, and the devices it can use then.
import InputProxy.ReadinessVerdicts

open c_strings

namespace input_proxy

/-! ## The user database -/

/-- What `getpwnam` and `getgrnam` give. A null pointer leaves `errno` zero where there is no
entry. -/
inductive Entry (α : Type)
  | found (entry : α)
  | missing
  | failed

/-- `struct passwd`, as far as it is read. -/
structure Account where
  uid : Nat
  gid : Nat

structure UserDatabase where
  getpwnam : CString → Entry Account
  /-- With the identifier of the group. -/
  getgrnam : CString → Entry Nat
  /-- The groups of a user, its primary group among them, at each time that they are read. -/
  groups : Nat → CString → Nat → List Nat
  /-- The memory for the groups is there. -/
  memory : Bool

/-- `getgrouplist` fills the array where the groups fit, and tells how many there are. -/
def getgrouplist (groups : List Nat) (count : Nat) : Option (List Nat) × Nat :=
  if groups.length ≤ count then (some groups, groups.length) else (none, groups.length)

/-! ## The identity -/

def SERVICE_IDENTITY : CString := cstr "input-proxy"

/-- `"input"` -/
def INPUT_GROUP : CString := cstr "input"

/-- The paths of the environment that the service has. -/
def service_paths : InputPaths where
  sysfs_input_path := cstr "/sys/class/input"
  device_input_path := cstr "/dev/input"
  uinput_path := cstr "/dev/uinput"
  udev_data_path := cstr "/run/udev/data"

/-- What is done with an entry, or the result where it is not there. -/
def Entry.look {α β : Type} (entry : Entry α) (missing : ServiceIdentityResult)
    (next : α → Except ServiceIdentityResult β) : Except ServiceIdentityResult β :=
  match entry with
  | .found entry => next entry
  | .missing => .error missing
  | .failed => .error .IDENTITY_UNUSABLE

def service_environment_resolve (db : UserDatabase) :
    Except ServiceIdentityResult DeploymentEnvironment :=
  (db.getpwnam SERVICE_IDENTITY).look .USER_MISSING fun account =>
  (db.getgrnam SERVICE_IDENTITY).look .GROUP_MISSING fun group =>
  if account.gid ≠ group then .error .PRIMARY_GROUP_MISMATCH
  else
    (db.getgrnam INPUT_GROUP).look .INPUT_GROUP_MISSING fun input_group =>
    -- the first call only counts
    let count := (getgrouplist (db.groups 0 SERVICE_IDENTITY account.gid) 0).2
    let count := if count ≤ 0 then 1 else count
    if !db.memory then .error .IDENTITY_UNUSABLE
    else
      match (getgrouplist (db.groups 1 SERVICE_IDENTITY account.gid) count).1 with
      | none => .error .IDENTITY_UNUSABLE
      | some owned_groups =>
        if input_group ∉ owned_groups then .error .INPUT_MEMBERSHIP_MISSING
        else .ok {
          toInputPaths := service_paths
          service_uid := account.uid
          service_gid := account.gid
          service_groups := owned_groups }

/-- What the package has to set up: an account whose primary group is its own, and which is a
member of the group of the input devices. -/
structure Integrated (db : UserDatabase) (environment : DeploymentEnvironment) (input_group : Nat) :
    Prop where
  account : db.getpwnam SERVICE_IDENTITY =
    .found ⟨environment.service_uid, environment.service_gid⟩
  group : db.getgrnam SERVICE_IDENTITY = .found environment.service_gid
  input : db.getgrnam INPUT_GROUP = .found input_group
  member : input_group ∈ environment.service_groups
  groups : db.groups 1 SERVICE_IDENTITY environment.service_gid = environment.service_groups
  paths : environment.toInputPaths = service_paths

/-- There was memory, and the groups did not become more between the two calls. -/
def UserDatabase.Settled (db : UserDatabase) (gid : Nat) : Prop :=
  db.memory = true ∧
    (db.groups 1 SERVICE_IDENTITY gid).length ≤ max 1 (db.groups 0 SERVICE_IDENTITY gid).length

section resolution

variable {db : UserDatabase} {environment : DeploymentEnvironment}

theorem look_eq_ok {α β : Type} {entry : Entry α} {missing : ServiceIdentityResult}
    {next : α → Except ServiceIdentityResult β} {b : β} :
    entry.look missing next = .ok b ↔ ∃ a, entry = .found a ∧ next a = .ok b := by
  cases entry <;> simp [Entry.look]

theorem getgrouplist_eq_some {groups owned : List Nat} {count : Nat} :
    (getgrouplist groups count).1 = some owned ↔ groups.length ≤ count ∧ groups = owned := by
  unfold getgrouplist
  split <;> simp_all

theorem count_of_groups (groups : List Nat) : (getgrouplist groups 0).2 = groups.length := by
  unfold getgrouplist
  split <;> rfl

/-- The identity is resolved exactly where the package is integrated. -/
theorem resolve_eq_ok : service_environment_resolve db = .ok environment ↔
    ∃ input_group, Integrated db environment input_group ∧ db.Settled environment.service_gid := by
  unfold service_environment_resolve
  simp only [look_eq_ok, count_of_groups]
  constructor
  · rintro ⟨account, haccount, group, hgroup, h⟩
    split at h
    · cases h
    rename_i hprimary
    have hprimary : account.gid = group := not_not.mp hprimary
    obtain ⟨input_group, hinput, h⟩ := look_eq_ok.mp h
    split at h
    · cases h
    rename_i hmemory
    split at h
    · cases h
    rename_i owned hfit
    obtain ⟨hlength, rfl⟩ := getgrouplist_eq_some.mp hfit
    split at h
    · cases h
    rename_i hmember
    obtain rfl := Except.ok.inj h
    refine ⟨input_group, ⟨haccount, hprimary ▸ hgroup, hinput, not_not.mp hmember, rfl, rfl⟩,
    ?_, ?_⟩
    · simpa using hmemory
    · dsimp only
      split at hlength <;> omega
  · rintro ⟨input_group, h, hmemory, hlength⟩
    refine ⟨_, h.account, _, h.group, ?_⟩
    rw [if_neg (by simp)]
    refine look_eq_ok.mpr ⟨_, h.input, ?_⟩
    rw [if_neg (by simp [hmemory])]
    have hfit : (getgrouplist (db.groups 1 SERVICE_IDENTITY environment.service_gid)
        (if (db.groups 0 SERVICE_IDENTITY environment.service_gid).length ≤ 0 then 1
          else (db.groups 0 SERVICE_IDENTITY environment.service_gid).length)).1 =
        some environment.service_groups := by
      apply getgrouplist_eq_some.mpr
      refine ⟨?_, h.groups⟩
      split <;> omega
    dsimp only
    rw [hfit]
    dsimp only
    rw [if_neg (not_not.mpr h.member), ← h.paths]

end resolution

/-! ## What it can use -/

/-- The group of the input devices may use a node in this way, and so may its owner. -/
def Shared (db : UserDatabase) (status : FileStatus) (owner_bit group_bit : Nat) : Prop :=
  db.getgrnam INPUT_GROUP = .found status.gid ∧ status.mode &&& group_bit ≠ 0 ∧
    status.mode &&& owner_bit ≠ 0

section access

variable {db : UserDatabase} {environment : DeploymentEnvironment} {status : FileStatus}

/-- A member has the rights of its group. -/
theorem has_access_of_shared {owner_bit group_bit other_bit : Nat}
    (h : service_environment_resolve db = .ok environment)
    (hs : Shared db status owner_bit group_bit) :
    deployment_identity_has_access status environment owner_bit group_bit other_bit = true := by
  obtain ⟨input_group, hi, -⟩ := resolve_eq_ok.mp h
  obtain ⟨hgroup, hmode, howner⟩ := hs
  have hgid : input_group = status.gid := by
    have heq := hi.input.symm.trans hgroup
    injection heq
  have hmatches : group_matches environment status.gid = true := by
    simp [group_matches, ← hgid, hi.member]
  unfold deployment_identity_has_access
  split
  · rfl
  · split
    · simpa using howner
    · simpa [hmatches] using hmode

end access

/-- Where the identity of the service is valid, an assessment and an inspection find that it can
use every source and every `/dev/uinput` that is shared with the group of the input devices. And
the identity is valid exactly where the account is set up as the package does it. -/
theorem a_valid_identity_uses_what_its_group_shares (db : UserDatabase)
    (environment : DeploymentEnvironment) :
    (service_environment_resolve db = .ok environment ↔
      ∃ input_group, Integrated db environment input_group ∧
        db.Settled environment.service_gid) ∧
    (service_environment_resolve db = .ok environment →
      ∀ (fs : Filesystem) (source_path : CString) (status uinput : FileStatus),
        fs.stat source_path = some status → Shared db status 0o400 0o040 →
        fs.stat environment.uinput_path = some uinput → uinput.character_device = true →
        Shared db uinput 0o200 0o020 →
        ((installation_plan_assess fs environment source_path).blockers.source = false →
          (installation_plan_assess fs environment source_path).blockers = Blockers.none) ∧
        ∀ snapshot installed, ∀ inspection ∈ inspect_device fs environment.toInputPaths source_path
          snapshot .IDENTITY_VALID (some environment) installed,
          inspection.installed_instance ≠ .NOT_READY) := by
  refine ⟨resolve_eq_ok, ?_⟩
  intro h fs source_path status uinput hstat hsource huinput hdevice hshared
  have hreads : service_reads status environment = true := has_access_of_shared h hsource
  have hwrites : service_writes (some uinput) environment = true := by
    have := @has_access_of_shared db environment uinput 0o200 0o020 0o002 h hshared
    simp [service_writes, hdevice, this]
  constructor
  · unfold installation_plan_assess
    rw [hstat, huinput]
    dsimp only
    split
    · intro hblocked
      cases hblocked
    · split
      · intro hblocked
        cases hblocked
      · intro hblocked
        simp only [hreads, hwrites, Bool.not_true]
        simpa [Blockers.none] using hblocked
  · intro snapshot installed inspection hinspection
    unfold inspect_device at hinspection
    rw [hstat] at hinspection
    dsimp only at hinspection
    split at hinspection
    · cases hinspection
    split at hinspection
    · cases hinspection
    obtain rfl := Option.some.inj hinspection
    apply verdict_ne_not_ready.mpr
    rw [huinput]
    simp [hreads, hwrites]

/-- The account of the package, as `getpwnam` and `getgrnam` show it. -/
def packaged_database : UserDatabase where
  getpwnam name := if name = SERVICE_IDENTITY then .found ⟨990, 980⟩ else .missing
  getgrnam name :=
    if name = SERVICE_IDENTITY then .found 980
    else if name = INPUT_GROUP then .found 104 else .missing
  groups _ _ gid := [gid, 104]
  memory := true

/-- The nodes of the keyboard and of uinput belong to the group of the input devices. -/
def installable_files : Filesystem := { keyboard_files with
  stat := fun path =>
    if path = cstr "/dev/uinput" then some ⟨true, 10, 223, 0, 104, 0o660⟩
    else (keyboard_files.stat path).map fun status => { status with gid := 104 } }

theorem the_packaged_service_uses_the_keyboard :
    let environment : DeploymentEnvironment := ⟨service_paths, 990, 980, [980, 104]⟩
    service_environment_resolve packaged_database = .ok environment ∧
      (installation_plan_assess installable_files environment keyboard_node).blockers =
        Blockers.none ∧
      ∀ inspection ∈ inspect_device installable_files service_paths keyboard_node none
        .IDENTITY_VALID (some environment) none, inspection.installed_instance ≠ .NOT_READY := by
  intro environment
  have hresolved : service_environment_resolve packaged_database = .ok environment := rfl
  obtain ⟨-, huses⟩ := a_valid_identity_uses_what_its_group_shares packaged_database environment
  obtain ⟨hassessed, hinspected⟩ := huses hresolved installable_files keyboard_node
    { event_device with gid := 104 } ⟨true, 10, 223, 0, 104, 0o660⟩ rfl
    ⟨rfl, by decide, by decide⟩ rfl rfl ⟨rfl, by decide, by decide⟩
  exact ⟨hresolved, hassessed (by decide +kernel), hinspected none none⟩

end input_proxy
