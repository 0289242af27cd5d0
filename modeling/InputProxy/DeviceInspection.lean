-- The inspection of a device (src/device_inspection.c) and the assessment of an
-- installation (src/installation_planner.c): two readings of the same files, which
-- resolve the device, its links, and who may use it (src/service_identity.c).
import InputProxy.RuleIdentities
import InputProxy.RuntimeDiscovery

open c_strings

namespace input_proxy

/-! ## Files -/

/-- What the system shows of the devices, and what the caller may open. -/
structure Filesystem where
  stat : CString → Option FileStatus
  /-- The names in a directory, in the order of `alphasort`. -/
  scandir : CString → Option (List CString)
  sysfs : Sysfs
  records : CString → Option OpenFile
  opens_for_reading : CString → Bool
  opens_for_writing : CString → Bool

structure InputPaths where
  sysfs_input_path : CString
  device_input_path : CString
  uinput_path : CString
  udev_data_path : CString

/-- `/` and what comes after it. -/
def join (directory name : CString) : CString := directory ++ cstr "/" ++ name

/-- `st_rdev` is the same. -/
def same_rdev (status other : FileStatus) : Bool :=
  status.major = other.major ∧ status.minor = other.minor

/-! ## Persistent paths -/

/-- An entry of a directory of links that leads to the device. -/
def persistent_candidate (fs : Filesystem) (status : FileStatus) (directory name : CString) :
    Option CString :=
  let candidate := join directory name
  if name.bytes.head? = some dot ∨ candidate.length ≥ PATH_MAX then none
  else
    match fs.stat candidate with
    | none => none
    | some candidate_status =>
      if candidate_status.character_device ∧ same_rdev candidate_status status then some candidate
      else none

def persistent_path_in (fs : Filesystem) (status : FileStatus) (directory : CString) :
    Option CString :=
  if directory.length ≥ PATH_MAX then none
  else
    match fs.scandir directory with
    | none => none
    | some entries => entries.findSome? (persistent_candidate fs status directory)

/-- The directories of the links. -/
def link_directories (device_input_path : CString) : List CString :=
  [join device_input_path (cstr "by-id"), join device_input_path (cstr "by-path")]

def find_persistent_input_path (fs : Filesystem) (device_input_path : CString)
    (status : FileStatus) : Option CString :=
  (link_directories device_input_path).findSome? (persistent_path_in fs status)

/-! ## Event nodes -/

def event_name (path : CString) : Option CString :=
  let base := (path.after_last 47).getD path
  if (ascii "event").isPrefixOf base.bytes ∧ base.bytes.drop 5 ≠ [] ∧
      (base.bytes.drop 5).all isdigit then some base
  else none

/-- Whether there is a minus sign, and what is after a sign. -/
def split_sign : Bytes → Bool × Bytes
  | 45 :: rest => (true, rest)
  | 43 :: rest => (false, rest)
  | rest => (false, rest)

/-- `%u` of `fscanf`: the value is that of `strtoul`, as an `unsigned int`. -/
def scan_unsigned (text : Bytes) : Option (Nat × Bytes) :=
  let (negative, rest) := split_sign (text.dropWhile is_space)
  let value := of_decimal (rest.takeWhile isdigit)
  if rest.takeWhile isdigit = [] then none
  else if value > UINTMAX_MAX then some (UINT32_MAX, rest.dropWhile isdigit)
  else
    let value := if negative then UINTMAX_MAX + 1 - value else value
    some (value % (UINT32_MAX + 1), rest.dropWhile isdigit)

/-- `"%u:%u"` -/
def scan_device_number (text : Bytes) : Option (Nat × Nat) :=
  match scan_unsigned text with
  | some (device_major, 58 :: rest) => (scan_unsigned rest).map fun (device_minor, _) =>
      (device_major, device_minor)
  | _ => none

/-- The node and the sysfs path of an entry that is the device. -/
def event_candidate (fs : Filesystem) (paths : InputPaths) (device_status : FileStatus)
    (name : CString) : Option (CString × CString) :=
  let event_sysfs_path := join paths.sysfs_input_path name
  let dev_path := join event_sysfs_path (cstr "dev")
  let event_node := join paths.device_input_path name
  if event_name name = none ∨ dev_path.length ≥ PATH_MAX then none
  else
    match fs.sysfs.fopen dev_path with
    | none => none
    | some content =>
      if scan_device_number content.bytes = some (device_status.major, device_status.minor) ∧
          event_node.length < PATH_MAX ∧ event_sysfs_path.length < PATH_MAX then
        some (event_node, event_sysfs_path)
      else none

def resolve_event_node (fs : Filesystem) (paths : InputPaths) (device_status : FileStatus) :
    Option (CString × CString) :=
  match fs.scandir paths.sysfs_input_path with
  | none => none
  | some entries => entries.findSome? (event_candidate fs paths device_status)

/-! ## Access -/

/-- `struct input_proxy_deployment_environment`. -/
structure DeploymentEnvironment extends InputPaths where
  service_uid : Nat
  service_gid : Nat
  service_groups : List Nat

def group_matches (environment : DeploymentEnvironment) (group : Nat) : Bool :=
  environment.service_gid = group ∨ group ∈ environment.service_groups

def deployment_identity_has_access (status : FileStatus) (environment : DeploymentEnvironment)
    (owner_bit group_bit other_bit : Nat) : Bool :=
  if environment.service_uid = 0 then true
  else if environment.service_uid = status.uid then status.mode &&& owner_bit ≠ 0
  else if group_matches environment status.gid then status.mode &&& group_bit ≠ 0
  else status.mode &&& other_bit ≠ 0

/-- With `S_IRUSR`, `S_IRGRP` and `S_IROTH`. -/
def service_reads (status : FileStatus) (environment : DeploymentEnvironment) : Bool :=
  deployment_identity_has_access status environment 0o400 0o040 0o004

/-- With `S_IWUSR`, `S_IWGRP` and `S_IWOTH`, of a character device. -/
def service_writes (status : Option FileStatus) (environment : DeploymentEnvironment) : Bool :=
  match status with
  | none => false
  | some status => status.character_device &&
      deployment_identity_has_access status environment 0o200 0o020 0o002

/-! ## Associations -/

/-- How an instance that runs was started, as far as it is known. -/
inductive Provenance
  | Installed
  | Direct_run
  | Unknown
deriving DecidableEq

/-- A line about an instance that runs for the device. -/
structure AssociationLine where
  instance_name : CString
  provenance : Provenance
  source_path : CString

inductive Associations
  | unavailable
  | listed (lines : List AssociationLine)

/-- `installed` are the names in the store, where they could be enumerated. -/
def association_line (installed : Option (List CString)) (record : RuntimeRecord) :
    AssociationLine where
  instance_name := record.instance_name
  provenance :=
    match installed with
    | none => .Unknown
    | some names => if record.instance_name ∈ names then .Installed else .Direct_run
  source_path := record.source_path

def print_runtime_associations (snapshot : RuntimeSnapshot) (event_node : CString)
    (preferred_source : Option CString) (installed : Option (List CString)) : Associations :=
  if !snapshot.available then .unavailable
  else .listed ((snapshot.records.filter fun record =>
    runtime_record_matches_device record event_node preferred_source).map
      (association_line installed))

def should_suggest_run (source_accessible uinput_accessible : Bool)
    (associated_instance_count : Nat) : Bool :=
  source_accessible && uinput_accessible && associated_instance_count = 0

/-! ## Inspection -/

/-- `enum input_proxy_install_service_identity_result`, without the prefix. -/
inductive ServiceIdentityResult
  | IDENTITY_VALID
  | USER_MISSING
  | GROUP_MISSING
  | PRIMARY_GROUP_MISMATCH
  | INPUT_GROUP_MISSING
  | INPUT_MEMBERSHIP_MISSING
  | IDENTITY_UNUSABLE
deriving DecidableEq

inductive Verdict
  | NOT_READY
  | READY_WITH_WARNINGS
  | READY
deriving DecidableEq

/-- What an inspection tells, beside the description of the device. -/
structure Inspection where
  event_node : CString
  persistent_path : Option CString
  virtual_device : Bool
  source_ok : Bool
  uinput_exists : Bool
  uinput_ok : Bool
  service_source_ok : Bool
  service_uinput_ok : Bool
  ignored : Bool
  manual_run : Verdict
  installed_instance : Verdict
  suggested_rule : Option CString
  suggested_run : Option CString
  suggested_install : Option CString
  associations : Option Associations

def verdict (ready ignored virtual_device : Bool) : Verdict :=
  if !ready then .NOT_READY
  else if !ignored && !virtual_device then .READY_WITH_WARNINGS
  else .READY

/-- `input_proxy_runtime_association_count`, of a snapshot that may be a null pointer. -/
def associated_instance_count (snapshot : Option RuntimeSnapshot) (event_node : CString)
    (preferred_source : Option CString) : Nat :=
  match snapshot with
  | none => 0
  | some snapshot => runtime_association_count snapshot event_node preferred_source

/-- `input_proxy_inspect_device_with_service_environment`. -/
def inspect_device (fs : Filesystem) (paths : InputPaths) (device_path : CString)
    (runtime_snapshot : Option RuntimeSnapshot)
    (service_identity_result : ServiceIdentityResult)
    (service_environment : Option DeploymentEnvironment) (installed : Option (List CString)) :
    Option Inspection :=
  match fs.stat device_path with
  | none => none
  | some status =>
    if !status.character_device then none
    else
      match resolve_event_node fs paths status with
      | none => none
      | some (event_node, sysfs_path) =>
        let identity := read_device_identity fs.sysfs sysfs_path
        let source_ok := fs.opens_for_reading device_path
        let uinput_ok := fs.opens_for_writing paths.uinput_path
        let uinput_status := fs.stat paths.uinput_path
        let environment :=
          if service_identity_result = .IDENTITY_VALID then service_environment else none
        let service_source_ok := environment.any (service_reads status)
        let service_uinput_ok := environment.any (service_writes uinput_status)
        let persistent_path := find_persistent_input_path fs paths.device_input_path status
        let count := associated_instance_count runtime_snapshot event_node persistent_path
        let (libinput_status, properties) :=
          read_libinput_status paths.udev_data_path status fs.records
        let ignored : Bool := libinput_status = .IGNORED
        let service_ready : Bool := service_identity_result = .IDENTITY_VALID ∧
          service_source_ok ∧ service_uinput_ok
        some {
          event_node, persistent_path, source_ok, uinput_ok, service_source_ok, service_uinput_ok,
          ignored
          virtual_device := identity.virtual_device
          uinput_exists := uinput_status.isSome
          manual_run := verdict (source_ok && uinput_ok) ignored identity.virtual_device
          installed_instance := verdict service_ready ignored identity.virtual_device
          suggested_rule :=
            if !ignored && !identity.virtual_device then
              render_libinput_ignore_rule (collected_identity properties identity)
            else none
          suggested_run :=
            if should_suggest_run source_ok uinput_ok count then
              some (persistent_path.getD device_path)
            else none
          suggested_install :=
            if service_ready && count = 0 then some (persistent_path.getD device_path) else none
          associations := runtime_snapshot.bind fun snapshot =>
            if !snapshot.available || count > 0 then
              some (print_runtime_associations snapshot event_node persistent_path installed)
            else none }

/-! ## Assessment -/

/-- The bits of `enum input_proxy_deployment_blocker`. -/
structure Blockers where
  source : Bool
  package_integration : Bool
  uinput : Bool
deriving DecidableEq

/-- `INPUT_PROXY_DEPLOYMENT_BLOCKER_NONE` -/
def Blockers.none : Blockers := ⟨false, false, false⟩

/-- `struct input_proxy_deployment_readiness`. -/
structure DeploymentReadiness where
  supplied_source_path : CString
  selected_source_path : CString
  preferred_source_path : Option CString
  preferred_source_differs : Bool
  physical_source : Bool
  source_accessible : Bool
  uinput_accessible : Bool
  libinput_status : LibinputStatus
  libinput_ignore_rule_available : Bool
  rule_identity : RuleIdentity
  blockers : Blockers

/-- The readiness of a source that is no input device. -/
def no_source (source_path : CString) : DeploymentReadiness where
  supplied_source_path := source_path
  selected_source_path := source_path
  preferred_source_path := none
  preferred_source_differs := false
  physical_source := false
  source_accessible := false
  uinput_accessible := false
  libinput_status := .INDETERMINATE
  libinput_ignore_rule_available := false
  rule_identity := no_identity
  blockers := { Blockers.none with source := true }

/-- `input_proxy_installation_plan_assess`, of the source path of a plan. -/
def installation_plan_assess (fs : Filesystem) (environment : DeploymentEnvironment)
    (source_path : CString) : DeploymentReadiness :=
  match fs.stat source_path with
  | none => no_source source_path
  | some source_status =>
    if !source_status.character_device then no_source source_path
    else
      match resolve_event_node fs environment.toInputPaths source_status with
      | none => no_source source_path
      | some (_, event_sysfs_path) =>
        let identity := read_device_identity fs.sysfs event_sysfs_path
        let preferred_source_path :=
          find_persistent_input_path fs environment.device_input_path source_status
        let (libinput_status, properties) :=
          read_libinput_status environment.udev_data_path source_status fs.records
        let rule_identity := collected_identity properties identity
        let source_accessible := service_reads source_status environment
        let uinput_accessible := service_writes (fs.stat environment.uinput_path) environment
        {
          supplied_source_path := source_path
          selected_source_path := source_path
          preferred_source_path
          preferred_source_differs := preferred_source_path.any (· ≠ source_path)
          physical_source := !identity.virtual_device
          source_accessible
          uinput_accessible
          libinput_status
          libinput_ignore_rule_available := rule_identity_is_narrow rule_identity ∧
            libinput_status = .NOT_IGNORED
          rule_identity
          blockers := ⟨identity.virtual_device, !source_accessible, !uinput_accessible⟩ }

end input_proxy
