-- What an installation changes on disk (src/installation_application.c) and
-- what an uninstall takes away again (src/uninstall_command.c).
import InputProxy.InstalledInstances

open c_strings disks processes

namespace input_proxy

/-! ## Udev rules -/

def RULE_PREFIX : CString := cstr "90-input-proxy-"

def RULE_SUFFIX : CString := cstr ".rules"

def RULE_TEMPORARY_TEMPLATE : CString := cstr "/.input-proxy-rule-XXXXXX"

def UDEV_RULE_DIRECTORY : CString := cstr "/etc/udev/rules.d"

/-- `struct input_proxy_device_rule_identity`. -/
structure RuleIdentity where
  udev_vendor : CString
  udev_model : CString
  path : CString
  bus : CString
  vendor : CString
  product : CString

/-- Not empty, and of letters, digits and `_-.:/` only. -/
def rule_value_is_safe (value : CString) : Bool :=
  value.bytes ≠ [] ∧ value.bytes.all fun byte =>
    is_alphanumeric byte || byte ∈ [95, 45, 46, 58, 47]

def rule_identity_has_udev_identity (identity : RuleIdentity) : Bool :=
  rule_value_is_safe identity.udev_vendor && rule_value_is_safe identity.udev_model

def rule_identity_is_narrow (identity : RuleIdentity) : Bool :=
  rule_value_is_safe identity.path && (rule_identity_has_udev_identity identity ||
    (rule_value_is_safe identity.bus && rule_value_is_safe identity.vendor &&
      rule_value_is_safe identity.product))

/-- The rule of an identity that is narrow enough for one. -/
def render_libinput_ignore_rule (identity : RuleIdentity) : Option CString :=
  if !rule_identity_is_narrow identity then none
  else
    let identity_match := snprintf 512 (
      if rule_identity_has_udev_identity identity then
        cstr "ENV\x7bID_VENDOR_ID\x7d==\"" ++ identity.udev_vendor ++
          cstr "\", ENV\x7bID_MODEL_ID\x7d==\"" ++ identity.udev_model ++ cstr "\""
      else
        cstr "ATTRS\x7bid/bustype\x7d==\"" ++ identity.bus ++
          cstr "\", ATTRS\x7bid/vendor\x7d==\"" ++ identity.vendor ++
          cstr "\", ATTRS\x7bid/product\x7d==\"" ++ identity.product ++ cstr "\"")
    some (cstr "ACTION==\"add|change\", SUBSYSTEM==\"input\", KERNEL==\"event*\", " ++
      identity_match ++ cstr ", ENV\x7bID_PATH\x7d==\"" ++ identity.path ++
      cstr "\", ENV\x7bLIBINPUT_IGNORE_DEVICE\x7d=\"1\"\n")

/-- The path of a rule, in the buffer of `rule_path`. -/
def rule_path (directory name : CString) : CString :=
  snprintf (directory.length + name.length + (RULE_PREFIX.length + 1) + (RULE_SUFFIX.length + 1))
    (directory ++ cstr "/" ++ RULE_PREFIX ++ name ++ RULE_SUFFIX)

/-! ## Application of a plan -/

/-- `enum input_proxy_installation_application_result`, without the prefix. -/
inductive ApplicationResult
  | SUCCESS
  | INVALID_PLAN
  | RESPONSE_FAILED
  | RULE_GENERATION_FAILED
  | RULE_PUBLICATION_FAILED
  | ROLLBACK_FAILED
deriving DecidableEq

/-- `struct input_proxy_deployment_resolution`; the source path that it chooses is in the
configuration. -/
structure Resolution where
  libinput_ignore_action : Bool
  choices_resolved : Bool
  application_ready : Bool

/-- What the application reads of a plan: `readiness` and `resolution` are null pointers before
their step. -/
structure InstallationPlan where
  config : RunConfig
  readiness : Option RuleIdentity
  resolution : Option Resolution

structure ApplicationEnvironment where
  udev_rule_directory : CString
  inject_rule_publication_failure : Bool
  inject_response_rollback_failure : Bool

/-- `struct input_proxy_installation_application_failure`: the path is that of the artifact that
a rollback could not remove. -/
structure Application where
  result : ApplicationResult
  rollback_path : CString

/-- `write_all` of the application, which gives up where nothing is written. -/
def rule_write_all (fuel descriptor : Nat) (content : Bytes) : Proc Bool :=
  .loop (fun content => do
    if content = [] then return .inr true
    match ← write descriptor content with
    | .error .EINTR => return .inl content
    | .error _ => return .inr false
    | .ok 0 => return .inr false
    | .ok written => return .inl (content.drop written)) fuel content

/-- The label `cleanup`: the temporary file is removed, also after a success. -/
def publish_cleanup (descriptor : Option Nat) (temporary : CString) (success : Bool) :
    Proc Bool := do
  if let some descriptor := descriptor then
    let _ ← close descriptor
  let _ ← unlink temporary
  return success

def publish_rule (fuel : Nat) (directory final_path : CString) (content : Bytes)
    (inject_failure : Bool) : Proc Bool := do
  if !(← malloc) then return false
  let (made, temporary) ← mkstemp (directory ++ RULE_TEMPORARY_TEMPLATE)
  match made with
  | .error _ => publish_cleanup none temporary false
  | .ok descriptor =>
    if !(← fchmod descriptor) then publish_cleanup descriptor temporary false
    else if !(← rule_write_all fuel descriptor content) then
      publish_cleanup descriptor temporary false
    else if !(← fsync descriptor) then publish_cleanup descriptor temporary false
    else if !(← close descriptor) then publish_cleanup none temporary false
    else if inject_failure then publish_cleanup none temporary false
    else
      match ← link temporary final_path with
      | some _ => publish_cleanup none temporary false
      | none => publish_cleanup none temporary true

/-- After a rule that could not be published, the artifact is removed again. -/
def roll_back (store : Store) (environment : ApplicationEnvironment)
    (instance_name : Option CString) : Proc Application := do
  let removed ← if environment.inject_response_rollback_failure then pure .REMOVAL_FAILED
    else installed_instance_remove store instance_name
  if removed = .SUCCESS then return ⟨.RULE_PUBLICATION_FAILED, cstr ""⟩
  match ← installed_instance_path store instance_name with
  | .error _ => return ⟨.ROLLBACK_FAILED, cstr ""⟩
  | .ok path => return ⟨.ROLLBACK_FAILED, snprintf 1024 path⟩

def installation_plan_apply (fuel : Nat) (store : Store) (environment : ApplicationEnvironment)
    (plan : InstallationPlan) : Proc Application := do
  match plan.resolution, plan.readiness with
  | some resolution, some readiness =>
    if !resolution.choices_resolved || !resolution.application_ready then
      return ⟨.INVALID_PLAN, cstr ""⟩
    if !resolution.libinput_ignore_action then
      if (← installed_instance_create fuel store plan.config) = .SUCCESS then
        return ⟨.SUCCESS, cstr ""⟩
      return ⟨.RESPONSE_FAILED, cstr ""⟩
    match render_libinput_ignore_rule readiness with
    | none => return ⟨.RULE_GENERATION_FAILED, cstr ""⟩
    | some content =>
      if !(← malloc) then return ⟨.RULE_GENERATION_FAILED, cstr ""⟩
      match plan.config.instance_name with
      | none => return ⟨.RULE_GENERATION_FAILED, cstr ""⟩
      | some name =>
        if !(← malloc) then return ⟨.RULE_GENERATION_FAILED, cstr ""⟩
        let final_rule := rule_path environment.udev_rule_directory name
        match ← lstat final_rule with
        | some .ENOENT =>
          if (← installed_instance_create fuel store plan.config) ≠ .SUCCESS then
            return ⟨.RESPONSE_FAILED, cstr ""⟩
          if ← publish_rule fuel environment.udev_rule_directory final_rule content.bytes
              environment.inject_rule_publication_failure then
            return ⟨.SUCCESS, cstr ""⟩
          roll_back store environment plan.config.instance_name
        | _ => return ⟨.RULE_PUBLICATION_FAILED, cstr ""⟩
  | _, _ => return ⟨.INVALID_PLAN, cstr ""⟩

/-! ## The stages of an uninstall -/

/-- `enum input_proxy_uninstall_stage_result`. -/
inductive StageResult
  | SUCCESS
  | NOT_REQUIRED
  | FAILED
deriving DecidableEq

inductive Exit
  | SUCCESS
  | FAILURE
deriving DecidableEq

/-- `default_stop` and `default_disable`: a command is given where a first one does not say with
`not_required` that there is no need. -/
def managed_stage (query command : String) (not_required : Int) (unit : CString) :
    Proc StageResult := do
  let status ← run_command [cstr "systemctl", cstr query, cstr "--quiet", unit]
  if status = not_required then return .NOT_REQUIRED
  if status ≠ 0 then return .FAILED
  if (← run_command [cstr "systemctl", cstr command, unit]) = 0 then return .SUCCESS
  return .FAILED

def default_stop (unit : CString) : Proc StageResult := managed_stage "is-active" "stop" 3 unit

def default_disable (unit : CString) : Proc StageResult :=
  managed_stage "is-enabled" "disable" 1 unit

def default_remove (path : CString) : Proc StageResult := do
  match ← unlink path with
  | none => return .SUCCESS
  | some .ENOENT => return .NOT_REQUIRED
  | some _ => return .FAILED

def default_source_present (path : CString) : Proc Bool := stat path

def default_reload : Proc Bool := do
  return (← run_command [cstr "udevadm", cstr "control", cstr "--reload-rules"]) = 0

/-- The path of a source in sysfs, from its real path. -/
def source_sysfs_path (resolved : CString) (size : Nat) : Option CString :=
  let name : CString := .of (resolved.bytes.reverse.takeWhile (· ≠ slash)).reverse
  let path := cstr "/sys/class/input/" ++ name
  if name.bytes ≠ [] ∧ path.length < size then some path else none

def default_trigger (source_path : CString) : Proc Bool := do
  match ← realpath source_path with
  | none => return false
  | some resolved =>
    match source_sysfs_path resolved 4096 with
    | none => return false
    | some path =>
      return (← run_command [cstr "udevadm", cstr "trigger", cstr "--action=change", path]) = 0

def default_settle : Proc Bool := do
  return (← run_command [cstr "udevadm", cstr "settle"]) = 0

/-! ## The uninstall command -/

/-- The argument after the first `--source`, where there is one. -/
def source_from_response : List CString → Option CString
  | argument :: value :: rest =>
    if argument = cstr "--source" then some value else source_from_response (value :: rest)
  | _ => none

/-- The rule of an instance as the uninstall command writes its path. -/
def uninstall_rule_path (directory name : CString) : CString :=
  snprintf (directory.length + name.length + 32)
    (directory ++ cstr "/90-input-proxy-" ++ name ++ cstr ".rules")

/-- The name of a unit, where it fits. -/
def unit_name (size : Nat) (name : CString) : Option CString :=
  let unit := cstr "input-proxy@" ++ name ++ cstr ".service"
  if unit.length ≥ size then none else some unit

/-- What follows the removal of a rule. -/
def activate_removal (source : Option CString) : Proc Bool := do
  if !(← default_reload) then return false
  match source with
  | none => return true
  | some source =>
    if ← default_source_present source then
      if !(← default_trigger source) then return false
      default_settle
    else return true

/-- Udev is told of a removal that this attempt made, not of one that an earlier attempt made. -/
def activation (rule_result : StageResult) (source : Option CString) : Proc Bool :=
  if rule_result = .SUCCESS then activate_removal source else return true

/-- The artifact is retained for a retry where a stage failed. -/
def remove_response (failed : Bool) (response_path : CString) : Proc Exit := do
  if failed then return .FAILURE
  if (← default_remove response_path) = .SUCCESS then return .SUCCESS
  return .FAILURE

/-- The stages, in order. -/
def uninstall_stages (response_path rule_path unit program_name : CString) : Proc Exit := do
  let stop_result ← default_stop unit
  let disable_result ← default_disable unit
  let argv ← response_file_read response_path program_name
  let rule_result ← default_remove rule_path
  let activated ← activation rule_result (source_from_response ((argv.getD []).drop 2))
  remove_response (stop_result = .FAILED || disable_result = .FAILED || rule_result = .FAILED ||
    !activated) response_path

/-- The command for the name that was chosen. -/
def uninstall_instance (store : Store) (udev_rule_directory program_name name : CString) :
    Proc Exit := do
  match ← installed_instance_path store name with
  | .error _ => return .FAILURE
  | .ok response_path =>
    if !(← malloc) then return .FAILURE
    match unit_name 256 name with
    | none => return .FAILURE
    | some unit =>
      uninstall_stages response_path (uninstall_rule_path udev_rule_directory name) unit
        program_name

structure UninstallEnvironment where
  effective_uid : Nat
  installed_instance_directory : CString
  udev_rule_directory : CString
  /-- The number that is read where a list of names is shown. -/
  selection : Option Nat

/-- `input_proxy_uninstall_command_with_environment`, with the default operations. The argument
is the one after the command, if there is one. -/
def uninstall_command (environment : UninstallEnvironment) (program_name : CString)
    (argument : Option CString) : Proc Exit := do
  if environment.effective_uid ≠ 0 then return .FAILURE
  if argument = some (cstr "--help") then return .FAILURE
  if hdirectory : environment.installed_instance_directory.bytes = [] then return .FAILURE
  else
  let store : Store := ⟨environment.installed_instance_directory, hdirectory⟩
  -- the store, then its directory
  if !(← malloc) then return .FAILURE
  if !(← malloc) then return .FAILURE
  match argument with
  | some name =>
    if !(← malloc) then return .FAILURE
    match ← installed_instance_exists store name with
    | .ok true =>
      uninstall_instance store environment.udev_rule_directory program_name name
    | _ => return .FAILURE
  | none =>
    match ← installed_instance_enumerate store with
    | .error _ => return .FAILURE
    | .ok [] => return .SUCCESS
    | .ok names =>
      match environment.selection with
      | none => return .FAILURE
      | some selection =>
        if selection = 0 then return .FAILURE
        match names[selection - 1]? with
        | none => return .FAILURE
        | some name =>
          if !(← malloc) then return .FAILURE
          uninstall_instance store environment.udev_rule_directory program_name name

end input_proxy
