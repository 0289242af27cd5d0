-- The install command (src/install_command.c): the plan and the reservation of
-- its name (src/installation_planner.c, src/instance_name.c), the application,
-- and the activation, which gives the name up for the service
-- (src/installation_activation.c).
import InputProxy.Installation

open c_strings disks processes

namespace input_proxy

/-! ## The reservation of a name -/

/-- The ownership that `input_proxy_instance_name_acquire` makes is the address that is bound. -/
def instance_name_acquire (name : Option CString) : Proc (Except Result Bytes) := do
  match instance_name_address name with
  | .error result => return .error result
  | .ok address =>
    if !(← malloc) then return .error .ERROR_OUT_OF_MEMORY
    if !(← socket) then return .error .ERROR_INSTANCE_NAME_OWNERSHIP_FAILED
    -- a socket that was not bound holds no name when it is closed
    match ← bind address with
    | .BOUND => return .ok address
    | .IN_USE => return .error .ERROR_INSTANCE_NAME_OWNED
    | .FAILED => return .error .ERROR_INSTANCE_NAME_OWNERSHIP_FAILED

def instance_name_release (ownership : Option Bytes) : Proc Unit :=
  match ownership with
  | none => return ()
  | some address => close_socket address

/-! ## The plan -/

/-- `enum input_proxy_installation_plan_result`, without the prefix. -/
inductive PlanResult
  | SUCCESS
  | INVALID_REQUEST
  | INVALID_INSTANCE_NAME
  | INSTALLED_NAME_COLLISION
  | RUNTIME_NAME_COLLISION
  | STORE_FAILED
  | OWNERSHIP_FAILED
  | OUT_OF_MEMORY
  | INVALID_CHOICES
deriving DecidableEq

/-- `struct input_proxy_installation_request`, as far as the plan reads it. -/
structure InstallationRequest where
  source_path : Option CString
  instance_name : Option CString
  activity_timeout_ms : Nat
  detection_throttle_ms : Nat
  running_motion_activity : Bool
  paused_motion_activity : Bool
  start_paused : Bool
  source_supplied : Bool
  instance_name_supplied : Bool

def InstallationRequest.config (request : InstallationRequest) : RunConfig where
  source_path := request.source_path
  instance_name := request.instance_name
  activity_timeout_ms := request.activity_timeout_ms
  detection_throttle_ms := request.detection_throttle_ms
  running_motion_activity := request.running_motion_activity
  paused_motion_activity := request.paused_motion_activity
  start_paused := request.start_paused
  verbose := false

def map_name_result : Result → PlanResult
  | .ERROR_INVALID_INSTANCE_NAME => .INVALID_INSTANCE_NAME
  | .ERROR_INSTANCE_NAME_OWNED => .RUNTIME_NAME_COLLISION
  | .ERROR_OUT_OF_MEMORY => .OUT_OF_MEMORY
  | _ => .OWNERSHIP_FAILED

/-- The plan has its `name_ownership` beside it. -/
def installation_plan_create (store : Store) (request : InstallationRequest) :
    Proc (Except PlanResult (InstallationPlan × Bytes)) := do
  match request.source_path, request.instance_name with
  | some source_path, some name =>
    if !request.source_supplied || !request.instance_name_supplied then
      return .error .INVALID_REQUEST
    if source_path.bytes = [] ∨ newline ∈ source_path.bytes then return .error .INVALID_REQUEST
    if !runtime_policy_is_valid request.config then return .error .INVALID_REQUEST
    if instance_name_validate name ≠ .SUCCESS then
      return .error (map_name_result (instance_name_validate name))
    match ← installed_instance_exists store name with
    | .error .OUT_OF_MEMORY => return .error .OUT_OF_MEMORY
    | .error _ => return .error .STORE_FAILED
    | .ok true => return .error .INSTALLED_NAME_COLLISION
    | .ok false =>
      if !(← malloc) then return .error .OUT_OF_MEMORY
      match ← instance_name_acquire name with
      | .error result => return .error (map_name_result result)
      | .ok address =>
        let source_copied ← malloc
        let name_copied ← malloc
        if !(source_copied && name_copied) then
          instance_name_release (some address)
          return .error .OUT_OF_MEMORY
        return .ok (⟨request.config, none, none⟩, address)
  | _, _ => return .error .INVALID_REQUEST

/-! ## The activation -/

/-- `enum input_proxy_installation_activation_result`, without the prefix. -/
inductive ActivationResult
  | SUCCESS
  | INVALID_PLAN
  | UDEV_RELOAD_FAILED
  | UDEV_TRIGGER_FAILED
  | UDEV_SETTLE_FAILED
  | LIBINPUT_VERIFICATION_FAILED
  | ENABLE_FAILED
  | START_FAILED
  | SERVICE_FAILED
  | SERVICE_INACTIVE
  | SERVICE_MANAGEMENT_FAILED
deriving DecidableEq

def default_enable_service (unit : CString) : Proc Bool := do
  return (← run_command [cstr "systemctl", cstr "enable", unit]) = 0

def default_start_service (unit : CString) : Proc Bool := do
  return (← run_command [cstr "systemctl", cstr "start", unit]) = 0

/-- What the state of the service makes of an activation. -/
def default_service_state (unit : CString) : Proc ActivationResult := do
  let (status, printed) ← read_command [cstr "systemctl", cstr "show",
    cstr "--property=ActiveState", cstr "--property=SubState", cstr "--value", unit]
  if status ≠ 0 then return .SERVICE_MANAGEMENT_FAILED
  -- as much as the buffer takes
  let output := printed.take 127
  if (ascii "active\nrunning\n").isPrefixOf output then return .SUCCESS
  if (ascii "failed\n").isPrefixOf output then return .SERVICE_FAILED
  return .SERVICE_INACTIVE

/-- The rule is made to act on the source, and is seen to. -/
def activate_rule (supplied_source_path : CString) : Proc (Option ActivationResult) := do
  if !(← default_reload) then return some .UDEV_RELOAD_FAILED
  if !(← default_trigger supplied_source_path) then return some .UDEV_TRIGGER_FAILED
  if !(← default_settle) then return some .UDEV_SETTLE_FAILED
  if !(← verify_libinput_ignore supplied_source_path) then
    return some .LIBINPUT_VERIFICATION_FAILED
  return none

/-- The result, and the ownership that the plan still has. -/
def installation_plan_activate (plan : InstallationPlan) (supplied_source_path : CString)
    (ownership : Option Bytes) : Proc (ActivationResult × Option Bytes) := do
  match plan.resolution, plan.readiness, plan.config.instance_name with
  | some resolution, some _, some name =>
    if !resolution.application_ready then return (.INVALID_PLAN, ownership)
    let failure ←
      if resolution.libinput_ignore_action then activate_rule supplied_source_path else pure none
    match failure with
    | some result => return (result, ownership)
    | none =>
      match unit_name 256 name with
      | none => return (.INVALID_PLAN, ownership)
      | some unit =>
        if !(← default_enable_service unit) then return (.ENABLE_FAILED, ownership)
        -- the service takes the name over
        instance_name_release ownership
        if !(← default_start_service unit) then return (.START_FAILED, none)
        return (← default_service_state unit, none)
  | _, _, _ => return (.INVALID_PLAN, ownership)

/-! ## The command -/

/-- What the command finds out and decides between the creation and the application of a plan. -/
structure Assessment where
  rule_identity : RuleIdentity
  resolution : Resolution
  persistent_source_path : CString

def Assessment.plan (assessment : Assessment) (plan : InstallationPlan) : InstallationPlan where
  config := { plan.config with source_path := some assessment.persistent_source_path }
  readiness := some assessment.rule_identity
  resolution := some assessment.resolution

/-- From the application on; the destruction of the plan gives the name up where the activation
has not. -/
def carry_out (fuel : Nat) (store : Store) (environment : ApplicationEnvironment)
    (plan : InstallationPlan) (supplied_source_path : CString) (address : Bytes) : Proc Exit := do
  if (← installation_plan_apply fuel store environment plan).result ≠ .SUCCESS then
    instance_name_release (some address)
    return .FAILURE
  let (result, ownership) ← installation_plan_activate plan supplied_source_path (some address)
  instance_name_release ownership
  return if result = .SUCCESS then .SUCCESS else .FAILURE

/-- `input_proxy_install_command_with_environment` from the request on. `assessment` is what the
assessment of the deployment and the choices come to, where none of them ends the command. -/
def install_command (fuel : Nat) (store : Store) (environment : ApplicationEnvironment)
    (request : InstallationRequest) (assessment : Option Assessment) : Proc Exit := do
  match ← installation_plan_create store request with
  | .error _ => return .FAILURE
  | .ok (plan, address) =>
    match assessment with
    | none =>
      instance_name_release (some address)
      return .FAILURE
    | some assessment =>
      if !assessment.resolution.application_ready then
        instance_name_release (some address)
        return .FAILURE
      carry_out fuel store environment (assessment.plan plan)
        (request.source_path.getD (cstr "")) address

end input_proxy
