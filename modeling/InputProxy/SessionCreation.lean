-- The creation of a session (src/proxy_session.c): its name is validated,
-- reserved, and from then on the name of every run.
import InputProxy.ProxySession
import InputProxy.InstallCommand

open c_strings disks processes

namespace input_proxy

/-- What a run of the session reads of its configuration. -/
def RunConfig.session_config (config : RunConfig) (instance_name : CString) : SessionConfig where
  instance_name := instance_name.text
  activity_timeout_ms := config.activity_timeout_ms
  detection_throttle_ms := config.detection_throttle_ms
  running_motion_activity := config.running_motion_activity
  paused_motion_activity := config.paused_motion_activity
  start_paused := config.start_paused

/-- `input_proxy_session_create`, up to the session that `new_session` makes of the result, with
the address that it owns. `none` is a null pointer. -/
def session_create (config : Option RunConfig) : Proc (Except Result (SessionConfig × Bytes)) := do
  match config with
  | none => return .error .ERROR_INVALID_ARGUMENT
  | some config =>
    match config.source_path, config.instance_name with
    | some _, some name =>
      if instance_name_validate name ≠ .SUCCESS then return .error (instance_name_validate name)
      if !(← malloc) then return .error .ERROR_OUT_OF_MEMORY
      if !(← malloc) then return .error .ERROR_OUT_OF_MEMORY
      if !(← malloc) then return .error .ERROR_OUT_OF_MEMORY
      match ← instance_name_acquire name with
      | .error result => return .error result
      | .ok address => return .ok (config.session_config name, address)
    | _, _ => return .error .ERROR_INVALID_ARGUMENT

/-- The session has a name that the validator accepts. -/
def HasAcceptedName (r : Except Result (SessionConfig × Bytes)) (_ : Machine) : Prop :=
  ∀ created, r = .ok created → ∃ n : InstanceName, created.1.instance_name = n.name.text

section creation

open Process

variable {pid : Nat} {m : Machine}

theorem hasAcceptedName_error (result : Result) : HasAcceptedName (.error result) m := by
  intro created h
  cases h

theorem wp_session_create (config : Option RunConfig) :
    wp (answer pid) Any (fun _ => True) (session_create config) HasAcceptedName m := by
  unfold session_create
  cases config with
  | none => exact hasAcceptedName_error _
  | some config =>
    dsimp only
    split
    · rename_i name _ _
      by_cases hvalid : instance_name_validate (some name) = .SUCCESS
      · rw [if_neg (not_not.mpr hvalid)]
        -- memory for the session, for its source path and for its name
        refine wp_bind.mpr (wp_of_forall (fun _ => trivial) fun _ m1 => ?_)
        refine wp_unless (hasAcceptedName_error _) fun _ => ?_
        refine wp_bind.mpr (wp_of_forall (fun _ => trivial) fun _ m2 => ?_)
        refine wp_unless (hasAcceptedName_error _) fun _ => ?_
        refine wp_bind.mpr (wp_of_forall (fun _ => trivial) fun _ m3 => ?_)
        refine wp_unless (hasAcceptedName_error _) fun _ => ?_
        refine wp_bind.mpr (wp_of_forall (fun _ => trivial) fun acquired m4 => ?_)
        cases acquired with
        | error result => exact hasAcceptedName_error _
        | ok address =>
          rintro created ⟨⟩
          exact ⟨⟨name, hvalid⟩, rfl⟩
      · rw [if_pos hvalid]
        exact hasAcceptedName_error _
    · exact hasAcceptedName_error _

end creation

end input_proxy
