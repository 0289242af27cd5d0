-- The configuration of a run: its defaults and checks (src/runtime_policy.c),
-- the response file that a store writes for it (src/installed_instance.c), the
-- reader of response files (src/response_file.c) and the parser of options
-- (src/main.c). What is written is read back.
import InputProxy.InstanceNames
import InputProxy.SystemCalls

open c_strings processes

namespace input_proxy

/-- `struct input_proxy_session_config`, of which `SessionConfig` is what a run of a session
reads. `none` is a null pointer. -/
structure RunConfig where
  source_path : Option CString
  instance_name : Option CString
  activity_timeout_ms : Nat
  detection_throttle_ms : Nat
  running_motion_activity : Bool
  paused_motion_activity : Bool
  start_paused : Bool
  verbose : Bool
deriving DecidableEq

def UINT32_MAX : Nat := 4294967295

def UINTMAX_MAX : Nat := 18446744073709551615

def INT_MAX : Nat := 2147483647

/-! ## The runtime policy -/

def runtime_policy_defaults : RunConfig where
  source_path := none
  instance_name := none
  activity_timeout_ms := 5000
  detection_throttle_ms := 250
  running_motion_activity := true
  paused_motion_activity := true
  start_paused := false
  verbose := false

def runtime_policy_parse_duration (text : CString) : Option Nat :=
  if text.bytes = [] then none
  else if !text.bytes.all isdigit then none
  else
    let value := of_decimal text.bytes
    -- above `UINTMAX_MAX`, `strtoumax` sets `ERANGE`
    if value > UINTMAX_MAX ∨ value > UINT32_MAX then none else some value

def runtime_policy_parse_on_off (text : CString) : Option Bool :=
  if text.bytes = ascii "on" then some true
  else if text.bytes = ascii "off" then some false
  else none

def runtime_policy_is_valid (config : RunConfig) : Bool :=
  config.source_path.isSome ∧ config.instance_name.isSome ∧
    config.activity_timeout_ms ≤ UINT32_MAX ∧ config.detection_throttle_ms ≤ UINT32_MAX

/-! ## Options -/

/-- The variables of `parse_run_config`. -/
structure RunOptions where
  config : RunConfig
  activity_timeout_seen : Bool
  detection_throttle_seen : Bool
  running_motion_seen : Bool
  paused_motion_seen : Bool
  start_paused_seen : Bool

/-- An option that takes the next argument, if there is one, or prints a message. -/
abbrev ValueOption := RunOptions → Option CString → Except Bytes RunOptions

/-- `--source` and `--name` are refused where their pointer is set. -/
def pointer_option (pointer : RunConfig → Option CString)
    (set : RunOptions → CString → RunOptions) : ValueOption := fun o value =>
  match pointer o.config, value with
  | none, some value => .ok (set o value)
  | _, _ => .error []

def duration_option (option : String) (seen : RunOptions → Bool)
    (set : RunOptions → Nat → RunOptions) : ValueOption := fun o value =>
  match seen o, value.bind runtime_policy_parse_duration with
  | false, some duration => .ok (set o duration)
  | _, _ =>
    .error (ascii ("input-proxy: invalid non-negative duration for " ++ option ++ ": ") ++
      ((value.map CString.bytes).getD (ascii "missing value") ++ [newline]))

def on_off_option (option : String) (seen : RunOptions → Bool)
    (set : RunOptions → Bool → RunOptions) : ValueOption := fun o value =>
  match seen o, value.bind runtime_policy_parse_on_off with
  | false, some enabled => .ok (set o enabled)
  | _, _ =>
    .error (ascii ("input-proxy: invalid value for " ++ option ++
      ": expected 'on' or 'off'\n"))

def source_option : ValueOption :=
  pointer_option RunConfig.source_path fun o value =>
    { o with config := { o.config with source_path := some value } }

def name_option : ValueOption :=
  pointer_option RunConfig.instance_name fun o value =>
    { o with config := { o.config with instance_name := some value } }

def activity_timeout_option : ValueOption :=
  duration_option "--activity-timeout-ms" RunOptions.activity_timeout_seen fun o value =>
    { o with
      config := { o.config with activity_timeout_ms := value }, activity_timeout_seen := true }

def detection_throttle_option : ValueOption :=
  duration_option "--detection-throttle-ms" RunOptions.detection_throttle_seen fun o value =>
    { o with
      config := { o.config with detection_throttle_ms := value }
      detection_throttle_seen := true }

def running_motion_option : ValueOption :=
  on_off_option "--running-motion-activity" RunOptions.running_motion_seen fun o value =>
    { o with
      config := { o.config with running_motion_activity := value }, running_motion_seen := true }

def paused_motion_option : ValueOption :=
  on_off_option "--paused-motion-activity" RunOptions.paused_motion_seen fun o value =>
    { o with
      config := { o.config with paused_motion_activity := value }, paused_motion_seen := true }

def start_paused_option : ValueOption :=
  on_off_option "--start-paused" RunOptions.start_paused_seen fun o value =>
    { o with config := { o.config with start_paused := value }, start_paused_seen := true }

/-- The chain of `strcmp` in `parse_run_config`, for the options with a value. -/
def value_option (argument : Bytes) : Option ValueOption :=
  if argument = ascii "--source" then some source_option
  else if argument = ascii "--name" then some name_option
  else if argument = ascii "--activity-timeout-ms" then some activity_timeout_option
  else if argument = ascii "--detection-throttle-ms" then some detection_throttle_option
  else if argument = ascii "--running-motion-activity" then some running_motion_option
  else if argument = ascii "--paused-motion-activity" then some paused_motion_option
  else if argument = ascii "--start-paused" then some start_paused_option
  else none

/-- The loop over the arguments. An error has its result and what was printed. -/
def parse_run_options : RunOptions → List CString → Except (Result × Bytes) RunOptions
  | o, [] => .ok o
  | o, argument :: rest =>
    if argument.bytes = ascii "--verbose" then
      if o.config.verbose then .error (.ERROR_INVALID_ARGUMENT, [])
      else parse_run_options { o with config := { o.config with verbose := true } } rest
    else
      match value_option argument.bytes, rest with
      | none, _ => .error (.ERROR_INVALID_ARGUMENT, [])
      | some option, [] =>
        match option o none with
        | .error message => .error (.ERROR_INVALID_ARGUMENT, message)
        | .ok o => .ok o
      | some option, value :: rest =>
        match option o (some value) with
        | .error message => .error (.ERROR_INVALID_ARGUMENT, message)
        | .ok o => parse_run_options o rest

/-- `argv` has the program and the command in front of the options. -/
def parse_run_config (argv : List CString) : Except (Result × Bytes) RunConfig :=
  match parse_run_options ⟨runtime_policy_defaults, false, false, false, false, false⟩
    (argv.drop 2) with
  | .error error => .error error
  | .ok o =>
    if o.config.source_path = none ∨ o.config.instance_name = none then
      .error (.ERROR_INVALID_ARGUMENT, [])
    else .ok o.config

/-! ## Response files -/

/-- `append_argument` on each line; `argc` counts the arguments. -/
def response_file_lines : Nat → List Bytes → Option (List CString)
  | _, [] => some []
  | argc, line :: rest =>
    if h : 0 ∈ line then none
    else if argc = INT_MAX then none
    else
      match response_file_lines (argc + 1) rest with
      | none => none
      | some arguments =>
        some (⟨chomp line, fun hz => h (mem_of_mem_chomp hz)⟩ :: arguments)

/-- `"run"`, the second argument of every response file. -/
def RUN : CString := cstr "run"

/-- The `argv` that `input_proxy_response_file_read` makes of a file that it could read. -/
def response_file_argv (program_name : CString) (content : Bytes) : Option (List CString) :=
  (response_file_lines 2 (lines content)).map ([program_name, RUN] ++ ·)

/-- The loop of `getline` over the lines that are left. -/
def response_file_read_lines : Nat → List Bytes → Proc (Option (List CString))
  | _, [] => do
    if !(← getline) then return none
    return some []
  | argc, line :: rest => do
    if !(← getline) then return none
    if h : 0 ∈ line then return none
    else if argc = INT_MAX then return none
    else
      -- the argument, then the longer `argv`
      if !(← malloc) then return none
      if !(← malloc) then return none
      match ← response_file_read_lines (argc + 1) rest with
      | none => return none
      | some arguments =>
        return some (⟨chomp line, fun hz => h (mem_of_mem_chomp hz)⟩ :: arguments)

def response_file_read (path program_name : CString) : Proc (Option (List CString)) := do
  if path.bytes = [] then return none
  match ← fopen path with
  | .error _ => return none
  | .ok content =>
    if !(← malloc) then
      let _ ← fclose
      return none
    match ← response_file_read_lines 2 (lines content) with
    | none =>
      let _ ← fclose
      return none
    | some arguments =>
      if !(← fclose) then return none
      return some ([program_name, RUN] ++ arguments)

/-- The text of a flag in a response file. -/
def on_off (enabled : Bool) : Bytes := if enabled then ascii "on" else ascii "off"

/-- The format string of `input_proxy_installed_instance_create`. -/
def render_response (source_path instance_name : Bytes) (config : RunConfig) : Bytes :=
  ascii "--source\n" ++ source_path ++ ascii "\n--name\n" ++ instance_name ++
    ascii "\n--activity-timeout-ms\n" ++ decimal config.activity_timeout_ms ++
    ascii "\n--detection-throttle-ms\n" ++ decimal config.detection_throttle_ms ++
    ascii "\n--running-motion-activity\n" ++ on_off config.running_motion_activity ++
    ascii "\n--paused-motion-activity\n" ++ on_off config.paused_motion_activity ++
    ascii "\n--start-paused\n" ++ on_off config.start_paused ++ ascii "\n"

/-! ## What is written is read back -/

theorem on_off_free {enabled : Bool} {b : UInt8} (h : b < 48) : b ∉ on_off enabled := by
  intro hb
  have hletter : ∀ b ∈ on_off enabled, ¬b < 48 := by
    cases enabled <;> decide +kernel
  exact hletter b hb h

def decimal_text (n : Nat) : CString := ⟨decimal n, not_mem_decimal (by decide)⟩

def on_off_text (enabled : Bool) : CString := ⟨on_off enabled, on_off_free (by decide)⟩

/-- The lines of a response file. -/
def response_arguments (source_path instance_name : CString) (config : RunConfig) :
    List CString :=
  [cstr "--source", source_path,
    cstr "--name", instance_name,
    cstr "--activity-timeout-ms", decimal_text config.activity_timeout_ms,
    cstr "--detection-throttle-ms", decimal_text config.detection_throttle_ms,
    cstr "--running-motion-activity", on_off_text config.running_motion_activity,
    cstr "--paused-motion-activity", on_off_text config.paused_motion_activity,
    cstr "--start-paused", on_off_text config.start_paused]

theorem render_response_eq (source_path instance_name : CString) (config : RunConfig) :
    render_response source_path.bytes instance_name.bytes config =
      ((response_arguments source_path instance_name config).map CString.bytes).flatMap
        (· ++ [newline]) := by
  simp [render_response, response_arguments, decimal_text, on_off_text, cstr, CString.of, ascii,
    newline]

/-- Lines without a NUL, of which there are not too many, are the arguments. -/
theorem response_file_lines_eq_some {argc : Nat} {rest : List Bytes} {arguments : List CString}
    (hzero : ∀ line ∈ rest, 0 ∉ line) (hlength : argc + rest.length ≤ INT_MAX)
    (h : arguments.map CString.bytes = rest.map chomp) :
    response_file_lines argc rest = some arguments := by
  induction rest generalizing argc arguments with
  | nil =>
    obtain rfl := List.map_eq_nil_iff.mp h
    rfl
  | cons line rest ih =>
    rw [List.length_cons] at hlength
    obtain ⟨hline, hrest⟩ := List.forall_mem_cons.mp hzero
    obtain ⟨argument, later, rfl, hargument, hlater⟩ := List.map_eq_cons_iff.mp h
    have hargc : argc ≠ INT_MAX := by omega
    have htail := @ih (argc + 1) later hrest (by omega) hlater
    unfold response_file_lines
    rw [dif_neg hline, if_neg hargc, htail]
    exact congrArg (fun a => some (a :: later)) (CString.ext hargument.symm)

/-- A file of lines is read as these lines. -/
theorem response_file_argv_flatMap {program_name : CString} {arguments : List CString}
    (hlines : ∀ a ∈ arguments, newline ∉ a.bytes) (hlength : arguments.length + 2 ≤ INT_MAX) :
    response_file_argv program_name
      ((arguments.map CString.bytes).flatMap (· ++ [newline])) =
      some (program_name :: RUN :: arguments) := by
  have hzero : ∀ line ∈ arguments.map fun a => a.bytes ++ [newline], 0 ∉ line := by
    intro line hline
    obtain ⟨a, -, rfl⟩ := List.mem_map.mp hline
    simp [a.nul_free, newline]
  have hread : response_file_lines 2 (arguments.map fun a => a.bytes ++ [newline]) =
      some arguments :=
    response_file_lines_eq_some hzero (by rw [List.length_map]; omega) (by simp)
  unfold response_file_argv
  rw [lines_flatMap (by simpa using hlines), List.map_map, Function.comp_def, hread]
  rfl

theorem parse_duration_decimal {n : Nat} (h : n ≤ UINT32_MAX) :
    runtime_policy_parse_duration (decimal_text n) = some n := by
  have hdigits : (decimal n).all isdigit = true := by
    simpa using fun b => isdigit_of_mem_decimal
  have hmax : ¬(n > UINTMAX_MAX ∨ n > UINT32_MAX) := by
    simp only [UINTMAX_MAX, UINT32_MAX] at *
    omega
  simp [runtime_policy_parse_duration, decimal_text, decimal_ne_nil, hdigits, hmax]

theorem parse_on_off_on_off (enabled : Bool) :
    runtime_policy_parse_on_off (on_off_text enabled) = some enabled := by
  cases enabled <;> decide

/-- An option and its value, whatever bytes the value has. -/
theorem parse_run_options_cons {o o' : RunOptions} {argument value : CString}
    {rest : List CString} (option : ValueOption) (hv : argument.bytes ≠ ascii "--verbose")
    (ho : value_option argument.bytes = some option) (h : option o (some value) = .ok o') :
    parse_run_options o (argument :: value :: rest) = parse_run_options o' rest := by
  conv_lhs => unfold parse_run_options
  simp only [if_neg hv, ho, h]

/-- The parser takes the arguments of a response file, in this order, to their values. -/
theorem parse_run_config_response_arguments {program_name source_path instance_name : CString}
    {config : RunConfig} (ha : config.activity_timeout_ms ≤ UINT32_MAX)
    (hd : config.detection_throttle_ms ≤ UINT32_MAX) :
    parse_run_config
      (program_name :: RUN :: response_arguments source_path instance_name config) =
      .ok { config with
        source_path := some source_path, instance_name := some instance_name
        verbose := false } := by
  unfold parse_run_config response_arguments
  rw [List.drop_succ_cons, List.drop_succ_cons, List.drop_zero]
  rw [parse_run_options_cons source_option (by decide) (by rfl) (by rfl)]
  rw [parse_run_options_cons name_option (by decide) (by rfl) (by rfl)]
  rw [parse_run_options_cons activity_timeout_option (by decide) (by rfl)
    (by simp [activity_timeout_option, duration_option, parse_duration_decimal ha]; rfl)]
  rw [parse_run_options_cons detection_throttle_option (by decide) (by rfl)
    (by simp [detection_throttle_option, duration_option, parse_duration_decimal hd]; rfl)]
  rw [parse_run_options_cons running_motion_option (by decide) (by rfl)
    (by simp [running_motion_option, on_off_option, parse_on_off_on_off]; rfl)]
  rw [parse_run_options_cons paused_motion_option (by decide) (by rfl)
    (by simp [paused_motion_option, on_off_option, parse_on_off_on_off]; rfl)]
  rw [parse_run_options_cons start_paused_option (by decide) (by rfl)
    (by simp [start_paused_option, on_off_option, parse_on_off_on_off]; rfl)]
  rfl

end input_proxy
