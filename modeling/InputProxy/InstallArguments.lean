-- The arguments of `install` (src/install_command.c): the options that it shares
-- with `run`, and the two choices of its own. Its parser is written anew, and takes
-- the shared options as that of `run` does.
import InputProxy.InstallCommand
import InputProxy.RunArguments

open c_strings

namespace input_proxy

/-! ## Choices -/

/-- `enum input_proxy_preferred_source_choice`, without the prefix. -/
inductive PreferredSourceChoice
  | UNRESOLVED
  | RETAIN_SUPPLIED
  | USE_PREFERRED
deriving DecidableEq

/-- `enum input_proxy_remediation_choice`, without the prefix. -/
inductive RemediationChoice
  | UNRESOLVED
  | DO_NOT_INSTALL
  | INSTALL
deriving DecidableEq

structure DeploymentChoices where
  preferred_source : PreferredSourceChoice
  libinput_ignore : RemediationChoice
deriving DecidableEq

/-- `memset(choices, 0, sizeof(*choices))` -/
def unresolved_choices : DeploymentChoices := ⟨.UNRESOLVED, .UNRESOLVED⟩

def parse_yes_no (text : CString) : Option Bool :=
  if text.bytes = ascii "yes" then some true
  else if text.bytes = ascii "no" then some false
  else none

/-! ## Requests -/

/-- `struct input_proxy_installation_request`, with the members that the plan does not read. -/
structure CommandRequest extends InstallationRequest where
  activity_timeout_supplied : Bool
  detection_throttle_supplied : Bool
  running_motion_supplied : Bool
  paused_motion_supplied : Bool
  start_paused_supplied : Bool

def installation_request_init : CommandRequest where
  source_path := none
  instance_name := none
  activity_timeout_ms := runtime_policy_defaults.activity_timeout_ms
  detection_throttle_ms := runtime_policy_defaults.detection_throttle_ms
  running_motion_activity := runtime_policy_defaults.running_motion_activity
  paused_motion_activity := runtime_policy_defaults.paused_motion_activity
  start_paused := runtime_policy_defaults.start_paused
  source_supplied := false
  instance_name_supplied := false
  activity_timeout_supplied := false
  detection_throttle_supplied := false
  running_motion_supplied := false
  paused_motion_supplied := false
  start_paused_supplied := false

/-! ## The parser -/

/-- The variables of `parse_arguments`. -/
structure InstallOptions where
  request : CommandRequest
  choices : DeploymentChoices
  seen : Fin 8 → Bool

/-- The chain of `strcmp` in `parse_arguments`: the `field` of an option, `none` for the option
that is checked by its choice, and the variables with its value. -/
def parse_option (o : InstallOptions) (option value : CString) :
    Option (Option (Fin 8) × InstallOptions) :=
  if option.bytes = ascii "--source" then
    some (some 0, { o with
      request := { o.request with source_path := some value, source_supplied := true } })
  else if option.bytes = ascii "--name" then
    some (some 1, { o with
      request := { o.request with instance_name := some value, instance_name_supplied := true } })
  else if option.bytes = ascii "--activity-timeout-ms" then
    (runtime_policy_parse_duration value).map fun duration => (some 2, { o with
      request := { o.request with
        activity_timeout_ms := duration, activity_timeout_supplied := true } })
  else if option.bytes = ascii "--detection-throttle-ms" then
    (runtime_policy_parse_duration value).map fun duration => (some 3, { o with
      request := { o.request with
        detection_throttle_ms := duration, detection_throttle_supplied := true } })
  else if option.bytes = ascii "--running-motion-activity" then
    (runtime_policy_parse_on_off value).map fun enabled => (some 4, { o with
      request := { o.request with
        running_motion_activity := enabled, running_motion_supplied := true } })
  else if option.bytes = ascii "--paused-motion-activity" then
    (runtime_policy_parse_on_off value).map fun enabled => (some 5, { o with
      request := { o.request with
        paused_motion_activity := enabled, paused_motion_supplied := true } })
  else if option.bytes = ascii "--start-paused" then
    (runtime_policy_parse_on_off value).map fun enabled => (some 6, { o with
      request := { o.request with start_paused := enabled, start_paused_supplied := true } })
  else if option.bytes = ascii "--use-preferred-run-source" then
    (parse_yes_no value).map fun enabled => (some 7, { o with
      choices := { o.choices with
        preferred_source := if enabled then .USE_PREFERRED else .RETAIN_SUPPLIED } })
  else if option.bytes = ascii "--add-libinput-ignore-rule" then
    if o.choices.libinput_ignore ≠ .UNRESOLVED then none
    else
      (parse_yes_no value).map fun enabled => (none, { o with
        choices := { o.choices with
          libinput_ignore := if enabled then .INSTALL else .DO_NOT_INSTALL } })
  else none

/-- One turn of the loop: an option with a `field` may be there once. -/
def take_option (o : InstallOptions) (option value : CString) : Option InstallOptions :=
  match parse_option o option value with
  | none => none
  | some (none, o) => some o
  | some (some field, o) =>
    if o.seen field then none else some { o with seen := Function.update o.seen field true }

def parse_install_options : InstallOptions → List CString → Option InstallOptions
  | o, [] => some o
  | _, [_] => none
  | o, option :: value :: rest =>
    match take_option o option value with
    | none => none
    | some o => parse_install_options o rest

/-- `parse_arguments`; `argv` has the program and the command in front of the options. -/
def parse_arguments (argv : List CString) : Option (CommandRequest × DeploymentChoices) :=
  (parse_install_options ⟨installation_request_init, unresolved_choices, fun _ => false⟩
    (argv.drop 2)).map fun o => (o.request, o.choices)

/-! ## Shared options -/

/-- The options that `run` does not have. -/
def choice_options : List CString :=
  [cstr "--use-preferred-run-source", cstr "--add-libinput-ignore-rule"]

/-- The options and values that are not about the choices. -/
def delete_choices : List CString → List CString
  | option :: value :: rest =>
    if option ∈ choice_options then delete_choices rest
    else option :: value :: delete_choices rest
  | rest => rest

/-- Its place in `seen`. -/
def RunOption.field : RunOption → Fin 8
  | source => 0
  | name => 1
  | activity_timeout => 2
  | detection_throttle => 3
  | running_motion => 4
  | paused_motion => 5
  | start_paused => 6

/-- The option was given. -/
def RunOptions.seen (r : RunOptions) : RunOption → Bool
  | .source => r.config.source_path.isSome
  | .name => r.config.instance_name.isSome
  | .activity_timeout => r.activity_timeout_seen
  | .detection_throttle => r.detection_throttle_seen
  | .running_motion => r.running_motion_seen
  | .paused_motion => r.paused_motion_seen
  | .start_paused => r.start_paused_seen

def CommandRequest.supplied (request : CommandRequest) : RunOption → Bool
  | .source => request.source_supplied
  | .name => request.instance_name_supplied
  | .activity_timeout => request.activity_timeout_supplied
  | .detection_throttle => request.detection_throttle_supplied
  | .running_motion => request.running_motion_supplied
  | .paused_motion => request.paused_motion_supplied
  | .start_paused => request.start_paused_supplied

/-- The variables of the two parsers have the same values, from the same options. -/
structure Agrees (r : RunOptions) (o : InstallOptions) : Prop where
  config : o.request.config = r.config
  seen : ∀ option : RunOption, o.seen option.field = r.seen option
  supplied : ∀ option, o.request.supplied option = r.seen option

/-- The variables of `run` after an option. -/
def RunOptions.give (r : RunOptions) (option : RunOption) (text : CString) : RunOptions :=
  match option with
  | .source => { r with config := { r.config with source_path := some text } }
  | .name => { r with config := { r.config with instance_name := some text } }
  | .activity_timeout => { r with
      config := { r.config with activity_timeout_ms := of_decimal text.bytes }
      activity_timeout_seen := true }
  | .detection_throttle => { r with
      config := { r.config with detection_throttle_ms := of_decimal text.bytes }
      detection_throttle_seen := true }
  | .running_motion => { r with
      config := { r.config with running_motion_activity := decide (text = cstr "on") }
      running_motion_seen := true }
  | .paused_motion => { r with
      config := { r.config with paused_motion_activity := decide (text = cstr "on") }
      paused_motion_seen := true }
  | .start_paused => { r with
      config := { r.config with start_paused := decide (text = cstr "on") }
      start_paused_seen := true }

/-- The request after an option. -/
def CommandRequest.give (request : CommandRequest) (option : RunOption) (text : CString) :
    CommandRequest :=
  match option with
  | .source => { request with source_path := some text, source_supplied := true }
  | .name => { request with instance_name := some text, instance_name_supplied := true }
  | .activity_timeout => { request with
      activity_timeout_ms := of_decimal text.bytes, activity_timeout_supplied := true }
  | .detection_throttle => { request with
      detection_throttle_ms := of_decimal text.bytes, detection_throttle_supplied := true }
  | .running_motion => { request with
      running_motion_activity := decide (text = cstr "on"), running_motion_supplied := true }
  | .paused_motion => { request with
      paused_motion_activity := decide (text = cstr "on"), paused_motion_supplied := true }
  | .start_paused => { request with
      start_paused := decide (text = cstr "on"), start_paused_supplied := true }

def InstallOptions.give (o : InstallOptions) (option : RunOption) (text : CString) :
    InstallOptions :=
  { o with
    request := o.request.give option text
    seen := Function.update o.seen option.field true }

section steps

variable {r r' : RunOptions} {o o' : InstallOptions} {option : RunOption} {argument text : CString}

/-- An option of `run` takes its first value, if it is one of its values. -/
theorem run_step_iff : option.parser r (some text) = .ok r' ↔
    r.seen option = false ∧ option.Takes text ∧ r' = r.give option text := by
  cases option with
  | source | name =>
    simp [RunOption.parser, source_option, name_option, pointer_option_iff, RunOptions.seen,
      RunOption.Takes, RunOptions.give]
  | activity_timeout | detection_throttle =>
    simp [RunOption.parser, activity_timeout_option, detection_throttle_option,
      duration_option_iff, RunOptions.seen, RunOption.Takes, RunOptions.give]
  | running_motion | paused_motion | start_paused =>
    simp [RunOption.parser, running_motion_option, paused_motion_option, start_paused_option,
      on_off_option_iff, RunOptions.seen, RunOption.Takes, RunOptions.give]

/-- A switch is parsed as its value. -/
theorem parse_on_off_map {β : Type} {f : Bool → β} {b : β} :
    (runtime_policy_parse_on_off text).map f = some b ↔
      IsSwitch text ∧ f (decide (text = cstr "on")) = b := by
  simp only [Option.map_eq_some_iff, parse_on_off_iff]
  exact ⟨fun ⟨_, ⟨h, he⟩, hf⟩ => ⟨h, he ▸ hf⟩, fun ⟨h, hf⟩ => ⟨_, ⟨h, rfl⟩, hf⟩⟩

theorem parse_duration_map {β : Type} {f : Nat → β} {b : β} :
    (runtime_policy_parse_duration text).map f = some b ↔
      IsDuration text ∧ f (of_decimal text.bytes) = b := by
  simp [Option.map_eq_some_iff, parse_duration_iff]

/-- An option of `install` that is shared with `run`. -/
theorem parse_option_argument {taken : Option (Fin 8) × InstallOptions} :
    parse_option o option.argument text = some taken ↔ option.Takes text ∧
      (some option.field, { o with request := o.request.give option text }) = taken := by
  cases option with
  | source | name => exact Option.some_inj.trans (iff_of_eq (true_and _).symm)
  | activity_timeout | detection_throttle => exact parse_duration_map
  | running_motion | paused_motion | start_paused => exact parse_on_off_map

theorem give_seen : (o.give option text).seen option.field = true :=
  Function.update_self ..

/-- So is the whole turn: the option is new, and has one of its values. -/
theorem install_step_iff : take_option o option.argument text = some o' ↔
    o.seen option.field = false ∧ option.Takes text ∧ o' = o.give option text := by
  unfold take_option
  cases hparse : parse_option o option.argument text with
  | none =>
    simp only [reduceCtorEq, false_iff]
    rintro ⟨-, htakes, -⟩
    rw [parse_option_argument.mpr ⟨htakes, rfl⟩] at hparse
    cases hparse
  | some taken =>
    obtain ⟨htakes, rfl⟩ := parse_option_argument.mp hparse
    cases hseen : o.seen option.field with
    | false => simp [hseen, htakes, InstallOptions.give, eq_comm]
    | true => simp [hseen]

theorem field_injective : Function.Injective RunOption.field := by
  intro option option' h
  cases option <;> cases option' <;> first | rfl | exact absurd h (by decide)

/-- The same option leaves the same values. -/
theorem Agrees.give (h : Agrees r o) (option : RunOption) (text : CString) :
    Agrees (r.give option text) (o.give option text) := by
  obtain ⟨hconfig, hseen, hsupplied⟩ := h
  refine ⟨?_, fun option' => ?_, fun option' => ?_⟩
  · cases option <;>
      simp [InstallOptions.give, CommandRequest.give, RunOptions.give, ← hconfig,
        InstallationRequest.config]
  · have hother := hseen option'
    by_cases hsame : option' = option
    · subst hsame
      rw [give_seen]
      cases option' <;> rfl
    · have hfield : option'.field ≠ option.field := fun hf => hsame (field_injective hf)
      have hkept : (o.give option text).seen option'.field = o.seen option'.field :=
        Function.update_of_ne hfield ..
      rw [hkept, hother]
      cases option <;> cases option' <;> first | rfl | exact absurd rfl hsame
  · have hother := hsupplied option'
    cases option <;> cases option' <;> first | rfl | exact hother

theorem choice_of_parse {taken : Option (Fin 8) × InstallOptions}
    (hargument : argument ∈ choice_options) (h : parse_option o argument text = some taken) :
    taken.2.request = o.request ∧ taken.2.seen = o.seen ∧
      ∀ field ∈ taken.1, ∀ option : RunOption, option.field ≠ field := by
  have hfields : ∀ option : RunOption, option.field ≠ 7 := by
    intro option
    cases option <;> decide
  simp only [choice_options, List.mem_cons, List.not_mem_nil, or_false] at hargument
  rcases hargument with rfl | rfl
  · obtain ⟨enabled, -, rfl⟩ := Option.map_eq_some_iff.mp h
    exact ⟨rfl, rfl, fun field hfield => Option.some.inj hfield ▸ hfields⟩
  · obtain ⟨-, hmap⟩ := (Option.ite_none_left_eq_some ..).mp h
    obtain ⟨enabled, -, rfl⟩ := Option.map_eq_some_iff.mp hmap
    exact ⟨rfl, rfl, nofun⟩

/-- The choices are not about the shared options. -/
theorem Agrees.choice (h : Agrees r o) (hargument : argument ∈ choice_options)
    (htake : take_option o argument text = some o') : Agrees r o' := by
  have hshared : o'.request = o.request ∧
      ∀ option : RunOption, o'.seen option.field = o.seen option.field := by
    unfold take_option at htake
    split at htake
    · cases htake
    · rename_i o1 hparse
      obtain rfl := Option.some.inj htake
      obtain ⟨hrequest, hseen, -⟩ := choice_of_parse hargument hparse
      exact ⟨hrequest, fun option => congrFun hseen option.field⟩
    · rename_i field o1 hparse
      obtain ⟨hrequest, hseen, hfield⟩ := choice_of_parse hargument hparse
      split at htake
      · cases htake
      · obtain rfl := Option.some.inj htake
        refine ⟨hrequest, fun option => ?_⟩
        exact (Function.update_of_ne (hfield _ rfl option) ..).trans (congrFun hseen _)
  exact ⟨hshared.1 ▸ h.config, fun option => (hshared.2 option).trans (h.seen option),
    fun option => hshared.1 ▸ h.supplied option⟩

/-- No other argument is an option. -/
theorem option_of_take (htake : take_option o argument text = some o') :
    argument ∈ choice_options ∨ ∃ option : RunOption, argument = option.argument := by
  by_contra hnot
  rw [not_or, not_exists] at hnot
  obtain ⟨hchoices, hoptions⟩ := hnot
  have hne : ∀ option : RunOption, argument.bytes ≠ option.argument.bytes :=
    fun option h => hoptions option (CString.ext h)
  have hchoice : ∀ choice ∈ choice_options, argument.bytes ≠ choice.bytes :=
    fun choice hmem h => hchoices (CString.ext h ▸ hmem)
  have hnone : parse_option o argument text = none :=
    (if_neg (hne .source)).trans <| (if_neg (hne .name)).trans <|
      (if_neg (hne .activity_timeout)).trans <| (if_neg (hne .detection_throttle)).trans <|
      (if_neg (hne .running_motion)).trans <| (if_neg (hne .paused_motion)).trans <|
      (if_neg (hne .start_paused)).trans <|
      (if_neg (hchoice (cstr "--use-preferred-run-source") (by decide))).trans <|
      if_neg (hchoice (cstr "--add-libinput-ignore-rule") (by decide))
  unfold take_option at htake
  rw [hnone] at htake
  cases htake

end steps

/-! ## Both parsers -/

section parsers

variable {r r' : RunOptions} {o o' : InstallOptions} {before : List RunItem}

/-- What `run` gets through without the flag, `install` gets through. -/
theorem install_of_items {items : List RunItem} (h : WellFormed (before ++ items))
    (hverbose : RunItem.verbose ∉ items) (hagrees : Agrees (options_of before) o) :
    ∃ o', parse_install_options o (items.flatMap RunItem.arguments) = some o' ∧
      Agrees (options_of (before ++ items)) o' ∧ o'.choices = o.choices := by
  induction items generalizing before o with
  | nil =>
    rw [List.append_nil]
    exact ⟨o, rfl, hagrees, rfl⟩
  | cons item items ih =>
    cases item with
    | verbose => exact absurd (List.mem_cons_self ..) hverbose
    | given option text =>
      have hvalue : option.Takes text :=
        h.values option text (List.mem_append_right _ (List.mem_cons_self ..))
      have hstep : option.parser (options_of before) (some text) =
          .ok (options_of (before ++ [.given option text])) :=
        parser_iff.mpr ⟨value_of_eq_none.mpr h.new, text, rfl, hvalue, rfl⟩
      obtain ⟨hnew, htakes, hnext⟩ := run_step_iff.mp hstep
      have htake : take_option o option.argument text = some (o.give option text) :=
        install_step_iff.mpr ⟨(hagrees.seen option).trans hnew, htakes, rfl⟩
      have hgiven : Agrees (options_of (before ++ [.given option text])) (o.give option text) :=
        hnext ▸ hagrees.give option text
      obtain ⟨o', hparse, ho', hchoices⟩ := ih (by simpa using h)
        (fun hmem => hverbose (List.mem_cons_of_mem _ hmem)) hgiven
      rw [List.append_assoc, List.singleton_append] at ho'
      refine ⟨o', ?_, ho', hchoices⟩
      change parse_install_options o (option.argument :: text :: _) = some o'
      unfold parse_install_options
      rw [htake]
      exact hparse

/-- What `install` gets through is got through by `run` without the choices. -/
theorem run_of_install {arguments : List CString} (hagrees : Agrees r o)
    (h : parse_install_options o arguments = some o') :
    ∃ r', parse_run_options r (delete_choices arguments) = .ok r' ∧ Agrees r' o' := by
  induction o, arguments using parse_install_options.induct generalizing r with
  | case1 o =>
    obtain rfl := Option.some.inj h
    exact ⟨r, rfl, hagrees⟩
  | case2 => cases h
  | case3 o argument text rest hnone =>
    unfold parse_install_options at h
    rw [hnone] at h
    cases h
  | case4 o argument text rest o1 htake ih =>
    unfold parse_install_options at h
    rw [htake] at h
    unfold delete_choices
    split
    · rename_i hchoice
      exact ih (hagrees.choice hchoice htake) h
    · rename_i hchoice
      obtain ⟨option, rfl⟩ := (option_of_take htake).resolve_left hchoice
      obtain ⟨hnew, htakes, rfl⟩ := install_step_iff.mp htake
      obtain ⟨r', hparse, hr'⟩ := ih (hagrees.give option text) h
      refine ⟨r', ?_, hr'⟩
      rw [← hparse]
      refine parse_run_options_cons option.parser (argument_ne_verbose option)
        (value_option_argument option) (run_step_iff.mpr ⟨?_, htakes, rfl⟩)
      exact (hagrees.seen option).symm.trans hnew

theorem agrees_init : Agrees (options_of [])
    ⟨installation_request_init, unresolved_choices, fun _ => false⟩ where
  config := rfl
  seen option := by cases option <;> rfl
  supplied option := by cases option <;> rfl

/-- A request has the source and the name exactly if they were given. -/
theorem Agrees.request (h : Agrees r o) :
    (o.request.source_supplied ↔ r.config.source_path ≠ none) ∧
      (o.request.instance_name_supplied ↔ r.config.instance_name ≠ none) := by
  have hsource : o.request.source_supplied = r.config.source_path.isSome := h.supplied .source
  have hname : o.request.instance_name_supplied = r.config.instance_name.isSome :=
    h.supplied .name
  rw [hsource, hname, Option.isSome_iff_ne_none, Option.isSome_iff_ne_none]
  exact ⟨Iff.rfl, Iff.rfl⟩

/-- The program and the command stay in front of the options. -/
theorem drop_take_delete (argv : List CString) :
    (argv.take 2 ++ delete_choices (argv.drop 2)).drop 2 = delete_choices (argv.drop 2) := by
  match argv with
  | [] | [_] | _ :: _ :: _ => rfl

/-- `install` takes what `run` takes without its flag, and makes no choice there. Without the
choices, `run` takes what `install` takes, if it has a source and a name. Both have the same
source, name, durations and switches. -/
theorem install_and_run_parse_the_shared_options_alike (argv : List CString) :
    (∀ config, parse_run_config argv = .ok config → config.verbose = false →
      ∃ request, parse_arguments argv = some (request, unresolved_choices) ∧
        request.config = config ∧
        request.source_supplied ∧ request.instance_name_supplied) ∧
    ∀ request choices, parse_arguments argv = some (request, choices) →
      request.source_supplied → request.instance_name_supplied →
      parse_run_config (argv.take 2 ++ delete_choices (argv.drop 2)) = .ok request.config := by
  refine ⟨fun config hconfig hverbose => ?_, fun request choices harguments hsource hname => ?_⟩
  · obtain ⟨items, hitems, haccepted, rfl⟩ := parse_run_config_iff.mp hconfig
    have hflag : RunItem.verbose ∉ items := of_decide_eq_false hverbose
    obtain ⟨hsource, hname⟩ := (accepted_iff haccepted.toWellFormed).mp haccepted
    obtain ⟨o, hparse, ho, hchoices⟩ :=
      @install_of_items _ [] items haccepted.toWellFormed hflag agrees_init
    refine ⟨o.request, ?_, ho.config, ho.request.1.mpr hsource, ho.request.2.mpr hname⟩
    unfold parse_arguments
    rw [hitems, hparse, Option.map_some, hchoices]
  · unfold parse_arguments at harguments
    obtain ⟨o, hparse, hrequest⟩ := Option.map_eq_some_iff.mp harguments
    obtain ⟨rfl, rfl⟩ := Prod.mk.inj hrequest
    obtain ⟨r, hrun, hr⟩ := run_of_install agrees_init hparse
    have hgiven : ¬(r.config.source_path = none ∨ r.config.instance_name = none) :=
      not_or.mpr ⟨hr.request.1.mp hsource, hr.request.2.mp hname⟩
    have hdefaults : (⟨runtime_policy_defaults, false, false, false, false, false⟩ : RunOptions) =
        options_of [] := rfl
    unfold parse_run_config
    rw [drop_take_delete, hdefaults, hrun, hr.config]
    exact if_neg hgiven

end parsers

end input_proxy
