-- The install command from its arguments to its end (src/install_command.c): what
-- it asks for where it runs in a terminal, and the resolution of the choices
-- (src/installation_planner.c). The options and the answers agree on an install, and
-- every dialogue can be given as options instead.
import InputProxy.BufferedLines
import InputProxy.InstallArguments
import InputProxy.ServiceIdentities

open c_strings processes

namespace input_proxy

/-! ## Prompts -/

/-- `prompt_line`. The input is the lines that `getline` gives, up to where it fails. -/
def prompt_line (interactive : Bool) (input : List Bytes) : Option (CString × List Bytes) :=
  if !interactive then none
  else
    match input with
    | [] => none
    | line :: input =>
      let line := trim line
      if line = [] then none else some (.of line, input)

def prompt_yes_no (interactive : Bool) (input : List Bytes) : Option (Bool × List Bytes) :=
  if !interactive then none
  else
    match input with
    | [] => none
    | line :: input =>
      let line := trim line
      let answer := CString.of line
      if line = [] ∨ answer ∈ [cstr "y", cstr "Y", cstr "yes", cstr "YES"] then some (true, input)
      else if answer ∈ [cstr "n", cstr "N", cstr "no", cstr "NO"] then some (false, input)
      else none

/-! ## Requests -/

def prompt_source (interactive : Bool) (request : CommandRequest) (input : List Bytes) :
    Option (CommandRequest × List Bytes) :=
  if request.source_supplied then some (request, input)
  else
    (prompt_line interactive input).map fun (source, input) =>
      ({ request with source_path := some source, source_supplied := true }, input)

def prompt_name (interactive : Bool) (request : CommandRequest) (input : List Bytes) :
    Option (CommandRequest × List Bytes) :=
  if request.instance_name_supplied then some (request, input)
  else
    (prompt_line interactive input).map fun (name, input) =>
      ({ request with instance_name := some name, instance_name_supplied := true }, input)

/-! ## Choices -/

/-- The source path that is selected, where the choice is one. -/
def resolve_source (readiness : DeploymentReadiness) (choices : DeploymentChoices) :
    Option CString :=
  if readiness.preferred_source_differs then
    if choices.preferred_source = .USE_PREFERRED then
      some (readiness.preferred_source_path.getD (cstr ""))
    else some readiness.supplied_source_path
  else if choices.preferred_source = .USE_PREFERRED then none
  else some readiness.supplied_source_path

/-- Whether a rule is installed, and whether that is resolved. -/
def resolve_libinput_ignore (readiness : DeploymentReadiness) (choices : DeploymentChoices) :
    Option (Bool × Bool) :=
  if readiness.libinput_status = .IGNORED then
    if choices.libinput_ignore = .INSTALL then none else some (false, true)
  else if readiness.libinput_ignore_rule_available then
    some (choices.libinput_ignore = .INSTALL, choices.libinput_ignore ≠ .UNRESOLVED)
  else if choices.libinput_ignore = .INSTALL then none
  else some (false, true)

/-- `input_proxy_installation_plan_resolve`, with the source path that it selects. -/
def installation_plan_resolve (readiness : DeploymentReadiness) (choices : DeploymentChoices) :
    Except PlanResult (Resolution × CString) :=
  match resolve_source readiness choices, resolve_libinput_ignore readiness choices with
  | some persistent_source_path, some (libinput_ignore_action, libinput_ignore_resolved) =>
    let choices_resolved : Bool :=
      (!readiness.preferred_source_differs || choices.preferred_source ≠ .UNRESOLVED) &&
        libinput_ignore_resolved
    .ok ({
      libinput_ignore_action
      choices_resolved
      application_ready := choices_resolved && readiness.blockers = Blockers.none },
      persistent_source_path)
  | _, _ => .error .INVALID_CHOICES

def ask_preferred_source (interactive : Bool) (readiness : DeploymentReadiness)
    (choices : DeploymentChoices) (input : List Bytes) :
    Option (DeploymentChoices × List Bytes) :=
  if readiness.preferred_source_differs = true ∧ choices.preferred_source = .UNRESOLVED then
    (prompt_yes_no interactive input).map fun (answer, input) =>
      ({ choices with
        preferred_source := if answer then .USE_PREFERRED else .RETAIN_SUPPLIED }, input)
  else some (choices, input)

def ask_libinput_ignore (interactive : Bool) (readiness : DeploymentReadiness)
    (choices : DeploymentChoices) (input : List Bytes) :
    Option (DeploymentChoices × List Bytes) :=
  if readiness.libinput_ignore_rule_available = true ∧ choices.libinput_ignore = .UNRESOLVED then
    (prompt_yes_no interactive input).map fun (answer, input) =>
      ({ choices with libinput_ignore := if answer then .INSTALL else .DO_NOT_INSTALL }, input)
  else some (choices, input)

/-- What the choices and the answers make of an assessment, where none of them ends the command. -/
def decide_deployment (interactive : Bool) (readiness : DeploymentReadiness)
    (choices : DeploymentChoices) (input : List Bytes) : Option Assessment :=
  match ask_preferred_source interactive readiness choices input with
  | none => none
  | some (choices, input) =>
    match ask_libinput_ignore interactive readiness choices input with
    | none => none
    | some (choices, _) =>
      match installation_plan_resolve readiness choices with
      | .error _ => none
      | .ok (resolution, persistent_source_path) =>
        some ⟨readiness.rule_identity, resolution, persistent_source_path⟩

/-! ## The command -/

/-- `struct input_proxy_install_command_environment`, with the filesystem and the user database
as the command finds them. -/
structure InstallEnvironment where
  effective_uid : Nat
  interactive : Bool
  input : List Bytes
  installed_instance_directory : CString
  application : ApplicationEnvironment
  fs : Filesystem
  users : UserDatabase

/-- Without a terminal. -/
def InstallEnvironment.unattended (environment : InstallEnvironment) : InstallEnvironment :=
  { environment with interactive := false, input := [] }

def assess_deployment (environment : InstallEnvironment) (request : CommandRequest)
    (choices : DeploymentChoices) (input : List Bytes) : Option Assessment :=
  match service_environment_resolve environment.users with
  | .error _ => none
  | .ok deployment =>
    decide_deployment environment.interactive
      (installation_plan_assess environment.fs deployment (request.source_path.getD (cstr "")))
      choices input

/-- The command after the prompts for the request. -/
def install_request (fuel : Nat) (environment : InstallEnvironment) (request : CommandRequest)
    (choices : DeploymentChoices) (input : List Bytes) : Proc Exit := do
  if hdirectory : environment.installed_instance_directory.bytes = [] then return .FAILURE
  else
    -- the store, then its directory
    if !(← malloc) then return .FAILURE
    if !(← malloc) then return .FAILURE
    install_command fuel ⟨environment.installed_instance_directory, hdirectory⟩
      environment.application request.toInstallationRequest
      (assess_deployment environment request choices input)

/-- The command after the prompt for the source. -/
def install_source (fuel : Nat) (environment : InstallEnvironment) (request : CommandRequest)
    (choices : DeploymentChoices) (input : List Bytes) : Proc Exit :=
  match prompt_name environment.interactive request input with
  | none => return .FAILURE
  | some (request, input) => install_request fuel environment request choices input

/-- The command after its arguments. -/
def install_options (fuel : Nat) (environment : InstallEnvironment) (request : CommandRequest)
    (choices : DeploymentChoices) : Proc Exit :=
  match prompt_source environment.interactive request environment.input with
  | none => return .FAILURE
  | some (request, input) => install_source fuel environment request choices input

def install_command_with_environment (fuel : Nat) (environment : InstallEnvironment)
    (argv : List CString) : Proc Exit :=
  if environment.effective_uid ≠ 0 then return .FAILURE
  else
    match parse_arguments argv with
    | none => return .FAILURE
    | some (request, choices) => install_options fuel environment request choices

/-! ## Answers as options -/

def answer_text (answer : Bool) : CString := if answer then cstr "yes" else cstr "no"

/-- The options of a list of pairs, each with its value. -/
def option_list (pairs : List (CString × CString)) : List CString :=
  pairs.flatMap fun (option, value) => [option, value]

/-- The parser has seen what it has the values of. -/
structure Entered (o : InstallOptions) : Prop where
  source : o.seen 0 = o.request.source_supplied
  name : o.seen 1 = o.request.instance_name_supplied
  preferred : o.seen 7 = decide (o.choices.preferred_source ≠ .UNRESOLVED)
  source_path : o.request.source_supplied = o.request.source_path.isSome
  instance_name : o.request.instance_name_supplied = o.request.instance_name.isSome

section options

variable {o o' : InstallOptions} {arguments extra : List CString} {answer : Bool}
  {argument text : CString}

theorem parse_yes_no_answer : parse_yes_no (answer_text answer) = some answer := by
  cases answer <;> decide

/-- The parser goes on where it has come to. -/
theorem parse_install_options_append (h : parse_install_options o arguments = some o') :
    parse_install_options o (arguments ++ extra) = parse_install_options o' extra := by
  induction o, arguments using parse_install_options.induct with
  | case1 o =>
    obtain rfl := Option.some.inj h
    rfl
  | case2 o argument => cases h
  | case3 o argument text rest hnone =>
    unfold parse_install_options at h
    rw [hnone] at h
    cases h
  | case4 o argument text rest o1 htake ih =>
    unfold parse_install_options at h
    rw [htake] at h
    simp only [List.cons_append]
    rw [parse_install_options, htake]
    exact ih h

theorem parse_install_options_pair (h : take_option o argument text = some o') :
    parse_install_options o [argument, text] = some o' := by
  rw [parse_install_options, h]
  rfl

theorem take_preferred_iff :
    take_option o (cstr "--use-preferred-run-source") text = some o' ↔
      o.seen 7 = false ∧ ∃ answer, parse_yes_no text = some answer ∧
        o' = { o with
          choices := { o.choices with
            preferred_source := if answer then .USE_PREFERRED else .RETAIN_SUPPLIED }
          seen := Function.update o.seen 7 true } := by
  have hparse : parse_option o (cstr "--use-preferred-run-source") text =
      (parse_yes_no text).map fun enabled => (some 7, { o with
        choices := { o.choices with
          preferred_source := if enabled then .USE_PREFERRED else .RETAIN_SUPPLIED } }) := rfl
  unfold take_option
  rw [hparse]
  cases parse_yes_no text with
  | none => simp
  | some answer => cases hseen : o.seen 7 <;> simp [hseen, eq_comm]

theorem take_libinput_ignore_iff :
    take_option o (cstr "--add-libinput-ignore-rule") text = some o' ↔
      o.choices.libinput_ignore = .UNRESOLVED ∧ ∃ answer, parse_yes_no text = some answer ∧
        o' = { o with
          choices := { o.choices with
            libinput_ignore := if answer then .INSTALL else .DO_NOT_INSTALL } } := by
  have hparse : parse_option o (cstr "--add-libinput-ignore-rule") text =
      if o.choices.libinput_ignore ≠ .UNRESOLVED then none
      else (parse_yes_no text).map fun enabled => (none, { o with
        choices := { o.choices with
          libinput_ignore := if enabled then .INSTALL else .DO_NOT_INSTALL } }) := rfl
  unfold take_option
  rw [hparse]
  cases parse_yes_no text with
  | none => cases hchoice : o.choices.libinput_ignore <;> simp
  | some answer => cases hchoice : o.choices.libinput_ignore <;> simp [eq_comm]

theorem Entered.give (h : Entered o) (option : RunOption) : Entered (o.give option text) := by
  cases option with
  | source => exact ⟨rfl, h.name, h.preferred, rfl, h.instance_name⟩
  | name => exact ⟨h.source, rfl, h.preferred, h.source_path, rfl⟩
  | _ => exact ⟨h.source, h.name, h.preferred, h.source_path, h.instance_name⟩

theorem Entered.take (h : Entered o) (htake : take_option o argument text = some o') :
    Entered o' := by
  rcases option_of_take htake with hchoice | ⟨option, rfl⟩
  · simp only [choice_options, List.mem_cons, List.not_mem_nil, or_false] at hchoice
    rcases hchoice with rfl | rfl
    · obtain ⟨-, answer, -, rfl⟩ := take_preferred_iff.mp htake
      refine ⟨h.source, h.name, ?_, h.source_path, h.instance_name⟩
      cases answer <;> rfl
    · obtain ⟨-, answer, -, rfl⟩ := take_libinput_ignore_iff.mp htake
      exact ⟨h.source, h.name, h.preferred, h.source_path, h.instance_name⟩
  · obtain ⟨-, -, rfl⟩ := install_step_iff.mp htake
    exact h.give option

theorem Entered.parse (h : Entered o) (hparse : parse_install_options o arguments = some o') :
    Entered o' := by
  induction o, arguments using parse_install_options.induct with
  | case1 o =>
    obtain rfl := Option.some.inj hparse
    exact h
  | case2 o argument => cases hparse
  | case3 o argument text rest hnone =>
    unfold parse_install_options at hparse
    rw [hnone] at hparse
    cases hparse
  | case4 o argument text rest o1 htake ih =>
    unfold parse_install_options at hparse
    rw [htake] at hparse
    exact ih (h.take htake) hparse

end options

/-! ## Agreements -/

/-- The text of a line that is typed. -/
def TypedText (line : Bytes) (text : CString) : Prop := trim line ≠ [] ∧ text = .of (trim line)

/-- The answer of a line that is typed: an empty line says yes. -/
def TypedAnswer (line : Bytes) (answer : Bool) : Prop :=
  if answer then
    trim line = [] ∨ CString.of (trim line) ∈ [cstr "y", cstr "Y", cstr "yes", cstr "YES"]
  else trim line ≠ [] ∧ CString.of (trim line) ∈ [cstr "n", cstr "N", cstr "no", cstr "NO"]

/-- An option has given the value, or where none has, the next line that is typed stands for it. -/
def Obtained {α : Type} (Typed : Bytes → α → Prop) (interactive : Bool) (given : Option α)
    (input : List Bytes) (value : α) (rest : List Bytes) : Prop :=
  (given = some value ∧ rest = input) ∨
    (given = none ∧ interactive = true ∧ ∃ line, input = line :: rest ∧ Typed line value)

/-- Where there is a choice, an answer is obtained; elsewhere the answer is no, and no option has
said otherwise. -/
def Chosen (choice interactive : Bool) (given : Option Bool) (input : List Bytes) (answer : Bool)
    (rest : List Bytes) : Prop :=
  if choice then Obtained TypedAnswer interactive given input answer rest
  else given ≠ some true ∧ answer = false ∧ rest = input

/-- What an option has answered. -/
def PreferredSourceChoice.answer : PreferredSourceChoice → Option Bool
  | UNRESOLVED => none
  | RETAIN_SUPPLIED => some false
  | USE_PREFERRED => some true

def RemediationChoice.answer : RemediationChoice → Option Bool
  | UNRESOLVED => none
  | DO_NOT_INSTALL => some false
  | INSTALL => some true

/-- What an install is agreed to be: of which source and under which name, whether the service is
given the preferred path of the source, and whether a rule is installed. -/
structure Agreement where
  source : CString
  name : CString
  preferred : Bool
  rule : Bool

/-- The options and the lines that are typed agree on this, in the order of the questions. -/
def Agreed (environment : InstallEnvironment) (request : CommandRequest)
    (choices : DeploymentChoices) (readiness : DeploymentReadiness) (a : Agreement) : Prop :=
  ∃ input1 input2 input3 input4,
    Obtained TypedText environment.interactive request.source_path environment.input a.source
      input1 ∧
    Obtained TypedText environment.interactive request.instance_name input1 a.name input2 ∧
    Chosen readiness.preferred_source_differs environment.interactive
      choices.preferred_source.answer input2 a.preferred input3 ∧
    Chosen readiness.libinput_ignore_rule_available environment.interactive
      choices.libinput_ignore.answer input3 a.rule input4

/-- The policy of the options, for the source and the name that were agreed. -/
def Agreement.config (a : Agreement) (request : CommandRequest) (readiness : DeploymentReadiness) :
    RunConfig :=
  { request.config with
    source_path := if a.preferred then readiness.preferred_source_path else some a.source
    instance_name := some a.name }

section agreements

variable {interactive : Bool} {readiness : DeploymentReadiness}
  {choices choices' : DeploymentChoices} {input rest : List Bytes}
  {request request' : CommandRequest}

theorem typed_of_prompt_line {text : CString}
    (h : prompt_line interactive input = some (text, rest)) :
    interactive = true ∧ ∃ line, input = line :: rest ∧ TypedText line text := by
  unfold prompt_line at h
  split at h
  · cases h
  rename_i hinteractive
  refine ⟨by simpa using hinteractive, ?_⟩
  split at h
  · cases h
  rename_i line input'
  dsimp only at h
  split at h
  · cases h
  rename_i hline
  obtain ⟨rfl, rfl⟩ := Prod.mk.inj (Option.some.inj h)
  exact ⟨line, rfl, hline, rfl⟩

theorem typed_of_prompt_yes_no {answer : Bool}
    (h : prompt_yes_no interactive input = some (answer, rest)) :
    interactive = true ∧ ∃ line, input = line :: rest ∧ TypedAnswer line answer := by
  unfold prompt_yes_no at h
  split at h
  · cases h
  rename_i hinteractive
  refine ⟨by simpa using hinteractive, ?_⟩
  split at h
  · cases h
  rename_i line input'
  dsimp only at h
  split at h
  · rename_i hyes
    obtain ⟨rfl, rfl⟩ := Prod.mk.inj (Option.some.inj h)
    exact ⟨line, rfl, hyes⟩
  rename_i hyes
  split at h
  · rename_i hno
    obtain ⟨rfl, rfl⟩ := Prod.mk.inj (Option.some.inj h)
    exact ⟨line, rfl, not_or.mp hyes |>.1, hno⟩
  · cases h

theorem obtained_of_prompt_source
    (h : prompt_source interactive request input = some (request', rest))
    (hsupplied : request.source_supplied = request.source_path.isSome) :
    ∃ source, Obtained TypedText interactive request.source_path input source rest ∧
      request' = { request with source_path := some source, source_supplied := true } := by
  unfold prompt_source at h
  split at h
  · rename_i hgiven
    obtain ⟨rfl, rfl⟩ := Prod.mk.inj (Option.some.inj h)
    obtain ⟨source, hsource⟩ := Option.isSome_iff_exists.mp (hsupplied.symm.trans hgiven)
    refine ⟨source, .inl ⟨hsource, rfl⟩, ?_⟩
    rw [← hsource, ← hgiven]
  · rename_i hgiven
    rw [hsupplied, Option.not_isSome_iff_eq_none] at hgiven
    obtain ⟨⟨source, rest'⟩, hprompt, heq⟩ := Option.map_eq_some_iff.mp h
    obtain ⟨rfl, rfl⟩ := Prod.mk.inj heq
    exact ⟨source, .inr ⟨hgiven, typed_of_prompt_line hprompt⟩, rfl⟩

theorem obtained_of_prompt_name
    (h : prompt_name interactive request input = some (request', rest))
    (hsupplied : request.instance_name_supplied = request.instance_name.isSome) :
    ∃ name, Obtained TypedText interactive request.instance_name input name rest ∧
      request' = { request with instance_name := some name, instance_name_supplied := true } := by
  unfold prompt_name at h
  split at h
  · rename_i hgiven
    obtain ⟨rfl, rfl⟩ := Prod.mk.inj (Option.some.inj h)
    obtain ⟨name, hname⟩ := Option.isSome_iff_exists.mp (hsupplied.symm.trans hgiven)
    refine ⟨name, .inl ⟨hname, rfl⟩, ?_⟩
    rw [← hname, ← hgiven]
  · rename_i hgiven
    rw [hsupplied, Option.not_isSome_iff_eq_none] at hgiven
    obtain ⟨⟨name, rest'⟩, hprompt, heq⟩ := Option.map_eq_some_iff.mp h
    obtain ⟨rfl, rfl⟩ := Prod.mk.inj heq
    exact ⟨name, .inr ⟨hgiven, typed_of_prompt_line hprompt⟩, rfl⟩

/-- The source path that is selected is the one that the answer chooses. -/
theorem chosen_of_preferred_source {path : CString}
    (hask : ask_preferred_source interactive readiness choices input = some (choices', rest))
    (hresolve : resolve_source readiness choices' = some path) :
    choices'.libinput_ignore = choices.libinput_ignore ∧
      ∃ answer, Chosen readiness.preferred_source_differs interactive
          choices.preferred_source.answer input answer rest ∧
        path = if answer then readiness.preferred_source_path.getD (cstr "")
          else readiness.supplied_source_path := by
  unfold ask_preferred_source at hask
  unfold resolve_source at hresolve
  unfold Chosen
  cases hdiffers : readiness.preferred_source_differs with
  | false =>
    rw [hdiffers] at hask hresolve
    obtain ⟨rfl, rfl⟩ := Prod.mk.inj (Option.some.inj hask)
    refine ⟨rfl, false, ?_⟩
    cases hchoice : choices.preferred_source <;> rw [hchoice] at hresolve
    · exact ⟨⟨nofun, rfl, rfl⟩, (Option.some.inj hresolve).symm⟩
    · exact ⟨⟨nofun, rfl, rfl⟩, (Option.some.inj hresolve).symm⟩
    · cases hresolve
  | true =>
    rw [hdiffers] at hask hresolve
    cases hchoice : choices.preferred_source <;> rw [hchoice] at hask
    case UNRESOLVED =>
      obtain ⟨⟨answer, rest'⟩, hprompt, heq⟩ := Option.map_eq_some_iff.mp hask
      obtain ⟨rfl, rfl⟩ := Prod.mk.inj heq
      refine ⟨rfl, answer, .inr ⟨rfl, typed_of_prompt_yes_no hprompt⟩, ?_⟩
      cases answer <;> exact (Option.some.inj hresolve).symm
    all_goals
      obtain ⟨rfl, rfl⟩ := Prod.mk.inj (Option.some.inj hask)
      rw [hchoice] at hresolve
      exact ⟨rfl, _, .inl ⟨rfl, rfl⟩, (Option.some.inj hresolve).symm⟩

/-- So is the rule. -/
theorem chosen_of_libinput_ignore {action resolved : Bool}
    (hask : ask_libinput_ignore interactive readiness choices input = some (choices', rest))
    (hresolve : resolve_libinput_ignore readiness choices' = some (action, resolved)) :
    Chosen readiness.libinput_ignore_rule_available interactive choices.libinput_ignore.answer
      input action rest := by
  have haction : action = decide (choices'.libinput_ignore = .INSTALL) := by
    unfold resolve_libinput_ignore at hresolve
    split at hresolve
    · split at hresolve
      · cases hresolve
      · rename_i hno
        rw [← (Prod.mk.inj (Option.some.inj hresolve)).1, decide_eq_false hno]
    split at hresolve
    · exact (Prod.mk.inj (Option.some.inj hresolve)).1.symm
    split at hresolve
    · cases hresolve
    · rename_i hno
      rw [← (Prod.mk.inj (Option.some.inj hresolve)).1, decide_eq_false hno]
  unfold ask_libinput_ignore at hask
  unfold Chosen
  cases havailable : readiness.libinput_ignore_rule_available with
  | false =>
    rw [havailable] at hask
    obtain ⟨rfl, rfl⟩ := Prod.mk.inj (Option.some.inj hask)
    have hno : choices.libinput_ignore ≠ .INSTALL := by
      intro hinstall
      unfold resolve_libinput_ignore at hresolve
      simp [havailable, hinstall] at hresolve
    refine ⟨?_, haction.trans (decide_eq_false hno), rfl⟩
    cases hchoice : choices.libinput_ignore
    · exact nofun
    · exact nofun
    · exact absurd hchoice hno
  | true =>
    rw [havailable] at hask
    cases hchoice : choices.libinput_ignore <;> rw [hchoice] at hask
    case UNRESOLVED =>
      obtain ⟨⟨answer, rest'⟩, hprompt, heq⟩ := Option.map_eq_some_iff.mp hask
      obtain ⟨rfl, rfl⟩ := Prod.mk.inj heq
      obtain rfl : action = answer := by
        rw [haction]
        cases answer <;> rfl
      exact .inr ⟨rfl, typed_of_prompt_yes_no hprompt⟩
    all_goals
      obtain ⟨rfl, rfl⟩ := Prod.mk.inj (Option.some.inj hask)
      rw [hchoice] at haction
      exact .inl ⟨congrArg some haction.symm, rfl⟩

/-- A decision that lets the command go on is the one that was agreed, about a deployment that
nothing blocks. -/
theorem chosen_of_decide_deployment {decided : Assessment}
    (h : decide_deployment interactive readiness choices input = some decided)
    (hready : decided.resolution.application_ready = true) :
    readiness.blockers = Blockers.none ∧ decided.rule_identity = readiness.rule_identity ∧
      ∃ preferred rest rest',
        Chosen readiness.preferred_source_differs interactive choices.preferred_source.answer
          input preferred rest ∧
        Chosen readiness.libinput_ignore_rule_available interactive choices.libinput_ignore.answer
          rest decided.resolution.libinput_ignore_action rest' ∧
        decided.persistent_source_path =
          if preferred then readiness.preferred_source_path.getD (cstr "")
          else readiness.supplied_source_path := by
  unfold decide_deployment at h
  split at h
  · cases h
  rename_i choices' rest hsource
  split at h
  · cases h
  rename_i choices'' rest' hrule
  split at h
  · cases h
  rename_i resolution path hresolve
  obtain rfl := Option.some.inj h
  unfold installation_plan_resolve at hresolve
  split at hresolve
  · rename_i path' action resolved hpath hignore
    obtain ⟨rfl, rfl⟩ := Prod.mk.inj (Except.ok.inj hresolve)
    have hsame : choices''.preferred_source = choices'.preferred_source := by
      unfold ask_libinput_ignore at hrule
      split at hrule
      · obtain ⟨⟨answer, _⟩, -, heq⟩ := Option.map_eq_some_iff.mp hrule
        obtain ⟨rfl, rfl⟩ := Prod.mk.inj heq
        rfl
      · obtain ⟨rfl, rfl⟩ := Prod.mk.inj (Option.some.inj hrule)
        rfl
    have hpath' : resolve_source readiness choices' = some path' := by
      unfold resolve_source at hpath ⊢
      rwa [hsame] at hpath
    obtain ⟨hkept, preferred, hpreferred, hpath⟩ := chosen_of_preferred_source hsource hpath'
    have hchosen := chosen_of_libinput_ignore hrule hignore
    rw [hkept] at hchosen
    simp only [Bool.and_eq_true, decide_eq_true_eq] at hready
    exact ⟨hready.2, rfl, preferred, rest, rest', hpreferred, hchosen, hpath⟩
  · cases hresolve

end agreements

/-! ## Replays -/

/-- The rest of a dialogue, from these variables of the parser on, does what `unattended` does
with some more options. -/
def Replays {α : Type} (o : InstallOptions) (attended : α) (unattended : InstallOptions → α)
    (count : Nat) : Prop :=
  ∃ extra o', parse_install_options o (option_list extra) = some o' ∧ extra.length ≤ count ∧
    unattended o' = attended

section replays

variable {o : InstallOptions} {interactive : Bool} {readiness : DeploymentReadiness}
  {input : List Bytes}

/-- Nothing is left to be asked. -/
theorem Replays.now {α : Type} {attended : α} {unattended : InstallOptions → α} {count : Nat}
    (h : unattended o = attended) : Replays o attended unattended count :=
  ⟨[], o, rfl, Nat.zero_le _, h⟩

/-- An option takes the place of an answer. -/
theorem Replays.option {α : Type} {attended : α} {unattended : InstallOptions → α} {count : Nat}
    {o1 : InstallOptions} {argument text : CString} (htake : take_option o argument text = some o1)
    (h : Replays o1 attended unattended count) : Replays o attended unattended (count + 1) := by
  obtain ⟨extra, o', hparse, hlength, heq⟩ := h
  refine ⟨(argument, text) :: extra, o', ?_, Nat.succ_le_succ hlength, heq⟩
  have hlist : option_list ((argument, text) :: extra) = [argument, text] ++ option_list extra :=
    List.flatMap_cons
  rw [hlist, parse_install_options_append (parse_install_options_pair htake)]
  exact hparse

theorem Replays.mono {α : Type} {attended : α} {unattended : InstallOptions → α}
    {count count' : Nat} (h : Replays o attended unattended count) (hcount : count ≤ count') :
    Replays o attended unattended count' := by
  obtain ⟨extra, o', hparse, hlength, heq⟩ := h
  exact ⟨extra, o', hparse, hlength.trans hcount, heq⟩

theorem Replays.map {α β : Type} {attended : α} {unattended : InstallOptions → α} {attended' : β}
    {unattended' : InstallOptions → β} {count : Nat} (h : Replays o attended unattended count)
    (hmap : ∀ o', unattended o' = attended → unattended' o' = attended') :
    Replays o attended' unattended' count := by
  obtain ⟨extra, o', hparse, hlength, heq⟩ := h
  exact ⟨extra, o', hparse, hlength, hmap o' heq⟩

/-- Without a terminal, a question that is asked ends the command. -/
theorem prompt_unattended : prompt_yes_no false input = none := rfl

/-- After the first question has been dealt with, the second is the only one. -/
theorem libinput_ignore_replayed (hnot : ¬(readiness.preferred_source_differs = true ∧
      o.choices.preferred_source = .UNRESOLVED)) :
    Replays o (o.request, decide_deployment interactive readiness o.choices input)
      (fun o' => (o'.request, decide_deployment false readiness o'.choices [])) 1 := by
  have hfirst : ∀ interactive input, ask_preferred_source interactive readiness o.choices input =
      some (o.choices, input) := fun _ _ => if_neg hnot
  by_cases hasked : readiness.libinput_ignore_rule_available = true ∧
      o.choices.libinput_ignore = .UNRESOLVED
  · have hask : ∀ interactive input, ask_libinput_ignore interactive readiness o.choices input =
        (prompt_yes_no interactive input).map fun (answer, input) =>
          ({ o.choices with libinput_ignore := if answer then .INSTALL else .DO_NOT_INSTALL },
            input) := fun _ _ => if_pos hasked
    cases hprompt : prompt_yes_no interactive input with
    | none =>
      apply Replays.now
      unfold decide_deployment
      rw [hfirst, hfirst]
      dsimp only
      rw [hask, hask, hprompt, prompt_unattended]
    | some answered =>
      obtain ⟨answer, input'⟩ := answered
      refine Replays.option (take_libinput_ignore_iff.mpr
        ⟨hasked.2, answer, parse_yes_no_answer, rfl⟩) (Replays.now ?_)
      have hnot' : ¬(readiness.libinput_ignore_rule_available = true ∧
          (if answer then RemediationChoice.INSTALL else .DO_NOT_INSTALL) = .UNRESOLVED) := by
        cases answer <;> simp
      unfold decide_deployment
      rw [hfirst, ask_preferred_source, if_neg hnot]
      dsimp only
      rw [hask, hprompt, ask_libinput_ignore, if_neg hnot']
      rfl
  · have hask : ∀ interactive input, ask_libinput_ignore interactive readiness o.choices input =
        some (o.choices, input) := fun _ _ => if_neg hasked
    apply Replays.now
    unfold decide_deployment
    rw [hfirst, hfirst]
    dsimp only
    rw [hask, hask]

theorem choices_replayed (h : Entered o) :
    Replays o (o.request, decide_deployment interactive readiness o.choices input)
      (fun o' => (o'.request, decide_deployment false readiness o'.choices [])) 2 := by
  by_cases hasked : readiness.preferred_source_differs = true ∧
      o.choices.preferred_source = .UNRESOLVED
  · have hask : ∀ interactive input, ask_preferred_source interactive readiness o.choices input =
        (prompt_yes_no interactive input).map fun (answer, input) =>
          ({ o.choices with
            preferred_source := if answer then .USE_PREFERRED else .RETAIN_SUPPLIED }, input) :=
      fun _ _ => if_pos hasked
    cases hprompt : prompt_yes_no interactive input with
    | none =>
      apply Replays.now
      unfold decide_deployment
      rw [hask, hask, hprompt, prompt_unattended]
      rfl
    | some answered =>
      obtain ⟨answer, input'⟩ := answered
      have hseen : o.seen 7 = false := by
        rw [h.preferred]
        simp [hasked.2]
      refine Replays.option (take_preferred_iff.mpr ⟨hseen, answer, parse_yes_no_answer, rfl⟩) ?_
      have hnot : ¬(readiness.preferred_source_differs = true ∧
          (if answer then PreferredSourceChoice.USE_PREFERRED else .RETAIN_SUPPLIED) =
            .UNRESOLVED) := by
        cases answer <;> simp
      have hgoes : decide_deployment interactive readiness o.choices input =
          decide_deployment interactive readiness { o.choices with
            preferred_source := if answer then .USE_PREFERRED else .RETAIN_SUPPLIED } input' := by
        conv_rhs => unfold decide_deployment
        rw [ask_preferred_source, if_neg hnot]
        conv_lhs => unfold decide_deployment
        rw [hask, hprompt]
        rfl
      rw [hgoes]
      exact libinput_ignore_replayed hnot
  · exact (libinput_ignore_replayed hasked).mono (by omega)

theorem request_replayed (fuel : Nat) (environment : InstallEnvironment) (input : List Bytes)
    (h : Entered o) :
    Replays o (o.request, install_request fuel environment o.request o.choices input)
      (fun o' => (o'.request, install_request fuel environment.unattended o'.request o'.choices []))
      2 := by
  cases hresolve : service_environment_resolve environment.users with
  | error result =>
    apply Replays.now
    unfold install_request assess_deployment
    simp only [InstallEnvironment.unattended, hresolve]
  | ok deployment =>
    refine (@choices_replayed o environment.interactive
      (installation_plan_assess environment.fs deployment (o.request.source_path.getD (cstr "")))
      input h).map ?_
    intro o' heq
    obtain ⟨hrequest, hdecide⟩ := Prod.mk.inj heq
    have hassess : assess_deployment environment.unattended o'.request o'.choices [] =
        assess_deployment environment o.request o.choices input := by
      unfold assess_deployment
      rw [hrequest]
      simp only [InstallEnvironment.unattended, hresolve]
      exact hdecide
    unfold install_request
    rw [hassess, hrequest]
    rfl

/-- A line that is typed can be the value of an option. -/
theorem name_replayed (fuel : Nat) (environment : InstallEnvironment) (input : List Bytes)
    (h : Entered o) :
    Replays o
      (o.request.source_supplied, install_source fuel environment o.request o.choices input)
      (fun o' => (o'.request.source_supplied,
        install_source fuel environment.unattended o'.request o'.choices [])) 3 := by
  have hpass : ∀ (o' : InstallOptions) environment input,
      o'.request.instance_name_supplied = true →
        install_source fuel environment o'.request o'.choices input =
          install_request fuel environment o'.request o'.choices input := by
    intro o' environment input ho
    unfold install_source prompt_name
    rw [if_pos ho]
  by_cases hsupplied : o.request.instance_name_supplied = true
  · refine ((request_replayed fuel environment input h).map ?_).mono (by omega)
    intro o' heq
    obtain ⟨hrequest, hinstall⟩ := Prod.mk.inj heq
    rw [hpass o _ _ hsupplied, hpass o' _ _ (hrequest ▸ hsupplied), hinstall, hrequest]
  · cases hprompt : prompt_line environment.interactive input with
    | none =>
      apply Replays.now
      unfold install_source prompt_name
      rw [if_neg hsupplied, if_neg hsupplied, hprompt]
      rfl
    | some typed =>
      obtain ⟨name, input'⟩ := typed
      have htake : take_option o RunOption.name.argument name = some (o.give .name name) := by
        apply install_step_iff.mpr
        refine ⟨?_, trivial, rfl⟩
        rw [RunOption.field, h.name]
        simpa using hsupplied
      have hattended : install_source fuel environment o.request o.choices input =
          install_request fuel environment (o.give .name name).request
            (o.give .name name).choices input' := by
        unfold install_source prompt_name
        rw [if_neg hsupplied, hprompt]
        rfl
      rw [hattended]
      refine Replays.option htake ((request_replayed fuel environment input' (h.give .name)).map ?_)
      intro o' heq
      obtain ⟨hrequest, hinstall⟩ := Prod.mk.inj heq
      rw [hpass o' _ _ (hrequest ▸ rfl), hinstall, hrequest]
      rfl

theorem source_replayed (fuel : Nat) (environment : InstallEnvironment) (h : Entered o) :
    Replays o (install_options fuel environment o.request o.choices)
      (fun o' => install_options fuel environment.unattended o'.request o'.choices) 4 := by
  have hpass : ∀ (o' : InstallOptions) environment, o'.request.source_supplied = true →
      install_options fuel environment o'.request o'.choices =
        install_source fuel environment o'.request o'.choices environment.input := by
    intro o' environment ho
    unfold install_options prompt_source
    rw [if_pos ho]
  by_cases hsupplied : o.request.source_supplied = true
  · refine ((name_replayed fuel environment environment.input h).map ?_).mono (by omega)
    intro o' heq
    obtain ⟨hsource, hinstall⟩ := Prod.mk.inj heq
    rw [hpass o _ hsupplied, hpass o' _ (hsource.trans hsupplied)]
    exact hinstall
  · cases hprompt : prompt_line environment.interactive environment.input with
    | none =>
      apply Replays.now
      unfold install_options prompt_source
      rw [if_neg hsupplied, if_neg hsupplied, hprompt]
      rfl
    | some typed =>
      obtain ⟨source, input⟩ := typed
      have htake : take_option o RunOption.source.argument source =
          some (o.give .source source) := by
        apply install_step_iff.mpr
        refine ⟨?_, trivial, rfl⟩
        rw [RunOption.field, h.source]
        simpa using hsupplied
      have hattended : install_options fuel environment o.request o.choices =
          install_source fuel environment (o.give .source source).request
            (o.give .source source).choices input := by
        unfold install_options prompt_source
        rw [if_neg hsupplied, hprompt]
        rfl
      rw [hattended]
      refine Replays.option htake ((name_replayed fuel environment input (h.give .source)).map ?_)
      intro o' heq
      obtain ⟨hsource, hinstall⟩ := Prod.mk.inj heq
      rw [hpass o' _ (hsource.trans rfl)]
      exact hinstall

end replays

/-- Whatever was typed in a terminal, at most four options have the same effect without one: the
command makes the same calls and comes to the same end. -/
theorem every_dialogue_can_be_given_as_options (fuel : Nat) (environment : InstallEnvironment)
    (program command : CString) (arguments : List CString) :
    ∃ extra : List (CString × CString), extra.length ≤ 4 ∧
      install_command_with_environment fuel environment.unattended
          (program :: command :: (arguments ++ option_list extra)) =
        install_command_with_environment fuel environment (program :: command :: arguments) := by
  by_cases huid : environment.effective_uid ≠ 0
  · refine ⟨[], Nat.zero_le _, ?_⟩
    unfold install_command_with_environment
    rw [if_pos huid]
    exact if_pos huid
  cases hparse : parse_install_options
      ⟨installation_request_init, unresolved_choices, fun _ => false⟩ arguments with
  | none =>
    refine ⟨[], Nat.zero_le _, ?_⟩
    have hnil : option_list [] = [] := rfl
    unfold install_command_with_environment parse_arguments
    rw [hnil, List.append_nil, List.drop_succ_cons, List.drop_succ_cons, List.drop_zero, hparse]
    rfl
  | some o =>
    have hentered : Entered o := Entered.parse ⟨rfl, rfl, rfl, rfl, rfl⟩ hparse
    obtain ⟨extra, o', hextra, hlength, heq⟩ := source_replayed fuel environment hentered
    refine ⟨extra, hlength, ?_⟩
    unfold install_command_with_environment parse_arguments
    simp only [List.drop_succ_cons, List.drop_zero]
    rw [parse_install_options_append hparse, hextra, hparse, if_neg huid]
    exact (if_neg huid).trans heq

end input_proxy
