-- The program from its arguments to its exit status (src/main.c): the commands, and a
-- run from its options to the end of its session. A response file runs as its lines
-- would as options.
import InputProxy.InputTrees
import InputProxy.InstallDialogues
import InputProxy.ResponseReaders
import InputProxy.SessionCreation

open c_strings disks processes

namespace input_proxy

/-! ## A run -/

/-- What a run meets beside the calls that reserve its name: whether both signal handlers are
installed, and what the world answers to the session. -/
structure RunEnvironment where
  signal_handlers : Bool
  answers : Nat → Answer

/-- `input_proxy_session_run`, which makes its calls to another world. -/
def run_of_session (fuel : Nat) (environment : RunEnvironment) (config : SessionConfig) :
    Proc Result :=
  match (session_run fuel (World.start config environment.answers)).1 with
  | none => .cut
  | some result => return result

def run_proxy (fuel : Nat) (environment : RunEnvironment) (argv : List CString) : Proc Exit := do
  match parse_run_config argv with
  | .error _ => return .FAILURE
  | .ok config =>
    match ← session_create (some config) with
    | .error _ => return .FAILURE
    | .ok (session, address) =>
      if !environment.signal_handlers then
        -- the session is destroyed, with its ownership of the name
        instance_name_release (some address)
        return .FAILURE
      let result ← run_of_session fuel environment session
      instance_name_release (some address)
      return if result = .SUCCESS then .SUCCESS else .FAILURE

/-! ## The commands -/

/-- What the commands find. -/
structure MainEnvironment where
  run : RunEnvironment
  install : InstallEnvironment
  uninstall : UninstallEnvironment
  word : MachineWord
  fs : Filesystem
  readdir : CString → Option (List CString)
  snapshot : RuntimeSnapshot
  installed : Option (List CString)

/-- The paths that `list` and `inspect` are given. -/
def default_paths : InputPaths where
  sysfs_input_path := cstr "/sys/class/input"
  device_input_path := cstr "/dev/input"
  uinput_path := cstr "/dev/uinput"
  udev_data_path := cstr "/run/udev/data"

def list_command (environment : MainEnvironment) (arguments : List CString) : Exit :=
  if arguments ≠ [] then .FAILURE
  else
    match list_devices environment.word environment.fs.sysfs environment.readdir
      default_paths.sysfs_input_path default_paths.device_input_path with
    | none => .FAILURE
    | some _ => .SUCCESS

/-- The service environment is resolved for the report. -/
def inspect_command (environment : MainEnvironment) (arguments : List CString) : Exit :=
  match arguments with
  | [path] =>
    let (identity, deployment) :=
      match service_environment_resolve environment.install.users with
      | .ok deployment => (ServiceIdentityResult.IDENTITY_VALID, some deployment)
      | .error result => (result, none)
    match inspect_device environment.fs default_paths path (some environment.snapshot) identity
      deployment environment.installed with
    | none => .FAILURE
    | some _ => .SUCCESS
  | _ => .FAILURE

/-- `'@'` -/
abbrev at_sign : UInt8 := 64

/-- `argv` has the program and the command in front of the arguments. -/
def main (fuel : Nat) (environment : MainEnvironment) (argv : List CString) : Proc Exit :=
  match argv with
  | program_name :: command :: arguments =>
    if command = cstr "--help" ∧ arguments = [] then return .SUCCESS
    else if command = cstr "--version" ∧ arguments = [] then return .SUCCESS
    else if arguments = [cstr "--help"] ∧ command ∈ [RUN, cstr "list", cstr "install",
        cstr "inspect", cstr "uninstall"] then return .SUCCESS
    else if command = RUN then
      match arguments with
      | [argument] =>
        if argument.bytes.head? = some at_sign then do
          match ← response_file_read (argument.drop 1) program_name with
          | none => return .FAILURE
          | some response_argv => run_proxy fuel environment.run response_argv
        else run_proxy fuel environment.run argv
      | _ => run_proxy fuel environment.run argv
    else if command = cstr "list" then return list_command environment arguments
    else if command = cstr "install" then
      install_command_with_environment fuel environment.install argv
    else if command = cstr "inspect" then return inspect_command environment arguments
    else if command = cstr "uninstall" then
      match arguments with
      | [] => uninstall_command environment.uninstall program_name none
      | [argument] => uninstall_command environment.uninstall program_name (some argument)
      | _ => return .FAILURE
    else return .FAILURE
  | _ => return .FAILURE

/-! ## Response files -/

/-- What `run` takes for something else than options, as its only argument. -/
def NotAnOption (argument : CString) : Prop :=
  argument = cstr "--help" ∨ argument.bytes.head? = some at_sign

section response_files

variable {fuel : Nat} {environment : MainEnvironment} {program_name argument : CString}

theorem parse_not_an_option (h : NotAnOption argument) :
    ∃ error, parse_run_config [program_name, RUN, argument] = .error error := by
  have hverbose : argument.bytes ≠ ascii "--verbose" := by
    rcases h with rfl | hhead
    · decide
    · intro heq
      rw [heq] at hhead
      exact absurd hhead (by decide)
  have hoption : value_option argument.bytes = none := by
    rcases h with rfl | hhead
    · decide
    · unfold value_option
      have hne : ∀ text : Bytes, text.head? = some 45 → argument.bytes ≠ text := by
        intro text htext heq
        rw [heq, htext] at hhead
        exact absurd hhead (by decide)
      rw [if_neg (hne _ (by decide)), if_neg (hne _ (by decide)), if_neg (hne _ (by decide)),
        if_neg (hne _ (by decide)), if_neg (hne _ (by decide)), if_neg (hne _ (by decide)),
        if_neg (hne _ (by decide))]
  refine ⟨(.ERROR_INVALID_ARGUMENT, []), ?_⟩
  unfold parse_run_config
  rw [List.drop_succ_cons, List.drop_succ_cons, List.drop_zero]
  unfold parse_run_options
  rw [if_neg hverbose, hoption]

theorem run_ne_global : RUN ≠ cstr "--help" ∧ RUN ≠ cstr "--version" := by decide

/-- Options that are given to `run`. -/
theorem main_run {arguments : List CString} (h : ∀ argument, arguments = [argument] →
    ¬NotAnOption argument) : main fuel environment (program_name :: RUN :: arguments) =
      run_proxy fuel environment.run (program_name :: RUN :: arguments) := by
  have hhelp : ¬(arguments = [cstr "--help"] ∧ RUN ∈ [RUN, cstr "list", cstr "install",
      cstr "inspect", cstr "uninstall"]) := fun hboth => h _ hboth.1 (.inl rfl)
  unfold main
  dsimp only
  rw [if_neg fun hglobal => run_ne_global.1 hglobal.1,
    if_neg fun hglobal => run_ne_global.2 hglobal.1, if_neg hhelp, if_pos rfl]
  split
  · rw [if_neg fun hhead => h _ rfl (.inr hhead)]
  · rfl

theorem main_response_file (path : CString) :
    main fuel environment [program_name, RUN, cstr "@" ++ path] = (do
      match ← response_file_read path program_name with
      | none => return .FAILURE
      | some response_argv => run_proxy fuel environment.run response_argv) := by
  have hhead : (cstr "@" ++ path).bytes = 64 :: path.bytes := rfl
  have hhelp : ¬([cstr "@" ++ path] = [cstr "--help"] ∧ RUN ∈ [RUN, cstr "list", cstr "install",
      cstr "inspect", cstr "uninstall"]) := by
    rintro ⟨heq, -⟩
    have hbytes := congrArg CString.bytes (List.cons.inj heq).1
    rw [hhead] at hbytes
    exact absurd (List.cons.inj hbytes).1 (by decide)
  have hdrop : (cstr "@" ++ path).drop 1 = path := rfl
  unfold main
  dsimp only
  rw [if_neg fun hglobal => run_ne_global.1 hglobal.1,
    if_neg fun hglobal => run_ne_global.2 hglobal.1, if_neg hhelp, if_pos rfl, hhead,
    List.head?_cons, if_pos rfl, hdrop]

/-- A file that can be read is read, and nothing is changed. -/
theorem run_smooth_reader {path : CString} {content : Bytes} {m : Machine} {pid : Nat}
    {choices : Nat → SystemCall → Option Choice} (hpath : path.bytes ≠ [])
    (hcontent : m.content path = some content)
    (hread : Process.Along (answer pid) Smooth (response_file_read path program_name) choices m) :
    Process.run (answer pid) (response_file_read path program_name) choices m =
      (some (response_file_argv program_name content), m) := by
  have hwp : Process.wp (answer pid) Smooth (fun _ => False) (response_file_read path program_name)
      (fun r m' => r = response_file_argv program_name content ∧ m' = m) m :=
    smooth_response_file_read hpath hcontent
  rcases Process.run_of_wp hwp hread with ⟨-, h⟩ | ⟨r, hr, rfl, hm⟩
  · exact h.elim
  · exact Prod.ext hr hm

end response_files

/-- What `run @file` does with a file that can be read, after its reading, is what `run` does with
its lines as arguments, except that a line is never taken for a request for help or for another
file. -/
theorem a_response_file_runs_as_its_lines (fuel : Nat) (environment : MainEnvironment)
    (program_name path : CString) (content : Bytes) (m : Machine) (pid : Nat)
    (choices : Nat → SystemCall → Option Choice) (hpath : path.bytes ≠ [])
    (hcontent : m.content path = some content)
    (hread : Process.Along (answer pid) Smooth (response_file_read path program_name) choices m) :
    let run_file := Process.run (answer pid)
      (main fuel environment [program_name, RUN, cstr "@" ++ path]) choices m
    let reading := (response_file_read path program_name).calls (answer pid) choices m
    match response_file_argv program_name content with
    | none => run_file = (some .FAILURE, m)
    | some argv =>
      (∃ argument, argv = [program_name, RUN, argument] ∧ NotAnOption argument) ∧
          run_file = (some .FAILURE, m) ∨
        run_file = Process.run (answer pid) (main fuel environment argv)
          (fun k => choices (k + reading.length)) m := by
  intro run_file reading
  have hrun_file : run_file = Process.run (answer pid) (do
      match ← response_file_read path program_name with
      | none => return .FAILURE
      | some response_argv => run_proxy fuel environment.run response_argv) choices m :=
    congrArg (fun process => Process.run (answer pid) process choices m) (main_response_file path)
  rw [Process.run_bind (run_smooth_reader hpath hcontent hread)] at hrun_file
  cases hargv : response_file_argv program_name content with
  | none =>
    rw [hargv] at hrun_file
    exact hrun_file
  | some argv =>
    rw [hargv] at hrun_file
    dsimp only at hrun_file ⊢
    obtain ⟨arguments, rfl⟩ : ∃ arguments, argv = program_name :: RUN :: arguments := by
      unfold response_file_argv at hargv
      obtain ⟨arguments, -, rfl⟩ := Option.map_eq_some_iff.mp hargv
      exact ⟨arguments, rfl⟩
    by_cases hspecial : ∃ argument, arguments = [argument] ∧ NotAnOption argument
    · left
      obtain ⟨argument, rfl, hargument⟩ := hspecial
      obtain ⟨error, herror⟩ := @parse_not_an_option program_name argument hargument
      refine ⟨⟨argument, rfl, hargument⟩, ?_⟩
      rw [hrun_file]
      unfold run_proxy
      rw [herror]
      rfl
    · right
      rw [hrun_file, main_run fun argument heq hargument => hspecial ⟨argument, heq, hargument⟩]

def keyboard_environment : MainEnvironment where
  run := ⟨true, fun _ => {}⟩
  install := ⟨0, false, [], etc_store.directory, ⟨UDEV_RULE_DIRECTORY, false, false⟩,
    keyboard_files, packaged_database⟩
  uninstall := ⟨0, etc_store.directory, UDEV_RULE_DIRECTORY, none⟩
  word := .BITS_64
  fs := keyboard_files
  readdir := keyboard_files.scandir
  snapshot := ⟨false, []⟩
  installed := none

/-- A system that has no socket to give. -/
def no_sockets : Nat → SystemCall → Option Choice
  | _, .socket => some { calm with fault := some .ENOBUFS }
  | _, _ => some calm

/-- Also where the run fails later. -/
theorem a_file_of_options_runs_as_the_options :
    let m := file_machine (cstr "/run/desk") (ascii "--source\n/dev/input/event8\n--name\ndesk")
    Process.run (answer 0) (main 2 keyboard_environment
        [cstr "input-proxy", RUN, cstr "@" ++ cstr "/run/desk"]) no_sockets m =
      Process.run (answer 0) (main 2 keyboard_environment [cstr "input-proxy", RUN,
        cstr "--source", cstr "/dev/input/event8", cstr "--name", cstr "desk"]) no_sockets m := by
  intro m
  have hargv : response_file_argv (cstr "input-proxy")
      (ascii "--source\n/dev/input/event8\n--name\ndesk") = some [cstr "input-proxy", RUN,
        cstr "--source", cstr "/dev/input/event8", cstr "--name", cstr "desk"] := by
    decide +kernel
  have hruns := a_response_file_runs_as_its_lines 2 keyboard_environment (cstr "input-proxy")
    (cstr "/run/desk") _ m 0 no_sockets (by decide) content_file_machine (by decide +kernel)
  rw [hargv] at hruns
  rcases hruns with ⟨⟨argument, heq, -⟩, -⟩ | heq
  · cases heq
  · exact heq

end input_proxy
