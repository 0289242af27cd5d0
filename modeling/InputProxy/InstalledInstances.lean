-- The store of installed instances (src/installed_instance.c): paths,
-- existence, enumeration, creation and removal of response artifacts.
import InputProxy.ResponseFiles
import InputProxy.SystemCalls

open c_strings disks processes

namespace input_proxy

/-- `enum input_proxy_installed_instance_result`, without the prefix. -/
inductive StoreResult
  | SUCCESS
  | ALREADY_INSTALLED
  | NOT_FOUND
  | INVALID_NAME
  | DIRECTORY_FAILED
  | CREATE_FAILED
  | ENUMERATION_FAILED
  | REMOVAL_FAILED
  | OUT_OF_MEMORY
  | INVALID_ARGUMENT
deriving DecidableEq

def ARTIFACT_SUFFIX : CString := cstr ".args"

def ARTIFACT_TEMPLATE : CString := cstr "/.input-proxy-artifact-XXXXXX"

/-- A store is its directory; an empty path is refused. -/
structure Store where
  directory : CString
  nonempty : directory.bytes ≠ []

/-- `validate_name` of the store. -/
def store_validate_name (instance_name : Option CString) : StoreResult :=
  match instance_name_validate instance_name with
  | .SUCCESS => .SUCCESS
  | .ERROR_OUT_OF_MEMORY => .OUT_OF_MEMORY
  | .ERROR_INVALID_ARGUMENT => .INVALID_ARGUMENT
  | _ => .INVALID_NAME

/-- The store accepts what the validator accepts. -/
theorem store_validate_name_cases (instance_name : Option CString) :
    (∃ n : InstanceName, instance_name = some n.name ∧
      store_validate_name instance_name = .SUCCESS) ∨
    (store_validate_name instance_name ≠ .SUCCESS ∧
      store_validate_name instance_name ≠ .ALREADY_INSTALLED) := by
  unfold store_validate_name
  split
  · rename_i h
    cases instance_name with
    | none => simp [instance_name_validate] at h
    | some name => exact .inl ⟨⟨name, h⟩, rfl, rfl⟩
  all_goals exact .inr ⟨by decide, by decide⟩

/-! ## Paths -/

/-- The size of the buffer for the path of an artifact. -/
def artifact_path_size (store : Store) (instance_name : CString) : Nat :=
  store.directory.length + 1 + instance_name.length + (ARTIFACT_SUFFIX.length + 1)

/-- What the buffer has after `snprintf`. -/
def artifact_path (store : Store) (instance_name : CString) : CString :=
  snprintf (artifact_path_size store instance_name)
    (store.directory ++ cstr "/" ++ instance_name ++ ARTIFACT_SUFFIX)

def installed_instance_path (store : Store) (instance_name : Option CString) :
    Proc (Except StoreResult CString) := do
  match store_validate_name instance_name, instance_name with
  | .SUCCESS, some name =>
    if !(← malloc) then return .error .OUT_OF_MEMORY
    return .ok (artifact_path store name)
  | result, _ => return .error result

/-! ## Existence and enumeration -/

def installed_instance_exists (store : Store) (instance_name : Option CString) :
    Proc (Except StoreResult Bool) := do
  match ← installed_instance_path store instance_name with
  | .error result => return .error result
  | .ok path =>
    match ← lstat path with
    | none => return .ok true
    | some .ENOENT => return .ok false
    | some _ => return .error .DIRECTORY_FAILED

/-- The name in front of the suffix, where a file has it. -/
def strip_artifact_suffix (filename : CString) : Option CString :=
  let name_length := filename.length - ARTIFACT_SUFFIX.length
  if filename.length ≤ ARTIFACT_SUFFIX.length ∨
      (filename.drop name_length).bytes ≠ ARTIFACT_SUFFIX.bytes then none
  else some (filename.take name_length)

/-- `qsort` with `strcmp`. -/
def sort_names (names : List CString) : List CString := names.mergeSort CString.le

/-- The loop over the entries that `readdir` still has. -/
def enumerate_entries (store : Store) :
    List CString → List CString → Proc (Except StoreResult (List CString))
  | [], names => do
    if !(← readdir) then
      let _ ← closedir
      return .error .ENUMERATION_FAILED
    if !(← closedir) then return .error .ENUMERATION_FAILED
    return .ok (sort_names names)
  | filename :: rest, names => do
    if !(← readdir) then
      let _ ← closedir
      return .error .ENUMERATION_FAILED
    match strip_artifact_suffix filename with
    | none => enumerate_entries store rest names
    | some name =>
      if !(← malloc) then
        let _ ← closedir
        return .error .OUT_OF_MEMORY
      if store_validate_name (some name) ≠ .SUCCESS then enumerate_entries store rest names
      else
        match ← fstatat store.directory filename with
        | none =>
          let _ ← closedir
          return .error .ENUMERATION_FAILED
        | some false => enumerate_entries store rest names
        | some true =>
          if !(← malloc) then
            let _ ← closedir
            return .error .OUT_OF_MEMORY
          enumerate_entries store rest (names ++ [name])

def installed_instance_enumerate (store : Store) : Proc (Except StoreResult (List CString)) := do
  match ← opendir store.directory with
  | none => return .error .DIRECTORY_FAILED
  | some filenames => enumerate_entries store filenames []

/-! ## Creation -/

/-- `write_all` of the store, which goes round again after `EINTR`. The loop carries what is
left of the content. -/
def store_write_all (fuel descriptor : Nat) (content : Bytes) : Proc Bool :=
  .loop (fun content => do
    if content = [] then return .inr true
    match ← write descriptor content with
    | .error .EINTR => return .inl content
    | .error _ => return .inr false
    | .ok written => return .inl (content.drop written)) fuel content

/-- The label `cleanup`, for a descriptor and a temporary file that are still there. -/
def create_cleanup (descriptor : Option Nat) (temporary_path : Option CString)
    (result : StoreResult) : Proc StoreResult := do
  if let some descriptor := descriptor then
    let _ ← close descriptor
  if let some path := temporary_path then
    let _ ← unlink path
  return result

/-- `input_proxy_installed_instance_create` from `mkstemp` on. -/
def create_artifact (fuel : Nat) (store : Store) (final_path : CString) (content : Bytes) :
    Proc StoreResult := do
  let (made, temporary_path) ← mkstemp (store.directory ++ ARTIFACT_TEMPLATE)
  match made with
  | .error errno =>
    create_cleanup none temporary_path
      (if errno = .ENOENT ∨ errno = .EACCES then .DIRECTORY_FAILED else .CREATE_FAILED)
  | .ok descriptor =>
    if !(← fchmod descriptor) then
      create_cleanup descriptor temporary_path .CREATE_FAILED
    else if !(← store_write_all fuel descriptor content) then
      create_cleanup descriptor temporary_path .CREATE_FAILED
    else if !(← fsync descriptor) then
      create_cleanup descriptor temporary_path .CREATE_FAILED
    else if !(← close descriptor) then
      create_cleanup none temporary_path .CREATE_FAILED
    else
      match ← link temporary_path final_path with
      | some errno =>
        create_cleanup none temporary_path
          (if errno = .EEXIST then .ALREADY_INSTALLED else .CREATE_FAILED)
      | none =>
        match ← unlink temporary_path with
        | none => create_cleanup none none .SUCCESS
        | some _ => create_cleanup none temporary_path .SUCCESS

def installed_instance_create (fuel : Nat) (store : Store) (config : RunConfig) :
    Proc StoreResult := do
  match config.source_path with
  | none => return .INVALID_ARGUMENT
  | some source_path =>
    if newline ∈ source_path.bytes then return .INVALID_ARGUMENT
    match ← installed_instance_path store config.instance_name, config.instance_name with
    | .error result, _ => return result
    | .ok _, none => return .INVALID_ARGUMENT
    | .ok final_path, some instance_name =>
      -- the content, then the path of the temporary file
      if !(← malloc) then return .OUT_OF_MEMORY
      if !(← malloc) then return .OUT_OF_MEMORY
      create_artifact fuel store final_path
        (render_response source_path.bytes instance_name.bytes config)

/-! ## Removal -/

def installed_instance_remove (store : Store) (instance_name : Option CString) :
    Proc StoreResult := do
  match ← installed_instance_path store instance_name with
  | .error result => return result
  | .ok path =>
    match ← unlink path with
    | none => return .SUCCESS
    | some .ENOENT => return .NOT_FOUND
    | some _ => return .REMOVAL_FAILED

end input_proxy
