-- How the commands conduct themselves: a process writes to its own new file only, publishes
-- as an artifact only the whole text of one, and removes a temporary file under its own
-- path only; and the service of a name reserves the name that its artifact has.
import InputProxy.Conducts
import InputProxy.InstalledServices
import InputProxy.NameOwnership

open c_strings disks processes

namespace input_proxy

/-! ## Artifacts and temporary files -/

/-- The text of an artifact of this name, for a configuration that a run accepts. -/
def ArtifactOf (n : InstanceName) (content : Bytes) : Prop :=
  ∃ (config : RunConfig) (source_path : CString), runtime_policy_is_valid config = true ∧
    newline ∉ source_path.bytes ∧
    content = render_response source_path.bytes n.name.bytes config

/-- A path that `mkstemp` can come up with. -/
def Filled (path : CString) : Prop := ∃ template letters, path = fill template letters

theorem not_filled_artifact (store : Store) (name : CString) :
    ¬Filled (artifact_path store name) :=
  fun ⟨template, letters, h⟩ => artifact_path_ne_fill store name template letters h

theorem not_filled_rule (directory name : CString) : ¬Filled (rule_path directory name) :=
  fun ⟨template, letters, h⟩ => rule_path_ne_fill directory name template letters h

/-! ## Hands -/

/-- What a process has to do with its last temporary file, and what it has read. -/
inductive Hand
  | empty
  /-- The path is its own to remove. -/
  | named (path : CString)
  /-- The path stands for a file of its own, that has this content and is not published. -/
  | made (path : CString) (id : Nat) (content : Bytes)
  | read (content : Bytes)

namespace Hand

def path : Hand → Option CString
  | .named path | .made path _ _ => some path
  | .empty | .read _ => none

/-- The bytes are written to the file of this number. -/
def written (id : Nat) (bytes : Bytes) : Hand → Hand
  | .made path id' content =>
    if id' = id then .made path id (content ++ bytes) else .made path id' content
  | hand => hand

/-- The file is not only its own any more. -/
def published : Hand → Hand
  | .made path _ _ => .named path
  | hand => hand

def removed (path' : CString) : Hand → Hand
  | .made path id content => if path = path' then .named path else .made path id content
  | hand => hand

/-- Files are written that are one's own, what is published as an artifact is one, and no
temporary file of another process is removed. -/
def Permits (store : Store) (hand : Hand) : SystemCall → Prop
  | .write id _ => ∃ path content, hand = .made path id content
  | .link path path' => ¬Filled path' ∧ ∃ id content, hand = .made path id content ∧
      ∀ n : InstanceName, path' = artifact_path store n.name → ArtifactOf n content
  | .unlink path => hand.path = some path ∨ ¬Filled path
  | _ => True

/-- The service of a name reads its artifact, and reserves the name that it has read. -/
def Serves (store : Store) (n : InstanceName) (hand : Hand) : SystemCall → Prop
  | .fopen path => path = artifact_path store n.name
  | .bind address => ∃ content, hand = .read content ∧ (ArtifactOf n content → address = n.address)
  | _ => True

def after (role : Option InstanceName) (hand : Hand) : (c : SystemCall) → Reply c → Hand
  | .mkstemp _ => fun r =>
    match r.1 with
    | .error _ => .named r.2
    | .ok id => .made r.2 id []
  | .write id bytes => fun r =>
    match r with
    | .error _ => hand
    | .ok written => hand.written id (bytes.take written)
  | .link _ _ => fun r =>
    match r with
    | none => hand.published
    | some _ => hand
  | .unlink path => fun r =>
    match r with
    | none => hand.removed path
    | some _ => hand
  | .fopen _ => fun r =>
    match r with
    | .error _ => hand
    | .ok content => if role.isSome then .read content else hand
  | _ => fun _ => hand

end Hand

/-- The conduct of the service of a name, or of any other process. -/
def conduct (store : Store) (role : Option InstanceName) : Conduct Reply Hand where
  allows hand c := (Idle c ∨ hand.Permits store c) ∧ ∀ n, role = some n → hand.Serves store n c
  after := Hand.after role

/-! ## Commands -/

/-- A call that any process can make with any hand. -/
def Free (store : Store) (c : SystemCall) : Prop := ∀ hand, (conduct store none).allows hand c

section commands

open Process

variable {α : Type} {store store' : Store} {c : SystemCall} {p : Proc α} {hand : Hand}

theorem free_of_permits (h : ∀ hand : Hand, Idle c ∨ hand.Permits store c) : Free store c := by
  refine fun hand => ⟨h hand, fun n hrole => ?_⟩
  cases hrole

theorem free_bind (address : Bytes) : Free store (.bind address) :=
  free_of_permits fun _ => .inr trivial

theorem free_close_socket (address : Bytes) : Free store (.close_socket address) :=
  free_of_permits fun _ => .inr trivial

theorem free_of_removing (h : Removing c) : Free store c := by
  apply free_of_permits
  intro hand
  rcases h with hidle | ⟨store', name, rfl⟩ | ⟨rules, name, rfl⟩
  · exact .inl hidle
  · exact .inr (.inr (not_filled_artifact store' name))
  · exact .inr (.inr (not_filled_rule rules name))

theorem makes_free_of_removing (h : p.Uses Removing) : p.Makes (Free store) :=
  h.makes.mono fun _ => free_of_removing

theorem makes_free_of_idle (h : p.Uses Idle) : p.Makes (Free store) :=
  makes_free_of_removing (removing_of_idle h)

theorem makes_free_malloc : malloc.Makes (Free store) := makes_free_of_idle uses_malloc

theorem makes_free_instance_name_acquire (name : Option CString) :
    (instance_name_acquire name).Makes (Free store) := by
  unfold instance_name_acquire
  split
  · exact makes_pure _
  rename_i address _
  apply makes_bind makes_free_malloc
  intro r
  apply makes_ite (makes_pure _)
  apply makes_bind (makes_free_of_idle (uses_ask.mpr fun _ _ _ => ⟨rfl, rfl⟩))
  intro r
  apply makes_ite (makes_pure _)
  apply makes_bind (makes_ask.mpr (free_bind address))
  intro (bound : Bound)
  split <;> exact makes_pure _

theorem makes_free_instance_name_release (ownership : Option Bytes) :
    (instance_name_release ownership).Makes (Free store) := by
  cases ownership with
  | none => exact makes_pure _
  | some address => exact makes_ask.mpr (free_close_socket address)

/-! ### Publications -/

/-- The calls that any process can make, and that leave the hand as it is. -/
def Plain : SystemCall → Prop
  | .malloc | .fchmod _ | .fsync _ | .close _ | .getline | .fclose | .socket | .close_socket _ =>
    True
  | _ => False

theorem follows_plain {role : Option InstanceName} {Q : Reply c → Hand → Prop} (hc : Plain c)
    (h : ∀ r, Q r hand) : Follows (conduct store role) (Process.ask c) hand Q := by
  have hallows : hand.Permits store c ∧ ∀ n, hand.Serves store n c := by
    cases c <;> first | exact ⟨trivial, fun _ => trivial⟩ | cases hc
  have hafter : ∀ r, hand.after role c r = hand := by
    cases c <;> first | exact fun _ => rfl | cases hc
  have hconduct : (conduct store role).allows hand c := ⟨.inr hallows.1, fun n _ => hallows.2 n⟩
  apply follows_ask hconduct
  intro r
  change Q r (hand.after role c r)
  rw [hafter r]
  exact h r

/-- The path of the hand is removed, or stays its own. -/
theorem follows_unlink {path : CString} {Q : Option Errno → Hand → Prop}
    (hpath : hand.path = some path)
    (h : ∀ r hand', hand'.path = some path → Q r hand') :
    Follows (conduct store none) (unlink path) hand Q := by
  refine follows_ask ⟨.inr (.inl hpath), fun n hrole => by cases hrole⟩ fun r => ?_
  apply h
  have hremoved : (hand.removed path).path = some path := by
    cases hand with
    | empty => exact hpath
    | named path' => exact hpath
    | made path' id content =>
      simp only [Hand.removed]
      split <;> exact hpath
    | read content => exact hpath
  cases (r : Option Errno) with
  | none => exact hremoved
  | some errno => exact hpath

/-- A file of one's own is written to. -/
theorem follows_write {path : CString} {id : Nat} {content bytes : Bytes}
    {Q : Except Errno Nat → Hand → Prop}
    (hwritten : ∀ n, Q (.ok n) (.made path id (content ++ bytes.take n)))
    (hfail : ∀ errno, Q (.error errno) (.made path id content)) :
    Follows (conduct store none) (write id bytes) (.made path id content) Q := by
  refine follows_ask ⟨.inr ⟨path, content, rfl⟩, fun n hrole => by cases hrole⟩ fun r => ?_
  cases (r : Except Errno Nat) with
  | error errno => exact hfail errno
  | ok written =>
    have hsame : (Hand.made path id content).written id (bytes.take written) =
        .made path id (content ++ bytes.take written) := if_pos rfl
    change Q (.ok written) ((Hand.made path id content).written id (bytes.take written))
    rw [hsame]
    exact hwritten written

theorem follows_mkstemp {template : CString} {Q : Except Errno Nat × CString → Hand → Prop}
    (hmade : ∀ id path, Q (.ok id, path) (.made path id []))
    (hfail : ∀ errno path, Q (.error errno, path) (.named path)) :
    Follows (conduct store none) (mkstemp template) hand Q := by
  refine follows_ask ⟨.inr trivial, fun n hrole => by cases hrole⟩ fun r => ?_
  obtain ⟨made, path⟩ := r
  cases made with
  | error errno => exact hfail errno path
  | ok id => exact hmade id path

/-- The file is published as what it is. -/
theorem follows_link {path path' : CString} {id : Nat} {content : Bytes}
    {Q : Option Errno → Hand → Prop} (hpath : ¬Filled path')
    (hart : ∀ n : InstanceName, path' = artifact_path store n.name → ArtifactOf n content)
    (hlinked : Q none (.named path)) (hfail : ∀ errno, Q (some errno) (.made path id content)) :
    Follows (conduct store none) (link path path') (.made path id content) Q := by
  refine follows_ask ⟨.inr ⟨hpath, id, content, rfl, hart⟩, fun n hrole => by cases hrole⟩ ?_
  intro r
  cases (r : Option Errno) with
  | none => exact hlinked
  | some errno => exact hfail errno

/-- The loop of a writer has at last written all that it was given. -/
theorem follows_store_write_all (fuel : Nat) {path : CString} {id : Nat} {content : Bytes} :
    Follows (conduct store none) (store_write_all fuel id content) (.made path id [])
      fun r hand' => ∃ done, hand' = .made path id done ∧ (r = true → done = content) := by
  apply follows_loop fun rest hand' => ∃ done, hand' = .made path id done ∧ done ++ rest = content
  · rintro rest _ ⟨done, rfl, hdone⟩
    apply follows_ite
    · rintro rfl
      exact ⟨done, rfl, fun _ => by simpa using hdone⟩
    · intro _
      apply follows_bind
      apply follows_write
      · intro n
        refine ⟨_, rfl, ?_⟩
        rw [List.append_assoc, List.take_append_drop]
        exact hdone
      · intro errno
        cases errno
        case EINTR => exact ⟨done, rfl, hdone⟩
        all_goals exact ⟨done, rfl, fun h => by cases h⟩
  · exact ⟨[], rfl, rfl⟩

theorem follows_rule_write_all (fuel : Nat) {path : CString} {id : Nat} {content : Bytes} :
    Follows (conduct store none) (rule_write_all fuel id content) (.made path id [])
      fun _ hand' => ∃ done, hand' = .made path id done := by
  apply follows_loop fun _ hand' => ∃ done, hand' = .made path id done
  · rintro rest _ ⟨done, rfl⟩
    apply follows_ite
    · exact fun _ => ⟨done, rfl⟩
    · intro _
      apply follows_bind
      apply follows_write
      · intro n
        cases n with
        | zero => exact ⟨_, rfl⟩
        | succ n => exact ⟨_, rfl⟩
      · intro errno
        cases errno <;> exact ⟨done, rfl⟩
  · exact ⟨[], rfl⟩

theorem follows_create_cleanup {descriptor : Option Nat} {path : CString} {result : StoreResult}
    (hpath : hand.path = some path) :
    Follows (conduct store none) (create_cleanup descriptor path result) hand
      fun _ _ => True := by
  have hend : Follows (conduct store none) (do
      let _ ← unlink path
      return result) hand fun _ _ => True :=
    follows_bind (follows_unlink hpath fun _ _ _ => trivial)
  unfold create_cleanup
  cases descriptor with
  | none => exact hend
  | some id => exact follows_bind (follows_plain (c := .close id) trivial fun _ => hend)

/-- What is published is complete. -/
theorem follows_create_artifact (fuel : Nat) {final_path : CString} {content : Bytes}
    (hpath : ¬Filled final_path)
    (hart : ∀ n : InstanceName, final_path = artifact_path store n.name → ArtifactOf n content) :
    Follows (conduct store none) (create_artifact fuel store' final_path content) hand
      fun _ _ => True := by
  apply follows_bind
  apply follows_mkstemp
  · intro descriptor path
    have hcleanup : ∀ {open_descriptor : Option Nat} {done : Bytes} {result : StoreResult},
        Follows (conduct store none) (create_cleanup open_descriptor path result)
          (.made path descriptor done) fun _ _ => True :=
      follows_create_cleanup rfl
    apply follows_bind
    apply follows_plain (c := .fchmod _) trivial
    intro r
    apply follows_unless hcleanup
    apply follows_bind
    apply follows_mono (follows_store_write_all fuel)
    rintro written _ ⟨done, rfl, hdone⟩
    apply follows_ite fun _ => hcleanup
    intro hwritten
    obtain rfl := hdone (by simpa using hwritten)
    apply follows_bind
    apply follows_plain (c := .fsync _) trivial
    intro r
    apply follows_unless hcleanup
    apply follows_bind
    apply follows_plain (c := .close _) trivial
    intro r
    apply follows_unless hcleanup
    apply follows_bind
    apply follows_link hpath hart
    · apply follows_bind
      apply follows_unlink rfl
      intro r hand' hown
      cases r with
      | none => exact trivial
      | some errno => exact follows_create_cleanup hown
    · exact fun errno => hcleanup
  · exact fun errno path => follows_create_cleanup rfl

theorem follows_publish_cleanup {descriptor : Option Nat} {path : CString} {success : Bool}
    (hpath : hand.path = some path) :
    Follows (conduct store none) (publish_cleanup descriptor path success) hand
      fun _ _ => True := by
  have hend : Follows (conduct store none) (do
      let _ ← unlink path
      return success) hand fun _ _ => True :=
    follows_bind (follows_unlink hpath fun _ _ _ => trivial)
  unfold publish_cleanup
  cases descriptor with
  | none => exact hend
  | some id => exact follows_bind (follows_plain (c := .close id) trivial fun _ => hend)

/-- A rule is no artifact, nor in the place of one. -/
theorem follows_publish_rule (fuel : Nat) {directory rules name : CString} {content : Bytes}
    {inject_failure : Bool} :
    Follows (conduct store none)
      (publish_rule fuel directory (rule_path rules name) content inject_failure) hand
      fun _ _ => True := by
  apply follows_bind_free makes_free_malloc
  intro r hand
  apply follows_unless ((follows_pure _).mpr trivial)
  apply follows_bind
  apply follows_mkstemp
  · intro descriptor path
    have hcleanup : ∀ {open_descriptor : Option Nat} {done : Bytes} {success : Bool},
        Follows (conduct store none) (publish_cleanup open_descriptor path success)
          (.made path descriptor done) fun _ _ => True :=
      follows_publish_cleanup rfl
    apply follows_bind
    apply follows_plain (c := .fchmod _) trivial
    intro r
    apply follows_unless hcleanup
    apply follows_bind
    apply follows_mono (follows_rule_write_all fuel)
    rintro written _ ⟨done, rfl⟩
    apply follows_unless hcleanup
    apply follows_bind
    apply follows_plain (c := .fsync _) trivial
    intro r
    apply follows_unless hcleanup
    apply follows_bind
    apply follows_plain (c := .close _) trivial
    intro r
    apply follows_unless hcleanup
    apply follows_ite fun _ => hcleanup
    intro _
    apply follows_bind
    apply follows_link (not_filled_rule rules name)
    · exact fun n heq => absurd heq.symm (artifact_path_ne_rule_path store rules n.name name)
    · exact follows_publish_cleanup rfl
    · exact fun errno => hcleanup
  · exact fun errno path => follows_publish_cleanup rfl

/-! ### Install -/

theorem follows_installed_instance_path (name : Option CString) :
    Follows (conduct store none) (installed_instance_path store' name) hand fun r _ =>
      ∀ path, r = .ok path → ∃ n : InstanceName, name = some n.name ∧
        path = artifact_path store' n.name := by
  have hfail : ∀ {result : StoreResult} {path},
      (Except.error result : Except StoreResult CString) = .ok path →
        ∃ n : InstanceName, name = some n.name ∧ path = artifact_path store' n.name := by
    intro result path h
    cases h
  unfold installed_instance_path
  split
  · rename_i name hvalid
    obtain ⟨n, hname⟩ : ∃ n : InstanceName, some name = some n.name := by
      rcases store_validate_name_cases (some name) with ⟨n, hn, -⟩ | ⟨hne, -⟩
      · exact ⟨n, hn⟩
      · exact absurd hvalid hne
    apply follows_bind_free makes_free_malloc
    intro r hand
    apply follows_unless
    · exact (follows_pure _).mpr fun _ => hfail
    · apply (follows_pure _).mpr
      rintro path ⟨⟩
      obtain rfl := Option.some.inj hname
      exact ⟨n, rfl, rfl⟩
  · exact (follows_pure _).mpr fun _ => hfail

/-- The part of a path after its last slash. -/
theorem filename_suffix {filename filename' path : Bytes} (h : slash :: filename <:+ path)
    (h' : slash :: filename' <:+ path) (hfree : slash ∉ filename) (hfree' : slash ∉ filename') :
    filename = filename' := by
  rcases List.suffix_or_suffix_of_suffix h h' with hsuffix | hsuffix
  · rcases List.suffix_cons_iff.mp hsuffix with heq | hinside
    · exact (List.cons.inj heq).2
    · exact absurd (hinside.subset (List.mem_cons_self ..)) hfree'
  · rcases List.suffix_cons_iff.mp hsuffix with heq | hinside
    · exact (List.cons.inj heq).2.symm
    · exact absurd (hinside.subset (List.mem_cons_self ..)) hfree

/-- Only one name has this artifact, in whatever store. -/
theorem name_of_artifact_path {n k : InstanceName}
    (h : artifact_path store' k.name = artifact_path store n.name) : k = n := by
  have hsuffix : ∀ (store : Store) (n : InstanceName),
      slash :: (n.name.bytes ++ ARTIFACT_SUFFIX.bytes) <:+ (artifact_path store n.name).bytes := by
    intro store n
    rw [artifact_path_eq]
    refine ⟨store.directory.bytes, ?_⟩
    simp [path_in, cstr, CString.of, ascii]
  have hfree : ∀ n : InstanceName, slash ∉ n.name.bytes ++ ARTIFACT_SUFFIX.bytes := by
    intro n
    rw [List.mem_append, not_or]
    exact ⟨n.not_mem not_name_byte_slash, by decide⟩
  apply InstanceName.ext_bytes
  apply List.append_cancel_right
  exact filename_suffix (hsuffix store' k) (h ▸ hsuffix store n) (hfree k) (hfree n)

theorem follows_installed_instance_create (fuel : Nat) {config : RunConfig}
    (hvalid : runtime_policy_is_valid config = true) :
    Follows (conduct store none) (installed_instance_create fuel store' config) hand
      fun _ _ => True := by
  unfold installed_instance_create
  split
  · exact (follows_pure _).mpr trivial
  rename_i source_path _
  apply follows_ite fun _ => (follows_pure _).mpr trivial
  intro hline
  apply follows_bind
  apply follows_mono (follows_installed_instance_path config.instance_name)
  intro r hand hr
  split
  · exact (follows_pure _).mpr trivial
  · exact (follows_pure _).mpr trivial
  rename_i path name hname
  obtain ⟨k, hk, rfl⟩ := hr path rfl
  obtain rfl : name = k.name := Option.some.inj (hname.symm.trans hk)
  apply follows_bind_free makes_free_malloc
  intro r hand
  apply follows_unless ((follows_pure _).mpr trivial)
  apply follows_bind_free makes_free_malloc
  intro r hand
  apply follows_unless ((follows_pure _).mpr trivial)
  apply follows_create_artifact fuel (not_filled_artifact store' k.name)
  intro n heq
  obtain rfl := name_of_artifact_path heq
  exact ⟨config, source_path, hvalid, hline, rfl⟩

theorem makes_free_roll_back (environment : ApplicationEnvironment) (name : Option CString) :
    (roll_back store' environment name).Makes (Free store) := by
  have hpath : (installed_instance_path store' name).Makes (Free store) := by
    unfold installed_instance_path
    split
    · exact makes_bind makes_free_malloc fun r => makes_ite (makes_pure _) (makes_pure _)
    · exact makes_pure _
  have hremove : (installed_instance_remove store' name).Makes (Free store) := by
    apply makes_free_of_removing
    apply removing_path
    · intro k hk
      apply uses_bind (uses_ask.mpr (.inr (.inl ⟨store', k, rfl⟩)))
      intro (r : Option Errno)
      split <;> trivial
    · exact fun result => trivial
  unfold roll_back
  -- what is said of the rollback goes by whether the artifact is gone
  refine makes_ite (makes_bind (makes_pure _) ?_) (makes_bind hremove ?_)
  all_goals
    intro removed
    apply makes_ite (makes_pure _)
    apply makes_bind hpath
    intro path
    split <;> exact makes_pure _

theorem follows_installation_plan_apply (fuel : Nat) (environment : ApplicationEnvironment)
    {plan : InstallationPlan} (hvalid : runtime_policy_is_valid plan.config = true) :
    Follows (conduct store none) (installation_plan_apply fuel store' environment plan) hand
      fun _ _ => True := by
  have hdone : ∀ {application : Application} {hand : Hand},
      Follows (conduct store none) (pure application) hand fun _ _ => True :=
    (follows_pure _).mpr trivial
  have hcreate := fun hand =>
    @follows_installed_instance_create store store' hand fuel plan.config hvalid
  unfold installation_plan_apply
  split
  case h_2 => exact hdone
  apply follows_ite fun _ => hdone
  intro _
  apply follows_ite
  · intro _
    apply follows_bind
    apply follows_mono (hcreate hand)
    exact fun result hand _ => follows_ite (fun _ => hdone) fun _ => hdone
  intro _
  split
  · exact hdone
  apply follows_bind_free makes_free_malloc
  intro r hand
  apply follows_unless hdone
  split
  · exact hdone
  apply follows_bind_free makes_free_malloc
  intro r hand
  apply follows_unless hdone
  apply follows_bind_free (makes_free_of_idle (uses_ask.mpr (idle_lstat _)))
  intro (r : Option Errno) hand
  split
  · apply follows_bind
    apply follows_mono (hcreate hand)
    intro result hand _
    apply follows_ite fun _ => hdone
    intro _
    apply follows_bind
    apply follows_mono (follows_publish_rule fuel)
    intro published hand _
    apply follows_ite fun _ => hdone
    exact fun _ => follows_of_makes (makes_free_roll_back environment _)
  · exact hdone

/-- A plan has a policy that a run accepts. -/
theorem follows_installation_plan_create (request : InstallationRequest) :
    Follows (conduct store none) (installation_plan_create store' request) hand fun r _ =>
      ∀ plan address, r = .ok (plan, address) → runtime_policy_is_valid plan.config = true := by
  have hfail : ∀ {result : PlanResult} {hand : Hand}, Follows (conduct store none)
      (pure (.error result) : Proc (Except PlanResult (InstallationPlan × Bytes))) hand fun r _ =>
        ∀ plan address, r = .ok (plan, address) → runtime_policy_is_valid plan.config = true := by
    intro result hand
    apply (follows_pure _).mpr
    intro plan address h
    cases h
  unfold installation_plan_create
  split
  case h_2 => exact hfail
  apply follows_ite fun _ => hfail
  intro _
  apply follows_ite fun _ => hfail
  intro _
  apply follows_ite fun _ => hfail
  intro hvalid
  apply follows_ite fun _ => hfail
  intro _
  apply follows_bind_free (makes_free_of_idle (uses_installed_instance_exists _))
  intro found hand
  split
  · exact hfail
  · exact hfail
  · exact hfail
  apply follows_bind_free makes_free_malloc
  intro r hand
  apply follows_unless hfail
  apply follows_bind_free (makes_free_instance_name_acquire _)
  intro acquired hand
  split
  · exact hfail
  apply follows_bind_free makes_free_malloc
  intro source_copied hand
  apply follows_bind_free makes_free_malloc
  intro name_copied hand
  apply follows_unless
  · exact follows_bind_free (makes_free_instance_name_release _) fun _ _ => hfail
  · apply (follows_pure _).mpr
    rintro plan address ⟨⟩
    simpa using hvalid

theorem makes_free_installation_plan_activate (plan : InstallationPlan) (source_path : CString)
    (ownership : Option Bytes) :
    (installation_plan_activate plan source_path ownership).Makes (Free store) := by
  have hcommand : ∀ arguments, (do return (← run_command arguments) = 0 : Proc Bool).Makes
      (Free store) := fun arguments => makes_free_of_idle (uses_command arguments)
  unfold installation_plan_activate
  split
  case h_2 => exact makes_pure _
  apply makes_ite (makes_pure _)
  refine makes_ite (makes_bind (makes_free_of_idle (uses_activate_rule _)) ?_)
    (makes_bind (makes_pure _) ?_)
  all_goals
    intro failure
    dsimp only
    split
    · exact makes_pure _
    split
    · exact makes_pure _
    apply makes_bind (hcommand _)
    intro enabled
    apply makes_ite (makes_pure _)
    apply makes_bind (makes_free_instance_name_release _)
    intro u
    apply makes_bind (hcommand _)
    intro started
    apply makes_ite (makes_pure _)
    apply makes_bind (makes_free_of_idle (uses_default_service_state _))
    exact fun state => makes_pure _

theorem follows_carry_out (fuel : Nat) (environment : ApplicationEnvironment)
    {plan : InstallationPlan} (hvalid : runtime_policy_is_valid plan.config = true)
    (source_path : CString) (address : Bytes) :
    Follows (conduct store none) (carry_out fuel store' environment plan source_path address) hand
      fun _ _ => True := by
  apply follows_bind
  apply follows_mono (follows_installation_plan_apply fuel environment hvalid)
  intro application hand _
  apply follows_of_makes
  apply makes_ite
  · exact makes_bind (makes_free_instance_name_release _) fun _ => makes_pure _
  · apply makes_bind (makes_free_installation_plan_activate ..)
    rintro ⟨result, ownership⟩
    exact makes_bind (makes_free_instance_name_release _) fun _ => makes_pure _

theorem follows_install_command (fuel : Nat) (environment : ApplicationEnvironment)
    (request : InstallationRequest) (assessment : Option Assessment) :
    Follows (conduct store none) (install_command fuel store' environment request assessment) hand
      fun _ _ => True := by
  have hgiven_up : ∀ {address hand}, Follows (conduct store none) (do
      instance_name_release (some address)
      return Exit.FAILURE) hand fun _ _ => True := by
    intro address hand
    apply follows_of_makes
    exact makes_bind (makes_free_instance_name_release _) fun _ => makes_pure _
  apply follows_bind
  apply follows_mono (follows_installation_plan_create request)
  intro created hand hcreated
  cases created with
  | error result => exact (follows_pure _).mpr trivial
  | ok created =>
    obtain ⟨plan, address⟩ := created
    have hvalid := hcreated plan address rfl
    dsimp only
    split
    · exact hgiven_up
    rename_i assessment
    apply follows_ite fun _ => hgiven_up
    intro _
    apply follows_carry_out
    -- the source that was chosen takes the place of the one that was given
    unfold runtime_policy_is_valid at hvalid ⊢
    simp only [decide_eq_true_eq] at hvalid ⊢
    exact ⟨rfl, hvalid.2⟩

theorem follows_install (fuel : Nat) (environment : InstallEnvironment) (argv : List CString) :
    Follows (conduct store none) (install_command_with_environment fuel environment argv) hand
      fun _ _ => True := by
  have hfailed : ∀ {hand}, Follows (conduct store none) (pure Exit.FAILURE) hand
      fun _ _ => True := (follows_pure _).mpr trivial
  unfold install_command_with_environment
  split
  · exact hfailed
  split
  · exact hfailed
  unfold install_options
  split
  · exact hfailed
  unfold install_source
  split
  · exact hfailed
  unfold install_request
  split
  · exact hfailed
  apply follows_bind_free makes_free_malloc
  intro r hand
  apply follows_unless hfailed
  apply follows_bind_free makes_free_malloc
  intro r hand
  apply follows_unless hfailed
  exact follows_install_command fuel ..

/-! ### Run and main -/

theorem makes_free_run_proxy (fuel : Nat) (environment : RunEnvironment) (argv : List CString) :
    (run_proxy fuel environment argv).Makes (Free store) := by
  have hcreate : ∀ config, (session_create config).Makes (Free store) := by
    intro config
    unfold session_create
    split
    · exact makes_pure _
    split
    case h_2 => exact makes_pure _
    apply makes_ite (makes_pure _)
    apply makes_bind makes_free_malloc
    intro r
    apply makes_ite (makes_pure _)
    apply makes_bind makes_free_malloc
    intro r
    apply makes_ite (makes_pure _)
    apply makes_bind makes_free_malloc
    intro r
    apply makes_ite (makes_pure _)
    apply makes_bind (makes_free_instance_name_acquire _)
    intro acquired
    split <;> exact makes_pure _
  have hsession : ∀ session, (run_of_session fuel environment session).Makes (Free store) := by
    intro session
    unfold run_of_session
    split <;> trivial
  unfold run_proxy
  split
  · exact makes_pure _
  apply makes_bind (hcreate _)
  intro created
  split
  · exact makes_pure _
  apply makes_ite (makes_bind (makes_free_instance_name_release _) fun _ => makes_pure _)
  apply makes_bind (hsession _)
  intro result
  exact makes_bind (makes_free_instance_name_release _) fun _ => makes_pure _

/-- Whatever the command. -/
theorem follows_main (fuel : Nat) (environment : MainEnvironment) (argv : List CString) :
    Follows (conduct store none) (main fuel environment argv) hand fun _ _ => True := by
  have hdone : ∀ exit : Exit, Follows (conduct store none) (pure exit) hand fun _ _ => True :=
    fun _ => (follows_pure _).mpr trivial
  have huninstall : ∀ program_name argument, Follows (conduct store none)
      (uninstall_command environment.uninstall program_name argument) hand fun _ _ => True :=
    fun _ _ => follows_of_makes (makes_free_of_removing (removing_uninstall_command ..))
  unfold main
  split
  case h_2 => exact hdone _
  split
  · exact hdone _
  split
  · exact hdone _
  split
  · exact hdone _
  split
  · apply follows_of_makes
    split
    · split
      · apply makes_bind (makes_free_of_idle ((uses_response_file_read ..).mono fun _ =>
          Reading.idle))
        intro argv
        split
        · exact makes_pure _
        · exact makes_free_run_proxy ..
      · exact makes_free_run_proxy ..
    · exact makes_free_run_proxy ..
  split
  · exact hdone _
  split
  · exact follows_install ..
  split
  · exact hdone _
  split
  · split
    · exact huninstall ..
    · exact huninstall ..
    · exact hdone _
  · exact hdone _

/-! ### Services -/

variable {n : InstanceName} {content : Bytes}

theorem serves_instance_name_release {Q : Unit → Hand → Prop} (ownership : Option Bytes)
    (h : ∀ u, Q u hand) :
    Follows (conduct store (some n)) (instance_name_release ownership) hand Q := by
  cases ownership with
  | none => exact h ()
  | some address =>
    exact follows_plain (c := .close_socket address) trivial h

theorem serves_read_lines (argc : Nat) (rest : List Bytes) :
    Follows (conduct store (some n)) (response_file_read_lines argc rest) hand
      fun r hand' => hand' = hand ∧ (r = none ∨ r = response_file_lines argc rest) := by
  have hnone : ∀ {there : Option (List CString)}, Follows (conduct store (some n))
      (pure none : Proc (Option (List CString))) hand
      fun r hand' => hand' = hand ∧ (r = none ∨ r = there) :=
    ⟨rfl, .inl rfl⟩
  induction rest generalizing argc with
  | nil =>
    apply follows_bind
    apply follows_plain (c := .getline) trivial
    intro r
    exact follows_unless hnone ⟨rfl, .inr rfl⟩
  | cons line rest ih =>
    unfold response_file_read_lines response_file_lines
    apply follows_bind
    apply follows_plain (c := .getline) trivial
    intro r
    apply follows_unless hnone
    split
    · exact hnone
    split
    · exact hnone
    apply follows_bind
    apply follows_plain (c := .malloc) trivial
    intro r
    apply follows_unless hnone
    apply follows_bind
    apply follows_plain (c := .malloc) trivial
    intro r
    apply follows_unless hnone
    apply follows_bind
    apply follows_mono (ih (argc + 1))
    rintro arguments _ ⟨rfl, rfl | rfl⟩
    · exact hnone
    · cases response_file_lines (argc + 1) rest with
      | none => exact hnone
      | some arguments => exact ⟨rfl, .inr rfl⟩

/-- What is read is what the hand has from then on. -/
theorem serves_response_file_read (program_name : CString) :
    Follows (conduct store (some n)) (response_file_read (artifact_path store n.name) program_name)
      hand fun r hand' => r = none ∨
        ∃ content, hand' = .read content ∧ r = response_file_argv program_name content := by
  unfold response_file_read
  apply follows_ite fun _ => (follows_pure _).mpr (.inl rfl)
  intro _
  apply follows_bind
  refine follows_ask (c := SystemCall.fopen _) ⟨.inr trivial, ?_⟩ fun r => ?_
  · rintro k ⟨⟩
    exact rfl
  cases (r : Except Errno Bytes) with
  | error errno => exact .inl rfl
  | ok content =>
    have hclosed : ∀ {hand : Hand}, Follows (conduct store (some n)) (do
        let _ ← fclose
        return none : Proc (Option (List CString))) hand fun r hand' => r = none ∨
          ∃ content, hand' = .read content ∧ r = response_file_argv program_name content :=
      follows_bind (follows_plain (c := .fclose) trivial fun _ => .inl rfl)
    change Follows (conduct store (some n)) _ (.read content) _
    apply follows_bind
    apply follows_plain (c := .malloc) trivial
    intro r
    apply follows_unless hclosed
    apply follows_bind
    apply follows_mono (serves_read_lines 2 (lines content))
    rintro arguments _ ⟨rfl, rfl | hread⟩
    · exact hclosed
    cases arguments with
    | none => exact hclosed
    | some arguments =>
      apply follows_bind
      apply follows_plain (c := .fclose) trivial
      intro r
      apply follows_unless ((follows_pure _).mpr (.inl rfl))
      refine .inr ⟨content, rfl, ?_⟩
      unfold response_file_argv
      rw [← hread]
      rfl

/-- A session is created under the name that was read. -/
theorem serves_session_create {config : RunConfig}
    (hname : ArtifactOf n content → config.instance_name = some n.name) :
    Follows (conduct store (some n)) (session_create (some config)) (.read content)
      fun _ _ => True := by
  have hfail : ∀ {result : Result} {hand : Hand}, Follows (conduct store (some n))
      (pure (.error result) : Proc (Except Result (SessionConfig × Bytes))) hand
      fun _ _ => True := (follows_pure _).mpr trivial
  unfold session_create
  dsimp only
  split
  case h_2 => exact hfail
  rename_i name _ hconfig
  apply follows_ite fun _ => hfail
  intro _
  apply follows_bind
  apply follows_plain (c := .malloc) trivial
  intro r
  apply follows_unless hfail
  apply follows_bind
  apply follows_plain (c := .malloc) trivial
  intro r
  apply follows_unless hfail
  apply follows_bind
  apply follows_plain (c := .malloc) trivial
  intro r
  apply follows_unless hfail
  apply follows_bind
  unfold instance_name_acquire
  cases haddress : instance_name_address (some name) with
  | error result => exact trivial
  | ok address =>
    have hown : ArtifactOf n content → address = n.address := by
      intro hcontent
      obtain rfl : name = n.name := Option.some.inj (hconfig.symm.trans (hname hcontent))
      exact Except.ok.inj (haddress.symm.trans n.instance_name_address_eq)
    apply follows_bind
    apply follows_plain (c := .malloc) trivial
    intro r
    apply follows_unless ((follows_pure _).mpr trivial)
    apply follows_bind
    apply follows_plain (c := .socket) trivial
    intro r
    apply follows_unless ((follows_pure _).mpr trivial)
    apply follows_bind
    refine follows_ask (c := SystemCall.bind address) ⟨.inr trivial, ?_⟩ fun bound => ?_
    · rintro k ⟨⟩
      exact ⟨content, rfl, hown⟩
    · cases (bound : Bound) <;> exact trivial

theorem serves_run_proxy (fuel : Nat) (environment : RunEnvironment) {program_name : CString}
    {argv : List CString} (hargv : response_file_argv program_name content = some argv) :
    Follows (conduct store (some n)) (run_proxy fuel environment argv) (.read content)
      fun _ _ => True := by
  unfold run_proxy
  cases hparse : parse_run_config argv with
  | error error => exact trivial
  | ok config =>
    have hname : ArtifactOf n content → config.instance_name = some n.name := by
      rintro ⟨written, source_path, hvalid, hline, rfl⟩
      unfold runtime_policy_is_valid at hvalid
      simp only [decide_eq_true_eq] at hvalid
      obtain ⟨argv', hargv', hparse'⟩ := response_file_round_trip program_name rfl hline
        hvalid.2.2.1 hvalid.2.2.2
      obtain rfl := Option.some.inj (hargv.symm.trans hargv')
      obtain rfl := Except.ok.inj (hparse.symm.trans hparse')
      rfl
    dsimp only
    apply follows_bind
    apply follows_mono (serves_session_create hname)
    intro created hand _
    cases created with
    | error result => exact trivial
    | ok created =>
      obtain ⟨session, address⟩ := created
      have hrelease : ∀ {exit : Exit} {hand : Hand}, Follows (conduct store (some n)) (do
          instance_name_release (some address)
          return exit) hand fun _ _ => True :=
        follows_bind (serves_instance_name_release _ fun _ => trivial)
      apply follows_unless hrelease
      unfold run_of_session
      cases (session_run fuel (World.start session environment.answers)).1 with
      | none => exact trivial
      | some result => exact hrelease

/-- The line of the unit of a name. -/
theorem serves_exec_start (fuel : Nat) (service : MainEnvironment) (program_name : CString) :
    Follows (conduct store (some n)) (exec_start fuel service program_name store n) hand
      fun _ _ => True := by
  unfold exec_start
  rw [main_response_file]
  apply follows_bind
  apply follows_mono (serves_response_file_read program_name)
  rintro r hand (rfl | ⟨content, rfl, hr⟩)
  · exact trivial
  · cases r with
    | none => exact trivial
    | some argv => exact serves_run_proxy fuel service.run hr.symm

end commands

end input_proxy
