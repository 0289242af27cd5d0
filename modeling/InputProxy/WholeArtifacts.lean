-- Any number of processes that run the program at once, whatever their commands and names,
-- in whatever order their calls come and whichever of them are killed: every artifact is
-- whole, stays as it is until it is removed, and the service of a name takes no other one.
import InputProxy.CommandConducts

open c_strings disks processes

namespace input_proxy

/-! ## What is known of the processes -/

/-- Whatever stands for an artifact of the store is one. -/
def WholeStore (store : Store) (m : Machine) : Prop :=
  ∀ (n : InstanceName) (node : Node), m.look (artifact_path store n.name) = some node →
    ∃ id, node = .file id ∧ ArtifactOf n (m.disk.files id).content

/-- The paths that `mkstemp` has come up with, whether it could make a file or not, and for whom. -/
def temporary_paths : List (Sight Nat Reply) → List (Nat × CString)
  | [] => []
  | .made pid (.mkstemp _) r :: trace => (pid, r.2) :: temporary_paths trace
  | _ :: trace => temporary_paths trace

/-- `mkstemp` has come up with no path twice. -/
def NoneTwice (trace : List (Sight Nat Reply)) : Prop :=
  ((temporary_paths trace).map Prod.snd).Nodup

/-- What the hand of a process says is true. -/
def Hand.Valid (store : Store) (role : Option InstanceName) (m : Machine)
    (paths : List (Nat × CString)) (pid : Nat) : Hand → Prop
  | .empty => True
  | .named path => (pid, path) ∈ paths
  | .made path id content => (pid, path) ∈ paths ∧ Filled path ∧ m.look path = some (.file id) ∧
      m.disk.files id = ⟨some pid, content⟩ ∧
      ∀ n : InstanceName, m.look (artifact_path store n.name) ≠ some (.file id)
  | .read content => ∀ n, role = some n → ArtifactOf n content

/-- The invariant of a system: the artifacts are whole, the hands are true, and the services have
no names but their own. -/
structure Trusted (store : Store) (roles : Nat → Option InstanceName) (hands : Nat → Hand)
    (m : Machine) (trace : List (Sight Nat Reply)) : Prop where
  whole : WholeStore store m
  hands : ∀ pid, Hand.Valid store (roles pid) m (temporary_paths trace) pid (hands pid)
  services : ∀ pid n, roles pid = some n → ∀ address, m.holder address = some pid →
    address = n.address

/-! ## One call -/

def SystemCall.changes_files : SystemCall → Bool
  | .mkstemp _ | .write _ _ | .link _ _ | .unlink _ => true
  | _ => false

/-- What a call of one process can do to the artifacts and to what others are about. -/
structure SparesOthers (store : Store) (paths : List (Nat × CString)) (pid : Nat) (m m' : Machine) :
    Prop where
  artifacts : ∀ n : InstanceName,
    m'.look (artifact_path store n.name) = m.look (artifact_path store n.name) ∨
    m'.look (artifact_path store n.name) = none ∨
    ∃ id, m.look (artifact_path store n.name) = none ∧
      m'.look (artifact_path store n.name) = some (.file id) ∧
      (m'.disk.files id).owner = some pid ∧ ArtifactOf n (m'.disk.files id).content
  published : ∀ (n : InstanceName) (id : Nat),
    m.look (artifact_path store n.name) = some (.file id) → m'.disk.files id = m.disk.files id
  files : ∀ id < m.disk.next, (m.disk.files id).owner ≠ some pid →
    m'.disk.files id = m.disk.files id
  temporary : ∀ pid' path id, pid' ≠ pid → (pid', path) ∈ paths → Filled path →
    m.look path = some (.file id) → m'.look path = some (.file id)

section calls

variable {store : Store} {role : Option InstanceName} {paths : List (Nat × CString)}
  {pid pid' : Nat} {hand : Hand} {choice : Choice} {c : SystemCall} {m m' : Machine}
  {trace : List (Sight Nat Reply)}

theorem SparesOthers.of_disk_eq (h : m'.disk = m.disk) : SparesOthers store paths pid m m' where
  artifacts n := .inl (congrArg (Disk.look · _) h)
  published n id _ := by rw [h]
  files id _ _ := by rw [h]
  temporary pid' path id _ _ _ hlook := (congrArg (Disk.look · path) h).trans hlook

theorem SparesOthers.whole (h : SparesOthers store paths pid m m') (hwhole : WholeStore store m) :
    WholeStore store m' := by
  intro n node hnode
  rcases h.artifacts n with heq | hnone | ⟨id, -, hnew, -, hcontent⟩
  · obtain ⟨id, rfl, hcontent⟩ := hwhole n node (heq.symm.trans hnode)
    rw [← h.published n id (heq.symm.trans hnode)] at hcontent
    exact ⟨id, rfl, hcontent⟩
  · rw [hnone] at hnode
    cases hnode
  · obtain rfl := Option.some.inj (hnew.symm.trans hnode)
    exact ⟨id, rfl, hcontent⟩

/-- The hands of the others stay true. -/
theorem SparesOthers.others (h : SparesOthers store paths pid m m') (hpid : pid' ≠ pid)
    {paths' : List (Nat × CString)} (hpaths : paths ⊆ paths')
    (hhand : Hand.Valid store role m paths pid' hand) :
    Hand.Valid store role m' paths' pid' hand := by
  cases hand with
  | empty => trivial
  | named path => exact hpaths hhand
  | made path id content =>
    obtain ⟨hmem, hfilled, hlook, hfile, hart⟩ := hhand
    have hsame : m'.disk.files id = m.disk.files id := by
      apply h.files id (Disk.look_lt hlook)
      simp [hfile, hpid]
    refine ⟨hpaths hmem, hfilled, h.temporary pid' path id hpid hmem hfilled hlook,
      hsame.trans hfile, fun n hpublished => ?_⟩
    rcases h.artifacts n with heq | hnone | ⟨id', -, hnew, howner, -⟩
    · exact hart n (heq.symm.trans hpublished)
    · rw [hnone] at hpublished
      cases hpublished
    · obtain rfl := Node.file.inj (Option.some.inj (hnew.symm.trans hpublished))
      rw [hsame, hfile] at howner
      exact hpid (Option.some.inj howner)
  | read content => exact hhand

theorem disk_answer (h : c.changes_files = false) : (answer pid choice c m).2.disk = m.disk := by
  cases c
  case mkstemp template => cases h
  case write id bytes => cases h
  case link path path' => cases h
  case unlink path => cases h
  all_goals
    simp only [answer]
    repeat' split
    all_goals rfl

theorem spares_mkstemp (template : CString) :
    SparesOthers store paths pid m (answer pid choice (.mkstemp template) m).2 := by
  simp only [answer]
  split
  · exact .of_disk_eq rfl
  split
  · exact .of_disk_eq rfl
  rename_i hfree
  have hne : ∀ name, artifact_path store name ≠ fill template choice.letters :=
    fun name => artifact_path_ne_fill store name template choice.letters
  refine ⟨fun n => .inl (Disk.look_create_ne (hne n.name)), fun n id hlook => ?_,
    fun id hid _ => Disk.files_create_ne (Nat.ne_of_lt hid), fun pid' path id _ _ _ hlook => ?_⟩
  · exact Disk.files_create_ne (Nat.ne_of_lt (Disk.look_lt hlook))
  · refine (Disk.look_create_ne ?_).trans hlook
    rintro rfl
    exact hfree (Option.isSome_of_eq_some hlook)

/-- The file that is written to is one's own, and no artifact. -/
theorem spares_write {id : Nat} {bytes : Bytes} {path : CString} {content : Bytes}
    (hhand : Hand.Valid store role m paths pid (.made path id content)) :
    SparesOthers store paths pid m (answer pid choice (.write id bytes) m).2 := by
  obtain ⟨-, -, hlook, hfile, hart⟩ := hhand
  simp only [answer]
  split
  · exact .of_disk_eq rfl
  refine ⟨fun n => .inl rfl, fun n id' hlook' => Disk.files_append_ne ?_,
    fun id' _ howner => Disk.files_append_ne ?_, fun _ _ _ _ _ _ hlook => hlook⟩
  · rintro rfl
    exact hart n hlook'
  · rintro rfl
    rw [hfile] at howner
    exact howner rfl

/-- What is published as an artifact is a whole one of one's own. -/
theorem spares_link {path path' : CString} {id : Nat} {content : Bytes}
    (hhand : Hand.Valid store role m paths pid (.made path id content)) (hpath : ¬Filled path')
    (hart : ∀ n : InstanceName, path' = artifact_path store n.name → ArtifactOf n content) :
    SparesOthers store paths pid m (answer pid choice (.link path path') m).2 := by
  obtain ⟨-, -, hlook, hfile, -⟩ := hhand
  simp only [answer]
  split
  · exact .of_disk_eq rfl
  split
  · exact .of_disk_eq rfl
  split
  · exact .of_disk_eq rfl
  rename_i hfree
  refine ⟨fun n => ?_, fun n id _ => by rw [Machine.disk_link, Disk.files_link],
    fun id _ _ => by rw [Machine.disk_link, Disk.files_link],
    fun pid' path'' id' _ _ hfilled hlook' => ?_⟩
  · by_cases heq : path' = artifact_path store n.name
    · refine .inr (.inr ⟨id, ?_, ?_, ?_, ?_⟩)
      · rw [← heq]
        simpa using hfree
      · rw [← heq]
        exact Disk.look_link_self hlook
      · rw [Machine.disk_link, Disk.files_link, hfile]
      · rw [Machine.disk_link, Disk.files_link, hfile]
        exact hart n heq
    · exact .inl (Disk.look_link_ne (Ne.symm heq))
  · refine (Disk.look_link_ne ?_).trans hlook'
    rintro rfl
    exact hpath hfilled

/-- A path that is removed is not one of another process. -/
theorem spares_unlink {path : CString}
    (hpath : Filled path → ∀ pid', (pid', path) ∈ paths → pid' = pid) :
    SparesOthers store paths pid m (answer pid choice (.unlink path) m).2 := by
  simp only [answer]
  split
  · exact .of_disk_eq rfl
  split
  · exact .of_disk_eq rfl
  refine ⟨fun n => ?_, fun _ _ _ => rfl, fun _ _ _ => rfl,
    fun pid' path' id hpid hmem hfilled hlook => (Disk.look_unlink_ne ?_).trans hlook⟩
  · by_cases heq : artifact_path store n.name = path
    · subst heq
      exact .inr (.inl Disk.look_unlink_self)
    · exact .inl (Disk.look_unlink_ne heq)
  · rintro rfl
    exact hpid (hpath hfilled pid' hmem)

theorem Hand.Valid.mem_of_path (h : Hand.Valid store role m paths pid hand) {path : CString}
    (hpath : hand.path = some path) : (pid, path) ∈ paths := by
  cases hand with
  | empty => cases hpath
  | named path' =>
    obtain rfl := Option.some.inj hpath
    exact h
  | made path' id content =>
    obtain rfl := Option.some.inj hpath
    exact h.1
  | read content => cases hpath

theorem spares_of_allows (hallows : (conduct store role).allows hand c)
    (hhand : Hand.Valid store role m paths pid hand)
    (hunique : ∀ path pid', (pid, path) ∈ paths → (pid', path) ∈ paths → pid' = pid) :
    SparesOthers store paths pid m (answer pid choice c m).2 := by
  rcases hallows.1 with hidle | hpermits
  · exact .of_disk_eq (hidle pid choice m).1
  cases c
  case mkstemp template => exact spares_mkstemp template
  case write id bytes =>
    obtain ⟨path, content, rfl⟩ := hpermits
    exact spares_write hhand
  case link path path' =>
    obtain ⟨hpath, id, content, rfl, hart⟩ := hpermits
    exact spares_link hhand hpath hart
  case unlink path =>
    apply spares_unlink
    intro hfilled pid' hmem
    rcases hpermits with hown | hnot
    · exact hunique path pid' (hhand.mem_of_path hown) hmem
    · exact absurd hfilled hnot
  all_goals exact .of_disk_eq (disk_answer rfl)

/-! ### The hand of the process -/

theorem Hand.Valid.of_disk_eq (h : Hand.Valid store role m paths pid hand)
    (hdisk : m'.disk = m.disk) {paths' : List (Nat × CString)} (hpaths : paths ⊆ paths') :
    Hand.Valid store role m' paths' pid hand := by
  cases hand with
  | empty => trivial
  | named path => exact hpaths h
  | made path id content =>
    obtain ⟨hmem, hfilled, hlook, hfile, hart⟩ := h
    have hsame : ∀ path, m'.look path = m.look path := fun path =>
      congrArg (Disk.look · path) hdisk
    refine ⟨hpaths hmem, hfilled, (hsame path).trans hlook, by rw [hdisk, hfile], fun n => ?_⟩
    rw [hsame]
    exact hart n
  | read content => exact h

theorem temporary_paths_made (hmkstemp : ∀ template, c ≠ .mkstemp template) {r : Reply c} :
    temporary_paths (.made pid c r :: trace) = temporary_paths trace := by
  cases c
  case mkstemp template => exact absurd rfl (hmkstemp template)
  all_goals rfl

theorem temporary_paths_sublist {sight : Sight Nat Reply} :
    (temporary_paths trace).Sublist (temporary_paths (sight :: trace)) := by
  cases sight with
  | gone pid => exact List.Sublist.refl _
  | made pid c r =>
    by_cases hmkstemp : ∃ template, c = .mkstemp template
    · obtain ⟨template, rfl⟩ := hmkstemp
      exact List.sublist_cons_self ..
    · rw [temporary_paths_made (not_exists.mp hmkstemp)]

/-- What is published or removed stays one's own to remove. -/
theorem Hand.Valid.published (h : Hand.Valid store role m paths pid hand) :
    Hand.Valid store role m' paths pid hand.published := by
  cases hand with
  | empty => trivial
  | named path => exact h
  | made path id content => exact h.1
  | read content => exact h

theorem valid_mkstemp (template : CString) :
    Hand.Valid store role (answer pid choice (.mkstemp template) m).2
      (temporary_paths (.made pid (.mkstemp template)
        (answer pid choice (.mkstemp template) m).1 :: trace)) pid
      (hand.after role (.mkstemp template) (answer pid choice (.mkstemp template) m).1) := by
  simp only [answer]
  split
  · exact List.mem_cons_self ..
  split
  · exact List.mem_cons_self ..
  refine ⟨List.mem_cons_self .., ⟨template, choice.letters, rfl⟩, Disk.look_create_self,
    Disk.files_create_next, fun n hlook => ?_⟩
  -- a new file has the number of no file that is there
  have hold : m.look (artifact_path store n.name) = some (.file m.disk.next) :=
    (Disk.look_create_ne (artifact_path_ne_fill store n.name template choice.letters)).symm.trans
      hlook
  exact absurd (Disk.look_lt hold) (Nat.lt_irrefl _)

theorem valid_write (id : Nat) (bytes : Bytes) (h : Hand.Valid store role m paths pid hand) :
    Hand.Valid store role (answer pid choice (.write id bytes) m).2 paths pid
      (hand.after role (.write id bytes) (answer pid choice (.write id bytes) m).1) := by
  simp only [answer]
  split
  · exact h
  cases hand with
  | empty => trivial
  | named path => exact h
  | made path id' content =>
    obtain ⟨hmem, hfilled, hlook, hfile, hart⟩ := h
    simp only [Hand.after, Hand.written]
    split
    · rename_i heq
      subst heq
      refine ⟨hmem, hfilled, hlook, ?_, hart⟩
      rw [Machine.disk_append, Disk.files_append_self, hfile]
    · rename_i hne
      exact ⟨hmem, hfilled, hlook, (Disk.files_append_ne hne).trans hfile, hart⟩
  | read content => exact h

theorem valid_link (path path' : CString) (h : Hand.Valid store role m paths pid hand) :
    Hand.Valid store role (answer pid choice (.link path path') m).2 paths pid
      (hand.after role (.link path path') (answer pid choice (.link path path') m).1) := by
  simp only [answer]
  split
  · exact h
  split
  · exact h
  split
  · exact h
  · exact h.published

theorem valid_unlink (path : CString) (h : Hand.Valid store role m paths pid hand) :
    Hand.Valid store role (answer pid choice (.unlink path) m).2 paths pid
      (hand.after role (.unlink path) (answer pid choice (.unlink path) m).1) := by
  simp only [answer]
  split
  · exact h
  split
  · exact h
  cases hand with
  | empty => trivial
  | named path' => exact h
  | made path' id content =>
    obtain ⟨hmem, hfilled, hlook, hfile, hart⟩ := h
    simp only [Hand.after, Hand.removed]
    split
    · exact hmem
    · rename_i hne
      refine ⟨hmem, hfilled, (Disk.look_unlink_ne hne).trans hlook, hfile, fun n hlook' => ?_⟩
      by_cases heq : artifact_path store n.name = path
      · subst heq
        have hgone := Disk.look_unlink_self.symm.trans hlook'
        cases hgone
      · exact hart n ((Disk.look_unlink_ne heq).symm.trans hlook')
  | read content => exact h

/-- Whoever reads an artifact, reads a whole one. -/
theorem valid_fopen {path : CString} (hwhole : WholeStore store m)
    (hserves : ∀ n, role = some n → path = artifact_path store n.name)
    (h : Hand.Valid store role m paths pid hand) :
    Hand.Valid store role (answer pid choice (.fopen path) m).2 paths pid
      (hand.after role (.fopen path) (answer pid choice (.fopen path) m).1) := by
  cases hrole : role with
  | none =>
    rw [hrole] at h
    have hsame : hand.after none (.fopen path) (answer pid choice (.fopen path) m).1 = hand := by
      unfold Hand.after
      dsimp only
      split <;> rfl
    rw [hsame]
    exact h
  | some n =>
    rw [hrole] at h
    obtain rfl := hserves n hrole
    simp only [answer]
    split
    · exact h
    · exact h
    · rename_i id _ hlook
      rintro k ⟨⟩
      obtain ⟨id', hid, hcontent⟩ := hwhole n _ hlook
      obtain rfl := Node.file.inj hid
      exact hcontent
    · rename_i hlook
      obtain ⟨id, hid, -⟩ := hwhole n _ hlook
      cases hid

theorem valid_after (hallows : (conduct store role).allows hand c) (hwhole : WholeStore store m)
    (h : Hand.Valid store role m (temporary_paths trace) pid hand) :
    Hand.Valid store role (answer pid choice c m).2
      (temporary_paths (.made pid c (answer pid choice c m).1 :: trace)) pid
      (hand.after role c (answer pid choice c m).1) := by
  cases c
  case mkstemp template => exact valid_mkstemp template
  case write id bytes => exact valid_write id bytes h
  case link path path' => exact valid_link path path' h
  case unlink path => exact valid_unlink path h
  case fopen path => exact valid_fopen hwhole hallows.2 h
  all_goals exact h.of_disk_eq (disk_answer rfl) temporary_paths_sublist.subset

/-- A name is held by its binder. -/
theorem holder_answer {address : Bytes} {pid' : Nat}
    (h : (answer pid choice c m).2.holder address = some pid') :
    m.holder address = some pid' ∨ (pid' = pid ∧ c = .bind address) := by
  by_cases hbind : ∃ bound, c = .bind bound
  · obtain ⟨bound, rfl⟩ := hbind
    revert h
    simp only [answer]
    split
    · exact .inl
    split
    · exact .inl
    · intro h
      by_cases haddress : address = bound
      · subst haddress
        exact .inr ⟨(Option.some.inj ((AList.lookup_insert _).symm.trans h)).symm, rfl⟩
      · exact .inl ((AList.lookup_insert_ne haddress).symm.trans h)
  by_cases hclose : ∃ closed, c = .close_socket closed
  · obtain ⟨closed, rfl⟩ := hclose
    revert h
    simp only [answer]
    split
    · intro h
      by_cases haddress : address = closed
      · subst haddress
        have hgone := (AList.lookup_erase ..).symm.trans h
        cases hgone
      · exact .inl ((AList.lookup_erase_ne haddress).symm.trans h)
    · exact .inl
  · rw [not_exists] at hbind hclose
    rw [Machine.holder, sockets_answer hbind hclose] at h
    exact .inl h

end calls

/-! ## The system -/

/-- A process that is started by the unit of a name. -/
def ServiceOf (store : Store) (n : InstanceName) (invocation : Invocation) : Prop :=
  ∃ program_name, invocation.argv = [program_name, RUN, cstr "@" ++ artifact_path store n.name]

/-- The services that are counted on are there. -/
def Assigned (store : Store) (invocations : Nat → Option Invocation)
    (roles : Nat → Option InstanceName) : Prop :=
  ∀ pid n, roles pid = some n →
    ∃ invocation, invocations pid = some invocation ∧ ServiceOf store n invocation

/-- Every artifact is whole, and stays as it is as long as it is there; and a service has no name
but that of its unit. -/
structure Dependable (store : Store) (invocations : Nat → Option Invocation)
    (s : System Nat Reply Exit Machine) : Prop where
  whole : ∀ n : InstanceName, s.state.look (artifact_path store n.name) = none ∨
    ∃ content, s.state.content (artifact_path store n.name) = some content ∧ ArtifactOf n content
  stays : ∀ (n : InstanceName) (event : Event Nat Choice),
    SameAt s.state (System.fire answer Machine.leave s event).state
        (artifact_path store n.name) ∨
      (System.fire answer Machine.leave s event).state.look (artifact_path store n.name) = none ∨
      s.state.look (artifact_path store n.name) = none
  own_name : ∀ pid n invocation, invocations pid = some invocation →
    ServiceOf store n invocation → ∀ address, s.state.holder address = some pid →
      address = n.address

section system

variable {store : Store} {roles : Nat → Option InstanceName} {hands : Nat → Hand} {m : Machine}
  {trace : List (Sight Nat Reply)} {invocations : Nat → Option Invocation}
  {s : System Nat Reply Exit Machine}

theorem NoneTwice.of_cons {sight : Sight Nat Reply} (h : NoneTwice (sight :: trace)) :
    NoneTwice trace :=
  h.sublist (temporary_paths_sublist.map _)

theorem NoneTwice.unique (h : NoneTwice trace) {pid : Nat} (path : CString) (pid' : Nat)
    (hpath : (pid, path) ∈ temporary_paths trace) (hpath' : (pid', path) ∈ temporary_paths trace) :
    pid' = pid :=
  congrArg Prod.fst (List.inj_on_of_nodup_map h hpath' hpath rfl)

theorem Trusted.spares (h : Trusted store roles hands m trace) (htwice : NoneTwice trace)
    {pid : Nat} {choice : Choice} {c : SystemCall}
    (hallows : (conduct store (roles pid)).allows (hands pid) c) :
    SparesOthers store (temporary_paths trace) pid m (answer pid choice c m).2 :=
  spares_of_allows hallows (h.hands pid) htwice.unique

theorem Trusted.call (h : Trusted store roles hands m trace) (htwice : NoneTwice trace)
    {pid : Nat} {choice : Choice} {c : SystemCall}
    (hallows : (conduct store (roles pid)).allows (hands pid) c) :
    Trusted store roles
      (Function.update hands pid
        ((conduct store (roles pid)).after (hands pid) c (answer pid choice c m).1))
      (answer pid choice c m).2 (.made pid c (answer pid choice c m).1 :: trace) where
  whole := (h.spares htwice hallows).whole h.whole
  hands pid' := by
    by_cases hpid : pid' = pid
    · subst hpid
      rw [Function.update_self]
      exact valid_after hallows h.whole (h.hands pid')
    · rw [Function.update_of_ne hpid]
      exact (h.spares htwice hallows).others hpid temporary_paths_sublist.subset (h.hands pid')
  services pid' n hrole address hheld := by
    rcases holder_answer hheld with hbefore | ⟨rfl, rfl⟩
    · exact h.services pid' n hrole address hbefore
    · -- the service of a name binds what it has read, and that was a whole artifact
      obtain ⟨content, hread, hown⟩ := hallows.2 n hrole
      have hvalid := h.hands pid'
      rw [hread] at hvalid
      exact hown (hvalid n hrole)

theorem Trusted.leave (h : Trusted store roles hands m trace) (pid : Nat) :
    Trusted store roles hands (m.leave pid) (.gone pid :: trace) where
  whole := h.whole
  hands pid' := (h.hands pid').of_disk_eq rfl (List.Subset.refl _)
  services pid' n hrole address hheld :=
    h.services pid' n hrole address (Machine.holder_leave.mp hheld).1

theorem orderly_started (hassigned : Assigned store invocations roles) (m : Machine) :
    System.Orderly (fun pid => conduct store (roles pid)) (fun _ => .empty)
      (started invocations m) := by
  intro pid p hp
  obtain ⟨invocation, hinvocation, rfl⟩ := Option.map_eq_some_iff.mp hp
  dsimp only
  cases hrole : roles pid with
  | none => exact follows_main ..
  | some n =>
    obtain ⟨invocation', hsame, program_name, hargv⟩ := hassigned pid n hrole
    obtain rfl := Option.some.inj (hinvocation.symm.trans hsame)
    unfold Invocation.program
    rw [hargv]
    exact serves_exec_start ..

theorem Trusted.run (hassigned : Assigned store invocations roles) (hwhole : WholeStore store m)
    (hfree : ∀ pid, (invocations pid).isSome → ∀ address, m.holder address ≠ some pid)
    (events : List (Event Nat Choice))
    (htwice : NoneTwice (System.run answer Machine.leave events (started invocations m)).trace) :
    ∃ hands, System.Orderly (fun pid => conduct store (roles pid)) hands
        (System.run answer Machine.leave events (started invocations m)) ∧
      Trusted store roles hands
        (System.run answer Machine.leave events (started invocations m)).state
        (System.run answer Machine.leave events (started invocations m)).trace := by
  have hseen : ∀ sight trace, NoneTwice (sight :: trace) → NoneTwice trace :=
    fun _ _ h => h.of_cons
  refine System.Orderly.run hseen ?_ (fun _ _ _ pid h => h.leave pid)
    (orderly_started hassigned m) ?_ events htwice
  · exact fun _ _ _ _ _ _ hallows h hseen => h.call hseen.of_cons hallows
  · refine ⟨hwhole, fun pid => trivial, fun pid n hrole address hheld => ?_⟩
    obtain ⟨invocation, hinvocation, -⟩ := hassigned pid n hrole
    exact absurd hheld (hfree pid (Option.isSome_of_eq_some hinvocation) address)

theorem stays_of_spares {paths : List (Nat × CString)} {pid : Nat} {m' : Machine}
    (h : SparesOthers store paths pid m m') (n : InstanceName) :
    SameAt m m' (artifact_path store n.name) ∨
      m'.look (artifact_path store n.name) = none ∨
      m.look (artifact_path store n.name) = none := by
  rcases h.artifacts n with heq | hnone | ⟨_, hnone, -⟩
  · refine .inl ⟨heq, ?_⟩
    unfold Machine.content
    rw [heq]
    split
    · rename_i id hid
      rw [h.published n id hid]
    · rfl
  · exact .inr (.inl hnone)
  · exact .inr (.inr hnone)

/-- However many processes run the program, with whatever commands and names, in whatever order
their calls come and whichever of them are killed, if only `mkstemp` comes up with no path twice. -/
theorem every_artifact_is_whole (hwhole : WholeStore store m)
    (hfree : ∀ pid, (invocations pid).isSome → ∀ address, m.holder address ≠ some pid)
    (events : List (Event Nat Choice))
    (htwice : NoneTwice (System.run answer Machine.leave events (started invocations m)).trace) :
    Dependable store invocations
      (System.run answer Machine.leave events (started invocations m)) := by
  have hnobody : Assigned store invocations fun _ => none := by
    rintro pid n ⟨⟩
  obtain ⟨hands, horderly, htrusted⟩ := Trusted.run hnobody hwhole hfree events htwice
  refine ⟨fun n => ?_, fun n event => ?_, fun pid n invocation hinvocation hservice => ?_⟩
  · cases hlook : (System.run answer Machine.leave events (started invocations m)).state.look
        (artifact_path store n.name) with
    | none => exact .inl rfl
    | some node =>
      obtain ⟨id, rfl, hcontent⟩ := htrusted.whole n node hlook
      refine .inr ⟨_, ?_, hcontent⟩
      unfold Machine.content
      rw [hlook]
  · rcases System.fire_cases answer Machine.leave
        (System.run answer Machine.leave events (started invocations m)) event with heq |
      ⟨pid, choice, c, next, -, htask, heq⟩ | ⟨pid, -, -, heq⟩
    · rw [heq]
      exact .inl ⟨rfl, rfl⟩
    · rw [heq]
      exact stays_of_spares (htrusted.spares htwice (horderly.allows htask)) n
    · rw [heq]
      exact .inl ⟨rfl, rfl⟩
  · have hassigned : Assigned store invocations fun pid' =>
        if pid' = pid then some n else none := by
      intro pid' n' hrole
      dsimp only at hrole
      split at hrole
      · rename_i hpid
        subst hpid
        obtain rfl := Option.some.inj hrole
        exact ⟨invocation, hinvocation, hservice⟩
      · cases hrole
    obtain ⟨_, -, htrusted⟩ := Trusted.run hassigned hwhole hfree events htwice
    exact htrusted.services pid n (if_pos rfl)

end system

/-- Installs of three names. -/
def three_installs (pid : Nat) : Option Invocation :=
  [desk.name, mouse.name, cstr "pad"][pid]?.map fun name =>
    ⟨2, { keyboard_environment with install := desk_install },
      [cstr "input-proxy", cstr "install", cstr "--source", keyboard_node, cstr "--name", name,
        cstr "--use-preferred-run-source", cstr "yes"]⟩

/-- With one path for all of them, the second install, for which no file could be made, removes
that of the first one, which then publishes what the third one has begun to write. -/
example :
    let fails : Choice := { running with fault := some .other }
    let slow : Choice := { running with taken := 5 }
    let events := List.replicate 14 (Event.step 0 running) ++
      List.replicate 13 (.step 1 running) ++ [.step 1 fails, .step 1 running] ++
      List.replicate 16 (.step 2 slow) ++ List.replicate 5 (.step 0 running)
    (System.run answer Machine.leave events (started three_installs empty_machine)).state.content
      (artifact_path etc_store desk.name) = some (ascii "--sou") := by
  decide +kernel

/-- An install of the desk, and the service of the desk. -/
def desk_processes : Nat → Option Invocation
  | 0 => some ⟨2, { keyboard_environment with install := desk_install }, desk_arguments⟩
  | 1 => some ⟨2, keyboard_environment,
      [cstr "input-proxy", RUN, cstr "@" ++ artifact_path etc_store desk.name]⟩
  | _ => none

/-- The service reserves the name that the install has given up. -/
theorem a_service_takes_its_name_over :
    let s := System.run answer Machine.leave
      (List.replicate 22 (.step 0 running) ++ List.replicate 52 (.step 1 calm))
      (started desk_processes empty_machine)
    Dependable etc_store desk_processes s ∧ s.state.holder desk.address = some 1 := by
  intro s
  refine ⟨every_artifact_is_whole ?_ ?_ _ ?_, by decide +kernel⟩
  · intro n node hlook
    cases hlook
  · intro pid _ address hheld
    cases hheld
  · unfold NoneTwice
    decide +kernel

end input_proxy
