-- What a process relies on that installs a name beside others, and what it
-- guarantees to them: while it has the name, the artifact is its own to remove.
-- An uninstall relies on nothing.
import InputProxy.InstallCommand
import InputProxy.RuleArtifacts
import InputProxy.Systems

open c_strings disks processes

namespace input_proxy

/-! ## What a process relies on, and what it guarantees -/

/-- While a process has the name, others leave its files, the temporary files of the store and
its sockets alone; they may remove the artifact, not make one. -/
structure Rely (store : Store) (n : InstanceName) (pid : Nat) (m m' : Machine) : Prop where
  held : m.holder n.address = some pid → m'.holder n.address = some pid
  temporary : m.holder n.address = some pid → ∀ path, Temporary store path →
    m'.look path = m.look path
  artifact : m.holder n.address = some pid →
    m'.look (artifact_path store n.name) = m.look (artifact_path store n.name) ∨
      m'.look (artifact_path store n.name) = none
  owned : ∀ id < m.disk.next, (m.disk.files id).owner = some pid →
    m'.disk.files id = m.disk.files id
  next : m.disk.next ≤ m'.disk.next

/-- An install changes paths with the name reserved only, leaves the files of others and what is
an artifact alone, makes an artifact of its own where there is none, and removes its own only. -/
structure Installs (store : Store) (n : InstanceName) (pid : Nat) (m m' : Machine) : Prop where
  paths : m.holder n.address ≠ some pid → ∀ path, m'.look path = m.look path
  artifact : m'.look (artifact_path store n.name) = m.look (artifact_path store n.name) ∨
    m.look (artifact_path store n.name) = none ∨
    ∃ id, m.look (artifact_path store n.name) = some (.file id) ∧
      (m.disk.files id).owner = some pid ∧ m'.look (artifact_path store n.name) = none
  made : m.look (artifact_path store n.name) = none → ∀ node,
    m'.look (artifact_path store n.name) = some node →
      ∃ id, node = .file id ∧ (m'.disk.files id).owner = some pid
  owners : ∀ id < m.disk.next, (m'.disk.files id).owner = (m.disk.files id).owner
  files : ∀ id < m.disk.next, (m.disk.files id).owner ≠ some pid ∨
    m.look (artifact_path store n.name) = some (.file id) → m'.disk.files id = m.disk.files id
  next : m.disk.next ≤ m'.disk.next
  others : ∀ pid' ≠ pid, m.holder n.address = some pid' → m'.holder n.address = some pid'

/-- An uninstall, of whichever name, removes artifacts and rules, if anything. -/
structure Uninstalls (m m' : Machine) : Prop where
  paths : ∀ path, (∀ store name, path ≠ artifact_path store name) →
    (∀ rules name, path ≠ rule_path rules name) → m'.look path = m.look path
  removed : ∀ path, m'.look path = m.look path ∨ m'.look path = none
  files : m'.disk.files = m.disk.files
  next : m'.disk.next = m.disk.next
  sockets : m'.sockets = m.sockets

section relations

variable {store : Store} {n : InstanceName} {pid pid' : Nat} {m m' m'' : Machine}

theorem Rely.refl : Rely store n pid m m :=
  ⟨fun h => h, fun _ _ _ => rfl, fun _ => .inl rfl, fun _ _ _ => rfl, Nat.le_refl _⟩

theorem Rely.trans (h : Rely store n pid m m') (h' : Rely store n pid m' m'') :
    Rely store n pid m m'' where
  held hm := h'.held (h.held hm)
  temporary hm path hp := (h'.temporary (h.held hm) path hp).trans (h.temporary hm path hp)
  artifact hm := by
    rcases h'.artifact (h.held hm) with heq | hnone
    · rw [heq]
      exact h.artifact hm
    · exact .inr hnone
  owned id hid ho := by
    have heq := h.owned id hid ho
    exact (h'.owned id (Nat.lt_of_lt_of_le hid h.next) (heq ▸ ho)).trans heq
  next := Nat.le_trans h.next h'.next

/-- What an install does is nothing that another process has to fear. -/
theorem Installs.rely (h : Installs store n pid m m') (hpid : pid ≠ pid') :
    Rely store n pid' m m' := by
  have hpaths : m.holder n.address = some pid' → ∀ path, m'.look path = m.look path :=
    fun hm => h.paths (by simp [hm, hpid.symm])
  refine ⟨h.others pid' hpid.symm, fun hm path _ => hpaths hm path, fun hm => .inl (hpaths hm _),
    fun id hid ho => h.files id hid (.inl ?_), h.next⟩
  simp [ho, hpid.symm]

theorem Uninstalls.rely (h : Uninstalls m m') : Rely store n pid' m m' where
  held hm := by rwa [Machine.holder, h.sockets]
  temporary _ path hp := by
    obtain ⟨letters, rfl⟩ := hp
    exact h.paths _ (fun store' name => (artifact_path_ne_fill store' name _ letters).symm)
      fun rules name => (rule_path_ne_fill rules name _ letters).symm
  artifact _ := h.removed _
  owned id _ _ := by rw [h.files]
  next := Nat.le_of_eq h.next.symm

/-- The sockets of a process that is gone are its own. -/
theorem Rely.leave (hpid : pid ≠ pid') : Rely store n pid' m (m.leave pid) where
  held hm := Machine.holder_leave.mpr ⟨hm, hpid.symm⟩
  temporary _ _ _ := rfl
  artifact _ := .inl rfl
  owned _ _ _ := rfl
  next := Nat.le_refl _

end relations

/-! ## What an install knows while it has the name -/

section installs

open Process

variable {α : Type} {store : Store} {rules : CString} {n : InstanceName} {pid : Nat}
  {m m' : Machine}

/-- The guarantee of an install, for a program of it. -/
def Keeps (store : Store) (n : InstanceName) (pid : Nat) (p : Proc α) (Q : α → Machine → Prop)
    (m : Machine) : Prop :=
  rg (answer pid) (Rely store n pid) (Installs store n pid) p Q m

/-- A step that is not about the artifact. -/
structure Aside (store : Store) (n : InstanceName) (pid : Nat) (m m' : Machine) : Prop where
  artifact : m'.look (artifact_path store n.name) = m.look (artifact_path store n.name)
  owners : ∀ id < m.disk.next, (m'.disk.files id).owner = (m.disk.files id).owner
  files : ∀ id < m.disk.next, (m.disk.files id).owner ≠ some pid ∨
    m.look (artifact_path store n.name) = some (.file id) → m'.disk.files id = m.disk.files id
  next : m.disk.next ≤ m'.disk.next
  sockets : m'.sockets = m.sockets

/-- The process has the name. -/
def Held (n : InstanceName) (pid : Nat) (m : Machine) : Prop := m.holder n.address = some pid

/-- The process has the name, and what is there for an artifact is its own. -/
def OwnArtifact (store : Store) (n : InstanceName) (pid : Nat) (m : Machine) : Prop :=
  Held n pid m ∧ ∀ node, m.look (artifact_path store n.name) = some node →
    ∃ id, node = .file id ∧ (m.disk.files id).owner = some pid

/-- The process has the name, and a file of its own that is not the artifact. -/
def OwnFile (store : Store) (n : InstanceName) (pid id : Nat) (m : Machine) : Prop :=
  Held n pid m ∧ id < m.disk.next ∧ (m.disk.files id).owner = some pid ∧
    m.look (artifact_path store n.name) ≠ some (.file id)

/-- The file is there to be linked. -/
def Linkable (store : Store) (n : InstanceName) (pid : Nat) (path : CString) (id : Nat)
    (m : Machine) : Prop :=
  OwnFile store n pid id m ∧ m.look path = some (.file id)

/-- Others leave it as it is, and so do one's own steps that change no path. -/
structure Stable (store : Store) (n : InstanceName) (pid : Nat) (P : Machine → Prop) : Prop where
  held : ∀ {m}, P m → Held n pid m
  rely : ∀ {m m'}, Rely store n pid m m' → P m → P m'
  still : ∀ {m m'}, Aside store n pid m m' → (∀ path, m'.look path = m.look path) → P m → P m'

/-- And so do all steps that are not about the artifact. -/
structure Robust (store : Store) (n : InstanceName) (pid : Nat) (P : Machine → Prop) : Prop
    extends Stable store n pid P where
  aside : ∀ {m m'}, Aside store n pid m m' → P m → P m'

theorem Aside.installs (h : Aside store n pid m m') (hm : Held n pid m) :
    Installs store n pid m m' where
  paths hno := absurd hm hno
  artifact := .inl h.artifact
  made hnone node hnode := by simp [h.artifact, hnone] at hnode
  owners := h.owners
  files := h.files
  next := h.next
  others _ hpid hm' := absurd (Option.some.inj (hm'.symm.trans hm)) hpid

theorem Aside.held (h : Aside store n pid m m') (hm : Held n pid m) : Held n pid m' := by
  rwa [Held, Machine.holder, h.sockets]

theorem robust_held : Robust store n pid (Held n pid) where
  held h := h
  rely hr h := hr.held h
  still ha _ h := ha.held h
  aside ha h := ha.held h

theorem OwnArtifact.aside (ha : Aside store n pid m m') (h : OwnArtifact store n pid m) :
    OwnArtifact store n pid m' := by
  refine ⟨ha.held h.1, fun node hnode => ?_⟩
  rw [ha.artifact] at hnode
  obtain ⟨id, rfl, ho⟩ := h.2 node hnode
  exact ⟨id, rfl, by rw [ha.owners id (Disk.look_lt hnode), ho]⟩

theorem robust_own_artifact : Robust store n pid (OwnArtifact store n pid) where
  held h := h.1
  rely {m m'} hr h := by
    refine ⟨hr.held h.1, fun node hnode => ?_⟩
    rcases hr.artifact h.1 with heq | hnone
    · rw [heq] at hnode
      obtain ⟨id, rfl, ho⟩ := h.2 node hnode
      exact ⟨id, rfl, by rw [hr.owned id (Disk.look_lt hnode) ho, ho]⟩
    · simp [hnone] at hnode
  still ha _ h := h.aside ha
  aside ha h := h.aside ha

theorem OwnFile.rely {id : Nat} (hr : Rely store n pid m m') (h : OwnFile store n pid id m) :
    OwnFile store n pid id m' := by
  obtain ⟨hm, hid, ho, hne⟩ := h
  refine ⟨hr.held hm, Nat.lt_of_lt_of_le hid hr.next, by rw [hr.owned id hid ho, ho], ?_⟩
  rcases hr.artifact hm with heq | hnone
  · rwa [heq]
  · simp [hnone]

theorem OwnFile.aside {id : Nat} (ha : Aside store n pid m m') (h : OwnFile store n pid id m) :
    OwnFile store n pid id m' := by
  obtain ⟨hm, hid, ho, hne⟩ := h
  exact ⟨ha.held hm, Nat.lt_of_lt_of_le hid ha.next, by rw [ha.owners id hid, ho],
    by rwa [ha.artifact]⟩

theorem stable_linkable {path : CString} {id : Nat} (hpath : Temporary store path) :
    Stable store n pid (Linkable store n pid path id) where
  held h := h.1.1
  rely hr h := ⟨h.1.rely hr, (hr.temporary h.1.1 path hpath).trans h.2⟩
  still ha hp h := ⟨h.1.aside ha, (hp path).trans h.2⟩

theorem Stable.own_file {P : Machine → Prop} {id : Nat} (h : Stable store n pid P) :
    Stable store n pid (fun m => P m ∧ OwnFile store n pid id m) where
  held hm := h.held hm.1
  rely hr hm := ⟨h.rely hr hm.1, hm.2.rely hr⟩
  still ha hp hm := ⟨h.still ha hp hm.1, hm.2.aside ha⟩

/-! ### Steps aside -/

theorem Aside.of_same (hdisk : m'.disk = m.disk) (hsockets : m'.sockets = m.sockets) :
    Aside store n pid m m' where
  artifact := congrArg (Disk.look · _) hdisk
  owners id _ := by rw [hdisk]
  files id _ _ := by rw [hdisk]
  next := Nat.le_of_eq (congrArg Disk.next hdisk.symm)
  sockets := hsockets

theorem Aside.create {path : CString} (h : path ≠ artifact_path store n.name) :
    Aside store n pid m (m.create path pid) where
  artifact := Disk.look_create_ne h.symm
  owners id hid := by rw [Machine.disk_create, Disk.files_create_ne (by omega)]
  files id hid _ := Disk.files_create_ne (by omega)
  next := Nat.le_succ _
  sockets := rfl

theorem Aside.append {id : Nat} {bytes : Bytes} (h : OwnFile store n pid id m) :
    Aside store n pid m (m.append id bytes) where
  artifact := rfl
  owners id' _ := by
    by_cases hid : id' = id
    · subst hid
      rw [Machine.disk_append, Disk.files_append_self]
    · rw [Machine.disk_append, Disk.files_append_ne hid]
  files id' _ hother := by
    refine Disk.files_append_ne ?_
    rintro rfl
    exact hother.elim (fun hne => hne h.2.2.1) h.2.2.2
  next := Nat.le_refl _
  sockets := rfl

theorem Aside.link {path path' : CString} (h : path' ≠ artifact_path store n.name) :
    Aside store n pid m (m.link path path') where
  artifact := Disk.look_link_ne h.symm
  owners id _ := by rw [Machine.disk_link, Disk.files_link]
  files id _ _ := by rw [Machine.disk_link, Disk.files_link]
  next := Nat.le_of_eq Disk.next_link.symm
  sockets := rfl

theorem Aside.unlink {path : CString} (h : path ≠ artifact_path store n.name) :
    Aside store n pid m (m.unlink path) where
  artifact := Disk.look_unlink_ne h.symm
  owners _ _ := rfl
  files _ _ _ := rfl
  next := Nat.le_refl _
  sockets := rfl

/-! ### Calls -/

variable {P : Machine → Prop}

theorem keeps_bind {β : Type} {p : Proc α} {f : α → Proc β} {Q : β → Machine → Prop}
    (h : Keeps store n pid p (fun a m => Keeps store n pid (f a) Q m) m) :
    Keeps store n pid (p >>= f) Q m := rg_bind h

/-- A call that an install makes while it has the name. -/
theorem keeps_step {c : SystemCall} {Q : Reply c → Machine → Prop} (hP : Stable store n pid P)
    (hm : P m)
    (h : ∀ m', P m' → ∀ choice, Aside store n pid m' (answer pid choice c m').2 ∧
      Q (answer pid choice c m').1 (answer pid choice c m').2) :
    Keeps store n pid (ask c) Q m := by
  refine rg_ask fun m' hr choice => ?_
  have hm' := hP.rely hr hm
  obtain ⟨ha, hQ⟩ := h m' hm' choice
  exact ⟨ha.installs (hP.held hm'), hQ⟩

/-- Calls that change neither files nor sockets. -/
theorem keeps_idle {p : Proc α} (hp : p.Uses Idle) (hP : Stable store n pid P) (hm : P m) :
    Keeps store n pid p (fun _ => P) m := by
  refine rg_of_uses hp (fun _ _ hr hm => hP.rely hr hm) (fun choice c m' hc hm' => ?_) hm
  obtain ⟨hdisk, hsockets⟩ := hc pid choice m'
  have ha : Aside store n pid m' (answer pid choice c m').2 := .of_same hdisk hsockets
  exact ⟨ha.installs (hP.held hm'),
    hP.still ha (fun path => congrArg (Disk.look · path) hdisk) hm'⟩

theorem keeps_call {c : SystemCall} {Q : Reply c → Machine → Prop} (hc : Idle c)
    (hP : Stable store n pid P) (hm : P m) (h : ∀ r m', P m' → Q r m') :
    Keeps store n pid (ask c) Q m :=
  rg_mono (keeps_idle (uses_ask.mpr hc) hP hm) h

theorem keeps_malloc {Q : Bool → Machine → Prop} (hP : Stable store n pid P) (hm : P m)
    (h : ∀ r m', P m' → Q r m') : Keeps store n pid malloc Q m :=
  keeps_call (fun _ _ _ => ⟨rfl, rfl⟩) hP hm h

theorem keeps_unless {b : Bool} {p p' : Proc α} {Q : α → Machine → Prop}
    (hfail : Keeps store n pid p Q m) (hok : b = true → Keeps store n pid p' Q m) :
    Keeps store n pid (if !b then p else p') Q m :=
  rg_unless hfail hok

theorem keeps_write {descriptor : Nat} {bytes : Bytes} {Q : Except Errno Nat → Machine → Prop}
    (hP : Stable store n pid P) (hfile : ∀ {m}, P m → OwnFile store n pid descriptor m)
    (hm : P m) (h : ∀ r m', P m' → Q r m') :
    Keeps store n pid (write descriptor bytes) Q m := by
  refine keeps_step hP hm fun m' hm' choice => ?_
  have ha : Aside store n pid m'
      (m'.append descriptor (bytes.take (min choice.taken bytes.length))) :=
    .append (hfile hm')
  simp only [answer]
  split
  · exact ⟨.of_same rfl rfl, h _ _ hm'⟩
  · exact ⟨ha, h _ _ (hP.still ha (fun _ => rfl) hm')⟩

theorem keeps_unlink {path : CString} {Q : Option Errno → Machine → Prop}
    (hP : Robust store n pid P) (hpath : path ≠ artifact_path store n.name) (hm : P m)
    (h : ∀ r m', P m' → Q r m') : Keeps store n pid (unlink path) Q m := by
  refine keeps_step hP.toStable hm fun m' hm' choice => ?_
  have hsame : Aside store n pid m' m' := .of_same rfl rfl
  simp only [answer]
  split
  · exact ⟨hsame, h _ _ hm'⟩
  · split
    · exact ⟨hsame, h _ _ hm'⟩
    · exact ⟨.unlink hpath, h _ _ (hP.aside (.unlink hpath) hm')⟩

theorem keeps_mkstemp {template : CString} {Q : Except Errno Nat × CString → Machine → Prop}
    (hP : Robust store n pid P)
    (hpath : ∀ letters, fill template letters ≠ artifact_path store n.name) (hm : P m)
    (hmade : ∀ letters id m', P m' → OwnFile store n pid id m' →
      m'.look (fill template letters) = some (.file id) → Q (.ok id, fill template letters) m')
    (hfail : ∀ errno letters m', P m' → Q (.error errno, fill template letters) m') :
    Keeps store n pid (mkstemp template) Q m := by
  refine keeps_step hP.toStable hm fun m' hm' choice => ?_
  have hsame : Aside store n pid m' m' := .of_same rfl rfl
  simp only [answer]
  split
  · exact ⟨hsame, hfail _ _ _ hm'⟩
  · split
    · exact ⟨hsame, hfail _ _ _ hm'⟩
    · have ha : Aside store n pid m' (m'.create (fill template choice.letters) pid) :=
        .create (hpath choice.letters)
      have hm'' := hP.aside ha hm'
      refine ⟨ha, hmade _ _ _ hm'' ⟨hP.held hm'', Nat.lt_succ_self _, ?_, ?_⟩ ?_⟩
      · rw [Machine.disk_create, Disk.files_create_next]
      · rw [ha.artifact]
        exact fun hlook => Nat.lt_irrefl _ (Disk.look_lt hlook)
      · exact Disk.look_create_self (d := m'.disk)

/-- A link that is not about the artifact. -/
theorem keeps_link {path path' : CString} {Q : Option Errno → Machine → Prop}
    (hP : Robust store n pid P) (hpath : path' ≠ artifact_path store n.name) (hm : P m)
    (h : ∀ r m', P m' → Q r m') : Keeps store n pid (link path path') Q m := by
  refine keeps_step hP.toStable hm fun m' hm' choice => ?_
  have hsame : Aside store n pid m' m' := .of_same rfl rfl
  simp only [answer]
  split
  · exact ⟨hsame, h _ _ hm'⟩
  split
  · exact ⟨hsame, h _ _ hm'⟩
  split
  · exact ⟨hsame, h _ _ hm'⟩
  · exact ⟨.link hpath, h _ _ (hP.aside (.link hpath) hm')⟩

/-- The artifact is made where there is none, and it is one's own. -/
theorem keeps_link_artifact {path : CString} {id : Nat} {Q : Option Errno → Machine → Prop}
    (hpath : Temporary store path) (hm : Linkable store n pid path id m)
    (hlinked : ∀ m', OwnArtifact store n pid m' → Q none m')
    (hfail : ∀ errno m', Held n pid m' → Q (some errno) m') :
    Keeps store n pid (link path (artifact_path store n.name)) Q m := by
  refine rg_ask fun m' hr choice => ?_
  obtain ⟨⟨hheld, hid, ho, hne⟩, hlook⟩ := (stable_linkable hpath).rely hr hm
  have hsame : Installs store n pid m' m' := (Aside.of_same rfl rfl).installs hheld
  simp only [answer]
  split
  · exact ⟨hsame, hfail _ _ hheld⟩
  split
  · exact ⟨hsame, hfail _ _ hheld⟩
  split
  · exact ⟨hsame, hfail _ _ hheld⟩
  · rename_i hfree
    have hfiles : (m'.link path (artifact_path store n.name)).disk.files = m'.disk.files :=
      Disk.files_link
    have hmade : (m'.link path (artifact_path store n.name)).look (artifact_path store n.name) =
        some (.file id) :=
      Disk.look_link_self hlook
    have hown : ∀ node, (m'.link path (artifact_path store n.name)).look
        (artifact_path store n.name) = some node → ∃ id, node = .file id ∧
          ((m'.link path (artifact_path store n.name)).disk.files id).owner = some pid :=
      fun node hnode => ⟨id, Option.some.inj (hnode.symm.trans hmade), by rw [hfiles, ho]⟩
    refine ⟨?_, hlinked _ ⟨hheld, hown⟩⟩
    exact {
      paths := fun hno => absurd hheld hno
      artifact := .inr (.inl (by simpa using hfree))
      made := fun _ => hown
      owners := fun id _ => by rw [hfiles]
      files := fun id _ _ => by rw [hfiles]
      next := Nat.le_of_eq Disk.next_link.symm
      others := fun _ _ h => h }

/-! ### The application -/

theorem keeps_store_write_all (fuel : Nat) {descriptor : Nat} {content : Bytes}
    (hP : Stable store n pid P) (hfile : ∀ {m}, P m → OwnFile store n pid descriptor m)
    (hm : P m) : Keeps store n pid (store_write_all fuel descriptor content) (fun _ => P) m := by
  refine rg_loop (fun _ => P) (fun rest m' hm' => ?_) fuel hm
  split
  · exact hm'
  · refine keeps_bind (keeps_write hP hfile hm' fun r m'' hm'' => ?_)
    split <;> exact hm''

theorem keeps_rule_write_all (fuel : Nat) {descriptor : Nat} {content : Bytes}
    (hP : Stable store n pid P) (hfile : ∀ {m}, P m → OwnFile store n pid descriptor m)
    (hm : P m) : Keeps store n pid (rule_write_all fuel descriptor content) (fun _ => P) m := by
  refine rg_loop (fun _ => P) (fun rest m' hm' => ?_) fuel hm
  split
  · exact hm'
  · refine keeps_bind (keeps_write hP hfile hm' fun r m'' hm'' => ?_)
    split <;> exact hm''

theorem keeps_create_cleanup {descriptor : Option Nat} {path : Option CString}
    {result : StoreResult} (hP : Robust store n pid P)
    (hpath : ∀ p, path = some p → p ≠ artifact_path store n.name) (hm : P m) :
    Keeps store n pid (create_cleanup descriptor path result)
      (fun r m' => r = result ∧ P m') m := by
  have hclose : ∀ {id : Nat} {Q : Bool → Machine → Prop}, (∀ r m', P m' → Q r m') →
      Keeps store n pid (close id) Q m :=
    fun h => keeps_call (fun _ _ _ => ⟨rfl, rfl⟩) hP.toStable hm h
  cases path with
  | none =>
    cases descriptor with
    | none => exact ⟨rfl, hm⟩
    | some id => exact keeps_bind (hclose fun _ _ hm' => ⟨rfl, hm'⟩)
  | some p =>
    have hend : ∀ {m}, P m → Keeps store n pid (do
        let _ ← unlink p
        return result) (fun r m' => r = result ∧ P m') m :=
      fun hm => keeps_bind (keeps_unlink hP (hpath p rfl) hm fun _ _ hm' => ⟨rfl, hm'⟩)
    cases descriptor with
    | none => exact hend hm
    | some id => exact keeps_bind (hclose fun _ _ => hend)

theorem fill_ne_artifact (letters : Letters) :
    fill (store.directory ++ ARTIFACT_TEMPLATE) letters ≠ artifact_path store n.name :=
  (artifact_path_ne_fill store n.name _ letters).symm

theorem keeps_create_artifact (fuel : Nat) {content : Bytes} (hm : Held n pid m) :
    Keeps store n pid (create_artifact fuel store (artifact_path store n.name) content)
      (fun r m' => if r = .SUCCESS then OwnArtifact store n pid m' else Held n pid m') m := by
  have hpath : ∀ letters p, some (fill (store.directory ++ ARTIFACT_TEMPLATE) letters) = some p →
      p ≠ artifact_path store n.name :=
    fun letters p hp => Option.some.inj hp ▸ fill_ne_artifact letters
  have hfail : ∀ {descriptor letters result m}, result ≠ .SUCCESS → Held n pid m →
      Keeps store n pid (create_cleanup descriptor
        (some (fill (store.directory ++ ARTIFACT_TEMPLATE) letters)) result)
        (fun r m' => if r = .SUCCESS then OwnArtifact store n pid m' else Held n pid m') m := by
    intro descriptor letters result m hr hm
    refine rg_mono (keeps_create_cleanup robust_held (hpath letters) hm) ?_
    rintro _ m' ⟨rfl, hm'⟩
    rwa [if_neg hr]
  refine keeps_bind
    (keeps_mkstemp robust_held fill_ne_artifact hm ?_ fun errno letters m' hm' => ?_)
  · rintro letters id m1 - hfile hlook
    have hP : Stable store n pid
        (Linkable store n pid (fill (store.directory ++ ARTIFACT_TEMPLATE) letters) id) :=
      stable_linkable ⟨letters, rfl⟩
    have hown : ∀ {m}, Linkable store n pid (fill (store.directory ++ ARTIFACT_TEMPLATE) letters) id
        m → OwnFile store n pid id m := fun h => h.1
    refine keeps_bind (keeps_call (fun _ _ _ => ⟨rfl, rfl⟩) hP ⟨hfile, hlook⟩ fun r m2 h2 => ?_)
    refine keeps_unless (hfail (by decide) h2.1.1) fun _ => ?_
    refine keeps_bind (rg_mono (keeps_store_write_all fuel hP hown h2) fun r m3 h3 => ?_)
    refine keeps_unless (hfail (by decide) h3.1.1) fun _ => ?_
    refine keeps_bind (keeps_call (fun _ _ _ => ⟨rfl, rfl⟩) hP h3 fun r m4 h4 => ?_)
    refine keeps_unless (hfail (by decide) h4.1.1) fun _ => ?_
    refine keeps_bind (keeps_call (fun _ _ _ => ⟨rfl, rfl⟩) hP h4 fun r m5 h5 => ?_)
    refine keeps_unless (hfail (by decide) h5.1.1) fun _ => ?_
    refine keeps_bind
      (keeps_link_artifact ⟨letters, rfl⟩ h5 (fun m6 h6 => ?_) fun errno m6 h6 => ?_)
    · have hdone : ∀ {path m}, (∀ p, path = some p → p ≠ artifact_path store n.name) →
          OwnArtifact store n pid m → Keeps store n pid (create_cleanup none path .SUCCESS)
          (fun r m' => if r = .SUCCESS then OwnArtifact store n pid m' else Held n pid m') m := by
        intro path m hp hm
        refine rg_mono (keeps_create_cleanup robust_own_artifact hp hm) ?_
        rintro _ m' ⟨rfl, hm'⟩
        exact hm'
      refine keeps_bind (keeps_unlink robust_own_artifact (fill_ne_artifact letters) h6 ?_)
      intro r m7 h7
      split
      · exact hdone nofun h7
      · exact hdone (hpath letters) h7
    · refine hfail ?_ h6
      split <;> decide
  · refine hfail ?_ hm'
    split <;> decide

theorem keeps_installed_instance_path {name : Option CString} {Q} (hP : Stable store n pid P)
    (hm : P m) (hok : ∀ (k : InstanceName) m', name = some k.name → P m' →
      Q (.ok (artifact_path store k.name)) m')
    (hfail : ∀ result m', result ≠ .SUCCESS → P m' → Q (.error result) m') :
    Keeps store n pid (installed_instance_path store name) Q m := by
  unfold installed_instance_path
  rcases store_validate_name_cases name with ⟨k, rfl, hk⟩ | ⟨hs, -⟩
  · rw [hk]
    refine keeps_bind (keeps_malloc hP hm fun r m' hm' => ?_)
    exact keeps_unless (hfail _ _ (by decide) hm') fun _ => hok k m' rfl hm'
  · split
    · contradiction
    · exact hfail _ _ hs hm

theorem keeps_installed_instance_create (fuel : Nat) {config : RunConfig}
    (hname : config.instance_name = some n.name) (hm : Held n pid m) :
    Keeps store n pid (installed_instance_create fuel store config)
      (fun r m' => if r = .SUCCESS then OwnArtifact store n pid m' else Held n pid m') m := by
  have hfail : ∀ {r : StoreResult} {m'}, r ≠ .SUCCESS → Held n pid m' →
      Keeps store n pid (pure r)
        (fun r m' => if r = .SUCCESS then OwnArtifact store n pid m' else Held n pid m') m' := by
    intro r m' hr hm'
    refine rg_pure r |>.mpr ?_
    rwa [if_neg hr]
  have hP : Stable store n pid (Held n pid) := robust_held.toStable
  unfold installed_instance_create
  rw [hname]
  split
  · exact hfail (by decide) hm
  split
  · exact hfail (by decide) hm
  refine keeps_bind
    (keeps_installed_instance_path hP hm (fun k m1 hk h1 => ?_) fun r m1 hr h1 => ?_)
  · rw [← Option.some.inj hk]
    refine keeps_bind (keeps_malloc hP h1 fun r m2 h2 => ?_)
    refine keeps_unless (hfail (by decide) h2) fun _ => ?_
    refine keeps_bind (keeps_malloc hP h2 fun r m3 h3 => ?_)
    exact keeps_unless (hfail (by decide) h3) fun _ => keeps_create_artifact fuel h3
  · exact hfail hr h1

theorem rule_temporary_ne_artifact (letters : Letters) :
    fill (rules ++ RULE_TEMPORARY_TEMPLATE) letters ≠ artifact_path store n.name :=
  (artifact_path_ne_fill store n.name _ letters).symm

theorem keeps_publish_cleanup {descriptor : Option Nat} {path : CString} {success : Bool}
    (hP : Robust store n pid P) (hpath : path ≠ artifact_path store n.name) (hm : P m) :
    Keeps store n pid (publish_cleanup descriptor path success) (fun _ => P) m := by
  have hend : ∀ {m}, P m → Keeps store n pid (do
      let _ ← unlink path
      return success) (fun _ => P) m :=
    fun hm => keeps_bind (keeps_unlink hP hpath hm fun _ _ hm' => hm')
  cases descriptor with
  | none => exact hend hm
  | some id =>
    exact keeps_bind (keeps_call (fun _ _ _ => ⟨rfl, rfl⟩) hP.toStable hm fun _ _ => hend)

/-- The publication of a rule leaves the artifact alone. -/
theorem keeps_publish_rule (fuel : Nat) {content : Bytes} {inject : Bool} {name : CString}
    (hm : OwnArtifact store n pid m) :
    Keeps store n pid (publish_rule fuel rules (rule_path rules name) content inject)
      (fun _ => OwnArtifact store n pid) m := by
  have hown : Robust store n pid (OwnArtifact store n pid) := robust_own_artifact
  have hcleanup : ∀ {descriptor letters success m}, OwnArtifact store n pid m →
      Keeps store n pid (publish_cleanup descriptor
        (fill (rules ++ RULE_TEMPORARY_TEMPLATE) letters) success)
        (fun _ => OwnArtifact store n pid) m :=
    fun hm => keeps_publish_cleanup hown (rule_temporary_ne_artifact _) hm
  refine keeps_bind (keeps_malloc hown.toStable hm fun r m1 h1 => keeps_unless h1 fun _ => ?_)
  refine keeps_bind (keeps_mkstemp hown rule_temporary_ne_artifact h1 ?_ fun errno letters m2 h2 =>
    hcleanup h2)
  intro letters id m2 h2 hfile hlook
  have hP : Stable store n pid (fun m => OwnArtifact store n pid m ∧ OwnFile store n pid id m) :=
    hown.toStable.own_file
  refine keeps_bind (keeps_call (fun _ _ _ => ⟨rfl, rfl⟩) hP ⟨h2, hfile⟩ fun r m3 h3 => ?_)
  refine keeps_unless (hcleanup h3.1) fun _ => ?_
  refine keeps_bind (rg_mono (keeps_rule_write_all fuel hP And.right h3) fun r m4 h4 => ?_)
  refine keeps_unless (hcleanup h4.1) fun _ => ?_
  refine keeps_bind (keeps_call (fun _ _ _ => ⟨rfl, rfl⟩) hP h4 fun r m5 h5 => ?_)
  refine keeps_unless (hcleanup h5.1) fun _ => ?_
  refine keeps_bind (keeps_call (fun _ _ _ => ⟨rfl, rfl⟩) hP h5 fun r m6 h6 => ?_)
  refine keeps_unless (hcleanup h6.1) fun _ => ?_
  split
  · exact hcleanup h6.1
  · have hpath : rule_path rules name ≠ artifact_path store n.name :=
      (artifact_path_ne_rule_path store rules n.name name).symm
    refine keeps_bind (keeps_link hown hpath h6.1 fun r m7 h7 => ?_)
    split
    · exact hcleanup h7
    · exact hcleanup h7

/-- The rollback goes by the path, and what is there is one's own. -/
theorem keeps_unlink_artifact {Q : Option Errno → Machine → Prop} (hm : OwnArtifact store n pid m)
    (h : ∀ r m', Held n pid m' → Q r m') :
    Keeps store n pid (unlink (artifact_path store n.name)) Q m := by
  refine rg_ask fun m' hr choice => ?_
  obtain ⟨hheld, hown⟩ := robust_own_artifact.rely hr hm
  have hsame : Installs store n pid m' m' := (Aside.of_same rfl rfl).installs hheld
  simp only [answer]
  split
  · exact ⟨hsame, h _ _ hheld⟩
  split
  · exact ⟨hsame, h _ _ hheld⟩
  · rename_i hsome
    obtain ⟨node, hnode⟩ := Option.ne_none_iff_exists'.mp (by simpa using hsome)
    obtain ⟨id, rfl, ho⟩ := hown node hnode
    have hgone :
        (m'.unlink (artifact_path store n.name)).look (artifact_path store n.name) = none :=
      Disk.look_unlink_self
    refine ⟨?_, h _ _ hheld⟩
    exact {
      paths := fun hno => absurd hheld hno
      artifact := .inr (.inr ⟨id, hnode, ho, hgone⟩)
      made := fun _ node h => by simp [hgone] at h
      owners := fun _ _ => rfl
      files := fun _ _ _ => rfl
      next := Nat.le_refl _
      others := fun _ _ h => h }

theorem keeps_installed_instance_remove (hm : OwnArtifact store n pid m) :
    Keeps store n pid (installed_instance_remove store (some n.name)) (fun _ => Held n pid) m := by
  refine keeps_bind (keeps_installed_instance_path robust_own_artifact.toStable hm
    (fun k m1 hk h1 => ?_) fun result m1 hr h1 => h1.1)
  rw [← Option.some.inj hk]
  refine keeps_bind (keeps_unlink_artifact h1 fun r m2 h2 => ?_)
  split <;> exact h2

theorem keeps_roll_back {environment : ApplicationEnvironment} (hm : OwnArtifact store n pid m) :
    Keeps store n pid (roll_back store environment (some n.name)) (fun _ => Held n pid) m := by
  have hheld : Stable store n pid (Held n pid) := robust_held.toStable
  refine rg_ite_bind (Q := fun _ => Held n pid) (fun _ => hm.1)
    (fun _ => keeps_installed_instance_remove hm) fun removed m' h => ?_
  dsimp only
  split
  · exact h
  · exact keeps_bind (keeps_installed_instance_path hheld h (fun _ _ _ h => h) fun _ _ _ h => h)

/-- An application leaves its process with the name, whatever it comes to. -/
theorem keeps_installation_plan_apply (fuel : Nat) {environment : ApplicationEnvironment}
    {plan : InstallationPlan} (hname : plan.config.instance_name = some n.name)
    (hm : Held n pid m) :
    Keeps store n pid (installation_plan_apply fuel store environment plan)
      (fun _ => Held n pid) m := by
  have hheld : Stable store n pid (Held n pid) := robust_held.toStable
  unfold installation_plan_apply
  split
  case h_2 => exact hm
  rename_i resolution readiness _ _
  split
  · exact hm
  split
  · refine keeps_bind (rg_mono (keeps_installed_instance_create fuel hname hm) fun r m1 h1 => ?_)
    by_cases hr : r = .SUCCESS
    · rw [if_pos hr] at h1 ⊢
      exact h1.1
    · rw [if_neg hr] at h1 ⊢
      exact h1
  split
  · exact hm
  refine keeps_bind (keeps_malloc hheld hm fun r m1 h1 => keeps_unless h1 fun _ => ?_)
  rw [hname]
  refine keeps_bind (keeps_malloc hheld h1 fun r m2 h2 => keeps_unless h2 fun _ => ?_)
  refine keeps_bind (keeps_call (idle_lstat _) hheld h2 fun (r : Option Errno) m3 h3 => ?_)
  split
  · refine keeps_bind (rg_mono (keeps_installed_instance_create fuel hname h3) fun r m4 h4 => ?_)
    by_cases hr : r = .SUCCESS
    · rw [if_pos hr] at h4
      rw [if_neg (not_not.mpr hr)]
      refine keeps_bind (rg_mono (keeps_publish_rule fuel h4) fun published m5 h5 => ?_)
      split
      · exact h5.1
      · exact keeps_roll_back h5
    · rw [if_neg hr] at h4
      rw [if_pos hr]
      exact h4
  · exact h3

/-! ### The command -/

theorem Installs.of_same (hdisk : m'.disk = m.disk)
    (hothers : ∀ pid' ≠ pid, m.holder n.address = some pid' → m'.holder n.address = some pid') :
    Installs store n pid m m' where
  paths _ path := congrArg (Disk.look · path) hdisk
  artifact := .inl (congrArg (Disk.look · _) hdisk)
  made hnone node hnode := by
    rw [Machine.look, hdisk] at hnode
    rw [Machine.look] at hnone
    simp [hnone] at hnode
  owners _ _ := by rw [hdisk]
  files _ _ _ := by rw [hdisk]
  next := Nat.le_of_eq (congrArg Disk.next hdisk.symm)
  others := hothers

/-- Without the name there is nothing to know, and nothing to change. -/
theorem keeps_free {p : Proc α} (hp : p.Uses Idle) :
    Keeps store n pid p (fun _ _ => True) m := by
  refine rg_of_uses hp (fun _ _ _ _ => trivial) (fun choice c m' hc _ => ?_) trivial
  obtain ⟨hdisk, hsockets⟩ := hc pid choice m'
  exact ⟨.of_same hdisk fun _ _ h => by rwa [Machine.holder, hsockets], trivial⟩

theorem keeps_bind_free {β : Type} {p : Proc α} {f : α → Proc β} {Q : β → Machine → Prop}
    (hp : p.Uses Idle) (h : ∀ a m', Keeps store n pid (f a) Q m') :
    Keeps store n pid (p >>= f) Q m :=
  keeps_bind (rg_mono (keeps_free hp) fun a m' _ => h a m')

theorem uses_malloc : malloc.Uses Idle := uses_ask.mpr fun _ _ _ => ⟨rfl, rfl⟩

/-- The reservation: whoever comes back with the address has the name. -/
theorem keeps_instance_name_acquire :
    Keeps store n pid (instance_name_acquire n.name)
      (fun r m' => ∀ address, r = .ok address → address = n.address ∧ Held n pid m') m := by
  have hfail : ∀ {result : Result} {m'}, ∀ address,
      (Except.error result : Except Result Bytes) = .ok address →
        address = n.address ∧ Held n pid m' := by
    intro result m' address h
    cases h
  unfold instance_name_acquire
  rw [n.instance_name_address_eq]
  refine keeps_bind_free uses_malloc fun r m1 => keeps_unless hfail fun _ => ?_
  refine keeps_bind_free (uses_ask.mpr fun _ _ _ => ⟨rfl, rfl⟩) fun r m2 => ?_
  refine keeps_unless hfail fun _ => keeps_bind (rg_ask fun m3 _ choice => ?_)
  simp only [answer]
  split
  · exact ⟨.of_same rfl fun _ _ h => h, hfail⟩
  split
  · exact ⟨.of_same rfl fun _ _ h => h, hfail⟩
  · rename_i hfree
    refine ⟨.of_same rfl fun pid' _ h => ?_, fun address h => ?_⟩
    · exact absurd (Option.isSome_of_eq_some h) hfree
    · obtain rfl := Except.ok.inj h
      exact ⟨rfl, AList.lookup_insert _⟩

/-- What is given up is one's own, if anything. -/
theorem keeps_instance_name_release {ownership : Option Bytes}
    (h : ∀ address, ownership = some address → address = n.address) :
    Keeps store n pid (instance_name_release ownership) (fun _ _ => True) m := by
  cases ownership with
  | none => trivial
  | some address =>
    obtain rfl := h address rfl
    refine rg_ask fun m' _ choice => ⟨?_, trivial⟩
    simp only [answer]
    split
    · rename_i hown
      exact .of_same rfl fun pid' hpid hother =>
        absurd (Option.some.inj (hother.symm.trans hown)) hpid
    · exact .of_same rfl fun _ _ hother => hother

theorem uses_installed_instance_exists (name : Option CString) :
    (installed_instance_exists store name).Uses Idle := by
  have hpath : (installed_instance_path store name).Uses Idle := by
    unfold installed_instance_path
    split
    · exact uses_bind uses_malloc fun r => uses_unless trivial trivial
    · trivial
  refine uses_bind hpath fun path => ?_
  split
  · trivial
  · refine uses_bind (uses_ask.mpr (idle_lstat _)) fun (r : Option Errno) => ?_
    split <;> trivial

/-- A plan comes with the name. -/
def Planned (request : InstallationRequest) (n : InstanceName) (pid : Nat)
    (r : Except PlanResult (InstallationPlan × Bytes)) (m : Machine) : Prop :=
  ∀ plan address, r = .ok (plan, address) →
    plan.config = request.config ∧ address = n.address ∧ Held n pid m

theorem keeps_installation_plan_create {request : InstallationRequest}
    (hname : request.instance_name = some n.name) :
    Keeps store n pid (installation_plan_create store request) (Planned request n pid) m := by
  have hfail : ∀ {result m'}, Keeps store n pid (pure (.error result)) (Planned request n pid) m' :=
    (rg_pure _).mpr nofun
  unfold installation_plan_create
  rw [hname]
  split
  case h_2 => exact hfail
  rename_i source_path name _ heq
  obtain rfl := Option.some.inj heq
  split
  · exact hfail
  split
  · exact hfail
  split
  · exact hfail
  split
  · exact hfail
  refine keeps_bind_free (uses_installed_instance_exists _) fun found m1 => ?_
  split
  · exact hfail
  · exact hfail
  · exact hfail
  refine keeps_bind_free uses_malloc fun r m2 => keeps_unless hfail fun _ => ?_
  refine keeps_bind (rg_mono keeps_instance_name_acquire fun acquired m3 h3 => ?_)
  split
  · exact hfail
  rename_i address
  obtain ⟨rfl, hheld⟩ := h3 address rfl
  refine keeps_bind (keeps_malloc robust_held.toStable hheld fun source_copied m4 h4 => ?_)
  refine keeps_bind (keeps_malloc robust_held.toStable h4 fun name_copied m5 h5 => ?_)
  refine keeps_unless ?_ fun _ => (rg_pure _).mpr ?_
  · refine keeps_bind (rg_mono (keeps_instance_name_release fun _ h => (Option.some.inj h).symm) ?_)
    exact fun _ _ _ => hfail
  · rintro plan address h
    obtain ⟨rfl, rfl⟩ := Prod.mk.inj (Except.ok.inj h)
    exact ⟨rfl, rfl, h5⟩

theorem uses_activate_rule (source_path : CString) : (activate_rule source_path).Uses Idle := by
  refine uses_bind (uses_command _) fun r => uses_unless trivial ?_
  refine uses_bind (uses_default_trigger _) fun r => uses_unless trivial ?_
  refine uses_bind (uses_command _) fun r => uses_unless trivial ?_
  exact uses_bind (uses_ask.mpr fun _ _ _ => ⟨rfl, rfl⟩) fun r => uses_unless trivial trivial

theorem uses_default_service_state (unit : CString) : (default_service_state unit).Uses Idle := by
  refine uses_bind (uses_ask.mpr fun _ _ _ => ⟨rfl, rfl⟩) fun printed => ?_
  dsimp only
  split
  · trivial
  split
  · trivial
  split
  · trivial
  · trivial

/-- The service is started without the name, and nothing on disk is changed any more. -/
theorem keeps_installation_plan_activate {plan : InstallationPlan} {source_path : CString}
    {ownership : Option Bytes} (h : ∀ address, ownership = some address → address = n.address) :
    Keeps store n pid (installation_plan_activate plan source_path ownership)
      (fun r _ => ∀ address, r.2 = some address → address = n.address) m := by
  unfold installation_plan_activate
  split
  case h_2 => exact h
  rename_i resolution readiness name _ _ _
  split
  · exact h
  refine rg_ite_bind (fun _ => keeps_free (uses_activate_rule _)) (fun _ => keeps_free trivial)
    fun failure m1 _ => ?_
  dsimp only
  split
  · exact h
  split
  · exact h
  refine keeps_bind_free (uses_command _) fun r m2 => keeps_unless h fun _ => ?_
  refine keeps_bind (rg_mono (keeps_instance_name_release h) fun _ m3 _ => ?_)
  refine keeps_bind_free (uses_command _) fun r m4 => keeps_unless nofun fun _ => ?_
  exact keeps_bind_free (uses_default_service_state _) fun _ _ => nofun

theorem keeps_carry_out (fuel : Nat) {environment : ApplicationEnvironment}
    {plan : InstallationPlan} {source_path : CString}
    (hname : plan.config.instance_name = some n.name) (hm : Held n pid m) :
    Keeps store n pid (carry_out fuel store environment plan source_path n.address)
      (fun _ _ => True) m := by
  have haddress : ∀ address, some n.address = some address → address = n.address :=
    fun _ h => (Option.some.inj h).symm
  refine keeps_bind (rg_mono (keeps_installation_plan_apply fuel hname hm) fun applied m1 h1 => ?_)
  split
  · exact keeps_bind (rg_mono (keeps_instance_name_release haddress) fun _ _ _ => trivial)
  refine keeps_bind (rg_mono (keeps_installation_plan_activate haddress) fun activated m2 h2 => ?_)
  exact keeps_bind (rg_mono (keeps_instance_name_release h2) fun _ _ _ => trivial)

/-- An install keeps to its guarantee from its first call on. -/
theorem keeps_install_command (fuel : Nat) {environment : ApplicationEnvironment}
    {request : InstallationRequest} {assessment : Option Assessment}
    (hname : request.instance_name = some n.name) :
    Keeps store n pid (install_command fuel store environment request assessment)
      (fun _ _ => True) m := by
  have hrelease : ∀ {m'}, Keeps store n pid (do
      instance_name_release (some n.address)
      return Exit.FAILURE) (fun _ _ => True) m' :=
    keeps_bind (rg_mono (keeps_instance_name_release fun _ h => (Option.some.inj h).symm)
      fun _ _ _ => trivial)
  refine keeps_bind (rg_mono (keeps_installation_plan_create hname) fun created m1 h1 => ?_)
  split
  · trivial
  rename_i plan address
  obtain ⟨hconfig, rfl, hheld⟩ := h1 plan address rfl
  split
  · exact hrelease
  rename_i assessment
  split
  · exact hrelease
  · refine keeps_carry_out fuel ?_ hheld
    rw [Assessment.plan, hconfig]
    exact hname

end installs

/-! ## What an uninstall does -/

section uninstalls

open Process

variable {store : Store}

/-- A call of an uninstall. -/
def Removing (c : SystemCall) : Prop :=
  Idle c ∨ (∃ store name, c = .unlink (artifact_path store name)) ∨
    ∃ rules name, c = .unlink (rule_path rules name)

theorem Removing.uninstalls {c : SystemCall} (h : Removing c) (pid : Nat) (choice : Choice)
    (m : Machine) : Uninstalls m (answer pid choice c m).2 := by
  have hsame : ∀ {m' : Machine}, m'.disk = m.disk → m'.sockets = m.sockets → Uninstalls m m' := by
    intro m' hdisk hsockets
    have hlook : ∀ path, m'.look path = m.look path := fun path => congrArg (Disk.look · path) hdisk
    exact ⟨fun path _ _ => hlook path, fun path => .inl (hlook path), by rw [hdisk], by rw [hdisk],
      hsockets⟩
  have hunlink : ∀ path, ((∃ store name, path = artifact_path store name) ∨
      ∃ rules name, path = rule_path rules name) →
      Uninstalls m (answer pid choice (.unlink path) m).2 := by
    intro path hpath
    simp only [answer]
    split
    · exact hsame rfl rfl
    split
    · exact hsame rfl rfl
    refine ⟨fun path' ha hr => Disk.look_unlink_ne ?_, fun path' => ?_, rfl, rfl, rfl⟩
    · rintro rfl
      rcases hpath with ⟨store, name, heq⟩ | ⟨rules, name, heq⟩
      · exact ha store name heq
      · exact hr rules name heq
    · by_cases hp : path' = path
      · subst hp
        exact .inr Disk.look_unlink_self
      · exact .inl (Disk.look_unlink_ne hp)
  rcases h with hidle | ⟨store, name, rfl⟩ | ⟨rules, name, rfl⟩
  · exact hsame (hidle pid choice m).1 (hidle pid choice m).2
  · exact hunlink _ (.inl ⟨store, name, rfl⟩)
  · exact hunlink _ (.inr ⟨rules, name, rfl⟩)

theorem removing_of_idle {α : Type} {p : Proc α} (h : p.Uses Idle) : p.Uses Removing :=
  h.mono fun _ => .inl

theorem removing_malloc : malloc.Uses Removing :=
  removing_of_idle uses_malloc

theorem removing_default_remove {path : CString} (h : Removing (.unlink path)) :
    (default_remove path).Uses Removing := by
  refine uses_bind (uses_ask.mpr h) fun (r : Option Errno) => ?_
  split <;> trivial

theorem removing_uninstall_stages (rules name unit program_name : CString) :
    (uninstall_stages (artifact_path store name) (rule_path rules name) unit program_name).Uses
      Removing := by
  refine uses_bind (removing_of_idle (uses_managed_stage ..)) fun stop_result => ?_
  refine uses_bind (removing_of_idle (uses_managed_stage ..)) fun disable_result => ?_
  refine uses_bind ((uses_response_file_read ..).mono fun _ h => .inl h.idle) fun argv => ?_
  refine uses_bind (removing_default_remove (.inr (.inr ⟨rules, name, rfl⟩))) fun rule_result => ?_
  refine uses_bind (removing_of_idle (uses_activation ..)) fun activated => ?_
  unfold remove_response
  split
  · trivial
  · refine uses_bind (removing_default_remove (.inr (.inl ⟨store, name, rfl⟩))) fun removed => ?_
    split <;> trivial

theorem removing_path {α : Type} {name : Option CString} {f : Except StoreResult CString → Proc α}
    (hok : ∀ k, name = some k → (f (.ok (artifact_path store k))).Uses Removing)
    (hfail : ∀ result, (f (.error result)).Uses Removing) :
    (installed_instance_path store name >>= f).Uses Removing := by
  unfold installed_instance_path
  split
  · rw [bind_bind]
    refine uses_bind removing_malloc fun r => ?_
    cases r with
    | false => exact hfail _
    | true => exact hok _ rfl
  · exact hfail _

theorem removing_uninstall_instance (rules program_name name : CString) :
    (uninstall_instance store rules program_name name).Uses Removing := by
  refine removing_path (fun k hk => ?_) fun result => trivial
  obtain rfl := Option.some.inj hk
  refine uses_bind removing_malloc fun r => uses_unless trivial ?_
  split
  · trivial
  · rw [uninstall_rule_path_eq]
    exact removing_uninstall_stages ..

theorem uses_enumerate_entries (filenames names : List CString) :
    (enumerate_entries store filenames names).Uses Idle := by
  have hreaddir : readdir.Uses Idle := uses_ask.mpr fun _ _ _ => ⟨rfl, rfl⟩
  have hclosedir : closedir.Uses Idle := uses_ask.mpr fun _ _ _ => ⟨rfl, rfl⟩
  have hfail : ∀ result, (do
      let _ ← closedir
      return Except.error result : Proc (Except StoreResult (List CString))).Uses Idle :=
    fun result => uses_bind hclosedir fun _ => trivial
  induction filenames generalizing names with
  | nil =>
    refine uses_bind hreaddir fun r => uses_unless (hfail _) ?_
    exact uses_bind hclosedir fun r => uses_unless trivial trivial
  | cons filename rest ih =>
    refine uses_bind hreaddir fun r => uses_unless (hfail _) ?_
    split
    · exact ih _
    refine uses_bind uses_malloc fun r => uses_unless (hfail _) ?_
    split
    · exact ih _
    refine uses_bind (uses_ask.mpr fun _ _ _ => ?_) fun (r : Option Bool) => ?_
    · simp only [answer]
      split <;> exact ⟨rfl, rfl⟩
    split
    · exact hfail _
    · exact ih _
    · exact uses_bind uses_malloc fun r => uses_unless (hfail _) (ih _)

theorem uses_installed_instance_enumerate : (installed_instance_enumerate store).Uses Idle := by
  refine uses_bind (uses_ask.mpr fun _ _ _ => ?_) fun (r : Option (List CString)) => ?_
  · simp only [answer]
    split <;> exact ⟨rfl, rfl⟩
  · split
    · trivial
    · exact uses_enumerate_entries ..

/-- Whatever name an uninstall is given or shown. -/
theorem removing_uninstall_command (environment : UninstallEnvironment) (program_name : CString)
    (argument : Option CString) :
    (uninstall_command environment program_name argument).Uses Removing := by
  unfold uninstall_command
  split
  · trivial
  split
  · trivial
  split
  · trivial
  refine uses_bind removing_malloc fun r => uses_unless trivial ?_
  refine uses_bind removing_malloc fun r => uses_unless trivial ?_
  split
  · refine uses_bind removing_malloc fun r => uses_unless trivial ?_
    refine uses_bind (removing_of_idle (uses_installed_instance_exists _)) fun found => ?_
    split
    · exact removing_uninstall_instance ..
    · trivial
  · refine uses_bind (removing_of_idle uses_installed_instance_enumerate) fun names => ?_
    split
    · trivial
    · trivial
    split
    · trivial
    split
    · trivial
    split
    · trivial
    · refine uses_bind removing_malloc fun r => uses_unless trivial ?_
      exact removing_uninstall_instance ..

end uninstalls

end input_proxy
