-- Installs and uninstalls of one name that run at the same time, interleaved in
-- any order and killed at any point: the reservation of the name excludes a
-- second install, so the removal of an artifact by its path is that of one's own.
import InputProxy.InstallGuarantees
import InputProxy.Systems

open c_strings disks processes

namespace input_proxy

/-! ## Who has the name, and who made the artifact -/

/-- The process has bound the address of the name; it has not closed the socket since, and it is
not gone. -/
def HasName (n : InstanceName) (pid : Nat) : List (Sight Nat Reply) → Prop
  | [] => False
  | .made pid' (.bind address) Bound.BOUND :: trace =>
    (pid' = pid ∧ address = n.address) ∨ HasName n pid trace
  | .made pid' (.close_socket address) _ :: trace =>
    ¬(pid' = pid ∧ address = n.address) ∧ HasName n pid trace
  | .gone pid' :: trace => pid' ≠ pid ∧ HasName n pid trace
  | _ :: trace => HasName n pid trace

/-- The process that was the last one to link the artifact. -/
def maker (store : Store) (n : InstanceName) : List (Sight Nat Reply) → Option Nat
  | [] => none
  | .made pid (.link _ path) none :: trace =>
    if path = artifact_path store n.name then some pid else maker store n trace
  | _ :: trace => maker store n trace

section calls

variable {store : Store} {n : InstanceName} {pid pid' : Nat} {choice : Choice} {c : SystemCall}
  {m : Machine} {trace : List (Sight Nat Reply)} {node : Node}

/-- Only two calls are about sockets. -/
theorem sockets_answer (hbind : ∀ address, c ≠ .bind address)
    (hclose : ∀ address, c ≠ .close_socket address) :
    (answer pid choice c m).2.sockets = m.sockets := by
  cases c
  case bind address => exact absurd rfl (hbind address)
  case close_socket address => exact absurd rfl (hclose address)
  all_goals
    simp only [answer]
    repeat' split
    all_goals rfl

theorem holds_made (hbind : ∀ address, c ≠ .bind address)
    (hclose : ∀ address, c ≠ .close_socket address) {r : Reply c} :
    HasName n pid (.made pid' c r :: trace) ↔ HasName n pid trace := by
  cases c
  case bind address => exact absurd rfl (hbind address)
  case close_socket address => exact absurd rfl (hclose address)
  all_goals rfl

/-- Who has the name is the holder of its address. -/
theorem holder_of_holds (h : HasName n pid trace → m.holder n.address = some pid) :
    HasName n pid (.made pid' c (answer pid' choice c m).1 :: trace) →
      (answer pid' choice c m).2.holder n.address = some pid := by
  by_cases hbind : ∃ address, c = .bind address
  · obtain ⟨address, rfl⟩ := hbind
    simp only [answer]
    split
    · exact h
    split
    · exact h
    rename_i hfree
    rintro (⟨rfl, rfl⟩ | hholds)
    · exact AList.lookup_insert _
    · -- an address that another process holds cannot be bound
      have hheld := h hholds
      have hne : n.address ≠ address := by
        rintro rfl
        exact hfree (Option.isSome_of_eq_some hheld)
      exact (AList.lookup_insert_ne hne).trans hheld
  by_cases hclose : ∃ address, c = .close_socket address
  · obtain ⟨address, rfl⟩ := hclose
    rintro ⟨hother, hholds⟩
    have hheld := h hholds
    simp only [answer]
    split
    · rename_i hown
      have hne : n.address ≠ address := by
        rintro rfl
        exact hother ⟨Option.some.inj (hown.symm.trans hheld), rfl⟩
      exact (AList.lookup_erase_ne hne).trans hheld
    · exact hheld
  · rw [not_exists] at hbind hclose
    rw [holds_made hbind hclose, Machine.holder, sockets_answer hbind hclose]
    exact h

/-- What is not a link makes no artifact. -/
theorem look_answer (hlink : ∀ path path', c ≠ .link path path') :
    (answer pid choice c m).2.look (artifact_path store n.name) =
        m.look (artifact_path store n.name) ∨
      (answer pid choice c m).2.look (artifact_path store n.name) = none := by
  cases c
  case link path path' => exact absurd rfl (hlink path path')
  case mkstemp template =>
    simp only [answer]
    split
    · exact .inl rfl
    split
    · exact .inl rfl
    · exact .inl (Disk.look_create_ne (artifact_path_ne_fill store n.name template choice.letters))
  case unlink path =>
    simp only [answer]
    split
    · exact .inl rfl
    split
    · exact .inl rfl
    · by_cases hp : artifact_path store n.name = path
      · exact .inr (hp ▸ Disk.look_unlink_self)
      · exact .inl (Disk.look_unlink_ne hp)
  all_goals
    refine .inl ?_
    simp only [answer]
    repeat' split
    all_goals rfl

theorem maker_of_not_link (hlink : ∀ path path', c ≠ .link path path') {r : Reply c} :
    maker store n (.made pid c r :: trace) = maker store n trace := by
  cases c
  case link path path' => exact absurd rfl (hlink path path')
  all_goals rfl

/-- Where there was none, an artifact is made by a link to its path. -/
theorem maker_of_made (hnone : m.look (artifact_path store n.name) = none)
    (hsome : (answer pid choice c m).2.look (artifact_path store n.name) = some node) :
    maker store n (.made pid c (answer pid choice c m).1 :: trace) = some pid := by
  have hsame : m.look (artifact_path store n.name) ≠ some node := by simp [hnone]
  by_cases hlink : ∃ path path', c = .link path path'
  · obtain ⟨path, path', rfl⟩ := hlink
    revert hsome
    simp only [answer]
    split
    · exact fun h => absurd h hsame
    split
    · exact fun h => absurd h hsame
    split
    · exact fun h => absurd h hsame
    · intro h
      by_cases hp : path' = artifact_path store n.name
      · exact if_pos hp
      · exact absurd ((Disk.look_link_ne (Ne.symm hp)).symm.trans h) hsame
  · simp only [not_exists] at hlink
    rcases @look_answer store n pid choice c m hlink with heq | heq
    · exact absurd (heq.symm.trans hsome) hsame
    · simp [heq] at hsome

/-- While an artifact is there, no link to its path succeeds. -/
theorem maker_of_kept (hsome : m.look (artifact_path store n.name) = some node) :
    maker store n (.made pid c (answer pid choice c m).1 :: trace) = maker store n trace := by
  by_cases hlink : ∃ path path', c = .link path path'
  · obtain ⟨path, path', rfl⟩ := hlink
    simp only [answer]
    split
    · rfl
    split
    · rfl
    split
    · rfl
    · rename_i hfree
      have hp : path' ≠ artifact_path store n.name := by
        rintro rfl
        exact hfree (Option.isSome_of_eq_some hsome)
      exact if_neg hp
  · simp only [not_exists] at hlink
    exact maker_of_not_link hlink

end calls

/-! ## The system -/

/-- A process that is about the name: an install of it, or an uninstall. -/
inductive Party (n : InstanceName)
  | install (fuel : Nat) (environment : ApplicationEnvironment) (request : InstallationRequest)
    (named : request.instance_name = some n.name) (assessment : Option Assessment)
  | uninstall (environment : UninstallEnvironment) (program_name : CString)
    (argument : Option CString)

namespace Party

variable {n : InstanceName}

def program (store : Store) : Party n → Proc Exit
  | .install fuel environment request _ assessment =>
    install_command fuel store environment request assessment
  | .uninstall environment program_name argument =>
    uninstall_command environment program_name argument

def Installing : Party n → Prop
  | .install .. => True
  | .uninstall .. => False

/-- What it does to the machine. -/
def Guarantee (store : Store) (pid : Nat) : Party n → Machine → Machine → Prop
  | .install .. => Installs store n pid
  | .uninstall .. => Uninstalls

variable {store : Store} {pid pid' : Nat} {m m' : Machine}

theorem Guarantee.rely {party : Party n} (h : party.Guarantee store pid m m') (hpid : pid ≠ pid') :
    Rely store n pid' m m' := by
  cases party with
  | install => exact Installs.rely h hpid
  | uninstall => exact Uninstalls.rely h

/-- An artifact that is there stays the same file with the same bytes, or is gone. -/
theorem Guarantee.kept {party : Party n} {node : Node} (h : party.Guarantee store pid m m')
    (hnode : m.look (artifact_path store n.name) = some node) :
    (m'.look (artifact_path store n.name) = some node ∧
      ∀ id, node = .file id → m'.disk.files id = m.disk.files id) ∨
    m'.look (artifact_path store n.name) = none := by
  cases party with
  | install =>
    rcases Installs.artifact h with heq | hnone | ⟨-, -, -, hgone⟩
    · refine .inl ⟨heq.trans hnode, ?_⟩
      rintro id rfl
      exact Installs.files h id (Disk.look_lt hnode) (.inr hnode)
    · simp [hnone] at hnode
    · exact .inr hgone
  | uninstall =>
    rcases Uninstalls.removed h (artifact_path store n.name) with heq | hnone
    · exact .inl ⟨heq.trans hnode, fun id _ => by rw [Uninstalls.files h]⟩
    · exact .inr hnone

/-- An artifact that was not there is made by its owner. -/
theorem Guarantee.made {party : Party n} {id : Nat} (h : party.Guarantee store pid m m')
    (hnone : m.look (artifact_path store n.name) = none)
    (hmade : m'.look (artifact_path store n.name) = some (.file id)) :
    (m'.disk.files id).owner = some pid := by
  cases party with
  | install =>
    obtain ⟨id', heq, ho⟩ := Installs.made h hnone _ hmade
    obtain rfl := Node.file.inj heq
    exact ho
  | uninstall =>
    rcases Uninstalls.removed h (artifact_path store n.name) with heq | hgone
    · simp [heq, hnone] at hmade
    · simp [hgone] at hmade

theorem keeps_program (party : Party n) :
    Process.rg (answer pid) (Rely store n pid) (party.Guarantee store pid) (party.program store)
      (fun _ _ => True) m := by
  cases party with
  | install fuel environment request named assessment => exact keeps_install_command fuel named
  | uninstall environment program_name argument =>
    exact Process.rg_of_uses (removing_uninstall_command ..) (fun _ _ _ _ => trivial)
      (fun choice c m hc _ => ⟨hc.uninstalls pid choice m, trivial⟩) trivial

end Party

/-- Any number of processes, none of which has made a call. -/
def together (store : Store) {n : InstanceName} (parties : Nat → Option (Party n)) (m : Machine) :
    System Nat Reply Exit Machine :=
  ⟨m, fun pid => (parties pid).map (Party.program store), []⟩

/-- The artifact that is there at the start, if any, is of an earlier process. -/
def Earlier (store : Store) {n : InstanceName} (parties : Nat → Option (Party n)) (m : Machine) :
    Prop :=
  ∀ id pid, m.look (artifact_path store n.name) = some (.file id) →
    (m.disk.files id).owner = some pid → parties pid = none

section system

variable {store : Store} {n : InstanceName} {parties : Nat → Option (Party n)}

/-- The guarantee of each process. -/
def guarantee (store : Store) (parties : Nat → Option (Party n)) (pid : Nat) :
    Machine → Machine → Prop :=
  match parties pid with
  | none => fun _ _ => False
  | some party => party.Guarantee store pid

theorem guarantee_cases {pid : Nat} {m m' : Machine} (h : guarantee store parties pid m m') :
    ∃ party, parties pid = some party ∧ party.Guarantee store pid m m' := by
  unfold guarantee at h
  cases hparty : parties pid with
  | none =>
    rw [hparty] at h
    exact h.elim
  | some party =>
    rw [hparty] at h
    exact ⟨party, rfl, h⟩

theorem sound_together (m : Machine) :
    System.Sound answer (Rely store n) (guarantee store parties) (together store parties m) := by
  intro pid p hp
  obtain ⟨party, hparty, rfl⟩ := Option.map_eq_some_iff.mp hp
  unfold guarantee
  rw [hparty]
  exact party.keeps_program

/-- Whatever one process does, the others keep to their guarantees. -/
theorem sound_fire {s : System Nat Reply Exit Machine}
    (h : System.Sound answer (Rely store n) (guarantee store parties) s)
    (event : Event Nat Choice) :
    System.Sound answer (Rely store n) (guarantee store parties)
      (System.fire answer Machine.leave s event) := by
  refine System.Sound.fire (fun _ _ => .refl) (fun _ _ _ _ h h' => h.trans h') ?_ ?_ s event h
  · intro pid pid' m m' hpid h
    obtain ⟨party, -, h⟩ := guarantee_cases h
    exact h.rely hpid
  · exact fun pid pid' m hpid => .leave hpid

/-! ## Safety -/

/-- What is known of a system at every point: who has the name is the holder of its address, and
whose file the artifact is made it. -/
structure Sane (store : Store) (parties : Nat → Option (Party n))
    (s : System Nat Reply Exit Machine) : Prop where
  sound : System.Sound answer (Rely store n) (guarantee store parties) s
  holders : ∀ pid, HasName n pid s.trace → s.state.holder n.address = some pid
  makers : ∀ pid id, parties pid ≠ none →
    s.state.look (artifact_path store n.name) = some (.file id) →
    (s.state.disk.files id).owner = some pid → maker store n s.trace = some pid

theorem Sane.guaranteed {s : System Nat Reply Exit Machine} (h : Sane store parties s) {pid : Nat}
    {c : SystemCall} {next : Reply c → Proc Exit} (htask : s.tasks pid = some (.call c next))
    (choice : Choice) : ∃ party, parties pid = some party ∧
      party.Guarantee store pid s.state (answer pid choice c s.state).2 :=
  guarantee_cases (h.sound.guarantee (fun _ _ => .refl) htask)

theorem Sane.fire (s : System Nat Reply Exit Machine) (event : Event Nat Choice)
    (h : Sane store parties s) : Sane store parties (System.fire answer Machine.leave s event) := by
  have hsound := sound_fire h.sound event
  rcases System.fire_cases answer Machine.leave s event with heq |
    ⟨pid', choice, c, next, -, htask, heq⟩ | ⟨pid', -, -, heq⟩
  · rwa [heq]
  · rw [heq] at hsound ⊢
    obtain ⟨party, hparty, hg⟩ := h.guaranteed htask choice
    refine ⟨hsound, fun pid => holder_of_holds (h.holders pid), fun pid id hpid hlook ho => ?_⟩
    dsimp only at hlook ho ⊢
    cases hold : s.state.look (artifact_path store n.name) with
    | none =>
      have howner := hg.made hold hlook
      rw [maker_of_made hold hlook, ← howner, ho]
    | some node =>
      rcases hg.kept hold with ⟨hkept, hfiles⟩ | hgone
      · obtain rfl := Option.some.inj (hkept.symm.trans hlook)
        rw [maker_of_kept hold]
        exact h.makers pid id hpid hold (by rw [← hfiles id rfl, ho])
      · simp [hgone] at hlook
  · rw [heq] at hsound ⊢
    refine ⟨hsound, fun pid ⟨hpid, hholds⟩ => ?_, h.makers⟩
    exact Machine.holder_leave.mpr ⟨h.holders pid hholds, hpid.symm⟩

theorem Sane.run {m : Machine} (hm : Earlier store parties m) (events : List (Event Nat Choice)) :
    Sane store parties (System.run answer Machine.leave events (together store parties m)) := by
  refine System.run_induction answer Machine.leave Sane.fire ⟨sound_together m, nofun, ?_⟩ events
  exact fun pid id hpid hlook ho => absurd (hm id pid hlook ho) hpid

/-- At most one process has the name; an artifact stays as it is until it is removed; and an
install that removes one made it. -/
structure Safe (store : Store) (parties : Nat → Option (Party n))
    (s : System Nat Reply Exit Machine) : Prop where
  one_holder : ∀ pid pid', HasName n pid s.trace → HasName n pid' s.trace → pid = pid'
  never_overwritten : ∀ event node, s.state.look (artifact_path store n.name) = some node →
    ((System.fire answer Machine.leave s event).state.look (artifact_path store n.name) =
        some node ∧
      (System.fire answer Machine.leave s event).state.content (artifact_path store n.name) =
        s.state.content (artifact_path store n.name)) ∨
    (System.fire answer Machine.leave s event).state.look (artifact_path store n.name) = none
  own_artifact : ∀ pid party choice, parties pid = some party → party.Installing →
    s.state.look (artifact_path store n.name) ≠ none →
    (System.fire answer Machine.leave s (.step pid choice)).state.look
      (artifact_path store n.name) = none →
    maker store n s.trace = some pid

theorem Sane.safe {s : System Nat Reply Exit Machine} (h : Sane store parties s) :
    Safe store parties s where
  one_holder pid pid' hpid hpid' :=
    Option.some.inj ((h.holders pid hpid).symm.trans (h.holders pid' hpid'))
  never_overwritten event node hnode := by
    rcases System.fire_cases answer Machine.leave s event with heq |
      ⟨pid, choice, c, next, -, htask, heq⟩ | ⟨pid, -, -, heq⟩
    · rw [heq]
      exact .inl ⟨hnode, rfl⟩
    · rw [heq]
      obtain ⟨party, -, hg⟩ := h.guaranteed htask choice
      rcases hg.kept hnode with ⟨hkept, hfiles⟩ | hgone
      · refine .inl ⟨hkept, ?_⟩
        unfold Machine.content
        rw [hkept, hnode]
        cases node with
        | file id => exact congrArg (fun file => some file.content) (hfiles id rfl)
        | other => rfl
      · exact .inr hgone
    · rw [heq]
      exact .inl ⟨hnode, rfl⟩
  own_artifact pid party choice hparty hinstalling hthere hgone := by
    rcases System.fire_cases answer Machine.leave s (.step pid choice) with heq |
      ⟨pid', choice', c, next, hevent, htask, heq⟩ | ⟨pid', hevent, -⟩
    · rw [heq] at hgone
      exact absurd hgone hthere
    · obtain ⟨rfl, rfl⟩ := Event.step.inj hevent
      rw [heq] at hgone
      obtain ⟨party', hparty', hg⟩ := h.guaranteed htask choice
      obtain rfl := Option.some.inj (hparty.symm.trans hparty')
      cases party with
      | install =>
        rcases Installs.artifact hg with hsame | hnone | ⟨id, hid, ho, -⟩
        · exact absurd (hsame.symm.trans hgone) hthere
        · exact absurd hnone hthere
        · exact h.makers pid id (by simp [hparty]) hid ho
      | uninstall => exact hinstalling.elim
    · contradiction

/-- However many installs and uninstalls of a name there are, in whatever order their calls come
and whichever of them are killed. -/
theorem concurrent_installs_of_a_name_are_safe {m : Machine} (hm : Earlier store parties m)
    (events : List (Event Nat Choice)) :
    Safe store parties (System.run answer Machine.leave events (together store parties m)) :=
  (Sane.run hm events).safe

end system

/-! ## Two installs at once -/

def mouse_request : InstallationRequest :=
  ⟨some (cstr "/dev/input/by-id/mouse"), some mouse.name, 1000, 0, true, true, false, true, true⟩

def mouse_assessment : Assessment where
  rule_identity := ⟨cstr "046d", cstr "c077", cstr "pci-0", cstr "", cstr "", cstr ""⟩
  resolution := ⟨true, true, true⟩
  persistent_source_path := cstr "/dev/input/by-id/mouse"

/-- The first install cannot publish its rule. -/
def two_installs : Nat → Option (Party mouse)
  | 0 => some (.install 2 ⟨UDEV_RULE_DIRECTORY, true, false⟩ mouse_request rfl mouse_assessment)
  | 1 => some (.install 2 ⟨UDEV_RULE_DIRECTORY, false, false⟩ mouse_request rfl mouse_assessment)
  | _ => none

/-- They take turns. -/
def turns (count : Nat) : List (Event Nat Choice) :=
  (List.replicate count [.step 0 calm, .step 1 calm]).flatten

theorem a_rollback_beside_a_second_install_is_safe :
    let s := System.run answer Machine.leave (turns 29)
      (together etc_store two_installs empty_machine)
    Safe etc_store two_installs s ∧
      s.state.look (artifact_path etc_store mouse.name) ≠ none ∧
      (System.fire answer Machine.leave s (.step 0 calm)).state.look
        (artifact_path etc_store mouse.name) = none := by
  refine ⟨concurrent_installs_of_a_name_are_safe ?_ _, by decide +kernel, by decide +kernel⟩
  have hempty : empty_machine.look (artifact_path etc_store mouse.name) = none := rfl
  exact fun id pid hlook => absurd (hempty.symm.trans hlook) nofun

end input_proxy
