-- A rule is never without its artifact: what an application and an uninstall
-- may have done to the two files of a name, wherever they stop.
import InputProxy.Installation
import InputProxy.StoreHistories

open c_strings disks processes

namespace input_proxy

/-! ## Paths -/

theorem rule_path_eq (directory name : CString) :
    rule_path directory name = path_in directory (RULE_PREFIX ++ name ++ RULE_SUFFIX) := by
  unfold rule_path
  rw [snprintf_eq]
  · exact CString.ext (by simp [path_in])
  · simp only [CString.length_append, length_slash]
    omega

/-- The two derivations of the path agree. -/
theorem uninstall_rule_path_eq (directory name : CString) :
    uninstall_rule_path directory name = rule_path directory name := by
  have hprefix : cstr "/90-input-proxy-" = cstr "/" ++ RULE_PREFIX := by decide
  have hlength : (cstr "/90-input-proxy-").length = 16 ∧ (cstr ".rules").length = 6 := by decide
  rw [rule_path_eq]
  unfold uninstall_rule_path
  rw [snprintf_eq]
  · exact CString.ext (by simp [path_in, hprefix, RULE_SUFFIX])
  · simp only [CString.length_append, hlength]
    omega

theorem unit_name_eq (n : InstanceName) :
    unit_name 256 n.name = some (cstr "input-proxy@" ++ n.name ++ cstr ".service") := by
  have hlength : (cstr "input-proxy@").length = 12 ∧ (cstr ".service").length = 8 := by decide
  have := n.length_le
  unfold unit_name
  rw [if_neg]
  simp only [CString.length_append, hlength]
  omega

theorem rule_path_inj {directory s t : CString} :
    rule_path directory s = rule_path directory t ↔ s = t := by
  rw [rule_path_eq, rule_path_eq, path_in_inj, CString.append_left_inj, CString.append_right_inj]

theorem rule_suffix (directory name : CString) :
    RULE_SUFFIX.bytes <:+ (rule_path directory name).bytes := by
  rw [rule_path_eq]
  simp only [path_in, CString.bytes_append, ← List.append_assoc]
  exact List.suffix_append ..

theorem rule_path_ne_fill (directory name template : CString) (letters : Letters) :
    rule_path directory name ≠ fill template letters :=
  fill_ne RULE_SUFFIX.bytes (rule_suffix directory name) (by decide) ⟨46, by decide, by decide⟩

theorem artifact_path_ne_rule_path (store : Store) (directory s t : CString) :
    artifact_path store s ≠ rule_path directory t := by
  intro h
  have hsuffix := List.suffix_of_suffix_length_le (artifact_suffix store s)
    (h ▸ rule_suffix directory t) (by decide)
  exact absurd hsuffix (by decide)

/-- The path of a temporary file of the rule directory. -/
def RuleTemporary (directory path : CString) : Prop :=
  ∃ letters, path = fill (directory ++ RULE_TEMPORARY_TEMPLATE) letters

/-- A temporary file of the store or of the rule directory. -/
def Scratch (store : Store) (rules path : CString) : Prop :=
  Temporary store path ∨ RuleTemporary rules path

theorem artifact_not_scratch (store : Store) (rules name : CString) :
    ¬Scratch store rules (artifact_path store name) := by
  rintro (⟨letters, ht⟩ | ⟨letters, ht⟩)
  · exact artifact_path_ne_fill store name _ letters ht
  · exact artifact_path_ne_fill store name _ letters ht

theorem rule_not_scratch (store : Store) (rules directory name : CString) :
    ¬Scratch store rules (rule_path directory name) := by
  rintro (⟨letters, ht⟩ | ⟨letters, ht⟩)
  · exact rule_path_ne_fill directory name _ letters ht
  · exact rule_path_ne_fill directory name _ letters ht

/-! ## What an operation on a name may have done -/

/-- A path that an operation on this name has nothing to do with. -/
def Elsewhere (store : Store) (rules name path : CString) : Prop :=
  ¬Scratch store rules path ∧ path ≠ artifact_path store name ∧ path ≠ rule_path rules name

/-- Nothing elsewhere is touched, and the rule is there with its artifact only, unless the two
are as they were. -/
structure Moved (store : Store) (rules name : CString) (m0 m : Machine) : Prop where
  keeps : m0.disk.Keeps (Elsewhere store rules name) m.disk
  paired : (m.look (artifact_path store name)).isSome ∨ m.look (rule_path rules name) = none ∨
    (m.look (rule_path rules name) = m0.look (rule_path rules name) ∧
      m.look (artifact_path store name) = m0.look (artifact_path store name))

section moved

variable {store : Store} {rules name : CString} {m0 m : Machine}

/-- All files are as they were, but for temporary ones. -/
theorem Moved.of_keeps {P : CString → Prop} (h : m0.disk.Keeps P m.disk)
    (hP : ∀ path, ¬Scratch store rules path → P path) : Moved store rules name m0 m where
  keeps := h.mono fun path hp => hP path hp.1
  paired := .inr (.inr ⟨h.look _ (hP _ (rule_not_scratch store rules rules name)),
    h.look _ (hP _ (artifact_not_scratch store rules name))⟩)

theorem Moved.of_disk (h : m.disk = m0.disk) : Moved store rules name m0 m :=
  .of_keeps (P := fun _ => True) (h ▸ Disk.Keeps.refl) fun _ _ => trivial

theorem Moved.of_unchanged (h : Unchanged store m0 m) : Moved store rules name m0 m :=
  .of_keeps h fun _ hp ht => hp (.inl ht)

theorem Moved.of_published {content : Bytes}
    (h : Published store (artifact_path store name) content m0 m) :
    Moved store rules name m0 m where
  keeps := h.keeps.mono fun path hp => ⟨fun ht => hp.1 (.inl ht), hp.2.1⟩
  paired := by
    have := h.content
    unfold Machine.content at this
    split at this
    · exact .inl (Option.isSome_of_eq_some ‹_›)
    · contradiction

end moved

/-! ## The publication of a rule -/

/-- Everything is as it was, but for temporary rules and for the paths that `P` leaves out. -/
def KeptRules (rules : CString) (P : CString → Prop) (m0 m : Machine) : Prop :=
  m0.disk.Keeps (fun path => ¬RuleTemporary rules path ∧ P path) m.disk

/-- The file `id` is new, is still under its temporary path, and has these bytes. -/
structure RuleWriting (rules : CString) (m0 : Machine) (path : CString) (id : Nat)
    (written : Bytes) (m : Machine) : Prop where
  temporary : RuleTemporary rules path
  keeps : KeptRules rules (fun _ => True) m0 m
  look : m.look path = some (.file id)
  new : m0.disk.next ≤ id
  content : (m.disk.files id).content = written

/-- A path that was free has a file with this content; temporary files aside, the rest is as it
was. -/
structure RulePublished (rules path : CString) (content : Bytes) (m0 m : Machine) : Prop where
  free : m0.look path = none
  content : m.content path = some content
  keeps : KeptRules rules (· ≠ path) m0 m

section rule

open Process

variable {pid : Nat} {rules path path' : CString} {m0 m : Machine} {id : Nat}
  {written content : Bytes}

theorem RuleWriting.append (h : RuleWriting rules m0 path id written m) (bytes : Bytes) :
    RuleWriting rules m0 path id (written ++ bytes) (m.append id bytes) where
  temporary := h.temporary
  keeps := Disk.Keeps.append h.keeps h.new
  look := h.look
  new := h.new
  content := by simp [h.content]

theorem RuleWriting.create (h : KeptRules rules (fun _ => True) m0 m) (letters : Letters) :
    RuleWriting rules m0 (fill (rules ++ RULE_TEMPORARY_TEMPLATE) letters) m.disk.next []
      (m.create (fill (rules ++ RULE_TEMPORARY_TEMPLATE) letters) pid) where
  temporary := ⟨letters, rfl⟩
  keeps := Disk.Keeps.create h fun hn => hn.1 ⟨letters, rfl⟩
  look := Disk.look_create_self
  new := h.next
  content := by simp

theorem RuleWriting.link (h : RuleWriting rules m0 path id content m) (hfree : m.look path' = none)
    (hp : ¬RuleTemporary rules path') :
    RulePublished rules path' content m0 (m.link path path') where
  free := (h.keeps.look path' ⟨hp, trivial⟩).symm.trans hfree
  content := by
    have hlook : (m.disk.link path path').look path' = some (.file id) :=
      Disk.look_link_self h.look
    simp [Machine.content, Machine.look, hlook, h.content]
  keeps := Disk.Keeps.link (h.keeps.mono fun _ h => ⟨h.1, trivial⟩) fun hn => hn.2 rfl

theorem RulePublished.unlink (h : RulePublished rules path content m0 m)
    (hp : RuleTemporary rules path') (hpath : ¬RuleTemporary rules path) :
    RulePublished rules path content m0 (m.unlink path') where
  free := h.free
  content := by
    have hne : path ≠ path' := by
      rintro rfl
      exact hpath hp
    have hsame : SameAt m (m.unlink path') path :=
      sameAt_of_keeps (P := (· ≠ path')) (Disk.Keeps.refl.unlink (by simp)) hne
    exact hsame.2.trans h.content
  keeps := Disk.Keeps.unlink h.keeps fun hn => hn.1 hp

theorem wp_rule_write_all_complete {I : Machine → Prop} (fuel : Nat)
    (hI : ∀ written m, RuleWriting rules m0 path id written m → I m)
    (h : RuleWriting rules m0 path id written m) :
    wp (answer pid) Any I (rule_write_all fuel id content)
      (fun r m => (r = true → RuleWriting rules m0 path id (written ++ content) m) ∧
        ∃ written, RuleWriting rules m0 path id written m) m := by
  -- what is written and what is left make up the whole
  refine wp_loop (fun rest m => ∃ w, w ++ rest = written ++ content ∧
    RuleWriting rules m0 path id w m) (fun rest m ⟨w, _, h⟩ => hI w m h) ?_ fuel ⟨written, rfl, h⟩
  rintro rest m ⟨w, hw, h⟩
  split
  · rename_i hrest
    rw [hrest, List.append_nil] at hw
    exact ⟨fun _ => hw ▸ h, w, h⟩
  · refine wp_bind.mpr (wp_write (hI w m h) (fun n hn => ?_) fun errno => ?_)
    · have happend := h.append (rest.take n)
      have hrest : w ++ rest.take n ++ rest.drop n = written ++ content := by
        rw [List.append_assoc, List.take_append_drop, hw]
      split
      · contradiction
      · contradiction
      · exact ⟨fun hr => absurd hr (by decide), _, happend⟩
      · rename_i heq
        cases heq
        exact ⟨_, hrest, happend⟩
    · split
      · exact ⟨w, hw, h⟩
      · exact ⟨fun hr => absurd hr (by decide), w, h⟩
      · contradiction
      · contradiction

theorem wp_publish_cleanup {P : CString → Prop} {descriptor : Option Nat} {success : Bool}
    (hpath : RuleTemporary rules path) (h : KeptRules rules P m0 m) :
    wp (answer pid) Any (KeptRules rules P m0) (publish_cleanup descriptor path success)
      (fun r m => r = success ∧ KeptRules rules P m0 m) m := by
  have hend : wp (answer pid) Any (KeptRules rules P m0) (do
      let _ ← unlink path
      return success) (fun r m => r = success ∧ KeptRules rules P m0 m) m := by
    refine wp_bind.mpr (wp_unlink h (fun _ => ?_) (fun _ => ?_) fun _ _ => ?_)
    · exact ⟨rfl, Disk.Keeps.unlink h fun hn => hn.1 hpath⟩
    · exact ⟨rfl, h⟩
    · exact ⟨rfl, h⟩
  cases descriptor with
  | none => exact hend
  | some id => exact wp_bind.mpr (wp_status (.close _) h fun _ => hend)

/-- A rule that is published is complete, and one that is not leaves its path as it was. -/
theorem wp_publish_rule_complete (fuel : Nat) (inject : Bool) (hpath : ¬RuleTemporary rules path) :
    wp (answer pid) Any (fun m' => KeptRules rules (fun _ => True) m m' ∨
        RulePublished rules path content m m')
      (publish_rule fuel rules path content inject)
      (fun r m' => (r = true → RulePublished rules path content m m') ∧
        (r = false → KeptRules rules (fun _ => True) m m')) m := by
  have hfail : ∀ {descriptor p m'}, RuleTemporary rules p → KeptRules rules (fun _ => True) m m' →
      wp (answer pid) Any (fun m' => KeptRules rules (fun _ => True) m m' ∨
          RulePublished rules path content m m') (publish_cleanup descriptor p false)
        (fun r m' => (r = true → RulePublished rules path content m m') ∧
          (r = false → KeptRules rules (fun _ => True) m m')) m' := by
    intro descriptor p m' hp hm
    refine wp_mono (wp_publish_cleanup hp hm) (fun _ => .inl) ?_
    rintro _ m' ⟨rfl, h⟩
    exact ⟨fun hr => absurd hr (by decide), fun _ => h⟩
  have hstart : KeptRules rules (fun _ => True) m m := Disk.Keeps.refl
  refine wp_bind.mpr (wp_status .malloc (.inl hstart) fun r => ?_)
  refine wp_unless ⟨fun hr => absurd hr (by decide), fun _ => hstart⟩ fun _ => ?_
  refine wp_bind.mpr (wp_mkstemp (.inl hstart) (fun letters hfree => ?_) fun errno letters => ?_)
  · have hw : RuleWriting rules m (fill (rules ++ RULE_TEMPORARY_TEMPLATE) letters) m.disk.next []
        (m.create (fill (rules ++ RULE_TEMPORARY_TEMPLATE) letters) pid) :=
      RuleWriting.create hstart letters
    refine wp_bind.mpr (wp_status (.fchmod _) (.inl hw.keeps) fun r => ?_)
    refine wp_unless (hfail hw.temporary hw.keeps) fun _ => ?_
    refine wp_bind.mpr (wp_mono (wp_rule_write_all_complete fuel (fun _ _ h => .inl h.keeps) hw)
      (fun _ h => h) ?_)
    rintro r m1 ⟨hcomplete, written, hany⟩
    refine wp_unless (hfail hany.temporary hany.keeps) fun hr => ?_
    replace hw := hcomplete hr
    refine wp_bind.mpr (wp_status (.fsync _) (.inl hw.keeps) fun r => ?_)
    refine wp_unless (hfail hw.temporary hw.keeps) fun _ => ?_
    refine wp_bind.mpr (wp_status (.close _) (.inl hw.keeps) fun r => ?_)
    refine wp_unless (hfail hw.temporary hw.keeps) fun _ => ?_
    split
    · exact hfail hw.temporary hw.keeps
    · refine wp_bind.mpr (wp_link (.inl hw.keeps) (fun node hnode hfree => ?_) fun errno _ => ?_)
      · have hp := hw.link hfree hpath
        refine wp_bind.mpr (wp_unlink (.inr hp) (fun _ => ?_) (fun _ => ?_) fun _ _ => ?_)
        · exact ⟨fun _ => hp.unlink hw.temporary hpath, fun hr => absurd hr (by decide)⟩
        · exact ⟨fun _ => hp, fun hr => absurd hr (by decide)⟩
        · exact ⟨fun _ => hp, fun hr => absurd hr (by decide)⟩
      · exact hfail hw.temporary hw.keeps
  · exact hfail ⟨letters, rfl⟩ hstart

/-- The publication of a rule touches its path only, and not if it fails. -/
theorem wp_publish_rule (fuel : Nat) (inject : Bool) (hpath : ¬RuleTemporary rules path) :
    wp (answer pid) Any (KeptRules rules (· ≠ path) m) (publish_rule fuel rules path content inject)
      (fun r m' => KeptRules rules (· ≠ path) m m' ∧
        (r = false → KeptRules rules (fun _ => True) m m')) m := by
  have hweaken : ∀ {m'}, KeptRules rules (fun _ => True) m m' → KeptRules rules (· ≠ path) m m' :=
    fun h => h.mono fun p hp => ⟨hp.1, trivial⟩
  refine wp_mono (wp_publish_rule_complete fuel inject hpath) ?_ fun r m' h => ⟨?_, h.2⟩
  · rintro m' (h | h)
    · exact hweaken h
    · exact h.keeps
  · cases r with
    | true => exact (h.1 rfl).keeps
    | false => exact hweaken (h.2 rfl)

/-- The rollback removes the artifact, or says that it did not. -/
theorem wp_roll_back_outcome {store : Store} {environment : ApplicationEnvironment}
    {instance_name : Option CString} {I : Machine → Prop} (hI : I m)
    (hunlinked : ∀ n : InstanceName, instance_name = some n.name →
      I (m.unlink (artifact_path store n.name))) :
    wp (answer pid) Any I (roll_back store environment instance_name)
      (fun a m' => (a.result = .RULE_PUBLICATION_FAILED ∧ ∃ n : InstanceName,
          instance_name = some n.name ∧ m' = m.unlink (artifact_path store n.name)) ∨
        (a.result = .ROLLBACK_FAILED ∧ m' = m)) m := by
  have hremove : wp (answer pid) Any I (installed_instance_remove store instance_name)
      (fun removed m' => (removed = .SUCCESS ∧ ∃ n : InstanceName,
          instance_name = some n.name ∧ m' = m.unlink (artifact_path store n.name)) ∨
        (removed ≠ .SUCCESS ∧ m' = m)) m := by
    refine wp_mono (wp_installed_instance_remove instance_name) (fun m' h => h ▸ hI) ?_
    rintro removed m' (⟨hr, n, hn, -, hm⟩ | h)
    · exact .inl ⟨hr, n, hn, hm⟩
    · exact .inr h
  refine wp_ite_bind (Q := fun removed m' => (removed = StoreResult.SUCCESS ∧ ∃ n : InstanceName,
      instance_name = some n.name ∧ m' = m.unlink (artifact_path store n.name)) ∨
    (removed ≠ .SUCCESS ∧ m' = m)) (fun _ => .inr ⟨by decide, rfl⟩) (fun _ => hremove) ?_
  rintro removed m' (⟨hr, n, hn, rfl⟩ | ⟨hr, rfl⟩)
  · dsimp only
    rw [if_pos hr]
    exact .inl ⟨rfl, n, hn, rfl⟩
  · dsimp only
    rw [if_neg hr]
    refine wp_bind.mpr (wp_installed_instance_path hI (fun _ _ => ?_) fun _ _ _ => ?_)
    · exact .inr ⟨rfl, rfl⟩
    · exact .inr ⟨rfl, rfl⟩

/-- The rollback removes the artifact of its name, or nothing. -/
theorem wp_roll_back {store : Store} {environment : ApplicationEnvironment}
    {instance_name : Option CString} {I : Machine → Prop} (hI : I m)
    (hunlinked : ∀ n : InstanceName, instance_name = some n.name →
      I (m.unlink (artifact_path store n.name))) :
    wp (answer pid) Any I (roll_back store environment instance_name) (fun _ => I) m := by
  refine wp_mono (wp_roll_back_outcome hI hunlinked) (fun _ h => h) ?_
  rintro a m' (⟨-, n, hn, rfl⟩ | ⟨-, rfl⟩)
  · exact hunlinked n hn
  · exact hI

end rule

/-! ## The application -/

section application

open Process

variable {pid : Nat} {store : Store} {rules name : CString} {m0 m : Machine}

/-- A name whose artifact is published and whose rule is not there. -/
structure Unruled (store : Store) (rules name : CString) (m0 m : Machine) : Prop where
  keeps : m0.disk.Keeps (Elsewhere store rules name) m.disk
  artifact : (m.look (artifact_path store name)).isSome
  rule : m.look (rule_path rules name) = none

theorem Unruled.of_installed {config : RunConfig}
    (hname : ∀ k, config.instance_name = some k → k = name)
    (hrule : m0.look (rule_path rules name) = none) (h : Installed store config m0 m) :
    Unruled store rules name m0 m := by
  obtain ⟨source_path, n, -, hn, -, hp⟩ := h
  rw [hname _ hn] at hp
  have hmoved : Moved store rules name m0 m := .of_published hp
  refine ⟨hmoved.keeps, ?_, ?_⟩
  · have hcontent := hp.content
    unfold Machine.content at hcontent
    split at hcontent
    · exact Option.isSome_of_eq_some ‹_›
    · contradiction
  · refine (hp.keeps.look _ ⟨fun ht => ?_, (artifact_path_ne_rule_path store rules name name).symm⟩
      ).trans hrule
    exact rule_not_scratch store rules rules name (.inl ht)

theorem Unruled.moved (h : Unruled store rules name m0 m) : Moved store rules name m0 m :=
  ⟨h.keeps, .inl h.artifact⟩

/-- While the rule is published, the artifact is there. -/
theorem Unruled.moved_kept {m' : Machine} (h : Unruled store rules name m0 m)
    (hk : KeptRules rules (· ≠ rule_path rules name) m m') : Moved store rules name m0 m' where
  keeps := h.keeps.trans (hk.mono fun path hp => ⟨fun ht => hp.1 (.inr ht), hp.2.2⟩)
  paired := by
    have hlook : m'.look (artifact_path store name) = m.look (artifact_path store name) :=
      hk.look _ ⟨fun ht => artifact_not_scratch store rules name (.inr ht),
        artifact_path_ne_rule_path store rules name name⟩
    exact .inl (hlook ▸ h.artifact)

theorem Unruled.kept {m' : Machine} (h : Unruled store rules name m0 m)
    (hk : KeptRules rules (fun _ => True) m m') : Unruled store rules name m0 m' where
  keeps := h.keeps.trans (hk.mono fun path hp => ⟨fun ht => hp.1 (.inr ht), trivial⟩)
  artifact := by
    have hlook : m'.look (artifact_path store name) = m.look (artifact_path store name) :=
      hk.look _ ⟨fun ht => artifact_not_scratch store rules name (.inr ht), trivial⟩
    exact hlook ▸ h.artifact
  rule := (hk.look _ ⟨fun ht => rule_not_scratch store rules rules name (.inr ht), trivial⟩).trans
    h.rule

theorem Unruled.rolled_back (h : Unruled store rules name m0 m) :
    Moved store rules name m0 (m.unlink (artifact_path store name)) where
  keeps := Disk.Keeps.unlink h.keeps fun hn => hn.2.1 rfl
  paired := by
    refine .inr (.inl ?_)
    have hne := (artifact_path_ne_rule_path store rules name name).symm
    exact (Disk.look_unlink_ne hne).trans h.rule

theorem wp_installation_plan_apply (fuel : Nat) {environment : ApplicationEnvironment}
    {plan : InstallationPlan} (hrules : environment.udev_rule_directory = rules)
    (hname : ∀ k, plan.config.instance_name = some k → k = name) :
    wp (answer pid) Any (Moved store rules name m)
      (installation_plan_apply fuel store environment plan)
      (fun _ => Moved store rules name m) m := by
  have hsame : Moved store rules name m m := .of_disk rfl
  have hcreate : ∀ {Q : StoreResult → Machine → Prop},
      (∀ r m', Moved store rules name m m' → (r ≠ .SUCCESS ∨ Installed store plan.config m m') →
        Q r m') →
      wp (answer pid) Any (Moved store rules name m)
        (installed_instance_create fuel store plan.config) Q m := by
    have hinstalled : ∀ {m'}, Installed store plan.config m m' → Moved store rules name m m' := by
      rintro m' ⟨source_path, n, -, hn, -, hp⟩
      exact .of_published (hname _ hn ▸ hp)
    intro Q hQ
    refine wp_mono (wp_installed_instance_create fuel plan.config)
      (fun m' h => h.elim .of_unchanged hinstalled) fun r m' h => ?_
    by_cases hr : r = .SUCCESS
    · exact hQ r m' (hinstalled (h.2 hr)) (.inr (h.2 hr))
    · exact hQ r m' (.of_unchanged (h.1 hr)) (.inl hr)
  unfold installation_plan_apply
  split
  · rename_i resolution readiness _ _
    split
    · exact hsame
    split
    · refine wp_bind.mpr (hcreate fun r m' hm _ => ?_)
      split
      · exact hm
      · exact hm
    split
    · exact hsame
    refine wp_bind.mpr (wp_status .malloc hsame fun r => wp_unless hsame fun _ => ?_)
    cases hinstance : plan.config.instance_name with
    | none => exact hsame
    | some k =>
    obtain rfl := hname k hinstance
    refine wp_bind.mpr (wp_status .malloc hsame fun r => wp_unless hsame fun _ => ?_)
    rw [hrules]
    refine wp_bind.mpr (wp_lstat hsame (fun _ => hsame) (fun hrule => ?_) fun errno he => ?_)
    · refine wp_bind.mpr (hcreate fun r m1 hm hr => ?_)
      split
      · exact hm
      rename_i hs
      rw [not_not] at hs
      have hu := Unruled.of_installed hname hrule (hr.resolve_left (not_not.mpr hs))
      have hpath : ¬RuleTemporary rules (rule_path rules k) := fun ht =>
        rule_not_scratch store rules rules k (.inr ht)
      refine wp_bind.mpr (wp_mono (wp_publish_rule fuel _ hpath) (fun m' hk => hu.moved_kept hk) ?_)
      rintro published m2 ⟨hk, hfail⟩
      split
      · exact hu.moved_kept hk
      · rename_i hp
        have hu2 := hu.kept (hfail (by simpa using hp))
        refine wp_roll_back hu2.moved fun n hn => ?_
        exact Option.some.inj hn ▸ hu2.rolled_back
    · split
      · rename_i h
        exact absurd (Option.some.inj h) he
      · exact hsame
  · exact hsame

end application

/-! ## The uninstall -/

section uninstall

open Process

variable {pid : Nat} {store : Store} {rules name path : CString} {m0 m : Machine}

/-- A call that the reading of a response file makes. -/
def Reading (path : CString) (c : SystemCall) : Prop :=
  c = .malloc ∨ c = .getline ∨ c = .fopen path ∨ c = .fclose

theorem Reading.idle {c : SystemCall} (h : Reading path c) : Idle c := by
  rcases h with rfl | rfl | rfl | rfl
  all_goals exact fun _ _ _ => ⟨rfl, rfl⟩

theorem uses_read_lines (argc : Nat) (rest : List Bytes) :
    (response_file_read_lines argc rest).Uses (Reading path) := by
  have hmalloc : malloc.Uses (Reading path) := uses_ask.mpr (.inl rfl)
  have hgetline : getline.Uses (Reading path) := uses_ask.mpr (.inr (.inl rfl))
  induction rest generalizing argc with
  | nil => exact uses_bind hgetline fun r => uses_unless trivial trivial
  | cons line rest ih =>
    refine uses_bind hgetline fun r => uses_unless trivial ?_
    split
    · trivial
    split
    · trivial
    refine uses_bind hmalloc fun r => uses_unless trivial ?_
    refine uses_bind hmalloc fun r => uses_unless trivial ?_
    refine uses_bind (ih _) fun arguments => ?_
    split
    · trivial
    · trivial

theorem uses_response_file_read (path program_name : CString) :
    (response_file_read path program_name).Uses (Reading path) := by
  have hmalloc : malloc.Uses (Reading path) := uses_ask.mpr (.inl rfl)
  have hfopen : (fopen path).Uses (Reading path) := uses_ask.mpr (.inr (.inr (.inl rfl)))
  have hfclose : fclose.Uses (Reading path) := uses_ask.mpr (.inr (.inr (.inr rfl)))
  unfold response_file_read
  split
  · trivial
  refine uses_bind hfopen fun content => ?_
  split
  · trivial
  refine uses_bind hmalloc fun r => uses_unless ?_ ?_
  · exact uses_bind hfclose fun _ => trivial
  refine uses_bind (uses_read_lines 2 _) fun arguments => ?_
  split
  · exact uses_bind hfclose fun _ => trivial
  · exact uses_bind hfclose fun _ => uses_unless trivial trivial

theorem uses_managed_stage (query command : String) (not_required : Int) (unit : CString) :
    (managed_stage query command not_required unit).Uses Idle := by
  refine uses_bind (uses_ask.mpr fun _ _ _ => ⟨rfl, rfl⟩) fun status => ?_
  split
  · trivial
  split
  · trivial
  refine uses_bind (uses_ask.mpr fun _ _ _ => ⟨rfl, rfl⟩) fun status => ?_
  split
  · trivial
  · trivial

theorem uses_command (arguments : List CString) :
    (do return (← run_command arguments) = 0 : Proc Bool).Uses Idle :=
  uses_bind (uses_ask.mpr fun _ _ _ => ⟨rfl, rfl⟩) fun _ => trivial

theorem uses_default_trigger (source_path : CString) : (default_trigger source_path).Uses Idle := by
  refine uses_bind (uses_ask.mpr fun _ _ _ => ⟨rfl, rfl⟩) fun resolved => ?_
  split
  · trivial
  split
  · trivial
  · exact uses_command _

theorem uses_activate_removal (source : Option CString) :
    (activate_removal source).Uses Idle := by
  refine uses_bind (uses_command _) fun r => uses_unless trivial ?_
  split
  · trivial
  refine uses_bind (uses_ask.mpr fun _ _ _ => ⟨rfl, rfl⟩) fun present => ?_
  split
  · exact uses_bind (uses_default_trigger _) fun r => uses_unless trivial (uses_command _)
  · trivial

/-- What a removal does is what it says. -/
theorem wp_default_remove (path : CString) :
    wp (answer pid) Any (· = m) (default_remove path) (fun r m' =>
      (r = .SUCCESS ∧ (m.look path).isSome ∧ m' = m.unlink path) ∨
      (r = .NOT_REQUIRED ∧ m.look path = none ∧ m' = m) ∨ (r = .FAILED ∧ m' = m)) m := by
  refine wp_bind.mpr (wp_unlink rfl (fun h => ?_) (fun h => ?_) fun errno he => ?_)
  · exact .inl ⟨rfl, h, rfl⟩
  · exact .inr (.inl ⟨rfl, h, rfl⟩)
  · split
    · contradiction
    · rename_i h
      exact absurd (Option.some.inj h) he
    · exact .inr (.inr ⟨rfl, rfl⟩)

/-- The rule is gone. -/
structure Ruleless (store : Store) (rules name : CString) (m0 m : Machine) : Prop where
  keeps : m0.disk.Keeps (Elsewhere store rules name) m.disk
  rule : m.look (rule_path rules name) = none

theorem Ruleless.moved (h : Ruleless store rules name m0 m) : Moved store rules name m0 m :=
  ⟨h.keeps, .inr (.inl h.rule)⟩

theorem Ruleless.of_disk {m' : Machine} (h : Ruleless store rules name m0 m)
    (hm : m'.disk = m.disk) : Ruleless store rules name m0 m' :=
  ⟨hm ▸ h.keeps, (congrArg (Disk.look · _) hm).trans h.rule⟩

theorem Ruleless.unlink (h : Ruleless store rules name m0 m) :
    Ruleless store rules name m0 (m.unlink (artifact_path store name)) where
  keeps := Disk.Keeps.unlink h.keeps fun hn => hn.2.1 rfl
  rule := (Disk.look_unlink_ne (artifact_path_ne_rule_path store rules name name).symm).trans h.rule

theorem uses_activation (rule_result : StageResult) (source : Option CString) :
    (activation rule_result source).Uses Idle := by
  unfold activation
  split
  · exact uses_activate_removal source
  · trivial

/-- The artifact of a rule that is gone is removed, or stays. -/
theorem wp_remove_response (failed : Bool) (h : Ruleless store rules name m0 m) :
    wp (answer pid) Any (Moved store rules name m0)
      (remove_response failed (artifact_path store name))
      (fun _ => Moved store rules name m0) m := by
  unfold remove_response
  split
  · exact h.moved
  · refine wp_bind.mpr (wp_mono (wp_default_remove _) (fun m' hm => hm ▸ h.moved) ?_)
    rintro response_result m' (⟨rfl, -, rfl⟩ | ⟨rfl, -, rfl⟩ | ⟨rfl, rfl⟩)
    · exact h.unlink.moved
    · exact h.moved
    · exact h.moved

/-- The rule goes first, and the artifact only where the rule is gone. -/
theorem wp_uninstall_stages (unit program_name : CString) :
    wp (answer pid) Any (Moved store rules name m)
      (uninstall_stages (artifact_path store name) (rule_path rules name) unit program_name)
      (fun _ => Moved store rules name m) m := by
  have hidle : ∀ {α : Type} {p : Proc α} {m1 : Machine} {Q : α → Machine → Prop},
      p.Uses Idle → (∀ m2, m2.disk = m1.disk → Moved store rules name m m2) →
      (∀ a m2, m2.disk = m1.disk → Q a m2) →
      wp (answer pid) Any (Moved store rules name m) p Q m1 :=
    fun hp hI hQ => wp_mono (wp_of_idle hp fun _ => hI _) (fun _ h => h) hQ
  refine wp_bind.mpr (hidle (uses_managed_stage ..) (fun _ h => .of_disk h) ?_)
  intro stop_result m1 h1
  refine wp_bind.mpr (hidle (uses_managed_stage ..) (fun _ h => .of_disk (h.trans h1)) ?_)
  intro disable_result m2 h2
  replace h2 := h2.trans h1
  refine wp_bind.mpr (hidle ((uses_response_file_read ..).mono fun _ => Reading.idle)
    (fun _ h => .of_disk (h.trans h2)) ?_)
  intro argv m3 h3
  replace h3 := h3.trans h2
  have hsame : Moved store rules name m m3 := .of_disk h3
  refine wp_bind.mpr (wp_mono (wp_default_remove _) (fun m' h => h ▸ hsame) ?_)
  have hgone : ∀ {m4}, Ruleless store rules name m m4 → ∀ {rule_result},
      wp (answer pid) Any (Moved store rules name m) (do
        let activated ← activation rule_result (source_from_response ((argv.getD []).drop 2))
        remove_response (stop_result = .FAILED || disable_result = .FAILED ||
          rule_result = .FAILED || !activated) (artifact_path store name))
        (fun _ => Moved store rules name m) m4 := by
    intro m4 h4 rule_result
    refine wp_bind.mpr (hidle (uses_activation ..) (fun _ h => (h4.of_disk h).moved) ?_)
    exact fun activated m5 h5 => wp_remove_response _ (h4.of_disk h5)
  rintro rule_result m4 (⟨rfl, -, rfl⟩ | ⟨rfl, hnone, rfl⟩ | ⟨rfl, rfl⟩)
  · have hrule : Ruleless store rules name m (m3.unlink (rule_path rules name)) :=
      ⟨hsame.keeps.unlink fun hn => hn.2.2 rfl, Disk.look_unlink_self⟩
    exact hgone hrule
  · exact hgone ⟨hsame.keeps, hnone⟩
  · -- a rule that could not be removed keeps its artifact
    refine wp_bind.mpr (hidle (uses_activation ..) (fun _ h => .of_disk (h.trans h3)) ?_)
    intro activated m5 h5
    unfold remove_response
    rw [if_pos (by simp)]
    exact .of_disk (h5.trans h3)

theorem wp_uninstall_instance (program_name : CString) :
    wp (answer pid) Any (Moved store rules name m)
      (uninstall_instance store rules program_name name)
      (fun _ => Moved store rules name m) m := by
  have hsame : Moved store rules name m m := .of_disk rfl
  refine wp_bind.mpr (wp_installed_instance_path hsame (fun n hn => ?_) fun _ _ _ => hsame)
  obtain rfl := Option.some.inj hn
  refine wp_bind.mpr (wp_status .malloc hsame fun r => wp_unless hsame fun _ => ?_)
  split
  · exact hsame
  · rw [uninstall_rule_path_eq]
    exact wp_uninstall_stages _ _

/-- The name that an uninstall is about: its argument, or one of a list of names. -/
def About (store : Store) (rules : CString) (argument : Option CString) (m0 m : Machine) : Prop :=
  ∃ name, (∀ a, argument = some a → name = a) ∧ Moved store rules name m0 m

theorem wp_uninstall_command {environment : UninstallEnvironment} (program_name : CString)
    (argument : Option CString)
    (hstore : environment.installed_instance_directory = store.directory)
    (hrules : environment.udev_rule_directory = rules) :
    wp (answer pid) Any (About store rules argument m)
      (uninstall_command environment program_name argument)
      (fun _ => About store rules argument m) m := by
  have hsame : About store rules argument m m :=
    ⟨argument.getD (cstr ""), by simp +contextual, .of_disk rfl⟩
  obtain ⟨effective_uid, directory, rules, selection⟩ := environment
  subst hstore hrules
  unfold uninstall_command
  split
  · exact hsame
  split
  · exact hsame
  rw [dif_neg store.nonempty]
  refine wp_bind.mpr (wp_status .malloc hsame fun r => wp_unless hsame fun _ => ?_)
  refine wp_bind.mpr (wp_status .malloc hsame fun r => wp_unless hsame fun _ => ?_)
  cases argument with
  | some name =>
    have habout : ∀ {m'}, Moved store rules name m m' → About store rules (some name) m m' :=
      fun h => ⟨name, fun _ ha => Option.some.inj ha, h⟩
    refine wp_bind.mpr (wp_status .malloc hsame fun r => wp_unless hsame fun _ => ?_)
    refine wp_bind.mpr (wp_mono (wp_installed_instance_exists _ hsame) (fun _ h => h) ?_)
    rintro found m' ⟨rfl, -⟩
    split
    · exact wp_mono (wp_uninstall_instance program_name) (fun _ => habout) fun _ _ => habout
    · exact hsame
  | none =>
    refine wp_bind.mpr (wp_mono wp_installed_instance_enumerate (fun _ h => h ▸ hsame) ?_)
    rintro names m' ⟨rfl, -⟩
    split
    · exact hsame
    · exact hsame
    split
    · exact hsame
    split
    · exact hsame
    split
    · exact hsame
    rename_i name _
    have habout : ∀ {m'' : Machine},
        Moved store rules name m' m'' → About store rules none m' m'' :=
      fun h => ⟨name, nofun, h⟩
    refine wp_bind.mpr (wp_status .malloc hsame fun r => wp_unless hsame fun _ => ?_)
    exact wp_mono (wp_uninstall_instance program_name) (fun _ => habout) fun _ _ => habout

end uninstall

end input_proxy
