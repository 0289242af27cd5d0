-- The store of installed instances is a map from names to configurations: what
-- a process that may be killed leaves behind, and what is reported.
import InputProxy.InstalledInstances
import Mathlib.Data.List.Infix

open c_strings disks processes

namespace input_proxy

/-! ## Paths -/

theorem length_slash : (cstr "/").length = 1 := by decide

/-- The buffer has room for the path. -/
theorem artifact_path_eq (store : Store) (name : CString) :
    artifact_path store name = path_in store.directory (name ++ ARTIFACT_SUFFIX) := by
  unfold artifact_path
  rw [snprintf_eq]
  · exact CString.ext (by simp [path_in])
  · simp only [artifact_path_size, CString.length_append, length_slash]
    omega

theorem path_in_inj {directory s t : CString} :
    path_in directory s = path_in directory t ↔ s = t :=
  CString.append_right_inj

theorem artifact_path_inj {store : Store} {s t : CString} :
    artifact_path store s = artifact_path store t ↔ s = t := by
  rw [artifact_path_eq, artifact_path_eq, path_in_inj, CString.append_left_inj]

theorem letters_suffix (template : CString) (letters : Letters) :
    letters.text.bytes <:+ (fill template letters).bytes :=
  List.suffix_append ..

/-- A path with a short suffix that is not alphanumeric is not the path of a temporary file. -/
theorem fill_ne {template path : CString} {letters : Letters} (suffix : Bytes)
    (hs : suffix <:+ path.bytes) (hlength : suffix.length ≤ 6)
    (hbyte : ∃ byte ∈ suffix, is_alphanumeric byte = false) : path ≠ fill template letters := by
  rintro rfl
  obtain ⟨byte, hmem, hbyte⟩ := hbyte
  have hletters : suffix <:+ letters.text.bytes :=
    List.suffix_of_suffix_length_le hs (letters_suffix template letters) (by
      rw [show letters.text.bytes.length = 6 from letters.six]
      exact hlength)
  have := letters.alphanumeric byte (hletters.subset hmem)
  simp [hbyte] at this

theorem artifact_suffix (store : Store) (name : CString) :
    ARTIFACT_SUFFIX.bytes <:+ (artifact_path store name).bytes := by
  rw [artifact_path_eq]
  simp only [path_in, CString.bytes_append, ← List.append_assoc]
  exact List.suffix_append ..

theorem artifact_path_ne_fill (store : Store) (name template : CString) (letters : Letters) :
    artifact_path store name ≠ fill template letters :=
  fill_ne ARTIFACT_SUFFIX.bytes (artifact_suffix store name) (by decide) ⟨46, by decide, by decide⟩

/-- The path of a temporary file of the store. -/
def Temporary (store : Store) (path : CString) : Prop :=
  ∃ letters, path = fill (store.directory ++ ARTIFACT_TEMPLATE) letters

theorem artifact_not_temporary (store : Store) (name : CString) :
    ¬Temporary store (artifact_path store name) :=
  fun ⟨letters, h⟩ => artifact_path_ne_fill store name _ letters h

/-! ## What a creation leaves -/

/-- Everything but temporary files is as it was. -/
def Unchanged (store : Store) (m0 m : Machine) : Prop :=
  m0.disk.Keeps (fun path => ¬Temporary store path) m.disk

/-- A path that was free has a file with this content; temporary files aside, the rest is as it
was. -/
structure Published (store : Store) (path : CString) (content : Bytes) (m0 m : Machine) :
    Prop where
  free : m0.look path = none
  content : m.content path = some content
  keeps : m0.disk.Keeps (fun p => ¬Temporary store p ∧ p ≠ path) m.disk

/-- The file `id` is new, is still under its temporary path, and has these bytes. -/
structure Writing (store : Store) (m0 : Machine) (path : CString) (id : Nat) (written : Bytes)
    (m : Machine) : Prop where
  temporary : Temporary store path
  keeps : Unchanged store m0 m
  look : m.look path = some (.file id)
  new : m0.disk.next ≤ id
  content : (m.disk.files id).content = written

theorem Unchanged.of_eq {store : Store} {m0 m : Machine} (h : m = m0) : Unchanged store m0 m := by
  subst h
  exact Disk.Keeps.refl

theorem Unchanged.look_eq {store : Store} {m0 m : Machine} {path : CString}
    (h : Unchanged store m0 m) (hp : ¬Temporary store path) : m.look path = m0.look path :=
  h.look path hp

theorem Unchanged.unlink {store : Store} {m0 m : Machine} {path : CString}
    (h : Unchanged store m0 m) (hp : Temporary store path) :
    Unchanged store m0 (m.unlink path) :=
  Disk.Keeps.unlink h fun hn => hn hp

theorem Published.unlink {store : Store} {m0 m : Machine} {path path' : CString}
    {content : Bytes} (h : Published store path content m0 m) (hp : Temporary store path')
    (hpath : ¬Temporary store path) :
    Published store path content m0 (m.unlink path') := by
  have hne : path ≠ path' := by
    rintro rfl
    exact hpath hp
  refine ⟨h.free, ?_, Disk.Keeps.unlink h.keeps fun hn => hn.1 hp⟩
  have hc := h.content
  simp only [Machine.content, Machine.look, Machine.disk_unlink, Disk.look_unlink_ne hne,
    Disk.files_unlink] at hc ⊢
  exact hc

theorem Writing.append {store : Store} {m0 m : Machine} {path : CString} {id : Nat}
    {written : Bytes} (h : Writing store m0 path id written m) (bytes : Bytes) :
    Writing store m0 path id (written ++ bytes) (m.append id bytes) where
  temporary := h.temporary
  keeps := Disk.Keeps.append h.keeps h.new
  look := h.look
  new := h.new
  content := by simp [h.content]

theorem Writing.link {store : Store} {m0 m : Machine} {path path' : CString} {id : Nat}
    {content : Bytes} (h : Writing store m0 path id content m) (hfree : m.look path' = none)
    (hp : ¬Temporary store path') :
    Published store path' content m0 (m.link path path') where
  free := (h.keeps.look path' hp).symm.trans hfree
  content := by
    have hlook : (m.disk.link path path').look path' = some (.file id) :=
      Disk.look_link_self h.look
    simp [Machine.content, Machine.look, hlook, h.content]
  keeps := Disk.Keeps.link (h.keeps.mono fun _ h => h.1) fun hn => hn.2 rfl

theorem Unchanged.create {store : Store} {m0 m : Machine} (h : Unchanged store m0 m) (pid : Nat)
    (letters : Letters) :
    Writing store m0 (fill (store.directory ++ ARTIFACT_TEMPLATE) letters) m.disk.next []
      (m.create (fill (store.directory ++ ARTIFACT_TEMPLATE) letters) pid) where
  temporary := ⟨letters, rfl⟩
  keeps := Disk.Keeps.create h fun hn => hn ⟨letters, rfl⟩
  look := Disk.look_create_self
  new := h.next
  content := by simp

/-- A process that creates and is stopped has changed nothing, or has published. -/
def Stopped (store : Store) (path : CString) (content : Bytes) (m0 m : Machine) : Prop :=
  Unchanged store m0 m ∨ Published store path content m0 m

/-- What a creation with a result has done. -/
structure Created (store : Store) (path : CString) (content : Bytes) (m0 : Machine)
    (result : StoreResult) (m : Machine) : Prop where
  published : result = .SUCCESS → Published store path content m0 m
  occupied : result = .ALREADY_INSTALLED → (m0.look path).isSome
  unchanged : result ≠ .SUCCESS → Unchanged store m0 m

/-- The artifact of a configuration is published. -/
def Installed (store : Store) (config : RunConfig) (m0 m : Machine) : Prop :=
  ∃ source_path, ∃ n : InstanceName, config.source_path = some source_path ∧
    config.instance_name = some n.name ∧ newline ∉ source_path.bytes ∧
    Published store (artifact_path store n.name)
      (render_response source_path.bytes n.name.bytes config) m0 m

/-! ## The specs of the store -/

section specs

open Process

variable {pid : Nat} {store : Store} {m0 m : Machine} {path final_path : CString} {id : Nat}
  {content written : Bytes} {name : Option CString}

theorem Unchanged.refl : Unchanged store m m := Disk.Keeps.refl

theorem wp_store_write_all (fuel : Nat) {I : Machine → Prop}
    (hI : ∀ written m, Writing store m0 path id written m → I m)
    (h : Writing store m0 path id written m) :
    wp (answer pid) Any I (store_write_all fuel id content)
      (fun r m => (r = true → Writing store m0 path id (written ++ content) m) ∧
        ∃ written, Writing store m0 path id written m) m := by
  refine wp_loop (fun rest m => ∃ w, w ++ rest = written ++ content ∧
    Writing store m0 path id w m) (fun rest m ⟨w, _, h⟩ => hI w m h) ?_ fuel ⟨written, rfl, h⟩
  rintro rest m ⟨w, hw, h⟩
  split
  · rename_i hrest
    rw [hrest, List.append_nil] at hw
    exact ⟨fun _ => hw ▸ h, w, h⟩
  · refine wp_bind.mpr (wp_write (hI w m h) (fun n hn => ?_) fun errno => ?_)
    · refine ⟨w ++ rest.take n, ?_, h.append _⟩
      rw [List.append_assoc, List.take_append_drop, hw]
    · split
      · exact ⟨w, hw, h⟩
      · exact ⟨nofun, w, h⟩
      · contradiction

/-- The cleanup removes the temporary file and has the result that it was given. -/
theorem wp_create_cleanup {descriptor : Option Nat} {temporary_path : Option CString}
    {result : StoreResult} {I P : Machine → Prop} (hI : ∀ m, P m → I m)
    (hunlink : ∀ path, temporary_path = some path → ∀ m, P m →
      P (m.unlink path)) (hP : P m) :
    wp (answer pid) Any I (create_cleanup descriptor temporary_path result)
      (fun r m => r = result ∧ P m) m := by
  cases temporary_path with
  | none =>
    cases descriptor with
    | none => exact ⟨rfl, hP⟩
    | some id => exact wp_bind.mpr (wp_status (.close _) (hI m hP) fun _ => ⟨rfl, hP⟩)
  | some path =>
    have hend : wp (answer pid) Any I (do
        let _ ← unlink path
        return result) (fun r m => r = result ∧ P m) m := by
      refine wp_bind.mpr (wp_unlink (hI m hP) (fun _ => ?_) (fun _ => ?_) fun _ _ => ?_)
      · exact ⟨rfl, hunlink path rfl m hP⟩
      · exact ⟨rfl, hP⟩
      · exact ⟨rfl, hP⟩
    cases descriptor with
    | none => exact hend
    | some id => exact wp_bind.mpr (wp_status (.close _) (hI m hP) fun _ => hend)

/-- From `mkstemp` on: success publishes, and a failure changes nothing. -/
theorem wp_create_artifact (fuel : Nat) (hpath : ¬Temporary store final_path)
    (h : Unchanged store m0 m) :
    wp (answer pid) Any (Stopped store final_path content m0)
      (create_artifact fuel store final_path content) (Created store final_path content m0) m := by
  have hstop : ∀ {p id w m}, Writing store m0 p id w m → Stopped store final_path content m0 m :=
    fun h => .inl h.keeps
  have hfail : ∀ {descriptor p result m}, Temporary store p → Unchanged store m0 m →
      result ≠ .SUCCESS → (result = .ALREADY_INSTALLED → (m0.look final_path).isSome) →
      wp (answer pid) Any (Stopped store final_path content m0)
        (create_cleanup descriptor (some p) result) (Created store final_path content m0) m := by
    intro descriptor p result m hp hm hr ha
    refine wp_mono (wp_create_cleanup (P := Unchanged store m0) (fun _ => .inl) ?_ hm)
      (fun _ h => h) ?_
    · rintro _ ⟨⟩ m hm
      exact hm.unlink hp
    · rintro _ m ⟨rfl, hm⟩
      exact ⟨fun h => absurd h hr, ha, fun _ => hm⟩
  have hfailed : ∀ {descriptor p m}, Temporary store p → Unchanged store m0 m →
      wp (answer pid) Any (Stopped store final_path content m0)
        (create_cleanup descriptor (some p) .CREATE_FAILED)
        (Created store final_path content m0) m :=
    fun hp hm => hfail hp hm (by decide) nofun
  refine wp_bind.mpr (wp_mkstemp (.inl h) (fun letters hfree => ?_) fun errno letters => ?_)
  · have hw := h.create pid letters
    refine wp_bind.mpr (wp_status (.fchmod _) (hstop hw) fun r => ?_)
    refine wp_unless (hfailed hw.temporary hw.keeps) fun _ => ?_
    refine wp_bind.mpr (wp_mono (wp_store_write_all fuel (fun _ _ => hstop) hw)
      (fun _ h => h) fun r m hr => ?_)
    obtain ⟨hr, written, hany⟩ := hr
    refine wp_unless (hfailed hany.temporary hany.keeps) fun hr' => ?_
    replace hw := hr hr'
    refine wp_bind.mpr (wp_status (.fsync _) (hstop hw) fun r => ?_)
    refine wp_unless (hfailed hw.temporary hw.keeps) fun _ => ?_
    refine wp_bind.mpr (wp_status (.close _) (hstop hw) fun r => ?_)
    refine wp_unless (hfailed hw.temporary hw.keeps) fun _ => ?_
    refine wp_bind.mpr (wp_link (hstop hw) (fun node hnode hfree => ?_) fun errno he => ?_)
    · have hp := hw.link hfree hpath
      have hdone : ∀ {temporary m}, (∀ p, temporary = some p → Temporary store p) →
          Published store final_path content m0 m →
          wp (answer pid) Any (Stopped store final_path content m0)
            (create_cleanup none temporary .SUCCESS) (Created store final_path content m0) m := by
        intro temporary m ht hm
        refine wp_mono (wp_create_cleanup (P := Published store final_path content m0)
          (fun _ => .inr) ?_ hm) (fun _ h => h) ?_
        · exact fun p hp m hm => hm.unlink (ht p hp) hpath
        · rintro _ m ⟨rfl, hm⟩
          exact ⟨fun _ => hm, nofun, fun h => absurd rfl h⟩
      refine wp_bind.mpr (wp_unlink (.inr hp) (fun _ => ?_) (fun _ => ?_) fun _ _ => ?_)
      · exact hdone nofun (hp.unlink hw.temporary hpath)
      · exact hdone (fun p hp => by cases hp; exact hw.temporary) hp
      · exact hdone (fun p hp => by cases hp; exact hw.temporary) hp
    · refine hfail hw.temporary hw.keeps ?_ ?_
      · split <;> simp
      · split
        · rename_i heq
          exact fun _ => hw.keeps.look_eq hpath ▸ he heq
        · nofun
  · refine hfail ⟨letters, rfl⟩ h ?_ ?_ <;> split <;> simp

theorem wp_installed_instance_path {I : Machine → Prop}
    {Q : Except StoreResult CString → Machine → Prop} (hI : I m)
    (hok : ∀ n : InstanceName, name = some n.name → Q (.ok (artifact_path store n.name)) m)
    (hfail : ∀ result, result ≠ .SUCCESS → result ≠ .ALREADY_INSTALLED → Q (.error result) m) :
    wp (answer pid) Any I (installed_instance_path store name) Q m := by
  unfold installed_instance_path
  rcases store_validate_name_cases name with ⟨n, rfl, hn⟩ | ⟨hs, ha⟩
  · rw [hn]
    refine wp_bind.mpr (wp_status .malloc hI fun r => ?_)
    exact wp_unless (hfail _ (by decide) (by decide)) fun _ => hok n rfl
  · split
    · contradiction
    · exact hfail _ hs ha

/-- A process that changes nothing can be stopped anywhere. -/
theorem wp_installed_instance_exists (name : Option CString) {I : Machine → Prop} (hI : I m) :
    wp (answer pid) Any I (installed_instance_exists store name)
      (fun r m' => m' = m ∧ ∀ found, r = .ok found → ∃ n : InstanceName, name = some n.name ∧
        (found = true ↔ (m.look (artifact_path store n.name)).isSome)) m := by
  refine wp_bind.mpr (wp_installed_instance_path hI (fun n hn => ?_) fun result _ _ => ?_)
  · refine wp_bind.mpr (wp_lstat hI (fun h => ?_) (fun h => ?_) fun errno he => ?_)
    · exact ⟨rfl, fun found hf => ⟨n, hn, by cases hf; simp [h]⟩⟩
    · exact ⟨rfl, fun found hf => ⟨n, hn, by cases hf; simp [h]⟩⟩
    · split
      · contradiction
      · rename_i h
        exact absurd (Option.some.inj h) he
      · exact ⟨rfl, nofun⟩
  · exact ⟨rfl, nofun⟩

theorem wp_installed_instance_create (fuel : Nat) (config : RunConfig) :
    wp (answer pid) Any (fun m' => Unchanged store m m' ∨ Installed store config m m')
      (installed_instance_create fuel store config)
      (fun r m' => (r ≠ .SUCCESS → Unchanged store m m') ∧
        (r = .SUCCESS → Installed store config m m')) m := by
  have hrefused : ∀ {r : StoreResult}, r ≠ .SUCCESS → (r ≠ .SUCCESS → Unchanged store m m) ∧
      (r = .SUCCESS → Installed store config m m) :=
    fun hr => ⟨fun _ => .refl, fun h => absurd h hr⟩
  unfold installed_instance_create
  cases hsource : config.source_path with
  | none => exact hrefused (by decide)
  | some source_path =>
  dsimp only
  split
  · exact hrefused (by decide)
  rename_i hline
  refine wp_bind.mpr (wp_installed_instance_path (.inl .refl) (fun n hn => ?_)
    fun result hr _ => hrefused hr)
  rw [hn]
  refine wp_bind.mpr (wp_status .malloc (.inl .refl) fun r => ?_)
  refine wp_unless (hrefused (by decide)) fun _ => ?_
  refine wp_bind.mpr (wp_status .malloc (.inl .refl) fun r => ?_)
  refine wp_unless (hrefused (by decide)) fun _ => ?_
  refine wp_mono (wp_create_artifact fuel (artifact_not_temporary store n.name) .refl) ?_ ?_
  · rintro m' (h | h)
    · exact .inl h
    · exact .inr ⟨source_path, n, hsource, hn, hline, h⟩
  · exact fun r m' h => ⟨h.unchanged,
      fun hr => ⟨source_path, n, hsource, hn, hline, h.published hr⟩⟩

/-- A removal unlinks the path of its name, or does nothing. -/
theorem wp_installed_instance_remove (name : Option CString) :
    wp (answer pid) Any (· = m) (installed_instance_remove store name)
      (fun r m' => (r = .SUCCESS ∧ ∃ n : InstanceName, name = some n.name ∧
          (m.look (artifact_path store n.name)).isSome ∧
          m' = m.unlink (artifact_path store n.name)) ∨
        (r ≠ .SUCCESS ∧ m' = m)) m := by
  refine wp_bind.mpr (wp_installed_instance_path rfl (fun n hn => ?_) fun result hr _ => ?_)
  · refine wp_bind.mpr (wp_unlink rfl (fun h => ?_) (fun h => ?_) fun errno he => ?_)
    · exact .inl ⟨rfl, n, hn, h, rfl⟩
    · exact .inr ⟨nofun, rfl⟩
    · split
      · contradiction
      · rename_i h
        exact absurd (Option.some.inj h) he
      · exact .inr ⟨nofun, rfl⟩
  · exact .inr ⟨hr, rfl⟩

/-- The name that an entry of the directory is reported by. -/
def reported (store : Store) (m : Machine) (filename : CString) : Option CString :=
  match strip_artifact_suffix filename, m.look (path_in store.directory filename) with
  | some name, some (.file _) =>
    if store_validate_name (some name) = .SUCCESS then some name else none
  | _, _ => none

/-- An enumeration changes nothing, and what it reports is this list. -/
def Enumerated (m : Machine) (expected : List CString)
    (r : Except StoreResult (List CString)) (m' : Machine) : Prop :=
  m' = m ∧ ∀ result, r = .ok result → result = expected

theorem wp_enumerate_failure (expected : List CString) (result : StoreResult) :
    wp (answer pid) Any (· = m) (do
      let _ ← closedir
      return Except.error result) (Enumerated m expected) m :=
  wp_bind.mpr (wp_status .closedir rfl fun _ => ⟨rfl, nofun⟩)

theorem wp_enumerate_entries (filenames names : List CString) :
    wp (answer pid) Any (· = m) (enumerate_entries store filenames names)
      (Enumerated m (sort_names (names ++ filenames.filterMap (reported store m)))) m := by
  induction filenames generalizing names with
  | nil =>
    refine wp_bind.mpr (wp_status .readdir rfl fun r => ?_)
    refine wp_unless (wp_enumerate_failure ..) fun _ => ?_
    refine wp_bind.mpr (wp_status .closedir rfl fun r => wp_unless ⟨rfl, nofun⟩ fun _ => ?_)
    exact ⟨rfl, fun result h => by cases h; simp⟩
  | cons filename rest ih =>
    have hskip : reported store m filename = none →
        wp (answer pid) Any (· = m) (enumerate_entries store rest names) (Enumerated m
          (sort_names (names ++ (filename :: rest).filterMap (reported store m)))) m := by
      intro hnone
      rw [List.filterMap_cons_none hnone]
      exact ih names
    refine wp_bind.mpr (wp_status .readdir rfl fun r => ?_)
    refine wp_unless (wp_enumerate_failure ..) fun _ => ?_
    cases hstrip : strip_artifact_suffix filename with
    | none => exact hskip (by simp [reported, hstrip])
    | some name =>
    refine wp_bind.mpr (wp_status .malloc rfl fun r => ?_)
    refine wp_unless (wp_enumerate_failure ..) fun _ => ?_
    split
    · rename_i hname
      refine hskip ?_
      unfold reported
      split
      · simp_all
      · rfl
    · rename_i hname
      rw [not_not] at hname
      refine wp_bind.mpr (wp_fstatat rfl (fun id hid => ?_) (fun hother => ?_)
        (wp_enumerate_failure ..))
      · refine wp_bind.mpr (wp_status .malloc rfl fun r => ?_)
        refine wp_unless (wp_enumerate_failure ..) fun _ => ?_
        have hsome : reported store m filename = some name := by
          simp [reported, hstrip, hid, hname]
        rw [List.filterMap_cons_some hsome]
        simpa using ih (names ++ [name])
      · exact hskip (by simp [reported, hstrip, hother])

theorem wp_installed_instance_enumerate :
    wp (answer pid) Any (· = m) (installed_instance_enumerate store)
      (fun r m' => m' = m ∧ ∀ result, r = .ok result → ∃ before, result =
        sort_names ((m.listing store.directory before).filterMap (reported store m))) m := by
  refine wp_bind.mpr (wp_opendir rfl (fun before => ?_) ⟨rfl, nofun⟩)
  refine wp_mono (wp_enumerate_entries _ []) (fun _ h => h) ?_
  exact fun r m' h => ⟨h.1, fun result hr => ⟨before, h.2 result hr⟩⟩

end specs

/-! ## What is reported -/

theorem filename_in_path_in {directory filename : CString} (hslash : slash ∉ filename.bytes)
    (hlength : 0 < filename.length) :
    filename_in directory (path_in directory filename) = some filename := by
  unfold filename_in path_in
  rw [if_pos]
  · exact congrArg some (CString.ext (by simp [CString.length]))
  · refine ⟨by simp, by simpa [CString.length] using hslash, ?_⟩
    simp only [CString.length_append]
    omega

theorem path_in_of_filename_in {directory path filename : CString}
    (h : filename_in directory path = some filename) : path = path_in directory filename := by
  unfold filename_in at h
  dsimp only at h
  split at h
  · rename_i hin
    obtain ⟨rest, hrest⟩ := List.isPrefixOf_iff_prefix.mp hin.1
    obtain rfl := Option.some.inj h
    refine CString.ext ?_
    simp [path_in, ← hrest, CString.length]
  · contradiction

theorem strip_artifact_suffix_append {name : CString} (h : 0 < name.length) :
    strip_artifact_suffix (name ++ ARTIFACT_SUFFIX) = some name := by
  unfold strip_artifact_suffix
  have hlength : (name ++ ARTIFACT_SUFFIX).length - ARTIFACT_SUFFIX.length = name.length := by
    simp
  rw [hlength]
  dsimp only
  rw [if_neg]
  · refine congrArg some (CString.ext ?_)
    simp [CString.length]
  · rw [not_or, not_le, not_ne_iff]
    refine ⟨?_, by simp [CString.length]⟩
    rw [CString.length_append]
    omega

theorem append_of_strip_artifact_suffix {filename name : CString}
    (h : strip_artifact_suffix filename = some name) : filename = name ++ ARTIFACT_SUFFIX := by
  unfold strip_artifact_suffix at h
  dsimp only at h
  split at h
  · contradiction
  · rename_i hs
    obtain ⟨-, hs⟩ := not_or.mp hs
    obtain rfl := Option.some.inj h
    refine CString.ext ?_
    rw [CString.bytes_append, ← not_ne_iff.mp hs]
    exact (List.take_append_drop ..).symm

theorem append_of_reported {store : Store} {m : Machine} {filename name : CString}
    (h : reported store m filename = some name) : filename = name ++ ARTIFACT_SUFFIX := by
  unfold reported at h
  split at h
  · rename_i hstrip _
    split at h
    · exact append_of_strip_artifact_suffix (by simpa [h] using hstrip)
    · contradiction
  · contradiction

/-- A name is reported for the file that has it. -/
theorem reported_append {store : Store} {m : Machine} (name : CString) :
    reported store m (name ++ ARTIFACT_SUFFIX) = some name ↔
      (∃ n : InstanceName, n.name = name) ∧
        ∃ id, m.look (artifact_path store name) = some (.file id) := by
  rw [artifact_path_eq]
  constructor
  · intro h
    have happend := append_of_reported h
    unfold reported at h
    split at h
    · rename_i name' id hstrip hlook
      have hname := append_of_strip_artifact_suffix hstrip
      obtain rfl := CString.append_left_inj.mp hname
      split at h
      · rename_i hvalid
        rcases store_validate_name_cases (some name) with ⟨n, hn, -⟩ | ⟨hn, -⟩
        · exact ⟨⟨n, (Option.some.inj hn).symm⟩, id, hlook⟩
        · exact absurd hvalid hn
      · contradiction
    · contradiction
  · rintro ⟨⟨n, rfl⟩, id, hlook⟩
    have hvalid : store_validate_name (some n.name) = .SUCCESS := by
      simp [store_validate_name, n.accepted]
    simp [reported, strip_artifact_suffix_append n.length_pos, hlook, hvalid]

theorem listing_perm (store : Store) (m : Machine) (before : CString → CString → Bool) :
    ((m.listing store.directory before).filterMap (reported store m)).Perm
      ((m.disk.paths.filterMap (filename_in store.directory)).filterMap (reported store m)) := by
  refine ((List.mergeSort_perm _ before).filterMap _).trans ?_
  -- `.` and `..` are too short for the suffix
  rw [List.filterMap_cons_none, List.filterMap_cons_none]
  · rfl
  · rfl

theorem mem_listing {store : Store} {m : Machine} {before : CString → CString → Bool}
    {name : CString} :
    name ∈ (m.listing store.directory before).filterMap (reported store m) ↔
      (∃ n : InstanceName, n.name = name) ∧
        ∃ id, m.look (artifact_path store name) = some (.file id) := by
  rw [(listing_perm store m before).mem_iff]
  simp only [List.mem_filterMap]
  constructor
  · rintro ⟨filename, -, h⟩
    obtain rfl := append_of_reported h
    exact (reported_append name).mp h
  · intro h
    refine ⟨name ++ ARTIFACT_SUFFIX, ⟨artifact_path store name, ?_, ?_⟩,
      (reported_append name).mpr h⟩
    · rw [Disk.mem_paths]
      obtain ⟨-, id, hid⟩ := h
      exact Option.isSome_of_eq_some hid
    · obtain ⟨⟨n, rfl⟩, -⟩ := h
      rw [artifact_path_eq, filename_in_path_in]
      · have := n.not_mem not_name_byte_slash
        simp only [CString.bytes_append, List.mem_append, not_or]
        exact ⟨this, by decide⟩
      · have := n.length_pos
        simp only [CString.length_append]
        omega

theorem listing_nodup {store : Store} {m : Machine} {before : CString → CString → Bool} :
    ((m.listing store.directory before).filterMap (reported store m)).Nodup := by
  rw [(listing_perm store m before).nodup_iff]
  refine List.Nodup.filterMap ?_ (List.Nodup.filterMap ?_ m.disk.paths_nodup)
  · intro s t name hs ht
    rw [append_of_reported (Option.mem_def.mp hs), append_of_reported (Option.mem_def.mp ht)]
  · intro s t filename hs ht
    rw [path_in_of_filename_in (Option.mem_def.mp hs),
      path_in_of_filename_in (Option.mem_def.mp ht)]

theorem mem_sort_names {names : List CString} {name : CString} :
    name ∈ sort_names names ↔ name ∈ names :=
  (List.mergeSort_perm names _).mem_iff

/-- The names are in `strcmp` order, and no two are equal. -/
theorem sort_names_strict {names : List CString} (h : names.Nodup) :
    (sort_names names).Pairwise CString.Lt := by
  have hsorted : (sort_names names).Pairwise fun s t => CString.le s t = true :=
    List.pairwise_mergeSort
      (fun a b c hab hbc => by
        simp only [CString.le, decide_eq_true_eq] at *
        exact List.le_trans hab hbc)
      (fun a b => by
        simp only [CString.le, Bool.or_eq_true, decide_eq_true_eq]
        exact List.le_total ..) names
  have hnodup : (sort_names names).Nodup := (List.mergeSort_perm names _).nodup_iff.mpr h
  refine (hsorted.and hnodup).imp fun {s t} hst => ?_
  simp only [CString.le, decide_eq_true_eq] at hst
  exact (List.le_iff_lt_or_eq.mp hst.1).resolve_right fun heq => hst.2 (CString.ext heq)

end input_proxy
