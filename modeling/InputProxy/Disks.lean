-- A disk: what its paths stand for, and the files behind them by number. Bytes
-- are written to a file; links and unlinks change the paths only.
import Mathlib.Data.List.AList
import Mathlib.Logic.Function.Basic

namespace disks

/-- What a path stands for: a regular file, or a directory, a symbolic link and the like. -/
inductive Node
  | file (id : Nat)
  | other
deriving DecidableEq

structure File (Owner Byte : Type) where
  owner : Option Owner
  content : List Byte

/-- A path stands for a file that was made, so the number of the next file is free. -/
structure Disk (Path Owner Byte : Type) [DecidableEq Path] where
  entries : AList fun _ : Path => Node
  files : Nat → File Owner Byte
  next : Nat
  made : ∀ path id, entries.lookup path = some (.file id) → id < next

variable {Path Owner Byte : Type} [DecidableEq Path]

namespace Disk

variable (d : Disk Path Owner Byte)

def look (path : Path) : Option Node := d.entries.lookup path

def paths : List Path := d.entries.keys

theorem look_lt {d : Disk Path Owner Byte} {path : Path} {id : Nat}
    (h : d.look path = some (.file id)) : id < d.next :=
  d.made path id h

theorem mem_paths {path : Path} : path ∈ d.paths ↔ (d.look path).isSome := by
  rw [paths, look, AList.lookup_isSome, AList.mem_keys]

theorem paths_nodup : d.paths.Nodup := d.entries.keys_nodup

/-! ## Operations -/

/-- A new file under a path. -/
def create (path : Path) (owner : Owner) : Disk Path Owner Byte where
  entries := d.entries.insert path (.file d.next)
  files := Function.update d.files d.next ⟨some owner, []⟩
  next := d.next + 1
  made path' id h := by
    by_cases hp : path' = path
    · subst hp
      rw [AList.lookup_insert] at h
      obtain rfl : d.next = id := by simpa using h
      exact Nat.lt_succ_self _
    · rw [AList.lookup_insert_ne hp] at h
      exact Nat.lt_succ_of_lt (d.made path' id h)

/-- Bytes at the end of a file. -/
def append (id : Nat) (bytes : List Byte) : Disk Path Owner Byte :=
  { d with
    files := Function.update d.files id
      { d.files id with content := (d.files id).content ++ bytes } }

/-- A second path for what the first one stands for. -/
def link (path path' : Path) : Disk Path Owner Byte :=
  match h : d.entries.lookup path with
  | none => d
  | some node =>
    { d with
      entries := d.entries.insert path' node
      made := fun p id hid => by
        by_cases hp : p = path'
        · subst hp
          rw [AList.lookup_insert] at hid
          exact d.made path id (h.trans hid)
        · rw [AList.lookup_insert_ne hp] at hid
          exact d.made p id hid }

def unlink (path : Path) : Disk Path Owner Byte :=
  { d with
    entries := d.entries.erase path
    made := fun p id h => by
      by_cases hp : p = path
      · subst hp
        simp at h
      · rw [AList.lookup_erase_ne hp] at h
        exact d.made p id h }

variable {d} {path path' path'' : Path} {owner : Owner} {id id' : Nat} {bytes : List Byte}

@[simp] theorem look_create_self : (d.create path owner).look path = some (.file d.next) :=
  AList.lookup_insert _

@[simp] theorem look_create_ne (h : path' ≠ path) :
    (d.create path owner).look path' = d.look path' :=
  AList.lookup_insert_ne h

@[simp] theorem next_create : (d.create path owner).next = d.next + 1 := rfl

@[simp] theorem files_create_next : (d.create path owner).files d.next = ⟨some owner, []⟩ :=
  Function.update_self ..

@[simp] theorem files_create_ne (h : id ≠ d.next) : (d.create path owner).files id = d.files id :=
  Function.update_of_ne h ..

@[simp] theorem look_append : (d.append id bytes).look path = d.look path := rfl

@[simp] theorem next_append : (d.append id bytes).next = d.next := rfl

@[simp] theorem files_append_self : (d.append id bytes).files id =
    ⟨(d.files id).owner, (d.files id).content ++ bytes⟩ :=
  Function.update_self ..

@[simp] theorem files_append_ne (h : id' ≠ id) :
    (d.append id bytes).files id' = d.files id' :=
  Function.update_of_ne h ..

theorem entries_link {node : Node} (h : d.look path = some node) :
    (d.link path path').entries = d.entries.insert path' node := by
  unfold link
  unfold look at h
  split <;> simp_all

@[simp] theorem look_link_self {node : Node} (h : d.look path = some node) :
    (d.link path path').look path' = some node := by
  rw [look, entries_link h, AList.lookup_insert]

@[simp] theorem look_link_ne (h : path'' ≠ path') :
    (d.link path path').look path'' = d.look path'' := by
  unfold link look
  split
  · rfl
  · exact AList.lookup_insert_ne h

@[simp] theorem files_link : (d.link path path').files = d.files := by
  unfold link
  split <;> rfl

@[simp] theorem next_link : (d.link path path').next = d.next := by
  unfold link
  split <;> rfl

@[simp] theorem look_unlink_self : (d.unlink path).look path = none := AList.lookup_erase ..

@[simp] theorem look_unlink_ne (h : path' ≠ path) : (d.unlink path).look path' = d.look path' :=
  AList.lookup_erase_ne h

@[simp] theorem files_unlink : (d.unlink path).files = d.files := rfl

@[simp] theorem next_unlink : (d.unlink path).next = d.next := rfl

/-! ## What stays -/

/-- The paths of `P` stand for what they stood for, and the files of then have their bytes. -/
structure Keeps (P : Path → Prop) (d d' : Disk Path Owner Byte) : Prop where
  look : ∀ path, P path → d'.look path = d.look path
  files : ∀ id < d.next, d'.files id = d.files id
  next : d.next ≤ d'.next

namespace Keeps

variable {P P' : Path → Prop} {d0 d1 : Disk Path Owner Byte}

theorem refl : Keeps P d d := ⟨fun _ _ => rfl, fun _ _ => rfl, Nat.le_refl _⟩

theorem trans (h : Keeps P d0 d1) (h' : Keeps P d1 d) : Keeps P d0 d where
  look path hp := (h'.look path hp).trans (h.look path hp)
  files id hid := (h'.files id (Nat.lt_of_lt_of_le hid h.next)).trans (h.files id hid)
  next := Nat.le_trans h.next h'.next

theorem mono (h : Keeps P d0 d) (hP : ∀ path, P' path → P path) : Keeps P' d0 d :=
  ⟨fun path hp => h.look path (hP path hp), h.files, h.next⟩

theorem create (h : Keeps P d0 d) (hp : ¬P path) : Keeps P d0 (d.create path owner) := by
  refine h.trans ⟨fun p hP => look_create_ne ?_, fun id hid => files_create_ne ?_, ?_⟩
  · rintro rfl
    exact hp hP
  · omega
  · simp

theorem append (h : Keeps P d0 d) (hid : d0.next ≤ id) : Keeps P d0 (d.append id bytes) where
  look := h.look
  files id' hid' := by
    rw [files_append_ne (by omega)]
    exact h.files id' hid'
  next := h.next

theorem link (h : Keeps P d0 d) (hp : ¬P path') : Keeps P d0 (d.link path path') := by
  refine h.trans ⟨fun p hP => look_link_ne ?_, fun id _ => by rw [files_link], ?_⟩
  · rintro rfl
    exact hp hP
  · simp

theorem unlink (h : Keeps P d0 d) (hp : ¬P path) : Keeps P d0 (d.unlink path) := by
  refine h.trans ⟨fun p hP => look_unlink_ne ?_, fun id _ => rfl, Nat.le_refl _⟩
  rintro rfl
  exact hp hP

end Keeps

end Disk

end disks
