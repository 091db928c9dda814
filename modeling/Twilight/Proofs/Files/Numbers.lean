import Twilight.Proofs.Files.Replace

namespace Twilight

/-!
# Files by their numbers

* `FileSystem.Openable` — a file can be opened under a path, and made again after it was removed.
* `FileSystem.Numbered` — the numbers of files and locks have all been given out.
* `FileSystem.lookup?_setContents`, `FileSystem.removeFile_of_file` — the file behind a path is
  written, or removed.
* `FileSystem.openFile_of_openable` — opening finds the file of a path, or makes an empty one that
  nobody holds locked.
-/

namespace FileSystem

/-- The path leads into a directory that has a name, and names no directory. -/
def Openable (fs : FileSystem) (path : String) : Prop :=
  ∃ place, fs.place? path = some place ∧ fs.isDirectory place = false ∧
    Place.isNameless place.dropLast = false

/-- All numbers in use have been given out. -/
structure Numbered (fs : FileSystem) : Prop where
  files : ∀ place id contents, fs.node? place = some (.file id contents) → id < fs.nextId
  locked : ∀ id ∈ fs.locked, id < fs.nextId

variable {fs fs₁ : FileSystem} {path : String} {place : Place} {id : Nat} {contents : Contents}

/-- A path is as `Openable` as its directories allow, whatever files there are. -/
theorem Openable.of_sameDirectories (ho : fs.Openable path) (hs : SameDirectories fs fs₁) :
    fs₁.Openable path := by
  obtain ⟨place, hplace, hdir, hparent⟩ := ho
  exact ⟨place, by rw [hs.place?, hplace], by rw [hs.isDirectory, hdir], hparent⟩

/-- What a path names is the node at its `place?`. -/
theorem lookup?_of_place? (hplace : fs.place? path = some place) :
    fs.lookup? path = fs.node? place := by
  unfold lookup?
  rw [hplace]
  rfl

/-- The root is a directory, so what names no directory has a name. -/
theorem ne_root (hdir : fs.isDirectory place = false) : place ≠ [] := by
  intro heq
  rw [heq] at hdir
  cases hdir

/-- Anywhere but at the root, `node?` is the entry in the table of nodes. -/
theorem node?_of_ne_root (hplace : place ≠ []) : fs.node? place = fs.nodes.get? place :=
  if_neg hplace

/-- Locks do not count for paths. -/
theorem sameDirectories_locked (fs : FileSystem) (locked : List Nat) :
    SameDirectories fs { fs with locked := locked } := ⟨rfl, fun _ => rfl⟩

/-- Locks may come and go, as long as they are on numbers that have been given out. -/
theorem Numbered.withLocked (hn : fs.Numbered) {locked : List Nat}
    (hlocked : ∀ id ∈ locked, id < fs.nextId) : Numbered { fs with locked := locked } :=
  ⟨hn.files, hlocked⟩

/-! ### Writing into a file -/

/-- `setContents` changes what is read from the file with that number, at whatever place it is, and
    nothing else. -/
theorem node?_setContents (fs : FileSystem) (id : Nat) (contents : Contents) (place : Place) :
    (fs.setContents id contents).node? place =
      (fs.node? place).map fun node => if isFile id node then .file id contents else node := by
  by_cases hroot : place = []
  · rw [hroot]
    rfl
  · rw [node?_of_ne_root hroot, node?_of_ne_root hroot]
    exact Table.get?_map fs.nodes _ place

/-- `setContents` leaves files as files, and directories as directories. -/
theorem sameDirectories_setContents (fs : FileSystem) (id : Nat) (contents : Contents) :
    SameDirectories fs (fs.setContents id contents) where
  here := rfl
  isDirectory := by
    intro place
    unfold FileSystem.isDirectory
    rw [node?_setContents]
    rcases fs.node? place with _ | _ | ⟨i, old⟩
    · rfl
    · rfl
    · by_cases hi : isFile id (.file i old) = true
      · simp only [Option.map_some, if_pos hi]
      · simp only [Option.map_some, if_neg hi]

/-- Files stay `Numbered` when one of them gets new contents, which uses no new number. -/
theorem Numbered.setContents (hn : fs.Numbered) (id : Nat) (contents : Contents) :
    (fs.setContents id contents).Numbered where
  files := by
    intro place i new hnode
    rw [node?_setContents] at hnode
    obtain ⟨node, hold, hnew⟩ := Option.map_eq_some_iff.1 hnode
    by_cases hi : isFile id node = true
    · -- the file that is written to had this number before
      rw [if_pos hi] at hnew
      cases node with
      | directory => cases hi
      | file j old =>
        have hj : j = id := of_decide_eq_true hi
        obtain rfl : id = i := (Node.file.inj hnew).1
        exact hn.files place id old (by rw [hold, hj])
    · rw [if_neg hi] at hnew
      rw [hnew] at hold
      exact hn.files place i new hold
  locked := hn.locked

/-- After `setContents` of the file that a path names, the path names it with these contents. -/
theorem lookup?_setContents {old : Contents} (hfile : fs.lookup? path = some (.file id old))
    (contents : Contents) :
    (fs.setContents id contents).lookup? path = some (.file id contents) := by
  obtain ⟨place, hplace, hnode⟩ := Option.bind_eq_some_iff.1 hfile
  rw [lookup?_of_place? (((sameDirectories_setContents fs id contents).place? path).trans hplace),
    node?_setContents, hnode, Option.map_some, if_pos (by exact decide_eq_true rfl)]

/-! ### Removing a file -/

/-- Without what is at a place. -/
def removed (fs : FileSystem) (place : Place) : FileSystem :=
  { fs with nodes := fs.nodes.erase place, changed := place :: fs.changed }

/-- Nothing is at the place that was `removed`, and everything else is where it was. -/
theorem node?_removed (fs : FileSystem) {place : Place} (hroot : place ≠ []) (other : Place) :
    (fs.removed place).node? other = if other = place then none else fs.node? other := by
  by_cases ho : other = place
  · rw [if_pos ho, ho, node?_of_ne_root hroot]
    exact Table.get?_erase_self fs.nodes place
  · rw [if_neg ho]
    unfold node?
    by_cases hother : other = []
    · rw [if_pos hother, if_pos hother]
    · rw [if_neg hother, if_neg hother]
      exact Table.get?_erase_of_ne fs.nodes ho

/-- Where a file was `removed`, the directories stay. -/
theorem sameDirectories_removed (hdir : fs.isDirectory place = false) :
    SameDirectories fs (fs.removed place) where
  here := rfl
  isDirectory := by
    intro other
    rw [Bool.eq_iff_iff, isDirectory_iff, isDirectory_iff, node?_removed fs (ne_root hdir)]
    by_cases ho : other = place
    · have hold : fs.node? other ≠ some .directory := by
        rw [ne_eq, ← isDirectory_iff, ho, hdir]
        decide
      simp [if_pos ho, hold]
    · rw [if_neg ho]

/-- Files stay `Numbered` when one of them is removed, which uses no new number. -/
theorem Numbered.removed (hn : fs.Numbered) (hroot : place ≠ []) : (fs.removed place).Numbered where
  files := by
    intro other i contents hother
    rw [node?_removed fs hroot] at hother
    by_cases ho : other = place
    · rw [if_pos ho] at hother
      cases hother
    · rw [if_neg ho] at hother
      exact hn.files other i contents hother
  locked := hn.locked

/-- `removeFile` succeeds at a path that names a file, which is `removed`. -/
theorem removeFile_of_file (hplace : fs.place? path = some place)
    (hnode : fs.node? place = some (.file id contents)) :
    fs.removeFile path = (true, fs.removed place) := by
  unfold removeFile
  simp only [hplace, hnode]
  rfl

/-! ### Opening a file -/

/-- `putFile` gives out the number that it uses. -/
theorem Numbered.putFile (hn : fs.Numbered) (place : Place) (contents : Contents) :
    (fs.putFile place contents).Numbered where
  files := by
    intro other i new hother
    rw [node?_putFile] at hother
    show i < fs.nextId + 1
    by_cases ho : other = place ∧ other ≠ []
    · rw [if_pos ho] at hother
      obtain ⟨rfl, -⟩ := Node.file.inj (Option.some.inj hother)
      omega
    · rw [if_neg ho] at hother
      have hold := hn.files other i new hother
      omega
  locked := by
    intro i hi
    have hold := hn.locked i hi
    show i < fs.nextId + 1
    omega

/-- A file is there then. Either it was there before, or its number is new. -/
theorem openFile_of_openable (ho : fs.Openable path) (hn : fs.Numbered) :
    ∃ id contents fs₁, fs.openFile path = (.ok id, fs₁) ∧ SameDirectories fs fs₁ ∧ fs₁.Numbered ∧
      fs₁.locked = fs.locked ∧ fs₁.lookup? path = some (.file id contents) ∧
      (fs.lookup? path = some (.file id contents) ∧ fs₁ = fs ∨ id ∉ fs.locked) := by
  obtain ⟨place, hplace, hdir, hparent⟩ := ho
  unfold openFile
  rw [lookup?_of_place? hplace]
  cases hnode : fs.node? place with
  | none =>
    -- a new file gets the next number, which is on no lock
    have hsame : SameDirectories fs (fs.putFile place (.text "")) := sameDirectories_putFile hdir _
    refine ⟨fs.nextId, .text "", fs.putFile place (.text ""), ?_, hsame, hn.putFile place _, rfl,
      ?_, ?_⟩
    · simp only [hplace, hnode, hparent, Bool.false_eq_true, if_false]
    · rw [lookup?_of_place? ((hsame.place? path).trans hplace), node?_putFile,
        if_pos ⟨rfl, ne_root hdir⟩]
    · right
      intro hmem
      exact Nat.lt_irrefl _ (hn.locked _ hmem)
  | some node =>
    cases node with
    | directory =>
      rw [isDirectory_iff.2 hnode] at hdir
      cases hdir
    | file id contents =>
      -- the file that is there is opened, and nothing changes
      refine ⟨id, contents, fs, ?_, SameDirectories.refl fs, hn, rfl, ?_, .inl ⟨rfl, rfl⟩⟩
      · simp only [hplace, hnode]
      · rw [lookup?_of_place? hplace, hnode]

end FileSystem

end Twilight
