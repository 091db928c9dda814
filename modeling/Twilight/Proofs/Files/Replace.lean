import Twilight.Files.FileSystem
import Twilight.Proofs.Table

namespace Twilight

/-!
# Replacing files

* `FileSystem.Replaceable` — nothing stands in the way of new contents for a path.
* `FileSystem.SameDirectories` — the same directories, whatever the files are.
* `FileSystem.replace_of_replaceable` — then new contents are taken, and the directories stay.
* `FileSystem.lookup?_of_replace` — a path whose contents were replaced names a file with the new
  ones.
* `FileSystem.SameFile`, `FileSystem.SameContents`, `FileSystem.Atomic` — a path reads as before;
  every path does; whatever cannot be replaced at a path leaves it so.
* `FileSystem.Writes` — a way to write a file that leaves it as it was, or gives it all new
  contents; `FileSystem.writes_replace`, `FileSystem.writes_refusing` — replacing is one, and so is
  to fail.
* `FileSystem.Replaceable.of_sameDirectories`, `FileSystem.replaceable_of_replace` — what could be
  replaced, or was, still can be.
* `FileSystem.SameFiles`, `FileSystem.sameFiles_of_not_replaced` — a replacement that fails touches
  no file, and makes directories at most.
-/

namespace FileSystem

/-- The pieces of a path lead through directories that are there. -/
def LeadsThrough (fs : FileSystem) : Place → List String → Prop
  | _, [] => True
  | place, piece :: rest =>
    Path.isName piece = true ∧ fs.isDirectory (step place piece) = true ∧
      fs.LeadsThrough (step place piece) rest

/-- New contents can take the place of what a path names: its directory is there, can be named from
    the root, and the path does not name a directory itself. -/
structure Replaceable (fs : FileSystem) (path : String) : Prop where
  possible : refusal? (Path.directory path) = none
  directory : fs.LeadsThrough (fs.origin (Path.directory path)) (Path.pieces (Path.directory path))
  fromRoot : fs.refusalFromRoot? (Path.join (Path.directory path) temporaryName) = none
  place : ∃ place, fs.place? path = some place ∧ fs.isDirectory place = false

/-- The same places are directories, and paths start from the same one. -/
structure SameDirectories (fs fs₁ : FileSystem) : Prop where
  here : fs₁.here = fs.here
  isDirectory : ∀ place, fs₁.isDirectory place = fs.isDirectory place

variable {fs fs₁ : FileSystem} {path : String}

/-- `isDirectory` tells where a directory is. -/
theorem isDirectory_iff {place : Place} :
    fs.isDirectory place = true ↔ fs.node? place = some .directory := by
  unfold isDirectory
  split
  · rename_i hnode
    simp [hnode]
  · rename_i hnode
    simp only [Bool.false_eq_true, false_iff]
    exact hnode

/-! ### Directories that are there -/

/-- `createFrom` changes nothing where the pieces lead through directories that are there. -/
theorem createFrom_of_leadsThrough {place : Place} {pieces : List String}
    (hp : fs.LeadsThrough place pieces) : fs.createFrom place pieces = (.ok (), fs) := by
  induction pieces generalizing place with
  | nil => rfl
  | cons piece rest ih =>
    obtain ⟨hname, hdir, hrest⟩ := hp
    unfold createFrom
    simp only [if_pos hname, isDirectory_iff.1 hdir]
    exact ih hrest

/-- The directory of a `Replaceable` path is there, so creating it succeeds and does nothing. -/
theorem Replaceable.createDirectories (hr : fs.Replaceable path) :
    fs.createDirectories (Path.directory path) = (.ok (), fs) := by
  unfold FileSystem.createDirectories
  rw [hr.possible]
  by_cases he : Path.directory path = ""
  · simp only [if_pos he]
  · simp only [if_neg he]
    exact createFrom_of_leadsThrough hr.directory

/-! ### Writing -/

/-- `putFile` puts a file with a new number at a place, unless that is the root, and changes no
    other place. -/
theorem node?_putFile (fs : FileSystem) (place : Place) (contents : Contents) (other : Place) :
    (fs.putFile place contents).node? other =
      if other = place ∧ other ≠ [] then some (.file fs.nextId contents) else fs.node? other := by
  unfold node?
  by_cases hroot : other = []
  · rw [if_pos hroot, if_neg (fun h => h.2 hroot), if_pos hroot]
  · rw [if_neg hroot, if_neg hroot]
    show (fs.nodes.insert place (.file fs.nextId contents)).get? other = _
    rw [Table.get?_insert]
    by_cases ho : other = place
    · rw [if_pos ho, if_pos ⟨ho, hroot⟩]
    · rw [if_neg ho, if_neg (fun h => ho h.1)]

/-- A new file where no directory was leaves the directories as they are. -/
theorem sameDirectories_putFile {place : Place} (hp : fs.isDirectory place = false)
    (contents : Contents) : SameDirectories fs (fs.putFile place contents) where
  here := rfl
  isDirectory := by
    intro other
    rw [Bool.eq_iff_iff, isDirectory_iff, isDirectory_iff, node?_putFile]
    by_cases ho : other = place ∧ other ≠ []
    · -- neither the old node nor the new one is a directory
      have hold : fs.node? other ≠ some .directory := by
        rw [ne_eq, ← isDirectory_iff, ho.1, hp]
        decide
      simp [if_pos ho, hold]
    · rw [if_neg ho]

/-- `replace` succeeds at a `Replaceable` path, and leaves the directories as they are. -/
theorem replace_of_replaceable (hr : fs.Replaceable path) (contents : String) :
    ∃ fs₁, fs.replace path contents = (.ok (), fs₁) ∧ SameDirectories fs fs₁ := by
  obtain ⟨place, hplace, hdir⟩ := hr.place
  -- no directory has to be created, so only the file is put
  refine ⟨fs.putFile place (.text contents), ?_, sameDirectories_putFile hdir _⟩
  unfold replace
  simp only [hr.createDirectories, hr.fromRoot, hplace, hdir, Bool.false_eq_true, if_false]

/-! ### The same directories -/

namespace SameDirectories

theorem refl (fs : FileSystem) : SameDirectories fs fs := ⟨rfl, fun _ => rfl⟩

theorem trans {fs₂ : FileSystem} (hs : SameDirectories fs fs₁) (hs₁ : SameDirectories fs₁ fs₂) :
    SameDirectories fs fs₂ :=
  ⟨hs₁.here.trans hs.here, fun place => (hs₁.isDirectory place).trans (hs.isDirectory place)⟩

variable (hs : SameDirectories fs fs₁)
include hs

/-- Pieces lead through the same directories in both file systems. -/
theorem leadsThrough {place : Place} {pieces : List String} (hp : fs.LeadsThrough place pieces) :
    fs₁.LeadsThrough place pieces := by
  induction pieces generalizing place with
  | nil => trivial
  | cons piece rest ih =>
    obtain ⟨hname, hdir, hrest⟩ := hp
    exact ⟨hname, by rw [hs.isDirectory, hdir], ih hrest⟩

/-- Pieces lead to the same place in both file systems. -/
theorem follow (place : Place) (pieces : List String) :
    fs₁.follow place pieces = fs.follow place pieces := by
  induction pieces generalizing place with
  | nil => rfl
  | cons piece rest ih =>
    unfold FileSystem.follow
    rw [hs.isDirectory, ih]

/-- Paths start from the same place in both file systems. -/
theorem origin (path : String) : fs₁.origin path = fs.origin path := by
  unfold FileSystem.origin
  rw [hs.here]

/-- Paths have the same `place?` in both file systems. -/
theorem place? (path : String) : fs₁.place? path = fs.place? path := by
  unfold FileSystem.place?
  rw [hs.origin, hs.follow]

end SameDirectories

/-- Whether a path is `Replaceable` depends on the directories alone. -/
theorem Replaceable.of_sameDirectories (hr : fs.Replaceable path) (hs : SameDirectories fs fs₁) :
    fs₁.Replaceable path where
  possible := hr.possible
  directory := by
    rw [hs.origin]
    exact hs.leadsThrough hr.directory
  fromRoot := by
    have hroot := hr.fromRoot
    unfold refusalFromRoot? at hroot ⊢
    rw [hs.here]
    exact hroot
  place := by
    obtain ⟨place, hplace, hdir⟩ := hr.place
    exact ⟨place, by rw [hs.place?, hplace], by rw [hs.isDirectory, hdir]⟩

/-! ### What was replaced once -/

/-- A directory that is put at a place is there, and every other place is as it was. -/
theorem node?_putDirectory (fs : FileSystem) (place other : Place) :
    (fs.putNode place .directory).node? other =
      if other = place then some .directory else fs.node? other := by
  unfold node?
  by_cases hroot : other = []
  · rw [if_pos hroot, if_pos hroot]
    split
    · rfl
    · rfl
  · rw [if_neg hroot, if_neg hroot]
    exact Table.get?_insert fs.nodes place other .directory

/-- Directories that were created are there, and so are those that were there before. -/
theorem leadsThrough_of_createFrom {place : Place} {pieces : List String}
    (he : fs.createFrom place pieces = (.ok (), fs₁)) :
    fs₁.LeadsThrough place pieces ∧ fs₁.here = fs.here ∧
      ∀ other, fs.isDirectory other = true → fs₁.isDirectory other = true := by
  induction pieces generalizing fs place with
  | nil =>
    obtain rfl := (Prod.mk.inj he).2
    exact ⟨trivial, rfl, fun _ h => h⟩
  | cons piece rest ih =>
    unfold createFrom at he
    by_cases hname : Path.isName piece = true
    · simp only [if_pos hname] at he
      cases hnode : fs.node? (step place piece) with
      | none =>
        rw [hnode] at he
        by_cases hnameless : place.isNameless = true
        · simp only [if_pos hnameless] at he
          cases (Prod.mk.inj he).1
        · simp only [if_neg hnameless] at he
          obtain ⟨hrest, hhere, hdirs⟩ := ih he
          -- the directory was made just now, and later ones leave it there
          have hmade : (fs.putNode (step place piece) .directory).isDirectory (step place piece) =
              true := by
            rw [isDirectory_iff, node?_putDirectory, if_pos rfl]
          refine ⟨⟨hname, hdirs _ hmade, hrest⟩, hhere, fun other hother => hdirs other ?_⟩
          rw [isDirectory_iff, node?_putDirectory]
          split
          · rfl
          · exact isDirectory_iff.1 hother
      | some node =>
        rw [hnode] at he
        cases node with
        | file id contents => cases (Prod.mk.inj he).1
        | directory =>
          obtain ⟨hrest, hhere, hdirs⟩ := ih he
          exact ⟨⟨hname, hdirs _ (isDirectory_iff.2 hnode), hrest⟩, hhere, hdirs⟩
    · simp only [if_neg hname] at he
      cases (Prod.mk.inj he).1

end FileSystem

/-- The directory of a path has a name, a single dot where the path names none. -/
theorem Path.directory_ne_empty (path : String) : Path.directory path ≠ "" := by
  unfold Path.directory
  split
  · decide
  · decide
  · rename_i hne _
    exact hne

namespace FileSystem

variable {fs fs₁ : FileSystem} {path : String}

/-- All that replacing does when it succeeds: directories are made, and then the file is put. -/
theorem replace_inv {contents : String} (he : fs.replace path contents = (.ok (), fs₁)) :
    ∃ fs₀ place, fs.createDirectories (Path.directory path) = (.ok (), fs₀) ∧
      fs₀.refusalFromRoot? (Path.join (Path.directory path) temporaryName) = none ∧
      fs₀.place? path = some place ∧ fs₀.isDirectory place = false ∧
      fs₁ = fs₀.putFile place (.text contents) := by
  unfold replace at he
  generalize fs.createDirectories (Path.directory path) = created at he
  obtain ⟨result, fs₀⟩ := created
  cases result with
  | error e => cases (Prod.mk.inj he).1
  | ok _ =>
    -- each of the stages may be the last one, and then nothing was replaced
    simp only at he
    cases hroot : fs₀.refusalFromRoot? (Path.join (Path.directory path) temporaryName) with
    | some problem =>
      rw [hroot] at he
      cases (Prod.mk.inj he).1
    | none =>
      rw [hroot] at he
      cases hplace : fs₀.place? path with
      | none =>
        rw [hplace] at he
        cases (Prod.mk.inj he).1
      | some place =>
        rw [hplace] at he
        by_cases hdir : fs₀.isDirectory place = true
        · simp only [if_pos hdir] at he
          cases (Prod.mk.inj he).1
        · simp only [if_neg hdir] at he
          exact ⟨fs₀, place, rfl, hroot, hplace, Bool.eq_false_iff.2 hdir, (Prod.mk.inj he).2.symm⟩

/-- A path at which contents were replaced is `Replaceable` from then on. -/
theorem replaceable_of_replace {contents : String}
    (he : fs.replace path contents = (.ok (), fs₁)) : fs₁.Replaceable path := by
  obtain ⟨fs₀, place, hmade, hroot, hplace, hdir, rfl⟩ := replace_inv he
  have hready : fs₀.Replaceable path := by
    unfold createDirectories at hmade
    cases hrefusal : refusal? (Path.directory path) with
    | some problem =>
      rw [hrefusal] at hmade
      cases (Prod.mk.inj hmade).1
    | none =>
      rw [hrefusal] at hmade
      simp only [if_neg (Path.directory_ne_empty path)] at hmade
      obtain ⟨hleads, hhere, -⟩ := leadsThrough_of_createFrom hmade
      refine ⟨hrefusal, ?_, hroot, place, hplace, hdir⟩
      unfold origin at hleads ⊢
      rw [hhere]
      exact hleads
  -- the file that was put there is no directory
  exact hready.of_sameDirectories (sameDirectories_putFile hdir _)

/-! ### What the path reads as -/

/-- What was replaced is there, whatever directories had to be created for it. -/
theorem lookup?_of_replace {contents : String} (he : fs.replace path contents = (.ok (), fs₁)) :
    ∃ id, fs₁.lookup? path = some (.file id (.text contents)) := by
  obtain ⟨fs₀, place, -, -, hplace, hdir, rfl⟩ := replace_inv he
  have hsame := sameDirectories_putFile hdir (.text contents)
  have hne : place ≠ [] := by
    intro heq
    rw [heq] at hdir
    cases hdir
  refine ⟨fs₀.nextId, ?_⟩
  unfold lookup?
  rw [hsame.place?, hplace, Option.bind_some, node?_putFile, if_pos ⟨rfl, hne⟩]

/-- The path reads as before. -/
structure SameFile (fs fs₁ : FileSystem) (path : String) : Prop where
  exists? : fs₁.exists? path = fs.exists? path
  readText : fs₁.readText path = fs.readText path

theorem SameFile.refl (fs : FileSystem) (path : String) : SameFile fs fs path := ⟨rfl, rfl⟩

/-- Every path reads as before. -/
def SameContents (fs fs₁ : FileSystem) : Prop := ∀ path, SameFile fs fs₁ path

theorem SameContents.refl (fs : FileSystem) : SameContents fs fs := fun path => .refl fs path

theorem SameContents.trans {fs₂ : FileSystem} (hs : SameContents fs fs₁)
    (hs₁ : SameContents fs₁ fs₂) : SameContents fs fs₂ := fun path =>
  ⟨(hs₁ path).exists?.trans (hs path).exists?, (hs₁ path).readText.trans (hs path).readText⟩

/-- A path that names a file is there, and reads as its text. -/
theorem reads_of_lookup? {id : Nat} {text : String}
    (h : fs.lookup? path = some (.file id (.text text))) :
    fs.exists? path = true ∧ fs.readText path = .ok text := by
  unfold exists? readText
  rw [h]
  exact ⟨rfl, rfl⟩

/-- A path reads as the `SameFile` if it names what it did. -/
theorem SameFile.of_lookup? (h : fs₁.lookup? path = fs.lookup? path) : SameFile fs fs₁ path where
  exists? := by
    unfold FileSystem.exists?
    rw [h]
  readText := by
    unfold FileSystem.readText
    rw [h]

/-- A path reads as the `SameFile` if its file has the contents from before. Whether it has the same
    number does not matter. -/
theorem SameFile.of_contents {id id₁ : Nat} {contents : Contents}
    (h : fs.lookup? path = some (.file id contents))
    (h₁ : fs₁.lookup? path = some (.file id₁ contents)) : SameFile fs fs₁ path where
  exists? := by
    unfold FileSystem.exists?
    rw [h, h₁]
    rfl
  readText := by
    unfold FileSystem.readText
    rw [h, h₁]
    cases contents <;> rfl

/-- A file that is put with the contents it had is another one, but nothing reads differently. -/
theorem sameContents_putFile {place : Place} {id : Nat} {contents : Contents}
    (hnode : fs.node? place = some (.file id contents)) :
    SameContents fs (fs.putFile place contents) := by
  have hdir : fs.isDirectory place = false := by
    unfold isDirectory
    rw [hnode]
  intro other
  -- the directories are the same, so every path leads where it did
  have hplace := (sameDirectories_putFile hdir contents).place? other
  cases hat : fs.place? other with
  | none =>
    apply SameFile.of_lookup?
    unfold lookup?
    rw [hplace, hat]
    rfl
  | some target =>
    have hnow : (fs.putFile place contents).lookup? other =
        (fs.putFile place contents).node? target := by
      unfold lookup?
      rw [hplace, hat, Option.bind_some]
    have hthen : fs.lookup? other = fs.node? target := by
      unfold lookup?
      rw [hat, Option.bind_some]
    rw [node?_putFile] at hnow
    -- it leads to the file that was put, with the contents from before, or to another one
    by_cases ht : target = place ∧ target ≠ []
    · rw [if_pos ht] at hnow
      rw [ht.1, hnode] at hthen
      exact .of_contents hthen hnow
    · rw [if_neg ht, ← hthen] at hnow
      exact .of_lookup? hnow

/-- By `replace` of a file's contents by themselves nothing changes that can be read at any path. -/
theorem sameContents_of_replace {contents : String} {id : Nat} (hr : fs.Replaceable path)
    (hfile : fs.lookup? path = some (.file id (.text contents)))
    (he : fs.replace path contents = (.ok (), fs₁)) : SameContents fs fs₁ := by
  obtain ⟨fs₀, place, hmade, -, hplace, -, rfl⟩ := replace_inv he
  rw [hr.createDirectories] at hmade
  obtain rfl := (Prod.mk.inj hmade).2
  unfold lookup? at hfile
  rw [hplace, Option.bind_some] at hfile
  exact sameContents_putFile hfile

/-- Contents that cannot be put at the path leave it as it was. -/
def Atomic (fs : FileSystem) (path : String) : Prop :=
  ∀ contents problem fs₁, fs.replace path contents = (.error problem, fs₁) → SameFile fs fs₁ path

/-- All that `replace` does before it fails is to create directories. -/
theorem eq_of_not_replaced {contents : String} {problem : FileProblem}
    (he : fs.replace path contents = (.error problem, fs₁)) :
    fs₁ = (fs.createDirectories (Path.directory path)).2 := by
  unfold replace at he
  generalize fs.createDirectories (Path.directory path) = created at he
  obtain ⟨result, fs₀⟩ := created
  show fs₁ = fs₀
  cases result with
  | error e => exact (Prod.mk.inj he).2.symm
  | ok _ =>
    simp only at he
    split at he
    · exact (Prod.mk.inj he).2.symm
    · split at he
      · exact (Prod.mk.inj he).2.symm
      · split at he
        · exact (Prod.mk.inj he).2.symm
        · cases (Prod.mk.inj he).1

/-- Where the directory is there already, nothing is done before the contents are put. -/
theorem atomic_of_directory
    (hd : fs.createDirectories (Path.directory path) = (.ok (), fs)) : fs.Atomic path := by
  intro contents problem fs₁ he
  rw [eq_of_not_replaced he, hd]
  exact SameFile.refl fs path

/-! ### Ways to write a file -/

/-- A way to write the file at a path of `fs`. If it succeeds then the path names a file with the
    new contents, and if it fails then the path reads as before, for whatever reason it fails. -/
structure Writes (fs : FileSystem) (path : String)
    (replace : String → String → Except FileProblem Unit × FileSystem) : Prop where
  taken : ∀ {contents fs₁}, replace path contents = (.ok (), fs₁) →
    ∃ id, fs₁.lookup? path = some (.file id (.text contents))
  refused : ∀ {contents problem fs₁}, replace path contents = (.error problem, fs₁) →
    SameFile fs fs₁ path

/-- `FileSystem.replace` is such a way at every path that is `Atomic`. -/
theorem writes_replace (ha : fs.Atomic path) : fs.Writes path fs.replace where
  taken he := lookup?_of_replace he
  refused he := ha _ _ _ he

/-- Nothing can be written, as when the disk is full. -/
def refusing (fs : FileSystem) (_path _contents : String) : Except FileProblem Unit × FileSystem :=
  (.error .occupied, fs)

/-- A disk that is full leaves every file as it was, so `refusing` is a way to write all of them. -/
theorem writes_refusing (fs : FileSystem) (path : String) : fs.Writes path fs.refusing where
  taken he := by cases (Prod.mk.inj he).1
  refused he := by
    rw [← (Prod.mk.inj he).2]
    exact .refl fs path

/-! ### Replacements that fail -/

/-- Every file is where it was, and what it was. Directories may have been made. -/
structure SameFiles (fs fs₁ : FileSystem) : Prop where
  file : ∀ place id contents,
    fs₁.node? place = some (.file id contents) ↔ fs.node? place = some (.file id contents)
  directory : ∀ place, fs.isDirectory place = true → fs₁.isDirectory place = true

theorem SameFiles.refl (fs : FileSystem) : SameFiles fs fs := ⟨fun _ _ _ => .rfl, fun _ h => h⟩

theorem SameFiles.trans {fs₂ : FileSystem} (hs : SameFiles fs fs₁) (hs₁ : SameFiles fs₁ fs₂) :
    SameFiles fs fs₂ where
  file place id contents := (hs₁.file place id contents).trans (hs.file place id contents)
  directory place hdir := hs₁.directory place (hs.directory place hdir)

/-- A directory that is put where nothing is leaves all files as they are. -/
theorem sameFiles_putDirectory {place : Place} (hnode : fs.node? place = none) :
    SameFiles fs (fs.putNode place .directory) where
  file other id contents := by
    rw [node?_putDirectory]
    by_cases ho : other = place
    · rw [if_pos ho, ho, hnode]
      simp
    · rw [if_neg ho]
  directory other hdir := by
    rw [isDirectory_iff] at hdir ⊢
    rw [node?_putDirectory]
    by_cases ho : other = place
    · rw [if_pos ho]
    · rw [if_neg ho, hdir]

/-- Creating directories one below the other by `createFrom` leaves all files as they are. -/
theorem sameFiles_createFrom (fs : FileSystem) (place : Place) (pieces : List String) :
    SameFiles fs (fs.createFrom place pieces).2 := by
  induction pieces generalizing fs place with
  | nil => exact .refl fs
  | cons piece rest ih =>
    unfold createFrom
    by_cases hname : Path.isName piece = true
    · simp only [if_pos hname]
      cases hnode : fs.node? (step place piece) with
      | none =>
        by_cases hnameless : place.isNameless = true
        · simp only [if_pos hnameless]
          exact .refl fs
        · simp only [if_neg hnameless]
          -- there was nothing in the place of the new directory
          exact (sameFiles_putDirectory hnode).trans (ih _ _)
      | some node =>
        cases node with
        | file id contents => exact .refl fs
        | directory => exact ih fs _
    · simp only [if_neg hname]
      exact .refl fs

/-- `createDirectories` leaves all files as they are, also if it stops on the way. -/
theorem sameFiles_createDirectories (fs : FileSystem) (path : String) :
    SameFiles fs (fs.createDirectories path).2 := by
  unfold createDirectories
  cases refusal? path with
  | some problem => exact .refl fs
  | none =>
    by_cases he : path = ""
    · simp only [if_pos he]
      exact .refl fs
    · simp only [if_neg he]
      exact sameFiles_createFrom fs _ _

/-- Where `replace` fails, for whatever reason, all files stay as they are. -/
theorem sameFiles_of_not_replaced {contents : String} {problem : FileProblem}
    (he : fs.replace path contents = (.error problem, fs₁)) : SameFiles fs fs₁ := by
  rw [eq_of_not_replaced he]
  exact sameFiles_createDirectories fs (Path.directory path)

end FileSystem

end Twilight
