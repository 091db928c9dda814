import Twilight.Lock.Basic
import Twilight.Proofs.Files.Numbers
import Twilight.Proofs.Text.Lines
import Twilight.Proofs.Text.Numeral

namespace Twilight

/-!
# One owner at a time

* `LockOwner.read_write` — a lock file tells who wrote it.
* `FileSystem.Free`, `FileSystem.HeldBy` — nobody holds the file of a path locked, or an owner does
  who is named in it.
* `FileSystem.acquire_of_free`, `acquire_of_heldBy`, `release_of_heldBy` — acquiring and releasing
  lead from one to the other, or refuse.
* `Daemons.Reached` — the runs of any processes that acquire one lock and give it back, each of them
  alive as long as it holds the lock.
* `Daemons.exclusive_of_reached` — at most one of them holds it, and who asks then is told by whom.
-/

open Text

/-- A settings path that a lock file can name: one line that is not blank. -/
structure IsSettingsPath (settings : String) : Prop where
  notBlank : ∃ c ∈ settings.toList, isBlank c = false
  oneLine : '\n' ∉ settings.toList

/-! ### The owner in the file -/

/-- The characters that `write` puts into a lock file: the number, and the settings path on a line
    of its own. -/
theorem LockOwner.toList_write (o : LockOwner) :
    o.write.toList = (toString o.pid).toList ++ '\n' :: (o.settings.toList ++ ['\n']) := by
  show (toString o.pid ++ "\n" ++ o.settings ++ "\n").toList = _
  rw [String.toList_append, String.toList_append, String.toList_append, List.append_assoc,
    List.append_assoc]
  rfl

/-- `trimStart` drops nothing in front of a number. -/
theorem LockOwner.trimStart_number (pid : Nat) (cs : List Char) :
    trimStart ((toString pid).toList ++ cs) = (toString pid).toList ++ cs := by
  rw [Numeral.toList_toString]
  obtain ⟨d, ds, hds, hdigit⟩ := Numeral.toDigits_cons pid
  rw [hds]
  exact trimStart_cons (isBlank_of_isDigit hdigit) _

/-- White space around the contents is the line feed at the end, and what the settings path ends in.
    -/
theorem LockOwner.trim_write {o : LockOwner} (hne : trimEnd o.settings.toList ≠ []) :
    trim o.write.toList = (toString o.pid).toList ++ '\n' :: trimEnd o.settings.toList := by
  have hend : trimEnd ('\n' :: (o.settings.toList ++ ['\n'])) =
      '\n' :: trimEnd o.settings.toList := by
    show trimEnd ('\n' :: o.settings.toList ++ ['\n']) = _
    rw [trimEnd_snoc (by decide)]
    exact trimEnd_append hne ['\n']
  rw [LockOwner.toList_write]
  unfold trim
  rw [LockOwner.trimStart_number, trimEnd_append (by rw [hend]; exact List.cons_ne_nil _ _), hend]

/-- What `read` makes of what `write` wrote depends on the lines of the settings path, once blanks
    at its end are trimmed: none, one, or several. -/
theorem LockOwner.read_write_eq {o : LockOwner} (hpid : o.pid ≤ Numeral.nat32Max)
    (hne : trimEnd o.settings.toList ≠ []) : LockOwner.read o.write =
      match lines (trimEnd o.settings.toList) with
      | [] => .error .noSettings
      | [settings] => .ok ⟨o.pid, String.ofList settings⟩
      | _ => .error .tooLong := by
  have hdigits : ∀ c ∈ (toString o.pid).toList, isBlank c = false := fun c hc =>
    Numeral.isBlank_of_mem_toString hc
  have hnot : ∀ c, isBlank c = true → c ∉ (toString o.pid).toList := by
    intro c hc hmem
    rw [hdigits c hmem] at hc
    cases hc
  have hnumber : Numeral.readUnsigned Numeral.nat32Max (trim (toString o.pid).toList) =
      .ok o.pid := by
    rw [trim_of_not_blank hdigits, Numeral.readUnsigned_toString hpid]
  unfold LockOwner.read
  rw [LockOwner.trim_write hne, lines_append (hnot '\n' (by decide)) (hnot '\r' (by decide))]
  rcases lines (trimEnd o.settings.toList) with _ | ⟨settings, _ | ⟨more, rest⟩⟩
  · simp only [hnumber]
  · simp only [hnumber]
  · simp only [hnumber]

/-- White space at the end of the settings path is lost, and nothing else. -/
theorem LockOwner.read_write {o : LockOwner} (hpid : o.pid ≤ Numeral.nat32Max)
    (hs : IsSettingsPath o.settings) :
    LockOwner.read o.write = .ok ⟨o.pid, String.ofList (trimEnd o.settings.toList)⟩ := by
  obtain ⟨c, hc, hblank⟩ := hs.notBlank
  have hne : trimEnd o.settings.toList ≠ [] := trimEnd_ne_nil hc hblank
  have hfeed : '\n' ∉ trimEnd o.settings.toList := fun h => hs.oneLine (mem_of_mem_trimEnd h)
  rw [LockOwner.read_write_eq hpid hne, lines_single hne hfeed]

/-! ### Acquiring and releasing -/

namespace FileSystem

/-- A file can be opened under the path, and nobody holds one there locked. -/
structure Free (fs : FileSystem) (path : String) : Prop where
  openable : fs.Openable path
  numbered : fs.Numbered
  unlocked : ∀ id contents, fs.lookup? path = some (.file id contents) → id ∉ fs.locked

/-- The file of the path is locked, and names the owner of the lock. -/
structure HeldBy (fs : FileSystem) (path : String) (owner : LockOwner) (lock : LockGuard) :
    Prop where
  openable : fs.Openable path
  numbered : fs.Numbered
  file : fs.lookup? path = some (.file lock.file (.text owner.write))
  locked : lock.file ∈ fs.locked
  path : lock.path = path

variable {fs : FileSystem} {path : String} {owner : LockOwner} {lock : LockGuard}
  {processes : Processes} {settings : String}

/-- A lock file that is `HeldBy` an owner reads as what the owner wrote. -/
theorem HeldBy.text? (hh : fs.HeldBy path owner lock) : fs.text? path = some owner.write := by
  unfold FileSystem.text? readText
  rw [hh.file]
  rfl

/-- `tryAcquire` gets a lock that is `Free`, and its file is `HeldBy` the owner from then on. -/
theorem tryAcquire_of_free (hf : fs.Free path) (owner : LockOwner) :
    ∃ lock fs₁, fs.tryAcquire path owner = (.ok (some lock), fs₁) ∧
      fs₁.HeldBy path owner lock := by
  obtain ⟨id, old, fs₁, hopen, hsame, hnumbered, hlocked, hfile, hfresh⟩ :=
    openFile_of_openable hf.openable hf.numbered
  -- the file is new, or nobody held it locked before
  have hid : id ∉ fs₁.locked := by
    rw [hlocked]
    rcases hfresh with ⟨hold, -⟩ | hnew
    · exact hf.unlocked id old hold
    · exact hnew
  have hlast : id < fs₁.nextId := by
    obtain ⟨place, -, hnode⟩ := Option.bind_eq_some_iff.1 hfile
    exact hnumbered.files place id old hnode
  have hsame₁ := sameDirectories_locked fs₁ (id :: fs₁.locked)
  have hlookup : ({ fs₁ with locked := id :: fs₁.locked } : FileSystem).lookup? path =
      some (.file id old) := by
    unfold lookup? at hfile ⊢
    rw [hsame₁.place?]
    exact hfile
  -- the file is locked, and then the owner is written into it
  refine ⟨⟨id, path⟩, FileSystem.setContents { fs₁ with locked := id :: fs₁.locked } id
    (.text owner.write), ?_, ?_⟩
  · unfold tryAcquire tryLock
    simp only [hopen, if_neg hid]
  · exact
      { openable := ((hf.openable.of_sameDirectories hsame).of_sameDirectories
          hsame₁).of_sameDirectories (sameDirectories_setContents _ id _)
        numbered := (hnumbered.withLocked (List.forall_mem_cons.2
          ⟨hlast, hnumbered.locked⟩)).setContents id _
        file := lookup?_setContents hlookup _
        locked := List.mem_cons_self
        path := rfl }

/-- `acquire` gets a lock that is `Free`, and its file names the process and its settings from then
    on. -/
theorem acquire_of_free (hf : fs.Free path) (processes : Processes) (settings : String) :
    ∃ lock, (fs.acquire processes path settings).result = .ok lock ∧
      (fs.acquire processes path settings).files.HeldBy path ⟨processes.own, settings⟩ lock := by
  obtain ⟨lock, fs₁, htry, hheld⟩ := tryAcquire_of_free hf ⟨processes.own, settings⟩
  refine ⟨lock, ?_, ?_⟩
  · unfold acquire
    simp only [htry]
  · unfold acquire
    simp only [htry]
    exact hheld

/-- `tryAcquire` gets nothing while the lock is `HeldBy` somebody, and changes no file. -/
theorem tryAcquire_of_heldBy (hh : fs.HeldBy path owner lock) (other : LockOwner) :
    fs.tryAcquire path other = (.ok none, fs) := by
  obtain ⟨place, hplace, hnode⟩ := Option.bind_eq_some_iff.1 hh.file
  unfold tryAcquire openFile tryLock
  simp only [hplace, hnode, if_pos hh.locked]

/-- Who asks while a living process holds the lock is told which one, and nothing happens. -/
theorem acquire_of_heldBy (hh : fs.HeldBy path owner lock) (hs : IsSettingsPath owner.settings)
    (hlive : processes.isRunning owner.pid = true) (settings : String) :
    fs.acquire processes path settings =
      { result := .error (.alreadyRunning
          ⟨owner.pid, String.ofList (trimEnd owner.settings.toList)⟩)
        files := fs } := by
  have hpid : owner.pid ≤ Numeral.nat32Max := by
    unfold Processes.isRunning at hlive
    rw [Bool.and_eq_true, decide_eq_true_eq] at hlive
    exact Nat.le_trans hlive.1 (by decide)
  unfold acquire clearConflict
  simp only [tryAcquire_of_heldBy hh, hh.text?, LockOwner.read_write hpid hs, hlive, if_true]

/-- Where the file of the path is removed, another one can be made and locked. -/
theorem free_removed {place : Place} (ho : fs.Openable path) (hn : fs.Numbered)
    (hplace : fs.place? path = some place) : (fs.removed place).Free path := by
  have ⟨place', hplace', hdir, _⟩ := ho
  obtain rfl := Option.some.inj (hplace.symm.trans hplace')
  have hsame : SameDirectories fs (fs.removed place) := sameDirectories_removed hdir
  refine ⟨ho.of_sameDirectories hsame, hn.removed (ne_root hdir), ?_⟩
  intro id contents hfile
  rw [lookup?_of_place? ((hsame.place? path).trans hplace), node?_removed _ (ne_root hdir),
    if_pos rfl] at hfile
  cases hfile

/-- Whoever holds a lock leaves it `Free` by `release`. -/
theorem release_of_heldBy (hh : fs.HeldBy path owner lock) : (fs.release lock).Free path := by
  obtain ⟨place, hplace, hnode⟩ := Option.bind_eq_some_iff.1 hh.file
  have hsame : SameDirectories fs (fs.unlock lock.file) := sameDirectories_locked fs _
  have hplace₁ : (fs.unlock lock.file).place? path = some place := (hsame.place? path).trans hplace
  -- without its lock the file has the same place, so it is removed there
  have hremoved : fs.release lock = (fs.unlock lock.file).removed place := by
    unfold release
    rw [hh.path, removeFile_of_file hplace₁ hnode]
  rw [hremoved]
  exact free_removed (hh.openable.of_sameDirectories hsame)
    (hh.numbered.withLocked fun i hi => hh.numbered.locked i (List.mem_of_mem_filter hi)) hplace₁

end FileSystem

/-! ### Runs -/

/-- A lock and the process that holds it. -/
structure Holding where
  owner : LockOwner
  lock : LockGuard

/-- The files, and who holds the lock of one path. -/
structure Daemons where
  files : FileSystem
  held : List Holding := []

namespace Daemons

/-- A process asks for the lock, and holds it from then on if it gets it. -/
def acquire (s : Daemons) (processes : Processes) (path settings : String) : Daemons :=
  let a := s.files.acquire processes path settings
  match a.result with
  | .ok lock => ⟨a.files, ⟨⟨processes.own, settings⟩, lock⟩ :: s.held⟩
  | .error _ => ⟨a.files, s.held⟩

/-- One of the locks is given back. -/
def release (s : Daemons) (index : Nat) : Daemons :=
  match s.held[index]? with
  | some h => ⟨s.files.release h.lock, s.held.eraseIdx index⟩
  | none => s

/-- Who holds the lock is alive. -/
def HoldersRun (s : Daemons) (processes : Processes) : Prop :=
  ∀ h ∈ s.held, processes.isRunning h.owner.pid = true

/-- What any processes reach that acquire the lock and give it back, one after the other, as long as
    each of them is alive while it holds the lock. -/
inductive Reached (path : String) (fs : FileSystem) : Daemons → Prop where
  | start : Reached path fs ⟨fs, []⟩
  | acquired {s : Daemons} {processes : Processes} {settings : String} :
      Reached path fs s → IsSettingsPath settings → s.HoldersRun processes →
      Reached path fs (s.acquire processes path settings)
  | released {s : Daemons} {index : Nat} : Reached path fs s → Reached path fs (s.release index)

/-- Nobody holds the lock, or one process does and its file says so. -/
inductive Ordered (path : String) : Daemons → Prop where
  | free {fs : FileSystem} : fs.Free path → Ordered path ⟨fs, []⟩
  | held {fs : FileSystem} {h : Holding} : fs.HeldBy path h.owner h.lock →
      IsSettingsPath h.owner.settings → Ordered path ⟨fs, [h]⟩

variable {path settings : String} {fs : FileSystem} {s : Daemons} {processes : Processes}

/-- Acquiring the lock keeps the daemons `Ordered`: it is got if it is free, and refused if who
    holds it is alive. -/
theorem Ordered.acquire (ho : Ordered path s) (hs : IsSettingsPath settings)
    (hlive : s.HoldersRun processes) : Ordered path (s.acquire processes path settings) := by
  cases ho with
  | free hfree =>
    obtain ⟨lock, hresult, hheld⟩ := FileSystem.acquire_of_free hfree processes settings
    unfold Daemons.acquire
    simp only [hresult]
    exact .held hheld hs
  | @held fs h hheld hpath =>
    have hrun := hlive h List.mem_cons_self
    unfold Daemons.acquire
    rw [FileSystem.acquire_of_heldBy hheld hpath hrun settings]
    exact .held hheld hpath

/-- Giving back a lock keeps the daemons `Ordered`. -/
theorem Ordered.release (ho : Ordered path s) (index : Nat) : Ordered path (s.release index) := by
  cases ho with
  | free hfree => exact .free hfree
  | held hheld hpath =>
    cases index with
    | zero => exact .free (FileSystem.release_of_heldBy hheld)
    | succ index => exact .held hheld hpath

/-- Whatever is `Reached` from a free lock is `Ordered`. -/
theorem Reached.ordered (hr : Reached path fs s) (hfree : fs.Free path) : Ordered path s := by
  induction hr with
  | start => exact .free hfree
  | acquired _ hs hlive ih => exact ih.acquire hs hlive
  | released _ ih => exact ih.release _

/-- In every run at most one process holds the lock. Who asks for it meanwhile is refused, is told
    who holds it, and changes no file; who asks for it while nobody holds it gets it, and is named
    in the file. -/
theorem exclusive_of_reached (hfree : fs.Free path) (hr : Reached path fs s) :
    s.held.length ≤ 1 ∧
    ∀ processes settings, IsSettingsPath settings → s.HoldersRun processes →
      (∀ h ∈ s.held, (s.files.acquire processes path settings).result =
            .error (.alreadyRunning
              ⟨h.owner.pid, String.ofList (trimEnd h.owner.settings.toList)⟩) ∧
          (s.files.acquire processes path settings).files = s.files) ∧
      (s.held = [] → ∃ lock, (s.files.acquire processes path settings).result = .ok lock ∧
        (s.files.acquire processes path settings).files.text? path =
          some (LockOwner.write ⟨processes.own, settings⟩)) := by
  -- a lock that was reached is free or held by one guard
  cases hr.ordered hfree with
  | free hnow =>
    refine ⟨Nat.zero_le 1, fun processes settings _ _ => ⟨?_, fun _ => ?_⟩⟩
    · intro h hmem
      cases hmem
    · obtain ⟨lock, hresult, hheld⟩ := FileSystem.acquire_of_free hnow processes settings
      exact ⟨lock, hresult, hheld.text?⟩
  | @held fs h hnow hpath =>
    refine ⟨Nat.le_refl 1, fun processes settings _ hlive => ⟨?_, fun hnone => ?_⟩⟩
    · intro h' hmem
      obtain rfl : h' = h := List.mem_singleton.1 hmem
      have hrefused :=
        FileSystem.acquire_of_heldBy hnow hpath (hlive h' List.mem_cons_self) settings
      constructor
      · rw [hrefused]
      · rw [hrefused]
    · cases hnone

/-- A lock file that somebody left behind. -/
def leftover : FileSystem where
  nodes := (Table.empty : Table Place Node).insert ["lock"] (.file 0 (.text "not a pid"))
  nextId := 1

/-- A file that names no owner is in nobody's way, so the lock is `Free`. -/
theorem leftover_free : leftover.Free "/lock" where
  openable := ⟨["lock"], by decide, by decide, by decide⟩
  numbered := by
    refine ⟨fun place id contents hnode => ?_, fun id hid => by cases hid⟩
    -- the only file has the id zero, below the next one
    by_cases hroot : place = []
    · rw [hroot] at hnode
      cases hnode
    · rw [FileSystem.node?_of_ne_root hroot] at hnode
      change ((Table.empty : Table Place Node).insert ["lock"] _).get? place = _ at hnode
      rw [Table.get?_insert] at hnode
      by_cases hplace : place = ["lock"]
      · rw [if_pos hplace] at hnode
        obtain ⟨rfl, -⟩ := Node.file.inj (Option.some.inj hnode)
        decide
      · rw [if_neg hplace] at hnode
        cases hnode
  unlocked := by
    intro id contents hfile hmem
    cases hmem

/-- Process 40 takes over what was left, and process 41 is told so. -/
theorem exclusive_of_leftover :
    (leftover.Free "/lock" ∧ Reached "/lock" leftover
      (acquire ⟨leftover, []⟩ ⟨40, [1]⟩ "/lock" "/a.toml")) ∧
    ((acquire ⟨leftover, []⟩ ⟨40, [1]⟩ "/lock" "/a.toml").files.acquire ⟨41, [1, 40]⟩ "/lock"
      "/b.toml").result = .error (.alreadyRunning ⟨40, "/a.toml"⟩) := by
  have hpath : IsSettingsPath "/a.toml" := ⟨⟨'/', by decide, by decide⟩, by decide⟩
  have hpath' : IsSettingsPath "/b.toml" := ⟨⟨'/', by decide, by decide⟩, by decide⟩
  have hreached : Reached "/lock" leftover
      (acquire ⟨leftover, []⟩ ⟨40, [1]⟩ "/lock" "/a.toml") :=
    .acquired .start hpath (fun h hmem => by cases hmem)
  have hheld : (acquire ⟨leftover, []⟩ ⟨40, [1]⟩ "/lock" "/a.toml").held =
      [⟨⟨40, "/a.toml"⟩, ⟨0, "/lock"⟩⟩] := rfl
  have hall := exclusive_of_reached leftover_free hreached
  have hlive : (acquire ⟨leftover, []⟩ ⟨40, [1]⟩ "/lock" "/a.toml").HoldersRun ⟨41, [1, 40]⟩ := by
    intro h hmem
    rw [hheld] at hmem
    rw [List.mem_singleton.1 hmem]
    decide
  refine ⟨⟨leftover_free, hreached⟩, ?_⟩
  exact ((hall.2 ⟨41, [1, 40]⟩ "/b.toml" hpath' hlive).1 ⟨⟨40, "/a.toml"⟩, ⟨0, "/lock"⟩⟩
    (by rw [hheld]; exact List.mem_cons_self)).1

end Daemons

end Twilight
