import Mathlib.Logic.Function.Basic
import Mathlib.Logic.Function.Iterate
import Twilight.Lock.Basic
import Twilight.Proofs.Table

namespace Twilight

/-!
# A lock whose contenders take turns

To acquire a lock or to give it back takes several calls to the file system, and contenders that do
so at the same time take turns: whoever's turn it is makes the next call.

* `LockCall` — the calls, and what they do to the files.
* `LockPhase` — how far a contender has come: `call` is the call it makes next, `next` what it makes
  of the answer.
* `Contest.turn`, `Contest.after` — a turn of one contender, and turns in any order.
* `Contender.acquire_alone`, `Contender.release_alone` — a contender that has all turns to itself
  does what `FileSystem.acquire` and `FileSystem.release` do.
-/

/-! ### Calls and phases -/

/-- A call to the file system. All of them are about the file at the path of the lock, or one that
    was there when it was opened. -/
inductive LockCall where
  | openFile
  | lock (file : Nat)
  | read
  /-- What has been written since the file was truncated. Only who holds the file locked writes, so
      that nothing else is in it. -/
  | write (file : Nat) (text : String)
  | unlock (file : Nat)
  | remove
  deriving DecidableEq

/-- The files after a call. -/
def LockCall.run (path : String) (fs : FileSystem) : LockCall → FileSystem
  | .openFile => (fs.openFile path).2
  | .lock file => (fs.tryLock file).getD fs
  | .read => fs
  | .write file text => fs.setContents file (.text text)
  | .unlock file => fs.unlock file
  | .remove => (fs.removeFile path).2

/-- Who contends for a lock, and for which settings. -/
structure Contender where
  processes : Processes
  settings : String

/-- What the lock file says of a contender that holds the lock. -/
def Contender.owner (c : Contender) : LockOwner := ⟨c.processes.own, c.settings⟩

/-- How far a contender has come. -/
inductive LockPhase where
  /-- It has nothing to do with the lock, or its last acquisition failed. -/
  | idle (problem : Option LockProblem)
  | opened (file : Nat) (again : Bool)
  /-- Somebody holds the file. -/
  | refused
  /-- The file names nobody who is alive. -/
  | clearing (cleanup : Cleanup)
  | retrying
  | locked (file : Nat)
  | emptied (file : Nat)
  /-- The process is in the file, and its settings are not. -/
  | numbered (file : Nat)
  /-- The acquisition has succeeded. -/
  | holding (file : Nat)
  /-- The lock is given back, and the file still there. -/
  | leaving
  deriving DecidableEq

namespace LockPhase

/-- The call that comes next. -/
def call (c : Contender) : LockPhase → LockCall
  | .idle _ | .retrying => .openFile
  | .opened file _ => .lock file
  | .refused => .read
  | .clearing _ | .leaving => .remove
  | .locked file => .write file ""
  | .emptied file => .write file s!"{c.processes.own}\n"
  | .numbered file => .write file c.owner.write
  | .holding file => .unlock file

/-- What follows when a file was to be opened. -/
def onOpen (path : String) (again : Bool) : Except FileProblem Nat → LockPhase
  | .error problem => .idle (some (.notOpened path problem))
  | .ok file => .opened file again

/-- What follows when the contents of a file say who holds it. -/
def onText (processes : Processes) (text : String) : LockPhase :=
  match LockOwner.read text with
  | .error problem => .clearing (.unreadable problem)
  | .ok owner =>
    if processes.isRunning owner.pid then .idle (some (.alreadyRunning owner))
    else .clearing (.ownerGone owner.pid)

/-- What a contender makes of the answer to its call. -/
def next (c : Contender) (path : String) (fs : FileSystem) : LockPhase → LockPhase
  | .idle _ => onOpen path false (fs.openFile path).1
  | .opened file again =>
    match fs.tryLock file with
    | some _ => .locked file
    | none => if again then .idle (some (.stillHeld path)) else .refused
  | .refused =>
    match fs.text? path with
    | none => .retrying
    | some text => onText c.processes text
  | .clearing _ => .retrying
  | .retrying => onOpen path true (fs.openFile path).1
  | .locked file => .emptied file
  | .emptied file => .numbered file
  | .numbered file => .holding file
  | .holding _ => .leaving
  | .leaving => .idle none

/-- What an acquisition ends in. -/
def ofResult : Except LockProblem LockGuard → LockPhase
  | .ok lock => .holding lock.file
  | .error problem => .idle (some problem)

/-- The file that a contender has open, and has not given back. -/
def file? : LockPhase → Option Nat
  | .opened file _ | .locked file | .emptied file | .numbered file | .holding file => some file
  | _ => none

/-- The file that a contender holds locked. -/
def lock? : LockPhase → Option Nat
  | .locked file | .emptied file | .numbered file | .holding file => some file
  | _ => none

/-- A contender that holds a file locked has it open. -/
theorem file?_of_lock? {p : LockPhase} {file : Nat} (h : p.lock? = some file) :
    p.file? = some file := by
  cases p <;> first | exact h | contradiction

end LockPhase

/-! ### Turns -/

/-- A turn of one contender. -/
def Contender.step (c : Contender) (path : String) (now : LockPhase × FileSystem) :
    LockPhase × FileSystem :=
  (now.1.next c path now.2, (now.1.call c).run path now.2)

/-- The files, and how far everybody has come. -/
structure Contest (ι : Type) where
  files : FileSystem
  phase : ι → LockPhase := fun _ => .idle none

namespace Contest

variable {ι : Type} [DecidableEq ι] {who : ι → Contender} {path : String}

/-- Let one contender have its turn. -/
def turn (path : String) (who : ι → Contender) (s : Contest ι) (i : ι) : Contest ι where
  files := ((who i).step path (s.phase i, s.files)).2
  phase := Function.update s.phase i ((who i).step path (s.phase i, s.files)).1

/-- Let contenders have their turns in the given order. -/
def after (path : String) (who : ι → Contender) (s : Contest ι) (schedule : List ι) : Contest ι :=
  schedule.foldl (turn path who) s

/-- A schedule may be cut in two anywhere. -/
theorem after_append (s : Contest ι) (before rest : List ι) :
    s.after path who (before ++ rest) = (s.after path who before).after path who rest :=
  List.foldl_append

/-- The last turn of a schedule comes after all the others. -/
theorem after_snoc (s : Contest ι) (before : List ι) (i : ι) :
    s.after path who (before ++ [i]) = (s.after path who before).turn path who i :=
  after_append s before [i]

theorem files_turn (s : Contest ι) (i : ι) :
    (s.turn path who i).files = ((s.phase i).call (who i)).run path s.files := rfl

/-- A `turn` takes its contender to the `next` phase. -/
theorem phase_turn_self (s : Contest ι) (i : ι) :
    (s.turn path who i).phase i = (s.phase i).next (who i) path s.files :=
  Function.update_self i _ s.phase

/-- A `turn` leaves all other contenders in their phases. -/
theorem phase_turn_of_ne (s : Contest ι) {i j : ι} (hj : j ≠ i) :
    (s.turn path who i).phase j = s.phase j :=
  Function.update_of_ne hj _ s.phase

/-- While one contender has all the turns, the others stay where they are. -/
theorem after_replicate (s : Contest ι) (i : ι) (n : Nat) :
    s.after path who (List.replicate n i) =
      { files := (((who i).step path)^[n] (s.phase i, s.files)).2
        phase := Function.update s.phase i (((who i).step path)^[n] (s.phase i, s.files)).1 } := by
  induction n generalizing s with
  | zero =>
    show s = ⟨s.files, Function.update s.phase i (s.phase i)⟩
    rw [Function.update_eq_self]
  | succ n ih =>
    show (s.turn path who i).after path who (List.replicate n i) = _
    rw [ih, phase_turn_self]
    show (⟨_, Function.update (Function.update s.phase i _) i _⟩ : Contest ι) = _
    rw [Function.update_idem]
    rfl

end Contest

/-! ### A contender alone -/

namespace FileSystem

/-- Of two contents that `setContents` gives to a file the later ones stay. -/
theorem nodes_setContents_setContents (fs : FileSystem) (file : Nat) (before contents : Contents) :
    ((fs.setContents file before).setContents file contents).nodes =
      (fs.setContents file contents).nodes := by
  apply Table.ext_get
  intro place
  unfold setContents
  rw [Table.get?_map, Table.get?_map, Table.get?_map, Option.map_map]
  congr 1
  funext node
  by_cases hnode : isFile file node = true
  · have hself : isFile file (.file file before) = true := decide_eq_true rfl
    simp only [Function.comp_apply, if_pos hnode, if_pos hself]
  · simp only [Function.comp_apply, if_neg hnode]

end FileSystem

namespace Contender

variable {c : Contender} {path : String} {fs fs₁ : FileSystem} {p : LockPhase} {again : Bool}

/-- Once it has the lock, three turns put the owner into the file. Only who watches the directory
    can tell that they were three. -/
theorem record_alone (c : Contender) (path : String) (fs : FileSystem) (file : Nat) :
    ∃ changed, (c.step path)^[3] (.locked file, fs) =
      (.holding file, { fs.setContents file (.text c.owner.write) with changed := changed }) := by
  refine ⟨(((fs.setContents file (.text "")).setContents file
    (.text s!"{c.processes.own}\n")).setContents file (.text c.owner.write)).changed, ?_⟩
  have hnodes := (FileSystem.nodes_setContents_setContents (fs.setContents file (.text "")) file
    (.text s!"{c.processes.own}\n") (.text c.owner.write)).trans
      (FileSystem.nodes_setContents_setContents fs file (.text "") (.text c.owner.write))
  show (LockPhase.holding file, { fs with nodes := _, changed := _ }) = _
  exact congrArg (fun nodes => (LockPhase.holding file,
    ({ fs with nodes := nodes, changed := _ } : FileSystem))) hnodes

/-- What an attempt to acquire the lock comes to, for a contender that has all the turns. -/
theorem attempt_alone (c : Contender) (path : String) (fs : FileSystem) (again : Bool)
    (hcall : p.call c = .openFile)
    (hnext : p.next c path fs = .onOpen path again (fs.openFile path).1) :
    match fs.tryAcquire path ⟨c.processes.own, c.settings⟩ with
    | (.error problem, fs₁) => (c.step path)^[1] (p, fs) = (.idle (some problem), fs₁)
    | (.ok none, fs₁) => (c.step path)^[2] (p, fs) =
        (if again then .idle (some (.stillHeld path)) else .refused, fs₁)
    | (.ok (some lock), fs₁) => ∃ changed, (c.step path)^[5] (p, fs) =
        (.holding lock.file, { fs₁ with changed := changed }) := by
  have hfirst : c.step path (p, fs) =
      (.onOpen path again (fs.openFile path).1, (fs.openFile path).2) := by
    unfold step
    rw [hcall, hnext]
    rfl
  unfold FileSystem.tryAcquire
  rcases hopen : fs.openFile path with ⟨problem | file, fs₁⟩
  · rw [hopen] at hfirst
    exact hfirst
  · rw [hopen] at hfirst
    have hsecond : c.step path (c.step path (p, fs)) =
        (match fs₁.tryLock file with
          | some _ => .locked file
          | none => if again then .idle (some (.stillHeld path)) else .refused,
          (fs₁.tryLock file).getD fs₁) := by
      rw [hfirst]
      rfl
    cases hlock : fs₁.tryLock file with
    | none =>
      -- somebody holds the file: it is let go after two turns
      rw [hlock] at hsecond
      simp only [hlock]
      exact hsecond
    | some fs₂ =>
      -- three more turns write the owner
      rw [hlock] at hsecond
      simp only [hlock]
      show ∃ changed, (c.step path)^[3] (c.step path (c.step path (p, fs))) = _
      rw [hsecond]
      exact record_alone c path fs₂ file

/-- What looking into the file of the holder comes to, for a contender that has all the turns. -/
theorem clear_alone (c : Contender) (path : String) (fs : FileSystem) :
    match fs.clearConflict c.processes path with
    | (.error problem, fs₁) => (c.step path)^[1] (.refused, fs) = (.idle (some problem), fs₁)
    | (.ok _, fs₁) => ∃ turns, (c.step path)^[turns] (.refused, fs) = (.retrying, fs₁) := by
  -- the first turn reads the file, and a second one removes it if it names nobody alive
  have hread : c.step path (.refused, fs) =
      (match fs.text? path with
        | none => .retrying
        | some text => .onText c.processes text, fs) := rfl
  unfold FileSystem.clearConflict
  cases htext : fs.text? path with
  | none =>
    rw [htext] at hread
    exact ⟨1, hread⟩
  | some text =>
    rw [htext] at hread
    unfold LockPhase.onText at hread
    rcases howner : LockOwner.read text with problem | owner
    · simp only [howner] at hread ⊢
      refine ⟨2, ?_⟩
      show c.step path (c.step path (.refused, fs)) = _
      rw [hread]
      rfl
    · by_cases hrun : c.processes.isRunning owner.pid = true
      · simp only [howner, if_pos hrun] at hread ⊢
        exact hread
      · simp only [howner, if_neg hrun] at hread ⊢
        refine ⟨2, ?_⟩
        show c.step path (c.step path (.refused, fs)) = _
        rw [hread]
        rfl

/-- Some turns in a row do what an acquisition does, and end as it does. Only who watches the
    directory can tell the difference. -/
theorem acquire_alone (c : Contender) (path : String) (fs : FileSystem)
    (problem : Option LockProblem) :
    ∃ turns changed, (c.step path)^[turns] (.idle problem, fs) =
      (.ofResult (fs.acquire c.processes path c.settings).result,
        { (fs.acquire c.processes path c.settings).files with changed := changed }) := by
  have hfirst := attempt_alone (p := .idle problem) c path fs false rfl rfl
  unfold FileSystem.acquire
  dsimp only
  rcases htry : fs.tryAcquire path ⟨c.processes.own, c.settings⟩ with ⟨problem | _ | lock, fs₁⟩
  · rw [htry] at hfirst
    exact ⟨1, _, hfirst⟩
  · -- somebody holds the file
    rw [htry] at hfirst
    dsimp only
    have hclear := clear_alone c path fs₁
    rcases hconflict : fs₁.clearConflict c.processes path with ⟨problem | cleanup, fs₂⟩
    · rw [hconflict] at hclear
      refine ⟨1 + 2, fs₂.changed, ?_⟩
      rw [Function.iterate_add_apply, hfirst]
      exact hclear
    · -- the way is clear, or seems so, and the second attempt decides
      rw [hconflict] at hclear
      dsimp only
      obtain ⟨turns, hclear⟩ := hclear
      have hbefore : (c.step path)^[turns + 2] (.idle problem, fs) = (.retrying, fs₂) := by
        rw [Function.iterate_add_apply, hfirst]
        exact hclear
      have hsecond := attempt_alone (p := .retrying) c path fs₂ true rfl rfl
      rcases hretry : fs₂.tryAcquire path ⟨c.processes.own, c.settings⟩ with
        ⟨problem | _ | lock, fs₃⟩
      · rw [hretry] at hsecond
        refine ⟨1 + (turns + 2), fs₃.changed, ?_⟩
        rw [Function.iterate_add_apply, hbefore]
        exact hsecond
      · rw [hretry] at hsecond
        refine ⟨2 + (turns + 2), fs₃.changed, ?_⟩
        rw [Function.iterate_add_apply, hbefore]
        exact hsecond
      · rw [hretry] at hsecond
        obtain ⟨changed, hheld⟩ := hsecond
        refine ⟨5 + (turns + 2), changed, ?_⟩
        rw [Function.iterate_add_apply, hbefore]
        exact hheld
  · rw [htry] at hfirst
    obtain ⟨changed, hheld⟩ := hfirst
    exact ⟨5, changed, hheld⟩

/-- Giving the lock back takes two turns. -/
theorem release_alone (c : Contender) (path : String) (fs : FileSystem) (file : Nat) :
    (c.step path)^[2] (.holding file, fs) = (.idle none, fs.release ⟨file, path⟩) := rfl

end Contender

end Twilight
