import Twilight.Proofs.Files.Numbers
import Twilight.Proofs.Lock.Turns

namespace Twilight

/-!
# What the calls of a contender do

* `LockCall.Does`, `LockCall.does_run` — all that a call can do to the files.
* `LockCall.Does.file_stays`, `contents_come`, `gone` — the file at the path of the
  lock stays there until it is removed, and what it holds was written into it.
* `LockPhase.Leads`, `LockPhase.leads_next` — all that a contender can make of the answer.
* `LockPhase.Leads.file?`, `lock?`, `text` — where the files come from that a contender has open, or
  holds, and for what it clears one.
-/

variable {fs fs₁ : FileSystem} {path : String} {place : Place}

/-! ### The file at a path -/

namespace FileSystem

/-- What a path names does not depend on which files are locked. -/
theorem lookup?_locked (fs : FileSystem) (locked : List Nat) (path : String) :
    ({ fs with locked := locked } : FileSystem).lookup? path = fs.lookup? path := by
  unfold lookup?
  rw [(sameDirectories_locked fs locked).place?]
  rfl

/-- `setContents` gives new contents to what a path names if that is the file in question, and
    nothing else changes. -/
theorem lookup?_setContents_eq_map (fs : FileSystem) (file : Nat) (contents : Contents)
    (path : String) :
    (fs.setContents file contents).lookup? path =
      (fs.lookup? path).map fun node => if isFile file node then .file file contents else node := by
  unfold lookup?
  rw [(sameDirectories_setContents fs file contents).place?]
  cases hplace : fs.place? path with
  | none => rfl
  | some place => exact node?_setContents fs file contents place

/-- After `putFile` at the place of a path, the path names the new file. -/
theorem lookup?_putFile (hplace : fs.place? path = some place) (hdir : fs.isDirectory place = false)
    (contents : Contents) :
    (fs.putFile place contents).lookup? path = some (.file fs.nextId contents) := by
  have hput := (sameDirectories_putFile hdir contents).place? path
  rw [lookup?_of_place? (hput.trans hplace), node?_putFile, if_pos ⟨rfl, ne_root hdir⟩]

/-- A path names nothing after its place was `removed`. -/
theorem lookup?_removed (hplace : fs.place? path = some place)
    (hdir : fs.isDirectory place = false) : (fs.removed place).lookup? path = none := by
  have hgone := (sameDirectories_removed hdir).place? path
  rw [lookup?_of_place? (hgone.trans hplace), node?_removed _ (ne_root hdir), if_pos rfl]

/-- `text?` gives a text exactly where the path names a file that holds it. -/
theorem text?_eq_some_iff {text : String} :
    fs.text? path = some text ↔ ∃ id, fs.lookup? path = some (.file id (.text text)) := by
  unfold text? readText
  constructor
  · intro htext
    rcases hlookup : fs.lookup? path with _ | _ | ⟨id, contents | bytes⟩
    · rw [hlookup] at htext
      cases htext
    · rw [hlookup] at htext
      cases htext
    · rw [hlookup] at htext
      obtain rfl : contents = text := Option.some.inj htext
      exact ⟨id, rfl⟩
    · rw [hlookup] at htext
      cases htext
  · rintro ⟨id, hlookup⟩
    rw [hlookup]
    rfl

end FileSystem

open FileSystem

/-! ### Calls -/

/-- All that a call can do. -/
inductive LockCall.Does (path : String) (fs : FileSystem) : LockCall → FileSystem → Prop where
  /-- A removal does nothing only where nothing is. -/
  | nothing {call : LockCall} : (call = .remove → fs.lookup? path = none) → Does path fs call fs
  | create {place : Place} : fs.place? path = some place → fs.isDirectory place = false →
      fs.lookup? path = none → Does path fs .openFile (fs.putFile place (.text ""))
  | lock {file : Nat} : file ∉ fs.locked →
      Does path fs (.lock file) { fs with locked := file :: fs.locked }
  | write (file : Nat) (text : String) :
      Does path fs (.write file text) (fs.setContents file (.text text))
  | unlock (file : Nat) : Does path fs (.unlock file) (fs.unlock file)
  | remove {place : Place} : fs.place? path = some place → fs.isDirectory place = false →
      Does path fs .remove (fs.removed place)

namespace LockCall

variable {call : LockCall}

/-- `openFile` finds the file at an `Openable` path, or makes an empty one there. -/
theorem openFile_run (ho : fs.Openable path) :
    Does path fs .openFile (fs.openFile path).2 ∧ ∃ file contents,
      (fs.openFile path).1 = .ok file ∧
      (fs.openFile path).2.lookup? path = some (.file file contents) := by
  obtain ⟨place, hplace, hdir, hparent⟩ := ho
  have hlookup := lookup?_of_place? hplace
  unfold FileSystem.openFile
  cases hnode : fs.node? place with
  | none =>
    simp only [hplace, hnode, hparent, Bool.false_eq_true, if_false]
    exact ⟨.create hplace hdir (hlookup.trans hnode), fs.nextId, .text "", rfl,
      lookup?_putFile hplace hdir _⟩
  | some node =>
    cases node with
    | directory =>
      -- an `Openable` path does not name a directory
      rw [isDirectory_iff.2 hnode] at hdir
      cases hdir
    | file file contents =>
      simp only [hplace, hnode]
      exact ⟨.nothing nofun, file, contents, rfl, hlookup.trans hnode⟩

/-- Each call to the file system does what `Does` says, as long as the path is `Openable`. -/
theorem does_run (ho : fs.Openable path) (call : LockCall) :
    Does path fs call (call.run path fs) := by
  cases call with
  | openFile => exact (openFile_run ho).1
  | lock file =>
    show Does path fs (.lock file) ((fs.tryLock file).getD fs)
    -- a file that is locked already stays as it is
    unfold tryLock
    by_cases hlocked : file ∈ fs.locked
    · rw [if_pos hlocked]
      exact .nothing nofun
    · rw [if_neg hlocked]
      exact .lock hlocked
  | read => exact .nothing nofun
  | write file text => exact .write file text
  | unlock file => exact .unlock file
  | remove =>
    obtain ⟨place, hplace, hdir, -⟩ := ho
    have hlookup := lookup?_of_place? hplace
    show Does path fs .remove (fs.removeFile path).2
    cases hnode : fs.node? place with
    | none =>
      -- nothing is there to be removed
      unfold removeFile
      simp only [hplace, hnode]
      exact .nothing fun _ => hlookup.trans hnode
    | some node =>
      cases node with
      | directory =>
        rw [isDirectory_iff.2 hnode] at hdir
        cases hdir
      | file file contents =>
        rw [removeFile_of_file hplace hnode]
        exact .remove hplace hdir

/-- After a call to `lock` a file is locked, by whom ever. -/
theorem mem_locked_lock (path : String) (fs : FileSystem) (file : Nat) :
    file ∈ ((LockCall.lock file).run path fs).locked := by
  show file ∈ ((fs.tryLock file).getD fs).locked
  unfold tryLock
  by_cases hlocked : file ∈ fs.locked
  · rw [if_pos hlocked]
    exact hlocked
  · rw [if_neg hlocked]
    exact List.mem_cons_self

namespace Does

/-- What a call `Does` makes or removes no directory. -/
theorem sameDirectories (hd : Does path fs call fs₁) : SameDirectories fs fs₁ := by
  cases hd with
  | nothing _ => exact .refl fs
  | create _ hdir _ => exact sameDirectories_putFile hdir _
  | lock _ => exact sameDirectories_locked fs _
  | write file text => exact sameDirectories_setContents fs file _
  | unlock file => exact sameDirectories_locked fs _
  | remove _ hdir => exact sameDirectories_removed hdir

/-- What a call `Does` gives no number back. -/
theorem nextId_le (hd : Does path fs call fs₁) : fs.nextId ≤ fs₁.nextId := by
  cases hd with
  | create _ _ _ => exact Nat.le_succ _
  | _ => exact Nat.le_refl _

/-- Each call keeps the files `Numbered`, if it locks nothing but a number that was given out. -/
theorem numbered (hd : Does path fs call fs₁) (hn : fs.Numbered)
    (hlock : ∀ file, call = .lock file → file < fs.nextId) : fs₁.Numbered := by
  cases hd with
  | nothing _ => exact hn
  | create _ _ _ => exact hn.putFile _ _
  | lock _ => exact hn.withLocked (List.forall_mem_cons.2 ⟨hlock _ rfl, hn.locked⟩)
  | write file text => exact hn.setContents file _
  | unlock file => exact hn.withLocked fun i hi => hn.locked i (List.mem_of_mem_filter hi)
  | remove _ hdir => exact hn.removed (ne_root hdir)

/-- A file stays locked, whatever a call `Does`, until it is unlocked. -/
theorem mem_locked {file : Nat} (hd : Does path fs call fs₁) (hfile : file ∈ fs.locked)
    (hunlock : call ≠ .unlock file) : file ∈ fs₁.locked := by
  cases hd with
  | lock _ => exact List.mem_cons_of_mem _ hfile
  | unlock other =>
    refine List.mem_filter.2 ⟨hfile, decide_eq_true fun heq => hunlock ?_⟩
    rw [heq]
  | _ => exact hfile

/-- A file stays at its path, whatever a call `Does`, until it is removed. -/
theorem file_stays {file : Nat} {contents : Contents} (hd : Does path fs call fs₁)
    (hfile : fs.lookup? path = some (.file file contents)) (hremove : call ≠ .remove) :
    ∃ contents, fs₁.lookup? path = some (.file file contents) := by
  cases hd with
  | nothing _ => exact ⟨contents, hfile⟩
  | create _ _ hnone =>
    rw [hnone] at hfile
    cases hfile
  | lock _ => exact ⟨contents, by rw [lookup?_locked, hfile]⟩
  | write other text =>
    rw [lookup?_setContents_eq_map, hfile, Option.map_some]
    by_cases hwritten : isFile other (.file file contents) = true
    · obtain rfl : file = other := of_decide_eq_true hwritten
      exact ⟨.text text, by rw [if_pos hwritten]⟩
    · exact ⟨contents, by rw [if_neg hwritten]⟩
  | unlock other => exact ⟨contents, (lookup?_locked fs _ path).trans hfile⟩
  | remove _ _ => contradiction

/-- The file at the path has the contents it had before, or is a new one, or was written to. -/
theorem contents_come {file : Nat} {contents : Contents} (hd : Does path fs call fs₁)
    (hfile : fs₁.lookup? path = some (.file file contents)) :
    fs.lookup? path = some (.file file contents) ∨ contents = .text "" ∨
      ∃ text, call = .write file text ∧ contents = .text text := by
  cases hd with
  | nothing _ => exact .inl hfile
  | create hplace hdir _ =>
    rw [lookup?_putFile hplace hdir] at hfile
    exact .inr (.inl (Node.file.inj (Option.some.inj hfile)).2.symm)
  | lock _ =>
    rw [lookup?_locked] at hfile
    exact .inl hfile
  | write other text =>
    rw [lookup?_setContents_eq_map] at hfile
    obtain ⟨node, hold, hnode⟩ := Option.map_eq_some_iff.1 hfile
    -- the file at the path is the one that was written to, or another one
    by_cases hwritten : isFile other node = true
    · rw [if_pos hwritten] at hnode
      obtain ⟨rfl, rfl⟩ := Node.file.inj hnode
      exact .inr (.inr ⟨text, rfl, rfl⟩)
    · rw [if_neg hwritten] at hnode
      rw [hold, hnode]
      exact .inl rfl
  | unlock other => exact .inl ((lookup?_locked fs _ path).symm.trans hfile)
  | remove hplace hdir =>
    rw [lookup?_removed hplace hdir] at hfile
    cases hfile

/-- No file is at the path after a call to `remove`. -/
theorem gone (hd : Does path fs .remove fs₁) : fs₁.lookup? path = none := by
  cases hd with
  | nothing hnone => exact hnone rfl
  | remove hplace hdir => exact lookup?_removed hplace hdir

end Does

end LockCall

/-! ### Phases -/

namespace LockPhase

/-- All that a contender can make of the answer to its call. -/
inductive Leads (c : Contender) (path : String) (fs : FileSystem) :
    LockPhase → LockPhase → Prop where
  | opened {p : LockPhase} {file : Nat} {again : Bool} : p.call c = .openFile →
      (fs.openFile path).1 = .ok file → Leads c path fs p (.opened file again)
  | locked {file : Nat} {again : Bool} : file ∉ fs.locked →
      Leads c path fs (.opened file again) (.locked file)
  | written {p q : LockPhase} {file : Nat} {text : String} : p.call c = .write file text →
      p.lock? = some file → q.lock? = some file → Leads c path fs p q
  | cleared {text : String} {cleanup : Cleanup} : fs.text? path = some text →
      onText c.processes text = .clearing cleanup → Leads c path fs .refused (.clearing cleanup)
  /-- It has no file open then, and is about to clear none. -/
  | apart {p q : LockPhase} : q.file? = none → (∀ cleanup, q ≠ .clearing cleanup) →
      Leads c path fs p q

variable {c : Contender} {p q : LockPhase} {file : Nat}

/-- A contender calls to `lock` only a file that it has open. -/
theorem file?_of_call (h : p.call c = .lock file) : p.file? = some file := by
  cases p with
  | opened other again => exact congrArg some (LockCall.lock.inj h)
  | _ => cases h

/-- A contender calls to `unlock` only a file that it holds. -/
theorem lock?_of_call (h : p.call c = .unlock file) : p.lock? = some file := by
  cases p with
  | holding other => exact congrArg some (LockCall.unlock.inj h)
  | _ => cases h

/-- The answer to opening the file `Leads` to a file that is open, or to giving up. -/
theorem leads_onOpen (again : Bool) (hcall : p.call c = .openFile) :
    Leads c path fs p (onOpen path again (fs.openFile path).1) := by
  cases hanswer : (fs.openFile path).1 with
  | error problem => exact .apart rfl nofun
  | ok file => exact .opened hcall hanswer

/-- What a contender makes of an answer by `next` is what `Leads` says. -/
theorem leads_next (c : Contender) (path : String) (fs : FileSystem) (p : LockPhase) :
    Leads c path fs p (p.next c path fs) := by
  cases p with
  | idle problem => exact leads_onOpen false rfl
  | retrying => exact leads_onOpen true rfl
  | opened file again =>
    by_cases hlocked : file ∈ fs.locked
    · have hnone : fs.tryLock file = none := if_pos hlocked
      simp only [next, hnone]
      cases again with
      | false => exact .apart rfl nofun
      | true => exact .apart rfl nofun
    · have hsome : fs.tryLock file = some { fs with locked := file :: fs.locked } := if_neg hlocked
      simp only [next, hsome]
      exact .locked hlocked
  | refused =>
    cases htext : fs.text? path with
    | none =>
      simp only [next, htext]
      exact .apart rfl nofun
    | some text =>
      simp only [next, htext]
      cases hphase : onText c.processes text with
      | clearing cleanup => exact .cleared htext hphase
      | idle problem => exact .apart rfl nofun
      | _ =>
        -- what is read from a file leads to no other phase
        exfalso
        unfold onText at hphase
        split at hphase
        · cases hphase
        · split at hphase <;> cases hphase
  | clearing cleanup => exact .apart rfl nofun
  | locked file => exact .written rfl rfl rfl
  | emptied file => exact .written rfl rfl rfl
  | numbered file => exact .written rfl rfl rfl
  | holding file => exact .apart rfl nofun
  | leaving => exact .apart rfl nofun

/-- A file that is open was opened by the last call, or was open before, and the last call removed
    nothing. -/
theorem Leads.file? (hl : Leads c path fs p q) (ho : fs.Openable path) (h : q.file? = some file) :
    (p.call c = .openFile ∧
      ∃ contents, (fs.openFile path).2.lookup? path = some (.file file contents)) ∨
    (p.file? = some file ∧ p.call c ≠ .remove) := by
  -- a phase has its file from opening it, or from the phase before
  cases hl with
  | opened hcall hok =>
    obtain ⟨-, id, contents, hopened, hthere⟩ := LockCall.openFile_run ho
    obtain rfl := Option.some.inj h
    obtain rfl := Except.ok.inj (hok.symm.trans hopened)
    exact .inl ⟨hcall, contents, hthere⟩
  | locked _ => exact .inr ⟨h, nofun⟩
  | written hcall hp hq =>
    obtain rfl := Option.some.inj ((file?_of_lock? hq).symm.trans h)
    refine .inr ⟨file?_of_lock? hp, ?_⟩
    rw [hcall]
    exact nofun
  | cleared _ _ => cases h
  | apart hnone _ =>
    rw [hnone] at h
    cases h

/-- A file that is held was locked by the last call, or was held before, and the last call gave
    nothing back. -/
theorem Leads.lock? (hl : Leads c path fs p q) (h : q.lock? = some file) :
    (p.call c = .lock file ∧ file ∉ fs.locked) ∨
    (p.lock? = some file ∧ ∀ other, p.call c ≠ .unlock other) := by
  cases hl with
  | opened _ _ => cases h
  | locked hfree =>
    obtain rfl := Option.some.inj h
    exact .inl ⟨rfl, hfree⟩
  | written hcall hp hq =>
    obtain rfl := Option.some.inj (hq.symm.trans h)
    refine .inr ⟨hp, fun other => ?_⟩
    rw [hcall]
    exact nofun
  | cleared _ _ => cases h
  | apart hnone _ =>
    rw [file?_of_lock? h] at hnone
    cases hnone

/-- A contender comes to clear a file for the text that is in it, which names nobody who is alive.
    -/
theorem Leads.text {cleanup : Cleanup} (hl : Leads c path fs p (.clearing cleanup)) :
    ∃ text, fs.text? path = some text ∧ onText c.processes text = .clearing cleanup := by
  cases hl with
  | cleared htext hclear => exact ⟨_, htext, hclear⟩
  | written _ _ hq => cases hq
  | apart _ hno => exact absurd rfl (hno cleanup)

end LockPhase

end Twilight
