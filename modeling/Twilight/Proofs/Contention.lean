import Mathlib.Data.List.Induction
import Twilight.Proofs.Lock
import Twilight.Proofs.Lock.Calls

namespace Twilight

/-!
# Contenders that take turns at one lock

* `Contest.Orderly` — no two contenders hold the same file, whatever turns they take.
* `Contest.Recorded` — what is in the lock file was left there at the beginning, or written by one
  of them.
* `LockPhase.AboutToRemove` — the three ways to come to remove what is at the path: a lock was given
  back, the file was read before its owner was in it, or what was left at the beginning is cleared.
* `Contest.Robbed` — such a removal has taken from the path the file that a contender had open.
* `Contest.robbed_of_two_guards` — two guards at a time are those of different files, one of which
  was taken from its owner, and any removal while a guard is held makes room for a second one.
-/

open FileSystem

/-! ### Records -/

/-- What a contender writes, from the truncation of the file on. -/
inductive Contender.Records (c : Contender) : String → Prop where
  | emptied : Records c ""
  | numbered : Records c s!"{c.processes.own}\n"
  | complete : Records c c.owner.write

/-- What a contender's next call writes, in whatever phase, is one of the texts that it `Records`.
    -/
theorem Contender.records_of_call {c : Contender} {p : LockPhase} {file : Nat} {text : String}
    (h : p.call c = .write file text) : c.Records text := by
  cases p with
  | locked _ =>
    obtain ⟨-, rfl⟩ := LockCall.write.inj h
    exact .emptied
  | emptied _ =>
    obtain ⟨-, rfl⟩ := LockCall.write.inj h
    exact .numbered
  | numbered _ =>
    obtain ⟨-, rfl⟩ := LockCall.write.inj h
    exact .complete
  | _ => cases h

/-- A lock file that holds a number and nothing else names nobody: for `read`, the settings are
    missing. -/
theorem LockOwner.read_number {pid : Nat} (hpid : pid ≤ Text.Numeral.nat32Max) :
    LockOwner.read s!"{pid}\n" = .error .noSettings := by
  have hdigits : ∀ c ∈ (toString pid).toList, Text.isBlank c = false := fun c hc =>
    Text.Numeral.isBlank_of_mem_toString hc
  have hfeed : '\n' ∉ (toString pid).toList := fun hmem => by cases hdigits _ hmem
  have htext : (s!"{pid}\n").toList = (toString pid).toList ++ ['\n'] := by
    show (toString pid ++ "\n").toList = _
    rw [String.toList_append]
    rfl
  -- the line feed behind the number is all that is trimmed
  have htrim : Text.trim ((toString pid).toList ++ ['\n']) = (toString pid).toList := by
    have hdone := Text.trim_of_not_blank hdigits
    unfold Text.trim at hdone ⊢
    rw [LockOwner.trimStart_number, Text.trimEnd_snoc (by decide)]
    rwa [Text.trimStart_of_not_blank hdigits] at hdone
  have hne : (toString pid).toList ≠ [] := by
    obtain ⟨d, ds, hds, -⟩ := Text.Numeral.toDigits_cons pid
    rw [Text.Numeral.toList_toString, hds]
    exact List.cons_ne_nil d ds
  unfold LockOwner.read
  rw [htext, htrim, Text.lines_single hne hfeed]
  simp only [Text.trim_of_not_blank hdigits, Text.Numeral.readUnsigned_toString hpid]

/-- Who reads the record of a process that is alive learns so, or has read too early. -/
theorem LockPhase.onText_of_records {c : Contender} {processes : Processes} {text : String}
    (hrecords : c.Records text) (hs : IsSettingsPath c.settings)
    (hlive : processes.isRunning c.processes.own = true) :
    onText processes text = .clearing (.unreadable .empty) ∨
    onText processes text = .clearing (.unreadable .noSettings) ∨
    ∃ problem, onText processes text = .idle (some problem) := by
  have hpid : c.processes.own ≤ Text.Numeral.nat32Max := by
    unfold Processes.isRunning at hlive
    rw [Bool.and_eq_true, decide_eq_true_eq] at hlive
    exact Nat.le_trans hlive.1 (by decide)
  cases hrecords with
  | emptied => exact .inl rfl
  | numbered =>
    refine .inr (.inl ?_)
    unfold onText
    simp only [LockOwner.read_number hpid]
  | complete =>
    have hread := LockOwner.read_write (o := c.owner) hpid hs
    unfold onText
    simp only [hread]
    exact .inr (.inr ⟨_, if_pos hlive⟩)

/-- The ways to come to remove what is at the path of the lock: the files at the beginning were
    `fs`. -/
inductive LockPhase.AboutToRemove (path : String) (fs : FileSystem) (c : Contender) :
    LockPhase → Prop where
  /-- The lock was given back before. -/
  | released : AboutToRemove path fs c .leaving
  /-- The file was read before its owner was in it, or only its process was. -/
  | early {problem : OwnerProblem} : problem = .empty ∨ problem = .noSettings →
      AboutToRemove path fs c (.clearing (.unreadable problem))
  /-- The file was read that was there at the beginning, and names nobody who is alive. -/
  | leftover {text : String} {cleanup : Cleanup} : fs.text? path = some text →
      LockPhase.onText c.processes text = .clearing cleanup →
      AboutToRemove path fs c (.clearing cleanup)

/-! ### Who holds which file -/

namespace Contest

variable {ι : Type} [DecidableEq ι] {who : ι → Contender} {path : String} {s : Contest ι}
  {fs : FileSystem}

/-- Whoever holds a file holds it alone. -/
structure Orderly (path : String) (s : Contest ι) : Prop where
  openable : s.files.Openable path
  numbered : s.files.Numbered
  known : ∀ i file, (s.phase i).file? = some file → file < s.files.nextId
  locked : ∀ i file, (s.phase i).lock? = some file → file ∈ s.files.locked
  apart : ∀ i j file, i ≠ j → (s.phase i).lock? = some file → (s.phase j).lock? ≠ some file

omit [DecidableEq ι] in
/-- Before anybody's first turn nobody has a file open, so the contest is `Orderly`. -/
theorem Orderly.start (ho : fs.Openable path) (hn : fs.Numbered) :
    Orderly path ({ files := fs } : Contest ι) where
  openable := ho
  numbered := hn
  known := nofun
  locked := nofun
  apart := nofun

/-- The turn of a contender leads it from its phase to the next as `LockPhase.Leads` says, whatever
    the others are at. -/
theorem leads_turn (path : String) (who : ι → Contender) (s : Contest ι) (i : ι) :
    LockPhase.Leads (who i) path s.files (s.phase i) ((s.turn path who i).phase i) := by
  rw [phase_turn_self]
  exact LockPhase.leads_next ..

/-- In an orderly contest what a turn does to the files is what `LockCall.Does` says of the call in
    it. -/
theorem Orderly.does (ho : Orderly path s) (i : ι) :
    LockCall.Does path s.files ((s.phase i).call (who i)) (s.turn path who i).files :=
  LockCall.does_run ho.openable _

/-- In an `Orderly` contest, who has its turn does not lock a file that another contender holds
    locked. -/
theorem Orderly.lock?_ne (ho : Orderly path s) {i j : ι} {file : Nat} (hj : j ≠ i)
    (hi : ((s.turn path who i).phase i).lock? = some file) : (s.phase j).lock? ≠ some file := by
  obtain ⟨-, hfree⟩ | ⟨hheld, -⟩ := (leads_turn path who s i).lock? hi
  · intro hother
    exact hfree (ho.locked j file hother)
  · exact ho.apart i j file hj.symm hheld

/-- Every turn keeps a contest `Orderly`: a file that is locked is held by nobody else, and the
    files only grow in number. -/
theorem Orderly.turn (ho : Orderly path s) (i : ι) : Orderly path (s.turn path who i) := by
  have hdoes : LockCall.Does path s.files ((s.phase i).call (who i)) (s.turn path who i).files :=
    ho.does i
  have hnumbered : (s.turn path who i).files.Numbered :=
    hdoes.numbered ho.numbered fun file hcall => ho.known i file (LockPhase.file?_of_call hcall)
  exact
    { openable := ho.openable.of_sameDirectories hdoes.sameDirectories
      numbered := hnumbered
      known := by
        -- a new file gets a new number, and numbers are not given back
        intro j file hfile
        have hle := hdoes.nextId_le
        by_cases hj : j = i
        · rw [hj] at hfile
          obtain ⟨hcall, contents, hthere⟩ | ⟨hopen, -⟩ :=
            (leads_turn path who s i).file? ho.openable hfile
          · obtain ⟨place, -, hnode⟩ := Option.bind_eq_some_iff.1 hthere
            rw [files_turn, hcall] at hnumbered ⊢
            exact hnumbered.files place file contents hnode
          · exact Nat.lt_of_lt_of_le (ho.known i file hopen) hle
        · rw [phase_turn_of_ne s hj] at hfile
          exact Nat.lt_of_lt_of_le (ho.known j file hfile) hle
      locked := by
        intro j file hfile
        by_cases hj : j = i
        · rw [hj] at hfile
          obtain ⟨hcall, -⟩ | ⟨hheld, hcall⟩ := (leads_turn path who s i).lock? hfile
          · rw [files_turn, hcall]
            exact LockCall.mem_locked_lock path s.files file
          · exact hdoes.mem_locked (ho.locked i file hheld) (hcall file)
        · -- only its own holder gives a file back
          rw [phase_turn_of_ne s hj] at hfile
          refine hdoes.mem_locked (ho.locked j file hfile) fun hcall => ?_
          exact ho.apart j i file hj hfile (LockPhase.lock?_of_call hcall)
      apart := by
        intro j k file hjk hj hk
        by_cases hji : j = i
        · rw [hji] at hj hjk
          rw [phase_turn_of_ne s hjk.symm] at hk
          exact ho.lock?_ne hjk.symm hj hk
        · rw [phase_turn_of_ne s hji] at hj
          by_cases hki : k = i
          · rw [hki] at hk
            exact ho.lock?_ne hji hk hj
          · rw [phase_turn_of_ne s hki] at hk
            exact ho.apart j k file hjk hj hk }

/-! ### What is in the lock file -/

/-- What is in the file at the path was there at the beginning, or a contender has written it. And a
    file is cleared for what was in it at some time. -/
structure Recorded (path : String) (who : ι → Contender) (fs : FileSystem) (s : Contest ι) :
    Prop where
  contents : ∀ file contents, s.files.lookup? path = some (.file file contents) →
    fs.lookup? path = some (.file file contents) ∨
      ∃ i text, contents = .text text ∧ (who i).Records text
  cleared : ∀ k cleanup, s.phase k = .clearing cleanup →
    (∃ text, fs.text? path = some text ∧
      LockPhase.onText (who k).processes text = .clearing cleanup) ∨
    cleanup = .unreadable .empty ∨ cleanup = .unreadable .noSettings

omit [DecidableEq ι] in
/-- Before the first turn the file at the path has what was in it at the beginning, so the contest
    is `Recorded`. -/
theorem Recorded.start (path : String) (who : ι → Contender) (fs : FileSystem) :
    Recorded path who fs { files := fs } where
  contents := fun _ _ hfile => .inl hfile
  cleared := nofun

/-- Every turn keeps a contest `Recorded`: what is written is a record of its contender, and a file
    is cleared for a text that was in it when it was read. -/
theorem Recorded.turn (hr : Recorded path who fs s) (ho : Orderly path s)
    (hsettings : ∀ i, IsSettingsPath (who i).settings)
    (hlive : ∀ i j, (who i).processes.isRunning (who j).processes.own = true) (i : ι) :
    Recorded path who fs (s.turn path who i) where
  contents := by
    intro file contents hfile
    -- the contents are from before, or the file is new, or they were written just now
    obtain hold | hempty | ⟨text, hcall, htext⟩ := (ho.does i).contents_come hfile
    · exact hr.contents file contents hold
    · exact .inr ⟨i, "", hempty, .emptied⟩
    · exact .inr ⟨i, text, htext, Contender.records_of_call hcall⟩
  cleared := by
    intro k cleanup hk
    by_cases hki : k = i
    · rw [hki] at hk ⊢
      obtain ⟨text, htext, hclear⟩ := (hk ▸ leads_turn path who s i).text
      obtain ⟨file, hfile⟩ := text?_eq_some_iff.1 htext
      -- either the text was there at the beginning, or somebody who is alive wrote it
      obtain hold | ⟨j, written, hwritten, hrecords⟩ := hr.contents file _ hfile
      · exact .inl ⟨text, text?_eq_some_iff.2 ⟨file, hold⟩, hclear⟩
      · obtain rfl := Contents.text.inj hwritten
        obtain hempty | hhalf | ⟨problem, hrefused⟩ :=
          LockPhase.onText_of_records hrecords (hsettings j) (hlive i j)
        · rw [hempty] at hclear
          exact .inr (.inl (LockPhase.clearing.inj hclear).symm)
        · rw [hhalf] at hclear
          exact .inr (.inr (LockPhase.clearing.inj hclear).symm)
        · rw [hrefused] at hclear
          cases hclear
    · rw [phase_turn_of_ne s hki] at hk
      exact hr.cleared k cleanup hk

/-! ### Files that were taken away -/

omit [DecidableEq ι] in
/-- A contender that is about to call for a removal has come to it in one of the ways of
    `AboutToRemove`. -/
theorem Recorded.aboutToRemove (hr : Recorded path who fs s) {k : ι}
    (hcall : (s.phase k).call (who k) = .remove) :
    LockPhase.AboutToRemove path fs (who k) (s.phase k) := by
  cases hphase : s.phase k with
  | leaving => exact .released
  | clearing cleanup =>
    obtain ⟨text, htext, hclear⟩ | rfl | rfl := hr.cleared k cleanup hphase
    · exact .leftover htext hclear
    · exact .early (.inl rfl)
    · exact .early (.inr rfl)
  | _ =>
    rw [hphase] at hcall
    cases hcall

/-- In the course of the turns somebody has removed the file at the path while `i` had it open. -/
def Robbed (path : String) (who : ι → Contender) (fs : FileSystem) (schedule : List ι) (i : ι)
    (file : Nat) : Prop :=
  ∃ before k rest contents, schedule = before ++ k :: rest ∧
    let s : Contest ι := after path who { files := fs } before
    (s.phase i).file? = some file ∧ s.files.lookup? path = some (.file file contents) ∧
      LockPhase.AboutToRemove path fs (who k) (s.phase k)

/-- A file that was taken away while it was open stays so after further turns. -/
theorem Robbed.snoc {schedule : List ι} {i : ι} {file : Nat}
    (h : Robbed path who fs schedule i file) (k : ι) :
    Robbed path who fs (schedule ++ [k]) i file := by
  obtain ⟨before, robber, rest, contents, rfl, hrobbed⟩ := h
  refine ⟨before, robber, rest ++ [k], contents, ?_, hrobbed⟩
  rw [List.append_assoc, List.cons_append]

/-! ### Runs -/

/-- What is known after turns in any order. -/
structure Traced (path : String) (who : ι → Contender) (fs : FileSystem) (schedule : List ι) :
    Prop where
  orderly : Orderly path (after path who { files := fs } schedule)
  recorded : Recorded path who fs (after path who { files := fs } schedule)
  /-- A file that is open is at the path, unless it was taken away. -/
  present : ∀ i file, ((after path who { files := fs } schedule).phase i).file? = some file →
    (∃ contents, (after path who { files := fs } schedule).files.lookup? path =
      some (.file file contents)) ∨ Robbed path who fs schedule i file

variable {schedule : List ι}

/-- One more turn keeps the schedule `Traced`. Only a removal can take an open file away, and then
    its contender was `Robbed`. -/
theorem Traced.snoc (ht : Traced path who fs schedule)
    (hsettings : ∀ i, IsSettingsPath (who i).settings)
    (hlive : ∀ i j, (who i).processes.isRunning (who j).processes.own = true) (k : ι) :
    Traced path who fs (schedule ++ [k]) := by
  -- what was open before stays where it is, unless this turn removes it
  have hkept : ∀ i file, ((after path who { files := fs } schedule).phase i).file? = some file →
      (∃ contents, (after path who { files := fs } (schedule ++ [k])).files.lookup? path =
        some (.file file contents)) ∨ Robbed path who fs (schedule ++ [k]) i file := by
    intro i file hopen
    rw [after_snoc]
    obtain ⟨contents, hfile⟩ | hrobbed := ht.present i file hopen
    · by_cases hcall : ((after path who { files := fs } schedule).phase k).call (who k) = .remove
      · exact .inr ⟨schedule, k, [], contents, rfl, hopen, hfile, ht.recorded.aboutToRemove hcall⟩
      · exact .inl ((ht.orderly.does k).file_stays hfile hcall)
    · exact .inr (hrobbed.snoc k)
  refine ⟨?_, ?_, fun i file hopen => ?_⟩
  · rw [after_snoc]
    exact ht.orderly.turn k
  · rw [after_snoc]
    exact ht.recorded.turn ht.orderly hsettings hlive k
  · rw [after_snoc] at hopen
    by_cases hik : i = k
    · rw [hik] at hopen
      obtain ⟨hcall, hthere⟩ | ⟨hbefore, -⟩ :=
        (leads_turn path who _ k).file? ht.orderly.openable hopen
      · left
        rw [after_snoc, files_turn, hcall]
        exact hthere
      · rw [hik]
        exact hkept k file hbefore
    · rw [phase_turn_of_ne _ hik] at hopen
      exact hkept i file hopen

/-- Every schedule from an openable path on is `Traced`, by induction over the turns. -/
theorem traced (ho : fs.Openable path) (hn : fs.Numbered)
    (hsettings : ∀ i, IsSettingsPath (who i).settings)
    (hlive : ∀ i j, (who i).processes.isRunning (who j).processes.own = true) (schedule : List ι) :
    Traced path who fs schedule := by
  induction schedule using List.reverseRecOn with
  | nil => exact ⟨.start ho hn, .start path who fs, nofun⟩
  | append_singleton before k ih => exact ih.snoc hsettings hlive k

/-- After a removal nobody holds what is at the path, as nothing is. -/
theorem Orderly.free (ho : Orderly path s) {k : ι}
    (hcall : (s.phase k).call (who k) = .remove) : (s.turn path who k).files.Free path := by
  have hafter : Orderly path (s.turn path who k) := ho.turn k
  have hdoes : LockCall.Does path s.files .remove (s.turn path who k).files := hcall ▸ ho.does k
  refine ⟨hafter.openable, hafter.numbered, fun file contents hfile => ?_⟩
  rw [hdoes.gone] at hfile
  cases hfile

/-- In five turns of its own a contender gets a lock that nobody holds. -/
theorem five_turns_of_free {i : ι} {problem : Option LockProblem} (hf : s.files.Free path)
    (hidle : s.phase i = .idle problem) :
    ∃ file, (s.after path who (List.replicate 5 i)).phase i = .holding file ∧
      ∀ j ≠ i, (s.after path who (List.replicate 5 i)).phase j = s.phase j := by
  obtain ⟨lock, fs₁, htry, -⟩ := tryAcquire_of_free hf (who i).owner
  have hattempt := Contender.attempt_alone (p := s.phase i) (who i) path s.files false
    (by rw [hidle]; rfl) (by rw [hidle]; rfl)
  rw [show s.files.tryAcquire path ⟨_, _⟩ = _ from htry] at hattempt
  obtain ⟨changed, hfive⟩ := hattempt
  refine ⟨lock.file, ?_, fun j hj => ?_⟩
  · rw [after_replicate, hfive]
    exact Function.update_self ..
  · rw [after_replicate]
    exact Function.update_of_ne hj ..

/-- Of two guards one is for a file that is not at the path any more. -/
theorem Traced.robbed (ht : Traced path who fs schedule) {i j : ι} {a b : Nat} (hij : i ≠ j)
    (hi : (after path who { files := fs } schedule).phase i = .holding a)
    (hj : (after path who { files := fs } schedule).phase j = .holding b) :
    a ≠ b ∧ (Robbed path who fs schedule i a ∨ Robbed path who fs schedule j b) := by
  have hne : a ≠ b := by
    intro hab
    refine ht.orderly.apart i j a hij ?_ ?_
    · rw [hi]
      rfl
    · rw [hj, hab]
      rfl
  refine ⟨hne, ?_⟩
  obtain ⟨_, hthere⟩ | hrobbed := ht.present i a (by rw [hi]; rfl)
  · obtain ⟨_, hthere'⟩ | hrobbed := ht.present j b (by rw [hj]; rfl)
    · -- there is one file at the path only
      have hnode := hthere.symm.trans hthere'
      exact absurd (Node.file.inj (Option.some.inj hnode)).1 hne
    · exact .inr hrobbed
  · exact .inl hrobbed

/-- In an `Orderly` contest, a removal while somebody holds the lock makes room for a second guard:
    five turns later another contender is `holding` a new file. -/
theorem Orderly.second_guard (ho : Orderly path s) {i j k : ι} {a : Nat}
    {problem : Option LockProblem} (hi : s.phase i = .holding a) (hj : s.phase j = .idle problem)
    (hk : (s.phase k).call (who k) = .remove) :
    ∃ b, (s.after path who (k :: List.replicate 5 j)).phase i = .holding a ∧
      (s.after path who (k :: List.replicate 5 j)).phase j = .holding b := by
  -- the three contenders are in different phases, so they are different
  have hik : i ≠ k := by
    rintro rfl
    rw [hi] at hk
    cases hk
  have hjk : j ≠ k := by
    rintro rfl
    rw [hj] at hk
    cases hk
  have hij : i ≠ j := by
    rintro rfl
    rw [hi] at hj
    cases hj
  have hidle : (s.turn path who k).phase j = .idle problem := by
    rw [phase_turn_of_ne s hjk, hj]
  -- once `k` removed the path, five turns of `j` create and lock a new file
  obtain ⟨b, hb, hothers⟩ := five_turns_of_free (ho.free hk) hidle
  refine ⟨b, ?_, hb⟩
  show ((s.turn path who k).after path who (List.replicate 5 j)).phase i = _
  rw [hothers i hij, phase_turn_of_ne s hik, hi]

/-- **One guard at a time, unless a file is taken away.** Let contenders that are all alive acquire
    the lock and give it back, a call at a time and in any order. Two of them that hold it at the
    same time hold different files, and one of the two files was removed by somebody while its
    holder had it open. Somebody removes a file who gave the lock back before, or read the file
    before its owner was in it, or found there what was left at the beginning. And every such
    removal while somebody holds the lock leaves room for a second one: whoever is idle gets a guard
    in five turns. -/
theorem robbed_of_two_guards (ho : fs.Openable path) (hn : fs.Numbered)
    (hsettings : ∀ i, IsSettingsPath (who i).settings)
    (hlive : ∀ i j, (who i).processes.isRunning (who j).processes.own = true) (schedule : List ι) :
    (∀ i j a b, i ≠ j → (after path who { files := fs } schedule).phase i = .holding a →
      (after path who { files := fs } schedule).phase j = .holding b →
      a ≠ b ∧ (Robbed path who fs schedule i a ∨ Robbed path who fs schedule j b)) ∧
    (∀ i j k a problem, (after path who { files := fs } schedule).phase i = .holding a →
      (after path who { files := fs } schedule).phase j = .idle problem →
      ((after path who { files := fs } schedule).phase k).call (who k) = .remove →
      ∃ b, (after path who { files := fs } (schedule ++ k :: List.replicate 5 j)).phase i =
          .holding a ∧
        (after path who { files := fs } (schedule ++ k :: List.replicate 5 j)).phase j =
          .holding b) := by
  have ht := traced ho hn hsettings hlive schedule
  constructor
  · intro i j a b hij hi hj
    exact ht.robbed hij hi hj
  · intro i j k a problem hi hj hk
    rw [after_append]
    exact ht.orderly.second_guard hi hj hk

/-- Three processes that want the same settings. -/
def three (k : Fin 3) : Contender := ⟨⟨40 + k, [40, 41, 42]⟩, "/a.toml"⟩

/-- The first one acquires the lock and gives it back. Before it removes the file, the second one
    acquires it, and after that the third one. -/
def handover : List (Fin 3) :=
  List.replicate 6 0 ++ List.replicate 5 1 ++ 0 :: List.replicate 5 2

/-- The settings path that the three contenders of `three` want is one that a lock file can name. -/
theorem isSettingsPath_three (k : Fin 3) : IsSettingsPath (three k).settings := by
  show IsSettingsPath "/a.toml"
  exact ⟨⟨'/', by decide, by decide⟩, by decide⟩

/-- In an empty file system the path of the lock is `Openable`. -/
theorem openable_lock : ({} : FileSystem).Openable "/lock" :=
  ⟨["lock"], by decide, by decide, by decide⟩

/-- An empty file system is `Numbered`, having no files at all. -/
theorem numbered_empty : ({} : FileSystem).Numbered := by
  refine ⟨fun place file contents hnode => ?_, nofun⟩
  by_cases hroot : place = []
  · rw [hroot] at hnode
    cases hnode
  · rw [node?_of_ne_root hroot] at hnode
    cases hnode

/-- After the handover two processes hold the lock, and the file of one of them was taken away. -/
theorem robbed_of_handover :
    ((after "/lock" three { files := {} } handover).phase 1 = .holding 0 ∧
      (after "/lock" three { files := {} } handover).phase 2 = .holding 1) ∧
    (Robbed "/lock" three {} handover 1 0 ∨ Robbed "/lock" three {} handover 2 1) := by
  have hboth : (after "/lock" three { files := {} } handover).phase 1 = .holding 0 ∧
      (after "/lock" three { files := {} } handover).phase 2 = .holding 1 := by decide
  have hall := robbed_of_two_guards openable_lock numbered_empty isSettingsPath_three (by decide)
    handover
  exact ⟨hboth, (hall.1 1 2 0 1 (by decide) hboth.1 hboth.2).2⟩

/-- All are alive and have a settings path, and nothing was at the path before. Still more than one
    of them holds the lock. -/
theorem not_exclusive_of_handover :
    ((∀ k, IsSettingsPath (three k).settings) ∧
      (∀ i j, (three i).processes.isRunning (three j).processes.own = true) ∧
      ({} : FileSystem).Openable "/lock" ∧ ({} : FileSystem).lookup? "/lock" = none) ∧
    ¬ ∀ i j a b, (after "/lock" three { files := {} } handover).phase i = .holding a →
      (after "/lock" three { files := {} } handover).phase j = .holding b → i = j := by
  refine ⟨⟨isSettingsPath_three, by decide, openable_lock, by decide⟩, fun hexclusive => ?_⟩
  have heq := hexclusive 1 2 0 1 (by decide) (by decide)
  exact absurd heq (by decide)

/-- Two are enough where the second one looks into the file while the first one is about to write
    its process into it. -/
example :
    let s := after "/lock" three { files := {} } ([0, 0, 0, 1, 1, 1, 0, 0] ++ List.replicate 6 1)
    s.phase 0 = .holding 0 ∧ s.phase 1 = .holding 1 := by
  decide

end Contest

end Twilight
