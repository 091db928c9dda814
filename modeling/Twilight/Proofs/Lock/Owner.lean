import Twilight.Config.Basic
import Twilight.Proofs.Lock

namespace Twilight

/-!
# Whom a lock file names

A daemon writes its number and its settings path into the lock file, each on a line, and whoever
finds the file locked reads them back.

* `IsRecoverable` — the settings paths that come back as they were.
* `FileSystem.Usurped` — a lock was taken from an owner that is alive.
* `LockOwner.Recalled`, `LockOwner.recalled_of_accepted` — what becomes of every settings path that
  a configuration may have.
-/

open Text

/-! ### Settings paths in a lock file -/

/-- A settings path that a lock file gives back: one line, with no white space at its end. -/
structure IsRecoverable (settings : String) : Prop where
  oneLine : '\n' ∉ settings.toList
  end_not_blank : ∀ c ∈ settings.toList.getLast?, isBlank c = false

/-- A settings path that `validate` accepts is not blank, so that `trimEnd` leaves something of it.
    -/
theorem Config.trimEnd_ne_nil_of_accepted {c : Config} {settings : String}
    (hc : c.validate = .ok ())
    (hs : c.settingsPath = some settings) : trimEnd settings.toList ≠ [] := by
  intro hnil
  have hblank : ∀ d ∈ settings.toList, isBlank d = true := by
    intro d hd
    by_contra hnot
    exact trimEnd_ne_nil hd (Bool.eq_false_iff.2 hnot) hnil
  have hstart : trimStart settings.toList = [] := List.dropWhile_eq_nil_iff.2 hblank
  have hempty : isBlankPath c.settingsPath = true := by
    unfold isBlankPath trim
    rw [hs]
    simp only [hstart]
    rfl
  unfold validate at hc
  simp only [hempty, if_true] at hc
  split_ifs at hc

namespace LockOwner

variable {o : LockOwner}

/-- If what is left of the settings path after `trimEnd` is one line, then `read` gives back the
    process and this line. The blanks at its end are lost. -/
theorem read_write_of_oneLine (hpid : o.pid ≤ Numeral.nat32Max)
    (hne : trimEnd o.settings.toList ≠ [])
    (hfeed : '\n' ∉ trimEnd o.settings.toList) :
    LockOwner.read o.write = .ok ⟨o.pid, String.ofList (trimEnd o.settings.toList)⟩ := by
  rw [read_write_eq hpid hne, lines_single hne hfeed]

/-- A line feed in the settings path makes a third line, and `read` refuses the file as too long. -/
theorem read_write_of_feed (hpid : o.pid ≤ Numeral.nat32Max)
    (hfeed : '\n' ∈ trimEnd o.settings.toList) : LockOwner.read o.write = .error .tooLong := by
  -- what is left after trimming does not end in the line feed, so that is in front of another line
  have hne : trimEnd o.settings.toList ≠ [] := List.ne_nil_of_mem hfeed
  have hlast : ∀ c ∈ (trimEnd o.settings.toList).getLast?, c ≠ '\n' := by
    rintro c hc rfl
    exact absurd (getLast?_trimEnd o.settings.toList '\n' hc) (by decide)
  have hlength := length_lines hne hlast
  have hcount : 0 < (trimEnd o.settings.toList).count '\n' := List.count_pos_iff.2 hfeed
  rw [read_write_eq hpid hne]
  split
  · rename_i hlines
    rw [hlines] at hlength
    cases hlength
  · rename_i hlines
    rw [hlines, List.length_singleton] at hlength
    omega
  · rfl

/-- `read` gives back exactly what `write` was given if the settings path `IsRecoverable`, and
    otherwise it does not. -/
theorem read_write_eq_ok_iff (hpid : o.pid ≤ Numeral.nat32Max)
    (hne : trimEnd o.settings.toList ≠ []) :
    LockOwner.read o.write = .ok o ↔ IsRecoverable o.settings := by
  constructor
  · intro hread
    -- a line feed makes a third line, which is refused; without one the trimmed path is read back
    by_cases hfeed : '\n' ∈ trimEnd o.settings.toList
    · rw [read_write_of_feed hpid hfeed] at hread
      cases hread
    · rw [read_write_of_oneLine hpid hne hfeed] at hread
      have hsame : String.ofList (trimEnd o.settings.toList) = o.settings :=
        congrArg LockOwner.settings (Except.ok.inj hread)
      have hsettings : trimEnd o.settings.toList = o.settings.toList := by
        rw [← String.toList_inj, String.toList_ofList] at hsame
        exact hsame
      exact ⟨hsettings ▸ hfeed, trimEnd_eq_self_iff.1 hsettings⟩
  · intro hs
    have hsettings := trimEnd_eq_self_iff.2 hs.end_not_blank
    have hfeed : '\n' ∉ trimEnd o.settings.toList := hsettings.symm ▸ hs.oneLine
    rw [read_write_of_oneLine hpid hne hfeed, hsettings, String.ofList_toList]

end LockOwner

/-! ### Owners that are not named -/

namespace FileSystem

variable {fs fs₁ : FileSystem} {path : String} {owner : LockOwner} {lock : LockGuard}

/-- `openFile` locks nothing. -/
theorem locked_openFile (fs : FileSystem) (path : String) :
    (fs.openFile path).2.locked = fs.locked := by
  unfold openFile
  split
  · rfl
  · split
    · rfl
    · rfl
    · split_ifs <;> rfl

/-- Whoever locks a file takes one that nobody holds, and leaves the others theirs. -/
theorem locked_of_tryAcquire (h : fs.tryAcquire path owner = (.ok (some lock), fs₁)) :
    lock.file ∉ fs.locked ∧ fs₁.locked = lock.file :: fs.locked := by
  unfold tryAcquire at h
  have hlocked := locked_openFile fs path
  cases hopen : fs.openFile path with
  | mk result fs₂ =>
    rw [hopen] at h hlocked
    cases result with
    | error problem => cases h
    | ok id =>
      unfold tryLock at h
      dsimp only at h
      -- opening locks nothing, so whether the file is locked was decided before
      by_cases hmem : id ∈ fs₂.locked
      · rw [if_pos hmem] at h
        cases h
      · rw [if_neg hmem] at h
        obtain ⟨hlock, rfl⟩ := Prod.mk.inj h
        obtain rfl := Option.some.inj (Except.ok.inj hlock)
        change fs₂.locked = fs.locked at hlocked
        rw [hlocked] at hmem
        exact ⟨hmem, congrArg (id :: ·) hlocked⟩

/-- Whoever asks for the lock that `lock` is gets another one: the file that is locked is removed,
    and a new file is locked besides. -/
def Usurped (fs : FileSystem) (path : String) (lock : LockGuard) : Prop :=
  ∀ processes settings, ∃ lock₁, (fs.acquire processes path settings).result = .ok lock₁ ∧
    (fs.acquire processes path settings).files.HeldBy path ⟨processes.own, settings⟩ lock₁ ∧
    lock.file ∈ (fs.acquire processes path settings).files.locked ∧ lock₁.file ≠ lock.file

/-- A lock is `Usurped` if `read` makes nothing of the text that its owner wrote: the file is
    removed as left behind. -/
theorem usurped_of_unreadable {problem : OwnerProblem} (hh : fs.HeldBy path owner lock)
    (hread : LockOwner.read owner.write = .error problem) : fs.Usurped path lock := by
  intro processes settings
  obtain ⟨place, hplace, hnode⟩ := Option.bind_eq_some_iff.1 hh.file
  have hclear : fs.clearConflict processes path =
      (.ok (some (.unreadable problem)), fs.removed place) := by
    unfold clearConflict
    simp only [hh.text?, hread, removeFile_of_file hplace hnode]
  obtain ⟨lock₁, fs₁, htry, hheld⟩ :=
    tryAcquire_of_free (free_removed hh.openable hh.numbered hplace) ⟨processes.own, settings⟩
  obtain ⟨hfree, hlocked⟩ := locked_of_tryAcquire htry
  -- the removed file is gone from its path, but its lock is not
  have hheldStill : lock.file ∈ (fs.removed place).locked := hh.locked
  have hacquire : (fs.acquire processes path settings) =
      { result := .ok lock₁, cleanup := some (.unreadable problem), files := fs₁ } := by
    unfold acquire
    simp only [tryAcquire_of_heldBy hh, hclear, htry]
  rw [hacquire]
  refine ⟨lock₁, rfl, hheld, ?_, ?_⟩
  · show lock.file ∈ fs₁.locked
    rw [hlocked]
    exact List.mem_cons_of_mem _ hheldStill
  · rintro heq
    rw [heq] at hfree
    exact hfree hheldStill

end FileSystem

/-! ### Accepted settings paths -/

/-- What comes back of an owner who wrote a lock file. -/
structure LockOwner.Recalled (o : LockOwner) : Prop where
  /-- The owner, exactly if the settings path is one line without white space at its end. -/
  exact_iff : LockOwner.read o.write = .ok o ↔ IsRecoverable o.settings
  /-- White space at the end is lost, -/
  shortened : '\n' ∉ trimEnd o.settings.toList →
    LockOwner.read o.write = .ok ⟨o.pid, String.ofList (trimEnd o.settings.toList)⟩
  /-- and with a line feed in front of the end nothing comes back, -/
  unreadable : '\n' ∈ trimEnd o.settings.toList → LockOwner.read o.write = .error .tooLong
  /-- so that anybody can take the lock as well, as long as the owner holds it. -/
  usurped : '\n' ∈ trimEnd o.settings.toList → ∀ (fs : FileSystem) path lock,
    fs.HeldBy path o lock → fs.Usurped path lock

/-- **What comes back of the owner of a lock.** Under an accepted configuration `read` gives back
    the owner that `write` wrote exactly if the settings path `IsRecoverable`. Blanks at its end are
    lost, and a line feed in front of them has the lock `Usurped` by whoever comes next. -/
theorem LockOwner.recalled_of_accepted {c : Config} {settings : String} {pid : Nat}
    (hc : c.validate = .ok ()) (hs : c.settingsPath = some settings)
    (hpid : pid ≤ Numeral.nat32Max) : (LockOwner.mk pid settings).Recalled := by
  have hne : trimEnd (LockOwner.mk pid settings).settings.toList ≠ [] :=
    Config.trimEnd_ne_nil_of_accepted hc hs
  exact
    { exact_iff := read_write_eq_ok_iff hpid hne
      shortened := read_write_of_oneLine hpid hne
      unreadable := read_write_of_feed hpid
      usurped := fun hfeed fs path lock hh =>
        FileSystem.usurped_of_unreadable hh (read_write_of_feed hpid hfeed) }

/-- White space inside a settings path comes back, and a carriage return in front of a letter. -/
theorem LockOwner.recalled_of_inner_blanks :
    (Config.validate { settingsPath := some "/srv/ my\rsettings" } = .ok () ∧
        4242 ≤ Numeral.nat32Max) ∧
      LockOwner.read (LockOwner.write ⟨4242, "/srv/ my\rsettings"⟩) =
        .ok ⟨4242, "/srv/ my\rsettings"⟩ := by
  have hc : Config.validate { settingsPath := some "/srv/ my\rsettings" } = .ok () := by decide
  have hpid : 4242 ≤ Numeral.nat32Max := by decide
  have hpath : IsRecoverable "/srv/ my\rsettings" := ⟨by decide, by rintro c ⟨⟩; decide⟩
  exact ⟨⟨hc, hpid⟩, (LockOwner.recalled_of_accepted hc rfl hpid).exact_iff.2 hpath⟩

/-- Two accepted settings paths that do not come back: one of two lines, and one that ends in a
    blank. -/
theorem LockOwner.not_recalled_of_outer_blanks :
    (Config.validate { settingsPath := some "/srv/two\nlines.toml" } = .ok () ∧
      LockOwner.read (LockOwner.write ⟨4242, "/srv/two\nlines.toml"⟩) ≠
        .ok ⟨4242, "/srv/two\nlines.toml"⟩) ∧
    (Config.validate { settingsPath := some "/srv/settings.toml " } = .ok () ∧
      LockOwner.read (LockOwner.write ⟨4242, "/srv/settings.toml "⟩) ≠
        .ok ⟨4242, "/srv/settings.toml "⟩) := by
  have htwo : LockOwner.read (LockOwner.write ⟨4242, "/srv/two\nlines.toml"⟩) =
      .error .tooLong := by rfl
  have hblank : LockOwner.read (LockOwner.write ⟨4242, "/srv/settings.toml "⟩) =
      .ok ⟨4242, "/srv/settings.toml"⟩ := by rfl
  rw [htwo, hblank]
  exact ⟨⟨by decide, by decide⟩, by decide, by decide⟩

end Twilight
