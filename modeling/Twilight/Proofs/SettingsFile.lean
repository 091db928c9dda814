import Twilight.Daemon.Startup
import Twilight.Proofs.Daemon.Settings
import Twilight.Proofs.Settings.Changes
import Twilight.Proofs.Settings.Written

namespace Twilight

/-!
# The settings in memory and in their file

* `Daemon.Agrees` — the settings in memory are what the file reads as.
* `Daemon.StoreRun` — any sequence of values stored and of files taken over, with anything else in
  between that leaves the store and its file alone. Between storing a value and announcing it there
  is such a place: an observer may use the store in its turn.
* `Daemon.StoreRun.putSettingBy`, `Daemon.StoreRun.reload` — whole calls are such sequences.
* `Daemon.storeSettingBy_on` — a value is in the file and in memory, or in neither of them.
* `Daemon.agrees_of_run` — the two agree after every run, so that opening the file anew reads the
  same settings, and a call changes what it was called for and tells whom it concerns.
-/

namespace Daemon

open FileSystem (SameFile)
open Text.Numeral (IsInt32)

variable {path key value : String} {user : UserId} {d₀ d d₁ : Daemon}
variable {replace : FileSystem → String → String → Except FileProblem Unit × FileSystem}

/-- `readSettings?` is read off the file at the path alone. -/
theorem readSettings?_congr {fs fs₁ : FileSystem} (hs : SameFile fs fs₁ path) :
    readSettings? fs₁ path = readSettings? fs path := by
  unfold readSettings? readSettings
  rw [hs.exists?, hs.readText]

/-- A path that names a file with settings in the form of `SettingsTable.write` reads as these. -/
theorem readSettings?_of_lookup? {fs : FileSystem} {t : SettingsTable} {id : Nat} (ht : t.Numbered)
    (hf : fs.lookup? path = some (.file id (.text t.write))) :
    readSettings? fs path = .ok ⟨t, []⟩ := by
  obtain ⟨hexists, htext⟩ := FileSystem.reads_of_lookup? hf
  unfold readSettings? readSettings
  rw [if_pos hexists, htext]
  simp only [SettingsTable.read?_write ht]

/-- The settings that were written into a file are those that it holds. -/
theorem readSettings?_of_replace {fs fs₁ : FileSystem} {t : SettingsTable} (ht : t.Numbered)
    (he : fs.replace path t.write = (.ok (), fs₁)) : readSettings? fs₁ path = .ok ⟨t, []⟩ := by
  obtain ⟨id, hfile⟩ := FileSystem.lookup?_of_replace he
  exact readSettings?_of_lookup? ht hfile

/-! ### Agreement -/

/-- The settings are those of the file at `path`: one that is missing holds none. -/
structure Agrees (path : String) (d : Daemon) : Prop where
  file : d.settings.file = some path
  read : ∃ ignored, readSettings? d.files path = .ok ⟨d.settings.values, ignored⟩
  numbered : d.settings.values.Numbered

/-- Nothing happened to the settings, nor to their file. -/
structure SameStore (path : String) (d d₁ : Daemon) : Prop where
  values : d₁.settings.values = d.settings.values
  file : d₁.settings.file = d.settings.file
  reads : SameFile d.files d₁.files path

/-- What leaves the store and its file alone keeps the two in step. -/
theorem Agrees.aside (ha : d.Agrees path) (hs : SameStore path d d₁) : d₁.Agrees path where
  file := hs.file.trans ha.file
  read := by
    rw [readSettings?_congr hs.reads, hs.values]
    exact ha.read
  numbered := by
    rw [hs.values]
    exact ha.numbered

/-- The users of a file that was read have ids of 32 bits, as names that are none are ignored. -/
theorem numbered_of_readSettings? {fs : FileSystem} {r : SettingsTable.Reading}
    (hr : readSettings? fs path = .ok r) : r.table.Numbered := by
  unfold readSettings? at hr
  by_cases hexists : fs.exists? path = true
  · rw [if_pos hexists] at hr
    unfold readSettings at hr
    cases htext : fs.readText path with
    | error problem =>
      rw [htext] at hr
      cases hr
    | ok text =>
      simp only [htext] at hr
      cases hread : SettingsTable.read? text with
      | none =>
        rw [hread] at hr
        cases hr
      | some reading =>
        rw [hread] at hr
        rw [← Except.ok.inj hr]
        exact SettingsTable.numbered_of_read? hread
  · -- a file that is missing holds nobody's settings
    rw [if_neg hexists] at hr
    rw [← Except.ok.inj hr]
    exact fun _ _ h => by cases h

/-- Where the file can be read, `openSettings` succeeds and takes its table over. -/
theorem openSettings_of_read {r : SettingsTable.Reading} (hr : readSettings? d.files path = .ok r) :
    ∃ j, (openSettings path).on d = (.ok (), { d with
      journal := j
      settings := { d.settings with values := r.table, file := some path } }) := by
  obtain ⟨j, hj⟩ := logs_warnIgnored r.ignored d
  refine ⟨j, ?_⟩
  unfold openSettings
  rw [Act.on_get_bind]
  simp only [hr, Act.on_bind, hj]
  rfl

/-- Opening a file that can be read takes its settings, whatever was there before. -/
theorem openSettings_on {r : SettingsTable.Reading} (hr : readSettings? d.files path = .ok r) :
    ((openSettings path).on d).1 = .ok () ∧
      ((openSettings path).on d).2.settings.values = r.table ∧
      ((openSettings path).on d).2.Agrees path := by
  obtain ⟨j, he⟩ := openSettings_of_read hr
  rw [he]
  exact ⟨rfl, rfl, rfl, ⟨r.ignored, hr⟩, numbered_of_readSettings? hr⟩

/-- If `openSettings` succeeds then the file could be read. -/
theorem readSettings?_of_openSettings (ho : ((openSettings path).on d).1 = .ok ()) :
    ∃ r, readSettings? d.files path = .ok r := by
  unfold openSettings at ho
  rw [Act.on_get_bind] at ho
  cases hr : readSettings? d.files path with
  | error f =>
    rw [hr] at ho
    cases ho
  | ok r => exact ⟨r, rfl⟩

/-! ### Storing a value -/

/-- A value is stored in the file and in memory, and nothing else changes; or it is refused, and the
    file reads as before. -/
inductive Stored (path key value : String) (user : UserId) (d : Daemon) :
    Except Fault Unit × Daemon → Prop
  | taken {fs : FileSystem}
    (read : readSettings? fs path = .ok ⟨d.settings.values.put key value user, []⟩) :
    Stored path key value user d
      (.ok (), { d.withValues (d.settings.values.put key value user) with files := fs })
  | refused {f : Fault} {fs : FileSystem} (same : SameFile d.files fs path) :
    Stored path key value user d (.error f, { d with files := fs })

/-- Storing a value by `storeSettingBy` is `Stored`, whatever way there is to write the file. -/
theorem storeSettingBy_on (ha : d.Agrees path) (hw : d.files.Writes path (replace d.files))
    (hu : IsInt32 user) (key value : String) :
    Stored path key value user d ((storeSettingBy replace key value user).on d) := by
  have hnumbered := ha.numbered.put hu key value
  rw [storeSettingBy_of_file replace ha.file]
  generalize hreplaced : replace d.files path
    (SettingsTable.write (d.settings.values.put key value user)) = replaced
  obtain ⟨result, fs⟩ := replaced
  cases result with
  | ok _ =>
    obtain ⟨id, hfile⟩ := hw.taken hreplaced
    exact .taken (readSettings?_of_lookup? hnumbered hfile)
  | error problem => exact .refused (hw.refused hreplaced)

/-- The settings stay in step with their file when a value is `Stored`, and when it is refused. -/
theorem Stored.agrees {stored : Except Fault Unit × Daemon} (ha : d.Agrees path)
    (hu : IsInt32 user) (hs : Stored path key value user d stored) : stored.2.Agrees path := by
  cases hs with
  | taken hread => exact ⟨ha.file, ⟨[], hread⟩, ha.numbered.put hu key value⟩
  | refused hsame => exact ha.aside ⟨rfl, rfl, hsame⟩

/-! ### Taking the file over -/

/-- There are no `changes` from a table to itself. -/
theorem changes_self (t : SettingsTable) : t.changes t = [] := by
  refine List.eq_nil_iff_forall_not_mem.2 fun p hp => ?_
  exact SettingsTable.mem_changes_iff.1 hp rfl

/-- `takeFile` of a file that agrees with memory finds no change, and only logs. -/
theorem takeFile_on (ha : d.Agrees path) :
    ∃ j, (takeFile path).on d = (.ok [], { d with journal := j }) := by
  obtain ⟨ignored, hread⟩ := ha.read
  obtain ⟨j, hj⟩ := takeFile_of_read hread
  rw [changes_self] at hj
  exact ⟨j, hj⟩

/-- As long as the settings are in step with their file, `reload` answers that nothing changed, and
    only logs. -/
theorem reload_on (ha : d.Agrees path) (h : Hooks) :
    ∃ j, (reload h path).on d = (.ok 0, { d with journal := j }) := by
  obtain ⟨j, hj⟩ := takeFile_on ha
  refine ⟨j, ?_⟩
  unfold reload reloadIn
  rw [Act.on_bind, hj]
  rfl

/-! ### Runs -/

/-- What comes of `d₀` when values are stored, and the file is taken over, any number of times, and
    other things happen that leave both alone. Each value has a way of its own to be written, so
    that any of them may fail; a file that cannot be written stays as it is. -/
inductive StoreRun (path : String) (d₀ : Daemon) : Daemon → Prop where
  | start : StoreRun path d₀ d₀
  | stored {d : Daemon} {key value : String} {user : UserId}
      {replace : FileSystem → String → String → Except FileProblem Unit × FileSystem} :
      StoreRun path d₀ d → IsInt32 user → d.files.Writes path (replace d.files) →
      StoreRun path d₀ ((storeSettingBy replace key value user).on d).2
  | taken {d : Daemon} : StoreRun path d₀ d → StoreRun path d₀ ((takeFile path).on d).2
  | aside {d d₁ : Daemon} : StoreRun path d₀ d → SameStore path d d₁ → StoreRun path d₀ d₁

/-- The settings stay in step with their file through any `StoreRun`. -/
theorem StoreRun.agrees (hr : StoreRun path d₀ d) (h₀ : d₀.Agrees path) : d.Agrees path := by
  induction hr with
  | start => exact h₀
  | stored _ hu hw ih => exact (storeSettingBy_on ih hw hu _ _).agrees ih hu
  | taken _ ih =>
    obtain ⟨j, hj⟩ := takeFile_on ih
    rw [hj]
    exact ih.aside ⟨rfl, rfl, SameFile.refl _ path⟩
  | aside _ hs ih => exact ih.aside hs

/-- A whole call of `putSettingBy` is a run, if what the observer does is one. -/
theorem StoreRun.putSettingBy {h : Hooks} (hr : StoreRun path d₀ d) (hu : IsInt32 user)
    (hw : d.files.Writes path (replace d.files))
    (ho : ∀ d₁, StoreRun path d₀ d₁ → StoreRun path d₀ ((announce h key user).on d₁).2) :
    StoreRun path d₀ ((Daemon.putSettingBy h replace key value user).on d).2 := by
  have hstored : StoreRun path d₀ ((storeSettingBy replace key value user).on d).2 :=
    hr.stored hu hw
  rw [putSettingBy_eq]
  by_cases hf : d.settings.faults.failsSet key = true
  · rw [if_pos hf]
    exact hr
  · rw [if_neg hf]
    generalize (storeSettingBy replace key value user).on d = stored at hstored
    obtain ⟨result, d₁⟩ := stored
    cases result with
    | error f => exact hstored
    | ok _ => exact ho _ hstored

/-- So is one of `putSetting`, at a path where `FileSystem.replace` leaves what it cannot replace.
    -/
theorem StoreRun.putSetting {h : Hooks} (hr : StoreRun path d₀ d) (hu : IsInt32 user)
    (hw : d.files.Atomic path)
    (ho : ∀ d₁, StoreRun path d₀ d₁ → StoreRun path d₀ ((announce h key user).on d₁).2) :
    StoreRun path d₀ ((Daemon.putSetting h key value user).on d).2 :=
  hr.putSettingBy hu (FileSystem.writes_replace hw) ho

/-- A whole call of `reload` is a run, if what the observers do is one. -/
theorem StoreRun.reload {h : Hooks} (hr : StoreRun path d₀ d)
    (ho : ∀ key user d₁, StoreRun path d₀ d₁ → StoreRun path d₀ ((announce h key user).on d₁).2) :
    StoreRun path d₀ ((Daemon.reload h path).on d).2 := by
  unfold Daemon.reload reloadIn
  rw [Act.on_bind]
  cases ((takeFile path).on d).1 with
  | error f => exact hr.taken
  | ok changes =>
    rw [Act.on_bind]
    exact announceAll_induction (fun d j hd => hd.aside ⟨rfl, rfl, SameFile.refl _ path⟩) ho changes
      hr.taken

/-! ### What the store does in a run -/

/-- A call to store a value stores it and tells its observer, who finds it in the file and in
    memory; or it is refused, and nobody is told. -/
theorem putSettingBy_cases (ha : d.Agrees path) (hw : d.files.Writes path (replace d.files))
    (hu : IsInt32 user) (h : Hooks) (key value : String) :
    (((putSettingBy h replace key value user).on d).1 = .ok () ∧ ∃ fs,
      readSettings? fs path = .ok ⟨d.settings.values.put key value user, []⟩ ∧
      ((putSettingBy h replace key value user).on d).2 =
        match d.settings.observers.get? (key, user) with
        | none => { d.withValues (d.settings.values.put key value user) with files := fs }
        | some observer => ((tell h observer user).on
            { d.withValues (d.settings.values.put key value user) with files := fs }).2) ∨
    ∃ f fs, (putSettingBy h replace key value user).on d = (.error f, { d with files := fs }) ∧
      SameFile d.files fs path := by
  rw [putSettingBy_eq]
  by_cases hf : d.settings.faults.failsSet key = true
  · rw [if_pos hf]
    exact .inr ⟨_, d.files, rfl, SameFile.refl _ path⟩
  · rw [if_neg hf]
    have hstored := storeSettingBy_on ha hw hu key value
    generalize (storeSettingBy replace key value user).on d = stored at hstored
    cases hstored with
    | @taken fs hread =>
      refine .inl ⟨rfl, fs, hread, ?_⟩
      -- what is left to do is to tell the pair's observer, if it has one
      simp only [on_announce, withValues]
      cases d.settings.observers.get? (key, user) with
      | none => rfl
      | some observer => rfl
    | @refused f fs hsame => exact .inr ⟨f, fs, rfl, hsame⟩

/-- After `put`, `value?` gives the new value of the pair that was put, and of any other pair what
    it gave before. -/
theorem value?_put (t : SettingsTable) (key value : String) (user : UserId) (key' : String)
    (user' : UserId) : (t.put key value user).value? key' user' =
      if key' = key ∧ user' = user then some value else t.value? key' user' := by
  by_cases hu : user' = user
  · by_cases hk : key' = key
    · rw [if_pos ⟨hk, hu⟩, hk, hu, SettingsTable.value?_put_self]
    · rw [if_neg fun h => hk h.1, hu, SettingsTable.value?_put_of_key_ne t hk]
  · rw [if_neg fun h => hu h.2, SettingsTable.value?_put_of_user_ne t hu]

/-- From the opening of a settings file on, in every run: the settings in memory are those of the
    file, and opening it anew reads the same values. A call to store a value stores that one, and
    then calls its observer once, if it has one; or it fails, and nothing happens. Nothing is new in
    a file that is taken over. -/
theorem agrees_of_run (hopen : ((openSettings path).on d₀).1 = .ok ())
    (hr : StoreRun path ((openSettings path).on d₀).2 d) :
    (∃ ignored, readSettings? d.files path = .ok ⟨d.settings.values, ignored⟩) ∧
    (∀ d', d'.files = d.files → ((openSettings path).on d').1 = .ok () ∧ ∀ key user,
      ((openSettings path).on d').2.settings.values.getInt key user =
        d.settings.values.getInt key user) ∧
    (∀ h replace key value user, IsInt32 user → d.files.Writes path (replace d.files) →
      (((putSettingBy h replace key value user).on d).1 = .ok () ∧ ∃ values fs,
        readSettings? fs path = .ok ⟨values, []⟩ ∧
        (∀ key' user', values.value? key' user' =
          if key' = key ∧ user' = user then some value else d.settings.values.value? key' user') ∧
        ((putSettingBy h replace key value user).on d).2 =
          match d.settings.observers.get? (key, user) with
          | none => { d.withValues values with files := fs }
          | some observer =>
            ((tell h observer user).on { d.withValues values with files := fs }).2) ∨
      ∃ f fs,
        (putSettingBy h replace key value user).on d = (.error f, { d with files := fs }) ∧
        SameFile d.files fs path) ∧
    ∀ h, ∃ j, (reload h path).on d = (.ok 0, { d with journal := j }) := by
  obtain ⟨r, hread⟩ := readSettings?_of_openSettings hopen
  have ha := hr.agrees (openSettings_on hread).2.2
  refine ⟨ha.read, fun d' hfiles => ?_, fun h replace key value user hu hw => ?_,
    fun h => reload_on ha h⟩
  · obtain ⟨ignored, hread⟩ := ha.read
    rw [← hfiles] at hread
    obtain ⟨hok, hvalues, -⟩ := openSettings_on hread
    refine ⟨hok, fun key user => ?_⟩
    rw [hvalues]
  · rcases putSettingBy_cases ha hw hu h key value with ⟨hok, fs, hread, he⟩ | hrefused
    · exact .inl ⟨hok, _, fs, hread, value?_put _ key value user, he⟩
    · exact .inr hrefused

/-- A daemon without files that opened one for its settings, and stored a value in it. -/
def opened : Daemon := ((openSettings "/s.toml").on { clock := default, processes := default }).2

def openedStored : Daemon := ((storeSetting "mode" "2" 100).on opened).2

/-- Then neither another value of that key nor one of another key could be written. -/
def openedRefused : Daemon :=
  ((storeSettingBy FileSystem.refusing "start" "60" 100).on
    ((storeSettingBy FileSystem.refusing "mode" "0" 100).on openedStored).2).2

/-- Then the other key got a value. -/
def openedLast : Daemon := ((storeSetting "start" "90" 100).on openedRefused).2

/-- A daemon that is started over the files that were left. -/
def restarted : Daemon := { opened with files := openedLast.files }

/-- Values that were stored in a new file are read when the file is opened again, and nothing is of
    those that could not be written in between. A value that is refused is taken by nobody. -/
theorem agrees_of_stored :
    StoreRun "/s.toml" opened openedLast ∧ ((openSettings "/s.toml").on restarted).1 = .ok () ∧
    ((openSettings "/s.toml").on restarted).2.settings.values.getInt "mode" 100 = .ok 2 ∧
    ((openSettings "/s.toml").on restarted).2.settings.values.getInt "start" 100 = .ok 90 ∧
    ∃ f fs, (putSettingBy .quiet FileSystem.refusing "mode" "1" 100).on openedLast =
      (.error f, { openedLast with files := fs }) := by
  have hwrites : ∀ fs : FileSystem, fs.Writes "/s.toml" fs.replace := fun fs =>
    FileSystem.writes_replace (FileSystem.atomic_of_directory rfl)
  have hid : IsInt32 100 := ⟨by decide, by decide⟩
  have hrun : StoreRun "/s.toml" opened openedLast :=
    (((StoreRun.start.stored hid (hwrites _)).stored hid (FileSystem.writes_refusing _ _)).stored
      hid (FileSystem.writes_refusing _ _)).stored hid (hwrites _)
  obtain ⟨-, hreopen, hput, -⟩ := agrees_of_run rfl hrun
  have hmode : openedLast.settings.values.getInt "mode" 100 = .ok 2 := rfl
  have hstart : openedLast.settings.values.getInt "start" 100 = .ok 90 := rfl
  obtain ⟨hok, hget⟩ := hreopen restarted rfl
  refine ⟨hrun, hok, (hget "mode" 100).trans hmode, (hget "start" 100).trans hstart, ?_⟩
  -- the way to write refuses, so the call cannot have succeeded
  rcases hput .quiet FileSystem.refusing "mode" "1" 100 hid (FileSystem.writes_refusing _ _) with
    ⟨hstored, -⟩ | ⟨f, fs, he, -⟩
  · cases hstored
  · exact ⟨f, fs, he⟩

end Daemon

end Twilight
