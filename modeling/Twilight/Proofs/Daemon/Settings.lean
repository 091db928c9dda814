import Twilight.Proofs.Daemon.Users

namespace Twilight

/-!
# What becomes of changed settings

* `Daemon.Announced` — the observer of a value was told that it changed.
* `Daemon.Put`, `Daemon.Reconciled` — a value was stored and announced, if it could be; a stored
  mode was brought in line.
* `Daemon.putSetting_on`, `Daemon.takeFile_cases`, `Daemon.reconcile_on` — all that these
  operations can do.
* `Daemon.on_announce` — to announce a value is to tell its observer.
* `Daemon.announceAll_cons`, `Daemon.announceAll_induction` — changes are announced one after the
  other, so what each of them preserves is preserved by all.
* `Daemon.storeSettingBy_of_file`, `Daemon.takeFile_of_read` — a store and its file are as the file
  can be written, and read.
* `Daemon.putSettingBy_eq` — to put a value is to store it and then to announce it.
-/

namespace Daemon

variable {lossy : Prop} {h : Hooks} {d d₁ : Daemon}

/-! ### Announcing -/

/-- All that announcing a value can do: the manager takes the change over, or somebody else's
    callback notes it. -/
inductive Announced (lossy : Prop) (key : String) (user : UserId) (d d₁ : Daemon) : Prop
  | manager (told : String)
    (observer : d.settings.observers.get? (key, user) = some ⟨told, .manager⟩)
    (changed : Changed lossy told user d d₁)
  | others (observer : ∀ told, d.settings.observers.get? (key, user) ≠ some ⟨told, .manager⟩)
    (noted : ∃ e, d₁ = { d with events := e })

/-- To announce a value is to `tell` the observer that is registered for it, and nothing if there is
    none. -/
theorem on_announce (h : Hooks) (key : String) (user : UserId) (d : Daemon) :
    (announce h key user).on d = match d.settings.observers.get? (key, user) with
      | none => ((), d)
      | some observer => (tell h observer user).on d := by
  unfold announce
  rw [Act.on_get_bind]
  cases d.settings.observers.get? (key, user) with
  | none => rfl
  | some observer => rfl

/-- All that announcing a value can do, while only alarms get lost and calls to cancel succeed, is
    what `Announced` lists. -/
theorem announce_on (hl : h.Losing lossy) (hc : d.alarms.Cancels) (key : String) (user : UserId) :
    Announced lossy key user d ((announce h key user).on d).2 := by
  rw [on_announce]
  cases ho : d.settings.observers.get? (key, user) with
  | none => exact .others (by simp [ho]) ⟨_, rfl⟩
  | some observer =>
    obtain ⟨told, action⟩ := observer
    cases action with
    | manager => exact .manager told ho (settingChanged_on hl hc told user)
    | script label steps =>
      refine .others (by simp [ho]) ⟨.changed label told user :: d.events, ?_⟩
      simp only [tell, Act.on_bind, note, Act.on_modify, hl.run, Act.on_pure]

/-- `announceAll` logs a line, announces the first change as `Announced` says, and goes on with the
    others. -/
theorem announceAll_cons (hl : h.Losing lossy) (hc : d.alarms.Cancels) (key : String)
    (user : UserId) (rest : List (String × UserId)) :
    ∃ j d₁, Announced lossy key user { d with journal := j } d₁ ∧
      ((announceAll h ((key, user) :: rest)).on d).2 = ((announceAll h rest).on d₁).2 := by
  obtain ⟨j, hj⟩ := Act.logs_debug s!"Settings file changed '{key}' for user {user}" d
  refine ⟨j, _, announce_on (d := { d with journal := j }) hl hc key user, ?_⟩
  rw [announceAll]
  simp only [Act.on_bind, hj]

/-- What is preserved by lines and by every single announcement is preserved by `announceAll`. -/
theorem announceAll_induction {P : Daemon → Prop} (hlogged : ∀ d j, P d → P { d with journal := j })
    (hannounced : ∀ key user d, P d → P ((announce h key user).on d).2)
    (changes : List (String × UserId)) (hd : P d) : P ((announceAll h changes).on d).2 := by
  induction changes generalizing d with
  | nil => exact hd
  | cons change rest ih =>
    obtain ⟨key, user⟩ := change
    obtain ⟨j, hj⟩ := Act.logs_debug s!"Settings file changed '{key}' for user {user}" d
    rw [announceAll]
    simp only [Act.on_bind, hj]
    exact ih (hannounced key user _ (hlogged d j hd))

/-! ### Storing -/

/-- The file of the settings, if there is one, can be replaced. -/
def Writable (d : Daemon) : Prop :=
  ∀ path, d.settings.file = some path → d.files.Replaceable path

/-- Only the path and the directories count. -/
theorem Writable.congr (hw : d.Writable) (hs : d₁.settings.file = d.settings.file)
    (hf : d.files.SameDirectories d₁.files) : d₁.Writable :=
  fun path hpath => (hw path (by rw [← hs, hpath])).of_sameDirectories hf

/-- The daemon with other values stored. -/
def withValues (d : Daemon) (t : SettingsTable) : Daemon :=
  { d with settings := { d.settings with values := t } }

section

variable (replace : FileSystem → String → String → Except FileProblem Unit × FileSystem)

/-- Storing a value by `storeSettingBy` is its `replace`, and nothing else: what that makes of the
    files is what is left of them, and its success is that of the call. -/
theorem storeSettingBy_of_file {path : String} (hf : d.settings.file = some path)
    (key value : String) (user : UserId) :
    (storeSettingBy replace key value user).on d =
      match replace d.files path (SettingsTable.write (d.settings.values.put key value user)) with
      | (.error problem, fs) => (.error (.unwritable path problem), { d with files := fs })
      | (.ok _, fs) =>
        (.ok (), { d.withValues (d.settings.values.put key value user) with files := fs }) := by
  unfold storeSettingBy
  rw [Act.on_modifyGet]
  simp only [hf]
  generalize replace d.files path
    (SettingsTable.write (d.settings.values.put key value user)) = replaced
  obtain ⟨result, fs⟩ := replaced
  cases result with
  | error problem => rfl
  | ok _ => simp only [withValues, hf]

/-- A store without a file takes every value by `storeSettingBy`, whatever way to write there is. -/
theorem storeSettingBy_of_memory (hf : d.settings.file = none) (key value : String)
    (user : UserId) :
    (storeSettingBy replace key value user).on d =
      (.ok (), d.withValues (d.settings.values.put key value user)) := by
  unfold storeSettingBy
  rw [Act.on_modifyGet]
  simp only [withValues, hf]

/-- `putSettingBy` stores a value by `storeSettingBy`, unless the store is told to fail, and
    announces it in the state that this leaves if it succeeded. -/
theorem putSettingBy_eq (h : Hooks) (key value : String) (user : UserId) (d : Daemon) :
    (putSettingBy h replace key value user).on d =
      if d.settings.faults.failsSet key = true then (.error .storeOffline, d) else
        match (storeSettingBy replace key value user).on d with
        | (.error f, d₁) => (.error f, d₁)
        | (.ok _, d₁) => (.ok (), ((announce h key user).on d₁).2) := by
  unfold putSettingBy
  rw [Act.on_get_bind]
  by_cases hf : d.settings.faults.failsSet key = true
  · rw [if_pos hf, if_pos hf]
    rfl
  · rw [if_neg hf, if_neg hf, Act.on_bind]
    generalize (storeSettingBy replace key value user).on d = stored
    obtain ⟨answer, d₁⟩ := stored
    cases answer with
    | error f => rfl
    | ok _ => rfl

end

/-- A store with a file takes a value if `FileSystem.replace` can replace the file. -/
theorem storeSetting_of_file {path : String} (hf : d.settings.file = some path) (key value : String)
    (user : UserId) : (storeSetting key value user).on d =
      match d.files.replace path (SettingsTable.write (d.settings.values.put key value user)) with
      | (.error problem, fs) => (.error (.unwritable path problem), { d with files := fs })
      | (.ok _, fs) =>
        (.ok (), { d.withValues (d.settings.values.put key value user) with files := fs }) :=
  storeSettingBy_of_file FileSystem.replace hf key value user

/-- A store without a file takes every value. -/
theorem storeSetting_of_memory (hf : d.settings.file = none) (key value : String) (user : UserId) :
    (storeSetting key value user).on d =
      (.ok (), d.withValues (d.settings.values.put key value user)) :=
  storeSettingBy_of_memory FileSystem.replace hf key value user

/-- Storing a value in a file that can be replaced leaves the directories alone; a value that
    cannot be written is not taken. -/
theorem storeSetting_cases (key value : String) (user : UserId) (d : Daemon) :
    ∃ fs, (d.Writable → d.files.SameDirectories fs) ∧
      ((storeSetting key value user).on d =
          (.ok (), { d.withValues (d.settings.values.put key value user) with files := fs }) ∨
        ∃ f, (storeSetting key value user).on d = (.error f, { d with files := fs })) := by
  cases hfile : d.settings.file with
  | none =>
    exact ⟨d.files, fun _ => .refl _, .inl (storeSetting_of_memory hfile key value user)⟩
  | some path =>
    -- the directory of the file is there, so writing creates none
    have hdirs : d.Writable → ∀ contents,
        d.files.SameDirectories (d.files.replace path contents).2 := by
      intro hw contents
      obtain ⟨fs, he, hs⟩ := FileSystem.replace_of_replaceable (hw path hfile) contents
      rw [he]
      exact hs
    have hdirs := fun hw => hdirs hw (SettingsTable.write (d.settings.values.put key value user))
    rw [storeSetting_of_file hfile]
    generalize d.files.replace path (SettingsTable.write (d.settings.values.put key value user)) =
      replaced at hdirs
    obtain ⟨r, fs⟩ := replaced
    cases r with
    | ok _ => exact ⟨fs, hdirs, .inl rfl⟩
    | error problem => exact ⟨fs, hdirs, .inr ⟨_, rfl⟩⟩

/-- A call of `putSetting` fails and leaves all but the files as it was, or it takes the value and
    announces it. -/
theorem putSetting_cases (h : Hooks) (key value : String) (user : UserId) (d : Daemon) :
    ∃ fs, (d.Writable → d.files.SameDirectories fs) ∧
      ((putSetting h key value user).on d = (.ok (), ((announce h key user).on
          { d.withValues (d.settings.values.put key value user) with files := fs }).2) ∨
        ∃ f, (putSetting h key value user).on d = (.error f, { d with files := fs })) := by
  unfold putSetting
  rw [putSettingBy_eq]
  by_cases hf : d.settings.faults.failsSet key = true
  · rw [if_pos hf]
    exact ⟨d.files, fun _ => .refl _, .inr ⟨_, rfl⟩⟩
  · rw [if_neg hf]
    obtain ⟨fs, hdirs, he | ⟨f, he⟩⟩ := storeSetting_cases key value user d
    · have he : (storeSettingBy FileSystem.replace key value user).on d = _ := he
      rw [he]
      exact ⟨fs, hdirs, .inl rfl⟩
    · have he : (storeSettingBy FileSystem.replace key value user).on d = _ := he
      rw [he]
      exact ⟨fs, hdirs, .inr ⟨f, rfl⟩⟩

/-- All that storing a value can do: it is refused, or taken and announced. -/
inductive Put (lossy : Prop) (key value : String) (user : UserId) (d d₁ : Daemon) : Prop
  | refused (fs : FileSystem) (directories : d.Writable → d.files.SameDirectories fs)
    (same : d₁ = { d with files := fs })
  | stored (fs : FileSystem) (directories : d.Writable → d.files.SameDirectories fs)
    (announced : Announced lossy key user
      { d.withValues (d.settings.values.put key value user) with files := fs } d₁)

/-- All that storing a value can do is what `Put` lists: to refuse it, or to take and announce it.
    -/
theorem putSetting_on (hl : h.Losing lossy) (hc : d.alarms.Cancels) (key value : String)
    (user : UserId) : Put lossy key value user d ((putSetting h key value user).on d).2 := by
  obtain ⟨fs, hdirs, he | ⟨f, he⟩⟩ := putSetting_cases h key value user d
  · rw [he]
    refine .stored fs hdirs ?_
    exact announce_on (d := { d.withValues (d.settings.values.put key value user) with
      files := fs }) hl hc key user
  · rw [he]
    exact .refused fs hdirs rfl

/-! ### Reloading -/

/-- `warnIgnored` adds lines to the journal only, one per name that denotes no user. -/
theorem logs_warnIgnored (names : List String) : (warnIgnored names).Logs := by
  induction names with
  | nil => exact Act.logs_pure ()
  | cons name rest ih => exact (Act.logs_warn _).bind fun _ => ih

/-- Taking over a file that can be read finds what is different in it. -/
theorem takeFile_of_read {path : String} {r : SettingsTable.Reading}
    (hr : readSettings? d.files path = .ok r) : ∃ j, (takeFile path).on d =
      (.ok (d.settings.values.changes r.table), { d.withValues r.table with journal := j }) := by
  obtain ⟨j, hj⟩ := logs_warnIgnored r.ignored d
  refine ⟨j, ?_⟩
  unfold takeFile
  rw [Act.on_get_bind]
  simp only [hr, Act.on_bind, hj, Act.on_modifyGet]
  rfl

/-- Taking over a file: either it cannot be read, or all values are those of the file. -/
theorem takeFile_cases (path : String) (d : Daemon) :
    (∃ f, (takeFile path).on d = (.error f, d)) ∨
      ∃ t j, (takeFile path).on d =
        (.ok (d.settings.values.changes t), { d.withValues t with journal := j }) := by
  cases hr : readSettings? d.files path with
  | error f =>
    refine .inl ⟨f, ?_⟩
    unfold takeFile
    rw [Act.on_get_bind, hr]
    rfl
  | ok reading => exact .inr ⟨reading.table, takeFile_of_read hr⟩

/-! ### Observed statuses -/

/-- All that an observed status can do: it is remembered, and before that a fixed mode that
    contradicts it is replaced, if the store takes the new one. -/
inductive Reconciled (lossy : Prop) (user : UserId) (d d₁ : Daemon) : Prop
  | remembered (delivered : Delivered d d₁)
  | corrected (value : String) (j : Log.Journal) (d₀ : Daemon)
    (put : Put lossy StateKey.mode.name value user { d with journal := j } d₀)
    (delivered : Delivered d₀ d₁)

/-- All that an observed status can do is what `Reconciled` lists. -/
theorem reconcile_on (hl : h.Losing lossy) (hc : d.alarms.Cancels) (user : UserId) (dark : Bool) :
    Reconciled lossy user d ((reconcile h user dark).on d).2 := by
  unfold reconcile
  rw [Act.on_get_bind]
  simp only []
  by_cases hfixed : (!((d.manager.states.get? user).getD {}).mode.isFixed ||
      decide (((d.manager.states.get? user).getD {}).mode = Mode.fixed dark)) = true
  · rw [if_pos hfixed]
    refine .remembered ?_
    simp only [Act.on_bind]
    exact ((Act.logs_debug _ d).delivered).trans ⟨_, _, _, _, _, _, rfl⟩
  · rw [if_neg hfixed]
    simp only [Act.on_bind]
    obtain ⟨j, hj⟩ := Act.logs_info
      s!"Correcting stored mode for user {user} to {(Mode.fixed dark).name}" d
    rw [hj]
    have hput := putSetting_on (d := { d with journal := j }) hl hc StateKey.mode.name
      (toString (Mode.fixed dark).number) user
    -- the status is remembered only if the store took the mode
    refine .corrected _ j _ hput ?_
    cases ((putSetting h StateKey.mode.name (toString (Mode.fixed dark).number) user).on
      { d with journal := j }).1 with
    | error f => exact .refl _
    | ok _ => exact ⟨_, _, _, _, _, _, rfl⟩

end Daemon

end Twilight
