import Twilight.Proofs.Daemon.Act
import Twilight.Proofs.Files.Replace
import Twilight.Proofs.ParameterFile

namespace Twilight

/-!
# Statuses applied to the appearance

* `Daemon.Rendered` — how far a daemon can differ from another one by its appearance.
* `Daemon.renders_applyStatus` — whatever fails, applying a status touches no more than that.
* `Daemon.CanApply` — nothing fails that applying a status needs.
* `Daemon.Shows` — the color mode, the configuration and the parameter are all of one status.
* `Daemon.applyStatus_on`, `Daemon.shows_of_appearance` — where nothing fails, a status that is
  applied is shown.
-/

open Log

namespace Daemon

variable {d d₁ d₂ : Daemon}

/-! ### What applying can touch -/

/-- `d₁` is `d` but for the appearance, the files that its parameters are kept in, and the
    journal. -/
def Rendered (d d₁ : Daemon) : Prop :=
  ∃ a f j, d₁ = { d with appearance := a, files := f, journal := j }

namespace Rendered

theorem refl (d : Daemon) : Rendered d d := ⟨_, _, _, rfl⟩

theorem trans (h₁ : Rendered d d₁) (h₂ : Rendered d₁ d₂) : Rendered d d₂ := by
  obtain ⟨_, _, _, rfl⟩ := h₁
  obtain ⟨a, f, j, rfl⟩ := h₂
  exact ⟨a, f, j, rfl⟩

end Rendered

/-- Logging lines is a case of `Rendered`, with the same appearance and files. -/
theorem Logged.rendered (h : Logged d d₁) : Rendered d d₁ := by
  obtain ⟨j, rfl⟩ := h
  exact ⟨_, _, j, rfl⟩

/-- The action changes nothing but the appearance. -/
def Renders {α : Type} (act : Act α) : Prop := ∀ d, Rendered d (act.on d).2

/-- An action that `Logs` only is one that `Renders`. -/
theorem Renders.of_logs {α : Type} {act : Act α} (h : act.Logs) : Renders act :=
  fun d => (h d).rendered

/-- Two actions in a row render if both do, whatever the first one answers. -/
theorem Renders.bind {α β : Type} {x : Act α} {f : α → Act β} (hx : Renders x)
    (hf : ∀ a, Renders (f a)) : Renders (x >>= f) := fun d => (hx d).trans (hf _ _)

/-- An action that only answers renders, having changed nothing. -/
theorem renders_pure {α : Type} (a : α) : Renders (pure a) := .of_logs (Act.logs_pure a)

/-- The start of a block of lines is logged like any line. -/
theorem logs_block (message : String) : (block message).Logs := fun _ => ⟨_, rfl⟩

/-- A change of the appearance by `modifyAppearance` renders, by definition. -/
theorem renders_modifyAppearance (f : Appearance → Appearance) : Renders (modifyAppearance f) :=
  fun _ => ⟨_, _, _, rfl⟩

/-- Pushing a value to the configuration touches nothing but the appearance, whether the update
    succeeds or fails. -/
theorem renders_updateConfiguration (item : Item) (value : String) :
    Renders (updateConfiguration item value) := by
  intro d
  unfold updateConfiguration
  rw [Act.on_get_bind]
  refine (renders_modifyAppearance _).bind (fun _ => ?_) d
  split
  · exact .of_logs ((Act.logs_log _).bind fun _ => Act.logs_pure _)
  · exact renders_pure _

/-- Pushing a value and reading it back if need be touches nothing but the appearance. -/
theorem renders_updateItem (item : Item) (value : String) : Renders (updateItem item value) := by
  unfold updateItem
  refine (Renders.of_logs (Act.logs_info _)).bind fun _ => ?_
  refine (renders_updateConfiguration item value).bind fun result => ?_
  cases result with
  | ok _ => exact renders_pure _
  | error refusal =>
    -- a refusal is looked into, which comes to a log line
    intro d
    simp only []
    rw [Act.on_get_bind]
    cases d.appearance.configuration.get item with
    | error f => exact ((Act.logs_fail _).bind fun _ => Act.logs_pure _) d |>.rendered
    | ok reported =>
      by_cases hr : reported = value
      · simp only [if_pos hr]
        exact ((Act.logs_warn _).bind fun _ => Act.logs_pure _) d |>.rendered
      · simp only [if_neg hr]
        exact ((Act.logs_fail _).bind fun _ => Act.logs_pure _) d |>.rendered

/-- Keeping a parameter touches the appearance and the files that its parameters are in. -/
theorem renders_setParameter (key value : String) : Renders (setParameter key value) :=
  fun _ => ⟨_, _, _, rfl⟩

/-- Applying a mode is a change of the appearance, at whatever stage it ends. -/
theorem renders_applyMode (mode : Mode) : Renders (applyMode mode) := by
  unfold applyMode
  by_cases hm : mode.isFixed = true
  · rw [if_pos hm]
    refine (renders_updateItem _ _).bind fun result => ?_
    cases result with
    | error f => exact renders_pure _
    | ok _ => exact (renders_modifyAppearance _).bind fun _ => renders_setParameter _ _
  · rw [if_neg hm]
    exact .of_logs ((Act.logs_fail _).bind fun _ => Act.logs_pure _)

/-- `applyStatus` touches nothing but the appearance and its files, whatever fails in it. -/
theorem renders_applyStatus (dark : Bool) (user : UserId) : Renders (applyStatus dark user) := by
  unfold applyStatus
  refine (Renders.of_logs (logs_block _)).bind fun _ => ?_
  refine (renders_applyMode _).bind fun result => ?_
  cases result with
  | ok _ => exact renders_pure _
  | error f => exact .of_logs (Act.logs_fail _)

/-! ### Applying without faults -/

/-- Nothing fails that applying a status needs: the configuration takes and reports the color mode,
    and its parameter can be kept and read. -/
structure CanApply (d : Daemon) : Prop where
  permitted : d.appearance.permitted = true
  update : d.appearance.configuration.failsUpdate.get .colorMode = false
  get : d.appearance.configuration.failsGet.get .colorMode = false
  keep : d.appearance.parameters.failsSet Item.colorMode.parameter = false
  read : d.appearance.parameters.failsGet Item.colorMode.parameter = false
  file : ∀ path, d.appearance.parameters.file = some path → d.files.Replaceable path

/-- Whether a daemon `CanApply` a status depends on the appearance and on the directories alone. -/
theorem CanApply.congr (hc : d.CanApply) (ha : d₁.appearance = d.appearance)
    (hf : d.files.SameDirectories d₁.files) : d₁.CanApply where
  permitted := by rw [ha]; exact hc.permitted
  update := by rw [ha]; exact hc.update
  get := by rw [ha]; exact hc.get
  keep := by rw [ha]; exact hc.keep
  read := by rw [ha]; exact hc.read
  file path hpath := (hc.file path (by rw [← ha, hpath])).of_sameDirectories hf

/-- The color mode that is asked for, the one that the configuration reports and the one that is
    kept are all of the same status. -/
structure Shows (d : Daemon) (dark : Bool) : Prop where
  mode : (getMode.on d).1 = .ok (.fixed dark)
  configuration : d.appearance.configuration.get .colorMode = .ok (statusWord dark)
  parameter : d.appearance.parameters.get Item.colorMode.parameter Item.colorMode.fallback =
    .ok (statusWord dark)

end Daemon

/-- The appearance once a status was applied. -/
def Appearance.showing (a : Appearance) (dark : Bool) : Appearance :=
  { a with
    mode := .fixed dark
    configuration := { a.configuration with
      values := a.configuration.values.set .colorMode (some (statusWord dark)) }
    parameters := { a.parameters with
      values := a.parameters.values.insert Item.colorMode.parameter (statusWord dark) } }

/-- The mode that `fixed` makes of a status is `alwaysDark` if the status is dark, and only then. -/
theorem Mode.fixed_eq_alwaysDark (dark : Bool) : decide (Mode.fixed dark = .alwaysDark) = dark := by
  cases dark <;> rfl

/-- The two fixed modes differ, so `fixed` loses nothing of a status. -/
theorem Mode.fixed_injective {dark dark' : Bool} (h : Mode.fixed dark = Mode.fixed dark') :
    dark = dark' := by
  rw [← Mode.fixed_eq_alwaysDark dark, h, Mode.fixed_eq_alwaysDark]

/-- Every mode that is fixed is the one of some status, as `fixed` makes it. -/
theorem Mode.exists_fixed {mode : Mode} (hm : mode.isFixed = true) :
    ∃ dark, mode = .fixed dark := by
  cases mode with
  | invalid => cases hm
  | alwaysLight => exact ⟨false, rfl⟩
  | alwaysDark => exact ⟨true, rfl⟩
  | customWindow => cases hm

namespace Daemon

variable {d d₁ : Daemon}

/-- Where updates of an item succeed, `updateConfiguration` has the configuration take the value,
    and changes nothing else. -/
theorem updateConfiguration_on {item : Item} (value : String)
    (hu : d.appearance.configuration.failsUpdate.get item = false) :
    ∃ j, (updateConfiguration item value).on d = (.ok (), { d with
      appearance := { d.appearance with configuration := { d.appearance.configuration with
        values := d.appearance.configuration.values.set item (some value) } }
      journal := j }) := by
  unfold updateConfiguration
  rw [Act.on_get_bind]
  simp only [Configuration.update, hu, Bool.false_eq_true, if_false]
  split
  · exact ⟨_, rfl⟩
  · exact ⟨_, rfl⟩

/-- So does `updateItem`, which then has no reason to ask what the configuration reports. -/
theorem updateItem_on {item : Item} (value : String)
    (hu : d.appearance.configuration.failsUpdate.get item = false) :
    ∃ j, (updateItem item value).on d = (.ok (), { d with
      appearance := { d.appearance with configuration := { d.appearance.configuration with
        values := d.appearance.configuration.values.set item (some value) } }
      journal := j }) := by
  obtain ⟨j, hj⟩ := Act.logs_info s!"Updating {item.name} to {value}" d
  obtain ⟨j₁, he⟩ := updateConfiguration_on (d := { d with journal := j }) value hu
  refine ⟨j₁, ?_⟩
  unfold updateItem
  simp only [Act.on_bind, hj, he]
  rfl

/-- Where nothing fails that applying needs, as `CanApply` says, the parameter of the color mode is
    kept, in the file as well if there is one. -/
theorem setParameter_on (hc : d.CanApply) (value : String) :
    ∃ fs, (setParameter Item.colorMode.parameter value).on d = (.ok (), { d with
      appearance := { d.appearance with parameters := { d.appearance.parameters with
        values := d.appearance.parameters.values.insert Item.colorMode.parameter value } }
      files := fs }) ∧ d.files.SameDirectories fs := by
  unfold setParameter
  simp only [Act.on_modifyGet, Parameters.set, hc.keep, Bool.false_eq_true, if_false,
    Parameters.setBy_eq]
  -- parameters in memory need no file
  cases hf : d.appearance.parameters.file with
  | none => exact ⟨d.files, by simp, .refl _⟩
  | some path =>
    obtain ⟨fs, he, hs⟩ := FileSystem.replace_of_replaceable (hc.file path hf)
      (ParameterTable.write (d.appearance.parameters.values.insert Item.colorMode.parameter value))
    exact ⟨fs, by simp [he], hs⟩

/-- Applying a fixed mode where nothing fails: the status is shown, and the directories stay. -/
theorem applyMode_on (hc : d.CanApply) (dark : Bool) :
    ∃ fs j, (applyMode (.fixed dark)).on d = (.ok (), { d with
      appearance := d.appearance.showing dark, files := fs, journal := j }) ∧
      d.files.SameDirectories fs := by
  obtain ⟨j, hu⟩ := updateItem_on (statusWord dark) hc.update
  obtain ⟨fs, hp, hs⟩ := setParameter_on
    (d := { d with
      appearance := { d.appearance with
        mode := .fixed dark
        configuration := { d.appearance.configuration with
          values := d.appearance.configuration.values.set .colorMode (some (statusWord dark)) } }
      journal := j }) ⟨hc.permitted, hc.update, hc.get, hc.keep, hc.read, hc.file⟩ (statusWord dark)
  refine ⟨fs, j, ?_, hs⟩
  unfold applyMode
  rw [if_pos (Mode.isFixed_fixed dark), Mode.fixed_eq_alwaysDark]
  simp only [Act.on_bind, hu, modifyAppearance, Act.on_modify, hp]
  rfl

/-- On a daemon that `CanApply` it, `applyStatus` has the appearance show the status, and changes
    nothing else but files and journal. -/
theorem applyStatus_on (hc : d.CanApply) (dark : Bool) (user : UserId) :
    ∃ fs j, (applyStatus dark user).on d = ((), { d with
      appearance := d.appearance.showing dark, files := fs, journal := j }) ∧
      d.files.SameDirectories fs := by
  obtain ⟨j, hj⟩ := logs_block s!"Applying {(Mode.fixed dark).name} for user {user}" d
  obtain ⟨fs, j₁, he, hs⟩ := applyMode_on (d := { d with journal := j })
    (hc.congr rfl (.refl _)) dark
  refine ⟨fs, j₁, ?_, hs⟩
  unfold applyStatus
  simp only [Act.on_bind, hj, he, Act.on_pure]

/-- A daemon that `CanApply` one status, and shows it, can apply the next one. -/
theorem CanApply.of_showing (hc : d.CanApply) {dark : Bool}
    (ha : d₁.appearance = d.appearance.showing dark) (hf : d.files.SameDirectories d₁.files) :
    d₁.CanApply where
  permitted := by rw [ha]; exact hc.permitted
  update := by rw [ha]; exact hc.update
  get := by rw [ha]; exact hc.get
  keep := by rw [ha]; exact hc.keep
  read := by rw [ha]; exact hc.read
  file := by
    intro path hpath
    rw [ha] at hpath
    exact (hc.file path hpath).of_sameDirectories hf

/-- Where nothing can fail, an appearance `showing` a status makes that the status which the daemon
    `Shows`: in the service, in the configuration and in the parameters. -/
theorem shows_of_appearance (hc : d.CanApply) {a : Appearance} {dark : Bool}
    (ha : d.appearance = a.showing dark) : d.Shows dark where
  mode := by
    unfold getMode permitted
    rw [Act.on_get_bind, if_pos hc.permitted, Act.on_get_bind, ha]
    rfl
  configuration := by
    unfold Configuration.get
    rw [hc.get, ha]
    simp [Appearance.showing]
  parameter := by
    unfold Parameters.get
    rw [hc.read, ha]
    simp [Appearance.showing, Table.getD]

end Daemon

end Twilight
