import Twilight.Proofs.Daemon.Restoring
import Twilight.Proofs.Settings.Written

namespace Twilight

/-!
# The appearance over a restart

* `AppearanceCall` — the calls that change the appearance, taken or refused.
* `Appearance.Steady` — every value in effect is one that its item can be set to, and the
  configuration and the parameters have it.
* `Appearance.restored_eq` — a steady appearance is what its parameters are restored to.
* `Daemon.Ready`, `Daemon.ready_of_restore`, `Daemon.Ready.perform` — restoring makes the appearance
  steady and its parameters kept, and every call leaves them so.
* `Daemon.returns_of_run` — a new appearance service with the parameters of the old one, or with
  those of their file, restores the old one's appearance, whatever was called in between.
-/

/-! ### Values in effect -/

/-- What there is per item is known by `get`. -/
theorem PerItem.ext_get {α : Type} {p q : PerItem α} (h : ∀ item, p.get item = q.get item) :
    p = q := by
  obtain ⟨_, _, _⟩ := p
  obtain ⟨_, _, _⟩ := q
  have hmode := h .colorMode
  have hsize := h .fontSize
  have hweight := h .fontWeight
  simp only [PerItem.get] at hmode hsize hweight
  rw [hmode, hsize, hweight]

/-- The words of the two statuses are different. -/
theorem statusWord_injective {dark dark' : Bool} (h : statusWord dark = statusWord dark') :
    dark = dark' := by
  revert h
  cases dark <;> cases dark' <;> decide

namespace Appearance

variable {a b : Appearance} {item other : Item} {value : String}

/-- The value in effect is one that the item can be set to. The configuration and the parameters
    have the same one. -/
structure InEffect (a : Appearance) (item : Item) : Prop where
  takes : item.Takes (a.value item)
  configuration : a.configuration.values.get item = some (a.value item)
  parameter : a.parameters.values.get? item.parameter = some (a.value item)

/-- The mode is light or dark, and the values of all items are in effect everywhere. -/
structure Steady (a : Appearance) : Prop where
  mode : a.mode.isFixed = true
  items : ∀ item, a.InEffect item

/-- An item has the value that it was set to. -/
theorem value_put_self (ht : item.Takes value) : (a.put item value).value item = value :=
  value_taking_self ht a

/-- Setting an item changes no other one. -/
theorem value_put_of_ne (h : other ≠ item) (value : String) :
    (a.put item value).value other = a.value other := value_taking_of_ne h value a

/-- A value that an item takes is `InEffect` once the item was set to it. -/
theorem inEffect_put_self (ht : item.Takes value) : (a.put item value).InEffect item := by
  refine ⟨?_, ?_, ?_⟩
  · rw [value_put_self ht]
    exact ht
  · rw [value_put_self ht]
    exact PerItem.get_set_self _ _ _
  · rw [value_put_self ht]
    exact Table.get?_insert_self _ _ _

/-- What is `InEffect` of one item stays so while another one is set. -/
theorem InEffect.put_of_ne (he : a.InEffect other) (h : other ≠ item) (value : String) :
    (a.put item value).InEffect other := by
  have hne : other.parameter ≠ item.parameter := fun hp => h (Item.parameter_injective hp)
  refine ⟨?_, ?_, ?_⟩
  · rw [value_put_of_ne h]
    exact he.takes
  · rw [value_put_of_ne h, ← he.configuration]
    exact PerItem.get_set_of_ne _ h _
  · rw [value_put_of_ne h, ← he.parameter]
    exact Table.get?_insert_of_ne _ hne _

/-- An appearance stays `Steady` when an item is set to a value that it takes. -/
theorem Steady.put (hs : a.Steady) (ht : item.Takes value) : (a.put item value).Steady where
  mode := by
    cases item with
    | colorMode => exact Mode.isFixed_fixed _
    | fontSize => exact hs.mode
    | fontWeight => exact hs.mode
  items other := by
    by_cases h : other = item
    · rw [h]
      exact inEffect_put_self ht
    · exact (hs.items other).put_of_ne h value

/-- What is `restored` is `Steady`, whatever the appearance was before, if all values that were kept
    fit. -/
theorem steady_restored (ht : ∀ item : Item, item.Takes (a.kept item)) : a.restored.Steady where
  mode := Mode.isFixed_fixed _
  items item := by
    cases item with
    | colorMode =>
      exact ((inEffect_put_self (ht .colorMode)).put_of_ne (by decide) _).put_of_ne (by decide) _
    | fontSize => exact (inEffect_put_self (ht .fontSize)).put_of_ne (by decide) _
    | fontWeight => exact inEffect_put_self (ht .fontWeight)

/-- The value that is `InEffect` is the one that will be restored from the same parameters. -/
theorem InEffect.kept (he : a.InEffect item) (hp : b.parameters = a.parameters) :
    b.kept item = a.value item := by
  unfold Appearance.kept Table.getD
  rw [hp, he.parameter]
  rfl

/-- Each item of the `restored` appearance has the value that was `kept`, where all these fit. -/
theorem value_restored (ht : ∀ item : Item, item.Takes (a.kept item)) (item : Item) :
    a.restored.value item = a.kept item := by
  unfold restored
  cases item with
  | colorMode =>
    rw [value_put_of_ne (by decide), value_put_of_ne (by decide), value_put_self (ht .colorMode)]
  | fontSize => rw [value_put_of_ne (by decide), value_put_self (ht .fontSize)]
  | fontWeight => rw [value_put_self (ht .fontWeight)]

/-- The `restored` appearance has the same parameters, if all of them were kept already. -/
theorem parameters_restored
    (hkept : ∀ item : Item, a.parameters.values.get? item.parameter = some (a.kept item)) :
    a.restored.parameters = a.parameters := by
  show { a.parameters with
    values := ((a.parameters.values.insert Item.colorMode.parameter (a.kept .colorMode)).insert
      Item.fontSize.parameter (a.kept .fontSize)).insert
      Item.fontWeight.parameter (a.kept .fontWeight) } = _
  rw [Table.insert_of_get?_eq_some (hkept .colorMode),
    Table.insert_of_get?_eq_some (hkept .fontSize),
    Table.insert_of_get?_eq_some (hkept .fontWeight)]

/-- Two `Steady` appearances with the same values and the same parameters are the same. -/
theorem eq_of_steady (ha : a.Flawless) (hb : b.Flawless) (hsa : a.Steady) (hsb : b.Steady)
    (hv : ∀ item, b.value item = a.value item) (hp : b.parameters = a.parameters) : b = a := by
  have hvalues : b.configuration.values = a.configuration.values := by
    apply PerItem.ext_get
    intro item
    rw [(hsb.items item).configuration, (hsa.items item).configuration, hv item]
  -- both modes are fixed, and told apart by their words
  have hmode : b.mode = a.mode := by
    obtain ⟨dark, hdark⟩ := Mode.exists_fixed hsa.mode
    obtain ⟨dark', hdark'⟩ := Mode.exists_fixed hsb.mode
    have hword := hv .colorMode
    unfold value at hword
    simp only [hdark, hdark', Mode.fixed_eq_alwaysDark] at hword
    rw [hdark, hdark', statusWord_injective hword]
  have hconfiguration : b.configuration = a.configuration := by
    calc b.configuration
        = ⟨b.configuration.values, b.configuration.failsUpdate, b.configuration.failsGet⟩ := rfl
      _ = ⟨a.configuration.values, a.configuration.failsUpdate, a.configuration.failsGet⟩ := by
        rw [hvalues, hb.update, ha.update, hb.report, ha.report]
      _ = a.configuration := rfl
  have hsize : b.fontSize = a.fontSize := hv .fontSize
  have hweight : b.fontWeight = a.fontWeight := hv .fontWeight
  calc b
      = ⟨b.permitted, b.configuration, b.parameters, b.mode, b.fontSize, b.fontWeight⟩ := rfl
    _ = ⟨a.permitted, a.configuration, a.parameters, a.mode, a.fontSize, a.fontWeight⟩ := by
      rw [hb.permitted, ha.permitted, hconfiguration, hp, hmode, hsize, hweight]
    _ = a := rfl

/-- A steady appearance is what any other one comes to when its parameters are restored there. -/
theorem restored_eq (ha : a.Flawless) (hb : b.Flawless) (hs : a.Steady)
    (hp : b.parameters = a.parameters) : b.restored = a := by
  have hkept : ∀ item, b.kept item = a.value item := fun item => (hs.items item).kept hp
  have htakes : ∀ item : Item, item.Takes (b.kept item) := by
    intro item
    rw [hkept item]
    exact (hs.items item).takes
  have hparameters : b.restored.parameters = a.parameters := by
    rw [← hp]
    apply parameters_restored
    intro item
    rw [hkept item, hp]
    exact (hs.items item).parameter
  refine eq_of_steady ha hb.restored hs (steady_restored htakes) ?_ hparameters
  intro item
  rw [value_restored htakes, hkept]

end Appearance

/-! ### Calls -/

/-- A call that changes the appearance. -/
inductive AppearanceCall where
  | setMode (mode : Mode)
  | setFontSize (value : String)
  | setFontWeight (value : String)
  | apply (dark : Bool) (user : UserId)

namespace Daemon

variable {item : Item} {value path : String} {d d₀ d₁ d' : Daemon} {success : Prop}

/-- Make a call, whatever it answers. -/
def makeCall : AppearanceCall → Act Unit
  | .setMode mode => do let _ ← setMode mode
  | .setFontSize value => do let _ ← setScale .fontSize value
  | .setFontWeight value => do let _ ← setScale .fontWeight value
  | .apply dark user => applyStatus dark user

/-- The daemon once the calls were made, one after the other. -/
def afterCalls (d : Daemon) (calls : List AppearanceCall) : Daemon :=
  calls.foldl (fun d call => ((makeCall call).on d).2) d

/-- The appearance is steady, and its parameters are kept. -/
structure Ready (d : Daemon) : Prop where
  flawless : d.appearance.Flawless
  steady : d.appearance.Steady
  kept : d.appearance.parameters.Kept d.files

/-- A daemon stays `Ready` while lines are logged. -/
theorem Ready.of_logged (h : d.Ready) (hl : Logged d d₁) : d₁.Ready := by
  obtain ⟨j, rfl⟩ := hl
  exact ⟨h.flawless, h.steady, h.kept⟩

/-- A daemon stays `Ready` after a value was applied to an item, whether that succeeded or not. -/
theorem Ready.of_applies (h : d.Ready) (ha : Applies item value d success d₁) : d₁.Ready := by
  by_cases ht : item.Takes value
  · have htaken := (ha.taken (ha.possible ht h.kept)).2
    refine ⟨htaken.flawless h.flawless, ?_, htaken.kept⟩
    rw [htaken.appearance]
    exact h.steady.put ht
  · exact h.of_logged (ha.refused ht)

/-- `applyMode` keeps the daemon `Ready`. -/
theorem Ready.applyMode (h : d.Ready) (mode : Mode) : ((applyMode mode).on d).2.Ready := by
  by_cases hm : mode.isFixed = true
  · obtain ⟨dark, rfl⟩ := Mode.exists_fixed hm
    exact h.of_applies (applyMode_applies h.flawless dark)
  · exact h.of_logged (applyMode_refused hm).1

/-- `setMode` keeps the daemon `Ready`, whether the mode is a fixed one or not. -/
theorem Ready.setMode (h : d.Ready) (mode : Mode) : ((setMode mode).on d).2.Ready := by
  unfold Daemon.setMode permitted
  rw [Act.on_get_bind, if_pos h.flawless.permitted, Act.on_get_bind]
  by_cases hm : mode = d.appearance.mode
  · simp only [if_pos hm]
    exact h.of_logged (((Act.logs_warn _).bind fun _ => Act.logs_pure _) d)
  · simp only [if_neg hm]
    exact h.applyMode mode

/-- `setScale` keeps the daemon `Ready`, whether the value is a scale or not. -/
theorem Ready.setScale (h : d.Ready) (hi : item ≠ .colorMode) (value : String) :
    ((setScale item value).on d).2.Ready := by
  unfold Daemon.setScale permitted
  rw [Act.on_get_bind, if_pos h.flawless.permitted]
  exact h.of_applies (applyScale_applies h.flawless hi value)

/-- `applyStatus` keeps the daemon `Ready`, for the active user as for others. -/
theorem Ready.applyStatus (h : d.Ready) (dark : Bool) (user : UserId) :
    ((applyStatus dark user).on d).2.Ready := by
  unfold Daemon.applyStatus
  rw [Act.on_bind]
  have hblock := h.of_logged (logs_block s!"Applying {(Mode.fixed dark).name} for user {user}" d)
  rw [Act.on_bind]
  have happlied := hblock.applyMode (.fixed dark)
  generalize (Daemon.applyMode (.fixed dark)).on _ = r at happlied
  obtain ⟨result, d₁⟩ := r
  cases result with
  | ok _ => exact happlied
  | error f => exact happlied.of_logged (Act.logs_fail _ d₁)

/-- No call makes a daemon that is `Ready` less so. -/
theorem Ready.makeCall (h : d.Ready) (call : AppearanceCall) : ((makeCall call).on d).2.Ready := by
  cases call with
  | setMode mode => exact h.setMode mode
  | setFontSize value => exact h.setScale (by decide) value
  | setFontWeight value => exact h.setScale (by decide) value
  | apply dark user => exact h.applyStatus dark user

/-- No calls make a daemon that is `Ready` less so, however many there are. -/
theorem Ready.afterCalls (h : d.Ready) (calls : List AppearanceCall) :
    (d.afterCalls calls).Ready := by
  induction calls generalizing d with
  | nil => exact h
  | cons call rest ih => exact ih (h.makeCall call)

/-- If `restore` succeeds on a `Flawless` appearance then the daemon is `Ready`. -/
theorem ready_of_restore (hf : d.appearance.Flawless) (hok : (restore.on d).1 = .ok ()) :
    (restore.on d).2.Ready := by
  have hr := restored_of_ok hf hok
  have happearance : (restore.on d).2.appearance = d.appearance.restored := by
    obtain ⟨fs, j, he⟩ := hr.eq
    rw [he]
  refine ⟨?_, ?_, hr.kept⟩
  · rw [happearance]
    exact hf.restored
  · rw [happearance]
    exact Appearance.steady_restored hr.takes

/-! ### A new service -/

/-- A new appearance service: nothing was set in its configuration, and its parameters are those of
    `d`, or what the file of those reads as. -/
structure Relaunched (d d' : Daemon) : Prop where
  files : d'.files = d.files
  appearance : ∃ p, d'.appearance = { parameters := p } ∧ (p = d.appearance.parameters ∨
    ∃ path, d.appearance.parameters.file = some path ∧ Parameters.open? d.files path = .ok p)

/-- Restoring succeeds and brings the appearance of `d` back. Restoring once more succeeds, too, and
    changes nothing: what is written into the file then is what the file holds. -/
structure Returns (d d' : Daemon) : Prop where
  restores : (restore.on d').1 = .ok ()
  appearance : (restore.on d').2.appearance = d.appearance
  restoresAgain : (restore.on (restore.on d').2).1 = .ok ()
  unchanged : ∃ fs j, (restore.on (restore.on d').2).2 =
    { (restore.on d').2 with files := fs, journal := j } ∧ (restore.on d').2.files.SameContents fs

/-- The parameters of a daemon that is `Ready` are read from their file by `open?` as they are. -/
theorem Ready.open? (h : d.Ready) (hfile : d.appearance.parameters.file = some path) :
    Parameters.open? d.files path = .ok d.appearance.parameters := by
  obtain ⟨-, id, hlookup⟩ := h.kept path hfile
  obtain ⟨hexists, htext⟩ := FileSystem.reads_of_lookup? hlookup
  unfold Parameters.open?
  rw [if_pos hexists, htext]
  simp only [ParameterTable.read?_write]
  rw [← hfile]
  congr 1
  calc ({ values := d.appearance.parameters.values,
          file := d.appearance.parameters.file } : Parameters)
      = ⟨d.appearance.parameters.values, d.appearance.parameters.file,
          d.appearance.parameters.failsGet, d.appearance.parameters.failsSet⟩ := by
        rw [h.flawless.read, h.flawless.keep]
    _ = d.appearance.parameters := rfl

/-- `restore` of a new appearance with the parameters of a daemon that is `Ready` succeeds, and
    brings its appearance back. -/
theorem Ready.restore (h : d.Ready) (hf : d'.appearance.Flawless) (hfiles : d'.files = d.files)
    (hp : d'.appearance.parameters = d.appearance.parameters) :
    (restore.on d').1 = .ok () ∧ (restore.on d').2.appearance = d.appearance ∧
      ∃ fs j, (restore.on d').2 = { d' with
        appearance := d.appearance, files := fs, journal := j } ∧ d'.files.SameContents fs := by
  have hkept : ∀ item, d'.appearance.kept item = d.appearance.value item := fun item =>
    (h.steady.items item).kept hp
  -- what is kept fits and can be written, so every item is restored
  have hok : (Daemon.restore.on d').1 = .ok () := by
    refine restore_ok hf (fun item => ?_) ?_
    · rw [hkept item]
      exact (h.steady.items item).takes
    · rw [hp, hfiles]
      exact h.kept
  have hr := restored_of_ok hf hok
  -- and as it is what is stored already, nothing is written that was not there
  have hsame := hr.again (fun item => by
    rw [hkept item, hp]
    exact (h.steady.items item).parameter) (by
    rw [hp, hfiles]
    exact h.kept)
  obtain ⟨fs, j, he⟩ := hr.eq
  rw [Appearance.restored_eq h.flawless hf h.steady hp] at he
  rw [he] at hsame ⊢
  exact ⟨hok, rfl, fs, j, rfl, hsame⟩

/-- A restart brings the appearance back. When calls of any kind were made after everything could be
    restored, then the file of the parameters, if there is one, can be opened; and a new service
    with the parameters that are in memory or in the file comes to the same appearance, and stays
    there. -/
theorem returns_of_run (hf : d₀.appearance.Flawless) (hok : (restore.on d₀).1 = .ok ())
    (calls : List AppearanceCall) :
    (∀ path, ((restore.on d₀).2.afterCalls calls).appearance.parameters.file = some path →
      ∃ p, Parameters.open? ((restore.on d₀).2.afterCalls calls).files path = .ok p) ∧
    ∀ d', Relaunched ((restore.on d₀).2.afterCalls calls) d' →
      Returns ((restore.on d₀).2.afterCalls calls) d' := by
  have h := (ready_of_restore hf hok).afterCalls calls
  generalize (restore.on d₀).2.afterCalls calls = d at h
  refine ⟨fun path hfile => ⟨_, h.open? hfile⟩, fun d' hd' => ?_⟩
  obtain ⟨p, happearance, hp⟩ := hd'.appearance
  -- what the file reads as are the parameters in memory
  have hsame : p = d.appearance.parameters := by
    rcases hp with hp | ⟨path, hfile, hopen⟩
    · exact hp
    · rw [h.open? hfile] at hopen
      exact (Except.ok.inj hopen).symm
  have hf' : d'.appearance.Flawless := by
    rw [happearance, hsame]
    exact ⟨rfl, rfl, rfl, h.flawless.read, h.flawless.keep⟩
  obtain ⟨hok', hback, -⟩ := h.restore hf' hd'.files (by rw [happearance, hsame])
  have h₁ := ready_of_restore hf' hok'
  obtain ⟨hokAgain, -, fs, j, he, hcontents⟩ := h₁.restore h₁.flawless rfl rfl
  exact ⟨hok', hback, hokAgain, fs, j, he, hcontents⟩

/-- A daemon whose parameters are in a file that was not written yet. -/
def unwritten : Daemon where
  clock := default
  processes := default
  appearance := { parameters := { file := some "/p.toml" } }

/-- The same daemon, restored and then made dark; a scale was refused. -/
def darkened : Daemon :=
  (restore.on unwritten).2.afterCalls [.setMode .alwaysDark, .setFontSize "", .setFontWeight "1.5"]

/-- A service that opens the file of the parameters anew comes back dark. -/
theorem returns_of_darkened : ∃ p, Parameters.open? darkened.files "/p.toml" = .ok p ∧
    (restore.on { unwritten with
      files := darkened.files, appearance := { parameters := p } }).2.appearance.mode =
        .alwaysDark := by
  have hf : unwritten.appearance.Flawless := ⟨rfl, rfl, rfl, rfl, rfl⟩
  have hok : (restore.on unwritten).1 = .ok () := rfl
  obtain ⟨hopen, hreturns⟩ := returns_of_run hf hok
    [.setMode .alwaysDark, .setFontSize "", .setFontWeight "1.5"]
  obtain ⟨p, hp⟩ := hopen "/p.toml" rfl
  have hback := (hreturns { unwritten with
    files := darkened.files, appearance := { parameters := p } }
    ⟨rfl, p, rfl, .inr ⟨"/p.toml", rfl, hp⟩⟩).appearance
  refine ⟨p, hp, ?_⟩
  rw [hback]
  rfl

end Daemon

end Twilight
