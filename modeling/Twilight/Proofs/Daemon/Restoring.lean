import Twilight.Proofs.Daemon.Appearance

namespace Twilight

/-!
# Values applied and restored

* `Item.Takes` — the values that an item can be set to.
* `Appearance.put`, `Appearance.restored` — the appearance once a value was applied, and once all
  that was kept was.
* `Parameters.Kept` — the parameters are those of their file.
* `Daemon.Taken`, `Daemon.Applies` — what applying a value comes to where nothing fails but the
  file: whatever is taken is kept, and it is taken if the file was kept before.
* `Daemon.applyMode_on`, `Daemon.applyScale_on`, `Daemon.restore_on` — so it is for the color mode,
  for the scales and for all of them together.
-/

/-- What an item can be set to. -/
def Item.Takes : Item → String → Prop
  | .colorMode, value => ∃ dark, value = statusWord dark
  | .fontSize, value | .fontWeight, value => value ≠ ""

namespace Appearance

variable {a : Appearance}

/-- The appearance with a value in effect. -/
def taking (item : Item) (value : String) (a : Appearance) : Appearance :=
  match item with
  | .colorMode => { a with mode := .fixed (value = statusWord true) }
  | .fontSize => { a with fontSize := value }
  | .fontWeight => { a with fontWeight := value }

/-- A value that is taken for an item is the one in effect there, if the item can be set to it. -/
theorem value_taking_self {item : Item} {value : String} (ht : item.Takes value) (a : Appearance) :
    (a.taking item value).value item = value := by
  cases item with
  | colorMode =>
    obtain ⟨dark, rfl⟩ := ht
    cases dark <;> rfl
  | fontSize => rfl
  | fontWeight => rfl

/-- Taking a value for one item leaves the values of the others as they are. -/
theorem value_taking_of_ne {item other : Item} (h : other ≠ item)
    (value : String) (a : Appearance) :
    (a.taking item value).value other = a.value other := by
  cases item <;> cases other <;> first | rfl | exact absurd rfl h

/-- `taking` a scale leaves the color mode as it is. -/
theorem mode_taking_of_ne {item : Item} (h : item ≠ .colorMode) (value : String) (a : Appearance) :
    (a.taking item value).mode = a.mode := by
  cases item with
  | colorMode => exact absurd rfl h
  | fontSize => rfl
  | fontWeight => rfl

/-- The appearance once a value was pushed to the configuration, taken over and kept. -/
def put (a : Appearance) (item : Item) (value : String) : Appearance :=
  { a.taking item value with
    configuration := { a.configuration with
      values := a.configuration.values.set item (some value) }
    parameters := { a.parameters with
      values := a.parameters.values.insert item.parameter value } }

/-- What counts as kept for an item. -/
def kept (a : Appearance) (item : Item) : String :=
  a.parameters.values.getD item.parameter item.fallback

/-- The appearance once everything was applied that counts as kept. -/
def restored (a : Appearance) : Appearance :=
  ((a.put .colorMode (a.kept .colorMode)).put .fontSize (a.kept .fontSize)).put .fontWeight
    (a.kept .fontWeight)

/-- The permission is granted, and neither the configuration nor the parameters fail. -/
structure Flawless (a : Appearance) : Prop where
  permitted : a.permitted = true
  update : a.configuration.failsUpdate = .const false
  report : a.configuration.failsGet = .const false
  read : a.parameters.failsGet = fun _ => false
  keep : a.parameters.failsSet = fun _ => false

/-- Putting a value in place does not make anything fail, so an appearance stays `Flawless`. -/
theorem Flawless.put (hf : a.Flawless) (item : Item) (value : String) :
    (a.put item value).Flawless := by
  cases item <;> exact ⟨hf.permitted, hf.update, hf.report, hf.read, hf.keep⟩

/-- Neither does restoring all that is kept. -/
theorem Flawless.restored (hf : a.Flawless) : a.restored.Flawless :=
  ((hf.put _ _).put _ _).put _ _

end Appearance

/-! ### Parameters and their file -/

namespace Parameters

/-- The file, if there is one, holds the parameters and can be replaced. -/
def Kept (p : Parameters) (fs : FileSystem) : Prop :=
  ∀ path, p.file = some path →
    fs.Replaceable path ∧ ∃ id, fs.lookup? path = some (.file id (.text p.values.write))

/-- A parameter is set in the file and in memory, which changes nothing if it was so; or it is
    refused, which only a file does that was not kept. -/
inductive Sets (p : Parameters) (fs : FileSystem) (key value : String) :
    Except Fault Unit × Parameters × FileSystem → Prop
  | taken {fs₁ : FileSystem}
    (kept : Kept { p with values := p.values.insert key value } fs₁)
    (again : p.values.get? key = some value → p.Kept fs → fs.SameContents fs₁) :
    Sets p fs key value (.ok (), { p with values := p.values.insert key value }, fs₁)
  | refused {f : Fault} {fs₁ : FileSystem} (unkept : ¬ p.Kept fs) :
    Sets p fs key value (.error f, p, fs₁)

/-- Where the key is not refused from the start, `set` keeps the parameter in file and memory, or in
    neither, as `Sets` says. -/
theorem sets_set {p : Parameters} {key : String} (hk : p.failsSet key = false) (fs : FileSystem)
    (value : String) : p.Sets fs key value (p.set fs key value) := by
  unfold set
  rw [hk]
  simp only [Bool.false_eq_true, if_false, setBy_eq]
  obtain ⟨values, file, failsGet, failsSet⟩ := p
  cases file with
  | none => exact .taken (fun path hpath => by cases hpath) fun _ _ => .refl fs
  | some path =>
    simp only
    generalize he : fs.replace path (ParameterTable.write (values.insert key value)) = r
    obtain ⟨result, fs₁⟩ := r
    cases result with
    | error problem =>
      refine .refused fun hkept => ?_
      obtain ⟨fs₂, he₂, -⟩ := FileSystem.replace_of_replaceable (hkept path rfl).1
        (ParameterTable.write (values.insert key value))
      rw [he] at he₂
      cases (Prod.mk.inj he₂).1
    | ok _ =>
      refine .taken (fun path' hpath' => ?_) fun hsame hkept => ?_
      · cases hpath'
        exact ⟨FileSystem.replaceable_of_replace he, FileSystem.lookup?_of_replace he⟩
      · obtain ⟨hr, id, hlookup⟩ := hkept path rfl
        -- the text that is written is the one that the file has
        have hvalues : values.insert key value = values := Table.insert_of_get?_eq_some hsame
        rw [hvalues] at he
        exact FileSystem.sameContents_of_replace hr hlookup he

end Parameters

/-! ### Applying one value -/

namespace Daemon

variable {item : Item} {value : String} {d d₁ : Daemon} {success : Prop}

/-- The value was pushed, taken over and kept, and nothing else changed. -/
structure Taken (item : Item) (value : String) (d d₁ : Daemon) : Prop where
  eq : ∃ fs j, d₁ = { d with appearance := d.appearance.put item value, files := fs, journal := j }
  kept : d₁.appearance.parameters.Kept d₁.files
  again : d.appearance.parameters.values.get? item.parameter = some value →
    d.appearance.parameters.Kept d.files → d.files.SameContents d₁.files

/-- Applying the value succeeds only if it is one that the item can be set to, and then it is taken.
    What can fail besides is the file of the parameters, if it was not kept. -/
structure Applies (item : Item) (value : String) (d : Daemon) (success : Prop) (d₁ : Daemon) :
    Prop where
  taken : success → item.Takes value ∧ Taken item value d d₁
  possible : item.Takes value → d.appearance.parameters.Kept d.files → success
  refused : ¬ item.Takes value → Logged d d₁

/-- Once a value is `Taken` the appearance is the one that `put` describes. -/
theorem Taken.appearance (ht : Taken item value d d₁) :
    d₁.appearance = d.appearance.put item value := by
  obtain ⟨fs, j, rfl⟩ := ht.eq
  rfl

/-- Taking a value keeps the appearance `Flawless`. -/
theorem Taken.flawless (ht : Taken item value d d₁) (hf : d.appearance.Flawless) :
    d₁.appearance.Flawless := by
  rw [ht.appearance]
  exact hf.put item value

/-- A value that was `Taken` for one item leaves the parameters of the others as they are. -/
theorem Taken.get?_of_ne (ht : Taken item value d d₁) {other : Item} (h : other ≠ item) :
    d₁.appearance.parameters.values.get? other.parameter =
      d.appearance.parameters.values.get? other.parameter := by
  have hne : other.parameter ≠ item.parameter := fun he => h (Item.parameter_injective he)
  rw [ht.appearance]
  exact Table.get?_insert_of_ne _ hne _

/-- Taking a value for one item leaves what counts as kept for the others. -/
theorem Taken.kept_of_ne (ht : Taken item value d d₁) {other : Item} (h : other ≠ item) :
    d₁.appearance.kept other = d.appearance.kept other := by
  unfold Appearance.kept Table.getD
  rw [ht.get?_of_ne h]

/-- Push a value, take it over and keep it. -/
def applyItem (item : Item) (value : String) : Act (Except Fault Unit) := do
  match ← updateItem item value with
  | .error f => pure (.error f)
  | .ok _ =>
    modifyAppearance (Appearance.taking item value)
    setParameter item.parameter value

/-- Where nothing of the appearance fails, `applyItem` takes the value, unless the file of the
    parameters refuses it. -/
theorem applyItem_on (hf : d.appearance.Flawless) (ht : item.Takes value) :
    Applies item value d (((applyItem item value).on d).1 = .ok ())
      ((applyItem item value).on d).2 := by
  have hu : d.appearance.configuration.failsUpdate.get item = false := by
    rw [hf.update, PerItem.get_const]
  obtain ⟨j, hj⟩ := updateItem_on value hu
  have hk : d.appearance.parameters.failsSet item.parameter = false := by
    rw [hf.keep]
  have hsets := Parameters.sets_set hk d.files value
  generalize hr : d.appearance.parameters.set d.files item.parameter value = r at hsets
  -- only the file decides, everything else is done by then
  have he : (applyItem item value).on d = (r.1, { d with
      appearance := { d.appearance.taking item value with
        configuration := { d.appearance.configuration with
          values := d.appearance.configuration.values.set item (some value) }
        parameters := r.2.1 }
      files := r.2.2
      journal := j }) := by
    rw [← hr]
    unfold applyItem
    simp only [Act.on_bind, hj, modifyAppearance, Act.on_modify, setParameter, Act.on_modifyGet]
    cases item <;> rfl
  rw [he]
  cases hsets with
  | @taken fs₁ kept again =>
    exact ⟨fun _ => ⟨ht, ⟨fs₁, j, rfl⟩, kept, again⟩, fun _ _ => rfl, fun h => absurd ht h⟩
  | refused unkept =>
    exact ⟨(fun h => by cases h), fun _ h => absurd h unkept, fun h => absurd ht h⟩

/-- Applying a fixed mode is applying the word of its status to the color mode. -/
theorem applyMode_fixed (dark : Bool) :
    applyMode (.fixed dark) = applyItem .colorMode (statusWord dark) := by
  unfold applyMode
  rw [if_pos (Mode.isFixed_fixed dark), Mode.fixed_eq_alwaysDark]
  have htaking : (fun a : Appearance => { a with mode := Mode.fixed dark }) =
      Appearance.taking .colorMode (statusWord dark) := by
    cases dark <;> rfl
  rw [htaking]
  rfl

/-- `applyMode` refuses a mode that is not fixed, and only logs. -/
theorem applyMode_refused {mode : Mode} (hm : ¬ mode.isFixed = true) :
    Logged d ((applyMode mode).on d).2 ∧ ((applyMode mode).on d).1 ≠ .ok () := by
  unfold applyMode
  rw [if_neg hm]
  refine ⟨((Act.logs_fail _).bind fun _ => Act.logs_pure _) d, ?_⟩
  intro h
  cases h

/-- So where nothing of the appearance fails, `applyMode` takes the word of the status. -/
theorem applyMode_applies (hf : d.appearance.Flawless) (dark : Bool) :
    Applies .colorMode (statusWord dark) d (((applyMode (.fixed dark)).on d).1 = .ok ())
      ((applyMode (.fixed dark)).on d).2 := by
  rw [applyMode_fixed]
  exact applyItem_on hf ⟨dark, rfl⟩

/-- `applyScale` applies a scale that is not empty as `applyItem` does every item. -/
theorem applyScale_eq (hi : item ≠ .colorMode) (hv : ¬ value.isEmpty = true) :
    applyScale item value = applyItem item value := by
  have htaking : withScale item value = Appearance.taking item value := by
    cases item
    · exact absurd rfl hi
    · rfl
    · rfl
  unfold applyScale
  rw [if_neg hv, htaking]
  rfl

/-- Where nothing of the appearance fails, `applyScale` takes every value that is not empty. -/
theorem applyScale_applies (hf : d.appearance.Flawless) (hi : item ≠ .colorMode) (value : String) :
    Applies item value d (((applyScale item value).on d).1 = .ok ())
      ((applyScale item value).on d).2 := by
  have htakes : item.Takes value ↔ value ≠ "" := by
    cases item
    · exact absurd rfl hi
    · rfl
    · rfl
  by_cases hempty : value.isEmpty = true
  · have hnot : ¬ item.Takes value := fun h => htakes.1 h (String.isEmpty_iff.1 hempty)
    unfold applyScale
    rw [if_pos hempty]
    refine ⟨(fun h => by cases h), fun h => absurd h hnot, fun _ => ?_⟩
    exact ((Act.logs_fail _).bind fun _ => Act.logs_pure _) d
  · rw [applyScale_eq hi hempty]
    exact applyItem_on hf (htakes.2 fun h => hempty (String.isEmpty_iff.2 h))

/-! ### Restoring -/

/-- A restored item that `Applies` a value still does so with the report of it, which is quiet
    exactly if the value was applied. -/
theorem Applies.reported {x : Act (Except Fault Unit)}
    (ha : Applies item value d ((x.on d).1 = .ok ()) (x.on d).2) :
    Applies item value d (((x >>= reportRestored item).on d).1 = none)
      ((x >>= reportRestored item).on d).2 := by
  rw [Act.on_bind]
  generalize x.on d = r at ha
  obtain ⟨result, d₁⟩ := r
  cases result with
  | ok _ => exact ⟨fun _ => ha.taken rfl, fun _ _ => rfl, ha.refused⟩
  | error f =>
    refine ⟨fun h => ?_, fun ht hk => ?_, fun hn => (ha.refused hn).trans ?_⟩
    · cases h
    · cases ha.possible ht hk
    · exact ((Act.logs_fail _).bind fun _ => Act.logs_pure _) d₁

/-- Where parameters can be read, reading that of an item gets what counts as kept. -/
theorem get_of_flawless (hf : d.appearance.Flawless) (item : Item) :
    d.appearance.parameters.get item.parameter item.fallback = .ok (d.appearance.kept item) := by
  unfold Parameters.get
  rw [hf.read]
  rfl

/-- On a `Flawless` appearance `restoreScale` applies what is `kept` of the scale: what was stored,
    if that fits, and the fallback otherwise. -/
theorem restoreScale_on (hf : d.appearance.Flawless) (item : Item) (hi : item ≠ .colorMode) :
    Applies item (d.appearance.kept item) d (((restoreScale item).on d).1 = none)
      ((restoreScale item).on d).2 := by
  unfold restoreScale
  rw [Act.on_get_bind, get_of_flawless hf]
  exact (applyScale_applies hf hi _).reported

/-- The word of a status is read back as its fixed mode. -/
theorem colorModeOf_statusWord (dark : Bool) :
    colorModeOf (statusWord dark) = .ok (.fixed dark) := by
  cases dark <;> rfl

/-- A text that is no word of a status is no color mode. -/
theorem colorModeOf_eq_error (hn : ¬ Item.colorMode.Takes value) :
    colorModeOf value = .error (.unknownColorMode value) := by
  unfold colorModeOf
  rw [if_neg (fun h => hn ⟨false, h⟩), if_neg (fun h => hn ⟨true, h⟩)]

/-- Where nothing of the appearance fails, restoring the color mode applies what counts as kept for
    it. -/
theorem restoreMode_on (hf : d.appearance.Flawless) :
    Applies .colorMode (d.appearance.kept .colorMode) d ((restoreMode.on d).1 = none)
      (restoreMode.on d).2 := by
  unfold restoreMode
  rw [Act.on_get_bind]
  simp only [get_of_flawless hf, Except.bind]
  by_cases ht : Item.colorMode.Takes (d.appearance.kept .colorMode)
  · obtain ⟨dark, hdark⟩ := ht
    rw [hdark, colorModeOf_statusWord]
    exact (applyMode_applies hf dark).reported
  · rw [colorModeOf_eq_error ht]
    refine ⟨(fun h => by cases h), fun h => absurd h ht, fun _ => ?_⟩
    exact ((Act.logs_fail _).bind fun _ => Act.logs_pure _) d

/-- Restoring is three stages. A stage that follows stages that succeeded applies what was kept at
    the beginning, and all of them succeed if restoring does. -/
theorem restore_stages (hf : d.appearance.Flawless) : ∃ d₁ d₂ onMode onSize onWeight,
    Applies .colorMode (d.appearance.kept .colorMode) d onMode d₁ ∧
    (onMode → Applies .fontSize (d.appearance.kept .fontSize) d₁ onSize d₂) ∧
    (onMode → onSize →
      Applies .fontWeight (d.appearance.kept .fontWeight) d₂ onWeight (restore.on d).2) ∧
    ((restore.on d).1 = .ok () ↔ onMode ∧ onSize ∧ onWeight) := by
  have hmode := restoreMode_on hf
  generalize hd₁ : (restoreMode.on d).2 = d₁ at hmode
  generalize hd₂ : ((restoreScale .fontSize).on d₁).2 = d₂
  have hend : (restore.on d).2 = ((restoreScale .fontWeight).on d₂).2 := by
    rw [← hd₂, ← hd₁]
    rfl
  refine ⟨d₁, d₂, (restoreMode.on d).1 = none, ((restoreScale .fontSize).on d₁).1 = none,
    ((restoreScale .fontWeight).on d₂).1 = none, hmode, ?_, ?_, ?_⟩
  · intro honMode
    -- the mode left the parameter of the size alone
    have ht₁ := (hmode.taken honMode).2
    have hsize := restoreScale_on (ht₁.flawless hf) .fontSize (by decide)
    rw [hd₂, ht₁.kept_of_ne (by decide)] at hsize
    exact hsize
  · intro honMode honSize
    have ht₁ := (hmode.taken honMode).2
    -- so did both of them with that of the weight
    have hf₁ := ht₁.flawless hf
    have ht₂ := ((restoreScale_on hf₁ .fontSize (by decide)).taken honSize).2
    rw [hd₂] at ht₂
    have hweight := restoreScale_on (ht₂.flawless hf₁) .fontWeight (by decide)
    rw [← hend, ht₂.kept_of_ne (by decide), ht₁.kept_of_ne (by decide)] at hweight
    exact hweight
  · rw [← hd₂, ← hd₁]
    unfold restore
    simp only [Act.on_bind, Act.on_pure]
    generalize (restoreMode.on d).1 = onMode
    generalize ((restoreScale .fontSize).on _).1 = onSize
    generalize ((restoreScale .fontWeight).on _).1 = onWeight
    cases onMode with
    | some f => simp
    | none =>
      cases onSize with
      | some f => simp
      | none => cases onWeight <;> simp

/-- Everything that counts as kept was applied, and nothing else changed. -/
structure Restored (d d₁ : Daemon) : Prop where
  takes : ∀ item : Item, item.Takes (d.appearance.kept item)
  eq : ∃ fs j, d₁ = { d with appearance := d.appearance.restored, files := fs, journal := j }
  kept : d₁.appearance.parameters.Kept d₁.files
  again : (∀ item : Item, d.appearance.parameters.values.get? item.parameter =
    some (d.appearance.kept item)) → d.appearance.parameters.Kept d.files →
    d.files.SameContents d₁.files

/-- Restoring succeeds only if everything that counts as kept can be applied, and then it is. -/
theorem restored_of_ok (hf : d.appearance.Flawless) (hok : (restore.on d).1 = .ok ()) :
    Restored d (restore.on d).2 := by
  obtain ⟨d₁, d₂, onMode, onSize, onWeight, hmode, hsize, hweight, hiff⟩ := restore_stages hf
  obtain ⟨honMode, honSize, honWeight⟩ := hiff.1 hok
  obtain ⟨htakes₁, ht₁⟩ := hmode.taken honMode
  obtain ⟨htakes₂, ht₂⟩ := (hsize honMode).taken honSize
  obtain ⟨htakes₃, ht₃⟩ := (hweight honMode honSize).taken honWeight
  refine ⟨fun item => ?_, ?_, ht₃.kept, fun hall hkept => ?_⟩
  · cases item with
    | colorMode => exact htakes₁
    | fontSize => exact htakes₂
    | fontWeight => exact htakes₃
  · obtain ⟨_, _, rfl⟩ := ht₁.eq
    obtain ⟨_, _, rfl⟩ := ht₂.eq
    obtain ⟨fs, j, he⟩ := ht₃.eq
    exact ⟨fs, j, he⟩
  · -- every value was written over itself
    have hgetSize := (ht₁.get?_of_ne (by decide)).trans (hall .fontSize)
    have hgetWeight := (ht₂.get?_of_ne (by decide)).trans
      ((ht₁.get?_of_ne (by decide)).trans (hall .fontWeight))
    exact ((ht₁.again (hall .colorMode) hkept).trans (ht₂.again hgetSize ht₁.kept)).trans
      (ht₃.again hgetWeight ht₂.kept)

/-- What was kept in a file that can be written can be restored. -/
theorem restore_ok (hf : d.appearance.Flawless)
    (ht : ∀ item : Item, item.Takes (d.appearance.kept item))
    (hk : d.appearance.parameters.Kept d.files) : (restore.on d).1 = .ok () := by
  obtain ⟨d₁, d₂, onMode, onSize, onWeight, hmode, hsize, hweight, hiff⟩ := restore_stages hf
  have honMode := hmode.possible (ht .colorMode) hk
  have hk₁ := (hmode.taken honMode).2.kept
  have honSize := (hsize honMode).possible (ht .fontSize) hk₁
  have hk₂ := ((hsize honMode).taken honSize).2.kept
  exact hiff.2 ⟨honMode, honSize, (hweight honMode honSize).possible (ht .fontWeight) hk₂⟩

end Daemon

end Twilight
