import Twilight.Proofs.Daemon.Changes
import Twilight.Proofs.Files.Obstacles

namespace Twilight

/-!
# One item at a time, whatever fails

* `Parameters.refusal?` — why a parameter is not taken. That depends neither on its value nor on
  what was set before.
* `Parameters.Filed` — the file of the parameters, if there is one, holds them.
* `Appearance.SameItem` — two appearances have the same for an item.
* `Appearance.sought`, `Appearance.unrestored?` — what restoring an item applies, and why it does
  not.
* `Daemon.Comes`, `Daemon.restoreItem_comes` — all that restoring an item comes to.
* `Daemon.adopted` — a daemon that adopted a value, which changes nothing about other items.
-/

/-- All items, in the order in which they are restored. -/
def Item.all : List Item := [.colorMode, .fontSize, .fontWeight]

/-- The list `all` of the items is complete. -/
theorem Item.mem_all (item : Item) : item ∈ Item.all := by
  cases item <;> decide

/-! ### Parameters that are taken or refused -/

namespace Parameters

variable {p : Parameters} {fs : FileSystem} {key value : String}

/-- Why no value is taken for a key. -/
def refusal? (p : Parameters) (fs : FileSystem) (key : String) : Option Fault :=
  if p.failsSet key then some .parametersReadOnly
  else p.file.bind fun path => (fs.obstacle? path).map (.unwritable path)

/-- The file, if there is one, holds the parameters. -/
def Filed (p : Parameters) (fs : FileSystem) : Prop :=
  ∀ path, p.file = some path → ∃ id, fs.lookup? path = some (.file id (.text p.values.write))

/-- A value that is refused leaves the parameters and all files as they were. -/
theorem set_of_refused {f : Fault} (hf : p.refusal? fs key = some f) (value : String) :
    ∃ fs₁, p.set fs key value = (.error f, p, fs₁) ∧ fs.SameFiles fs₁ ∧ (p.Filed fs → p.Filed fs₁) ∧
      ∀ path, p.file = some path → fs₁.obstacle? path = fs.obstacle? path := by
  unfold refusal? at hf
  unfold set
  by_cases hk : p.failsSet key = true
  · simp only [hk, if_true] at hf ⊢
    obtain rfl := Option.some.inj hf
    exact ⟨fs, rfl, .refl fs, id, fun _ _ => rfl⟩
  · simp only [if_neg hk, setBy_eq] at hf ⊢
    cases hp : p.file with
    | none => simp [hp] at hf
    | some path =>
      simp only [hp, Option.bind_some, Option.map_eq_some_iff] at hf
      -- the table in memory is the old one again, as the file could not be replaced
      obtain ⟨problem, hproblem, rfl⟩ := hf
      have hfst := fs.replace_fst path (ParameterTable.write (p.values.insert key value))
      have hagain := fs.obstacle?_replace path (ParameterTable.write (p.values.insert key value))
      simp only
      cases hr : fs.replace path (ParameterTable.write (p.values.insert key value)) with
      | mk result fs₁ =>
        rw [hr, hproblem] at hfst
        rw [hr] at hagain
        obtain rfl : result = .error problem := hfst
        refine ⟨fs₁, rfl, FileSystem.sameFiles_of_not_replaced hr, fun hfiled path' hpath' => ?_,
          fun path' hpath' => ?_⟩
        · obtain ⟨id, hlookup⟩ := hfiled path' hpath'
          exact ⟨id, FileSystem.lookup?_of_not_replaced hr hlookup⟩
        · obtain rfl := Option.some.inj hpath'
          exact hagain

/-- A value that is not refused is in memory and in the file. -/
theorem set_of_taken (hn : p.refusal? fs key = none) (value : String) :
    ∃ fs₁, p.set fs key value = (.ok (), { p with values := p.values.insert key value }, fs₁) ∧
      Filed { p with values := p.values.insert key value } fs₁ ∧
      ∀ path, p.file = some path → fs₁.obstacle? path = fs.obstacle? path := by
  unfold refusal? at hn
  by_cases hk : p.failsSet key = true
  · rw [if_pos hk] at hn
    cases hn
  · unfold set
    simp only [if_neg hk, setBy_eq] at hn ⊢
    cases hp : p.file with
    | none => exact ⟨fs, rfl, fun path hpath => (by cases hpath), fun path hpath => rfl⟩
    | some path =>
      -- nothing is in the way of the file, so it is replaced by the new table
      have hno : fs.obstacle? path = none := by simpa [hp] using hn
      have hfst := fs.replace_fst path (ParameterTable.write (p.values.insert key value))
      have hagain := fs.obstacle?_replace path (ParameterTable.write (p.values.insert key value))
      simp only
      cases hr : fs.replace path (ParameterTable.write (p.values.insert key value)) with
      | mk result fs₁ =>
        rw [hr, hno] at hfst
        rw [hr] at hagain
        obtain rfl : result = .ok () := hfst
        refine ⟨fs₁, rfl, fun path' hpath' => ?_, fun path' hpath' => ?_⟩
        · obtain rfl := Option.some.inj hpath'
          exact FileSystem.lookup?_of_replace hr
        · obtain rfl := Option.some.inj hpath'
          exact hagain

/-- What `set` answers is the `refusal?` of the key, whatever the value is. -/
theorem set_fst (p : Parameters) (fs : FileSystem) (key value : String) :
    (p.set fs key value).1 = settle (p.refusal? fs key) := by
  cases hr : p.refusal? fs key with
  | none =>
    obtain ⟨fs₁, he, -⟩ := set_of_taken hr value
    rw [he]
    rfl
  | some f =>
    obtain ⟨fs₁, he, -⟩ := set_of_refused hr value
    rw [he]
    rfl

/-- Setting one parameter does not change the `refusal?` of any key, so that the order of items does
    not matter. -/
theorem refusal?_set (p : Parameters) (fs : FileSystem) (key value other : String) :
    (p.set fs key value).2.1.refusal? (p.set fs key value).2.2 other = p.refusal? fs other := by
  -- `refusal?` reads nothing but the fault pattern, the file and what is in its way
  have hsame : ∀ (q : Parameters) (fs₁ : FileSystem), q.failsSet = p.failsSet → q.file = p.file →
      (∀ path, p.file = some path → fs₁.obstacle? path = fs.obstacle? path) →
      q.refusal? fs₁ other = p.refusal? fs other := by
    intro q fs₁ hfails hfile hobstacle
    unfold refusal?
    rw [hfails, hfile]
    cases hp : p.file with
    | none => rfl
    | some path => simp only [Option.bind_some, hobstacle path hp]
  cases hr : p.refusal? fs key with
  | none =>
    obtain ⟨fs₁, he, -, hobstacle⟩ := set_of_taken hr value
    rw [he]
    exact hsame _ fs₁ rfl rfl hobstacle
  | some f =>
    obtain ⟨fs₁, he, -, -, hobstacle⟩ := set_of_refused hr value
    rw [he]
    exact hsame p fs₁ rfl rfl hobstacle

/-- Setting a parameter by `set` does not change which parameters can be read. -/
theorem failsGet_set (p : Parameters) (fs : FileSystem) (key value : String) :
    (p.set fs key value).2.1.failsGet = p.failsGet := by
  cases hr : p.refusal? fs key with
  | none =>
    obtain ⟨fs₁, he, -⟩ := set_of_taken hr value
    rw [he]
  | some f =>
    obtain ⟨fs₁, he, -⟩ := set_of_refused hr value
    rw [he]

/-- `set` leaves the parameters under other keys as they are, whether the value is taken or not. -/
theorem get?_set_of_ne {other : String} (hne : other ≠ key) (fs : FileSystem) (value : String) :
    (p.set fs key value).2.1.values.get? other = p.values.get? other := by
  cases hr : p.refusal? fs key with
  | none =>
    obtain ⟨fs₁, he, -⟩ := set_of_taken hr value
    rw [he]
    exact Table.get?_insert_of_ne _ hne _
  | some f =>
    obtain ⟨fs₁, he, -⟩ := set_of_refused hr value
    rw [he]

/-- Parameters that are `Filed` still are after `set`: the file gets all of them, or stays as it was
    together with memory. -/
theorem Filed.set (hf : p.Filed fs) : (p.set fs key value).2.1.Filed (p.set fs key value).2.2 := by
  cases hr : p.refusal? fs key with
  | none =>
    obtain ⟨fs₁, he, hfiled, -⟩ := set_of_taken hr value
    rw [he]
    exact hfiled
  | some f =>
    obtain ⟨fs₁, he, -, hfiled, -⟩ := set_of_refused hr value
    rw [he]
    exact hfiled hf

end Parameters

/-! ### What an appearance has for an item -/

namespace Appearance

variable {a b c : Appearance} {item other : Item} {value : String}

/-- Two appearances have the same for an item: in effect, in the configuration, and as a parameter.
    -/
structure SameItem (item : Item) (a b : Appearance) : Prop where
  mode : item = .colorMode → b.mode = a.mode
  value : b.value item = a.value item
  configured : b.configuration.values.get item = a.configuration.values.get item
  stored : b.parameters.values.get? item.parameter = a.parameters.values.get? item.parameter

theorem SameItem.refl (item : Item) (a : Appearance) : SameItem item a a :=
  ⟨fun _ => rfl, rfl, rfl, rfl⟩

theorem SameItem.trans (h : SameItem item a b) (h' : SameItem item b c) : SameItem item a c :=
  ⟨fun hi => (h'.mode hi).trans (h.mode hi), h'.value.trans h.value,
    h'.configured.trans h.configured, h'.stored.trans h.stored⟩

/-- The value that restoring an item applies: what is stored, or the fallback. A scale that cannot
    be read counts as not stored, and a color mode does not. -/
def sought (a : Appearance) (item : Item) : Except Fault String :=
  match a.parameters.get item.parameter item.fallback with
  | .ok value => .ok value
  | .error f => if item = .colorMode then .error f else .ok item.fallback

/-- Why an item that is restored is left as it is. -/
def unrestored? (a : Appearance) (item : Item) : Option Fault :=
  match a.sought item with
  | .error f => some f
  | .ok value => (item.misfit? value).or (a.unconfirmed? item value)

/-- Where nothing keeps an item from being restored, the value that is `sought` is one that the item
    `Takes`, and it counts once it was pushed. -/
theorem fits_of_restored (hs : a.sought item = .ok value) (hn : a.unrestored? item = none) :
    item.Takes value ∧ a.unconfirmed? item value = none := by
  unfold unrestored? at hn
  rw [hs] at hn
  obtain ⟨hfits, hcounts⟩ := Option.or_eq_none_iff.1 hn
  exact ⟨Item.takes_of_fits hfits, hcounts⟩

end Appearance

namespace Daemon

open Log

variable {item other : Item} {value : String} {d d₁ : Daemon}

/-! ### Restoring one item -/

/-- The daemon once a value was adopted, and kept unless its parameter is refused. -/
def adopted (d : Daemon) (item : Item) (value : String) (j : Journal) : Daemon :=
  let kept := d.appearance.parameters.set d.files item.parameter value
  { d with
    appearance := { d.appearance.adopting item value with parameters := kept.2.1 }
    files := kept.2.2
    journal := j }

/-- Restore one item; the fault, if there is one. -/
def restoreItem : Item → Act (Option Fault)
  | .colorMode => restoreMode
  | .fontSize => restoreScale .fontSize
  | .fontWeight => restoreScale .fontWeight

/-- All that restoring an item comes to. Either it is left as it is, or what is sought is adopted,
    and only its parameter may be refused. -/
inductive Comes (item : Item) (d : Daemon) : Option Fault × Daemon → Prop
  | left {f : Fault} (j : Journal) (refused : d.appearance.unrestored? item = some f) :
    Comes item d (some f, { d with journal := j })
  | adopted {value : String} (j : Journal) (sought : d.appearance.sought item = .ok value)
    (fits : d.appearance.unrestored? item = none) :
    Comes item d (d.appearance.parameters.refusal? d.files item.parameter, d.adopted item value j)

/-- `reportRestored` passes the fault of an item on, and adds lines at most. -/
theorem reportRestored_on (item : Item) (result : Except Fault Unit) (d : Daemon) :
    ∃ j, (reportRestored item result).on d = (faultOf? result, { d with journal := j }) := by
  cases result with
  | ok _ => exact ⟨d.journal, rfl⟩
  | error f => exact ⟨_, rfl⟩

/-- A value that does not count is reported, and one that counts is adopted. -/
theorem applyItem_reported (item : Item) (value : String) (d : Daemon) :
    ∃ j, (applyItem item value >>= reportRestored item).on d =
      match d.appearance.unconfirmed? item value with
      | some f => (some f, { d with journal := j })
      | none =>
        (d.appearance.parameters.refusal? d.files item.parameter, d.adopted item value j) := by
  rw [Act.on_bind]
  cases hu : d.appearance.unconfirmed? item value with
  | some f =>
    obtain ⟨j, he⟩ := applyItem_of_unconfirmed hu
    rw [he]
    exact reportRestored_on item (.error f) { d with journal := j }
  | none =>
    obtain ⟨j, he⟩ := applyItem_of_confirmed hu
    obtain ⟨j₁, hreport⟩ := reportRestored_on item
      (settle (d.appearance.parameters.refusal? d.files item.parameter)) (d.adopted item value j)
    rw [he]
    simp only [Parameters.set_fst]
    refine ⟨j₁, hreport.trans ?_⟩
    cases d.appearance.parameters.refusal? d.files item.parameter <;> rfl

/-- An item is restored by applying what is sought, if that can be had and fits. -/
theorem Comes.of_applied {r : Option Fault × Daemon} (j : Journal)
    (hs : d.appearance.sought item = .ok value)
    (hr : r = match item.misfit? value with
      | some f => (some f, { d with journal := j })
      -- a value that fits is adopted unless its update or its report is refused
      | none => (applyItem item value >>= reportRestored item).on { d with journal := j }) :
    Comes item d r := by
  have hunrestored : d.appearance.unrestored? item =
      (item.misfit? value).or (d.appearance.unconfirmed? item value) := by
    unfold Appearance.unrestored?
    rw [hs]
  cases hm : item.misfit? value with
  | some f =>
    simp only [hm] at hr hunrestored
    rw [hr]
    exact .left j hunrestored
  | none =>
    obtain ⟨j₁, he⟩ := applyItem_reported item value { d with journal := j }
    simp only [hm, he, Option.none_or] at hr hunrestored
    rw [hr]
    cases hu : d.appearance.unconfirmed? item value with
    | some f => exact .left j₁ (hunrestored.trans hu)
    | none => exact .adopted j₁ hs (hunrestored.trans hu)

/-- Applying a scale and reporting what came of it: a value that does not fit or is not confirmed is
    left, and any other one is adopted. -/
theorem applyScale_reported (hi : item ≠ .colorMode) (value : String) (d : Daemon) :
    ∃ j, (applyScale item value >>= reportRestored item).on d =
      match item.misfit? value with
      | some f => (some f, { d with journal := j })
      | none => (applyItem item value >>= reportRestored item).on { d with journal := j } := by
  have hmisfit : item.misfit? value = if value.isEmpty then some (.emptyScale item) else none := by
    cases item with
    | colorMode => exact absurd rfl hi
    | fontSize => rfl
    | fontWeight => rfl
  rw [hmisfit]
  by_cases hv : value.isEmpty = true
  · unfold applyScale
    simp only [if_pos hv]
    exact ⟨_, rfl⟩
  · rw [applyScale_eq hi hv]
    simp only [if_neg hv]
    exact ⟨d.journal, rfl⟩

/-- Restoring a scale comes to one of the two ends of `Comes`, also where its parameter cannot be
    read and the fallback is taken. -/
theorem restoreScale_comes (hi : item ≠ .colorMode) (d : Daemon) :
    Comes item d ((restoreScale item).on d) := by
  unfold restoreScale
  cases hg : d.appearance.parameters.get item.parameter item.fallback with
  | ok value =>
    have hs : d.appearance.sought item = .ok value := by
      unfold Appearance.sought
      rw [hg]
    obtain ⟨j, hj⟩ := applyScale_reported hi value d
    apply Comes.of_applied j hs
    rw [Act.on_get_bind]
    simp only [hg]
    exact hj
  | error f =>
    -- an unreadable scale is reported and the fallback applied
    have hs : d.appearance.sought item = .ok item.fallback := by
      unfold Appearance.sought
      rw [hg]
      exact if_neg hi
    obtain ⟨j₀, hj₀⟩ := Act.logs_fail s!"Failed to read persisted {item.name}: {f.message}" d
    obtain ⟨j, hj⟩ := applyScale_reported hi item.fallback { d with journal := j₀ }
    apply Comes.of_applied j hs
    rw [Act.on_get_bind]
    simp only [hg]
    rw [Act.on_bind, hj₀]
    exact hj

/-- Restoring the color mode comes to one of the two ends of `Comes`; if its parameter cannot be
    read the mode is left as it is. -/
theorem restoreMode_comes (d : Daemon) : Comes .colorMode d (restoreMode.on d) := by
  unfold restoreMode
  cases hg : d.appearance.parameters.get Item.colorMode.parameter Item.colorMode.fallback with
  | error f =>
    -- the mode cannot be read
    have hs : d.appearance.unrestored? .colorMode = some f := by
      unfold Appearance.unrestored? Appearance.sought
      simp only [hg, if_true]
    obtain ⟨j, hj⟩ := reportRestored_on .colorMode (.error f) d
    rw [Act.on_get_bind]
    simp only [hg, Except.bind, hj]
    exact .left j hs
  | ok value =>
    have hs : d.appearance.sought .colorMode = .ok value := by
      unfold Appearance.sought
      rw [hg]
    by_cases ht : Item.colorMode.Takes value
    · -- the value is the word of a status
      obtain ⟨dark, rfl⟩ := ht
      have hfits : Item.colorMode.misfit? (statusWord dark) = none := by
        unfold Item.misfit?
        simp only [colorModeOf_statusWord]
        rfl
      apply Comes.of_applied d.journal hs
      rw [Act.on_get_bind]
      simp only [hfits, hg, Except.bind, colorModeOf_statusWord, applyMode_fixed]
    · -- any other value is refused before it is pushed
      have hfits : Item.colorMode.misfit? value = some (.unknownColorMode value) := by
        unfold Item.misfit?
        simp only [colorModeOf_eq_error ht]
        rfl
      obtain ⟨j, hj⟩ := reportRestored_on .colorMode (.error (.unknownColorMode value)) d
      apply Comes.of_applied j hs
      rw [Act.on_get_bind]
      simp only [hfits, hg, Except.bind, colorModeOf_eq_error ht]
      exact hj

/-- Whatever fails, restoring an item `Comes` to one of two ends: it is left alone with a fault, or
    its value is adopted. -/
theorem restoreItem_comes (item : Item) (d : Daemon) : Comes item d ((restoreItem item).on d) := by
  cases item with
  | colorMode => exact restoreMode_comes d
  | fontSize => exact restoreScale_comes (by decide) d
  | fontWeight => exact restoreScale_comes (by decide) d

/-! ### What adopting a value changes -/

/-- A value that was adopted is the one in effect for its item. -/
theorem value_adopted_self (ht : item.Takes value) (d : Daemon) (j : Journal) :
    (d.adopted item value j).appearance.value item = value :=
  Appearance.value_taking_self ht (d.appearance.pushed item value)

/-- A value that was adopted and confirmed is the one that the configuration has for its item. -/
theorem configured_adopted_self (hn : d.appearance.unconfirmed? item value = none) (j : Journal) :
    (d.adopted item value j).appearance.configuration.values.get item = some value := by
  show (d.appearance.adopting item value).configuration.values.get item = some value
  rw [Appearance.configuration_adopting, Appearance.configuration_pushed hn]

/-- In the daemon with a value `adopted`, the item's parameter has the value unless the parameters
    refused it. -/
theorem stored_adopted_self (d : Daemon) (item : Item) (value : String) (j : Journal) :
    (d.adopted item value j).appearance.parameters.values.get? item.parameter =
      match d.appearance.parameters.refusal? d.files item.parameter with
      | none => some value
      | some _ => d.appearance.parameters.values.get? item.parameter := by
  show (d.appearance.parameters.set d.files item.parameter value).2.1.values.get? item.parameter = _
  cases hr : d.appearance.parameters.refusal? d.files item.parameter with
  | none =>
    obtain ⟨fs₁, he, -⟩ := Parameters.set_of_taken hr value
    rw [he]
    exact Table.get?_insert_self _ _ _
  | some f =>
    obtain ⟨fs₁, he, -⟩ := Parameters.set_of_refused hr value
    rw [he]

/-- In the daemon with a value `adopted` for one item, every other one is the `SameItem`. -/
theorem sameItem_adopted (h : other ≠ item) (d : Daemon) (value : String) (j : Journal) :
    d.appearance.SameItem other (d.adopted item value j).appearance where
  mode ho := by
    subst ho
    exact Appearance.mode_taking_of_ne (Ne.symm h) value (d.appearance.pushed item value)
  value := Appearance.value_taking_of_ne h value (d.appearance.pushed item value)
  configured := by
    show (d.appearance.adopting item value).configuration.values.get other = _
    rw [Appearance.configuration_adopting]
    unfold Appearance.pushed Configuration.update
    split
    · rfl
    · exact PerItem.get_set_of_ne _ h _
  stored :=
    Parameters.get?_set_of_ne (fun hp => h (Item.parameter_injective hp)) d.files value

end Daemon

end Twilight
