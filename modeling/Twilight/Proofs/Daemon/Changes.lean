import Twilight.Proofs.Daemon.Restoring

namespace Twilight

/-!
# Changes of the appearance, whatever fails

A value is pushed to the configuration, taken over by the service, and kept as a parameter, in this
order. What comes of that depends on the appearance and the files only.

* `Item.misfit?` — why an item cannot be set to a value.
* `Appearance.unconfirmed?` — why a value that was pushed does not count.
* `Appearance.pushed`, `Appearance.adopting` — the appearance once a value was pushed, and once it
  was taken over as well.
* `Change`, `Change.refusal?` — the calls that set an item, and why one is refused before the
  parameter is written.
* `Change.make_of_refused`, `Change.make_of_accepted` — all that such a call does.
-/

/-! ### Values that fit -/

/-- Why an item cannot be set to a value. -/
def Item.misfit? (item : Item) (value : String) : Option Fault :=
  match item with
  | .colorMode => faultOf? (colorModeOf value)
  | .fontSize | .fontWeight => if value.isEmpty then some (.emptyScale item) else none

/-- A value that is no `misfit?` of an item is one that the item can be set to. -/
theorem Item.takes_of_fits {item : Item} {value : String} (hn : item.misfit? value = none) :
    item.Takes value := by
  have hscale : ∀ scale : Item,
      (if value.isEmpty then some (Fault.emptyScale scale) else none) = none →
      value ≠ "" := by
    intro scale hs hempty
    rw [hempty] at hs
    cases hs
  cases item with
  | fontSize => exact hscale _ hn
  | fontWeight => exact hscale _ hn
  | colorMode =>
    by_contra hno
    unfold misfit? at hn
    simp only [Daemon.colorModeOf_eq_error hno] at hn
    cases hn

/-- The fallback of every item fits it, so that a missing parameter can always be restored. -/
theorem Item.misfit?_fallback (item : Item) : item.misfit? item.fallback = none := by
  cases item <;> decide

/-! ### Values that are pushed -/

namespace Appearance

variable {a : Appearance} {item : Item} {value : String}

/-- Why a value that was pushed does not count. It does if the update succeeds, and also if the
    configuration reports the value nevertheless. -/
def unconfirmed? (a : Appearance) (item : Item) (value : String) : Option Fault :=
  match (a.configuration.update item value).1 with
  | .ok _ => none
  | .error refusal =>
    match a.configuration.get item with
    | .error _ => some (.updateUnconfirmed item refusal)
    | .ok reported => if reported = value then none else some refusal

/-- The appearance once a value was pushed, accepted or not. -/
def pushed (a : Appearance) (item : Item) (value : String) : Appearance :=
  { a with configuration := (a.configuration.update item value).2 }

/-- The appearance once a value was pushed and taken over. -/
def adopting (a : Appearance) (item : Item) (value : String) : Appearance :=
  (a.pushed item value).taking item value

theorem parameters_adopting (a : Appearance) (item : Item) (value : String) :
    (a.adopting item value).parameters = a.parameters := by
  cases item <;> rfl

theorem configuration_adopting (a : Appearance) (item : Item) (value : String) :
    (a.adopting item value).configuration = (a.pushed item value).configuration := by
  cases item <;> rfl

/-- Where the configuration refuses the update, `pushed` is the appearance from before. -/
theorem pushed_of_fails (hu : a.configuration.failsUpdate.get item = true) (value : String) :
    a.pushed item value = a := by
  unfold pushed Configuration.update
  rw [if_pos hu]

/-- If updates of the item succeed then every value that is pushed counts, without asking for it. -/
theorem unconfirmed?_of_updates (hu : a.configuration.failsUpdate.get item = false)
    (value : String) :
    a.unconfirmed? item value = none := by
  simp [unconfirmed?, Configuration.update, hu]

/-- Where a value does not count, because the configuration refused it, `pushed` is the appearance
    from before. -/
theorem pushed_of_unconfirmed {f : Fault} (hf : a.unconfirmed? item value = some f) :
    a.pushed item value = a := by
  cases hu : a.configuration.failsUpdate.get item with
  | true => exact pushed_of_fails hu value
  | false =>
    rw [unconfirmed?_of_updates hu] at hf
    cases hf

/-- What counts is what the configuration has, whether or not it was accepted. -/
theorem configuration_pushed (hn : a.unconfirmed? item value = none) :
    (a.pushed item value).configuration.values.get item = some value := by
  cases hu : a.configuration.failsUpdate.get item with
  | false => simp [pushed, Configuration.update, hu]
  | true =>
    -- the update was refused, so the value counts only if the configuration reports it already
    rw [pushed_of_fails hu]
    unfold unconfirmed? Configuration.update at hn
    rw [if_pos hu] at hn
    simp only [] at hn
    unfold Configuration.get at hn
    by_cases hg : a.configuration.failsGet.get item = true
    · rw [if_pos hg] at hn
      cases hn
    · rw [if_neg hg] at hn
      cases hv : a.configuration.values.get item with
      | none =>
        rw [hv] at hn
        cases hn
      | some reported =>
        rw [hv] at hn
        by_cases hr : reported = value
        · rw [hr]
        · simp [hr] at hn

end Appearance

namespace Daemon

variable {item : Item} {value : String} {d : Daemon}

/-- `updateItem` answers by `unconfirmed?` whether the value counts, and leaves the appearance with
    the value `pushed`. -/
theorem updateItem_outcome (item : Item) (value : String) (d : Daemon) :
    ∃ j, (updateItem item value).on d = (settle (d.appearance.unconfirmed? item value),
      { d with appearance := d.appearance.pushed item value, journal := j }) := by
  cases hu : d.appearance.configuration.failsUpdate.get item with
  | false =>
    obtain ⟨j, he⟩ := updateItem_on value hu
    refine ⟨j, ?_⟩
    rw [he, Appearance.unconfirmed?_of_updates hu]
    simp [Appearance.pushed, Configuration.update, hu]
  | true =>
    obtain ⟨j, hj⟩ := Act.logs_info s!"Updating {item.name} to {value}" d
    have hrefused : (updateConfiguration item value).on { d with journal := j } =
        (.error .updateRefused, { d with journal := j }) := by
      unfold updateConfiguration
      rw [Act.on_get_bind]
      simp only [Configuration.update, hu, if_true, ne_eq, not_true_eq_false, if_false]
      rfl
    rw [Appearance.pushed_of_fails hu]
    unfold updateItem Appearance.unconfirmed?
    simp only [Act.on_bind, hj, hrefused, Configuration.update, hu, if_true, Act.on_get]
    -- the configuration is asked what it has
    cases hg : d.appearance.configuration.get item with
    | error f => exact ⟨_, rfl⟩
    | ok reported =>
      by_cases hr : reported = value
      · simp only [if_pos hr]
        exact ⟨_, rfl⟩
      · simp only [if_neg hr]
        exact ⟨_, rfl⟩

/-- A value that does not count is not applied, and nothing but the journal changes. -/
theorem applyItem_of_unconfirmed {f : Fault} (hf : d.appearance.unconfirmed? item value = some f) :
    ∃ j, (applyItem item value).on d = (.error f, { d with journal := j }) := by
  obtain ⟨j, he⟩ := updateItem_outcome item value d
  rw [hf, Appearance.pushed_of_unconfirmed hf] at he
  refine ⟨j, ?_⟩
  unfold applyItem
  simp only [Act.on_bind, he]
  rfl

/-- A value that counts is taken over, and what becomes of its parameter decides the answer. -/
theorem applyItem_of_confirmed (hn : d.appearance.unconfirmed? item value = none) :
    ∃ j, (applyItem item value).on d =
      let kept := d.appearance.parameters.set d.files item.parameter value
      (kept.1, { d with
        appearance := { d.appearance.adopting item value with parameters := kept.2.1 }
        files := kept.2.2
        journal := j }) := by
  obtain ⟨j, he⟩ := updateItem_outcome item value d
  rw [hn] at he
  refine ⟨j, ?_⟩
  unfold applyItem
  simp only [Act.on_bind, he, settle_none, modifyAppearance, Act.on_modify, setParameter,
    Act.on_modifyGet]
  rw [show (Appearance.taking item value (d.appearance.pushed item value)).parameters =
    d.appearance.parameters from Appearance.parameters_adopting _ _ _]
  rfl

/-- Without the permission `permitted` carries no call out: the answer is `notPermitted`, and only a
    line is logged. -/
theorem permitted_of_denied (hp : ¬ d.appearance.permitted = true) {α : Type}
    (call : Act (Except Fault α)) :
    ∃ j, (permitted call).on d = (.error .notPermitted, { d with journal := j }) := by
  unfold permitted
  rw [Act.on_get_bind, if_neg hp]
  exact ⟨_, rfl⟩

end Daemon

/-! ### Calls -/

/-- A call that sets an item. -/
inductive Change where
  | color (mode : Mode)
  | fontSize (value : String)
  | fontWeight (value : String)

namespace Change

open Daemon

/-- Make the call. -/
def make : Change → Act (Except Fault Unit)
  | .color mode => setMode mode
  | .fontSize value => setScale .fontSize value
  | .fontWeight value => setScale .fontWeight value

/-- The item that is set. -/
def item : Change → Item
  | .color _ => .colorMode
  | .fontSize _ => .fontSize
  | .fontWeight _ => .fontWeight

/-- What it is set to. -/
def value : Change → String
  | .color mode => statusWord (mode = .alwaysDark)
  | .fontSize value | .fontWeight value => value

/-- Why the value is not applied at all. -/
def misfit? (c : Change) (a : Appearance) : Option Fault :=
  match c with
  | .color mode =>
    if mode = a.mode then some (.alreadyInMode a.mode)
    else if mode.isFixed then none
    else some (.notAColorMode mode)
  | .fontSize value | .fontWeight value => if value.isEmpty then some (.emptyScale c.item) else none

/-- Why the call is refused before the parameter is written. -/
def refusal? (c : Change) (a : Appearance) : Option Fault :=
  if a.permitted then (c.misfit? a).or (a.unconfirmed? c.item c.value) else some .notPermitted

variable {c : Change} {d : Daemon}

/-- A call is refused unless it is permitted, and its value fits and counts. -/
theorem refusal?_eq_none {a : Appearance} : c.refusal? a = none ↔
    a.permitted = true ∧ c.misfit? a = none ∧ a.unconfirmed? c.item c.value = none := by
  unfold refusal?
  by_cases hp : a.permitted = true
  · rw [if_pos hp, Option.or_eq_none_iff, and_iff_right hp]
  · rw [if_neg hp]
    simp [hp]

/-- Without the permission `make` answers `notPermitted`, and only a line is logged. -/
theorem make_of_not_permitted (hp : ¬ d.appearance.permitted = true) :
    ∃ j, c.make.on d = (.error .notPermitted, { d with journal := j }) := by
  cases c with
  | color mode => exact permitted_of_denied hp _
  | fontSize value => exact permitted_of_denied hp _
  | fontWeight value => exact permitted_of_denied hp _

/-- `make` answers with the `misfit?` of a value that does not fit, and only logs. The cases are
    those of the items. -/
theorem make_of_misfit (hp : d.appearance.permitted = true) {f : Fault}
    (hf : c.misfit? d.appearance = some f) :
    ∃ j, c.make.on d = (.error f, { d with journal := j }) := by
  -- the two scales are refused for the same reason: an empty value
  have hscale : ∀ item (value : String),
      (if value.isEmpty then some (Fault.emptyScale item) else none) =
      some f → ∃ j, (setScale item value).on d = (.error f, { d with journal := j }) := by
    intro item value hf
    unfold setScale permitted applyScale
    rw [Act.on_get_bind, if_pos hp]
    by_cases hv : value.isEmpty = true
    · rw [if_pos hv] at hf ⊢
      obtain rfl := Option.some.inj hf
      exact ⟨_, rfl⟩
    · rw [if_neg hv] at hf
      cases hf
  cases c with
  | fontSize value => exact hscale _ value hf
  | fontWeight value => exact hscale _ value hf
  | color mode =>
    unfold misfit? at hf
    unfold make setMode permitted
    rw [Act.on_get_bind, if_pos hp, Act.on_get_bind]
    by_cases hm : mode = d.appearance.mode
    · -- a mode may also be the one that is in effect already
      simp only [if_pos hm] at hf ⊢
      obtain rfl := Option.some.inj hf
      exact ⟨_, rfl⟩
    · simp only [if_neg hm] at hf ⊢
      unfold applyMode
      by_cases hfixed : mode.isFixed = true
      · rw [if_pos hfixed] at hf
        cases hf
      · rw [if_neg hfixed] at hf ⊢
        obtain rfl := Option.some.inj hf
        exact ⟨_, rfl⟩

/-- `make` applies a value that fits, as `applyItem` does. The cases are those of the items. -/
theorem make_of_fits (hp : d.appearance.permitted = true) (hn : c.misfit? d.appearance = none) :
    c.make.on d = (applyItem c.item c.value).on d := by
  -- both scales are applied as any item is
  have hscale : ∀ item (value : String), item ≠ .colorMode →
      (if value.isEmpty then some (Fault.emptyScale item) else none) = none →
      (setScale item value).on d = (applyItem item value).on d := by
    intro item value hi hn
    unfold setScale permitted
    rw [Act.on_get_bind, if_pos hp, applyScale_eq hi]
    intro hv
    rw [if_pos hv] at hn
    cases hn
  cases c with
  | fontSize value => exact hscale _ value (by decide) hn
  | fontWeight value => exact hscale _ value (by decide) hn
  | color mode =>
    unfold misfit? at hn
    unfold make setMode permitted
    rw [Act.on_get_bind, if_pos hp, Act.on_get_bind]
    by_cases hm : mode = d.appearance.mode
    · simp only [if_pos hm] at hn
      cases hn
    · simp only [if_neg hm] at hn ⊢
      by_cases hfixed : mode.isFixed = true
      · -- a fixed mode is kept as the word of its status
        obtain ⟨dark, rfl⟩ := Mode.exists_fixed hfixed
        rw [applyMode_fixed, value, Mode.fixed_eq_alwaysDark]
        rfl
      · rw [if_neg hfixed] at hn
        cases hn

/-- Where there is a `refusal?`, `make` answers it and changes nothing but the journal. -/
theorem make_of_refused {f : Fault} (hf : c.refusal? d.appearance = some f) :
    ∃ j, c.make.on d = (.error f, { d with journal := j }) := by
  unfold refusal? at hf
  by_cases hp : d.appearance.permitted = true
  · rw [if_pos hp] at hf
    cases hm : c.misfit? d.appearance with
    | none =>
      rw [hm, Option.none_or] at hf
      rw [make_of_fits hp hm]
      exact applyItem_of_unconfirmed hf
    | some f' =>
      rw [hm] at hf
      obtain rfl : f' = f := Option.some.inj hf
      exact make_of_misfit hp hm
  · rw [if_neg hp] at hf
    obtain rfl := Option.some.inj hf
    exact make_of_not_permitted hp

/-- A call that is not refused has the value in effect, and what becomes of its parameter decides
    the answer. -/
theorem make_of_accepted (hn : c.refusal? d.appearance = none) :
    ∃ j, c.make.on d =
      let kept := d.appearance.parameters.set d.files c.item.parameter c.value
      (kept.1, { d with
        appearance := { d.appearance.adopting c.item c.value with parameters := kept.2.1 }
        files := kept.2.2
        journal := j }) := by
  obtain ⟨hp, hfits, hcounts⟩ := refusal?_eq_none.1 hn
  rw [make_of_fits hp hfits]
  exact applyItem_of_confirmed hcounts

/-! ### What was adopted -/

/-- A value that fits is one that the item can be set to. -/
theorem takes_of_fits {a : Appearance} (hn : c.misfit? a = none) : c.item.Takes c.value := by
  cases c with
  | color mode => exact ⟨_, rfl⟩
  | fontSize value =>
    have hfits : Item.fontSize.misfit? value = none := hn
    exact Item.takes_of_fits hfits
  | fontWeight value =>
    have hfits : Item.fontWeight.misfit? value = none := hn
    exact Item.takes_of_fits hfits

/-- After `adopting`, the item has the value of the change. -/
theorem value_adopting (c : Change) (a : Appearance) :
    (a.adopting c.item c.value).value c.item = c.value := by
  cases c with
  | fontSize value => rfl
  | fontWeight value => rfl
  | color mode =>
    show statusWord (decide (Mode.fixed (decide (statusWord (decide (mode = .alwaysDark)) =
      statusWord true)) = .alwaysDark)) = statusWord (decide (mode = .alwaysDark))
    cases decide (mode = .alwaysDark) <;> rfl

/-- A mode that fits is the one that the service is in once it was adopted. -/
theorem mode_adopting {mode : Mode} {a : Appearance} (hn : (color mode).misfit? a = none) :
    (a.adopting .colorMode (color mode).value).mode = mode := by
  have hfixed : mode.isFixed = true := by
    by_contra hno
    unfold misfit? at hn
    simp only [if_neg hno] at hn
    split at hn <;> cases hn
  obtain ⟨dark, rfl⟩ := Mode.exists_fixed hfixed
  cases dark <;> rfl

end Change

end Twilight
