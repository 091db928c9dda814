import Twilight.Proofs.Restoration

namespace Twilight

/-!
# Changes that are accepted

Whatever fails before and meanwhile, a change that succeeds is everywhere: the service, the
configuration and the parameters have the value, and the file of the parameters has it, if there is
one.

* `Circumstances`, `Daemon.under` — what fails while a call is made.
* `ServiceCall`, `Daemon.served` — the calls on the appearance service, and a run of them under
  changing circumstances.
* `Appearance.Sensible` — the mode is light or dark, and no scale is empty.
* `Daemon.Adopts` — all that a call can change: at most one item adopts a value that it can be set
  to.
* `Daemon.Everywhere`, `Daemon.Denied` — what a change that succeeds leaves behind, and what a call
  comes to without the permission.
* `Daemon.Served`, `Daemon.served_of_run` — so it is after every run.
-/

/-! ### Runs -/

/-- What fails while a call is made, and the files that it finds. -/
structure Circumstances where
  permitted : Bool := true
  failsUpdate : PerItem Bool := .const false
  failsReport : PerItem Bool := .const false
  failsRead : String → Bool := fun _ => false
  failsWrite : String → Bool := fun _ => false
  files : FileSystem := {}

/-- A call on the appearance service. -/
inductive ServiceCall where
  | change (c : Change)
  | askMode
  | askFontSize
  | askFontWeight
  | apply (dark : Bool) (user : UserId)
  | restore

namespace Daemon

open Log

/-- The daemon under other circumstances. -/
def under (d : Daemon) (c : Circumstances) : Daemon :=
  { d with
    appearance := { d.appearance with
      permitted := c.permitted
      configuration :=
        { values := d.appearance.configuration.values
          failsUpdate := c.failsUpdate
          failsGet := c.failsReport }
      parameters := { d.appearance.parameters with
        failsGet := c.failsRead
        failsSet := c.failsWrite } }
    files := c.files }

/-- Make a call, whatever it answers. -/
def serve : ServiceCall → Act Unit
  | .change c => do let _ ← c.make
  | .askMode => do let _ ← getMode
  | .askFontSize => do let _ ← getScale .fontSize
  | .askFontWeight => do let _ ← getScale .fontWeight
  | .apply dark user => applyStatus dark user
  | .restore => do let _ ← restore

/-- The daemon once calls were made in order, each under circumstances of its own. -/
def served (d : Daemon) (run : List (Circumstances × ServiceCall)) : Daemon :=
  run.foldl (fun d step => ((serve step.2).on (d.under step.1)).2) d

end Daemon

/-! ### Values that are never in effect -/

namespace Appearance

variable {a : Appearance} {item : Item} {value : String}

/-- A service that was just made, over any configuration and any parameters. -/
def New (a : Appearance) : Prop :=
  ∃ permitted configuration parameters,
    a = { permitted := permitted, configuration := configuration, parameters := parameters }

/-- The mode is light or dark, and no scale is empty. -/
structure Sensible (a : Appearance) : Prop where
  mode : a.mode = .alwaysLight ∨ a.mode = .alwaysDark
  fontSize : a.fontSize ≠ ""
  fontWeight : a.fontWeight ≠ ""

/-- A service that is `New` has sensible values only, since none of its items was set to anything
    yet. -/
theorem New.sensible (h : a.New) : a.Sensible := by
  obtain ⟨permitted, configuration, parameters, rfl⟩ := h
  have hscale : Item.fontSize.fallback ≠ "" := by decide
  exact ⟨.inl rfl, hscale, hscale⟩

/-- Values that are `Sensible` stay so when an item takes one that it can be set to. -/
theorem Sensible.taking (h : a.Sensible) (ht : item.Takes value) :
    (a.taking item value).Sensible := by
  cases item with
  | colorMode =>
    obtain ⟨dark, rfl⟩ := ht
    refine ⟨?_, h.fontSize, h.fontWeight⟩
    cases dark with
    | false => exact .inl rfl
    | true => exact .inr rfl
  | fontSize => exact ⟨h.mode, ht, h.fontWeight⟩
  | fontWeight => exact ⟨h.mode, h.fontSize, ht⟩

end Appearance

namespace Daemon

open Log

variable {item : Item} {c : Change} {d d₁ d₂ d₃ : Daemon} {r : Option Fault × Daemon}

/-! ### What a call can do -/

/-- Lines were added at most, or a value was adopted that its item can be set to. -/
inductive Adopts (d : Daemon) : Daemon → Prop
  | logged (j : Journal) : Adopts d { d with journal := j }
  | adopted {item : Item} {value : String} (takes : item.Takes value) (j : Journal) :
    Adopts d (d.adopted item value j)

namespace Adopts

/-- A call that only logs lines adopts nothing, so `Logged` is a case of `Adopts`. -/
theorem of_logged (hl : Logged d d₁) : Adopts d d₁ := by
  obtain ⟨j, rfl⟩ := hl
  exact .logged j

/-- A change that `Adopts` a value does so together with the lines that are logged before and after
    it. -/
theorem between_lines (hl : Logged d d₁) (h : Adopts d₁ d₂) (hl₁ : Logged d₂ d₃) : Adopts d d₃ := by
  obtain ⟨j, rfl⟩ := hl
  obtain ⟨j₁, rfl⟩ := hl₁
  cases h with
  | logged j => exact .logged j₁
  | adopted takes j => exact .adopted takes j₁

/-- What a call adopts is a value that its item can be set to, so `Sensible` is preserved along
    `Adopts`. -/
theorem sensible (ha : Adopts d d₁) (h : d.appearance.Sensible) : d₁.appearance.Sensible := by
  cases ha with
  | logged j => exact h
  | @adopted item value takes j =>
    have hpushed : (d.appearance.pushed item value).Sensible := ⟨h.mode, h.fontSize, h.fontWeight⟩
    have htaken := hpushed.taking takes
    exact ⟨htaken.mode, htaken.fontSize, htaken.fontWeight⟩

end Adopts

/-- A change that came to an end as `Comes` says has at most adopted its value. -/
theorem Comes.adopts (hr : Comes item d r) : Adopts d r.2 := by
  cases hr with
  | left j refused => exact .logged j
  | adopted j sought fits => exact .adopted (Appearance.fits_of_restored sought fits).1 j

/-- All that `Change.make` can leave behind is the value of its own item, whether it succeeds or
    fails at any of its stages. -/
theorem adopts_change (c : Change) (d : Daemon) : Adopts d (c.make.on d).2 := by
  cases hr : c.refusal? d.appearance with
  | some f =>
    obtain ⟨j, he⟩ := Change.make_of_refused hr
    rw [he]
    exact .logged j
  | none =>
    obtain ⟨j, he⟩ := Change.make_of_accepted hr
    rw [he]
    exact .adopted (Change.takes_of_fits (Change.refusal?_eq_none.1 hr).2.1) j

/-- Applying a fixed mode adopts the color mode at most, and logs lines. -/
theorem adopts_applyMode (dark : Bool) (d : Daemon) :
    Adopts d ((applyMode (.fixed dark)).on d).2 := by
  rw [applyMode_fixed]
  cases hu : d.appearance.unconfirmed? .colorMode (statusWord dark) with
  | some f =>
    obtain ⟨j, he⟩ := applyItem_of_unconfirmed hu
    rw [he]
    exact .logged j
  | none =>
    obtain ⟨j, he⟩ := applyItem_of_confirmed hu
    have htakes : Item.colorMode.Takes (statusWord dark) := ⟨dark, rfl⟩
    rw [he]
    exact .adopted htakes j

/-- Applying the status of a user is `applyMode` between two lines of the journal, so it adopts the
    color mode at most. -/
theorem adopts_applyStatus (dark : Bool) (user : UserId) (d : Daemon) :
    Adopts d ((applyStatus dark user).on d).2 := by
  have hblock := logs_block s!"Applying {(Mode.fixed dark).name} for user {user}" d
  unfold applyStatus
  rw [Act.on_bind, Act.on_bind]
  have happlied := adopts_applyMode dark
    ((block s!"Applying {(Mode.fixed dark).name} for user {user}").on d).2
  generalize (applyMode (.fixed dark)).on _ = result at happlied
  obtain ⟨answer, d₁⟩ := result
  cases answer with
  | ok _ => exact happlied.between_lines hblock (.refl d₁)
  | error f => exact happlied.between_lines hblock (Act.logs_fail _ d₁)

/-- A call under `permitted` that logs at most lines still does so where the permission is missing
    and it is not made at all. -/
theorem logs_permitted {α : Type} {call : Act (Except Fault α)} (h : call.Logs) :
    (permitted call).Logs := by
  intro d
  by_cases hp : d.appearance.permitted = true
  · unfold permitted
    rw [Act.on_get_bind, if_pos hp]
    exact h d
  · obtain ⟨j, he⟩ := permitted_of_denied hp call
    rw [he]
    exact ⟨j, rfl⟩

/-- Asking for the color mode by `getMode` logs at most lines. -/
theorem logs_getMode : getMode.Logs := logs_permitted fun d => .refl d

/-- Asking for a scale by `getScale` logs at most lines. -/
theorem logs_getScale (item : Item) : (getScale item).Logs := logs_permitted fun d => .refl d

/-! ### What holds after every run -/

/-- Every `ServiceCall` keeps the appearance `Sensible`, whatever fails in it: no other value ever
    comes into effect. -/
theorem sensible_serve (h : d.appearance.Sensible) (call : ServiceCall) :
    ((serve call).on d).2.appearance.Sensible := by
  cases call with
  | change c => exact (adopts_change c d).sensible h
  | askMode => exact (Adopts.of_logged (logs_getMode d)).sensible h
  | askFontSize => exact (Adopts.of_logged (logs_getScale .fontSize d)).sensible h
  | askFontWeight => exact (Adopts.of_logged (logs_getScale .fontWeight d)).sensible h
  | apply dark user => exact (adopts_applyStatus dark user d).sensible h
  | restore =>
    show (restore.on d).2.appearance.Sensible
    rw [restore_on]
    exact restoreEach_induction (P := fun d => d.appearance.Sensible)
      (fun item _ d₁ h₁ => (restoreItem_comes item d₁).adopts.sensible h₁) h

/-- The values of the service are `Sensible` after any run of calls, whatever the circumstances of
    each of them were. -/
theorem sensible_served (h : d.appearance.Sensible) (run : List (Circumstances × ServiceCall)) :
    (d.served run).appearance.Sensible := by
  induction run generalizing d with
  | nil => exact h
  | cons step rest ih =>
    have hunder : (d.under step.1).appearance.Sensible := ⟨h.mode, h.fontSize, h.fontWeight⟩
    exact ih (sensible_serve hunder step.2)

/-- The value that a change asks for is in effect, configured and stored, in the file as well if
    there is one; and the other items are as they were. -/
structure Everywhere (c : Change) (d d₁ : Daemon) : Prop where
  inEffect : d₁.appearance.value c.item = c.value
  mode : ∀ mode, c = .color mode → d₁.appearance.mode = mode
  configured : d₁.appearance.configuration.values.get c.item = some c.value
  stored : d₁.appearance.parameters.values.get? c.item.parameter = some c.value
  filed : d₁.appearance.parameters.Filed d₁.files
  others : ∀ item, item ≠ c.item → d.appearance.SameItem item d₁.appearance

/-- A call is refused for want of the permission, and nothing but lines were added. -/
structure Denied {α : Type} (call : Act (Except Fault α)) (d : Daemon) : Prop where
  answer : (call.on d).1 = .error .notPermitted
  unchanged : Logged d (call.on d).2

/-- Without the permission a call under `permitted` is answered with `notPermitted`, and the service
    is as before. -/
theorem denied_of_not_permitted (hp : ¬ d.appearance.permitted = true) {α : Type}
    (call : Act (Except Fault α)) : Denied (permitted call) d := by
  obtain ⟨j, he⟩ := permitted_of_denied hp call
  refine ⟨?_, ?_⟩
  · rw [he]
  · rw [he]
    exact ⟨j, rfl⟩

/-- Without the permission no change is made: `Change.make` is denied before anything of it is
    looked at. -/
theorem denied_of_change (hp : ¬ d.appearance.permitted = true) (c : Change) : Denied c.make d := by
  cases c with
  | color mode => exact denied_of_not_permitted hp _
  | fontSize value => exact denied_of_not_permitted hp _
  | fontWeight value => exact denied_of_not_permitted hp _

/-- A change that `make` carries out successfully is `Everywhere`: in effect, in the configuration
    and in the parameters, with the other items as they were. -/
theorem everywhere_of_ok (hok : (c.make.on d).1 = .ok ()) : Everywhere c d (c.make.on d).2 := by
  cases hr : c.refusal? d.appearance with
  | some f =>
    obtain ⟨j, he⟩ := Change.make_of_refused hr
    rw [he] at hok
    cases hok
  | none =>
    obtain ⟨-, hfits, hcounts⟩ := Change.refusal?_eq_none.1 hr
    obtain ⟨j, he⟩ := Change.make_of_accepted hr
    replace he : c.make.on d = ((d.appearance.parameters.set d.files c.item.parameter c.value).1,
        d.adopted c.item c.value j) := he
    rw [he] at hok ⊢
    rw [Parameters.set_fst] at hok
    -- the value was kept, or else the answer would be why it was not
    have hkept : d.appearance.parameters.refusal? d.files c.item.parameter = none := by
      cases hk : d.appearance.parameters.refusal? d.files c.item.parameter with
      | none => rfl
      | some f =>
        rw [hk] at hok
        cases hok
    refine ⟨value_adopted_self (Change.takes_of_fits hfits) d j, ?_,
      configured_adopted_self hcounts j,
      ?_, ?_, fun item hi => sameItem_adopted hi d c.value j⟩
    · rintro mode rfl
      exact Change.mode_adopting hfits
    · rw [stored_adopted_self, hkept]
    · obtain ⟨fs, hset, hfiled, -⟩ := Parameters.set_of_taken hkept c.value
      show (d.appearance.parameters.set d.files c.item.parameter c.value).2.1.Filed
        (d.appearance.parameters.set d.files c.item.parameter c.value).2.2
      rw [hset]
      exact hfiled

/-- What holds of the service at any time: its values are sensible, a change that succeeds is
    everywhere, and without the permission no call is carried out. -/
structure Served (d : Daemon) : Prop where
  sensible : d.appearance.Sensible
  accepted : ∀ now (c : Change), (c.make.on (d.under now)).1 = .ok () →
    Everywhere c (d.under now) (c.make.on (d.under now)).2
  denied : ∀ now, now.permitted = false →
    (∀ c : Change, Denied c.make (d.under now)) ∧ Denied getMode (d.under now) ∧
      ∀ item, Denied (getScale item) (d.under now)

/-- **A value that is accepted is everywhere.** After every run of calls on a `New` service,
    whatever failed in each of them, the next call is `Served`: the values in effect are `Sensible`,
    a change that succeeds is `Everywhere`, and every call without the permission is `Denied`. -/
theorem served_of_run (h : d.appearance.New) (run : List (Circumstances × ServiceCall)) :
    Served (d.served run) where
  sensible := sensible_served h.sensible run
  accepted _ _ hok := everywhere_of_ok hok
  denied now hp := by
    have hdenied : ¬ ((d.served run).under now).appearance.permitted = true := by
      intro hpermitted
      have hnot : now.permitted = true := hpermitted
      rw [hp] at hnot
      cases hnot
    exact ⟨denied_of_change hdenied, denied_of_not_permitted hdenied _,
      fun item => denied_of_not_permitted hdenied _⟩

/-- A daemon whose configuration has a font size already. -/
def preset : Daemon where
  clock := default
  processes := default
  appearance := { configuration := { values := (PerItem.const none).set .fontSize (some "1.5") } }

/-- Calls of which the first is not kept. -/
def preceding : List (Circumstances × ServiceCall) :=
  [({ failsWrite := fun _ => true }, .change (.fontWeight "0.9")), ({}, .apply true 0)]

/-- The font size is accepted there although no update is, and kept as a parameter; and nothing is
    answered without the permission. -/
theorem served_of_preset :
    let before := (preset.served preceding).under { failsUpdate := .const true }
    let outcome := (Change.fontSize "1.5").make.on before
    preset.appearance.New ∧ outcome.1 = .ok () ∧
      outcome.2.appearance.parameters.values.get? Item.fontSize.parameter = some "1.5" ∧
      (getMode.on ((preset.served preceding).under { permitted := false })).1 =
          .error .notPermitted := by
  intro before outcome
  have hnew : preset.appearance.New := ⟨_, _, _, rfl⟩
  have hok : outcome.1 = .ok () := rfl
  have hserved := served_of_run hnew preceding
  exact ⟨hnew, hok, (hserved.accepted _ _ hok).stored,
    (hserved.denied { permitted := false } rfl).2.1.answer⟩

end Daemon

end Twilight
