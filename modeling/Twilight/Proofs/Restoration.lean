import Twilight.Proofs.Daemon.Items

namespace Twilight

/-!
# Items restored together

* `Daemon.SameFooting` — two daemons are alike for an item, so that restoring it comes to the same.
* `Daemon.restoreEach`, `Daemon.restoreEach_alike` — items that are restored one after the other end
  up as if each had been restored alone.
* `Appearance.Lost`, `Daemon.stored_restore` — what was stored stays stored, but for a scale that
  cannot be read.
* `Daemon.Independent`, `Daemon.independent_of_readable` — so it is when everything is restored that
  can be read, whatever else fails.
-/

/-! ### Items on their own -/

/-- Whether a value will be confirmed depends on the configuration of its own item alone. -/
theorem Appearance.unconfirmed?_congr {a b : Appearance} {item : Item}
    (hupdate : b.configuration.failsUpdate.get item = a.configuration.failsUpdate.get item)
    (hreport : b.configuration.failsGet.get item = a.configuration.failsGet.get item)
    (hvalue : b.configuration.values.get item = a.configuration.values.get item) (value : String) :
    b.unconfirmed? item value = a.unconfirmed? item value := by
  have hget : b.configuration.get item = a.configuration.get item := by
    unfold Configuration.get
    rw [hreport, hvalue]
  have hfst : (b.configuration.update item value).1 = (a.configuration.update item value).1 := by
    unfold Configuration.update
    rw [hupdate]
    split
    · rfl
    · rfl
  unfold unconfirmed?
  rw [hget, hfst]

namespace Daemon

open Log

variable {item item' : Item} {key value : String} {d d₁ d₂ : Daemon} {r r₁ : Option Fault × Daemon}

/-- For an item, two daemons are alike: they have the same, and the same calls fail. -/
structure SameFooting (item : Item) (d d₁ : Daemon) : Prop where
  same : d.appearance.SameItem item d₁.appearance
  update : d₁.appearance.configuration.failsUpdate.get item =
    d.appearance.configuration.failsUpdate.get item
  report : d₁.appearance.configuration.failsGet.get item =
      d.appearance.configuration.failsGet.get item
  read : d₁.appearance.parameters.failsGet item.parameter =
      d.appearance.parameters.failsGet item.parameter
  keep : d₁.appearance.parameters.refusal? d₁.files item.parameter =
    d.appearance.parameters.refusal? d.files item.parameter

namespace SameFooting

theorem refl (item : Item) (d : Daemon) : SameFooting item d d := ⟨.refl item _, rfl, rfl, rfl, rfl⟩

theorem trans (h : SameFooting item d d₁) (h₁ : SameFooting item d₁ d₂) : SameFooting item d d₂ :=
  ⟨h.same.trans h₁.same, h₁.update.trans h.update, h₁.report.trans h.report, h₁.read.trans h.read,
    h₁.keep.trans h.keep⟩

variable (h : SameFooting item d d₁)
include h

/-- On the `SameFooting` the same value is sought for the item. -/
theorem sought : d₁.appearance.sought item = d.appearance.sought item := by
  unfold Appearance.sought Parameters.get Table.getD
  rw [h.read, h.same.stored]

/-- On the `SameFooting` the same keeps the item from being restored. -/
theorem unrestored? : d₁.appearance.unrestored? item = d.appearance.unrestored? item := by
  unfold Appearance.unrestored?
  rw [h.sought]
  cases d.appearance.sought item with
  | error f => rfl
  | ok value =>
    simp only [Appearance.unconfirmed?_congr h.update h.report h.same.configured value]

end SameFooting

/-- A value that is `adopted` for one item leaves the others on the `SameFooting`. -/
theorem sameFooting_adopted (h : item' ≠ item) (d : Daemon) (value : String) (j : Journal) :
    SameFooting item' d (d.adopted item value j) := by
  have hfaults : (d.adopted item value j).appearance.configuration.failsUpdate =
        d.appearance.configuration.failsUpdate ∧
      (d.adopted item value j).appearance.configuration.failsGet =
        d.appearance.configuration.failsGet := by
    show (d.appearance.adopting item value).configuration.failsUpdate = _ ∧
      (d.appearance.adopting item value).configuration.failsGet = _
    rw [Appearance.configuration_adopting]
    unfold Appearance.pushed Configuration.update
    split
    · exact ⟨rfl, rfl⟩
    · exact ⟨rfl, rfl⟩
  refine ⟨sameItem_adopted h d value j, ?_, ?_, ?_, ?_⟩
  · rw [hfaults.1]
  · rw [hfaults.2]
  · show (d.appearance.parameters.set d.files item.parameter value).2.1.failsGet _ = _
    rw [Parameters.failsGet_set]
  · exact d.appearance.parameters.refusal?_set d.files item.parameter value item'.parameter

namespace Comes

/-- Whatever restoring one item `Comes` to, the others are on the `SameFooting`. -/
theorem footing (hr : Comes item d r) (h : item' ≠ item) : SameFooting item' d r.2 := by
  cases hr with
  | left j refused => exact ⟨.refl item' _, rfl, rfl, rfl, rfl⟩
  | adopted j sought fits => exact sameFooting_adopted h d _ j

/-- Restoring an item comes to the same for daemons that are alike for it. -/
theorem alike (hr : Comes item d r) (hr₁ : Comes item d₁ r₁) (h : SameFooting item d d₁) :
    r₁.1 = r.1 ∧ r.2.appearance.SameItem item r₁.2.appearance := by
  -- on the same footing both come to the same end, so the mixed cases are none
  have hwhy := h.unrestored?
  cases hr with
  | left j refused =>
    cases hr₁ with
    | left j₁ refused₁ =>
      rw [refused, refused₁] at hwhy
      exact ⟨hwhy, h.same⟩
    | adopted j₁ sought₁ fits₁ =>
      rw [refused, fits₁] at hwhy
      cases hwhy
  | @adopted value j sought fits =>
    cases hr₁ with
    | left j₁ refused₁ =>
      rw [fits, refused₁] at hwhy
      cases hwhy
    | @adopted value₁ j₁ sought₁ fits₁ =>
      -- the same value was sought
      have hsought := h.sought
      rw [sought, sought₁] at hsought
      obtain rfl := Except.ok.inj hsought
      obtain ⟨htakes, hcounts⟩ := Appearance.fits_of_restored sought fits
      obtain ⟨-, hcounts₁⟩ := Appearance.fits_of_restored sought₁ fits₁
      refine ⟨h.keep, fun hi => ?_, ?_, ?_, ?_⟩
      · subst hi
        rfl
      · rw [value_adopted_self htakes, value_adopted_self htakes]
      · rw [configured_adopted_self hcounts, configured_adopted_self hcounts₁]
      · rw [stored_adopted_self, stored_adopted_self, h.keep, h.same.stored]

/-- A parameter that has nothing to do with the item stays as it is. -/
theorem get?_of_ne (hr : Comes item d r) (hne : key ≠ item.parameter) :
    r.2.appearance.parameters.values.get? key = d.appearance.parameters.values.get? key := by
  cases hr with
  | left j refused => rfl
  | adopted j sought fits => exact Parameters.get?_set_of_ne hne d.files _

/-- Whatever restoring one item `Comes` to, the parameters are those in their file if they were
    before. -/
theorem filed (hr : Comes item d r) (hf : d.appearance.parameters.Filed d.files) :
    r.2.appearance.parameters.Filed r.2.files := by
  cases hr with
  | left j refused => exact hf
  | adopted j sought fits => exact hf.set

end Comes

/-! ### Items one after the other -/

/-- Restore items in order; what failed of each. -/
def restoreEach : List Item → Act (List (Option Fault))
  | [] => pure []
  | item :: rest => do
    let fault ← restoreItem item
    let faults ← restoreEach rest
    pure (fault :: faults)

/-- What a step for one item keeps is kept by all of them. -/
theorem restoreEach_induction {P : Daemon → Prop} {items : List Item}
    (hstep : ∀ item ∈ items, ∀ d, P d → P ((restoreItem item).on d).2) (h : P d) :
    P ((restoreEach items).on d).2 := by
  induction items generalizing d with
  | nil => exact h
  | cons item rest ih =>
    refine ih (fun other ho => hstep other (List.mem_cons_of_mem _ ho)) ?_
    exact hstep item List.mem_cons_self d h

/-- Restoring other items leaves this one on the `SameFooting`. -/
theorem restoreEach_footing {items : List Item} (hi : item ∉ items) (d : Daemon) :
    SameFooting item d ((restoreEach items).on d).2 := by
  refine restoreEach_induction (P := SameFooting item d) (fun other ho d₁ h => ?_) (.refl item d)
  exact h.trans ((restoreItem_comes other d₁).footing fun he => hi (he ▸ ho))

/-- By `restoreEach` every item ends up as if it had been restored alone, and with the same fault.
    By induction on the items, as each leaves the others on the `SameFooting`. -/
theorem restoreEach_alike {items : List Item} (hnodup : items.Nodup)
    (h : ∀ item ∈ items, SameFooting item d d₁) :
    ((restoreEach items).on d₁).1 = items.map (fun item => ((restoreItem item).on d).1) ∧
      ∀ item ∈ items, ((restoreItem item).on d).2.appearance.SameItem item
        ((restoreEach items).on d₁).2.appearance := by
  induction items generalizing d₁ with
  | nil => exact ⟨rfl, fun item hi => (by cases hi)⟩
  | cons first rest ih =>
    obtain ⟨hfirst, hrest⟩ := List.nodup_cons.1 hnodup
    have hcomes := restoreItem_comes first d₁
    obtain ⟨hfault, hsame⟩ := (restoreItem_comes first d).alike hcomes (h first List.mem_cons_self)
    -- the others are on the same footing once the first is done
    have hfooting : ∀ item ∈ rest, SameFooting item d ((restoreItem first).on d₁).2 :=
      fun item hi =>
      (h item (List.mem_cons_of_mem _ hi)).trans (hcomes.footing fun he => hfirst (he ▸ hi))
    obtain ⟨hfaults, hothers⟩ := ih hrest hfooting
    refine ⟨?_, fun item hi => ?_⟩
    · show ((restoreItem first).on d₁).1 ::
        ((restoreEach rest).on ((restoreItem first).on d₁).2).1 = _
      rw [hfault, hfaults]
      rfl
    · rcases List.mem_cons.1 hi with rfl | hi
      · exact hsame.trans (restoreEach_footing hfirst _).same
      · exact hothers item hi

/-- Everything is restored item by item, and the first failure is the answer. -/
theorem restore_on (d : Daemon) : restore.on d =
    (settle (((restoreEach Item.all).on d).1.findSome? id), ((restoreEach Item.all).on d).2) := by
  have hfirst : ∀ a b c : Option Fault, (a <|> b <|> c) = [a, b, c].findSome? id := by
    intro a b c
    cases a <;> cases b <;> cases c <;> rfl
  show (settle (_ <|> _ <|> _), _) = _
  rw [hfirst]
  rfl

/-- `restore` leaves each item as `restoreItem` alone would. -/
theorem restore_alone (d : Daemon) (item : Item) :
    ((restoreItem item).on d).2.appearance.SameItem item (restore.on d).2.appearance := by
  have hnodup : Item.all.Nodup := by decide
  rw [restore_on]
  exact (restoreEach_alike hnodup fun item _ => SameFooting.refl item d).2 item item.mem_all

/-- `restore` answers with the first failure of `restoreItem`, each item restored alone. -/
theorem restore_answer (d : Daemon) :
    (restore.on d).1 = settle (Item.all.findSome? fun item => ((restoreItem item).on d).1) := by
  have hnodup : Item.all.Nodup := by decide
  rw [restore_on, (restoreEach_alike hnodup fun item _ => SameFooting.refl item d).1,
    List.findSome?_map]
  rfl

/-- The first fault of all items settles to success exactly if no item has one. -/
theorem settle_findSome?_eq_ok {f : Item → Option Fault} :
    settle (Item.all.findSome? f) = .ok () ↔ ∀ item, f item = none := by
  cases h : Item.all.findSome? f with
  | none =>
    rw [List.findSome?_eq_none_iff] at h
    exact ⟨fun _ item => h item item.mem_all, fun _ => rfl⟩
  | some fault =>
    obtain ⟨item, -, hitem⟩ := List.exists_of_findSome?_eq_some h
    refine ⟨fun hok => (by cases hok), fun hall => ?_⟩
    rw [hall item] at hitem
    cases hitem

end Daemon

/-! ### What was stored -/

/-- A scale is stored that cannot be read, and it is not the fallback. -/
def Appearance.Lost (a : Appearance) (item : Item) : Prop :=
  item ≠ .colorMode ∧ a.parameters.failsGet item.parameter = true ∧
    ∃ value, a.parameters.values.get? item.parameter = some value ∧ value ≠ item.fallback

namespace Daemon

variable {item : Item} {key value : String} {d : Daemon} {r : Option Fault × Daemon}

/-- What is adopted for an item is what was stored, unless that is lost. -/
theorem sought_eq_of_stored (hl : ¬ d.appearance.Lost item)
    (hk : d.appearance.parameters.values.get? item.parameter = some value) {value' : String}
    (hs : d.appearance.sought item = .ok value') : value' = value := by
  unfold Appearance.sought Parameters.get at hs
  by_cases hg : d.appearance.parameters.failsGet item.parameter = true
  · simp only [hg, if_true] at hs
    by_cases hi : item = .colorMode
    · rw [if_pos hi] at hs
      cases hs
    · rw [if_neg hi] at hs
      obtain rfl := Except.ok.inj hs
      by_contra hne
      exact hl ⟨hi, hg, value, hk, Ne.symm hne⟩
  · simp only [hg, Table.getD, hk, Option.getD_some] at hs
    exact (Except.ok.inj hs).symm

/-- A value that was stored is stored still after its item was restored, unless it was `Lost`. -/
theorem Comes.stored (hr : Comes item d r) (hl : ¬ d.appearance.Lost item)
    (hk : d.appearance.parameters.values.get? item.parameter = some value) :
    r.2.appearance.parameters.values.get? item.parameter = some value := by
  cases hr with
  | left j refused => exact hk
  | @adopted value' j sought fits =>
    obtain rfl := sought_eq_of_stored hl hk sought
    rw [stored_adopted_self, hk]
    split
    · rfl
    · rfl

/-- After `restore`, every value that was stored is stored still, but for those of items that were
    `Lost`. -/
theorem stored_restore (hk : d.appearance.parameters.values.get? key = some value)
    (hl : ∀ item, d.appearance.Lost item → key ≠ item.parameter) :
    (restore.on d).2.appearance.parameters.values.get? key = some value := by
  by_cases hitem : ∃ item : Item, key = item.parameter
  · obtain ⟨item, rfl⟩ := hitem
    rw [(restore_alone d item).stored]
    exact (restoreItem_comes item d).stored (fun hlost => hl item hlost rfl) hk
  · rw [restore_on]
    refine restoreEach_induction
      (P := fun d => d.appearance.parameters.values.get? key = some value)
      (fun item _ d₁ h => ?_) hk
    rw [(restoreItem_comes item d₁).get?_of_ne fun he => hitem ⟨item, he⟩]
    exact h

/-- After `restore` the parameters are in their file still. -/
theorem filed_restore (hf : d.appearance.parameters.Filed d.files) :
    (restore.on d).2.appearance.parameters.Filed (restore.on d).2.files := by
  rw [restore_on]
  exact restoreEach_induction (P := fun d => d.appearance.parameters.Filed d.files)
    (fun item _ d₁ h => (restoreItem_comes item d₁).filed h) hf

/-! ### Everything at once -/

/-- Restoring everything does to each item what restoring it alone does, and answers with the first
    failure. What was stored is stored still, and so it is in the file, if there is one. -/
structure Independent (d : Daemon) : Prop where
  alone : ∀ item,
    ((restoreItem item).on d).2.appearance.SameItem item (restore.on d).2.appearance
  succeeds : (restore.on d).1 = .ok () ↔ ∀ item, ((restoreItem item).on d).1 = none
  answer : (restore.on d).1 = settle (Item.all.findSome? fun item => ((restoreItem item).on d).1)
  stored : ∀ key value, d.appearance.parameters.values.get? key = some value →
    (restore.on d).2.appearance.parameters.values.get? key = some value
  filed : d.appearance.parameters.Filed d.files →
    (restore.on d).2.appearance.parameters.Filed (restore.on d).2.files

/-- **Items are restored independently.** As long as the parameters can be read, `restore` leaves
    each item as `restoreItem` alone would, whatever else fails. It succeeds exactly if all of them
    do, answers the first failure, and keeps what was stored. -/
theorem independent_of_readable (d : Daemon)
    (hr : ∀ item : Item, d.appearance.parameters.failsGet item.parameter = false) :
    Independent d where
  alone := restore_alone d
  succeeds := by
    rw [restore_answer]
    exact settle_findSome?_eq_ok
  answer := restore_answer d
  stored key value hk := by
    refine stored_restore hk fun item hlost => ?_
    obtain ⟨-, hunread, -⟩ := hlost
    rw [hr item] at hunread
    cases hunread
  filed := filed_restore

/-- A daemon with a color mode that is none, a scale that cannot be configured, and one that can. -/
def patchy : Daemon where
  clock := default
  processes := default
  appearance :=
    { configuration := { failsUpdate := ⟨false, true, false⟩ }
      parameters := { values := .ofList [(Item.colorMode.parameter, "sepia"),
        (Item.fontSize.parameter, "1.5"), (Item.fontWeight.parameter, "0.9")] } }

/-- The mode is the first to fail there, and the last scale is restored all the same. -/
theorem independent_of_patchy :
    (∀ item : Item, patchy.appearance.parameters.failsGet item.parameter = false) ∧
      (restore.on patchy).1 = .error (.unknownColorMode "sepia") ∧
      (restore.on patchy).2.appearance.value .fontWeight = "0.9" := by
  have hreadable : ∀ item : Item, patchy.appearance.parameters.failsGet item.parameter = false :=
    fun _ => rfl
  have hindependent := independent_of_readable patchy hreadable
  refine ⟨hreadable, ?_, ?_⟩
  · rw [hindependent.answer]
    rfl
  · rw [(hindependent.alone .fontWeight).value]
    rfl

end Daemon

end Twilight
