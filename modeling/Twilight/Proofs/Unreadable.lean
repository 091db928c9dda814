import Twilight.Proofs.Restoration

namespace Twilight

/-!
# Parameters that cannot be read

A color mode that cannot be read is left alone and reported. A scale that cannot be read counts as
one that was never stored: the fallback is applied, and kept in its place.

* `Daemon.Careful` — restoring keeps what was stored, and answers with the first item that cannot be
  restored.
* `Appearance.Lost`, `Appearance.Silent` — a scale is overwritten; and none is reported that should
  be.
* `Daemon.not_careful_of_unreadable`, `Daemon.careful_iff_of_onlyReadingFails` — restoring is not
  careful, and exactly these scales are the reason.
-/

/-! ### What is due and what is reported -/

/-- `settle` answers different things of different faults. -/
theorem settle_injective {a b : Option Fault} (h : settle a = settle b) : a = b := by
  have hfault : ∀ c : Option Fault, faultOf? (settle c) = c := by
    intro c
    cases c <;> rfl
  rw [← hfault a, h, hfault]

namespace Appearance

variable {a : Appearance} {item : Item}

/-- What there is to report about an item where nothing fails but reading: it cannot be read, or it
    does not fit. -/
def due? (a : Appearance) (item : Item) : Option Fault :=
  if a.parameters.failsGet item.parameter then some .parametersUnreadable
  else item.misfit? (a.kept item)

/-- What is reported about it: that a scale cannot be read is not. -/
def reported? (a : Appearance) (item : Item) : Option Fault :=
  if a.parameters.failsGet item.parameter = true ∧ item ≠ .colorMode then none else a.due? item

/-- A scale cannot be read, nothing before it fails, and it is not reported. -/
def Silent (a : Appearance) (item : Item) : Prop :=
  item ≠ .colorMode ∧ a.parameters.failsGet item.parameter = true ∧
    ∀ earlier ∈ Item.all.takeWhile (· ≠ item), a.due? earlier = none

/-- Where every update is taken, only what is reported keeps an item from being restored. -/
theorem unrestored?_eq_reported? (hu : a.configuration.failsUpdate.get item = false) :
    a.unrestored? item = a.reported? item := by
  have hcounts := unconfirmed?_of_updates hu
  unfold unrestored? reported? due? sought Parameters.get
  by_cases hg : a.parameters.failsGet item.parameter = true
  · by_cases hi : item = .colorMode
    · subst hi
      simp [hg]
    · simp [hg, hi, hcounts, Item.misfit?_fallback]
  · simp only [hg, Bool.false_eq_true, if_false, hcounts, Option.or_none, false_and]
    rfl

/-- Without `Silent` items the first fault that is `reported?` is the first one that is `due?`. -/
theorem findSome?_reported (hn : ∀ item, ¬ a.Silent item) :
    Item.all.findSome? a.reported? = Item.all.findSome? a.due? := by
  -- the first fault hides nothing if no item before it is silent
  have hof : ∀ item, (∀ earlier ∈ Item.all.takeWhile (· ≠ item), a.due? earlier = none) →
      a.reported? item = a.due? item := by
    intro item hearlier
    unfold reported?
    rw [if_neg]
    rintro ⟨hunread, hi⟩
    exact hn item ⟨hi, hunread, hearlier⟩
  have hmode := hof .colorMode (by simp [Item.all])
  simp only [Item.all, List.findSome?_cons, hmode]
  cases hm : a.due? .colorMode with
  | some f => rfl
  | none =>
    have hsize := hof .fontSize (by simp [Item.all, hm])
    simp only [hsize]
    cases hs : a.due? .fontSize with
    | some f => rfl
    | none =>
      have hweight := hof .fontWeight (by simp [Item.all, hm, hs])
      simp only [hweight, List.findSome?_nil]

/-- What is `due?` of an item that cannot be read is that it cannot be read. -/
theorem due?_of_unread (hunread : a.parameters.failsGet item.parameter = true) :
    a.due? item = some .parametersUnreadable := by
  unfold due?
  rw [if_pos hunread]

/-- Of no scale is it ever `reported?` that it cannot be read. -/
theorem reported?_ne (hi : item ≠ .colorMode) : a.reported? item ≠ some .parametersUnreadable := by
  unfold reported? due?
  by_cases hg : a.parameters.failsGet item.parameter = true
  · simp [hg, hi]
  · have hempty : ∀ value, item.misfit? value ≠ some .parametersUnreadable := by
      intro value
      cases item with
      | colorMode => exact absurd rfl hi
      | fontSize => simp [Item.misfit?]
      | fontWeight => simp [Item.misfit?]
    simp [hg, hempty]

/-- Where an item is silent, it should have been reported first, and something else is, or nothing.
    -/
theorem Silent.differs (hs : a.Silent item) :
    Item.all.findSome? a.reported? ≠ Item.all.findSome? a.due? := by
  obtain ⟨hi, hunread, hearlier⟩ := hs
  have hdue := due?_of_unread hunread
  have hnot : a.reported? item = none := if_pos ⟨hunread, hi⟩
  have hsame : a.reported? .colorMode = a.due? .colorMode := if_neg fun h => h.2 rfl
  -- what comes before `item` is restored, so the first failure due is its own and is not reported
  cases item with
  | colorMode => exact absurd rfl hi
  | fontSize =>
    have hmode : a.due? .colorMode = none := hearlier .colorMode (by decide)
    simp [Item.all, hmode, hsame, hdue, hnot, reported?_ne]
  | fontWeight =>
    have hmode : a.due? .colorMode = none := hearlier .colorMode (by decide)
    have hsize : a.due? .fontSize = none := hearlier .fontSize (by decide)
    have hquiet : a.reported? .fontSize = none := by
      unfold reported?
      rw [hsize, ite_self]
    simp [Item.all, hmode, hsame, hsize, hquiet, hdue, hnot]

end Appearance

namespace Daemon

variable {item : Item} {d : Daemon}

/-! ### Where only reading fails -/

/-- Nothing fails but the reading of parameters. -/
structure OnlyReadingFails (d : Daemon) : Prop where
  update : ∀ item, d.appearance.configuration.failsUpdate.get item = false
  keep : ∀ item : Item, d.appearance.parameters.refusal? d.files item.parameter = none

/-- Restoring keeps what was stored, and if an item cannot be read, then the first item that cannot
    be restored is the answer. -/
structure Careful (d : Daemon) : Prop where
  keeps : ∀ key value, d.appearance.parameters.values.get? key = some value →
    (restore.on d).2.appearance.parameters.values.get? key = some value
  reports : (∃ item : Item, d.appearance.parameters.failsGet item.parameter = true) →
    (restore.on d).1 = settle (Item.all.findSome? d.appearance.due?)

namespace OnlyReadingFails

variable (h : d.OnlyReadingFails)
include h

/-- Where nothing fails but reading, `restoreItem` fails as `reported?` says. -/
theorem restoreItem_fault (item : Item) :
    ((restoreItem item).on d).1 = d.appearance.reported? item := by
  rw [← Appearance.unrestored?_eq_reported? (h.update item)]
  have hcomes := restoreItem_comes item d
  generalize (restoreItem item).on d = r at hcomes
  cases hcomes with
  | left j refused => exact refused.symm
  | adopted j sought fits => exact (h.keep item).trans fits.symm

/-- Where nothing fails but reading, `restore` answers with the first of what is `reported?`. -/
theorem answer : (restore.on d).1 = settle (Item.all.findSome? d.appearance.reported?) := by
  have hfaults : (fun item => ((restoreItem item).on d).1) = d.appearance.reported? :=
    funext h.restoreItem_fault
  rw [restore_answer, hfaults]

/-- A value that is `Lost` is overwritten by the fallback of its item. -/
theorem overwritten (hl : d.appearance.Lost item) :
    (restore.on d).2.appearance.parameters.values.get? item.parameter = some item.fallback := by
  obtain ⟨hi, hunread, -⟩ := hl
  -- a scale that cannot be read is sought as the base scale
  have hsought : d.appearance.sought item = .ok item.fallback := by
    unfold Appearance.sought Parameters.get
    simp only [hunread, if_true, if_neg hi]
  have hcomes := restoreItem_comes item d
  rw [(restore_alone d item).stored]
  generalize (restoreItem item).on d = r at hcomes
  cases hcomes with
  | left j refused =>
    rw [Appearance.unrestored?_eq_reported? (h.update item)] at refused
    rw [Appearance.reported?, if_pos ⟨hunread, hi⟩] at refused
    cases refused
  | adopted j sought fits =>
    rw [hsought] at sought
    obtain rfl := Except.ok.inj sought
    rw [stored_adopted_self, h.keep item]

end OnlyReadingFails

/-- A daemon whose parameters were all stored, and none of them can be read. -/
def unreadable : Daemon where
  clock := default
  processes := default
  appearance := { parameters := {
    values := .ofList [(Item.colorMode.parameter, "dark"), (Item.fontSize.parameter, "1.5"),
      (Item.fontWeight.parameter, "0.9")]
    failsGet := fun _ => true } }

/-- The scales that were stored there are gone after they could not be read once. -/
theorem not_careful_of_unreadable : unreadable.OnlyReadingFails ∧ ¬ Careful unreadable := by
  have honly : unreadable.OnlyReadingFails :=
    ⟨fun item => PerItem.get_const false item, fun _ => rfl⟩
  refine ⟨honly, fun hcareful => ?_⟩
  have hlost : unreadable.appearance.Lost .fontSize := ⟨by decide, rfl, "1.5", by decide, by decide⟩
  have hkept := hcareful.keeps Item.fontSize.parameter "1.5" (by decide)
  rw [honly.overwritten hlost] at hkept
  exact absurd hkept (by decide)

/-- What restoring comes to when nothing fails but reading: exactly the scales that are lost are
    overwritten, and exactly a silent one makes the answer a wrong one. -/
structure ReadingFailures (d : Daemon) : Prop where
  careful_iff : Careful d ↔ ∀ item, ¬ d.appearance.Lost item ∧ ¬ d.appearance.Silent item
  answer : (restore.on d).1 = settle (Item.all.findSome? d.appearance.reported?)
  overwritten : ∀ item, d.appearance.Lost item →
    (restore.on d).2.appearance.parameters.values.get? item.parameter = some item.fallback
  stored : ∀ key value, d.appearance.parameters.values.get? key = some value →
    (∀ item, d.appearance.Lost item → key ≠ item.parameter) →
    (restore.on d).2.appearance.parameters.values.get? key = some value
  filed : d.appearance.parameters.Filed d.files →
    (restore.on d).2.appearance.parameters.Filed (restore.on d).2.files

/-- **Where nothing fails but reading.** Restoring is `Careful` exactly if no item is `Lost` and
    none is `Silent`. The answer is the first fault that is `reported?`, and every item that is lost
    is overwritten by its fallback. -/
theorem careful_iff_of_onlyReadingFails (h : d.OnlyReadingFails) : ReadingFailures d where
  careful_iff := by
    constructor
    · intro hcareful item
      refine ⟨fun hlost => ?_, fun hsilent => ?_⟩
      · have hnow := h.overwritten hlost
        obtain ⟨-, -, value, hvalue, hne⟩ := hlost
        have hkept := hcareful.keeps item.parameter value hvalue
        rw [hnow] at hkept
        exact hne (Option.some.inj hkept).symm
      · -- a silent item would have been the answer
        have hreports := hcareful.reports ⟨item, hsilent.2.1⟩
        rw [h.answer] at hreports
        exact hsilent.differs (settle_injective hreports)
    · intro hnone
      refine ⟨fun key value hk => ?_, fun _ => ?_⟩
      · exact stored_restore hk fun item hlost => absurd hlost (hnone item).1
      · rw [h.answer, Appearance.findSome?_reported fun item => (hnone item).2]
  answer := h.answer
  overwritten item hl := h.overwritten hl
  stored key value hk hl := stored_restore hk hl
  filed := filed_restore

/-- A daemon of which only the font size cannot be read. -/
def halfReadable : Daemon where
  clock := default
  processes := default
  appearance :=
    { parameters := { values := .ofList [(Item.colorMode.parameter, "dark"),
        (Item.fontSize.parameter, "1.5"), (Item.fontWeight.parameter, "0.9")]
                      failsGet := fun key => key == Item.fontSize.parameter } }

/-- Restoring succeeds on `halfReadable`, of which the font size is both `Lost` and `Silent`: it is
    gone. -/
theorem careful_iff_of_halfReadable :
    halfReadable.OnlyReadingFails ∧ ¬ Careful halfReadable ∧ (restore.on halfReadable).1 = .ok () ∧
      (restore.on halfReadable).2.appearance.parameters.values.get? Item.fontSize.parameter =
          some "1" := by
  have honly : halfReadable.OnlyReadingFails :=
    ⟨fun item => PerItem.get_const false item, fun _ => rfl⟩
  have hlost : halfReadable.appearance.Lost .fontSize :=
    ⟨by decide, by decide, "1.5", by decide, by decide⟩
  have hfailures := careful_iff_of_onlyReadingFails honly
  refine ⟨honly, fun hcareful => ?_, ?_, hfailures.overwritten .fontSize hlost⟩
  · exact (hfailures.careful_iff.1 hcareful .fontSize).1 hlost
  · rw [hfailures.answer]
    decide

end Daemon

end Twilight
