import Twilight.Alarm.Service
import Twilight.Proofs.Table

namespace Twilight

/-!
# Pending alarms

What each call on the alarm service does, said through the look-up of the pending alarms.

* `AlarmService.pending?` — the pending alarm of a number.
* `AlarmService.SamePlans` — the same calls shall fail.
* `AlarmService.ArmsOnly` — what the alarms that were armed meanwhile do.
* `AlarmService.arm_eq`, `AlarmService.cancel_eq` — a call as its answer and its effect.
* `AlarmService.pending?_takeDue` — what stays pending when everything due is taken out.
-/

open Time

namespace AlarmService

variable {α : Type}

/-- The pending alarm of a number. -/
def pending? (s : AlarmService α) (id : Nat) : Option (Alarm α) := s.queue.pending.get? id

/-- The last number given out. -/
def lastId (s : AlarmService α) : Nat := s.queue.lastId

/-- The service with other pending alarms. -/
def withPending (s : AlarmService α) (p : Table AlarmId (Alarm α)) : AlarmService α :=
  { s with queue := { s.queue with pending := p } }

@[simp] theorem pending?_withPending (s : AlarmService α) (p : Table AlarmId (Alarm α))
    (id : AlarmId) : (s.withPending p).pending? id = p.get? id := rfl

@[simp] theorem lastId_withPending (s : AlarmService α) (p : Table AlarmId (Alarm α)) :
    (s.withPending p).lastId = s.lastId := rfl

/-- The service once some of the pending alarms got lost. -/
def losing (s : AlarmService α) (gone : AlarmId → Bool) : AlarmService α :=
  s.withPending (s.queue.pending.filterMap fun id a => if gone id then none else some a)

/-- Of the alarms that get lost by `losing` nothing is pending any more, and all others are as they
    were. -/
theorem pending?_losing (s : AlarmService α) (gone : AlarmId → Bool) (id : AlarmId) :
    (s.losing gone).pending? id = if gone id then none else s.pending? id := by
  unfold losing
  rw [pending?_withPending, Table.get?_filterMap]
  show (s.pending? id).bind _ = _
  cases s.pending? id <;> simp

/-- What is pending in a service `losing` some alarms was pending before. -/
theorem pending?_of_losing {s : AlarmService α} {gone : AlarmId → Bool} {id : AlarmId} {a : Alarm α}
    (h : (s.losing gone).pending? id = some a) : s.pending? id = some a := by
  rw [pending?_losing] at h
  split at h
  · contradiction
  · exact h

/-- The same calls fail: the plans for failing calls are the same. -/
structure SamePlans (s s₁ : AlarmService α) : Prop where
  armFails : s₁.armFails = s.armFails
  cancelFails : s₁.cancelFails = s.cancelFails

theorem SamePlans.refl (s : AlarmService α) : SamePlans s s := ⟨rfl, rfl⟩

/-- Services with `SamePlans` pass them on, so the plan of a run is that of its start. -/
theorem SamePlans.trans {s s₁ s₂ : AlarmService α} (h₁ : SamePlans s s₁) (h₂ : SamePlans s₁ s₂) :
    SamePlans s s₂ :=
  ⟨h₂.armFails.trans h₁.armFails, h₂.cancelFails.trans h₁.cancelFails⟩

/-- No call to cancel ever fails. -/
def Cancels (s : AlarmService α) : Prop := ∀ call, s.cancelFails call = false

/-- No call to arm ever fails. -/
def Arms (s : AlarmService α) : Prop := ∀ call, s.armFails call = false

/-- With the same plans no call to cancel fails afterwards if none failed before, as `Cancels` says.
    -/
theorem SamePlans.cancels {s s₁ : AlarmService α} (h : SamePlans s s₁) (hs : s.Cancels) :
    s₁.Cancels := fun call => by rw [h.cancelFails]; exact hs call

/-- With the same plans no call to arm fails afterwards if none failed before, as `Arms` says. -/
theorem SamePlans.arms {s s₁ : AlarmService α} (h : SamePlans s s₁) (hs : s.Arms) :
    s₁.Arms := fun call => by rw [h.armFails]; exact hs call

/-- Of the alarms ever armed, those that are new do one of `actions`. -/
def ArmsOnly (actions : List α) (s s₁ : AlarmService α) : Prop :=
  ∀ id action, s₁.armed.get? id = some action →
    action ∈ actions ∨ s.armed.get? id = some action

/-- Where nothing was armed in between, nothing new was armed, so any `actions` will do for
    `ArmsOnly`. -/
theorem ArmsOnly.of_eq {s s₁ : AlarmService α} (h : s₁.armed = s.armed) (actions : List α) :
    ArmsOnly actions s s₁ := by
  intro id action hid
  rw [h] at hid
  exact .inr hid

/-- What is new after two stretches does one of the actions of the first stretch or of the second.
    -/
theorem ArmsOnly.trans {actions actions₁ : List α} {s s₁ s₂ : AlarmService α}
    (h₁ : ArmsOnly actions s s₁) (h₂ : ArmsOnly actions₁ s₁ s₂) :
    ArmsOnly (actions ++ actions₁) s s₂ := by
  intro id action hid
  rcases h₂ id action hid with hnew | hold
  · exact .inl (List.mem_append_right _ hnew)
  · exact (h₁ id action hold).imp_left (List.mem_append_left _)

/-! ### Arming -/

/-- One call of `arm` adds at most an alarm with its own action to those ever armed. -/
theorem armsOnly_arm (s : AlarmService α) (a : Alarm α) : ArmsOnly [a.action] s (s.arm a).2 := by
  unfold arm
  by_cases h : s.armFails s.armCalls = true
  · rw [if_pos h]
    exact .of_eq rfl _
  · rw [if_neg h]
    intro id action hid
    have hid : (s.armed.insert (s.queue.lastId + 1) a.action).get? id = some action := hid
    rw [Table.get?_insert] at hid
    split at hid
    · -- the alarm that is armed now
      exact .inl (List.mem_singleton.2 (Option.some.inj hid).symm)
    · exact .inr hid

/-- A call to arm either takes the next number for the alarm, or fails and leaves what is pending
    alone. -/
theorem arm_eq (s : AlarmService α) (a : Alarm α) :
    ∃ s₁, SamePlans s s₁ ∧
      ((s.arm a = (.ok (s.lastId + 1), s₁) ∧ s₁.lastId = s.lastId + 1 ∧
          ∀ i, s₁.pending? i = if i = s.lastId + 1 then some a else s.pending? i) ∨
        (s.armFails s.armCalls = true ∧ s.arm a = (.error .armRejected, s₁) ∧
          s₁.lastId = s.lastId ∧ ∀ i, s₁.pending? i = s.pending? i)) := by
  refine ⟨(s.arm a).2, ?_, ?_⟩
  · unfold arm
    split <;> exact ⟨rfl, rfl⟩
  · unfold arm
    -- the plan decides, and every call is counted
    by_cases h : s.armFails s.armCalls = true
    · rw [if_pos h]
      exact .inr ⟨h, rfl, rfl, fun i => rfl⟩
    · rw [if_neg h]
      exact .inl ⟨rfl, rfl, fun i => Table.get?_insert _ _ _ _⟩

/-! ### Cancelling -/

/-- Cancelling by `cancel` leaves the record of all alarms ever armed as it is. -/
theorem armed_cancel (s : AlarmService α) (id : AlarmId) : (s.cancel id).2.armed = s.armed := by
  unfold cancel
  by_cases h : s.cancelFails s.cancelCalls = true
  · rw [if_pos h]
  · rw [if_neg h]
    by_cases hp : s.queue.isPending id = true
    · rw [if_pos hp]
    · rw [if_neg hp]

/-- On a service that `Cancels`, a call to `cancel` succeeds, and takes exactly the alarm of that
    number out. -/
theorem cancel_eq {s : AlarmService α} (hs : s.Cancels) (id : AlarmId) :
    ∃ s₁, s.cancel id = (.ok (), s₁) ∧ SamePlans s s₁ ∧ s₁.lastId = s.lastId ∧
      ∀ i, s₁.pending? i = if i = id then none else s.pending? i := by
  unfold cancel
  rw [if_neg (by simp [hs s.cancelCalls])]
  by_cases h : s.queue.isPending id = true
  · rw [if_pos h]
    exact ⟨_, rfl, ⟨rfl, rfl⟩, rfl, fun i => Table.get?_erase _ _ _⟩
  · rw [if_neg h]
    refine ⟨_, rfl, ⟨rfl, rfl⟩, rfl, fun i => ?_⟩
    by_cases hi : i = id
    · -- what is not pending need not be taken out
      rw [if_pos hi, hi]
      show s.queue.pending.get? id = none
      simpa [AlarmQueue.isPending, Table.contains] using h
    · rw [if_neg hi]
      rfl

/-! ### Firing -/

/-- `takeDue` takes out the pending alarms that are due, and no others. -/
theorem mem_takeDue {z : Zone} {s : AlarmService α} {now : Moment} {id : AlarmId} {a : Alarm α} :
    (id, a) ∈ (s.takeDue z now).1 ↔ s.pending? id = some a ∧ a.isDue now = true := by
  show (id, a) ∈ s.queue.pending.entries.filter (fun p => p.2.isDue now) ↔ _
  rw [List.mem_filter, ← Table.get?_eq_some_iff]
  rfl

/-- What stays pending: what is not due, and what repeats. -/
theorem pending?_takeDue (z : Zone) (s : AlarmService α) (now : Moment) (id : AlarmId) :
    (s.takeDue z now).2.pending? id =
      (s.pending? id).bind fun a => if a.isDue now then a.next? z now else some a :=
  Table.get?_filterMap _ _ _

/-- Where `takeDue` finds nothing, no pending alarm `isDue`. -/
theorem not_isDue_of_takeDue {z : Zone} {s : AlarmService α} {now : Moment}
    (hnone : (s.takeDue z now).1 = []) {id : Nat} {a : Alarm α} (ha : s.pending? id = some a) :
    ¬ a.isDue now = true := by
  intro hdue
  have hmem := (mem_takeDue (z := z)).2 ⟨ha, hdue⟩
  rw [hnone] at hmem
  exact List.not_mem_nil hmem

/-- Where `takeDue` finds nothing, everything stays pending as it is. -/
theorem pending?_takeDue_of_nothing {z : Zone} {s : AlarmService α} {now : Moment}
    (hnone : (s.takeDue z now).1 = []) (id : Nat) :
    (s.takeDue z now).2.pending? id = s.pending? id := by
  rw [pending?_takeDue]
  cases ha : s.pending? id with
  | none => rfl
  | some a => exact if_neg (not_isDue_of_takeDue hnone ha)

/-- Taking out what is due does not touch the plans for failing calls. -/
theorem samePlans_takeDue (z : Zone) (s : AlarmService α) (now : Moment) :
    SamePlans s (s.takeDue z now).2 := ⟨rfl, rfl⟩

/-- An alarm that is pending after `takeDue` was so before, perhaps with another trigger, and does
    the same. -/
theorem action_of_pending?_takeDue {z : Zone} {s : AlarmService α} {now : Moment} {id : AlarmId}
    {a : Alarm α} (h : (s.takeDue z now).2.pending? id = some a) :
    ∃ b, s.pending? id = some b ∧ b.action = a.action := by
  rw [pending?_takeDue] at h
  obtain ⟨b, hb, hnext⟩ := Option.bind_eq_some_iff.1 h
  refine ⟨b, hb, ?_⟩
  split at hnext
  · obtain ⟨_, _, rfl⟩ := Option.map_eq_some_iff.1 hnext
    rfl
  · rw [Option.some.inj hnext]

end AlarmService

end Twilight
