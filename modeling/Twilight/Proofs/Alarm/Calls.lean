import Twilight.Proofs.Alarm.Service

namespace Twilight

/-!
# Calls on the alarm service, one after the other

* `AlarmService.cancelEach`, `AlarmService.armBoth` — the service after calls to cancel numbers in
  order, and after calls to arm two alarms in order.
* `AlarmService.cancelFaults`, `AlarmService.cancelFinds` — the failures among such calls to cancel,
  and the services that the calls find.
* `AlarmService.armBoth_cancelEach` — numbers that were given out before can be cancelled before or
  after the arming, whichever calls fail: nobody can tell from the service.
-/

namespace AlarmService

variable {α : Type}

/-! ### Cancelling numbers in order -/

/-- The service after calls to cancel, one for each of the numbers in order. -/
def cancelEach : AlarmService α → List AlarmId → AlarmService α
  | s, [] => s
  | s, id :: ids => cancelEach (s.cancel id).2 ids

/-- The failures among these calls, in order. -/
def cancelFaults : AlarmService α → List AlarmId → List Fault
  | _, [] => []
  | s, id :: ids => (faultOf? (s.cancel id).1).toList ++ cancelFaults (s.cancel id).2 ids

/-- The services that these calls find, in order. -/
def cancelFinds : AlarmService α → List AlarmId → List (AlarmService α)
  | _, [] => []
  | s, id :: ids => s :: cancelFinds (s.cancel id).2 ids

/-! ### Arming two alarms -/

variable (s : AlarmService α)

/-- The answers to calls to arm two alarms in order, and the service afterwards. -/
def armBoth (first second : Alarm α) : Pair (Except Fault AlarmId) × AlarmService α :=
  (⟨(s.arm first).1, ((s.arm first).2.arm second).1⟩, ((s.arm first).2.arm second).2)

/-! ### What single calls keep -/

/-- Calling `cancel` gives out no number, whether the call succeeds or fails. -/
@[simp] theorem lastId_cancel (id : AlarmId) : (s.cancel id).2.lastId = s.lastId := by
  unfold cancel
  split
  · rfl
  · split <;> rfl

/-- Whether later calls to cancel fail does not depend on which alarm was cancelled by `cancel`. -/
@[simp] theorem cancelFails_cancel (id : AlarmId) :
    (s.cancel id).2.cancelFails = s.cancelFails := by
  unfold cancel
  split
  · rfl
  · split <;> rfl

/-- Whether calls to cancel fail does not depend on what was armed by `arm`. -/
@[simp] theorem cancelFails_arm (a : Alarm α) : (s.arm a).2.cancelFails = s.cancelFails := by
  unfold arm
  split <;> rfl

/-- The last number that was given out does not decrease with `arm`: a failed call gives out none.
    -/
theorem lastId_le_arm (a : Alarm α) : s.lastId ≤ (s.arm a).2.lastId := by
  unfold arm
  split
  · exact Nat.le_refl _
  · exact Nat.le_succ _

/-- Whether it fails or not, a call to `cancel` leaves what is pending under other numbers as it is.
    -/
theorem pending?_cancel_of_ne {i id : AlarmId} (hne : i ≠ id) :
    (s.cancel id).2.pending? i = s.pending? i := by
  unfold cancel
  split
  · rfl
  · split
    · exact Table.get?_erase_of_ne _ hne
    · rfl

/-- A call to arm leaves the numbers that were given out before as they are. -/
theorem pending?_arm_of_le (a : Alarm α) {i : Nat} (hi : i ≤ s.lastId) :
    (s.arm a).2.pending? i = s.pending? i := by
  unfold arm
  split
  · rfl
  · have hne : i ≠ s.queue.lastId + 1 := by
      have hle : i ≤ s.queue.lastId := hi
      omega
    show (s.queue.pending.insert (s.queue.lastId + 1) a).get? i = s.queue.pending.get? i
    exact Table.get?_insert_of_ne _ hne _

/-! ### What runs of calls keep -/

/-- Any number of calls to cancel, as in `cancelEach`, give out no number. -/
@[simp] theorem lastId_cancelEach (ids : List AlarmId) :
    (s.cancelEach ids).lastId = s.lastId := by
  induction ids generalizing s with
  | nil => rfl
  | cons id ids ih => simp [cancelEach, ih]

/-- `cancelEach` leaves what is pending under other numbers than its own as it is. -/
theorem pending?_cancelEach {ids : List AlarmId} {i : AlarmId} (hi : i ∉ ids) :
    (s.cancelEach ids).pending? i = s.pending? i := by
  induction ids generalizing s with
  | nil => rfl
  | cons id ids ih =>
    rw [List.mem_cons, not_or] at hi
    show ((s.cancel id).2.cancelEach ids).pending? i = _
    rw [ih _ hi.2, s.pending?_cancel_of_ne hi.1]

/-- Arming two alarms by `armBoth` leaves all numbers that were given out before as they are,
    pending or not. -/
theorem pending?_armBoth (a b : Alarm α) {i : Nat} (hi : i ≤ s.lastId) :
    (s.armBoth a b).2.pending? i = s.pending? i := by
  show ((s.arm a).2.arm b).2.pending? i = _
  rw [pending?_arm_of_le _ b (Nat.le_trans hi (s.lastId_le_arm a)), pending?_arm_of_le _ a hi]

/-- Whether calls to cancel fail does not depend on what was armed by `armBoth`. -/
@[simp] theorem cancelFails_armBoth (a b : Alarm α) :
    (s.armBoth a b).2.cancelFails = s.cancelFails := by
  show ((s.arm a).2.arm b).2.cancelFails = _
  rw [cancelFails_arm, cancelFails_arm]

/-- On a service that `Cancels`, the list of `cancelFaults` is empty for any numbers. -/
theorem cancelFaults_of_cancels (hs : s.Cancels) (ids : List AlarmId) :
    s.cancelFaults ids = [] := by
  induction ids generalizing s with
  | nil => rfl
  | cons id ids ih =>
    have hrest : (s.cancel id).2.Cancels := fun call => by
      rw [cancelFails_cancel]
      exact hs call
    obtain ⟨s₁, he, _⟩ := cancel_eq hs id
    show (faultOf? (s.cancel id).1).toList ++ _ = _
    rw [ih _ hrest, he]
    rfl

/-! ### Changing places -/

/-- In the queue, `cancel` of a number that was given out and `arm` can change places. A new number
    is not the one that goes. -/
theorem queue_cancel_arm (q : AlarmQueue α) (a : Alarm α) {id : Nat} (hid : id ≤ q.lastId) :
    (q.arm a).2.cancel id = ((q.cancel id).arm a).2 := by
  have hne : id ≠ q.lastId + 1 := by omega
  unfold AlarmQueue.arm AlarmQueue.cancel
  congr 1
  apply Table.ext_get
  intro i
  rw [Table.get?_erase, Table.get?_insert, Table.get?_insert, Table.get?_erase]
  by_cases hi : i = id
  · rw [if_pos hi, if_neg (by rw [hi]; exact hne), if_pos hi]
  · rw [if_neg hi, if_neg hi]

/-- `arm` pays no heed to whether a number that was given out before is still pending. -/
theorem isPending_arm (q : AlarmQueue α) (a : Alarm α) {id : Nat} (hid : id ≤ q.lastId) :
    (q.arm a).2.isPending id = q.isPending id := by
  have hne : id ≠ q.lastId + 1 := by omega
  show ((q.pending.insert (q.lastId + 1) a).get? id).isSome = _
  rw [Table.get?_insert_of_ne _ hne]
  rfl

/-- A call to arm, and a call to cancel a number that was given out before, can change places. -/
theorem arm_cancel (a : Alarm α) {id : Nat} (hid : id ≤ s.lastId) :
    (s.cancel id).2.arm a = ((s.arm a).1, ((s.arm a).2.cancel id).2) ∧
      ((s.arm a).2.cancel id).1 = (s.cancel id).1 := by
  have hqueue := queue_cancel_arm s.queue a hid
  have hpending := isPending_arm s.queue a hid
  -- the plans decide by the number of calls of each kind, which the other kind leaves alone
  unfold arm cancel
  by_cases ha : s.armFails s.armCalls = true <;> by_cases hc : s.cancelFails s.cancelCalls = true
  · simp [ha, hc]
  · by_cases hp : s.queue.isPending id = true <;> simp [ha, hc, hp]
  · simp [ha, hc]
  · by_cases hp : s.queue.isPending id = true
    · simp [ha, hc, hp, hpending, hqueue]
    · simp [ha, hc, hp, hpending]

/-- `armBoth` and `cancelEach` of numbers given out before can change places, which is why
    restarting, which arms first, comes to the same as scheduling, which cancels first. -/
theorem armBoth_cancelEach (a b : Alarm α) (ids : List AlarmId)
    (hids : ∀ i : Nat, i ∈ ids → i ≤ s.lastId) :
    (s.cancelEach ids).armBoth a b =
      ((s.armBoth a b).1, (s.armBoth a b).2.cancelEach ids) := by
  induction ids generalizing s with
  | nil => rfl
  | cons id ids ih =>
    have hid : id ≤ s.lastId := hids id List.mem_cons_self
    have hfirst := (s.arm_cancel a hid).1
    have hsecond := ((s.arm a).2.arm_cancel b (Nat.le_trans hid (s.lastId_le_arm a))).1
    have hboth : (s.cancel id).2.armBoth a b =
        ((s.armBoth a b).1, ((s.armBoth a b).2.cancel id).2) := by
      unfold armBoth
      rw [hfirst, hsecond]
    show ((s.cancel id).2.cancelEach ids).armBoth a b = _
    rw [ih _ fun i hi => by
      rw [lastId_cancel]
      exact hids i (List.mem_cons_of_mem _ hi), hboth]
    rfl

end AlarmService

end Twilight
