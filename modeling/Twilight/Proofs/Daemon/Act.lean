import Twilight.Daemon.Settings

namespace Twilight

/-!
# Running actions

* `Act.on` — an action carried out on a daemon: its answer and the daemon afterwards. Its laws take
  an action apart at every `do`.
* `Daemon.Logged`, `Daemon.Rescheduled`, `Daemon.Delivered` — how far a daemon can differ from
  another one: in the journal, in the alarms as well, in what became of the statuses as well.
* `Act.Logs` — actions that change nothing but the journal.
-/

/-- Carry out an action: its answer, and the daemon afterwards. -/
def Act.on {α : Type} (act : Act α) (d : Daemon) : α × Daemon := act.run d

namespace Act

variable {α β : Type} (d : Daemon)

@[simp] theorem on_pure (a : α) : Act.on (pure a) d = (a, d) := rfl

@[simp] theorem on_bind (x : Act α) (f : α → Act β) :
    Act.on (x >>= f) d = (f (x.on d).1).on (x.on d).2 := rfl

@[simp] theorem on_get : Act.on get d = (d, d) := rfl

/-- What follows a look at the daemon is carried out with what was seen. -/
theorem on_get_bind (f : Daemon → Act β) : Act.on (get >>= f) d = (f d).on d := rfl

@[simp] theorem on_modify (f : Daemon → Daemon) : Act.on (modify f) d = ((), f d) := rfl

@[simp] theorem on_modifyGet (f : Daemon → α × Daemon) : Act.on (modifyGet f) d = f d := rfl

end Act

namespace Daemon

variable {d d₁ d₂ : Daemon}

/-! ### How far daemons differ -/

/-- `d₁` is `d` but for the journal. -/
def Logged (d d₁ : Daemon) : Prop := ∃ j, d₁ = { d with journal := j }

/-- `d₁` is `d` but for the timers, the alarms and the journal. -/
def Rescheduled (d d₁ : Daemon) : Prop :=
  ∃ t a j, d₁ = { d with timers := t, alarms := a, journal := j }

/-- `d₁` is `d` but for what is remembered of the statuses handed over, and what receiving them
    changed: the appearance with its parameters, the reports and the journal. -/
def Delivered (d d₁ : Daemon) : Prop :=
  ∃ l a f u e j, d₁ = { d with
    manager := { d.manager with lastStatus := l }
    appearance := a, files := f, updates := u, events := e, journal := j }

namespace Logged

theorem refl (d : Daemon) : Logged d d := ⟨d.journal, rfl⟩

theorem trans (h₁ : Logged d d₁) (h₂ : Logged d₁ d₂) : Logged d d₂ := by
  obtain ⟨_, rfl⟩ := h₁
  obtain ⟨j, rfl⟩ := h₂
  exact ⟨j, rfl⟩

/-- `Logged` only says that the rest is the same, so it holds both ways. -/
theorem symm (h : Logged d d₁) : Logged d₁ d := by
  obtain ⟨_, rfl⟩ := h
  exact ⟨d.journal, rfl⟩

/-- Logging is a case of `Rescheduled`, with the same timers and alarms. -/
theorem rescheduled (h : Logged d d₁) : Rescheduled d d₁ := by
  obtain ⟨j, rfl⟩ := h
  exact ⟨_, _, j, rfl⟩

/-- Logging is a case of `Delivered`, with nothing remembered or received. -/
theorem delivered (h : Logged d d₁) : Delivered d d₁ := by
  obtain ⟨j, rfl⟩ := h
  exact ⟨_, _, _, _, _, j, rfl⟩

end Logged

namespace Rescheduled

theorem refl (d : Daemon) : Rescheduled d d := (Logged.refl d).rescheduled

theorem trans (h₁ : Rescheduled d d₁) (h₂ : Rescheduled d₁ d₂) : Rescheduled d d₂ := by
  obtain ⟨_, _, _, rfl⟩ := h₁
  obtain ⟨t, a, j, rfl⟩ := h₂
  exact ⟨t, a, j, rfl⟩

variable (h : Rescheduled d d₁)
include h

theorem zone : d₁.zone = d.zone := by obtain ⟨_, _, _, rfl⟩ := h; rfl
theorem clock : d₁.clock = d.clock := by obtain ⟨_, _, _, rfl⟩ := h; rfl
theorem files : d₁.files = d.files := by obtain ⟨_, _, _, rfl⟩ := h; rfl
theorem settings : d₁.settings = d.settings := by obtain ⟨_, _, _, rfl⟩ := h; rfl
theorem manager : d₁.manager = d.manager := by obtain ⟨_, _, _, rfl⟩ := h; rfl
theorem appearance : d₁.appearance = d.appearance := by obtain ⟨_, _, _, rfl⟩ := h; rfl
theorem updates : d₁.updates = d.updates := by obtain ⟨_, _, _, rfl⟩ := h; rfl
theorem events : d₁.events = d.events := by obtain ⟨_, _, _, rfl⟩ := h; rfl

end Rescheduled

namespace Delivered

theorem refl (d : Daemon) : Delivered d d := (Logged.refl d).delivered

theorem trans (h₁ : Delivered d d₁) (h₂ : Delivered d₁ d₂) : Delivered d d₂ := by
  obtain ⟨_, _, _, _, _, _, rfl⟩ := h₁
  obtain ⟨l, a, f, u, e, j, rfl⟩ := h₂
  exact ⟨l, a, f, u, e, j, rfl⟩

variable (h : Delivered d d₁)
include h

theorem zone : d₁.zone = d.zone := by obtain ⟨_, _, _, _, _, _, rfl⟩ := h; rfl
theorem clock : d₁.clock = d.clock := by obtain ⟨_, _, _, _, _, _, rfl⟩ := h; rfl
theorem timers : d₁.timers = d.timers := by obtain ⟨_, _, _, _, _, _, rfl⟩ := h; rfl
theorem alarms : d₁.alarms = d.alarms := by obtain ⟨_, _, _, _, _, _, rfl⟩ := h; rfl
theorem settings : d₁.settings = d.settings := by obtain ⟨_, _, _, _, _, _, rfl⟩ := h; rfl
theorem states : d₁.manager.states = d.manager.states := by
  obtain ⟨_, _, _, _, _, _, rfl⟩ := h; rfl
theorem active : d₁.manager.active = d.manager.active := by
  obtain ⟨_, _, _, _, _, _, rfl⟩ := h; rfl
theorem receiver : d₁.manager.receiver = d.manager.receiver := by
  obtain ⟨_, _, _, _, _, _, rfl⟩ := h; rfl

end Delivered

end Daemon

/-! ### Actions that change little -/

namespace Act

open Daemon

variable {α β : Type}

/-- The action changes nothing but the journal. -/
def Logs (act : Act α) : Prop := ∀ d, Logged d (act.on d).2

/-- An action that only answers changes nothing at all. -/
theorem logs_pure (a : α) : Logs (pure a) := fun d => .refl d

/-- Logging a line by `log` changes nothing but the journal, whether the line is shown or not. -/
theorem logs_log (line : Log.Line) : (Daemon.log line).Logs := fun _ => ⟨_, rfl⟩

theorem logs_info (m : String) : (Daemon.info m).Logs := logs_log _
theorem logs_warn (m : String) : (Daemon.warn m).Logs := logs_log _
theorem logs_fail (m : String) : (Daemon.fail m).Logs := logs_log _
theorem logs_debug (m : String) : (Daemon.debug m).Logs := logs_log _

/-- Two actions in a row `Logs` if both do, whatever the first one answers. -/
theorem Logs.bind {x : Act α} {f : α → Act β} (hx : x.Logs) (hf : ∀ a, (f a).Logs) :
    Logs (x >>= f) := fun d => (hx d).trans (hf _ _)

/-- An action that goes on with log lines only leaves the daemon as its first part does. -/
theorem logged_bind {x : Act α} {f : α → Act β} (hf : ∀ a, (f a).Logs) (d : Daemon) :
    Logged (x.on d).2 ((x >>= f).on d).2 := hf _ _

end Act

end Twilight
