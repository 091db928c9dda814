namespace Twilight

/-!
# Faults of the settings store

* `SettingsFaults` — which calls on the store fail, and what its observers are told.
* `SettingsFaultChange` — a change of some of them.
-/

/-- What happens when a store that is not ready is asked to initialize. -/
inductive Initialization where
  | becomesReady
  | staysUnready
  | fails
  deriving DecidableEq, Repr

/-- The calls that fail, by the key that they are for. -/
structure SettingsFaults where
  ready : Bool := true
  onInitialize : Initialization := .becomesReady
  failsGet : String → Bool := fun _ => false
  failsSet : String → Bool := fun _ => false
  failsRegister : String → Bool := fun _ => false
  failsUnregister : String → Bool := fun _ => false
  /-- The key that observers registered from now on are told, if not their own. -/
  toldKey : Option String := none

instance : Inhabited SettingsFaults := ⟨{}⟩

/-- New values for some of the faults. -/
structure SettingsFaultChange where
  ready : Option Bool := none
  onInitialize : Option Initialization := none
  get : Option Bool := none
  set : Option Bool := none
  unregister : Option Bool := none
  register : Option (List String) := none
  toldKey : Option (Option String) := none

/-- A fault that a call has for every key or for none. -/
def switched (change : Option Bool) (old : String → Bool) : String → Bool :=
  match change with
  | some fails => fun _ => fails
  | none => old

/-- The faults after a change. -/
def SettingsFaults.changed (f : SettingsFaults) (c : SettingsFaultChange) : SettingsFaults where
  ready := c.ready.getD f.ready
  onInitialize := c.onInitialize.getD f.onInitialize
  failsGet := switched c.get f.failsGet
  failsSet := switched c.set f.failsSet
  failsRegister := match c.register with
    | some keys => fun key => keys.contains key
    | none => f.failsRegister
  failsUnregister := switched c.unregister f.failsUnregister
  toldKey := c.toldKey.getD f.toldKey

end Twilight
