import Twilight.Scenario.Perform

namespace Twilight

/-!
# Scenarios

* `Graph` — which daemon a scenario is about.
* `Graph.build` — make it.
* `runSteps` — perform steps, and collect what each of them answered, did and logged.
-/

open Daemon

/-- The daemon of a scenario: single collaborators over files or in memory, or all that a
    configuration asks for. -/
inductive Graph where
  | parts (settingsFile parametersFile : Option String)
  | stack (config : Config) (connected : Bool)

/-- Open a store over a file, if there is one. -/
def openPart (start : String → Act (Except Fault Unit)) (file : Option String) :
    Act (Except StartError Unit) := do
  match file with
  | none => pure (.ok ())
  | some path =>
    match ← start path with
    | .ok _ => pure (.ok ())
    | .error f => pure (.error (.fault f))

/-- Make the daemon of a scenario. -/
def Graph.build : Graph → Act (Except StartError Unit)
  | .parts settingsFile parametersFile => do
    createTimers
    match ← openPart openSettings settingsFile with
    | .error e => pure (.error e)
    | .ok _ => openPart openParameters parametersFile
  | .stack config connected => do
    match ← assemble config with
    | .error e => pure (.error e)
    | .ok _ =>
      if connected then connect
      pure (.ok ())

/-- What a step of a scenario came to: its answer, the events of its callbacks and the log, and the
    daemon afterwards. -/
structure Outcome where
  answer : Answer
  events : List Event
  log : String
  daemon : Daemon

/-- Perform one step, with events and log of its own. -/
def runStep (step : Step) : Act Outcome := do
  let answer ← step.performOuter
  let d ← get
  set { d with events := [], journal := d.journal.clear }
  pure ⟨answer, d.events.reverse, d.journal.text, d⟩

/-- Perform steps in order. -/
def runSteps : List Step → Act (List Outcome)
  | [] => pure []
  | step :: rest => do
    let outcome ← runStep step
    return outcome :: (← runSteps rest)

/-- Build the daemon of a scenario and perform its steps. -/
def runScenario (d : Daemon) (graph : Graph) (steps : List Step) :
    Except StartError (List Outcome) :=
  match graph.build.run d with
  | (.error e, _) => .error e
  | (.ok _, d) => .ok ((runSteps steps).run d).1

end Twilight
