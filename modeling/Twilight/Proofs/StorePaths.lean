import Twilight.Config.Basic
import Twilight.Proofs.Files.Path

namespace Twilight

/-!
# The paths of the two stores

A configuration is refused that gives both stores the same text as a path. The stores use what the
texts mean, and two texts may mean the same; so may a text and the default of the other store.

* `Config.location?`, `Config.stateFile_location` — the components that a configured path or a
  default stands for.
* `Config.KeepsApart`, `Config.Overlap` — the stores have paths of their own; and all the ways in
  which they have not.
* `Config.StorePaths`, `Config.keepsApart_iff_of_accepted` — which configurations that are accepted
  keep the stores apart, and what becomes of the others.
-/

/-! ### Directories for state -/

namespace Environment

variable {env : Environment} {dir : String}

/-- A directory that `directoryOr?` finds is not the empty path. -/
theorem directoryOr?_ne_empty {name below : String} (hbelow : below ≠ "")
    (h : env.directoryOr? name below = some dir) : dir ≠ "" := by
  unfold directoryOr? directory? at h
  split at h
  · rename_i given hgiven
    obtain rfl := Option.some.inj h
    rintro rfl
    have habsolute := (Option.filter_eq_some_iff.1 hgiven).2
    exact absurd habsolute (by decide)
  · obtain ⟨home, -, rfl⟩ := Option.map_eq_some_iff.1 h
    exact Path.join_ne_empty hbelow home

/-- The `stateDirectory?` is never given by an empty path. -/
theorem stateDirectory?_ne_empty (h : env.stateDirectory? = some dir) : dir ≠ "" := by
  unfold stateDirectory? at h
  split at h
  · rename_i given hgiven
    exact directoryOr?_ne_empty (by decide) (hgiven.trans h)
  · exact directoryOr?_ne_empty (by decide) h

end Environment

namespace Config

open Twilight.Path

variable {c : Config} {env : Environment} {path rest name settings parameters : String}

/-! ### What texts stand for -/

/-- What follows `~/` at the front of a path. -/
def homeRest? (path : String) : Option String :=
  match path.toList with
  | '~' :: '/' :: rest => some (String.ofList rest)
  | _ => none

/-- `homeRest?` gives what follows a tilde and a slash, character by character. -/
theorem homeRest?_eq_some_iff :
    homeRest? path = some rest ↔ path.toList = '~' :: '/' :: rest.toList := by
  unfold homeRest?
  constructor
  · intro h
    split at h
    · rename_i cs hcs
      obtain rfl := Option.some.inj h
      rw [hcs, String.toList_ofList]
    · cases h
  · intro h
    simp only [h, String.ofList_toList]

/-- A path with a `homeRest?` is this rest behind a tilde and a slash. -/
theorem eq_of_homeRest? (h : homeRest? path = some rest) : path = "~" ++ "/" ++ rest := by
  apply String.toList_injective
  rw [homeRest?_eq_some_iff.1 h]
  simp

/-- What a configured path stands for, if there is a home directory where it needs one. -/
def located? (env : Environment) (path : String) : Option (List Component) :=
  match homeRest? path with
  | some rest => env.homeDirectory?.map fun home => under (components home) rest
  | none => some (components path)

/-- What a file in the daemon's own directory for state stands for. -/
def default? (env : Environment) (name : String) : Option (List Component) :=
  env.stateDirectory?.map fun dir => components dir ++ [.name "appearanced"] ++ [.name name]

/-- What a configured path, or else a default, stands for. -/
def location? (env : Environment) (configured : Option String) (name : String) :
    Option (List Component) :=
  match configured with
  | some path => located? env path
  | none => default? env name

/-- What `expandHome` makes of a configured path stands for what is `located?`, and fails where
    nothing is. -/
theorem expandHome_located (env : Environment) (path : String) :
    (expandHome env path).toOption.map components = located? env path := by
  cases hr : homeRest? path with
  | some rest =>
    have hcs := homeRest?_eq_some_iff.1 hr
    unfold expandHome located?
    simp only [hcs, hr, String.ofList_toList]
    cases env.homeDirectory? with
    | none => rfl
    | some home =>
      show some (components (join home rest)) = some (under (components home) rest)
      rw [components_join]
  | none =>
    -- a path without a tilde and a slash in front is taken as it is
    have hno : ∀ cs, path.toList ≠ '~' :: '/' :: cs := by
      intro cs hcs
      have hrest : homeRest? path = some (String.ofList cs) := by
        rw [homeRest?_eq_some_iff, hcs, String.toList_ofList]
      rw [hr] at hrest
      cases hrest
    have hplain : expandHome env path = .ok path := by
      unfold expandHome
      split
      · rename_i hcs
        exact absurd hcs (hno _)
      · rfl
    rw [hplain, located?, hr]
    rfl

/-- The file that `stateFile` gives is the one at `location?`, and there is none where that is
    missing. -/
theorem stateFile_location (env : Environment) (configured : Option String)
    (hn : components name = [.name name]) :
    (stateFile env configured name).toOption.map components = location? env configured name := by
  cases configured with
  | some path => exact expandHome_located env path
  | none =>
    unfold stateFile location? default?
    cases hdir : env.stateDirectory? with
    | none => rfl
    | some dir =>
      have hne := Environment.stateDirectory?_ne_empty hdir
      have hown_ne : join dir "appearanced" ≠ "" := join_ne_empty (by decide) dir
      have hown : components "appearanced" = [.name "appearanced"] := by decide
      show some (components (join (join dir "appearanced") name)) = some _
      rw [components_join_name hown_ne hn, components_join_name hne hown]

/-! ### Stores that share a path -/

/-- The two stores have different paths, where both have one. -/
def KeepsApart (c : Config) (env : Environment) : Prop :=
  ∀ settings parameters, c.settingsPath? env = .ok settings →
      c.parametersPath? env = .ok parameters →
    components settings ≠ components parameters

/-- Both stores have the same path: two texts stand for it, or one text stands for the default of
    the other store. -/
inductive Overlap (c : Config) (env : Environment) : Prop
  | twice {settings parameters : String} {place : List Component}
    (settingsPath : c.settingsPath = some settings)
    (parametersPath : c.parametersPath = some parameters)
    (differ : settings ≠ parameters)
    (first : located? env settings = some place) (second : located? env parameters = some place)
  | settingsOnDefault {settings : String} {place : List Component}
    (settingsPath : c.settingsPath = some settings) (parametersPath : c.parametersPath = none)
    (first : located? env settings = some place)
    (second : default? env "parameters.toml" = some place)
  | parametersOnDefault {parameters : String} {place : List Component}
    (settingsPath : c.settingsPath = none) (parametersPath : c.parametersPath = some parameters)
    (first : default? env "settings.toml" = some place)
    (second : located? env parameters = some place)

/-- What `KeepsApart` says of paths, said of what is configured. -/
theorem keepsApart_iff : c.KeepsApart env ↔ ∀ place,
    location? env c.settingsPath "settings.toml" = some place →
      location? env c.parametersPath "parameters.toml" ≠ some place := by
  have hsettings : components "settings.toml" = [.name "settings.toml"] := by decide
  have hparameters : components "parameters.toml" = [.name "parameters.toml"] := by decide
  rw [← stateFile_location env c.settingsPath hsettings,
    ← stateFile_location env c.parametersPath hparameters]
  unfold KeepsApart settingsPath? parametersPath?
  cases stateFile env c.settingsPath "settings.toml" with
  | error f => simp [Except.toOption]
  | ok settings =>
    cases stateFile env c.parametersPath "parameters.toml" with
    | error f => simp [Except.toOption]
    | ok parameters => simp [Except.toOption, eq_comm]

/-- The two places of `default?` are different, as the names of the files are. -/
theorem default?_ne {place : List Component} (h : default? env "settings.toml" = some place) :
    default? env "parameters.toml" ≠ some place := by
  intro h'
  rw [← h', default?, default?] at h
  cases hdir : env.stateDirectory? with
  | none => simp [default?, hdir] at h'
  | some dir => simp [hdir] at h

/-- The check `validate` refuses two configured paths that are the same text. -/
theorem differ_of_accepted (h : c.validate = .ok ()) (hs : c.settingsPath = some settings)
    (hp : c.parametersPath = some parameters) : settings ≠ parameters := by
  rintro rfl
  unfold validate at h
  rw [hs, hp] at h
  simp only [if_true] at h
  split_ifs at h

/-- Under an accepted configuration the two stores are kept apart exactly where no `Overlap` brings
    them together. The cases are those of which paths are configured. -/
theorem keepsApart_iff_not_overlap (h : c.validate = .ok ()) :
    c.KeepsApart env ↔ ¬ c.Overlap env := by
  rw [keepsApart_iff]
  constructor
  · intro hapart hoverlap
    cases hoverlap with
    | twice hs hp differ first second =>
      rw [hs, hp] at hapart
      exact hapart _ first second
    | settingsOnDefault hs hp first second =>
      rw [hs, hp] at hapart
      exact hapart _ first second
    | parametersOnDefault hs hp first second =>
      rw [hs, hp] at hapart
      exact hapart _ first second
  · -- which of the two are configured decides how they could overlap
    intro hno place first second
    cases hs : c.settingsPath with
    | some settings =>
      rw [hs] at first
      cases hp : c.parametersPath with
      | some parameters =>
        rw [hp] at second
        exact hno (.twice hs hp (differ_of_accepted h hs hp) first second)
      | none =>
        rw [hp] at second
        exact hno (.settingsOnDefault hs hp first second)
    | none =>
      rw [hs] at first
      cases hp : c.parametersPath with
      | some parameters =>
        rw [hp] at second
        exact hno (.parametersOnDefault hs hp first second)
      | none =>
        rw [hp] at second
        exact default?_ne first second

/-! ### Texts that cannot stand for the same -/

/-- Behind `~/` in front of a plain path, every piece counts. -/
theorem counts_of_homeRest? (hplain : Plain path) (hr : homeRest? path = some rest) :
    ∀ piece ∈ pieces rest, piece ≠ "" ∧ piece ≠ "." := by
  have hcounts := hplain.counts
  rw [eq_of_homeRest? hr, pieces_append] at hcounts
  exact hcounts

/-- Two plain paths stand for different components if both start with `~/`, or none of them does. -/
theorem located?_injective {other : String} (hplain : Plain path) (hother : Plain other)
    (halike : (homeRest? path).isSome = (homeRest? other).isSome) {place : List Component}
    (h : located? env path = some place) (h' : located? env other = some place) : path = other := by
  unfold located? at h h'
  cases hr : homeRest? path with
  | none =>
    cases hr' : homeRest? other with
    | some rest' => simp [hr, hr'] at halike
    | none =>
      rw [hr] at h
      rw [hr'] at h'
      exact eq_of_components_eq hplain hother (Option.some.inj (h.trans h'.symm))
  | some rest =>
    cases hr' : homeRest? other with
    | none => simp [hr, hr'] at halike
    | some rest' =>
      simp only [hr] at h
      simp only [hr'] at h'
      obtain ⟨home, hhome, rfl⟩ := Option.map_eq_some_iff.1 h
      obtain ⟨home', hhome', hsame⟩ := Option.map_eq_some_iff.1 h'
      obtain rfl := Option.some.inj (hhome.symm.trans hhome')
      rw [under_of_counts (counts_of_homeRest? hplain hr),
        under_of_counts (counts_of_homeRest? hother hr')] at hsame
      -- both are below the same home directory, so they differ in what follows it
      have hrest := List.map_injective_iff.2 word_injective (List.append_cancel_left hsame)
      rw [eq_of_homeRest? hr, eq_of_homeRest? hr', pieces_injective hrest]

/-! ### Accepted configurations -/

/-- Wherever a file was replaced under the one path, it is what the other one leads to, if it leads
    anywhere. -/
def Overwrites (a b : String) : Prop :=
  ∀ (fs fs₁ : FileSystem) (text : String) (place : Place), fs.replace a text = (.ok (), fs₁) →
    fs₁.place? b = some place → ∃ id, fs₁.lookup? b = some (.file id (.text text))

/-- Which configurations keep the stores apart: those that do not overlap. Without any path
    configured they do, and with two plain ones that both start with `~/`, or neither. Otherwise the
    stores rewrite the same file. -/
structure StorePaths (c : Config) (env : Environment) : Prop where
  apart_iff : c.KeepsApart env ↔ ¬ c.Overlap env
  defaults : c.settingsPath = none → c.parametersPath = none → c.KeepsApart env
  plain : ∀ settings parameters, c.settingsPath = some settings →
      c.parametersPath = some parameters →
    Plain settings → Plain parameters →
    (homeRest? settings).isSome = (homeRest? parameters).isSome → c.KeepsApart env
  shared : c.Overlap env → ∃ settings parameters, c.settingsPath? env = .ok settings ∧
    c.parametersPath? env = .ok parameters ∧ Overwrites settings parameters ∧
        Overwrites parameters settings

/-- **When the stores are kept apart.** A configuration that `validate` accepts keeps its two stores
    apart exactly if it has no `Overlap`, in whichever environment: without any path configured, or
    with two plain ones of the same kind, it has none, and where it has one the stores rewrite the
    same file. -/
theorem keepsApart_iff_of_accepted (h : c.validate = .ok ()) (env : Environment) :
    StorePaths c env where
  apart_iff := keepsApart_iff_not_overlap h
  defaults hs hp := by
    rw [keepsApart_iff, hs, hp]
    exact fun place first => default?_ne first
  plain settings parameters hs hp hsettings hparameters halike := by
    rw [keepsApart_iff, hs, hp]
    intro place first second
    exact differ_of_accepted h hs hp (located?_injective hsettings hparameters halike first second)
  shared hoverlap := by
    have hshared := (keepsApart_iff_not_overlap h).not_left.2 hoverlap
    simp only [KeepsApart, ne_eq, not_forall, not_not] at hshared
    obtain ⟨settings, parameters, hs, hp, hsame⟩ := hshared
    exact ⟨settings, parameters, hs, hp,
      fun _ _ _ _ hr hplace => FileSystem.lookup?_of_replace_same hsame hr hplace,
      fun _ _ _ _ hr hplace => FileSystem.lookup?_of_replace_same hsame.symm hr hplace⟩

/-- A home directory, and no other variable. -/
def atHome : Environment where
  entries := .ofList [("HOME", "/home/user")]

/-- Two files below the home directory. -/
def twoFiles : Config where
  settingsPath := some "~/appearance/settings.toml"
  parametersPath := some "~/appearance/parameters.toml"

/-- The stores of `twoFiles` are kept apart, both paths being below the home directory. -/
theorem keepsApart_iff_of_twoFiles : twoFiles.validate = .ok () ∧ twoFiles.KeepsApart atHome ∧
    twoFiles.settingsPath? atHome = .ok "/home/user/appearance/settings.toml" := by
  have haccepted : twoFiles.validate = .ok () := by decide
  have hsettings : Plain "~/appearance/settings.toml" := ⟨by decide, by decide⟩
  have hparameters : Plain "~/appearance/parameters.toml" := ⟨by decide, by decide⟩
  refine ⟨haccepted, ?_, by rfl⟩
  exact (keepsApart_iff_of_accepted haccepted atHome).plain _ _ rfl rfl hsettings hparameters
      (by decide)

/-- The settings in the file that is the default for parameters. -/
def oneFile : Config where
  settingsPath := some "~/.local/state/appearanced/parameters.toml"

/-- Both stores of `oneFile` have the same path, although the configuration is accepted. -/
theorem not_keepsApart_of_oneFile : oneFile.validate = .ok () ∧ ¬ oneFile.KeepsApart atHome := by
  refine ⟨by decide, fun hapart => ?_⟩
  exact hapart "/home/user/.local/state/appearanced/parameters.toml"
    "/home/user/.local/state/appearanced/parameters.toml" rfl rfl rfl

end Config

end Twilight
