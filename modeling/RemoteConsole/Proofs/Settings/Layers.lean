import Mathlib.Data.List.Induction
import RemoteConsole.Settings.Discovery

/-!
# Layers of settings

A search looks at its places one after the other and lays what it finds at each (`foundAt`) over
what it had found before (`Found.look_eq`). To lay one over the other is associative, so what is
found at some places after others is found there alone and then laid over the rest
(`search_append`). It follows that every section is that of the last layer that loads and has it
(`IsSection.fromLast_search`), and that a layer that does not load might as well not be there. The
main statement is `layered_search`.
-/

namespace RemoteConsole

namespace Settings

variable {files : Files} {path : String} {s : Settings} {e : LoadError}

/-- The warnings about a place with a given fault: one if there is a file. -/
def warningsAbout (files : Files) (path : String) (e : LoadError) : List String :=
  if (files path).isSome then ["Failed to load " ++ path ++ ": " ++ e.message] else []

/-- What is found at a single place. -/
def foundAt (files : Files) (path : String) : Found :=
  match load files path with
  | .ok s => { settings := s, sources := [⟨path, true⟩] }
  | .error e => { sources := [⟨path, false⟩], warnings := warningsAbout files path e }

namespace Found

/-- What was found last over what was found before. -/
def after (upper lower : Found) : Found where
  settings := upper.settings.onto lower.settings
  sources := lower.sources ++ upper.sources
  warnings := lower.warnings ++ upper.warnings

theorem after_assoc (f g h : Found) : (f.after g).after h = f.after (g.after h) := by
  simp [after, onto_assoc]

@[simp] theorem after_empty (f : Found) : f.after {} = f := by simp [after]

@[simp] theorem empty_after (f : Found) : ({} : Found).after f = f := by simp [after]

theorem look_eq (files : Files) (f : Found) (path : String) :
    f.look files path = (foundAt files path).after f := by
  cases hfile : files path with
  | none => simp [look, foundAt, load, warningsAbout, after, hfile]
  | some bytes =>
      cases hread : ofBytes path bytes <;>
        simp [look, foundAt, load, warningsAbout, after, hfile, hread]

end Found

theorem foundAt_of_load_eq_ok (h : load files path = .ok s) :
    foundAt files path = { settings := s, sources := [⟨path, true⟩] } := by
  rw [foundAt, h]

theorem foundAt_of_load_eq_error (h : load files path = .error e) :
    foundAt files path =
      { sources := [⟨path, false⟩], warnings := warningsAbout files path e } := by
  rw [foundAt, h]

theorem search_append_singleton (files : Files) (paths : List String) (path : String) :
    search files (paths ++ [path]) = (foundAt files path).after (search files paths) := by
  rw [search, List.foldl_append, ← search]
  exact Found.look_eq files _ path

/-- To look at more places is to look at them alone and to lay what is found there over the
rest. -/
theorem search_append (files : Files) (paths later : List String) :
    search files (paths ++ later) = (search files later).after (search files paths) := by
  induction later using List.reverseRecOn with
  | nil =>
      rw [List.append_nil]
      exact (Found.empty_after _).symm
  | append_singleton later path ih =>
      rw [← List.append_assoc, search_append_singleton, search_append_singleton, ih,
        Found.after_assoc]

theorem search_append_cons (files : Files) (paths : List String) (path : String)
    (later : List String) :
    search files (paths ++ path :: later) =
      (search files later).after ((foundAt files path).after (search files paths)) := by
  rw [List.append_cons, search_append, search_append_singleton]

/-- A part of the settings that an upper layer replaces as a whole. -/
structure IsSection {α : Type} (part : Settings → Option α) : Prop where
  empty : part {} = none
  onto : ∀ upper lower, part (upper.onto lower) = (part upper).or (part lower)

theorem isSection_server : IsSection server? := ⟨rfl, fun _ _ => Option.orElse_eq_or⟩

theorem isSection_client : IsSection client? := ⟨rfl, fun _ _ => Option.orElse_eq_or⟩

theorem isSection_logging : IsSection logging? := ⟨rfl, fun _ _ => Option.orElse_eq_or⟩

section Sections

variable {α : Type} {part : Settings → Option α} {paths : List String} {value : Option α}

/-- A layer does not load, or it does not have the section. -/
def Lacks (files : Files) (part : Settings → Option α) (path : String) : Prop :=
  ∀ s, load files path = .ok s → part s = none

/-- The section of the last layer that loads and has it, or none if there is no such layer. -/
inductive FromLast (files : Files) (part : Settings → Option α) (paths : List String) :
    Option α → Prop
  | set {earlier later : List String} {path : String} {s : Settings} {v : α}
      (hpaths : paths = earlier ++ path :: later) (hload : load files path = .ok s)
      (hpart : part s = some v) (hlater : ∀ q ∈ later, Lacks files part q) :
      FromLast files part paths (some v)
  | unset (h : ∀ q ∈ paths, Lacks files part q) : FromLast files part paths none

/-- One more layer without the section changes nothing. -/
theorem FromLast.append_of_lacks (h : FromLast files part paths value)
    (hpath : Lacks files part path) : FromLast files part (paths ++ [path]) value := by
  cases h with
  | @set earlier later path' s v hpaths hload hpart hlater =>
      have hsplit : paths ++ [path] = earlier ++ path' :: (later ++ [path]) := by simp [hpaths]
      refine .set hsplit hload hpart fun q hq => ?_
      rcases List.mem_append.1 hq with hq | hq
      · exact hlater q hq
      · rwa [List.mem_singleton.1 hq]
  | unset h =>
      refine .unset fun q hq => ?_
      rcases List.mem_append.1 hq with hq | hq
      · exact h q hq
      · rwa [List.mem_singleton.1 hq]

theorem IsSection.fromLast_search (h : IsSection part) (files : Files) (paths : List String) :
    FromLast files part paths (part (search files paths).settings) := by
  induction paths using List.reverseRecOn with
  | nil =>
      rw [show (search files []).settings = {} from rfl, h.empty]
      exact .unset nofun
  | append_singleton paths path ih =>
      rw [search_append_singleton, Found.after, h.onto]
      cases hload : load files path with
      | error e =>
          rw [foundAt_of_load_eq_error hload, h.empty, Option.none_or]
          exact ih.append_of_lacks fun s hs => by simp [hload] at hs
      | ok s =>
          rw [foundAt_of_load_eq_ok hload]
          cases hpart : part s with
          | some v => exact .set rfl hload hpart nofun
          | none =>
              refine ih.append_of_lacks fun s' hs' => ?_
              rw [hload] at hs'
              rwa [← Except.ok.inj hs']

end Sections

theorem sources_search (files : Files) (paths : List String) :
    (search files paths).sources = paths.map fun path => ⟨path, (load files path).isOk⟩ := by
  induction paths using List.reverseRecOn with
  | nil => rfl
  | append_singleton paths path ih =>
      rw [search_append_singleton, Found.after, ih, List.map_append]
      cases hload : load files path with
      | error e => simp [foundAt_of_load_eq_error hload, hload, Except.isOk, Except.toBool]
      | ok s => simp [foundAt_of_load_eq_ok hload, hload, Except.isOk, Except.toBool]

theorem loadedFrom_search (files : Files) (paths : List String) :
    (search files paths).loadedFrom = paths.filter fun path => (load files path).isOk := by
  rw [Found.loadedFrom, sources_search]
  simp [List.filter_map, Function.comp_def]

/-- The layers that load make the settings alone. -/
theorem settings_search_filter (files : Files) (paths : List String) :
    (search files (paths.filter fun path => (load files path).isOk)).settings =
      (search files paths).settings := by
  induction paths using List.reverseRecOn with
  | nil => rfl
  | append_singleton paths path ih =>
      rw [List.filter_append, search_append, search_append_singleton, Found.after, Found.after, ih]
      cases hload : load files path with
      | error e => simp [foundAt_of_load_eq_error hload, hload, Except.isOk, Except.toBool, search]
      | ok s =>
          have hone : search files [path] = foundAt files path := by
            rw [← List.nil_append [path], search_append_singleton]
            exact Found.after_empty _
          simp [hload, Except.isOk, Except.toBool, hone]

/-- Neighbouring layers may be put together first. -/
theorem settings_search_flatten (files : Files) (groups : List (List String)) :
    (search files groups.flatten).settings =
      groups.foldl (fun lower group => (search files group).settings.onto lower) {} := by
  induction groups using List.reverseRecOn with
  | nil => rfl
  | append_singleton groups group ih =>
      rw [List.flatten_append, List.flatten_singleton, search_append, List.foldl_append, ← ih]
      rfl

/-- What a search comes to, layer by layer. -/
structure Layered (files : Files) (paths : List String) (found : Found) : Prop where
  server : FromLast files server? paths found.settings.server?
  client : FromLast files client? paths found.settings.client?
  logging : FromLast files logging? paths found.settings.logging?
  /-- A layer that does not load is as if it were not there, but for a warning if it is a file. -/
  broken : ∀ earlier path later e, paths = earlier ++ path :: later → load files path = .error e →
    (search files (earlier ++ [path])).settings = (search files earlier).settings ∧
      found.settings = (search files (earlier ++ later)).settings ∧
      found.warnings =
        (search files earlier).warnings ++
          (if (files path).isSome then ["Failed to load " ++ path ++ ": " ++ e.message] else []) ++
          (search files later).warnings
  sources : found.sources = paths.map fun path => ⟨path, (load files path).isOk⟩
  /-- The layers that are marked as loaded make the settings alone. -/
  contributed : (search files found.loadedFrom).settings = found.settings
  later_first : ∀ earlier later, paths = earlier ++ later →
    found.settings = (search files later).settings.onto (search files earlier).settings
  grouped : ∀ groups : List (List String), paths = groups.flatten →
    found.settings =
      groups.foldl (fun lower group => (search files group).settings.onto lower) {}

/-- Each section of the settings that are found is that of the last layer that loads and has it. A
layer that does not load changes nothing but the warnings, the marks say which layers count, and
any layers next to each other may be put together first. -/
theorem layered_search (files : Files) (paths : List String) :
    Layered files paths (search files paths) where
  server := isSection_server.fromLast_search files paths
  client := isSection_client.fromLast_search files paths
  logging := isSection_logging.fromLast_search files paths
  broken := by
    rintro earlier path later e rfl hload
    rw [search_append_singleton, search_append_cons, search_append,
      foundAt_of_load_eq_error hload]
    exact ⟨rfl, rfl, rfl⟩
  sources := sources_search files paths
  contributed := by rw [loadedFrom_search, settings_search_filter]
  later_first := by
    rintro earlier later rfl
    rw [search_append]
    rfl
  grouped := by
    rintro groups rfl
    exact settings_search_flatten files groups

end Settings

end RemoteConsole
