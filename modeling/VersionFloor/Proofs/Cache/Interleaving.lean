import VersionFloor.Proofs.Cache.History
import VersionFloor.Proofs.Except
import VersionFloor.Proofs.FileTree.Resolution

set_option autoImplicit false

namespace VersionFloor.Cache

/--
How far a call has come. It looks for its key, loads the files, and keeps what it has loaded unless
the key is there by then; in between other calls take their steps and the files may change.
-/
inductive Stage
  | asked
  /-- The key was not there. -/
  | missed
  | loaded (changelogs : Changelogs)
  | returned (outcome : Except Error Changelogs)

namespace Stage

def loaded? : Stage → Option Changelogs
  | loaded changelogs => some changelogs
  | _ => none

def outcome? : Stage → Option (Except Error Changelogs)
  | returned outcome => some outcome
  | _ => none

end Stage

/-- A call that takes turns with others. -/
structure Loader where
  folder : Option String
  stage : Stage

namespace Loader

def key (loader : Loader) : Key :=
  loader.folder.map Path.parts

/-- What a loader brings to a key with its next step. -/
def brings? (loader : Loader) (key : Key) : Option Changelogs :=
  if loader.key = key then loader.stage.loaded? else none

/--
The next step of a call. Looking and keeping are done under a lock of the cache, loading is not.
-/
def step (loader : Loader) (cache : Cache) (tree : FileTree) : Cache × Stage :=
  match loader.stage with
  | .asked =>
    match cache.lookup (Cache.key loader.folder) with
    | some known => ({ cache with hits := cache.hits + 1 }, .returned (.ok known))
    | none => (cache, .missed)
  | .missed =>
    ({ cache with misses := cache.misses + 1 },
      match Changelogs.ofSource tree loader.folder with
      | .ok changelogs => .loaded changelogs
      | .error error => .returned (.error error))
  | .loaded changelogs =>
    let (kept, known) := cache.keep (Cache.key loader.folder) changelogs
    (kept, .returned (.ok known))
  | .returned outcome => (cache, .returned outcome)

end Loader

/-- What can happen to a cache that is shared by several calls. -/
inductive Event
  /-- A new call is made. -/
  | ask (folder : Option String)
  /-- One of the calls, by their order, takes its next step. -/
  | turn (index : Nat)
  /-- The files change. -/
  | edit (tree : FileTree)
  | clear

/-- A cache, the files as they are, and all calls that were made. -/
structure Shared where
  cache : Cache := {}
  tree : FileTree := {}
  loaders : List Loader := []

namespace Shared

def perform (shared : Shared) : Event → Shared
  | .ask folder => { shared with loaders := shared.loaders ++ [⟨folder, .asked⟩] }
  | .turn index =>
    match shared.loaders[index]? with
    | some loader =>
      let (cache, stage) := loader.step shared.cache shared.tree
      { shared with cache, loaders := shared.loaders.set index { loader with stage } }
    | none => shared
  | .edit tree => { shared with tree }
  | .clear => { shared with cache := shared.cache.clear }

def run (shared : Shared) (events : List Event) : Shared :=
  events.foldl perform shared

/-- The key of a call and what the call has returned. -/
def outcome? (shared : Shared) (index : Nat) : Option (Key × Except Error Changelogs) :=
  shared.loaders[index]?.bind fun loader => loader.stage.outcome?.map (loader.key, ·)

/--
What an event brings to a key: the changelogs of a call for the key that goes on to keep them.
-/
def brings? (shared : Shared) (key : Key) : Event → Option Changelogs
  | .turn index => shared.loaders[index]?.bind fun loader => loader.brings? key
  | _ => none

def firstBrought (key : Key) : Shared → List Event → Option Changelogs
  | _, [] => none
  | shared, event :: rest =>
    (shared.brings? key event).or (firstBrought key (shared.perform event) rest)

structure Returns (start : Shared) (events : List Event) (key : Key)
    (outcome : Except Error Changelogs) (index : Nat) : Prop where
  before : start.outcome? index = none
  after : (start.run events).outcome? index = some (key, outcome)

end Shared

theorem lookup_keep (cache : Cache) (added : Key) (loaded : Changelogs) (key : Key) :
    (cache.keep added loaded).1.lookup key =
      (cache.lookup key).or (if added = key then some loaded else none) := by
  cases held : cache.lookup added with
  | some known =>
    rw [keep, held]
    by_cases same : added = key
    · rw [← same, held, Option.some_or]
    · rw [if_neg same, Option.or_none]
  | none => rw [keep_of_absent held, lookup_withEntry]

/-- Keeping gives what is then under the key. -/
theorem lookup_keep_self (cache : Cache) (key : Key) (loaded : Changelogs) :
    (cache.keep key loaded).1.lookup key = some (cache.keep key loaded).2 := by
  cases held : cache.lookup key with
  | some known => rw [keep, held]; exact held
  | none => rw [keep_of_absent held, lookup_withEntry, held, Option.none_or, if_pos rfl]

namespace Loader

variable {loader : Loader} {folder : Option String} {cache : Cache} {tree : FileTree}

theorem step_of_known {known : Changelogs} (held : cache.lookup (Cache.key folder) = some known) :
    step ⟨folder, .asked⟩ cache tree =
      ({ cache with hits := cache.hits + 1 }, .returned (.ok known)) := by
  simp only [step, held]

theorem step_of_absent (absent : cache.lookup (Cache.key folder) = none) :
    step ⟨folder, .asked⟩ cache tree = (cache, .missed) := by
  simp only [step, absent]

theorem step_of_done {changelogs : Changelogs}
    (done : Changelogs.ofSource tree folder = .ok changelogs) :
    step ⟨folder, .missed⟩ cache tree =
      ({ cache with misses := cache.misses + 1 }, .loaded changelogs) := by
  simp only [step, done]

theorem step_of_failed {error : Error} (failed : Changelogs.ofSource tree folder = .error error) :
    step ⟨folder, .missed⟩ cache tree =
      ({ cache with misses := cache.misses + 1 }, .returned (.error error)) := by
  simp only [step, failed]

theorem step_loaded (changelogs : Changelogs) :
    step ⟨folder, .loaded changelogs⟩ cache tree =
      ((cache.keep (Cache.key folder) changelogs).1,
        .returned (.ok (cache.keep (Cache.key folder) changelogs).2)) :=
  rfl

theorem step_returned (outcome : Except Error Changelogs) :
    step ⟨folder, .returned outcome⟩ cache tree = (cache, .returned outcome) :=
  rfl

/-- A step changes what is under a key only if nothing is there, to what it brings. -/
theorem lookup_step (loader : Loader) (cache : Cache) (tree : FileTree) (key : Key) :
    (loader.step cache tree).1.lookup key = (cache.lookup key).or (loader.brings? key) := by
  obtain ⟨folder, stage⟩ := loader
  cases stage with
  | asked =>
    simp only [step, brings?, Stage.loaded?, ite_self, Option.or_none]
    split <;> rfl
  | missed =>
    simp only [step, brings?, Stage.loaded?, ite_self, Option.or_none]
    rfl
  | loaded changelogs => exact lookup_keep cache _ changelogs key
  | returned outcome => simp only [step, brings?, Stage.loaded?, ite_self, Option.or_none]

/-- After its step a call has returned what it had before, or what is then under its key. -/
theorem lookup_of_outcome {changelogs : Changelogs}
    (returned : (loader.step cache tree).2.outcome? = some (.ok changelogs)) :
    loader.stage.outcome? = some (.ok changelogs) ∨
      (loader.step cache tree).1.lookup loader.key = some changelogs := by
  obtain ⟨folder, stage⟩ := loader
  cases stage with
  | asked =>
    cases held : cache.lookup (Cache.key folder) with
    | some known =>
      rw [step_of_known held] at returned ⊢
      cases returned
      exact Or.inr held
    | none =>
      rw [step_of_absent held] at returned
      cases returned
  | missed =>
    cases outcome : Changelogs.ofSource tree folder with
    | ok loaded =>
      rw [step_of_done outcome] at returned
      cases returned
    | error error =>
      rw [step_of_failed outcome] at returned
      cases returned
  | loaded loaded =>
    rw [step_loaded] at returned ⊢
    cases returned
    exact Or.inr (lookup_keep_self cache (Cache.key folder) loaded)
  | returned outcome => exact Or.inl returned

/-- The three steps of a call, taken in a row, are the call. -/
theorem steps_eq_source (cache : Cache) (tree : FileTree) (folder : Option String) :
    let looked := step ⟨folder, .asked⟩ cache tree
    let loaded := step ⟨folder, looked.2⟩ looked.1 tree
    step ⟨folder, loaded.2⟩ loaded.1 tree =
      ((cache.source tree folder).1, .returned (cache.source tree folder).2) := by
  intro looked loaded
  change _ = ((Call.answer ⟨tree, folder⟩ cache).1,
    Stage.returned (Call.answer ⟨tree, folder⟩ cache).2)
  cases held : cache.lookup (Cache.key folder) with
  | some known =>
    have found : looked = ({ cache with hits := cache.hits + 1 }, .returned (.ok known)) :=
      step_of_known held
    simp only [loaded, found, step_returned]
    rw [@answer_of_known cache ⟨tree, folder⟩ known held]
  | none =>
    have missed : looked = (cache, .missed) := step_of_absent held
    cases outcome : Changelogs.ofSource tree folder with
    | error error =>
      simp only [loaded, missed, step_of_failed outcome, step_returned]
      rw [@answer_of_failed cache ⟨tree, folder⟩ error held outcome]
    | ok changelogs =>
      have absent : { cache with misses := cache.misses + 1 }.lookup (Cache.key folder) = none :=
        held
      simp only [loaded, missed, step_of_done outcome, step_loaded, keep_of_absent absent]
      rw [@answer_of_loaded cache ⟨tree, folder⟩ changelogs held outcome]
      rfl

end Loader

namespace Shared

variable {start shared : Shared} {event : Event} {events : List Event} {index : Nat} {key : Key}

theorem perform_turn {loader : Loader} (present : shared.loaders[index]? = some loader) :
    shared.perform (.turn index) =
      { shared with
        cache := (loader.step shared.cache shared.tree).1
        loaders := shared.loaders.set index { loader with
          stage := (loader.step shared.cache shared.tree).2 } } := by
  simp only [perform, present]

theorem perform_turn_of_absent (absent : shared.loaders[index]? = none) :
    shared.perform (.turn index) = shared := by
  simp only [perform, absent]

/--
An event other than clearing changes what is under a key only if nothing is there, to what it
brings.
-/
theorem lookup_perform (uncleared : event ≠ .clear) :
    (shared.perform event).cache.lookup key =
      (shared.cache.lookup key).or (shared.brings? key event) := by
  cases event with
  | ask folder => exact Option.or_none.symm
  | turn index =>
    cases present : shared.loaders[index]? with
    | some loader =>
      rw [perform_turn present, brings?, present, Option.bind_some]
      exact loader.lookup_step shared.cache shared.tree key
    | none =>
      rw [perform_turn_of_absent present, brings?, present, Option.bind_none, Option.or_none]
  | edit tree => exact Option.or_none.symm
  | clear => exact absurd rfl uncleared

theorem outcome?_ask (shared : Shared) (folder : Option String) (index : Nat) :
    (shared.perform (.ask folder)).outcome? index = shared.outcome? index := by
  rw [outcome?, outcome?, perform, List.getElem?_append]
  split
  · rfl
  · next beyond =>
    rw [List.getElem?_eq_none (Nat.le_of_not_lt beyond), Option.bind_none]
    cases index - shared.loaders.length <;> rfl

theorem outcome?_eq_some_iff {outcome : Except Error Changelogs} :
    shared.outcome? index = some (key, outcome) ↔
      ∃ loader, shared.loaders[index]? = some loader ∧ loader.key = key ∧
        loader.stage.outcome? = some outcome := by
  simp only [outcome?, Option.bind_eq_some_iff, Option.map_eq_some_iff, Prod.mk.injEq]
  constructor
  · rintro ⟨loader, present, _, returned, same, rfl⟩
    exact ⟨loader, present, same, returned⟩
  · rintro ⟨loader, present, same, returned⟩
    exact ⟨loader, present, outcome, returned, same, rfl⟩

/-- After an event a call has returned what it had before, or what is then under its key. -/
theorem lookup_of_outcome {changelogs : Changelogs}
    (returned : (shared.perform event).outcome? index = some (key, .ok changelogs)) :
    shared.outcome? index = some (key, .ok changelogs) ∨
      (shared.perform event).cache.lookup key = some changelogs := by
  cases event with
  | ask folder => exact Or.inl ((outcome?_ask shared folder index).symm.trans returned)
  | turn taken =>
    cases present : shared.loaders[taken]? with
    | some loader =>
      rw [perform_turn present] at returned ⊢
      by_cases same : taken = index
      · subst same
        obtain ⟨_, after, rfl, gives⟩ := outcome?_eq_some_iff.1 returned
        rw [List.getElem?_set_self (List.getElem?_eq_some_iff.1 present).1] at after
        cases after
        exact (Loader.lookup_of_outcome gives).imp_left fun before =>
          outcome?_eq_some_iff.2 ⟨loader, present, rfl, before⟩
      · rw [outcome?, List.getElem?_set_ne same] at returned
        exact Or.inl returned
    | none =>
      rw [perform_turn_of_absent present] at returned
      exact Or.inl returned
  | edit tree => exact Or.inl returned
  | clear => exact Or.inl returned

theorem run_cons (shared : Shared) (event : Event) (rest : List Event) :
    shared.run (event :: rest) = (shared.perform event).run rest := rfl

theorem run_append (shared : Shared) (earlier later : List Event) :
    shared.run (earlier ++ later) = (shared.run earlier).run later :=
  List.foldl_append

theorem run_concat (shared : Shared) (events : List Event) (event : Event) :
    shared.run (events ++ [event]) = (shared.run events).perform event :=
  run_append shared events [event]

/-- Without a clearing, a key holds what it held, or else what was first brought to it. -/
theorem lookup_run (uncleared : .clear ∉ events) :
    (shared.run events).cache.lookup key =
      (shared.cache.lookup key).or (firstBrought key shared events) := by
  induction events generalizing shared with
  | nil => exact Option.or_none.symm
  | cons event rest ih =>
    obtain ⟨here, afterwards⟩ := not_or.1 (List.mem_cons.not.1 uncleared)
    rw [run_cons, ih afterwards, lookup_perform (Ne.symm here), firstBrought, Option.or_assoc]

/-- A call that returns without a clearing in between has what is under its key at the end. -/
theorem lookup_of_returns (uncleared : .clear ∉ events) {changelogs : Changelogs}
    (returns : Returns start events key (.ok changelogs) index) :
    (start.run events).cache.lookup key = some changelogs := by
  obtain ⟨before, after⟩ := returns
  -- From the event at which the call returns on, its key keeps what is there.
  induction events using List.reverseRecOn with
  | nil => cases before.symm.trans after
  | append_singleton events event ih =>
    rw [List.mem_append, List.mem_singleton, not_or] at uncleared
    rw [run_concat] at after ⊢
    rcases lookup_of_outcome after with earlier | now
    · rw [lookup_perform (Ne.symm uncleared.2), ih uncleared.1 earlier, Option.some_or]
    · exact now

/-- Three steps in a row, with no other in between, are the whole call. -/
theorem run_turns {folder : Option String}
    (present : shared.loaders[index]? = some ⟨folder, .asked⟩) :
    shared.run [.turn index, .turn index, .turn index] =
      { shared with
        cache := (shared.cache.source shared.tree folder).1
        loaders := shared.loaders.set index
          ⟨folder, .returned (shared.cache.source shared.tree folder).2⟩ } := by
  have inRange : index < shared.loaders.length := (List.getElem?_eq_some_iff.1 present).1
  rw [run_cons, perform_turn present, run_cons, perform_turn (List.getElem?_set_self inRange),
    List.set_set, run_cons, perform_turn (List.getElem?_set_self inRange), List.set_set,
    Loader.steps_eq_source]
  rfl

/--
A cache that any number of calls use at the same time, step by step and in any order, while the
files change. As long as it is not cleared, a key holds what it held at the start, or else the first
changelogs that were brought to it. All calls for the key that succeed return these, and once there
they are not replaced.
-/
theorem concurrent_calls_agree (start : Shared) (events : List Event) (uncleared : .clear ∉ events)
    (key : Key) :
    let first := (start.cache.lookup key).or (firstBrought key start events)
    (start.run events).cache.lookup key = first ∧
    (∀ index changelogs, Returns start events key (.ok changelogs) index →
      first = some changelogs) ∧
    ∀ earlier later, earlier ++ later = events → ∀ known,
      (start.run earlier).cache.lookup key = some known →
        (start.run events).cache.lookup key = some known := by
  intro first
  have ends : (start.run events).cache.lookup key = first := lookup_run uncleared
  refine ⟨ends, ?_, ?_⟩
  · intro index changelogs returns
    rw [← ends]
    exact lookup_of_returns uncleared returns
  · rintro earlier later rfl known held
    have rest : .clear ∉ later := fun cleared => uncleared (List.mem_append_right earlier cleared)
    rw [run_append, lookup_run rest, held, Option.some_or]

/--
Two calls miss the key and load, before and after the files change; the second to load is the first
to keep.
-/
def race (folder : Option String) (changed : FileTree) : List Event :=
  [.ask folder, .ask folder, .turn 0, .turn 1, .turn 0, .edit changed, .turn 1, .turn 1]

theorem run_race {folder : Option String} {tree changed : FileTree} {first second : Changelogs}
    (loadsFirst : Changelogs.ofSource tree folder = .ok first)
    (loadsSecond : Changelogs.ofSource changed folder = .ok second) :
    run { tree } (race folder changed) =
      { cache := { entries := [(Cache.key folder, second)], misses := 2 }
        tree := changed
        loaders := [⟨folder, .loaded first⟩, ⟨folder, .returned (.ok second)⟩] } := by
  simp [race, run, perform, Loader.step, lookup, keep, loadsFirst, loadsSecond]

/-- A folder with one text in all of its changelogs. -/
def dataTree (text : String) : FileTree :=
  { entries := (["data"], .folder) :: Category.all.map fun category =>
    (["data", category.fileName], .file (.ok text)) }

def draftText : String := "\x7b\x7d"

def releasedText : String := "\x7b\"match\": \x7b\"added\": \"3.10\"\x7d\x7d"

theorem exists_load_dataTree {text : String} {names : List String}
    (holds : (Changelog.parse text).toOption.map Table.names = some names) :
    ∃ changelogs, Changelogs.ofSource (dataTree text) (some "data") = .ok changelogs ∧
      changelogs.language.names = names := by
  obtain ⟨changelog, parsed, named⟩ := Option.map_eq_some_iff.1 holds
  have reached : FileTree.Reaches (dataTree text) "data" FileTree.linkLimit ["data"] :=
    FileTree.reaches_folder (by decide) rfl
  have each (category : Category) :
      Changelogs.changelogAt (dataTree text) (Path.join "data" category.fileName) =
        .ok changelog := by
    have proper : Path.IsName category.fileName := by cases category <;> decide
    have stands : FileTree.entry? (dataTree text) (["data"] ++ [category.fileName]) =
        some (.file (.ok text)) := by
      cases category <;> rfl
    rw [Changelogs.changelogAt, FileTree.read, reached.look_file proper stands]
    simp only [bind, Except.bind, Changelog.ofText, eq_ok_of_toOption parsed]
  refine ⟨⟨changelog, changelog, changelog, changelog⟩, ?_, named⟩
  simp only [Changelogs.ofSource, Changelogs.load, each]
  rfl

/-- The call that was the first to load returns what the other one has loaded and kept. -/
theorem race_agrees :
    ∃ first second : Changelogs,
      Changelogs.ofSource (dataTree draftText) (some "data") = .ok first ∧
        first.language.names = [] ∧
      Changelogs.ofSource (dataTree releasedText) (some "data") = .ok second ∧
        second.language.names = ["match"] ∧
      let start : Shared := { tree := dataTree draftText }
      let events := race (some "data") (dataTree releasedText) ++ [.turn 0]
      let key := Cache.key (some "data")
      .clear ∉ events ∧ Returns start events key (.ok second) 0 ∧
        Returns start events key (.ok second) 1 ∧
      firstBrought key start events = some second ∧
        (start.run events).cache.lookup key = some second := by
  obtain ⟨first, loadsFirst, namesFirst⟩ := @exists_load_dataTree draftText [] (by decide +kernel)
  obtain ⟨second, loadsSecond, namesSecond⟩ :=
    @exists_load_dataTree releasedText ["match"] (by decide +kernel)
  refine ⟨first, second, loadsFirst, namesFirst, loadsSecond, namesSecond, ?_⟩
  intro start events key
  have uncleared : .clear ∉ events := by simp [events, race]
  have reached := run_race loadsFirst loadsSecond
  have ended : start.run events = _ :=
    (run_append start _ _).trans (congrArg (run · [.turn 0]) reached)
  have returnsFirst : Returns start events key (.ok second) 0 := ⟨rfl, by rw [ended]; rfl⟩
  have returnsSecond : Returns start events key (.ok second) 1 := ⟨rfl, by rw [ended]; rfl⟩
  obtain ⟨-, agree, stays⟩ := concurrent_calls_agree start events uncleared key
  have agreed := agree 0 second returnsFirst
  rw [show start.cache.lookup key = none from rfl, Option.none_or] at agreed
  refine ⟨uncleared, returnsFirst, returnsSecond, agreed, ?_⟩
  apply stays (race (some "data") (dataTree releasedText)) [.turn 0] rfl second
  rw [reached]
  rfl

end Shared

end VersionFloor.Cache
