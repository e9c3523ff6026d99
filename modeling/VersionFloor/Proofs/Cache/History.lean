import Mathlib.Data.Finset.Card
import Mathlib.Data.List.DropRight
import VersionFloor.Cache

set_option autoImplicit false

namespace VersionFloor.Cache

/--
A call for the changelogs of a folder, or the built-in ones, and the files there are at that time.
-/
structure Call where
  tree : FileTree
  folder : Option String

namespace Call

def key (call : Call) : Key :=
  call.folder.map Path.parts

/-- What the files hold at the time of the call. -/
def load (call : Call) : Except Error Changelogs :=
  Changelogs.ofSource call.tree call.folder

/-- The cache after the call, and what the call gives. -/
def answer (call : Call) (cache : Cache) : Cache × Except Error Changelogs :=
  cache.source call.tree call.folder

end Call

/-- The call is a miss and gives what the files hold. -/
structure Call.Misses (call : Call) (cache : Cache) : Prop where
  hits : (call.answer cache).1.hits = cache.hits
  misses : (call.answer cache).1.misses = cache.misses + 1
  gives : (call.answer cache).2 = call.load

inductive Operation
  | get (call : Call)
  | clear

namespace Operation

def call? : Operation → Option Call
  | get call => some call
  | clear => none

def perform (cache : Cache) : Operation → Cache
  | get call => (call.answer cache).1
  | clear => cache.clear

end Operation

def afterAll (history : List Operation) : Cache :=
  history.foldl Operation.perform {}

/-- The calls since the last clearing. -/
def recent (history : List Operation) : List Call :=
  (history.rtakeWhile fun operation => operation.call?.isSome).filterMap Operation.call?

/-- The changelogs of the first successful load of a key. -/
def firstLoad (calls : List Call) (key : Key) : Option Changelogs :=
  calls.findSome? fun call => if call.key = key then call.load.toOption else none

/--
The keys of the calls whose files can be loaded; a call that is a hit adds none, as its key was
loaded before.
-/
def loadedKeys (calls : List Call) : List Key :=
  (calls.filter fun call => call.load.toOption.isSome).map Call.key

theorem afterAll_concat (history : List Operation) (operation : Operation) :
    afterAll (history ++ [operation]) = operation.perform (afterAll history) := by
  rw [afterAll, List.foldl_append]
  rfl

theorem recent_concat_get (history : List Operation) (call : Call) :
    recent (history ++ [.get call]) = recent history ++ [call] := by
  rw [recent, List.rtakeWhile_concat_pos _ _ _ rfl, List.filterMap_append]
  rfl

theorem recent_concat_clear (history : List Operation) : recent (history ++ [.clear]) = [] := by
  rw [recent, List.rtakeWhile_concat_neg _ _ _ (by decide)]
  rfl

theorem mem_recent_append {history later : List Operation} {call : Call}
    (made : call ∈ recent (history ++ later)) :
    call ∈ recent history ∨ .get call ∈ later := by
  induction later using List.reverseRecOn with
  | nil =>
    rw [List.append_nil] at made
    exact Or.inl made
  | append_singleton later operation ih =>
    rw [← List.append_assoc] at made
    cases operation with
    | clear =>
      rw [recent_concat_clear] at made
      cases made
    | get last =>
      rw [recent_concat_get, List.mem_append, List.mem_singleton] at made
      rcases made with before | rfl
      · exact (ih before).imp_right (List.mem_append_left _)
      · exact Or.inr (List.mem_append_right _ (List.mem_singleton.2 rfl))

theorem firstLoad_concat (calls : List Call) (call : Call) (key : Key) :
    firstLoad (calls ++ [call]) key =
      (firstLoad calls key).or (if call.key = key then call.load.toOption else none) := by
  rw [firstLoad, List.findSome?_append, List.findSome?_singleton]
  rfl

theorem firstLoad_eq_none_iff {calls : List Call} {key : Key} :
    firstLoad calls key = none ↔ ∀ call ∈ calls, call.key = key → call.load.toOption = none := by
  simp only [firstLoad, List.findSome?_eq_none_iff, ite_eq_right_iff]

theorem isSome_firstLoad_iff {calls : List Call} {key : Key} :
    (firstLoad calls key).isSome = true ↔ key ∈ loadedKeys calls := by
  simp only [firstLoad, List.findSome?_isSome_iff, loadedKeys, List.mem_map, List.mem_filter]
  constructor
  · rintro ⟨call, made, found⟩
    split at found
    · next same => exact ⟨call, ⟨made, found⟩, same⟩
    · cases found
  · rintro ⟨call, ⟨made, loads⟩, same⟩
    exact ⟨call, made, by rwa [if_pos same]⟩

theorem isSome_lookup_iff {cache : Cache} {key : Key} :
    (cache.lookup key).isSome = true ↔ key ∈ cache.entries.map (·.1) := by
  rw [lookup, Option.isSome_map, List.find?_isSome, List.mem_map]
  simp only [decide_eq_true_eq]

def withEntry (cache : Cache) (key : Key) (loaded : Changelogs) : Cache :=
  { cache with entries := cache.entries ++ [(key, loaded)] }

theorem lookup_withEntry (cache : Cache) (added : Key) (loaded : Changelogs) (key : Key) :
    (cache.withEntry added loaded).lookup key =
      (cache.lookup key).or (if added = key then some loaded else none) := by
  simp only [withEntry, lookup, List.find?_append, List.find?_singleton, Option.map_or,
    decide_eq_true_eq]
  split <;> rfl

theorem keep_of_absent {cache : Cache} {key : Key} (absent : cache.lookup key = none)
    (loaded : Changelogs) :
    cache.keep key loaded = (cache.withEntry key loaded, loaded) := by
  rw [keep, absent, withEntry]

variable {cache : Cache} {call : Call}

/-- A key that is there is a hit. -/
theorem answer_of_known {known : Changelogs} (held : cache.lookup call.key = some known) :
    call.answer cache = ({ cache with hits := cache.hits + 1 }, .ok known) := by
  change cache.get call.key call.load = _
  rw [get, held]

/-- A load that fails is a miss and leaves the entries alone. -/
theorem answer_of_failed {error : Error} (absent : cache.lookup call.key = none)
    (failed : call.load = .error error) :
    call.answer cache = ({ cache with misses := cache.misses + 1 }, .error error) := by
  change cache.get call.key call.load = _
  rw [get, absent, failed]

/-- A load that succeeds is a miss and is kept. -/
theorem answer_of_loaded {loaded : Changelogs} (absent : cache.lookup call.key = none)
    (done : call.load = .ok loaded) :
    call.answer cache =
      ({ cache with misses := cache.misses + 1 }.withEntry call.key loaded, .ok loaded) := by
  have missed : { cache with misses := cache.misses + 1 }.lookup call.key = none := absent
  change cache.get call.key call.load = _
  rw [get, absent, done]
  simp only [keep_of_absent missed]

theorem misses_of_absent (absent : cache.lookup call.key = none) : call.Misses cache := by
  cases outcome : call.load with
  | error error =>
    have answered := answer_of_failed absent outcome
    exact ⟨by rw [answered], by rw [answered], by rw [answered, outcome]⟩
  | ok loaded =>
    have answered := answer_of_loaded absent outcome
    exact ⟨by rw [answered]; rfl, by rw [answered]; rfl, by rw [answered, outcome]⟩

/-- The cache is what the calls since it was empty make of it. -/
structure Follows (calls : List Call) (cache : Cache) : Prop where
  counted : cache.hits + cache.misses = calls.length
  lookup_eq : ∀ key, cache.lookup key = firstLoad calls key
  distinct : (cache.entries.map (·.1)).Nodup

theorem follows_empty : Follows [] {} where
  counted := rfl
  lookup_eq _ := rfl
  distinct := List.nodup_nil

namespace Follows

variable {calls : List Call}

theorem hit {known : Changelogs} (follows : Follows calls cache)
    (held : cache.lookup call.key = some known) :
    Follows (calls ++ [call]) { cache with hits := cache.hits + 1 } where
  counted := by
    rw [List.length_append, ← follows.counted]
    exact Nat.add_right_comm cache.hits 1 cache.misses
  lookup_eq key := by
    change cache.lookup key = _
    rw [firstLoad_concat, ← follows.lookup_eq]
    by_cases same : call.key = key
    · rw [← same, held, Option.some_or]
    · rw [if_neg same, Option.or_none]
  distinct := follows.distinct

theorem failedMiss {error : Error} (follows : Follows calls cache)
    (failed : call.load = .error error) :
    Follows (calls ++ [call]) { cache with misses := cache.misses + 1 } where
  counted := by
    rw [List.length_append, ← follows.counted]
    rfl
  lookup_eq key := by
    rw [firstLoad_concat, failed, Except.toOption, ite_self, Option.or_none]
    exact follows.lookup_eq key
  distinct := follows.distinct

theorem loadedMiss {loaded : Changelogs} (follows : Follows calls cache)
    (absent : cache.lookup call.key = none) (done : call.load = .ok loaded) :
    Follows (calls ++ [call])
      ({ cache with misses := cache.misses + 1 }.withEntry call.key loaded) where
  counted := by
    rw [List.length_append, ← follows.counted]
    rfl
  lookup_eq key := by
    rw [lookup_withEntry, firstLoad_concat, done, ← follows.lookup_eq]
    rfl
  distinct := by
    have fresh : call.key ∉ cache.entries.map (·.1) := by
      rw [← isSome_lookup_iff, absent]
      exact Bool.false_ne_true
    rw [withEntry, List.map_append, List.map_singleton, ← List.concat_eq_append]
    exact follows.distinct.concat fresh

theorem answer (follows : Follows calls cache) (call : Call) :
    Follows (calls ++ [call]) (call.answer cache).1 := by
  cases held : cache.lookup call.key with
  | some known =>
    rw [answer_of_known held]
    exact follows.hit held
  | none =>
    cases outcome : call.load with
    | error error =>
      rw [answer_of_failed held outcome]
      exact follows.failedMiss outcome
    | ok loaded =>
      rw [answer_of_loaded held outcome]
      exact follows.loadedMiss held outcome

/-- The keys of the cache are those with a load. -/
theorem size_eq (follows : Follows calls cache) :
    cache.size = (loadedKeys calls).toFinset.card := by
  have same : (cache.entries.map (·.1)).toFinset = (loadedKeys calls).toFinset := by
    ext key
    rw [List.mem_toFinset, List.mem_toFinset, ← isSome_lookup_iff, ← isSome_firstLoad_iff,
      follows.lookup_eq]
  rw [← same, List.toFinset_card_of_nodup follows.distinct, List.length_map, size]

end Follows

theorem follows_afterAll (history : List Operation) :
    Follows (recent history) (afterAll history) := by
  -- From the last operation backwards: clearing forgets all calls before it.
  induction history using List.reverseRecOn with
  | nil => exact follows_empty
  | append_singleton history operation ih =>
    rw [afterAll_concat]
    cases operation with
    | get call =>
      rw [recent_concat_get]
      exact ih.answer call
    | clear =>
      rw [recent_concat_clear]
      exact follows_empty

/--
A key without a load stays so if the load of a call fails and none of the operations after it loads
the key.
-/
theorem firstLoad_after_failed {history later : List Operation} {error : Error}
    (unloaded : firstLoad (recent history) call.key = none) (failed : call.load = .error error)
    (noneLoads : ∀ other, .get other ∈ later → other.key = call.key → other.load.toOption = none) :
    firstLoad (recent (history ++ .get call :: later)) call.key = none := by
  rw [firstLoad_eq_none_iff] at unloaded ⊢
  intro other made same
  rw [List.append_cons] at made
  rcases mem_recent_append made with before | after
  · rw [recent_concat_get, List.mem_append, List.mem_singleton] at before
    rcases before with before | rfl
    · exact unloaded other before same
    · rw [failed, Except.toOption]
  · exact noneLoads other after same

/--
Of the calls since the last clearing each is a hit or a miss, and there are as many entries as keys
with a successful load. A call for such a key is a hit and gives the changelogs of the first of its
loads, whatever the files hold by then. A call for any other key is a miss and gives what the files
hold; if they give an error, the entries stay as they are, and a later call for the key loads again,
unless a load in between has succeeded.
-/
theorem calls_follow_history (history : List Operation) :
    let cache := afterAll history
    let calls := recent history
    cache.hits + cache.misses = calls.length ∧
    cache.size = (loadedKeys calls).toFinset.card ∧
    ∀ call : Call,
      (∀ first, firstLoad calls call.key = some first →
        call.answer cache = ({ cache with hits := cache.hits + 1 }, .ok first)) ∧
      (firstLoad calls call.key = none → call.Misses cache ∧
        ∀ error, call.load = .error error → (call.answer cache).1.entries = cache.entries ∧
          ∀ later,
            (∀ other, .get other ∈ later → other.key = call.key → other.load.toOption = none) →
            ∀ again : Call, again.key = call.key →
              again.Misses (afterAll (history ++ .get call :: later))) := by
  intro cache calls
  have follows : Follows calls cache := follows_afterAll history
  refine ⟨follows.counted, follows.size_eq,
    fun call => ⟨fun first loaded => ?_, fun unloaded => ?_⟩⟩
  · exact answer_of_known ((follows.lookup_eq call.key).trans loaded)
  · have absent : cache.lookup call.key = none := (follows.lookup_eq call.key).trans unloaded
    refine ⟨misses_of_absent absent, fun error failed => ⟨?_, fun later noneLoads again same => ?_⟩⟩
    · rw [answer_of_failed absent failed]
    · apply misses_of_absent
      rw [(follows_afterAll _).lookup_eq, same]
      exact firstLoad_after_failed unloaded failed noneLoads

-- Slashes more or less are one folder; a dot in front makes another key, as another folder does.
example : Call.key ⟨{}, some "data//main/"⟩ = Call.key ⟨{}, some "data/main"⟩ := by decide

example : [none, some "data", some "./data", some "data/main"].Pairwise fun first second =>
    Call.key ⟨{}, first⟩ ≠ Call.key ⟨{}, second⟩ := by decide

end VersionFloor.Cache
