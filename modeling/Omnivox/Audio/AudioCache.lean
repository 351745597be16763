import Omnivox.Foundations.Recency
import Omnivox.Foundations.Bounded
import Omnivox.Audio.AudioBuffer

/-!
# The cache of decoded resources

The loader keeps decoded buffers in a hash map. Every access takes the next value
of a clock and records it with the entry, and an insertion that breaks one of two
limits removes entries with the smallest recorded value until both hold.

`Represents` relates the map to its entries in the order of their clock values.
Each operation keeps the relation (`represents_get`, `represents_insert`), so the
map is a list of entries in the order of their last access, and
`audio_cache_least_recently_used` reads its contract off that list.
-/

set_option autoImplicit false

namespace Omnivox.Audio

open Foundations

/-! ## The cache -/

/-- Maximum decoded duration retained for one resource. -/
def maxAudioDurationSecs : Nat := 30

/-- Maximum number of decoded resources retained by the shared cache. -/
def maxAudioCacheEntries : Nat := 128

/-- The size of one `f32`. -/
def sampleBytes : Nat := 4

/-- Maximum canonical PCM sample storage retained by the shared cache. -/
def maxAudioCacheSamples : Nat := 64 * 1024 * 1024 / sampleBytes

/-- The order in which a hash map is looked through: every entry, in any order. -/
structure IterationOrder (α : Type*) where
  visit : List α → List α
  perm : ∀ l, (visit l).Perm l

variable {F : Type*}

/-- The number of samples of a buffer, two a frame. -/
def sampleCount (buffer : AudioBuffer F) : Nat := 2 * buffer.length

structure CachedAudio (F : Type*) where
  buffer : AudioBuffer F
  lastUsed : Nat

structure AudioCache (F : Type*) where
  entries : List (String × CachedAudio F)
  totalSamples : Nat
  accessClock : Nat

/-- When an entry was used last. -/
def useTime (entry : String × CachedAudio F) : Nat := entry.2.lastUsed

namespace AudioCache

def default : AudioCache F where
  entries := []
  totalSamples := 0
  accessClock := 0

/-- Record a use at `clock` with the entry under `key`. -/
def usedAt (key : String) (clock : Nat) (entry : String × CachedAudio F) :
    String × CachedAudio F :=
  if entry.1 = key then (entry.1, { entry.2 with lastUsed := clock }) else entry

def get (cache : AudioCache F) (key : String) : AudioCache F × Option (AudioBuffer F) :=
  match entryUnder key cache.entries with
  | none => (cache, none)
  | some entry =>
      let clock := wrappingAdd 64 cache.accessClock 1
      ({ cache with entries := cache.entries.map (usedAt key clock), accessClock := clock },
        some entry.2.buffer)

/-- Remove the entry under `key`, if there is one, and its samples. -/
def remove (cache : AudioCache F) (key : String) : AudioCache F :=
  match entryUnder key cache.entries with
  | none => cache
  | some removed =>
      { cache with
        entries := without key cache.entries
        totalSamples := cache.totalSamples - sampleCount removed.2.buffer }

/-- Add an entry under a key that has none. -/
def add (cache : AudioCache F) (key : String) (buffer : AudioBuffer F) : AudioCache F :=
  { cache with
    entries := (key, { buffer := buffer, lastUsed := cache.accessClock }) :: cache.entries
    totalSamples := saturatingAdd usizeMax cache.totalSamples (sampleCount buffer) }

def exceeds (cache : AudioCache F) : Bool :=
  decide (cache.entries.length > maxAudioCacheEntries) ||
    decide (cache.totalSamples > maxAudioCacheSamples)

/-- The key whose last use is the earliest, the first one visited among equals. -/
def oldest (order : IterationOrder (String × CachedAudio F)) (cache : AudioCache F) :
    Option String :=
  ((order.visit cache.entries).argmin useTime).map Prod.fst

/-- The eviction loop. Each round removes one entry, so there are no more rounds
than entries. -/
def evict (order : IterationOrder (String × CachedAudio F)) : Nat → AudioCache F → AudioCache F
  | 0, cache => cache
  | rounds + 1, cache =>
      if cache.exceeds then
        match cache.oldest order with
        | none => cache
        | some key => evict order rounds (cache.remove key)
      else cache

def insert (order : IterationOrder (String × CachedAudio F)) (cache : AudioCache F) (key : String)
    (buffer : AudioBuffer F) : AudioCache F :=
  let clocked := { cache with accessClock := wrappingAdd 64 cache.accessClock 1 }
  let placed := (clocked.remove key).add key buffer
  evict order placed.entries.length placed

def clear (cache : AudioCache F) : AudioCache F :=
  { cache with entries := [], totalSamples := 0 }

end AudioCache

inductive CacheCall (F : Type*) where
  | get (key : String)
  | insert (key : String) (buffer : AudioBuffer F)
  | clear

namespace CacheCall

def isAccess : CacheCall F → Bool
  | .get _ => true
  | .insert _ _ => true
  | .clear => false

/-- An inserted buffer is no longer than what the loader retains. -/
def Short : CacheCall F → Prop
  | .get _ => True
  | .insert _ buffer => buffer.length ≤ maxAudioDurationSecs * sampleRate
  | .clear => True

end CacheCall

def AudioCache.call (order : IterationOrder (String × CachedAudio F)) (cache : AudioCache F) :
    CacheCall F → AudioCache F
  | .get key => (cache.get key).1
  | .insert key buffer => cache.insert order key buffer
  | .clear => cache.clear

/-- The cache after a sequence of calls. -/
def AudioCache.after (order : IterationOrder (String × CachedAudio F)) (calls : List (CacheCall F)) :
    AudioCache F :=
  calls.foldl (AudioCache.call order) AudioCache.default

/-! ## The list of entries by last access -/

/-- The samples of the listed buffers. -/
def samplesOf (l : List (String × AudioBuffer F)) : Nat :=
  (l.map fun entry => sampleCount entry.2).sum

/-- Both limits of the cache. -/
def withinLimits (l : List (String × AudioBuffer F)) : Bool :=
  decide (l.length ≤ maxAudioCacheEntries) && decide (samplesOf l ≤ maxAudioCacheSamples)

/-- What a call does to the list: a use moves an entry to the recent end, an
insertion puts one there and gives up old ones. -/
def recentCall (l : List (String × AudioBuffer F)) : CacheCall F → List (String × AudioBuffer F)
  | .get key => touch key l
  | .insert key buffer => placeRecent withinLimits key buffer l
  | .clear => []

def recentAfter (calls : List (CacheCall F)) : List (String × AudioBuffer F) :=
  calls.foldl recentCall []

/-- Placing `buffer` under `key` gives up the entry under `other`. -/
def GivesUp (l : List (String × AudioBuffer F)) (key : String) (buffer : AudioBuffer F)
    (other : String) : Prop :=
  other ∈ l.map Prod.fst ∧ other ∉ (placeRecent withinLimits key buffer l).map Prod.fst

instance (l : List (String × AudioBuffer F)) (key : String) (buffer : AudioBuffer F)
    (other : String) : Decidable (GivesUp l key buffer other) :=
  inferInstanceAs (Decidable (_ ∧ _))

/-- What every key was given last since it was evicted or cleared, kept along
with the list. -/
def remember (state : List (String × AudioBuffer F) × (String → Option (AudioBuffer F))) :
    CacheCall F → List (String × AudioBuffer F) × (String → Option (AudioBuffer F))
  | .get key => (touch key state.1, state.2)
  | .insert key buffer =>
      (placeRecent withinLimits key buffer state.1, fun other =>
        if other = key then some buffer
        else if GivesUp state.1 key buffer other then none
        else state.2 other)
  | .clear => ([], fun _ => none)

/-- The buffer last inserted under `key` since it was last evicted or cleared. -/
def lastInserted (calls : List (CacheCall F)) (key : String) : Option (AudioBuffer F) :=
  (calls.foldl remember ([], fun _ => none)).2 key

/-! ## The map in the order of its clock values -/

/-- What the list shows of an entry. -/
def entryView (entry : String × CachedAudio F) : String × AudioBuffer F := (entry.1, entry.2.buffer)

/-- The entries of the cache, the one used longest ago first. -/
def contents (cache : AudioCache F) : List (String × AudioBuffer F) :=
  (sortBy useTime cache.entries).map entryView

/-- `aged` lists the entries of the cache in the order of their last use. -/
structure Represents (cache : AudioCache F) (aged : List (String × CachedAudio F)) : Prop where
  perm : cache.entries.Perm aged
  keys : (aged.map Prod.fst).Nodup
  ordered : aged.Pairwise (fun first second => useTime first < useTime second)
  past : ∀ entry ∈ aged, useTime entry ≤ cache.accessClock
  total : cache.totalSamples = samplesOf (aged.map entryView)

theorem samplesOf_cons (entry : String × AudioBuffer F) (l : List (String × AudioBuffer F)) :
    samplesOf (entry :: l) = sampleCount entry.2 + samplesOf l :=
  List.sum_cons

theorem samplesOf_perm {l l' : List (String × AudioBuffer F)} (perm : l.Perm l') :
    samplesOf l = samplesOf l' :=
  (perm.map _).sum_eq

theorem withinLimits_perm {l l' : List (String × AudioBuffer F)} (perm : l.Perm l') :
    withinLimits l = withinLimits l' := by
  rw [withinLimits, withinLimits, perm.length_eq, samplesOf_perm perm]

theorem withinLimits_iff {l : List (String × AudioBuffer F)} :
    withinLimits l = true ↔
      l.length ≤ maxAudioCacheEntries ∧ samplesOf l ≤ maxAudioCacheSamples := by
  simp [withinLimits]

/-- A buffer of the retained length fits in an empty cache. -/
theorem withinLimits_singleton (key : String) {buffer : AudioBuffer F}
    (short : buffer.length ≤ maxAudioDurationSecs * sampleRate) :
    withinLimits [(key, buffer)] = true := by
  rw [withinLimits_iff]
  refine ⟨Nat.one_le_of_lt (by decide : 0 < maxAudioCacheEntries), ?_⟩
  have samples : 2 * (maxAudioDurationSecs * sampleRate) ≤ maxAudioCacheSamples := by decide
  calc samplesOf [(key, buffer)] = 2 * buffer.length := rfl
    _ ≤ 2 * (maxAudioDurationSecs * sampleRate) := Nat.mul_le_mul_left 2 short
    _ ≤ maxAudioCacheSamples := samples

namespace Represents

variable {cache : AudioCache F} {aged : List (String × CachedAudio F)}

theorem empty : Represents (AudioCache.default : AudioCache F) [] where
  perm := List.Perm.refl _
  keys := List.nodup_nil
  ordered := List.Pairwise.nil
  past := nofun
  total := rfl

/-- **The order is the one the clock values give.** -/
theorem contents_eq (represents : Represents cache aged) : contents cache = aged.map entryView := by
  have times : (aged.map useTime).Nodup := by
    rw [List.Nodup, List.pairwise_map]
    exact represents.ordered.imp Nat.ne_of_lt
  have sorted : aged.Pairwise (keyLE useTime) := represents.ordered.imp Nat.le_of_lt
  rw [contents, sortBy_eq_of_perm times represents.perm sorted]

theorem entryUnder_eq (represents : Represents cache aged) (key : String) :
    entryUnder key cache.entries = entryUnder key aged :=
  find?_key_perm ((represents.perm.map Prod.fst).nodup_iff.mpr represents.keys) represents.perm key

theorem exceeds_eq (represents : Represents cache aged) :
    cache.exceeds = !withinLimits (aged.map entryView) := by
  rw [AudioCache.exceeds, withinLimits, ← represents.total, represents.perm.length_eq,
    List.length_map, Bool.not_and, ← decide_not, ← decide_not, decide_eq_decide.mpr Nat.not_le,
    decide_eq_decide.mpr Nat.not_le]

/-- Removing a key removes its entry from the list. -/
theorem remove (represents : Represents cache aged) (key : String) :
    Represents (cache.remove key) (without key aged) := by
  have found := represents.entryUnder_eq key
  rw [AudioCache.remove]
  split
  · rename_i absent
    rw [absent] at found
    rw [without_of_absent (entryUnder_eq_none.mp found.symm)]
    exact represents
  · rename_i removed present
    rw [present] at found
    obtain ⟨member, rfl⟩ := (entryUnder_eq_some represents.keys).mp found.symm
    have parts := perm_cons_without represents.keys member
    exact {
      perm := without_perm represents.perm
      keys := represents.keys.sublist ((without_sublist _ _).map _)
      ordered := represents.ordered.sublist (without_sublist _ _)
      past := fun entry inside => represents.past entry (mem_without.mp inside).1
      total := by
        have sum := samplesOf_perm (parts.map entryView)
        rw [List.map_cons, samplesOf_cons] at sum
        change cache.totalSamples - sampleCount removed.2.buffer = _
        rw [represents.total, sum]
        exact Nat.add_sub_cancel_left _ _ }

/-- Removing the oldest entry leaves the rest. -/
theorem remove_head {entry : String × CachedAudio F} {rest : List (String × CachedAudio F)}
    (represents : Represents cache (entry :: rest)) : Represents (cache.remove entry.1) rest := by
  have removed := represents.remove entry.1
  have keys := represents.keys
  rw [List.map_cons, List.nodup_cons] at keys
  have alone : without entry.1 (entry :: rest) = rest := by
    rw [without, List.filter_cons_of_neg (by simp)]
    exact without_of_absent fun other inside same =>
      keys.1 (same ▸ List.mem_map_of_mem inside)
  rwa [alone] at removed

/-- The loop looks for the old end of the list. -/
theorem oldest_eq (represents : Represents cache aged)
    (order : IterationOrder (String × CachedAudio F)) :
    cache.oldest order = aged.head?.map Prod.fst := by
  rw [AudioCache.oldest,
    argmin_eq_head? represents.ordered ((order.perm _).trans represents.perm)]

/-- **The loop gives up old entries** until both limits hold. -/
theorem evict (represents : Represents cache aged)
    (order : IterationOrder (String × CachedAudio F)) {rounds : Nat}
    (enough : aged.length ≤ rounds) :
    Represents (cache.evict order rounds)
      (keepRecent (fun part => withinLimits (part.map entryView)) aged) := by
  induction rounds generalizing cache aged with
  | zero =>
      rw [List.length_eq_zero_iff.mp (Nat.le_zero.mp enough)] at represents ⊢
      rw [keepRecent_nil, AudioCache.evict]
      exact represents
  | succ rounds ih =>
      rw [AudioCache.evict, represents.exceeds_eq, represents.oldest_eq order]
      cases aged with
      | nil =>
          rw [keepRecent_nil]
          split <;> exact represents
      | cons entry rest =>
          rw [keepRecent_cons]
          by_cases fitting : withinLimits ((entry :: rest).map entryView)
          · rw [fitting, if_pos rfl]
            exact represents
          · rw [Bool.eq_false_of_not_eq_true fitting]
            have fewer : rest.length ≤ rounds := Nat.le_of_succ_le_succ enough
            exact ih represents.remove_head fewer

end Represents

/-! ## What a call keeps -/

theorem remove_accessClock (cache : AudioCache F) (key : String) :
    (cache.remove key).accessClock = cache.accessClock := by
  rw [AudioCache.remove]
  split <;> rfl

theorem evict_accessClock (order : IterationOrder (String × CachedAudio F)) (rounds : Nat)
    (cache : AudioCache F) : (cache.evict order rounds).accessClock = cache.accessClock := by
  induction rounds generalizing cache with
  | zero => rfl
  | succ rounds ih =>
      rw [AudioCache.evict]
      split
      · split
        · rfl
        · rw [ih, remove_accessClock]
      · rfl

/-- The cache is in the order of `aged`, keeps both limits, and its clock has
counted at most `accesses`. -/
structure Settled (cache : AudioCache F) (aged : List (String × CachedAudio F)) (accesses : Nat) :
    Prop where
  represents : Represents cache aged
  within : withinLimits (aged.map entryView) = true
  clock : cache.accessClock ≤ accesses

section Calls

variable {cache : AudioCache F} {aged : List (String × CachedAudio F)} {accesses : Nat}

theorem tick (settled : Settled cache aged accesses) (few : accesses + 1 < 2 ^ 64) :
    wrappingAdd 64 cache.accessClock 1 = cache.accessClock + 1 :=
  wrappingAdd_of_lt (Nat.lt_of_le_of_lt (Nat.succ_le_succ settled.clock) few)

/-- An entry used now is in order behind all others. -/
theorem ordered_concat {clock : Nat}
    (ordered : aged.Pairwise (fun first second => useTime first < useTime second))
    (past : ∀ entry ∈ aged, useTime entry ≤ clock) {entry : String × CachedAudio F}
    (now : useTime entry = clock + 1) :
    (aged ++ [entry]).Pairwise (fun first second => useTime first < useTime second) := by
  rw [List.pairwise_append]
  refine ⟨ordered, List.pairwise_singleton _ _, fun first inside second here => ?_⟩
  rw [List.mem_singleton.mp here, now]
  exact Nat.lt_succ_of_le (past first inside)

/-- Recording a use rearranges the entries as using the list does. -/
theorem usedAt_perm (keys : (aged.map Prod.fst).Nodup) {entry : String × CachedAudio F}
    (member : entry ∈ aged) (clock : Nat) :
    (aged.map (AudioCache.usedAt entry.1 clock)).Perm
      (without entry.1 aged ++ [(entry.1, { entry.2 with lastUsed := clock })]) := by
  have parts := (perm_cons_without keys member).map (AudioCache.usedAt entry.1 clock)
  have others : (without entry.1 aged).map (AudioCache.usedAt entry.1 clock) =
      without entry.1 aged := by
    rw [List.map_congr_left (g := id), List.map_id]
    intro other inside
    exact if_neg (mem_without.mp inside).2
  rw [List.map_cons, others, AudioCache.usedAt, if_pos rfl] at parts
  exact parts.trans (List.perm_append_singleton _ _).symm

theorem without_entryView (key : String) (aged : List (String × CachedAudio F)) :
    (without key aged).map entryView = without key (aged.map entryView) := by
  rw [without, without, List.filter_map]
  rfl

theorem entryUnder_entryView (key : String) (aged : List (String × CachedAudio F)) :
    entryUnder key (aged.map entryView) = (entryUnder key aged).map entryView := by
  rw [entryUnder, entryUnder, List.find?_map]
  rfl

/-- **A read** answers what the list holds and moves it to the recent end. -/
theorem Settled.get (settled : Settled cache aged accesses) (few : accesses + 1 < 2 ^ 64)
    (key : String) :
    (cache.get key).2 = heldUnder key (aged.map entryView) ∧
      ∃ aged', aged'.map entryView = touch key (aged.map entryView) ∧
        Settled (cache.get key).1 aged' (accesses + 1) := by
  have represents := settled.represents
  have found := represents.entryUnder_eq key
  rw [heldUnder, touch, entryUnder_entryView, AudioCache.get]
  cases present : entryUnder key aged with
  | none =>
      rw [present] at found
      rw [found]
      exact ⟨rfl, aged, rfl, represents, settled.within, Nat.le_succ_of_le settled.clock⟩
  | some entry =>
      rw [present] at found
      rw [found]
      obtain ⟨member, rfl⟩ := (entryUnder_eq_some represents.keys).mp present
      refine ⟨rfl, without entry.1 aged ++
        [(entry.1, { entry.2 with lastUsed := cache.accessClock + 1 })], ?_, ?_⟩
      · rw [List.map_append, without_entryView]
        rfl
      · rw [tick settled few]
        have parts := perm_cons_without represents.keys member
        have same : ((without entry.1 aged ++ [(entry.1, { entry.2 with
            lastUsed := cache.accessClock + 1 })]).map entryView).Perm (aged.map entryView) := by
          rw [List.map_append]
          exact (List.perm_append_singleton _ _).trans (parts.map entryView).symm
        exact {
          represents := {
            perm := (represents.perm.map _).trans (usedAt_perm represents.keys member _)
            keys := nodup_without_concat represents.keys _ _
            ordered := ordered_concat (represents.ordered.sublist (without_sublist _ _))
              (fun other inside => represents.past other (mem_without.mp inside).1) rfl
            past := by
              intro other inside
              rcases List.mem_append.mp inside with old | new
              · exact Nat.le_succ_of_le (represents.past other (mem_without.mp old).1)
              · rw [List.mem_singleton.mp new]
                exact Nat.le_refl _
            total := by rw [samplesOf_perm same]; exact represents.total }
          within := by rw [withinLimits_perm same]; exact settled.within
          clock := Nat.succ_le_succ settled.clock }

/-- **An insertion** puts the entry at the recent end and gives up old ones. -/
theorem Settled.insert (order : IterationOrder (String × CachedAudio F))
    (settled : Settled cache aged accesses) (few : accesses + 1 < 2 ^ 64) (key : String) {buffer : AudioBuffer F}
    (short : buffer.length ≤ maxAudioDurationSecs * sampleRate) :
    ∃ aged', aged'.map entryView = placeRecent withinLimits key buffer (aged.map entryView) ∧
      Settled (cache.insert order key buffer) aged' (accesses + 1) := by
  have clocked : Represents { cache with accessClock := cache.accessClock + 1 } aged :=
    { settled.represents with
      past := fun entry inside => Nat.le_succ_of_le (settled.represents.past entry inside) }
  have removed := clocked.remove key
  have earlier : ∀ entry ∈ without key aged, useTime entry ≤ cache.accessClock :=
    fun entry inside => settled.represents.past entry (mem_without.mp inside).1
  have room : samplesOf ((without key aged).map entryView) + sampleCount buffer ≤ usizeMax := by
    have part : samplesOf ((without key aged).map entryView) ≤ samplesOf (aged.map entryView) :=
      ((((without_sublist key aged).map entryView).map _).sum_le_sum fun _ _ => Nat.zero_le _)
    have alone := (withinLimits_iff.mp (withinLimits_singleton key short)).2
    have limit : maxAudioCacheSamples + maxAudioCacheSamples ≤ usizeMax := by decide
    exact (Nat.add_le_add (part.trans (withinLimits_iff.mp settled.within).2) alone).trans limit
  let entry : String × CachedAudio F :=
    (key, { buffer := buffer, lastUsed := cache.accessClock + 1 })
  have placed : Represents
      ((({ cache with accessClock := cache.accessClock + 1 } : AudioCache F).remove key).add key
        buffer) (without key aged ++ [entry]) :=
    { perm := by
        rw [AudioCache.add, remove_accessClock]
        exact (removed.perm.cons _).trans (List.perm_append_singleton _ _).symm
      keys := nodup_without_concat settled.represents.keys _ _
      ordered := ordered_concat removed.ordered earlier rfl
      past := by
        intro other inside
        rw [AudioCache.add, remove_accessClock]
        rcases List.mem_append.mp inside with old | new
        · exact Nat.le_succ_of_le (earlier other old)
        · rw [List.mem_singleton.mp new]
          exact Nat.le_refl _
      total := by
        rw [AudioCache.add, removed.total, saturatingAdd_of_le room, List.map_append,
          List.map_singleton, samplesOf_perm (List.perm_append_singleton _ _), samplesOf_cons]
        exact Nat.add_comm _ _ }
  have evicted := placed.evict order placed.perm.length_eq.ge
  refine ⟨keepRecent (fun part => withinLimits (part.map entryView)) (without key aged ++ [entry]),
    ?_, ?_, ?_, ?_⟩
  · rw [keepRecent_map (fun _ => rfl), List.map_append, without_entryView]
    rfl
  · rw [AudioCache.insert, tick settled few]
    exact evicted
  · exact keepRecent_fits (fun part => withinLimits (part.map entryView)) rfl _
  · rw [AudioCache.insert, tick settled few, evict_accessClock, AudioCache.add,
      remove_accessClock]
    exact Nat.succ_le_succ settled.clock

/-- **What one call does** to the cache and to the list. -/
theorem Settled.call (order : IterationOrder (String × CachedAudio F))
    (settled : Settled cache aged accesses) (call : CacheCall F)
    (few : accesses + (if call.isAccess then 1 else 0) < 2 ^ 64) (short : call.Short) :
    ∃ aged', aged'.map entryView = recentCall (aged.map entryView) call ∧
      Settled (cache.call order call) aged' (accesses + if call.isAccess then 1 else 0) := by
  cases call with
  | get key => exact (settled.get few key).2
  | insert key buffer => exact settled.insert order few key short
  | clear =>
      refine ⟨[], rfl, ?_, rfl, settled.clock⟩
      exact ⟨List.Perm.refl _, List.nodup_nil, List.Pairwise.nil, nofun, rfl⟩

/-- The number of reads and insertions. -/
def accessCount (calls : List (CacheCall F)) : Nat := (calls.filter CacheCall.isAccess).length

theorem accessCount_concat (calls : List (CacheCall F)) (call : CacheCall F) :
    accessCount (calls ++ [call]) = accessCount calls + if call.isAccess then 1 else 0 := by
  rw [accessCount, accessCount, List.filter_append, List.length_append]
  cases here : call.isAccess <;> simp [here]

/-- **Every run of calls** leaves a cache in the order of the list it leads to. -/
theorem settled_after (order : IterationOrder (String × CachedAudio F))
    {calls : List (CacheCall F)} (few : accessCount calls < 2 ^ 64)
    (short : ∀ call ∈ calls, call.Short) :
    ∃ aged, aged.map entryView = recentAfter calls ∧
      Settled (AudioCache.after order calls) aged (accessCount calls) := by
  induction calls using List.reverseRecOn with
  | nil => exact ⟨[], rfl, Represents.empty, rfl, Nat.le_refl _⟩
  | append_singleton calls call ih =>
      rw [accessCount_concat] at few ⊢
      obtain ⟨aged, listed, settled⟩ :=
        ih (Nat.lt_of_le_of_lt (Nat.le_add_right _ _) few)
          (fun other inside => short other (List.mem_append_left _ inside))
      obtain ⟨aged', listed', settled'⟩ := settled.call order call few
        (short call (List.mem_append_right _ (List.mem_singleton_self _)))
      refine ⟨aged', ?_, ?_⟩
      · rw [listed', listed, recentAfter, recentAfter, List.foldl_append]
        rfl
      · rw [AudioCache.after, List.foldl_append]
        exact settled'

end Calls

/-! ## What a key was given last -/

/-- What is remembered of every key is what the list holds under it. -/
structure Remembered (calls : List (CacheCall F))
    (state : List (String × AudioBuffer F) × (String → Option (AudioBuffer F))) : Prop where
  listed : state.1 = recentAfter calls
  distinct : (state.1.map Prod.fst).Nodup
  held : ∀ key, heldUnder key state.1 = state.2 key

theorem Remembered.call {calls : List (CacheCall F)}
    {state : List (String × AudioBuffer F) × (String → Option (AudioBuffer F))}
    (remembered : Remembered calls state) (call : CacheCall F) (short : call.Short) :
    Remembered (calls ++ [call]) (remember state call) := by
  have listed : recentCall state.1 call = recentAfter (calls ++ [call]) := by
    rw [remembered.listed, recentAfter, recentAfter, List.foldl_append]
    rfl
  cases call with
  | get key =>
      refine ⟨listed, touch_distinct remembered.distinct key, fun other => ?_⟩
      rw [remember, heldUnder_touch remembered.distinct]
      exact remembered.held other
  | insert key buffer =>
      refine ⟨listed, placeRecent_distinct remembered.distinct, fun other => ?_⟩
      rw [remember, heldUnder_placeRecent remembered.distinct (withinLimits_singleton key short)]
      dsimp only
      split
      · rfl
      · by_cases kept : other ∈ (placeRecent withinLimits key buffer state.1).map Prod.fst
        · rw [if_pos kept, if_neg fun gone : GivesUp _ _ _ _ => gone.2 kept]
          exact remembered.held other
        · rw [if_neg kept]
          by_cases there : other ∈ state.1.map Prod.fst
          · rw [if_pos (show GivesUp _ _ _ _ from ⟨there, kept⟩)]
          · rw [if_neg fun gone : GivesUp _ _ _ _ => there gone.1, ← remembered.held other,
              heldUnder, entryUnder_eq_none.mpr]
            · rfl
            · intro entry member same
              exact there (same ▸ List.mem_map_of_mem member)
  | clear => exact ⟨listed, List.nodup_nil, fun _ => rfl⟩

theorem remembered_after {calls : List (CacheCall F)} (short : ∀ call ∈ calls, call.Short) :
    Remembered calls (calls.foldl remember ([], fun _ => none)) := by
  induction calls using List.reverseRecOn with
  | nil => exact ⟨rfl, List.nodup_nil, fun _ => rfl⟩
  | append_singleton calls call ih =>
      rw [List.foldl_append]
      exact (ih fun other inside => short other (List.mem_append_left _ inside)).call call
        (short call (List.mem_append_right _ (List.mem_singleton_self _)))

/-! ## Least recently used -/

/-- After `calls` the cache is the list of entries in the order of their last
access. -/
structure LeastRecentlyUsed (order : IterationOrder (String × CachedAudio F))
    (calls : List (CacheCall F)) : Prop where
  listed : contents (AudioCache.after order calls) = recentAfter calls
  found : ∀ key, ((AudioCache.after order calls).get key).2 = lastInserted calls key
  used : ∀ key, contents ((AudioCache.after order calls).get key).1 = touch key (recentAfter calls)
  inserted : ∀ key buffer, (CacheCall.insert key buffer).Short →
    ∃ kept, kept <:+ without key (recentAfter calls) ∧
      contents ((AudioCache.after order calls).insert order key buffer) = kept ++ [(key, buffer)] ∧
      withinLimits (kept ++ [(key, buffer)]) = true ∧
      ∀ more, more <:+ without key (recentAfter calls) →
        withinLimits (more ++ [(key, buffer)]) = true → more <:+ kept
  cleared : contents (AudioCache.after order calls).clear = []
  total : (AudioCache.after order calls).totalSamples =
    ((AudioCache.after order calls).entries.map fun entry => sampleCount entry.2.buffer).sum

/-- **The audio cache is a least-recently-used cache**, in whatever order its map
is looked through. -/
theorem audio_cache_least_recently_used (order : IterationOrder (String × CachedAudio F))
    (calls : List (CacheCall F)) (few : accessCount calls + 1 < 2 ^ 64)
    (short : ∀ call ∈ calls, call.Short) : LeastRecentlyUsed order calls := by
  obtain ⟨aged, listed, settled⟩ :=
    settled_after order (Nat.lt_of_succ_lt few) short
  have remembered := remembered_after short
  have held : ∀ key, heldUnder key (recentAfter calls) = lastInserted calls key := by
    intro key
    rw [lastInserted, ← remembered.held key, remembered.listed]
  constructor
  · rw [settled.represents.contents_eq, listed]
  · intro key
    rw [(settled.get few key).1, listed, held]
  · intro key
    obtain ⟨_, aged', listed', settled'⟩ := settled.get few key
    rw [settled'.represents.contents_eq, listed', listed]
  · intro key buffer fitting
    obtain ⟨aged', listed', settled'⟩ := settled.insert order few key fitting
    obtain ⟨kept, suffix, same⟩ :=
      keepRecent_concat (without key (recentAfter calls)) (withinLimits_singleton key fitting)
    refine ⟨kept, suffix, ?_, ?_, fun more inside fits => ?_⟩
    · rw [settled'.represents.contents_eq, listed', listed, placeRecent, same]
    · rw [← same]
      exact keepRecent_fits withinLimits rfl _
    · obtain ⟨front, joined⟩ := inside
      have longest : more ++ [(key, buffer)] <:+
          keepRecent withinLimits (without key (recentAfter calls) ++ [(key, buffer)]) :=
        keepRecent_longest ⟨front, by rw [← List.append_assoc, joined]⟩ fits
      rw [same] at longest
      obtain ⟨front', joined'⟩ := longest
      rw [← List.append_assoc] at joined'
      exact ⟨front', List.append_cancel_right joined'⟩
  · rfl
  · rw [settled.represents.total, samplesOf, List.map_map]
    exact (settled.represents.perm.map _).sum_eq.symm

/-- A cache looked through in the order its entries lie. -/
def listOrder (α : Type*) : IterationOrder α := ⟨id, List.Perm.refl⟩

theorem audio_cache_least_recently_used_replaced :
    LeastRecentlyUsed (listOrder (String × CachedAudio ℚ))
      [.insert "a" [(0, 0)], .insert "b" [], .get "a", .insert "b" [(1, 1)]] :=
  audio_cache_least_recently_used _ _ (by decide) (by
    intro call member
    fin_cases member
    · exact show 1 ≤ maxAudioDurationSecs * sampleRate by decide
    · exact Nat.zero_le _
    · exact trivial
    · exact show 1 ≤ maxAudioDurationSecs * sampleRate by decide)

end Omnivox.Audio
