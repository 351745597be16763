import Mathlib
import Omnivox.Parameters.Catalogue

/-!
# The catalogue cache

A bounded cache of the catalogues that a client has already asked for. Every
reply to a query is observed, with the engine that gave it and the epoch of the
engine when the query was submitted. Pages of one sequence are assembled; a
catalogue is published when its last page arrives, and the oldest ones make room
for it.

The cache is described by the observations so far (`Sound`): its bytes are those
of its entries and stay within the limits, the entries of one engine belong to one
runtime, and each entry is the concatenation of the pages of one sequence of
queries that no refused reply interrupted (`Assembled`).
-/

set_option autoImplicit false

namespace Omnivox.Parameters

open Foundations

def MAX_CATALOGUES : Nat := 32

def MAX_CACHED_BYTES : Nat := 1024 * 1024

def MAX_ASSEMBLY_BYTES : Nat := MAX_CONTROL_PAYLOAD_BYTES

/-- The owner is the allocation of the engine. A weak reference keeps the allocation from
being used again, so a reference to the engine that answers is a live one. -/
structure CachedCatalogue where
  catalogue : ParameterCatalogue
  owner : Nat
  epoch : Nat
  bytes : Nat
  deriving Repr, DecidableEq

structure PartialCatalogue where
  engineId : String
  voiceId : Option String
  owner : Nat
  epoch : Nat
  identity : CatalogueIdentity
  assembly : CatalogueAssembly
  bytes : Nat
  deriving Repr, DecidableEq

structure CatalogueCache where
  ready : List CachedCatalogue
  partialCatalogue : Option PartialCatalogue
  bytes : Nat
  deriving Repr, DecidableEq

/-- A response to a control request. Only parameter replies are told apart. -/
inductive ControlResponse where
  | engineParametersV1 (engineId : String) (result : CatalogueResult)
  | other
  deriving Repr, DecidableEq

/-- One call of `observe`. The engine is asked for its epoch again: once for the query, and
once for each entry that it may keep. -/
structure Observation where
  query : CatalogueQuery
  response : ControlResponse
  engine : Nat
  epoch : Option Nat
  epochNow : Option Nat
  epochFor : CachedCatalogue → Option Nat

/-- Catalogue revisions may differ between physical voices in one runtime. -/
def sameRuntime (a b : CatalogueIdentity) : Bool :=
  a.runtimeGeneration = b.runtimeGeneration && a.profileId = b.profileId &&
    a.schemaId = b.schemaId

namespace CachedCatalogue

def current (entry : CachedCatalogue) (engine : Nat) (epochNow : Option Nat) : Bool :=
  entry.owner = engine && epochNow = some entry.epoch

/-- The engine and voice that an entry is about. -/
def key (entry : CachedCatalogue) : String × Option String :=
  (entry.catalogue.engineId, entry.catalogue.voiceId)

end CachedCatalogue

def PartialCatalogue.key (partialCatalogue : PartialCatalogue) : String × Option String :=
  (partialCatalogue.engineId, partialCatalogue.voiceId)

def CatalogueQuery.key (query : CatalogueQuery) : String × Option String :=
  (query.engineId, query.voiceId)

namespace Observation

def isBusy (observed : Observation) : Bool :=
  match observed.response with
  | .engineParametersV1 _ (.busy _) => true
  | _ => false

/-- The epoch, when the engine is still in it. -/
def qualifiedEpoch (observed : Observation) : Option Nat :=
  observed.epoch.filter fun epoch => 0 < epoch && observed.epochNow = some epoch

/-- A ready page from the engine that was asked. -/
def readyPage (observed : Observation) : Option CataloguePage :=
  match observed.response with
  | .engineParametersV1 engineId (.ready page) =>
      if engineId ≠ observed.query.engineId then none else some page
  | _ => none

/-- A ready page of the epoch that the engine is in. -/
def currentPage (observed : Observation) : Option (Nat × CataloguePage) :=
  match observed.qualifiedEpoch, observed.readyPage with
  | some epoch, some page => some (epoch, page)
  | _, _ => none

end Observation

namespace CatalogueCache

def empty : CatalogueCache := ⟨[], none, 0⟩

/-- Keep some of the entries, and count their bytes. -/
def retain (cache : CatalogueCache) (keeps : CachedCatalogue → Bool) : CatalogueCache :=
  let ready := cache.ready.filter keeps
  { cache with ready := ready, bytes := (ready.map CachedCatalogue.bytes).sum }

def invalidate (cache : CatalogueCache) (query : CatalogueQuery) : CatalogueCache :=
  let cache := cache.retain fun entry => entry.key ≠ query.key
  if cache.partialCatalogue.any fun partialCatalogue => partialCatalogue.key = query.key then
    { cache with partialCatalogue := none }
  else cache

/-- One engine cannot contribute mixed runtime, profile and schema observations. -/
def retainRuntime (cache : CatalogueCache) (observed : Observation) (epoch : Nat)
    (identity : CatalogueIdentity) : CatalogueCache :=
  cache.retain fun entry =>
    entry.catalogue.engineId ≠ observed.query.engineId ||
      (entry.epoch = epoch && entry.current observed.engine (observed.epochFor entry) &&
        sameRuntime entry.catalogue.identity identity)

/-- A query without a cursor starts over. -/
def begin (cache : CatalogueCache) (observed : Observation) (epoch : Nat)
    (identity : CatalogueIdentity) : CatalogueCache :=
  if observed.query.cursor.isNone then
    { cache.invalidate observed.query with
      partialCatalogue := (CatalogueAssembly.new observed.query).toOption.map fun assembly =>
        { engineId := observed.query.engineId
          voiceId := observed.query.voiceId
          owner := observed.engine
          epoch := epoch
          identity := identity
          assembly := assembly
          bytes := 0 } }
  else cache

/-- Remove the oldest entries until another of the given size fits, or none is left. The
answer says whether it fits. -/
def evict (size : Nat) : List CachedCatalogue → Nat → List CachedCatalogue × Nat × Bool
  | [], bytes => ([], bytes, bytes + size ≤ MAX_CACHED_BYTES)
  | oldest :: rest, bytes =>
    if MAX_CATALOGUES ≤ (oldest :: rest).length ∨ MAX_CACHED_BYTES < bytes + size then
      evict size rest (bytes - oldest.bytes)
    else (oldest :: rest, bytes, true)

def store (cache : CatalogueCache) (entry : CachedCatalogue) : CatalogueCache :=
  match evict entry.bytes cache.ready cache.bytes with
  | (ready, bytes, false) => { cache with ready := ready, bytes := bytes }
  | (ready, bytes, true) =>
    { cache with ready := ready ++ [entry], bytes := bytes + entry.bytes }

/-- Publish a complete assembly. -/
def publish (encoding : CatalogueEncoding) (cache : CatalogueCache) (observed : Observation)
    (epoch : Nat) (assembly : CatalogueAssembly) : CatalogueCache :=
  match assembly.finish with
  | .error _ => cache
  | .ok catalogue =>
    match encoding.catalogue catalogue with
    | none => cache
    | some bytes =>
      if MAX_ASSEMBLY_BYTES < bytes then cache
      else
        (cache.invalidate observed.query).store
          { catalogue := catalogue, owner := observed.engine, epoch := epoch, bytes := bytes }

/-- What a partial catalogue does not take: a page of another runtime, or too many bytes. -/
def mismatched (partialCatalogue : PartialCatalogue) (observed : Observation) (epoch : Nat)
    (page : CataloguePage) (bytes : Nat) : Bool :=
  partialCatalogue.epoch ≠ epoch || partialCatalogue.identity ≠ page.identity ||
    partialCatalogue.owner ≠ observed.engine || MAX_ASSEMBLY_BYTES < partialCatalogue.bytes + bytes

/-- Continue the partial catalogue. An orphan continuation cannot overwrite or complete
another sequence. -/
def extend (encoding : CatalogueEncoding) (cache : CatalogueCache) (observed : Observation)
    (epoch : Nat) (page : CataloguePage) (bytes : Nat) : CatalogueCache :=
  match cache.partialCatalogue with
  | none => cache
  | some partialCatalogue =>
    if partialCatalogue.key ≠ observed.query.key then cache
    else
      let dropped := { cache with partialCatalogue := none }
      if mismatched partialCatalogue observed epoch page bytes then dropped
      else
        match partialCatalogue.assembly.push encoding observed.query (.ready page) with
        | .error _ => dropped
        | .ok assembly =>
          if assembly.nextQuery.isSome then
            { cache with partialCatalogue := some { partialCatalogue with
              assembly := assembly
              bytes := partialCatalogue.bytes + bytes } }
          else dropped.publish encoding observed epoch assembly

/-- A ready page of the current epoch. -/
def observePage (encoding : CatalogueEncoding) (cache : CatalogueCache) (observed : Observation)
    (epoch : Nat) (page : CataloguePage) : CatalogueCache :=
  match encoding.result (.ready page) with
  | none => cache.invalidate observed.query
  | some bytes =>
    ((cache.retainRuntime observed epoch page.identity).begin observed epoch
      page.identity).extend encoding observed epoch page bytes

def observe (encoding : CatalogueEncoding) (cache : CatalogueCache) (observed : Observation) :
    CatalogueCache :=
  if observed.isBusy then cache
  else
    match observed.qualifiedEpoch with
    | none => cache.invalidate observed.query
    | some epoch =>
      match observed.readyPage with
      | none => cache.invalidate observed.query
      | some page => cache.observePage encoding observed epoch page

end CatalogueCache

/-! ## Sequences of pages -/

/-- A reply about the engine and voice that is not `Busy`. -/
def Observation.answers (key : String × Option String) (observed : Observation) : Bool :=
  observed.query.key = key && !observed.isBusy

/-- The query for the page after this one. -/
def CatalogueQuery.following (query : CatalogueQuery) (page : CataloguePage) : CatalogueQuery :=
  { query with
    expectedCatalogueRevision := some page.identity.catalogueRevision
    cursor := page.nextCursor }

/-- What the pages of one sequence have in common. -/
structure Source where
  key : String × Option String
  owner : Nat
  epoch : Nat
  identity : CatalogueIdentity

/-- A ready page of the source, given in its epoch. -/
structure PageOf (source : Source) (observed : Observation) (page : CataloguePage) : Prop where
  asked : observed.query.key = source.key
  owner : observed.engine = source.owner
  current : observed.currentPage = some (source.epoch, page)
  identity : page.identity = source.identity
  voice : page.voiceId = source.key.2

/-- **The pages of one sequence of queries**, the query that continues it, and their
parameters in order. -/
inductive Assembled (source : Source) :
    List Observation → CatalogueQuery → List ParameterDescriptor → Prop
  | first {observed : Observation} {page : CataloguePage} :
      observed.query.cursor = none → PageOf source observed page →
      Assembled source [observed] (observed.query.following page) page.parameters
  | next {pages : List Observation} {query : CatalogueQuery}
      {parameters : List ParameterDescriptor} {observed : Observation} {page : CataloguePage} :
      Assembled source pages query parameters → observed.query = query →
      PageOf source observed page →
      Assembled source (pages ++ [observed]) (query.following page)
        (parameters ++ page.parameters)

/-- The replies about the source since some moment are the pages of one sequence. -/
def AssembledBy (history : List Observation) (source : Source) (query : CatalogueQuery)
    (parameters : List ParameterDescriptor) : Prop :=
  ∃ before during, history = before ++ during ∧
    Assembled source (during.filter (Observation.answers source.key)) query parameters

namespace AssembledBy

variable {history : List Observation} {source : Source} {query : CatalogueQuery}
  {parameters : List ParameterDescriptor} {observed : Observation} {page : CataloguePage}

theorem answers_of_current (asked : observed.query.key = source.key) {epoch : Nat}
    (current : observed.currentPage = some (epoch, page)) :
    observed.answers source.key = true := by
  have ready : observed.isBusy = false := by
    unfold Observation.currentPage Observation.readyPage at current
    unfold Observation.isBusy
    split
    · rename_i response
      rw [response] at current
      split at current
      · rename_i taken
        cases taken
      · cases current
    · rfl
  simp [Observation.answers, asked, ready]

/-- A reply about something else. -/
theorem skip (assembled : AssembledBy history source query parameters)
    (other : observed.answers source.key = false) :
    AssembledBy (history ++ [observed]) source query parameters := by
  obtain ⟨before, during, rfl, pages⟩ := assembled
  refine ⟨before, during ++ [observed], List.append_assoc _ _ _, ?_⟩
  rw [List.filter_append, List.filter_singleton, other]
  simpa using pages

theorem first (initial : observed.query.cursor = none) (given : PageOf source observed page) :
    AssembledBy (history ++ [observed]) source (observed.query.following page)
      page.parameters := by
  refine ⟨history, [observed], rfl, ?_⟩
  rw [List.filter_singleton, answers_of_current given.asked given.current]
  exact Assembled.first initial given

theorem next (assembled : AssembledBy history source query parameters)
    (continues : observed.query = query) (given : PageOf source observed page) :
    AssembledBy (history ++ [observed]) source (query.following page)
      (parameters ++ page.parameters) := by
  obtain ⟨before, during, rfl, pages⟩ := assembled
  refine ⟨before, during ++ [observed], List.append_assoc _ _ _, ?_⟩
  rw [List.filter_append, List.filter_singleton, answers_of_current given.asked given.current]
  exact Assembled.next pages continues given

end AssembledBy

/-! ## The invariant -/

/-- The source of an entry. -/
def CachedCatalogue.source (entry : CachedCatalogue) : Source where
  key := entry.key
  owner := entry.owner
  epoch := entry.epoch
  identity := entry.catalogue.identity

def PartialCatalogue.source (partialCatalogue : PartialCatalogue) : Source where
  key := partialCatalogue.key
  owner := partialCatalogue.owner
  epoch := partialCatalogue.epoch
  identity := partialCatalogue.identity

/-- An entry is valid, and is what one sequence of queries gave, from its first page to one
without a next. -/
structure Complete (history : List Observation) (entry : CachedCatalogue) : Prop where
  valid : entry.catalogue.validate = .ok ()
  assembled : ∃ before after query, history = before ++ after ∧
    AssembledBy before entry.source query entry.catalogue.parameters ∧ query.cursor = none

/-- The partial catalogue is what one sequence of queries gave so far. -/
structure Collecting (history : List Observation) (partialCatalogue : PartialCatalogue) :
    Prop where
  assembled : AssembledBy history partialCatalogue.source partialCatalogue.assembly.query
    partialCatalogue.assembly.parameters
  asks : partialCatalogue.assembly.query.key = partialCatalogue.key
  identity : partialCatalogue.assembly.identity = some partialCatalogue.identity

/-- The entries of a cache. -/
structure Stored (history : List Observation) (cache : CatalogueCache) : Prop where
  counted : cache.bytes = (cache.ready.map CachedCatalogue.bytes).sum
  withinBytes : cache.bytes ≤ MAX_CACHED_BYTES
  withinCount : cache.ready.length ≤ MAX_CATALOGUES
  apart : (cache.ready.map CachedCatalogue.key).Nodup
  /-- One engine contributes one runtime. -/
  coherent : ∀ a ∈ cache.ready, ∀ b ∈ cache.ready, a.catalogue.engineId = b.catalogue.engineId →
    a.epoch = b.epoch ∧ sameRuntime a.catalogue.identity b.catalogue.identity = true
  complete : ∀ entry ∈ cache.ready, Complete history entry

/-- **The cache is described by the observations so far.** -/
structure Sound (history : List Observation) (cache : CatalogueCache) : Prop where
  stored : Stored history cache
  collecting : ∀ partialCatalogue, cache.partialCatalogue = some partialCatalogue →
    Collecting history partialCatalogue

/-- The entries of an engine are of one runtime. -/
def OfRuntime (cache : CatalogueCache) (engineId : String) (epoch : Nat)
    (identity : CatalogueIdentity) : Prop :=
  ∀ entry ∈ cache.ready, entry.catalogue.engineId = engineId →
    entry.epoch = epoch ∧ sameRuntime entry.catalogue.identity identity = true

theorem Complete.later {history : List Observation} {entry : CachedCatalogue}
    (complete : Complete history entry) (observed : Observation) :
    Complete (history ++ [observed]) entry where
  valid := complete.valid
  assembled := by
    obtain ⟨before, after, query, rfl, assembled, last⟩ := complete.assembled
    exact ⟨before, after ++ [observed], query, List.append_assoc _ _ _, assembled, last⟩

theorem Collecting.skip {history : List Observation} {partialCatalogue : PartialCatalogue}
    (collecting : Collecting history partialCatalogue) {observed : Observation}
    (other : observed.answers partialCatalogue.key = false) :
    Collecting (history ++ [observed]) partialCatalogue :=
  { collecting with assembled := collecting.assembled.skip other }

namespace Stored

variable {history : List Observation} {cache : CatalogueCache}

theorem later (stored : Stored history cache) (observed : Observation) :
    Stored (history ++ [observed]) cache :=
  { stored with complete := fun entry member => (stored.complete entry member).later observed }

/-- Fewer entries, with their bytes. -/
theorem sublist (stored : Stored history cache) {cache' : CatalogueCache}
    (fewer : cache'.ready.Sublist cache.ready)
    (counted : cache'.bytes = (cache'.ready.map CachedCatalogue.bytes).sum) :
    Stored history cache' where
  counted := counted
  withinBytes := by
    have less := (fewer.map CachedCatalogue.bytes).sum_le_sum fun _ _ => Nat.zero_le _
    rw [counted]
    exact Nat.le_trans less (stored.counted ▸ stored.withinBytes)
  withinCount := Nat.le_trans fewer.length_le stored.withinCount
  apart := stored.apart.sublist (fewer.map _)
  coherent := fun a left b right =>
    stored.coherent a (fewer.subset left) b (fewer.subset right)
  complete := fun entry member => stored.complete entry (fewer.subset member)

theorem retain (stored : Stored history cache) (keeps : CachedCatalogue → Bool) :
    Stored history (cache.retain keeps) :=
  stored.sublist List.filter_sublist rfl

theorem invalidate (stored : Stored history cache) (query : CatalogueQuery) :
    Stored history (cache.invalidate query) := by
  unfold CatalogueCache.invalidate
  dsimp only
  split
  · exact (stored.retain _).sublist (List.Sublist.refl _) rfl
  · exact stored.retain _

/-- **Eviction** keeps the newest entries, subtracts exactly their bytes, and makes room
when it says so. -/
theorem evict_spec (size : Nat) (ready : List CachedCatalogue) (bytes : Nat)
    (counted : bytes = (ready.map CachedCatalogue.bytes).sum) :
    (CatalogueCache.evict size ready bytes).1.Sublist ready ∧
      (CatalogueCache.evict size ready bytes).2.1 =
        ((CatalogueCache.evict size ready bytes).1.map CachedCatalogue.bytes).sum ∧
      ((CatalogueCache.evict size ready bytes).2.2 = true →
        (CatalogueCache.evict size ready bytes).1.length < MAX_CATALOGUES ∧
          (CatalogueCache.evict size ready bytes).2.1 + size ≤ MAX_CACHED_BYTES) := by
  induction ready generalizing bytes with
  | nil =>
      refine ⟨List.Sublist.refl _, counted, ?_⟩
      intro fits
      exact ⟨show 0 < MAX_CATALOGUES by decide, of_decide_eq_true fits⟩
  | cons oldest rest ih =>
      rw [CatalogueCache.evict]
      split
      · have left : bytes - oldest.bytes = (rest.map CachedCatalogue.bytes).sum := by
          rw [counted, List.map_cons, List.sum_cons]
          exact Nat.add_sub_cancel_left _ _
        obtain ⟨fewer, sum, room⟩ := ih _ left
        exact ⟨fewer.trans (List.sublist_cons_self _ _), sum, room⟩
      · rename_i full
        obtain ⟨short, light⟩ := not_or.mp full
        exact ⟨List.Sublist.refl _, counted, fun _ => ⟨Nat.not_le.mp short, Nat.not_lt.mp light⟩⟩

/-- **A new entry.** No entry has its key, and the entries of its engine are of its
runtime. -/
theorem store (stored : Stored history cache) {entry : CachedCatalogue}
    (absent : ∀ other ∈ cache.ready, other.key ≠ entry.key)
    (runtime : OfRuntime cache entry.catalogue.engineId entry.epoch entry.catalogue.identity)
    (complete : Complete history entry) : Stored history (cache.store entry) := by
  obtain ⟨fewer, sum, room⟩ := evict_spec entry.bytes cache.ready cache.bytes stored.counted
  unfold CatalogueCache.store
  generalize CatalogueCache.evict entry.bytes cache.ready cache.bytes = evicted at fewer sum room ⊢
  obtain ⟨ready, bytes, fits⟩ := evicted
  have kept : Stored history { cache with ready := ready, bytes := bytes } :=
    stored.sublist fewer sum
  cases fits with
  | false => exact kept
  | true =>
      obtain ⟨short, light⟩ := room rfl
      have isolated : ∀ other ∈ ready, other.catalogue.engineId = entry.catalogue.engineId →
          other.epoch = entry.epoch ∧
            sameRuntime other.catalogue.identity entry.catalogue.identity = true :=
        fun other member => runtime other (fewer.subset member)
      have symmetric : ∀ a b, sameRuntime a b = true → sameRuntime b a = true := by
        intro a b same
        simp only [sameRuntime, Bool.and_eq_true, decide_eq_true_eq] at same ⊢
        exact ⟨⟨same.1.1.symm, same.1.2.symm⟩, same.2.symm⟩
      have reflexive : ∀ a, sameRuntime a a = true := fun a => by simp [sameRuntime]
      refine ⟨?_, light, ?_, ?_, ?_, ?_⟩
      · simpa using sum
      · simpa using short
      · rw [List.map_append, List.nodup_append]
        refine ⟨kept.apart, List.nodup_singleton _, ?_⟩
        intro key member key' new
        obtain ⟨other, held, rfl⟩ := List.mem_map.mp member
        rw [List.map_singleton, List.mem_singleton] at new
        exact new ▸ absent other (fewer.subset held)
      · intro a left b right engines
        rcases List.mem_append.mp left with held | new <;>
          rcases List.mem_append.mp right with held' | new'
        · exact kept.coherent a held b held' engines
        · cases List.mem_singleton.mp new'
          exact isolated a held engines
        · cases List.mem_singleton.mp new
          obtain ⟨epochs, runtimes⟩ := isolated b held' engines.symm
          exact ⟨epochs.symm, symmetric _ _ runtimes⟩
        · cases List.mem_singleton.mp new
          cases List.mem_singleton.mp new'
          exact ⟨rfl, reflexive _⟩
      · intro other member
        rcases List.mem_append.mp member with member | member
        · exact kept.complete other member
        · rw [List.mem_singleton] at member
          exact member ▸ complete

end Stored

/-! ## What is left after an invalidation -/

/-- Nothing is known about the engine and voice of a query. -/
def Absent (cache : CatalogueCache) (query : CatalogueQuery) : Prop :=
  (∀ entry ∈ cache.ready, entry.key ≠ query.key) ∧
    ∀ partialCatalogue, cache.partialCatalogue = some partialCatalogue →
      partialCatalogue.key ≠ query.key

namespace CatalogueCache

variable {cache : CatalogueCache} {query : CatalogueQuery}

theorem invalidate_ready (cache : CatalogueCache) (query : CatalogueQuery) :
    (cache.invalidate query).ready = cache.ready.filter fun entry => entry.key ≠ query.key := by
  unfold invalidate
  dsimp only
  split <;> rfl

/-- A partial catalogue that is left is the one that was there, of another engine or
voice. -/
theorem invalidate_collected {partialCatalogue : PartialCatalogue}
    (left : (cache.invalidate query).partialCatalogue = some partialCatalogue) :
    cache.partialCatalogue = some partialCatalogue ∧ partialCatalogue.key ≠ query.key := by
  unfold invalidate at left
  dsimp only at left
  split at left
  · cases left
  · rename_i other
    have kept : cache.partialCatalogue = some partialCatalogue := left
    refine ⟨kept, ?_⟩
    intro same
    apply other
    change cache.partialCatalogue.any _ = true
    rw [kept]
    simp [same]

theorem invalidate_absent (cache : CatalogueCache) (query : CatalogueQuery) :
    Absent (cache.invalidate query) query := by
  constructor
  · intro entry member
    rw [invalidate_ready, List.mem_filter] at member
    exact of_decide_eq_true member.2
  · intro partialCatalogue left
    exact (invalidate_collected left).2

/-- A partial catalogue of another engine or voice is kept. -/
theorem invalidate_keeps
    (other : ∀ partialCatalogue, cache.partialCatalogue = some partialCatalogue →
      partialCatalogue.key ≠ query.key) :
    (cache.invalidate query).partialCatalogue = cache.partialCatalogue := by
  unfold invalidate
  dsimp only
  split
  · rename_i same
    change cache.partialCatalogue.any _ = true at same
    cases kept : cache.partialCatalogue with
    | none => rfl
    | some partialCatalogue =>
        rw [kept] at same
        exact absurd (of_decide_eq_true same) (other partialCatalogue kept)
  · rfl

end CatalogueCache

/-- **An invalidation** is sound after any reply about its engine and voice. -/
theorem Sound.invalidate {history : List Observation} {cache : CatalogueCache}
    (sound : Sound history cache) (observed : Observation) :
    Sound (history ++ [observed]) (cache.invalidate observed.query) where
  stored := (sound.stored.invalidate observed.query).later observed
  collecting := by
    intro partialCatalogue left
    obtain ⟨kept, other⟩ := CatalogueCache.invalidate_collected left
    apply (sound.collecting partialCatalogue kept).skip
    simp [Observation.answers, other.symm]

/-! ## A ready page -/

/-- A partial catalogue that has just begun. -/
structure Fresh (observed : Observation) (epoch : Nat) (identity : CatalogueIdentity)
    (partialCatalogue : PartialCatalogue) : Prop where
  initial : observed.query.cursor = none
  key : partialCatalogue.key = observed.query.key
  assembly : partialCatalogue.assembly = ⟨observed.query, none, [], [], [], false⟩

namespace CatalogueCache

theorem store_partial (cache : CatalogueCache) (entry : CachedCatalogue) :
    (cache.store entry).partialCatalogue = cache.partialCatalogue := by
  unfold store
  split <;> rfl

theorem mismatched_eq_false {partialCatalogue : PartialCatalogue} {observed : Observation}
    {epoch bytes : Nat} {page : CataloguePage}
    (matched : ¬ mismatched partialCatalogue observed epoch page bytes = true) :
    partialCatalogue.epoch = epoch ∧ partialCatalogue.identity = page.identity ∧
      partialCatalogue.owner = observed.engine := by
  simp only [mismatched, Bool.or_eq_true, decide_eq_true_eq, not_or, ne_eq, not_not] at matched
  exact ⟨matched.1.1.1, matched.1.1.2, matched.1.2⟩

end CatalogueCache

section Page

variable {encoding : CatalogueEncoding} {history : List Observation} {cache : CatalogueCache}
  {observed : Observation} {epoch : Nat} {page : CataloguePage}
  {partialCatalogue : PartialCatalogue} {assembly : CatalogueAssembly}

/-- **A page that is taken** continues or begins the sequence of the partial catalogue. -/
theorem assembled_push (current : observed.currentPage = some (epoch, page))
    (collected : Collecting history partialCatalogue ∨
      Fresh observed epoch page.identity partialCatalogue)
    (same : partialCatalogue.key = observed.query.key) {bytes : Nat}
    (matched : ¬ CatalogueCache.mismatched partialCatalogue observed epoch page bytes = true)
    (pushed : partialCatalogue.assembly.push encoding observed.query (.ready page) =
      .ok assembly) :
    assembly = partialCatalogue.assembly.taken page ∧
      AssembledBy (history ++ [observed]) partialCatalogue.source assembly.query
        assembly.parameters ∧
      assembly.query.key = partialCatalogue.key ∧ assembly.identity = some page.identity ∧
      (page.nextCursor = none →
        (CatalogueAssembly.completed observed.query page assembly.parameters).validate =
          .ok ()) := by
  obtain ⟨rfl, identities, owners⟩ := CatalogueCache.mismatched_eq_false matched
  obtain ⟨continues, _, ready, voice, rfl, valid⟩ := CatalogueAssembly.push_ok pushed
  cases ready
  have voices : page.voiceId = partialCatalogue.source.key.2 := by
    rw [voice]
    exact congrArg Prod.snd same.symm
  have given : PageOf partialCatalogue.source observed page :=
    ⟨same.symm, owners.symm, current, identities.symm, voices⟩
  have asks : (partialCatalogue.assembly.taken page).query.key = partialCatalogue.key := by
    change partialCatalogue.assembly.query.key = _
    rw [← continues, same]
  refine ⟨rfl, ?_, asks, rfl, valid⟩
  rcases collected with collecting | fresh
  · exact collecting.assembled.next continues given
  · have first : AssembledBy (history ++ [observed]) _ _ _ :=
      AssembledBy.first fresh.initial given
    unfold CatalogueAssembly.taken
    rw [fresh.assembly]
    exact first

/-- **A complete assembly** becomes an entry of its own. -/
theorem publish_sound (stored : Stored history cache) (none : cache.partialCatalogue = none)
    (runtime : OfRuntime cache observed.query.engineId epoch page.identity)
    (assembled : AssembledBy (history ++ [observed])
      ⟨observed.query.key, observed.engine, epoch, page.identity⟩ assembly.query
        assembly.parameters)
    (asks : assembly.query.key = observed.query.key)
    (identity : assembly.identity = some page.identity) (last : assembly.query.cursor = .none)
    (valid : (⟨observed.query.engineId, page.identity, observed.query.voiceId,
      assembly.parameters, assembly.mappings⟩ : ParameterCatalogue).validate = .ok ()) :
    Sound (history ++ [observed]) (cache.publish encoding observed epoch assembly) := by
  have unchanged : Sound (history ++ [observed]) cache := by
    refine ⟨stored.later observed, ?_⟩
    intro partialCatalogue left
    rw [none] at left
    cases left
  unfold CatalogueCache.publish
  split
  · exact unchanged
  · rename_i catalogue finished
    obtain ⟨_, known, rfl⟩ := CatalogueAssembly.finish_ok finished
    rw [identity] at known
    cases known
    have engine : assembly.query.engineId = observed.query.engineId := congrArg Prod.fst asks
    have voice : assembly.query.voiceId = observed.query.voiceId := congrArg Prod.snd asks
    split
    · exact unchanged
    · split
      · exact unchanged
      · refine ⟨Stored.store ((stored.invalidate _).later observed) ?_ ?_ ?_, ?_⟩
        · intro other member
          have absent := (CatalogueCache.invalidate_absent cache observed.query).1 other member
          unfold CachedCatalogue.key at absent ⊢
          dsimp only
          rw [engine, voice]
          exact absent
        · intro other member engines
          rw [CatalogueCache.invalidate_ready, List.mem_filter] at member
          exact runtime other member.1 (engines.trans engine)
        · refine ⟨?_, history ++ [observed], [], assembly.query, (List.append_nil _).symm, ?_,
            last⟩
          · dsimp only
            rw [engine, voice]
            exact valid
          · unfold CachedCatalogue.source CachedCatalogue.key
            dsimp only
            rw [engine, voice]
            exact assembled
        · intro partialCatalogue left
          rw [CatalogueCache.store_partial] at left
          have kept := (CatalogueCache.invalidate_collected left).1
          rw [none] at kept
          cases kept

/-- **One page more**, or a sequence that ends. -/
theorem extend_sound (stored : Stored history cache)
    (runtime : OfRuntime cache observed.query.engineId epoch page.identity)
    (current : observed.currentPage = some (epoch, page))
    (collected : ∀ partialCatalogue, cache.partialCatalogue = some partialCatalogue →
      Collecting history partialCatalogue ∨ Fresh observed epoch page.identity partialCatalogue)
    (bytes : Nat) :
    Sound (history ++ [observed]) (cache.extend encoding observed epoch page bytes) := by
  have later : Stored (history ++ [observed]) cache := stored.later observed
  unfold CatalogueCache.extend
  split
  · rename_i none
    refine ⟨later, ?_⟩
    intro partialCatalogue left
    rw [none] at left
    cases left
  · rename_i partialCatalogue kept
    have dropped : Sound (history ++ [observed]) { cache with partialCatalogue := none } :=
      ⟨later.sublist (List.Sublist.refl _) later.counted, fun _ left => by cases left⟩
    dsimp only
    split
    · rename_i other
      refine ⟨later, ?_⟩
      intro partialCatalogue' left
      rw [kept] at left
      cases left
      rcases collected partialCatalogue kept with collecting | fresh
      · apply collecting.skip
        simp [Observation.answers, other.symm]
      · exact absurd fresh.key other
    · rename_i same
      have same := not_not.mp same
      split
      · exact dropped
      · rename_i matched
        split
        · exact dropped
        · rename_i assembly pushed
          obtain ⟨epochs, identities, owners⟩ := CatalogueCache.mismatched_eq_false matched
          obtain ⟨next, assembled, asks, identity, valid⟩ :=
            assembled_push current (collected partialCatalogue kept) same matched pushed
          split
          · refine ⟨later.sublist (List.Sublist.refl _) later.counted, ?_⟩
            intro partialCatalogue' left
            cases left
            exact ⟨assembled, asks, identities ▸ identity⟩
          · rename_i complete
            have last : page.nextCursor = none := by
              rw [next] at complete
              simpa [CatalogueAssembly.nextQuery, CatalogueAssembly.taken] using complete
            have source : partialCatalogue.source =
                ⟨observed.query.key, observed.engine, epoch, page.identity⟩ := by
              rw [← same, ← owners, ← epochs, ← identities]
              rfl
            have voice : page.voiceId = observed.query.voiceId := by
              obtain ⟨-, _, ready, voice, -⟩ := CatalogueAssembly.push_ok pushed
              cases ready
              exact voice
            have mappings : assembly.mappings = page.mappings := by
              rw [next]
              rfl
            refine publish_sound (stored.sublist (List.Sublist.refl _) stored.counted) rfl runtime
              (source ▸ assembled) (asks.trans same) identity ?_ ?_
            · rw [next]
              exact last
            · have whole := valid last
              unfold CatalogueAssembly.completed at whole
              rw [mappings, ← voice]
              exact whole

/-- The entries that are kept beside a page are of its runtime. -/
theorem retainRuntime_ofRuntime (cache : CatalogueCache) (observed : Observation) (epoch : Nat)
    (identity : CatalogueIdentity) :
    OfRuntime (cache.retainRuntime observed epoch identity) observed.query.engineId epoch
      identity := by
  intro entry member engine
  have keeps := (List.mem_filter.mp member).2
  simp only [engine, ne_eq, not_true_eq_false, decide_false, Bool.false_or, Bool.and_eq_true,
    decide_eq_true_eq] at keeps
  exact ⟨keeps.1.1, keeps.2⟩

/-- After `begin` the partial catalogue is a fresh one, or the one that was there. -/
theorem begin_partial {identity : CatalogueIdentity}
    (left : (cache.begin observed epoch identity).partialCatalogue = some partialCatalogue) :
    cache.partialCatalogue = some partialCatalogue ∨
      Fresh observed epoch identity partialCatalogue := by
  unfold CatalogueCache.begin at left
  split at left
  · rename_i initial
    obtain ⟨assembly, created, rfl⟩ := Option.map_eq_some_iff.mp left
    obtain ⟨-, same⟩ := CatalogueAssembly.new_ok (toOption_eq_some.mp created)
    exact Or.inr ⟨Option.isNone_iff_eq_none.mp initial, rfl, same⟩
  · exact Or.inl left

theorem begin_stored (stored : Stored history cache) (identity : CatalogueIdentity) :
    Stored history (cache.begin observed epoch identity) := by
  unfold CatalogueCache.begin
  split
  · have kept := stored.invalidate observed.query
    exact kept.sublist (List.Sublist.refl _) kept.counted
  · exact stored

theorem begin_ofRuntime {engineId : String} {identity : CatalogueIdentity}
    (runtime : OfRuntime cache engineId epoch identity) :
    OfRuntime (cache.begin observed epoch identity) engineId epoch identity := by
  unfold CatalogueCache.begin
  split
  · intro entry member
    change entry ∈ (cache.invalidate observed.query).ready at member
    rw [CatalogueCache.invalidate_ready] at member
    exact runtime entry (List.mem_filter.mp member).1
  · exact runtime

/-- **Every observation keeps the cache sound.** -/
theorem Sound.observe (sound : Sound history cache) (encoding : CatalogueEncoding)
    (observed : Observation) :
    Sound (history ++ [observed]) (cache.observe encoding observed) := by
  unfold CatalogueCache.observe
  split
  · rename_i busy
    refine ⟨sound.stored.later observed, ?_⟩
    intro partialCatalogue kept
    apply (sound.collecting partialCatalogue kept).skip
    simp [Observation.answers, busy]
  · split
    · exact sound.invalidate observed
    · rename_i epoch qualified
      split
      · exact sound.invalidate observed
      · rename_i page ready
        have current : observed.currentPage = some (epoch, page) := by
          rw [Observation.currentPage, qualified, ready]
        unfold CatalogueCache.observePage
        split
        · exact sound.invalidate observed
        · rename_i bytes encoded
          refine extend_sound (begin_stored (sound.stored.retain _) _)
            (begin_ofRuntime (retainRuntime_ofRuntime cache observed epoch page.identity))
            current ?_ bytes
          intro partialCatalogue left
          rcases begin_partial left with kept | fresh
          · exact Or.inl (sound.collecting partialCatalogue kept)
          · exact Or.inr fresh

/-! ## The result -/

/-- **An orphan continuation** never changes the partial catalogue. -/
theorem observe_orphan (encoding : CatalogueEncoding) (cache : CatalogueCache)
    (observed : Observation) (continuation : observed.query.cursor ≠ none)
    (other : ∀ partialCatalogue, cache.partialCatalogue = some partialCatalogue →
      partialCatalogue.key ≠ observed.query.key) :
    (cache.observe encoding observed).partialCatalogue = cache.partialCatalogue := by
  have invalidated := CatalogueCache.invalidate_keeps other
  unfold CatalogueCache.observe
  split
  · rfl
  · split
    · exact invalidated
    · rename_i epoch qualified
      split
      · exact invalidated
      · rename_i page ready
        unfold CatalogueCache.observePage
        split
        · exact invalidated
        · rename_i bytes encoded
          have begun : ((cache.retainRuntime observed epoch page.identity).begin observed epoch
              page.identity) = cache.retainRuntime observed epoch page.identity := by
            rw [CatalogueCache.begin, if_neg]
            rwa [Option.isNone_iff_eq_none]
          rw [begun]
          have same : (cache.retainRuntime observed epoch page.identity).partialCatalogue =
              cache.partialCatalogue := rfl
          unfold CatalogueCache.extend
          rw [same]
          split
          · exact same
          · rename_i partialCatalogue kept
            rw [if_pos (other partialCatalogue kept)]
            exact same

/-- **A reply that is not a current ready page** leaves nothing of its engine and voice. -/
theorem observe_refused (encoding : CatalogueEncoding) (cache : CatalogueCache)
    (observed : Observation) (answered : observed.isBusy = false)
    (refused : observed.currentPage = none) :
    Absent (cache.observe encoding observed) observed.query := by
  unfold CatalogueCache.observe
  rw [answered, if_neg Bool.false_ne_true]
  split
  · exact CatalogueCache.invalidate_absent cache observed.query
  · rename_i epoch qualified
    split
    · exact CatalogueCache.invalidate_absent cache observed.query
    · rename_i page ready
      rw [Observation.currentPage, qualified, ready] at refused
      cases refused

/-- Observe one reply after another. -/
def observeAll (encoding : CatalogueEncoding) (history : List Observation) : CatalogueCache :=
  history.foldl (CatalogueCache.observe encoding) CatalogueCache.empty

theorem Sound.empty : Sound [] CatalogueCache.empty where
  stored :=
    { counted := rfl
      withinBytes := Nat.zero_le _
      withinCount := Nat.zero_le _
      apart := List.nodup_nil
      coherent := fun _ member => absurd member List.not_mem_nil
      complete := fun _ member => absurd member List.not_mem_nil }
  collecting := fun _ kept => by cases kept

/-- The induction is on the observations, the last one first. -/
theorem observeAll_sound (encoding : CatalogueEncoding) (history : List Observation) :
    Sound history (observeAll encoding history) := by
  induction history using List.reverseRecOn with
  | nil => exact Sound.empty
  | append_singleton earlier observed ih =>
      rw [observeAll, List.foldl_append]
      exact ih.observe encoding observed

end Page

/-- **The catalogue cache holds only whole catalogues of one runtime.** After any
observations it is sound, an orphan continuation leaves the partial catalogue alone, and a
reply that is not a current ready page leaves nothing of its engine and voice. -/
theorem catalogue_cache_holds_whole_catalogues (encoding : CatalogueEncoding)
    (history : List Observation) :
    Sound history (observeAll encoding history) ∧
      (∀ observed : Observation, observed.query.cursor ≠ none →
        (∀ partialCatalogue,
          (observeAll encoding history).partialCatalogue = some partialCatalogue →
            partialCatalogue.key ≠ observed.query.key) →
        ((observeAll encoding history).observe encoding observed).partialCatalogue =
          (observeAll encoding history).partialCatalogue) ∧
      ∀ observed : Observation, observed.isBusy = false → observed.currentPage = none →
        Absent ((observeAll encoding history).observe encoding observed) observed.query :=
  ⟨observeAll_sound encoding history, fun observed continuation other =>
    observe_orphan encoding _ observed continuation other,
    fun observed answered refused => observe_refused encoding _ observed answered refused⟩

/-- An identity of a runtime. -/
def exampleIdentity : CatalogueIdentity where
  schemaId := "dectalk.v1"
  profileId := "default"
  catalogueRevision := String.ofList (List.replicate 64 'a')
  runtimeGeneration := 1

/-- A page without parameters. -/
def examplePage : CataloguePage := ⟨exampleIdentity, some "paul", [], [], none⟩

/-- The reply to the first query. -/
def exampleObservation : Observation where
  query := ⟨"dectalk", some "paul", none, none⟩
  response := .engineParametersV1 "dectalk" (.ready examplePage)
  engine := 0
  epoch := some 1
  epochNow := some 1
  epochFor := fun _ => some 1

example : (observeAll ⟨fun _ => some 100, fun _ => some 90⟩ [exampleObservation]).ready.map
    CachedCatalogue.key = [("dectalk", some "paul")] := by
  decide +kernel

end Omnivox.Parameters
