import Omnivox.Parameters.Catalogue

/-!
# Assembling a catalogue from its pages

The owner of an assembly asks the helper for the next page and pushes what it
gets. Replies may be stale, repeated or made up: every push that is refused
leaves the assembly as it was.

`Accepts` says when a page is taken, `Assembled` what any calls amount to, and
`catalogue_assembly_sound` states the contract over every run. A page that names
a next cursor has a parameter, and the parameters are bounded, so asking comes to
an end whatever the helper replies (`drive_finishes`).
-/

set_option autoImplicit false

namespace Omnivox.Parameters

open Foundations
open Engines (ParameterError nativeIdentifier)

namespace CatalogueAssembly

variable {encoding : CatalogueEncoding}

/-! ## Calls -/

/-- `push` as its owner sees it: the assembly afterwards, and the answer. The
assignments stand behind every check. -/
def attempt (encoding : CatalogueEncoding) (assembly : CatalogueAssembly) (query : CatalogueQuery)
    (result : CatalogueResult) : CatalogueAssembly × Except HelperProtocolError Unit :=
  match assembly.push encoding query result with
  | .ok next => (next, .ok ())
  | .error e => (assembly, .error e)

/-- An assembly with the queries and pages that it accepted, in order. -/
structure Progress where
  assembly : CatalogueAssembly
  accepted : List (CatalogueQuery × CataloguePage)

/-- The page of an answer. -/
def pageOf : CatalogueResult → Option CataloguePage
  | .ready page => some page
  | .busy _ => none
  | .unavailable _ _ => none

/-- Push one reply and note the page if it is accepted. -/
def Progress.call (encoding : CatalogueEncoding) (progress : Progress)
    (reply : CatalogueQuery × CatalogueResult) : Progress where
  assembly := (progress.assembly.attempt encoding reply.1 reply.2).1
  accepted :=
    match (progress.assembly.attempt encoding reply.1 reply.2).2 with
    | .ok () => progress.accepted ++ ((pageOf reply.2).map fun page => (reply.1, page)).toList
    | .error _ => progress.accepted

/-- The assembly after any replies, with what it accepted of them. -/
def Progress.after (encoding : CatalogueEncoding) (assembly : CatalogueAssembly)
    (replies : List (CatalogueQuery × CatalogueResult)) : Progress :=
  replies.foldl (Progress.call encoding) ⟨assembly, []⟩

/-- Ask for the next page and push the reply until the catalogue is complete or a
reply is refused. `none` has run out of rounds. -/
def drive (encoding : CatalogueEncoding) (helper : Nat → CatalogueQuery → CatalogueResult) :
    Nat → CatalogueAssembly → Option (Except HelperProtocolError CatalogueAssembly)
  | 0, _ => none
  | rounds + 1, assembly =>
      match assembly.nextQuery with
      | none => some (.ok assembly)
      | some query =>
          match assembly.push encoding query (helper rounds query) with
          | .error e => some (.error e)
          | .ok next => drive encoding helper rounds next

/-! ## When a page is taken -/

/-- The page continues the assembly. -/
structure Accepts (assembly : CatalogueAssembly) (query : CatalogueQuery) (page : CataloguePage) :
    Prop where
  incomplete : assembly.complete = false
  continues : query = assembly.query
  voice : page.voiceId = query.voiceId
  same : ∀ identity ∈ assembly.identity, identity = page.identity ∧ assembly.mappings = page.mappings
  room : (assembly.parameters ++ page.parameters).length ≤ MAX_PARAMETERS
  fresh : ∀ cursor ∈ page.nextCursor, cursor ∉ assembly.cursors
  distinct : ((assembly.parameters ++ page.parameters).map ParameterDescriptor.id).Nodup
  some_parameter : page.nextCursor.isSome = true → page.parameters ≠ []
  last : page.nextCursor = none →
    (completed query page (assembly.parameters ++ page.parameters)).validate = .ok ()

/-- A page that names a next cursor has a parameter. -/
theorem validate_ready {page : CataloguePage}
    (valid : (CatalogueResult.ready page).validate encoding = .ok ()) :
    page.nextCursor.isSome = true → page.parameters ≠ [] := by
  intro further
  unfold CatalogueResult.validate at valid
  obtain ⟨_, valid, -⟩ := bind_eq_ok.mp valid
  unfold CatalogueResult.validatePage at valid
  obtain ⟨_, -, valid⟩ := bind_eq_ok.mp valid
  obtain ⟨_, -, valid⟩ := bind_eq_ok.mp valid
  obtain ⟨_, sized, -⟩ := bind_eq_ok.mp valid
  rw [ensure_eq_ok, Bool.and_eq_true, Bool.or_eq_true, Option.isNone_iff_eq_none] at sized
  intro none_given
  rcases sized.2 with final | filled
  · rw [final] at further
    cases further
  · rw [none_given] at filled
    cases filled

theorem nodup_of_dedup_length {α : Type*} [DecidableEq α] {l : List α}
    (same : l.dedup.length = l.length) : l.Nodup :=
  List.dedup_eq_self.mp ((List.dedup_sublist l).eq_of_length same)

/-- **A page is taken exactly as it is checked.** -/
theorem push_accepts {assembly next : CatalogueAssembly} {query : CatalogueQuery}
    {result : CatalogueResult} (pushed : push encoding assembly query result = .ok next) :
    ∃ page, result = .ready page ∧ next = assembly.taken page ∧ Accepts assembly query page := by
  obtain ⟨_, page, rfl, voice, rfl, last⟩ := push_ok pushed
  unfold push at pushed
  obtain ⟨_, continues, pushed⟩ := bind_eq_ok.mp pushed
  obtain ⟨_, valid, pushed⟩ := bind_eq_ok.mp pushed
  obtain ⟨_, -, pushed⟩ := bind_eq_ok.mp pushed
  obtain ⟨_, same, pushed⟩ := bind_eq_ok.mp pushed
  obtain ⟨_, room, pushed⟩ := bind_eq_ok.mp pushed
  obtain ⟨_, fresh, pushed⟩ := bind_eq_ok.mp pushed
  obtain ⟨_, unique, -⟩ := bind_eq_ok.mp pushed
  rw [ensure_eq_ok, Bool.and_eq_true, decide_eq_true_eq, Bool.not_eq_true'] at continues
  rw [ensure_eq_ok, Option.all_eq_true] at same fresh
  rw [ensure_eq_ok, decide_eq_true_eq] at room unique
  refine ⟨page, rfl, rfl, ?_⟩
  exact {
    incomplete := continues.1
    continues := continues.2
    voice := voice
    same := fun identity known => by simpa using same identity known
    room := by rw [List.length_append]; exact room
    fresh := fun cursor given => by simpa using fresh cursor given
    distinct := nodup_of_dedup_length (by rw [unique, List.length_map])
    some_parameter := validate_ready valid
    last := last }

/-! ## What was accepted -/

/-- The cursors that were asked for: those of the accepted replies, and the one to
ask for next. -/
def requested (progress : Progress) : List (Option String) :=
  progress.accepted.map (fun reply => reply.1.cursor) ++
    (progress.assembly.nextQuery.map CatalogueQuery.cursor).toList

/-- The query behind the last accepted page. -/
def queryAfter (query : CatalogueQuery) : List (CatalogueQuery × CataloguePage) → CatalogueQuery
  | accepted =>
      match accepted.getLast? with
      | none => query
      | some reply =>
          { query with
            cursor := reply.2.nextCursor
            expectedCatalogueRevision := some reply.2.identity.catalogueRevision }

/-- What an assembly that started from `query` holds after it accepted some
pages. -/
structure Assembled (query : CatalogueQuery) (progress : Progress) : Prop where
  next : progress.assembly.query = queryAfter query progress.accepted
  parameters : progress.assembly.parameters =
    progress.accepted.flatMap fun reply => reply.2.parameters
  distinct : (progress.assembly.parameters.map ParameterDescriptor.id).Nodup
  bounded : progress.assembly.parameters.length ≤ MAX_PARAMETERS
  same : ∀ reply ∈ progress.accepted, progress.assembly.identity = some reply.2.identity ∧
    progress.assembly.mappings = reply.2.mappings ∧ reply.2.voiceId = query.voiceId
  known : progress.accepted = [] → progress.assembly.identity = none
  cursors : ∀ cursor, some cursor ∈ requested progress → cursor ∈ progress.assembly.cursors
  once : (requested progress).Nodup
  count : progress.accepted.length + (if progress.assembly.complete then 0 else 1) ≤
    progress.assembly.parameters.length + 1
  valid : progress.assembly.complete = true →
    (∃ reply, progress.accepted.getLast? = some reply ∧ reply.2.nextCursor = none) ∧
      ∀ catalogue, progress.assembly.finish = .ok catalogue → catalogue.validate = .ok ()

theorem queryAfter_concat (query : CatalogueQuery) (accepted : List (CatalogueQuery × CataloguePage))
    (reply : CatalogueQuery × CataloguePage) :
    queryAfter query (accepted ++ [reply]) =
      { query with
        cursor := reply.2.nextCursor
        expectedCatalogueRevision := some reply.2.identity.catalogueRevision } := by
  rw [queryAfter, List.getLast?_concat]

theorem queryAfter_voiceId (query : CatalogueQuery)
    (accepted : List (CatalogueQuery × CataloguePage)) :
    (queryAfter query accepted).voiceId = query.voiceId := by
  rw [queryAfter]
  split <;> rfl

theorem assembled_new {query : CatalogueQuery} {assembly : CatalogueAssembly}
    (created : new query = .ok assembly) : Assembled query ⟨assembly, []⟩ := by
  obtain ⟨initial, rfl⟩ := new_ok created
  exact {
    next := rfl
    parameters := rfl
    distinct := List.nodup_nil
    bounded := Nat.zero_le _
    same := nofun
    known := fun _ => rfl
    cursors := by simp [requested, nextQuery, initial]
    once := List.nodup_singleton _
    count := Nat.le_refl _
    valid := nofun }

/-- **What one accepted page keeps.** -/
theorem Assembled.taken {query : CatalogueQuery} {progress : Progress} {page : CataloguePage}
    (assembled : Assembled query progress)
    (accepts : Accepts progress.assembly progress.assembly.query page) :
    Assembled query ⟨progress.assembly.taken page,
      progress.accepted ++ [(progress.assembly.query, page)]⟩ := by
  have asked : requested progress =
      progress.accepted.map (fun reply => reply.1.cursor) ++ [progress.assembly.query.cursor] := by
    simp [requested, nextQuery, accepts.incomplete]
  have asked' : requested ⟨progress.assembly.taken page,
      progress.accepted ++ [(progress.assembly.query, page)]⟩ =
      requested progress ++ (page.nextCursor.map some).toList := by
    rw [asked]
    cases given : page.nextCursor <;> simp [requested, nextQuery, CatalogueAssembly.taken, given]
  have voice : page.voiceId = query.voiceId := by
    rw [accepts.voice, assembled.next, queryAfter_voiceId]
  exact {
    next := by
      rw [queryAfter_concat, CatalogueAssembly.taken, assembled.next, queryAfter]
      split <;> rfl
    parameters := by
      rw [CatalogueAssembly.taken, List.flatMap_append, ← assembled.parameters]
      simp
    distinct := accepts.distinct
    bounded := accepts.room
    same := by
      intro reply member
      rcases List.mem_append.mp member with earlier | here
      · obtain ⟨identity, mappings, same_voice⟩ := assembled.same reply earlier
        obtain ⟨same, same'⟩ := accepts.same reply.2.identity identity
        exact ⟨congrArg some same.symm, by rw [← mappings]; exact same'.symm, same_voice⟩
      · rw [List.mem_singleton.mp here]
        exact ⟨rfl, rfl, voice⟩
    known := fun none_accepted => absurd none_accepted (by simp)
    cursors := by
      intro cursor member
      rw [asked'] at member
      rcases List.mem_append.mp member with earlier | here
      · exact List.mem_append_right _ (assembled.cursors cursor earlier)
      · refine List.mem_append_left _ ?_
        simpa using here
    once := by
      rw [asked']
      cases given : page.nextCursor with
      | none => simpa using assembled.once
      | some cursor =>
          refine List.Nodup.append assembled.once (List.nodup_singleton _) ?_
          intro other earlier here
          rw [List.mem_singleton.mp here] at earlier
          exact accepts.fresh cursor given (assembled.cursors cursor earlier)
    count := by
      have before := assembled.count
      rw [accepts.incomplete, if_neg Bool.false_ne_true] at before
      rw [List.length_append, List.length_singleton]
      change _ ≤ (progress.assembly.parameters ++ page.parameters).length + 1
      rw [List.length_append]
      cases given : page.nextCursor with
      | none =>
          have complete : (progress.assembly.taken page).complete = true := by
            rw [CatalogueAssembly.taken, given]
            rfl
          rw [complete, if_pos rfl]
          omega
      | some cursor =>
          have filled := List.length_pos_iff.mpr (accepts.some_parameter (by rw [given]; rfl))
          have incomplete : (progress.assembly.taken page).complete = false := by
            rw [CatalogueAssembly.taken, given]
            rfl
          rw [incomplete, if_neg Bool.false_ne_true]
          omega
    valid := by
      intro complete
      have final : page.nextCursor = none := Option.isNone_iff_eq_none.mp complete
      refine ⟨⟨_, List.getLast?_concat, final⟩, fun catalogue finished => ?_⟩
      obtain ⟨identity, known, rfl⟩ := finish_ok finished
      cases known
      have last := accepts.last final
      rw [completed, accepts.voice] at last
      exact last }

/-- **What one reply keeps**, accepted or not. -/
theorem Assembled.call {query : CatalogueQuery} {progress : Progress}
    (assembled : Assembled query progress) (reply : CatalogueQuery × CatalogueResult) :
    Assembled query (progress.call encoding reply) := by
  cases pushed : progress.assembly.push encoding reply.1 reply.2 with
  | error e =>
      have refused : progress.call encoding reply = progress := by
        simp [Progress.call, attempt, pushed]
      rw [refused]
      exact assembled
  | ok next =>
      obtain ⟨page, ready, rfl, accepts⟩ := push_accepts pushed
      have noted : progress.call encoding reply = ⟨progress.assembly.taken page,
          progress.accepted ++ [(progress.assembly.query, page)]⟩ := by
        have attempted : progress.assembly.attempt encoding reply.1 reply.2 =
            (progress.assembly.taken page, .ok ()) := by
          rw [attempt, pushed]
        rw [Progress.call, attempted, ready, accepts.continues]
        rfl
      rw [noted]
      exact assembled.taken (accepts.continues ▸ accepts)

/-- **Every run of replies** assembles what it accepted. -/
theorem assembled_after {query : CatalogueQuery} {assembly : CatalogueAssembly}
    (created : new query = .ok assembly) (replies : List (CatalogueQuery × CatalogueResult)) :
    Assembled query (Progress.after encoding assembly replies) := by
  induction replies using List.reverseRecOn with
  | nil => exact assembled_new created
  | append_singleton replies reply ih =>
      rw [Progress.after, List.foldl_append]
      exact ih.call reply

/-! ## Asking comes to an end -/

/-- The pages that can still be accepted. -/
def remaining (assembly : CatalogueAssembly) : Nat :=
  (MAX_PARAMETERS - assembly.parameters.length) + if assembly.complete then 0 else 1

/-- Every accepted page leaves fewer to accept. -/
theorem remaining_taken {assembly : CatalogueAssembly} {query : CatalogueQuery}
    {page : CataloguePage} (accepts : Accepts assembly query page) :
    (assembly.taken page).remaining < assembly.remaining := by
  have room := accepts.room
  rw [remaining, remaining, accepts.incomplete, if_neg Bool.false_ne_true]
  change (MAX_PARAMETERS - (assembly.parameters ++ page.parameters).length) +
    (if page.nextCursor.isNone then 0 else 1) < _
  rw [List.length_append] at room ⊢
  cases given : page.nextCursor with
  | none =>
      rw [Option.isNone_none, if_pos rfl]
      omega
  | some cursor =>
      have filled := List.length_pos_iff.mpr (accepts.some_parameter (by rw [given]; rfl))
      rw [Option.isNone_some, if_neg Bool.false_ne_true]
      omega

/-- **Enough rounds bring the asking to an end**, whatever the helper replies. -/
theorem drive_finishes (helper : Nat → CatalogueQuery → CatalogueResult) {rounds : Nat}
    {assembly : CatalogueAssembly} (enough : assembly.remaining < rounds) :
    (drive encoding helper rounds assembly).isSome = true := by
  induction rounds generalizing assembly with
  | zero => exact absurd enough (Nat.not_lt_zero _)
  | succ rounds ih =>
      rw [drive]
      split
      · rfl
      · split
        · rfl
        · rename_i query asked next pushed
          obtain ⟨page, _, rfl, accepts⟩ := push_accepts pushed
          exact ih (Nat.lt_of_lt_of_le (remaining_taken accepts) (Nat.le_of_lt_succ enough))

/-! ## The contract -/

/-- What holds of an assembly that started from `query`, after any replies. -/
structure Sound (encoding : CatalogueEncoding) (query : CatalogueQuery) (progress : Progress) :
    Prop where
  refused : ∀ asked result e,
    (progress.assembly.attempt encoding asked result).2 = .error e →
      (progress.assembly.attempt encoding asked result).1 = progress.assembly
  parameters : progress.assembly.parameters =
    progress.accepted.flatMap fun reply => reply.2.parameters
  distinct : (progress.assembly.parameters.map ParameterDescriptor.id).Nodup
  same : ∀ first ∈ progress.accepted, ∀ second ∈ progress.accepted,
    first.2.identity = second.2.identity ∧ first.2.mappings = second.2.mappings ∧
      first.2.voiceId = second.2.voiceId
  once : (requested progress).Nodup
  next : ∀ asked, progress.assembly.nextQuery = some asked →
    asked = queryAfter query progress.accepted
  finished : ∀ catalogue, progress.assembly.finish = .ok catalogue →
    (∃ reply, progress.accepted.getLast? = some reply ∧ reply.2.nextCursor = none) ∧
      catalogue.validate = .ok ()
  few : progress.accepted.length ≤ MAX_PARAMETERS + 1
  ends : ∀ helper, (drive encoding helper (MAX_PARAMETERS + 2) progress.assembly).isSome = true

/-- **Catalogue assembly.** After any replies, accepted or refused, the assembly
holds exactly the pages it accepted, they belong to one catalogue, and what it
finishes is valid. -/
theorem catalogue_assembly_sound {query : CatalogueQuery} {assembly : CatalogueAssembly}
    (created : new query = .ok assembly) (encoding : CatalogueEncoding)
    (replies : List (CatalogueQuery × CatalogueResult)) :
    Sound encoding query (Progress.after encoding assembly replies) := by
  have assembled : Assembled query (Progress.after encoding assembly replies) :=
    assembled_after created replies
  generalize Progress.after encoding assembly replies = progress at assembled
  constructor
  · intro asked result e refused
    rw [attempt] at refused ⊢
    split
    · rename_i next pushed
      rw [pushed] at refused
      cases refused
    · rfl
  · exact assembled.parameters
  · exact assembled.distinct
  · intro first member second member'
    obtain ⟨identity, mappings, voice⟩ := assembled.same first member
    obtain ⟨identity', mappings', voice'⟩ := assembled.same second member'
    exact ⟨Option.some.inj (identity.symm.trans identity'), mappings.symm.trans mappings',
      voice.trans voice'.symm⟩
  · exact assembled.once
  · intro asked given
    rw [nextQuery] at given
    split at given
    · cases given
    · cases given
      exact assembled.next
  · intro catalogue finished
    have complete : progress.assembly.complete = true := by
      unfold finish at finished
      obtain ⟨_, complete, -⟩ := bind_eq_ok.mp finished
      exact ensure_eq_ok.mp complete
    obtain ⟨last, valid⟩ := assembled.valid complete
    exact ⟨last, valid catalogue finished⟩
  · have count := assembled.count
    have bounded := assembled.bounded
    omega
  · intro helper
    refine drive_finishes helper ?_
    rw [remaining]
    split <;> omega

/-- The general catalogue of an engine, with no page yet. -/
def generalQuery : CatalogueQuery := ⟨"espeak", none, none, none⟩

theorem new_generalQuery : new generalQuery = .ok ⟨generalQuery, none, [], [], [], false⟩ := by
  have identifier : nativeIdentifier "espeak" = true := by decide
  rw [new, CatalogueQuery.validate, generalQuery, identifier]
  rfl

theorem catalogue_assembly_sound_busy :
    Sound ⟨fun _ => some 0, fun _ => some 0⟩ generalQuery
      (Progress.after ⟨fun _ => some 0, fun _ => some 0⟩ ⟨generalQuery, none, [], [], [], false⟩
        [(generalQuery, .busy 10), ({ generalQuery with cursor := some "a" }, .busy 10)]) :=
  catalogue_assembly_sound new_generalQuery _ _

end CatalogueAssembly

end Omnivox.Parameters
