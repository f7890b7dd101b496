import OAuth2Server.EventIngest
import OAuth2Server.Runs

/-!
# What the ring holds of the ingested events

The entries of the ring and those still owed by tasks in flight are, whatever
the order of the tasks, a fixed number for each accepted request. A key that was
accepted stays recorded until its time is over.
-/

namespace OAuth2Server.RecordedEvents

open OAuth2Server Models JsonText Dictionaries EventIngest
open OAuth2Server.Effects (Platform Response)
open OAuth2Server.Process (Dict)

set_option autoImplicit false

/-! ### Tasks and the ring -/

section Ring

/-- What a task in flight has still to put into the ring. -/
def owed (task : FanOut) : List Json :=
  List.replicate (task.plugins.count .recentEvents) task.envelope.modelDump

def owedBy (tasks : List FanOut) : List Json := tasks.flatMap owed

/-- `history` has been pushed or is owed, and the ring is the newest of what has been pushed. -/
def Holds (server : Server) (state : State) (history : List Json) : Prop :=
  ∃ pushes : List Json, state.recent = pushes.take server.capacity ∧
    (pushes ++ owedBy state.tasks).Perm history

theorem owed_erased {tasks : List FanOut} {index : Nat} {task : FanOut}
    (found : tasks[index]? = some task) :
    (owedBy tasks).Perm (owed task ++ owedBy (tasks.eraseIdx index)) := by
  obtain ⟨inside, here⟩ := List.getElem?_eq_some_iff.1 found
  have split := List.getElem_cons_eraseIdx_perm inside
  rw [here] at split
  exact (split.flatMap_right owed).symm

theorem owed_set {tasks : List FanOut} {index : Nat} {task : FanOut}
    (found : tasks[index]? = some task) (next : FanOut) :
    (owedBy (tasks.set index next)).Perm (owed next ++ owedBy (tasks.eraseIdx index)) := by
  obtain ⟨inside, _⟩ := List.getElem?_eq_some_iff.1 found
  exact (List.set_perm_cons_eraseIdx inside next).flatMap_right owed

theorem Holds.perm {server : Server} {state : State} {history later : List Json}
    (holds : Holds server state history) (same : history.Perm later) :
    Holds server state later := by
  obtain ⟨pushes, newest, all⟩ := holds
  exact ⟨pushes, newest, all.trans same⟩

theorem push_take (capacity : Nat) (event : Json) (pushes : List Json) :
    push capacity event (pushes.take capacity) = (event :: pushes).take capacity := by
  unfold push
  cases capacity with
  | zero => rfl
  | succ capacity =>
      rw [List.take_succ_cons, List.take_succ_cons, List.take_take]
      congr 2
      omega

theorem Holds.pushed {server : Server} {state : State} {history : List Json}
    (holds : Holds server state history) (event : Json) (entries : Dict ℚ) :
    Holds server { state with entries, recent := push server.capacity event state.recent }
      (event :: history) := by
  obtain ⟨pushes, newest, all⟩ := holds
  refine ⟨event :: pushes, ?_, ?_⟩
  · rw [← push_take, ← newest]
  · exact all.cons event

theorem Holds.published {server : Server} {state : State} {history : List Json}
    (holds : Holds server state history) (bus : EventBus) (envelope : EventEnvelope) :
    Holds server (bus.publishBestEffort envelope state)
      ((if bus.filter.shouldEmit envelope.event.eventType then owed { envelope, plugins := bus.plugins }
        else []) ++ history) := by
  obtain ⟨pushes, newest, all⟩ := holds
  unfold EventBus.publishBestEffort
  split
  · refine ⟨pushes, newest, ?_⟩
    have last : owedBy (state.tasks ++ [{ envelope, plugins := bus.plugins }]) =
        owedBy state.tasks ++ owed { envelope, plugins := bus.plugins } := by
      unfold owedBy
      rw [List.flatMap_append, List.flatMap_singleton]
    rw [last, ← List.append_assoc]
    exact (all.append_right _).trans List.perm_append_comm
  · exact ⟨pushes, newest, all⟩

/-- One plugin of one task, whichever task it is. -/
theorem Holds.fanned_out {server : Server} {state : State} {history : List Json}
    (holds : Holds server state history) (index : Nat) :
    Holds server (fanOut server index state) history := by
  obtain ⟨pushes, newest, all⟩ := holds
  unfold EventIngest.fanOut
  cases found : state.tasks[index]? with
  | none => exact ⟨pushes, newest, all⟩
  | some task =>
      have before := (owed_erased found).append_left pushes
      dsimp only
      cases left : task.plugins with
      | nil =>
          refine ⟨pushes, newest, ?_⟩
          have nothing : owed task = [] := by
            unfold owed
            rw [left]
            rfl
          rw [nothing] at before
          exact before.symm.trans all
      | cons plugin plugins =>
          have after := (owed_set found { task with plugins }).append_left pushes
          cases plugin with
          | recentEvents =>
              refine ⟨task.envelope.modelDump :: pushes, ?_, ?_⟩
              · rw [← push_take, ← newest]
                rfl
              · have one : owed task = task.envelope.modelDump :: owed { task with plugins } := by
                  unfold owed
                  rw [left, List.count_cons_self, List.replicate_succ]
                rw [one] at before
                have moved := after.cons task.envelope.modelDump
                exact (moved.trans List.perm_middle.symm).trans (before.symm.trans all)
          | inMemory | console =>
              have same : owed task = owed { task with plugins } := by
                unfold owed
                rw [left, List.count_cons_of_ne (by decide)]
              rw [same] at before
              exact ⟨pushes, newest, after.trans (before.symm.trans all)⟩

theorem owed_by_finished {tasks : List FanOut} (finished : ∀ task ∈ tasks, task.plugins = []) :
    owedBy tasks = [] := by
  apply List.flatMap_eq_nil_iff.2
  intro task member
  unfold owed
  rw [finished task member]
  rfl

end Ring

/-! ### The bus -/

theorem build_plugins_once (platform : Platform) (config : EventsConfig) :
    (buildEventBus platform config).plugins.count .recentEvents = 1 := by
  unfold buildEventBus
  dsimp only
  rw [List.count_append]
  have others : ∀ plugins : List Plugin, .recentEvents ∉ plugins →
      plugins.count .recentEvents + [Plugin.recentEvents].count .recentEvents = 1 := by
    intro plugins absent
    rw [List.count_eq_zero_of_not_mem absent]
    rfl
  apply others
  split_ifs <;> decide

/-- What an accepted envelope puts into the ring, at once and through the bus. -/
def entriesOf (server : Server) (envelope : EventEnvelope) : List Json :=
  let bus := buildEventBus server.platform server.config
  (if bus.filter.shouldEmit envelope.event.eventType then owed { envelope, plugins := bus.plugins }
    else []) ++ [envelope.modelDump]

theorem entries_of_allowed {server : Server}
    (allowing : (buildEventBus server.platform server.config).filter = .allowAll)
    (envelope : EventEnvelope) :
    entriesOf server envelope = [envelope.modelDump, envelope.modelDump] := by
  have emitted : (buildEventBus server.platform server.config).filter.shouldEmit
      envelope.event.eventType = true := by
    rw [allowing]
    rfl
  unfold entriesOf owed
  dsimp only
  rw [if_pos emitted, build_plugins_once]
  rfl

/-! ### The answers -/

section Answers

variable {server : Server} {request : IngestRequest} {now : ℚ} {drawn : Drawn} {state : State}

theorem status_of_answer (status key eventId : String) :
    statusOf (answer status key eventId) = some status := rfl

theorem guard_refuses {refusal : Response} (refused : authGuard server request = some refusal) :
    statusOf refusal = none := by
  unfold authGuard at refused
  split at refused
  · cases refused
  · split at refused
    · cases refused
      rfl
    · split at refused
      · cases refused
        rfl
      · split at refused
        · cases refused
        · cases refused
          rfl

theorem json_refuses {refusal : Response} (refused : requestJson server request = .error refusal) :
    statusOf refusal = none := by
  unfold requestJson at refused
  split at refused
  · cases refused
    rfl
  · split at refused
    · cases refused
    · cases refused
      rfl
    · cases refused
      rfl

/-- The three ways a request is answered, with the state each leaves. -/
inductive Answered (server : Server) (request : IngestRequest) (now : ℚ) (drawn : Drawn)
    (state : State) : Response × State → Prop where
  | refused {response : Response} (refusal : statusOf response = none) :
      Answered server request now drawn state (response, state)
  | duplicate {envelope : EventEnvelope} {entries : Dict ℚ}
      (seen : isDuplicateAndRecord server (effectiveKey request envelope) now state.entries =
        (true, entries)) :
      Answered server request now drawn state
        (answer "duplicate" (effectiveKey request envelope) envelope.event.id,
          { state with entries })
  | accepted {body : Json} {envelope : EventEnvelope} {entries : Dict ℚ}
      (parsed : requestJson server request = .ok body)
      (valid : EventEnvelope.modelValidate server.platform drawn body = some envelope)
      (fresh : isDuplicateAndRecord server (effectiveKey request envelope) now state.entries =
        (false, entries)) :
      Answered server request now drawn state
        (answer "accepted" (effectiveKey request envelope) envelope.event.id,
          (buildEventBus server.platform server.config).publishBestEffort envelope
            { state with
              entries, recent := push server.capacity envelope.modelDump state.recent })

theorem ingest_answered (server : Server) (request : IngestRequest) (now : ℚ) (drawn : Drawn)
    (state : State) :
    Answered server request now drawn state (ingest server request now drawn state) := by
  unfold EventIngest.ingest
  cases guarded : authGuard server request with
  | some refusal => exact .refused (guard_refuses guarded)
  | none =>
      cases bus : server.eventBus with
      | none => exact .refused rfl
      | some built =>
          have same : built = buildEventBus server.platform server.config := by
            unfold Server.eventBus at bus
            split at bus
            · exact (Option.some.inj bus).symm
            · cases bus
          cases parsed : requestJson server request with
          | error refusal => exact .refused (json_refuses parsed)
          | ok body =>
              dsimp only
              cases valid : EventEnvelope.modelValidate server.platform drawn body with
              | none => exact .refused rfl
              | some envelope =>
                  dsimp only
                  cases seen : isDuplicateAndRecord server (effectiveKey request envelope) now
                      state.entries with
                  | mk repeated entries =>
                      cases repeated with
                      | true => exact .duplicate seen
                      | false =>
                          rw [same]
                          exact .accepted parsed valid seen

end Answers

/-! ### The keys -/

section Keys

variable {server : Server} {entries : Dict ℚ}

theorem contains_lookup (dict : Dict ℚ) (key : String) :
    Dict.contains dict key = (dict.lookup key).isSome := by
  induction dict with
  | nil => rfl
  | cons entry rest induction =>
      unfold Dict.contains at induction ⊢
      rw [List.any_cons, List.lookup_cons, induction]
      by_cases here : key = entry.1
      · simp [here]
      · have missed : (key == entry.1) = false := by simpa using here
        have other : (entry.1 == key) = false := by simpa using fun same => here same.symm
        rw [missed, other]
        rfl

theorem prune_keeps (distinct : Distinct entries) {ttl now time : ℚ} {key : String}
    (found : entries.lookup key = some time) (lasting : now - time < ttl) :
    (prune ttl now entries).lookup key = some time := by
  have filtered := distinct.lookup_filter (fun stored => !decide (ttl ≤ now - stored)) key
  have kept : (!decide (ttl ≤ now - time)) = true := by
    rw [Bool.not_eq_true', decide_eq_false_iff_not]
    exact not_le.2 lasting
  rw [found, Option.filter_some, if_pos kept] at filtered
  exact filtered

/-- While the store is not full nothing but its lapsed entries goes. -/
theorem recorded_below (below : entries.length < server.maxEntries) (key : String) (now : ℚ) :
    isDuplicateAndRecord server key now entries =
      let live := prune server.ttl now entries
      if (live.lookup key).isSome then (true, live) else (false, Dict.set key now live) := by
  have fewer : ¬ server.maxEntries ≤ (prune server.ttl now entries).length := by
    have shrinks : (prune server.ttl now entries).length ≤ entries.length :=
      List.length_filter_le ..
    omega
  unfold isDuplicateAndRecord
  dsimp only
  rw [if_neg fewer, contains_lookup]

end Keys

/-! ### Runs -/

theorem run_snoc (server : Server) (actions : List Action) (action : Action) :
    runOf server (actions ++ [action]) = perform server (runOf server actions) action := by
  unfold runOf
  rw [List.foldl_append]
  rfl

theorem accepted_snoc (served : List Served) (one : Served) :
    accepted (served ++ [one]) =
      accepted served ++ if statusOf one.response == some "accepted" then [one] else [] := by
  unfold accepted
  rw [List.filter_append, List.filter_singleton, cond_eq_ite]

theorem envelope_of_parsed {server : Server} {one : Served} {body : Json}
    {envelope : EventEnvelope} (parsed : requestJson server one.request = .ok body)
    (valid : EventEnvelope.modelValidate server.platform one.drawn body = some envelope) :
    one.envelope server = some envelope := by
  unfold Served.envelope
  rw [parsed]
  exact valid

/-- Whatever the order of the tasks, the ring and what is owed to it come from the
accepted requests alone. -/
theorem accepted_recorded (server : Server) (actions : List Action) :
    ∃ envelopes : List EventEnvelope,
      List.Forall₂ (fun one envelope => one.envelope server = some envelope)
        (accepted (runOf server actions).served) envelopes ∧
      Holds server (runOf server actions).state (envelopes.flatMap (entriesOf server)) := by
  induction actions using List.reverseRecOn with
  | nil => exact ⟨[], .nil, [], List.take_nil.symm, .refl _⟩
  | append_singleton actions action induction =>
      obtain ⟨envelopes, parsed, holds⟩ := induction
      rw [run_snoc]
      cases action with
      | fanOut index => exact ⟨envelopes, parsed, holds.fanned_out index⟩
      | ingest request now drawn =>
          have answered := ingest_answered server request now drawn (runOf server actions).state
          unfold perform
          dsimp only
          rw [accepted_snoc]
          generalize ingest server request now drawn (runOf server actions).state = reply at answered
          cases answered with
          | refused refusal =>
              refine ⟨envelopes, ?_, holds⟩
              simpa [refusal] using parsed
          | duplicate seen =>
              refine ⟨envelopes, ?_, holds⟩
              simpa [status_of_answer] using parsed
          | accepted body valid fresh =>
              rename_i envelope entries
              refine ⟨envelopes ++ [envelope], ?_, ?_⟩
              · rw [status_of_answer, beq_self_eq_true, if_pos rfl]
                exact List.rel_append parsed (.cons (envelope_of_parsed body valid) .nil)
              · have recorded := (holds.pushed envelope.modelDump entries).published
                  (buildEventBus server.platform server.config) envelope
                apply Holds.perm recorded
                rw [List.flatMap_append, List.flatMap_singleton, ← List.singleton_append,
                  ← List.append_assoc]
                exact List.perm_append_comm

/-- Two requests of one key lie the store's time apart. -/
def Apart (server : Server) (earlier later : Served) : Prop :=
  earlier.key server = later.key server → server.ttl ≤ later.now - earlier.now

/-- The store stays below its bound in every state of the run. -/
def Below (server : Server) (actions : List Action) : Prop :=
  ∀ past, past <+: actions → (runOf server past).state.entries.length < server.maxEntries

/-- The keys of the accepted requests are stored with their times until these lapse. -/
structure Held (server : Server) (actions : List Action) : Prop where
  distinct : Distinct (runOf server actions).state.entries
  apart : (accepted (runOf server actions).served).Pairwise (Apart server)
  timed : ∀ one ∈ accepted (runOf server actions).served,
    one.now ∈ actions.filterMap Action.time?
  stored : ∀ one ∈ accepted (runOf server actions).served, ∀ key, one.key server = some key →
    ∀ now, (∀ time ∈ actions.filterMap Action.time?, time ≤ now) → now - one.now < server.ttl →
      (runOf server actions).state.entries.lookup key = some one.now

theorem fan_out_entries (server : Server) (index : Nat) (state : State) :
    (fanOut server index state).entries = state.entries := by
  unfold EventIngest.fanOut
  split
  · rfl
  · split
    · rfl
    · rename_i plugin plugins left
      cases plugin <;> rfl

theorem publish_entries (bus : EventBus) (envelope : EventEnvelope) (state : State) :
    (bus.publishBestEffort envelope state).entries = state.entries := by
  unfold EventBus.publishBestEffort
  split <;> rfl

theorem times_snoc (actions : List Action) (action : Action) :
    (actions ++ [action]).filterMap Action.time? =
      actions.filterMap Action.time? ++ action.time?.toList := by
  rw [List.filterMap_append]
  cases action <;> rfl

theorem monotonic_before {actions : List Action} {action : Action}
    (steady : Monotonic (actions ++ [action])) : Monotonic actions := by
  unfold Monotonic at steady ⊢
  rw [times_snoc] at steady
  exact (List.pairwise_append.1 steady).1

theorem monotonic_latest {actions : List Action} {request : IngestRequest} {now : ℚ}
    {drawn : Drawn} (steady : Monotonic (actions ++ [.ingest request now drawn])) :
    ∀ time ∈ actions.filterMap Action.time?, time ≤ now := by
  unfold Monotonic at steady
  rw [times_snoc] at steady
  intro time earlier
  exact (List.pairwise_append.1 steady).2.2 time earlier now (List.mem_singleton_self now)

theorem Below.before {server : Server} {actions : List Action} {action : Action}
    (below : Below server (actions ++ [action])) : Below server actions :=
  fun past early => below past (early.trans (List.prefix_append _ _))

/-- What a step that leaves the accepted requests as they are must keep. -/
theorem Held.unchanged {server : Server} {actions : List Action} {action : Action}
    (held : Held server actions)
    (same : accepted (runOf server (actions ++ [action])).served =
      accepted (runOf server actions).served)
    (distinct : Distinct (runOf server (actions ++ [action])).state.entries)
    (kept : ∀ key time now, (runOf server actions).state.entries.lookup key = some time →
      (∀ earlier ∈ (actions ++ [action]).filterMap Action.time?, earlier ≤ now) →
      now - time < server.ttl →
      (runOf server (actions ++ [action])).state.entries.lookup key = some time) :
    Held server (actions ++ [action]) where
  distinct := distinct
  apart := by
    rw [same]
    exact held.apart
  timed := by
    intro one member
    rw [same] at member
    rw [times_snoc]
    exact List.mem_append_left _ (held.timed one member)
  stored := by
    intro one member key keyed now late lasting
    rw [same] at member
    have earlier : ∀ time ∈ actions.filterMap Action.time?, time ≤ now := by
      intro time before
      apply late
      rw [times_snoc]
      exact List.mem_append_left _ before
    exact kept key one.now now (held.stored one member key keyed now earlier lasting) late lasting

/-- A stored time that has not lapsed now had not lapsed before. -/
theorem Held.found_before {server : Server} {actions : List Action} {request : IngestRequest}
    {now : ℚ} {drawn : Drawn} (held : Held server actions)
    (steady : Monotonic (actions ++ [.ingest request now drawn])) {one : Served}
    (member : one ∈ accepted (runOf server actions).served) {key : String}
    (keyed : one.key server = some key) (lasting : now - one.now < server.ttl) :
    (prune server.ttl now (runOf server actions).state.entries).lookup key = some one.now :=
  prune_keeps held.distinct (held.stored one member key keyed now (monotonic_latest steady) lasting) lasting

theorem Held.admitted {server : Server} {actions : List Action} {request : IngestRequest}
    {now : ℚ} {drawn : Drawn} (held : Held server actions)
    (steady : Monotonic (actions ++ [.ingest request now drawn])) {one : Served} {key : String}
    (time : one.now = now) (keyed : one.key server = some key)
    (absent : (prune server.ttl now (runOf server actions).state.entries).lookup key = none)
    (added : accepted (runOf server (actions ++ [.ingest request now drawn])).served =
      accepted (runOf server actions).served ++ [one])
    (entries : (runOf server (actions ++ [.ingest request now drawn])).state.entries =
      Dict.set key now (prune server.ttl now (runOf server actions).state.entries)) :
    Held server (actions ++ [.ingest request now drawn]) := by
  have lapsed : ∀ earlier ∈ accepted (runOf server actions).served,
      earlier.key server = some key → server.ttl ≤ now - earlier.now := by
    intro earlier member same
    by_contra short
    rw [held.found_before steady member same (not_le.1 short)] at absent
    cases absent
  have present : now ∈ (actions ++ [Action.ingest request now drawn]).filterMap Action.time? := by
    rw [times_snoc]
    exact List.mem_append_right _ (List.mem_singleton_self now)
  constructor
  · rw [entries]
    exact (held.distinct.filter _).set _ _
  · rw [added, List.pairwise_append]
    refine ⟨held.apart, List.pairwise_singleton _ _, ?_⟩
    intro earlier member later single same
    rw [List.mem_singleton.1 single] at same ⊢
    rw [time]
    exact lapsed earlier member (same.trans keyed)
  · intro earlier member
    rw [added, List.mem_append, List.mem_singleton] at member
    rcases member with before | here
    · rw [times_snoc]
      exact List.mem_append_left _ (held.timed earlier before)
    · rw [here, time]
      exact present
  · intro earlier member other same later late lasting
    rw [added, List.mem_append, List.mem_singleton] at member
    rw [entries, lookup_set]
    rcases member with before | here
    · have shorter : now - earlier.now < server.ttl := by
        have reached := late now present
        linarith only [reached, lasting]
      by_cases repeated : other = key
      · subst repeated
        exact absurd (lapsed earlier before same) (not_le.2 shorter)
      · rw [if_neg repeated]
        exact held.found_before steady before same shorter
    · subst here
      rw [keyed, Option.some.injEq] at same
      rw [if_pos same.symm, time]

theorem accepted_held (server : Server) (actions : List Action) :
    Monotonic actions → Below server actions → Held server actions := by
  induction actions using List.reverseRecOn with
  | nil =>
      intro steady below
      exact ⟨distinct_nil, .nil, fun one member => absurd member (List.not_mem_nil),
        fun one member => absurd member (List.not_mem_nil)⟩
  | append_singleton actions action induction =>
      intro steady below
      have held := induction (monotonic_before steady) below.before
      have room := below actions (List.prefix_append _ _)
      have next := run_snoc server actions action
      cases action with
      | fanOut index =>
          have same : (runOf server (actions ++ [.fanOut index])).state.entries =
              (runOf server actions).state.entries := by
            rw [next]
            exact fan_out_entries ..
          apply held.unchanged
          · rw [next]
            rfl
          · rw [same]
            exact held.distinct
          · intro key time now found _ _
            rw [same]
            exact found
      | ingest request now drawn =>
          have answered := ingest_answered server request now drawn (runOf server actions).state
          unfold perform at next
          dsimp only at next
          generalize ingest server request now drawn (runOf server actions).state = reply
            at answered next
          cases answered with
          | refused refusal =>
              apply held.unchanged
              · rw [next, accepted_snoc, refusal]
                exact List.append_nil _
              · rw [next]
                exact held.distinct
              · intro key time later found _ _
                rw [next]
                exact found
          | duplicate seen =>
              rw [recorded_below room] at seen
              dsimp only at seen
              split at seen
              · cases seen
                apply held.unchanged
                · rw [next, accepted_snoc, status_of_answer]
                  exact List.append_nil _
                · rw [next]
                  exact held.distinct.filter _
                · intro key time later found late lasting
                  rw [next]
                  have reached : now ≤ later := by
                    apply late
                    rw [times_snoc]
                    exact List.mem_append_right _ (List.mem_singleton_self now)
                  exact prune_keeps held.distinct found (by linarith only [reached, lasting])
              · cases seen
          | accepted parsed valid fresh =>
              rw [recorded_below room] at fresh
              dsimp only at fresh
              split at fresh
              · cases fresh
              · rename_i envelope _ absent
                cases fresh
                have keyed : (Served.mk request now drawn
                    (answer "accepted" (effectiveKey request envelope) envelope.event.id)).key
                      server = some (effectiveKey request envelope) := by
                  unfold Served.key
                  rw [envelope_of_parsed parsed valid]
                  rfl
                apply held.admitted steady rfl keyed
                · exact Option.not_isSome_iff_eq_none.1 absent
                · rw [next, accepted_snoc, status_of_answer]
                  rfl
                · rw [next]
                  exact publish_entries ..

/-! ### Ingested events -/

/-- On a bus that lets every event through, the ring holds two entries for each accepted
request and nothing of the others, and the accepted requests of one key lie apart. Event
ids and idempotency keys are texts of scalar values: one with a lone surrogate is
recorded as well, but its answer cannot be encoded. -/
theorem ingested_recorded_twice (server : Server) (actions : List Action)
    (allowing : (buildEventBus server.platform server.config).filter = .allowAll) :
    ((∀ task ∈ (runOf server actions).state.tasks, task.plugins = []) →
      ∃ envelopes pushes,
        List.Forall₂ (fun one envelope => one.envelope server = some envelope)
          (accepted (runOf server actions).served) envelopes ∧
        pushes.Perm (envelopes.flatMap fun envelope =>
          [envelope.modelDump, envelope.modelDump]) ∧
        (runOf server actions).state.recent = pushes.take server.capacity ∧
        (2 * (accepted (runOf server actions).served).length ≤ server.capacity →
          (runOf server actions).state.recent = pushes)) ∧
      (Monotonic actions → Below server actions →
        (accepted (runOf server actions).served).Pairwise (Apart server)) := by
  constructor
  · intro finished
    obtain ⟨envelopes, parsed, pushes, newest, all⟩ := accepted_recorded server actions
    rw [owed_by_finished finished, List.append_nil] at all
    have doubled : envelopes.flatMap (entriesOf server) =
        envelopes.flatMap fun envelope => [envelope.modelDump, envelope.modelDump] := by
      congr 1
      funext envelope
      exact entries_of_allowed allowing envelope
    rw [doubled] at all
    refine ⟨envelopes, pushes, parsed, all, newest, ?_⟩
    intro room
    have length : pushes.length = 2 * (accepted (runOf server actions).served).length := by
      rw [all.length_eq, parsed.length_eq, List.length_flatMap]
      simp only [List.length_cons, List.length_nil, List.map_const', List.sum_replicate]
      simp [Nat.mul_comm]
    rw [newest]
    exact List.take_of_length_le (by omega)
  · intro steady below
    exact (accepted_held server actions steady below).apart

def sampleServer : Server where
  platform := Runs.samplePlatform
  config := { eventsPublicIngest := true }

def widgetCreated (now : ℚ) : Action :=
  .ingest { body := some "\x7b\"event\": \x7b\"event_type\": \"widget.created\"\x7d\x7d" } now
    { eventId := "event", timestamp := 0, correlationId := "correlation", producedAt := 0 }

/-- The same event at 0, 1 and 300 seconds; the second is answered as a duplicate, and
the first task ends after the third request. -/
def sampleActions : List Action :=
  [widgetCreated 0, widgetCreated 1, .fanOut 0, widgetCreated 300, .fanOut 1, .fanOut 0, .fanOut 1]

theorem sample_allowing :
    (buildEventBus sampleServer.platform sampleServer.config).filter = .allowAll := by
  decide +kernel

theorem sample_below {actions : List Action}
    (below : ∀ past ∈ actions.inits, (runOf sampleServer past).state.entries.length < 100000) :
    Below sampleServer actions := by
  intro past early
  exact below past ((List.mem_inits past actions).2 early)

theorem widget_recorded_four_times :
    (accepted (runOf sampleServer sampleActions).served).length = 2 ∧
      (runOf sampleServer sampleActions).state.recent.length = 4 ∧
      (accepted (runOf sampleServer sampleActions).served).Pairwise (Apart sampleServer) := by
  obtain ⟨twice, apart⟩ := ingested_recorded_twice sampleServer sampleActions sample_allowing
  obtain ⟨envelopes, pushes, parsed, all, _, whole⟩ := twice (by decide +kernel)
  have two : (accepted (runOf sampleServer sampleActions).served).length = 2 := by decide +kernel
  have steady : Monotonic sampleActions := by
    unfold Monotonic
    decide +kernel
  have envelopes_two : envelopes.length = 2 := parsed.length_eq.symm.trans two
  have room : 2 * (accepted (runOf sampleServer sampleActions).served).length ≤
      sampleServer.capacity := by
    rw [two]
    decide
  refine ⟨two, ?_, apart steady (sample_below (by decide +kernel))⟩
  rw [whole room, all.length_eq, List.length_flatMap]
  simp [envelopes_two]

/-- One accepted event leaves two entries. -/
theorem single_event_listed_twice :
    ¬ ∀ (server : Server) (actions : List Action),
      (buildEventBus server.platform server.config).filter = .allowAll →
      (∀ task ∈ (runOf server actions).state.tasks, task.plugins = []) →
      Monotonic actions → Below server actions →
      (accepted (runOf server actions).served).length < server.capacity →
      (runOf server actions).state.recent.length =
        (accepted (runOf server actions).served).length := by
  intro claimed
  have once := claimed sampleServer [widgetCreated 0, .fanOut 0, .fanOut 0] sample_allowing
    (by decide +kernel) (by unfold Monotonic; decide +kernel) (sample_below (by decide +kernel))
    (by decide +kernel)
  revert once
  decide +kernel

end OAuth2Server.RecordedEvents
