import OAuth2Server.TokenBuckets
import OAuth2Server.Resilience
import OAuth2Server.JsonText

/-!
# The request limit of each caller

`DenylistGuard` and, inside it, `RateLimitMiddleware`. A request is turned away
by the guard, passes on an exempt path unseen, or is charged to its caller's
bucket. What a caller gets depends on the caller's own charged requests alone.
Tokens and times are exact rationals. The limiter computes in doubles, where a
caller that has waited as it was told can be a rounding short of its token.
-/

namespace OAuth2Server.RequestLimits

open OAuth2Server Models JsonText Process KeyedCells TokenBuckets

set_option autoImplicit false

/-! ### The middleware -/

/-- A request as the two layers see it: its path, its peer, the first
`x-forwarded-for` header, what the denylist lookup of the peer comes to and the
clock readings of its check. -/
structure Arrival where
  path : String
  peer : Option String
  forwardedFor : Option String := none
  lookup : Except Unit (Option DenylistEntry) := .ok none
  now : ℚ
  time : ℚ

/-- `DenylistGuard`: a failing lookup and a request without a peer pass. -/
def denied (arrival : Arrival) : Bool :=
  match arrival.peer, arrival.lookup with
  | some _, .ok (some _) => true
  | _, _ => false

/-- `request.client.host`, or `"unknown"`. -/
def peerKey (arrival : Arrival) : String := arrival.peer.getD "unknown"

/-- `forwarded_for.split(",")[0].strip()`. -/
def firstForwarded (header : String) : String :=
  Text.strip (String.ofList (header.toList.takeWhile (· != ',')))

/-- `_rate_limit_key`. -/
def rateLimitKey (trustProxyHeaders : Bool) (arrival : Arrival) : String :=
  if trustProxyHeaders then
    match arrival.forwardedFor with
    | none => peerKey arrival
    | some header =>
        if firstForwarded header != "" then firstForwarded header else peerKey arrival
  else peerKey arrival

/-- What the layers make of a request. -/
inductive Verdict where
  | denied
  | unmetered
  | metered (result : RateLimitResult)
  deriving DecidableEq

/-- Whether a request is charged to a bucket. -/
def charged (arrival : Arrival) : Bool := !denied arrival && !Resilience.isExempt arrival.path

/-- The check a charged request makes. -/
def checkOf (trustProxyHeaders : Bool) (arrival : Arrival) : Check where
  key := rateLimitKey trustProxyHeaders arrival
  now := arrival.now
  time := arrival.time

/-- Both layers: the verdict, and the limiter after it. -/
def serve (trustProxyHeaders : Bool) (limiter : Limiter) (arrival : Arrival) : Verdict × Limiter :=
  if denied arrival then (.denied, limiter)
  else if Resilience.isExempt arrival.path then (.unmetered, limiter)
  else
    let checked := check limiter (checkOf trustProxyHeaders arrival)
    (.metered checked.1, checked.2)

/-- A response on the wire. -/
structure Reply where
  status : Nat
  headers : List (String × String)
  body : String

def securityHeaders : List (String × String) :=
  [("Cache-Control", "no-store"), ("Pragma", "no-cache"), ("X-Frame-Options", "DENY"),
    ("Referrer-Policy", "no-referrer"), ("X-Content-Type-Options", "nosniff")]

/-- `_is_oauth_or_admin_api`. -/
def isOauthOrAdminApi (path : String) : Bool :=
  Text.startsWith path "/oauth" || Text.startsWith path "/admin/api"

def securityHeadersFor (path : String) : List (String × String) :=
  if isOauthOrAdminApi path then securityHeaders else []

/-- Compact JSON, as both response classes write it. -/
def compact (value : Json) : String :=
  dumps { itemSeparator := ",", keySeparator := ":", floatRepr := fun _ => "" } value

/-- A `JSONResponse`, which writes the names of its headers in small letters. -/
def jsonResponse (status : Nat) (headers : List (String × String)) (value : Json) : Reply where
  status := status
  headers := headers.map (fun header => (header.1.toLower, header.2)) ++
    [("content-length", toString (compact value).length), ("content-type", "application/json")]
  body := compact value

/-- The answer of `DenylistGuard`. -/
def accessDenied (path : String) : Reply :=
  jsonResponse 403 (securityHeadersFor path) (.obj [("error", .str "access_denied"),
    ("error_description", .str "request source is denylisted")])

/-- `_send_rate_limit_rejected`. -/
def rejected (path : String) (result : RateLimitResult) : Reply :=
  let retryAfter := result.retryAfter.getD 1
  let payload := compact (.obj [("error", .str "too_many_requests"),
    ("error_description", .str "Rate limit exceeded. Try again later."),
    ("retry_after", .int retryAfter)])
  { status := 429
    headers := [("content-type", "application/json"),
      ("content-length", toString payload.length), ("Retry-After", toString retryAfter),
      ("X-RateLimit-Limit", toString result.limit), ("X-RateLimit-Remaining", "0"),
      ("X-RateLimit-Reset", toString result.resetAt)] ++ securityHeadersFor path
    body := payload }

/-- The application's own reply with the state of the bucket on it. -/
def labelled (result : RateLimitResult) (reply : Reply) : Reply :=
  { reply with
    headers := reply.headers ++ [("x-ratelimit-limit", toString result.limit),
      ("x-ratelimit-remaining", toString result.remaining),
      ("x-ratelimit-reset", toString result.resetAt)] }

/-- The reply to a request, given the application's. -/
def respond (arrival : Arrival) (app : Reply) : Verdict → Reply
  | .denied => accessDenied arrival.path
  | .unmetered => app
  | .metered result => if result.allowed then labelled result app else rejected arrival.path result

/-! ### Services seen through their events -/

section Seen

variable {κ σ τ E E' ο ο' S : Type}

/-- The service for events that stand for others, with its answers rewritten. -/
def pull [LE τ] (service : Service κ σ τ E ο) (event : E' → E) (read : ο → ο') :
    Service κ σ τ E' ο' where
  key := fun seen => service.key (event seen)
  now := fun seen => service.now (event seen)
  live := service.live
  access := fun seen cell =>
    (read (service.access (event seen) cell).1, (service.access (event seen) cell).2)
  lapses := service.lapses

/-- A step for events that stand for others. -/
def pullStep (step : S → E → ο × S) (event : E' → E) (read : ο → ο') (store : S) (seen : E') :
    ο' × S := (read (step store (event seen)).1, (step store (event seen)).2)

theorem pull_realizes [LinearOrder τ] {service : Service κ σ τ E ο} {valid : S → Prop}
    {view : S → κ → Option σ} {step : S → E → ο × S}
    (realizes : Realizes service valid view step) (event : E' → E) (read : ο → ο') :
    Realizes (pull service event read) valid view (pullStep step event read) where
  keeps := fun store seen valid => realizes.keeps store (event seen) valid
  steps := fun store seen valid => by
    have steps := realizes.steps store (event seen) valid
    exact ⟨congrArg read steps.answers, steps.own, steps.others⟩

/-- The log of the events that are stood for. -/
theorem log_pull (step : S → E → ο × S) (event : E' → E) (read : ο → ο') (store : S)
    (events : List E') : ∃ logged : List (E' × ο),
      log (pullStep step event read) store events =
        logged.map (fun entry => (entry.1, read entry.2)) ∧
      log step store (events.map event) = logged.map fun entry => (event entry.1, entry.2) := by
  induction events generalizing store with
  | nil => exact ⟨[], rfl, rfl⟩
  | cons seen rest induction =>
      obtain ⟨logged, pulled, plain⟩ := induction (step store (event seen)).2
      exists (seen, (step store (event seen)).1) :: logged
      constructor
      · rw [log_cons, List.map_cons]
        exact congrArg _ pulled
      · rw [List.map_cons, log_cons, List.map_cons, plain]

/-- The steps that leave the store alone can be left out. -/
theorem log_skipping {step : S → E → ο × S} {passes : E → Bool}
    (skips : ∀ store event, passes event = false → (step store event).2 = store)
    (store : S) (events : List E) :
    (log step store events).filter (fun entry => passes entry.1) =
      log step store (events.filter passes) := by
  induction events generalizing store with
  | nil => rfl
  | cons event rest induction =>
      rw [log_cons]
      cases passed : passes event with
      | true =>
          rw [List.filter_cons_of_pos (by simpa using passed), List.filter_cons_of_pos passed,
            log_cons, induction]
      | false =>
          rw [List.filter_cons_of_neg (by simp [passed]), List.filter_cons_of_neg (by simp [passed]),
            skips store event passed, induction]

theorem log_congr {first second : S → E → ο × S} {events : List E}
    (same : ∀ store, ∀ event ∈ events, first store event = second store event) (store : S) :
    log first store events = log second store events := by
  induction events generalizing store with
  | nil => rfl
  | cons event rest induction =>
      have here := same store event List.mem_cons_self
      rw [log_cons, log_cons, here,
        induction fun store event member => same store event (List.mem_cons_of_mem _ member)]

end Seen

/-! ### Runs -/

/-- Whether a request is charged to the bucket of a key. -/
def about (trustProxyHeaders : Bool) (key : String) (arrival : Arrival) : Bool :=
  charged arrival && decide (rateLimitKey trustProxyHeaders arrival = key)

/-- Whether the limiter let a request of an interval pass. -/
def passed (start finish : ℚ) : Arrival × Verdict → Bool
  | (arrival, .metered result) =>
      decide (start ≤ arrival.now) && decide (arrival.now ≤ finish) && result.allowed
  | _ => false

section Runs

variable {maxTokens windowSecs : Int} {trustProxyHeaders : Bool}

/-- The buckets as the requests charged to them see them. -/
def meter (maxTokens windowSecs : Int) (trustProxyHeaders : Bool) :
    Service String Bucket ℚ Arrival Verdict :=
  pull (buckets maxTokens windowSecs) (checkOf trustProxyHeaders) Verdict.metered

theorem serve_uncharged (limiter : Limiter) {arrival : Arrival}
    (uncharged : charged arrival = false) : (serve trustProxyHeaders limiter arrival).2 = limiter := by
  unfold serve
  by_cases blocked : denied arrival = true
  · rw [if_pos blocked]
  · have exempt : Resilience.isExempt arrival.path = true := by
      simpa [charged, blocked] using uncharged
    rw [if_neg blocked, if_pos exempt]

theorem serve_charged (limiter : Limiter) {arrival : Arrival} (pays : charged arrival = true) :
    serve trustProxyHeaders limiter arrival =
      pullStep check (checkOf trustProxyHeaders) Verdict.metered limiter arrival := by
  have admitted : denied arrival = false ∧ Resilience.isExempt arrival.path = false := by
    simpa [charged] using pays
  unfold serve
  rw [admitted.1, admitted.2]
  rfl

/-- The charged requests of a run are answered as the meter alone answers them. -/
theorem charged_log (limiter : Limiter) (arrivals : List Arrival) :
    (log (serve trustProxyHeaders) limiter arrivals).filter (fun entry => charged entry.1) =
      log (pullStep check (checkOf trustProxyHeaders) Verdict.metered) limiter
        (arrivals.filter charged) := by
  have skips : ∀ limiter arrival, charged arrival = false →
      (serve trustProxyHeaders limiter arrival).2 = limiter := fun limiter _ uncharged =>
    serve_uncharged limiter uncharged
  rw [log_skipping skips]
  apply log_congr
  intro limiter arrival member
  exact serve_charged limiter (List.mem_filter.1 member).2

/-- The requests of a key are answered as its bucket alone answers them. -/
theorem about_log (tokens : 0 < maxTokens) (window : 0 < windowSecs) {limiter : Limiter}
    (valid : Valid maxTokens windowSecs limiter) (empty : limiter.buckets = [])
    {arrivals : List Arrival}
    (ordered : arrivals.Pairwise fun arrival later => arrival.now ≤ later.now) (key : String) :
    (log (serve trustProxyHeaders) limiter arrivals).filter
        (fun entry => about trustProxyHeaders key entry.1) =
      log (meter maxTokens windowSecs trustProxyHeaders).cellStep none
        (arrivals.filter (about trustProxyHeaders key)) := by
  have realizes := pull_realizes (check_realizes tokens window) (checkOf trustProxyHeaders)
    Verdict.metered
  have inOrder : (meter maxTokens windowSecs trustProxyHeaders).InOrder (arrivals.filter charged) :=
    ordered.filter _
  have alike : ∀ arrival ∈ arrivals.filter charged,
      Alike (meter maxTokens windowSecs trustProxyHeaders) arrival.now
        (limiter.buckets.lookup key) none := by
    intro arrival member
    rw [empty]
    exact Alike.refl none
  have logged := realizes.log_about key inOrder valid alike
  rw [← charged_log, List.filter_filter, List.filter_filter] at logged
  have same : (fun arrival => decide (rateLimitKey trustProxyHeaders arrival = key) &&
      charged arrival) = about trustProxyHeaders key := funext fun arrival => Bool.and_comm _ _
  rw [← same]
  exact logged

/-- The log of a bucket, as the checks behind it. -/
theorem meter_log (cell : Option Bucket) (arrivals : List Arrival) :
    ∃ logged : List (Arrival × RateLimitResult),
      log (meter maxTokens windowSecs trustProxyHeaders).cellStep cell arrivals =
        logged.map (fun entry => (entry.1, Verdict.metered entry.2)) ∧
      log (buckets maxTokens windowSecs).cellStep cell
          (arrivals.map (checkOf trustProxyHeaders)) =
        logged.map fun entry => (checkOf trustProxyHeaders entry.1, entry.2) :=
  log_pull (buckets maxTokens windowSecs).cellStep (checkOf trustProxyHeaders) Verdict.metered
    cell arrivals

/-- What an interval lets pass of a bucket's requests. -/
theorem passed_within (tokens : 0 < maxTokens) (window : 0 < windowSecs) {start finish : ℚ}
    (length : start ≤ finish) {arrivals : List Arrival}
    (ordered : arrivals.Pairwise fun arrival later => arrival.now ≤ later.now) :
    (((log (meter maxTokens windowSecs trustProxyHeaders).cellStep none arrivals).countP
        (passed start finish) : Nat) : ℚ) ≤
      maxTokens + (finish - start) * refillRate maxTokens windowSecs := by
  obtain ⟨logged, metered, checked⟩ := @meter_log maxTokens windowSecs trustProxyHeaders none
    arrivals
  have inOrder : (buckets maxTokens windowSecs).InOrder
      (arrivals.map (checkOf trustProxyHeaders)) := List.pairwise_map.2 ordered
  have sound : ∀ call ∈ arrivals.map (checkOf trustProxyHeaders),
      Sound maxTokens call.now none := by
    intro call member bucket stored
    cases stored
  have bound := taken_within tokens window length (arrivals.map (checkOf trustProxyHeaders)) none
    sound inOrder
  rw [checked, List.countP_map] at bound
  rw [metered, List.countP_map]
  exact bound

/-- Two requests of a bucket in a row: the second passes once the seconds that the
first was told are over. -/
theorem waited_passes (tokens : 0 < maxTokens) (window : 0 < windowSecs)
    {arrivals : List Arrival} {earlier later : List (Arrival × Verdict)} {first next : Arrival}
    {result : RateLimitResult} {verdict : Verdict} {seconds : Int}
    (logged : log (meter maxTokens windowSecs trustProxyHeaders).cellStep none arrivals =
      earlier ++ (first, .metered result) :: (next, verdict) :: later)
    (refused : result.retryAfter = some seconds) (waited : first.now + seconds ≤ next.now) :
    ∃ answer, verdict = .metered answer ∧ answer.allowed = true := by
  obtain ⟨entries, metered, checked⟩ := @meter_log maxTokens windowSecs trustProxyHeaders none
    arrivals
  rw [logged] at metered
  obtain ⟨before, rest, split, _, tail⟩ := List.map_eq_append_iff.1 metered.symm
  obtain ⟨one, rest, rfl, here, tail⟩ := List.map_eq_cons_iff.1 tail
  obtain ⟨two, rest, rfl, there, _⟩ := List.map_eq_cons_iff.1 tail
  cases here
  cases there
  rw [split, List.map_append, List.map_cons, List.map_cons] at checked
  exact ⟨two.2, rfl, adjacent_allowed tokens window checked refused waited⟩

/-- What the check of a request left to its caller. -/
structure Told (entry : Arrival × Verdict) (result : RateLimitResult) : Prop where
  pays : charged entry.1 = true
  seconds : result.allowed = false → ∃ seconds, result.retryAfter = some seconds ∧ 1 ≤ seconds

/-- A request is metered only where it is charged, and a refusal names seconds. -/
theorem serve_told (limiter : Limiter) {arrival : Arrival} {result : RateLimitResult}
    (metered : (serve trustProxyHeaders limiter arrival).1 = .metered result) :
    Told (arrival, .metered result) result := by
  cases pays : charged arrival with
  | false =>
      unfold serve at metered
      by_cases blocked : denied arrival = true
      · rw [if_pos blocked] at metered
        cases metered
      · have exempt : Resilience.isExempt arrival.path = true := by
          simpa [charged, blocked] using pays
        rw [if_neg blocked, if_pos exempt] at metered
        cases metered
  | true =>
      rw [serve_charged limiter pays] at metered
      cases metered
      refine ⟨pays, ?_⟩
      intro refused
      unfold check checkUnswept consume at refused ⊢
      dsimp only at refused ⊢
      split at refused
      · cases refused
      · rename_i empty
        rw [if_neg empty]
        exact ⟨_, rfl, le_max_left _ _⟩

theorem log_told (limiter : Limiter) (arrivals : List Arrival) :
    ∀ entry ∈ log (serve trustProxyHeaders) limiter arrivals, ∀ result,
      entry.2 = .metered result → Told entry result := by
  apply @log_forall _ _ _ _ (fun _ => True) fun entry =>
    ∀ result, entry.2 = .metered result → Told entry result
  · intro _ _ _
    trivial
  · intro limiter arrival _ result metered
    dsimp only at metered
    rw [metered]
    exact serve_told limiter metered
  · trivial

end Runs

/-! ### What a caller gets -/

section Callers

variable (trustProxyHeaders : Bool)

/-- The charged requests of a key are answered as if no others had come. -/
def Isolated (limiter : Limiter) (arrivals : List Arrival) : Prop :=
  ∀ key, (log (serve trustProxyHeaders) limiter arrivals).filter
      (fun entry => about trustProxyHeaders key entry.1) =
    log (serve trustProxyHeaders) limiter (arrivals.filter (about trustProxyHeaders key))

/-- Of a key, an interval lets a full bucket and its refill pass at most. -/
def Throttled (limiter : Limiter) (transcript : List (Arrival × Verdict)) : Prop :=
  ∀ (key : String) (start length : ℚ), 0 ≤ length →
    (((transcript.filter fun entry => about trustProxyHeaders key entry.1).countP
        (passed start (start + length)) : Nat) : ℚ) ≤
      limiter.maxTokens + length * limiter.maxTokens / limiter.windowSecs

/-- The reply to a refused request names seconds, and the key's next charged
request passes if it waited that long. -/
def Retried (transcript : List (Arrival × Verdict)) : Prop :=
  ∀ (earlier between later : List (Arrival × Verdict)) (first next : Arrival)
    (result : RateLimitResult) (verdict : Verdict),
    transcript = earlier ++ (first, .metered result) :: between ++ (next, verdict) :: later →
    result.allowed = false →
    about trustProxyHeaders (rateLimitKey trustProxyHeaders first) next = true →
    (∀ entry ∈ between,
      about trustProxyHeaders (rateLimitKey trustProxyHeaders first) entry.1 = false) →
    ∃ seconds : Int, 1 ≤ seconds ∧
      (∀ app, (respond first app (.metered result)).status = 429 ∧
        (respond first app (.metered result)).headers.lookup "Retry-After" =
          some (toString seconds)) ∧
      (first.now + seconds ≤ next.now → ∃ answer, ∀ app,
        respond next app verdict = labelled answer app)

/-- The forwarded headers of a run replaced. -/
def forged (forge : Arrival → Option String) (arrival : Arrival) : Arrival :=
  { arrival with forwardedFor := forge arrival }

end Callers

section Callers

variable {maxTokens windowSecs : Int} {trustProxyHeaders : Bool}

theorem isolated (tokens : 0 < maxTokens) (window : 0 < windowSecs) {limiter : Limiter}
    (valid : Valid maxTokens windowSecs limiter) (empty : limiter.buckets = [])
    {arrivals : List Arrival}
    (ordered : arrivals.Pairwise fun arrival later => arrival.now ≤ later.now) :
    Isolated trustProxyHeaders limiter arrivals := by
  intro key
  have whole := @about_log _ _ trustProxyHeaders tokens window _ valid empty _ ordered key
  have alone := @about_log _ _ trustProxyHeaders tokens window _ valid empty _
    (ordered.filter (about trustProxyHeaders key)) key
  have own : ∀ entry ∈ log (serve trustProxyHeaders) limiter
      (arrivals.filter (about trustProxyHeaders key)),
      about trustProxyHeaders key entry.1 = true := by
    intro entry member
    have listed := List.mem_map_of_mem (f := Prod.fst) member
    rw [log_events] at listed
    exact (List.mem_filter.1 listed).2
  rw [List.filter_eq_self.2 own, List.filter_filter] at alone
  simp only [Bool.and_self] at alone
  rw [whole, alone]

theorem throttled (tokens : 0 < maxTokens) (window : 0 < windowSecs) {limiter : Limiter}
    (valid : Valid maxTokens windowSecs limiter) (empty : limiter.buckets = [])
    {arrivals : List Arrival}
    (ordered : arrivals.Pairwise fun arrival later => arrival.now ≤ later.now) :
    Throttled trustProxyHeaders limiter (log (serve trustProxyHeaders) limiter arrivals) := by
  intro key start length nonneg
  have bound := @passed_within _ _ trustProxyHeaders tokens window start (start + length)
    (by linarith) _ (ordered.filter (about trustProxyHeaders key))
  have refill : (start + length - start) * refillRate maxTokens windowSecs =
      length * maxTokens / windowSecs := by
    unfold refillRate
    ring
  rw [← about_log tokens window valid empty ordered key, refill] at bound
  rw [valid.maxTokens, valid.windowSecs]
  exact bound

theorem retried (tokens : 0 < maxTokens) (window : 0 < windowSecs) {limiter : Limiter}
    (valid : Valid maxTokens windowSecs limiter) (empty : limiter.buckets = [])
    {arrivals : List Arrival}
    (ordered : arrivals.Pairwise fun arrival later => arrival.now ≤ later.now) :
    Retried trustProxyHeaders (log (serve trustProxyHeaders) limiter arrivals) := by
  intro earlier between later first next result verdict logged refused pays apart
  have told := log_told limiter arrivals (first, .metered result) (by rw [logged]; simp) result rfl
  obtain ⟨seconds, named, positive⟩ := told.seconds refused
  refine ⟨seconds, positive, ?_, ?_⟩
  · intro app
    have reply : respond first app (.metered result) = rejected first.path result := by
      simp only [respond, refused, Bool.false_eq_true, if_false]
    rw [reply, rejected, named]
    exact ⟨rfl, rfl⟩
  · intro waited
    have own := @about_log _ _ trustProxyHeaders tokens window _ valid empty _ ordered
      (rateLimitKey trustProxyHeaders first)
    have firstOwn : about trustProxyHeaders (rateLimitKey trustProxyHeaders first) first = true := by
      simp [about, told.pays]
    have skipped : between.filter (fun entry =>
        about trustProxyHeaders (rateLimitKey trustProxyHeaders first) entry.1) = [] := by
      rw [List.filter_eq_nil_iff]
      intro entry member
      rw [apart entry member]
      exact Bool.false_ne_true
    rw [logged, List.filter_append, List.filter_append,
      List.filter_cons_of_pos (by simpa using firstOwn),
      List.filter_cons_of_pos (by simpa using pays), skipped, List.append_assoc] at own
    obtain ⟨answer, rfl, allowed⟩ := waited_passes tokens window own.symm named waited
    refine ⟨answer, ?_⟩
    intro app
    simp only [respond, allowed, if_true]

/-- Nothing a caller forwards counts where the headers of proxies are not trusted. -/
theorem forged_log (forge : Arrival → Option String) (limiter : Limiter)
    (arrivals : List Arrival) :
    (log (serve false) limiter (arrivals.map (forged forge))).map Prod.snd =
      (log (serve false) limiter arrivals).map Prod.snd := by
  obtain ⟨logged, pulled, plain⟩ := log_pull (serve false) (forged forge) id limiter arrivals
  have same : log (pullStep (serve false) (forged forge) id) limiter arrivals =
      log (serve false) limiter arrivals := by
    apply log_congr
    intro limiter arrival member
    rfl
  rw [plain, ← same, pulled, List.map_map, List.map_map]
  rfl

/-- In exact arithmetic, for every limiter and every sequence of requests at times
that do not run backwards: the charged requests of a key are answered as if no others had come,
denied and exempt ones among them; no interval lets more of a key pass than its
length allows; a refused caller that waits as it was told passes; and without
trust in proxies the forwarded headers change no answer. -/
theorem request_limits (maxRequests windowSecs : Int) (trustProxyHeaders : Bool)
    (arrivals : List Arrival)
    (ordered : arrivals.Pairwise fun arrival later => arrival.now ≤ later.now) :
    let limiter := tokenBucketLimiter maxRequests windowSecs
    let transcript := log (serve trustProxyHeaders) limiter arrivals
    Isolated trustProxyHeaders limiter arrivals ∧
      Throttled trustProxyHeaders limiter transcript ∧
      Retried trustProxyHeaders transcript ∧
      (trustProxyHeaders = false → ∀ forge,
        (log (serve trustProxyHeaders) limiter (arrivals.map (forged forge))).map Prod.snd =
          transcript.map Prod.snd) := by
  intro limiter transcript
  have tokens : (0 : Int) < max 1 maxRequests := by omega
  have window : (0 : Int) < max 1 windowSecs := by omega
  have valid := fresh_valid maxRequests windowSecs
  refine ⟨isolated tokens window valid rfl ordered, throttled tokens window valid rfl ordered,
    retried tokens window valid rfl ordered, ?_⟩
  intro distrusted forge
  cases distrusted
  exact forged_log forge limiter arrivals

end Callers

/-- Two callers behind their peers, one of which is put on the denylist. -/
def twoCallers : List Arrival :=
  [{ path := "/oauth/token", peer := some "10.0.0.1", now := 0, time := 0 },
    { path := "/oauth/token", peer := some "10.0.0.2", now := 0, time := 0 },
    { path := "/oauth/token", peer := some "10.0.0.1", now := 1, time := 1 },
    { path := "/health", peer := some "10.0.0.1", now := 1, time := 1 },
    { path := "/oauth/token", peer := some "10.0.0.2", now := 2, time := 2,
      lookup := .ok (some { id := "1", kind := "ip", value := "10.0.0.2", createdAt := 0 }) },
    { path := "/oauth/token", peer := some "10.0.0.1", now := 2, time := 2 }]

theorem two_callers_limited :
    ((log (serve false) (tokenBucketLimiter 1 2) twoCallers).map fun entry =>
        (respond entry.1 ⟨200, [], ""⟩ entry.2).status) = [200, 200, 429, 200, 403, 200] ∧
      Isolated false (tokenBucketLimiter 1 2) twoCallers := by
  have limits := request_limits 1 2 false twoCallers (by decide +kernel)
  exact ⟨by decide +kernel, limits.1⟩

end OAuth2Server.RequestLimits
