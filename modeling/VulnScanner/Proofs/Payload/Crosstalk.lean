import VulnScanner.Proofs.Http.Query
import VulnScanner.Proofs.Payload.Bundled
import VulnScanner.Proofs.Payload.Outcome
import VulnScanner.Proofs.Payload.Probes

/-!
# Probes without crosstalk

A payload that probes with a secret is validated by asking for that secret and for nothing else. So
what becomes of it depends on nothing that a server has recorded for other secrets, and it is
confirmed only by a reply for its own.
-/

namespace VulnScanner

/-! ### What a request asks for -/

/-- The secret that a request asks for: the last parameter of that name. -/
def Http.Request.secret? (r : Http.Request) : Option String :=
  (r.parameters.reverse.find? (·.1 == "secret")).map (·.2)

namespace Callback.Client

variable {client : Callback.Client} {secret : String} {since : Binary64} {request : Http.Request}

/-- A look-up has the parameters of the polling address and behind them the secret and the moment,
and a fragment only if the polling address has a number sign. -/
theorem parameters_of_lookupRequest
    (h : client.lookupRequest secret (some since) = .ok request) :
    request.parameters = Http.parametersOf client.server.polling.toList ++
      [("secret", secret), ("since", since.fixed 3)] ∧
      ('#' ∉ client.server.polling.toList → request.url.fragment = []) :=
  Http.Client.parameters_of_get (List.cons_ne_nil _ _) (lookupRequest_eq_ok_iff.mp h).2

/-- A look-up asks for its secret. -/
theorem secret?_of_lookupRequest (h : client.lookupRequest secret (some since) = .ok request) :
    request.secret? = some secret := by
  simp [Http.Request.secret?, (parameters_of_lookupRequest h).1]

end Callback.Client

/-! ### Servers -/

variable {W T : Type}

/-- A callback server, as its clients see it: the reply to each query, by the secret that is asked
for and the number of the query. -/
abbrev CallbackServer := String → Nat → Http.Reply

/-- The reply of a server to a request. -/
def CallbackServer.reply (server : CallbackServer) (request : Http.Request) (number : Nat) :
    Http.Reply := server (request.secret?.getD "") number

/-- The same world with a server that answers all requests; its queries are counted. -/
def World.answeredBy (world : World W T) (server : CallbackServer) : World (W × Nat) T where
  now s := ((world.now s.1).1, (world.now s.1).2, s.2)
  exchange request s := (server.reply request s.2, (world.exchange request s.1).2, s.2 + 1)
  isCancelled s := world.isCancelled s.1
  pause length s := (world.pause length s.1, s.2)

variable {world : World W T} {client : Callback.Client} {secret : String} {since : Binary64}
  {server server' : CallbackServer}

/-- A look-up uses the network for its own request alone. -/
theorem lookUp_congr {world' : World W T}
    (h : ∀ request, client.lookupRequest secret (some since) = .ok request →
      world.exchange request = world'.exchange request) :
    client.lookUp world secret since = client.lookUp world' secret since := by
  funext w
  unfold Callback.Client.lookUp
  cases hr : client.lookupRequest secret (some since) with
  | error fault => rfl
  | ok request => simp only [h request hr]

/-- Servers that agree on a secret reply alike to a look-up for it. -/
theorem exchange_answeredBy_congr (h : ∀ number, server secret number = server' secret number)
    {request : Http.Request} (hr : client.lookupRequest secret (some since) = .ok request) :
    (world.answeredBy server).exchange request = (world.answeredBy server').exchange request := by
  funext s
  have hreply : server.reply request s.2 = server'.reply request s.2 := by
    rw [CallbackServer.reply, CallbackServer.reply, Callback.Client.secret?_of_lookupRequest hr]
    exact h s.2
  simp only [World.answeredBy, hreply]

/-- A look-up is a hit exactly if the reply for its secret says so. -/
theorem isHit_asking_answeredBy {request : Http.Request}
    (hr : client.lookupRequest secret (some since) = .ok request) (s : W × Nat) :
    ((world.answeredBy server).asking request s).isHit =
      (Callback.Client.verdict (server secret s.2)).toOption.getD false := by
  have hreply : server.reply request s.2 = server secret s.2 := by
    rw [CallbackServer.reply, Callback.Client.secret?_of_lookupRequest hr]
    rfl
  simp only [Entry.isHit, World.asking, World.answeredBy, hreply]

/-! ### Waits -/

variable [Sub T] [Zero T] [LT T] [DecidableLT T] [LE T] {interval deadline : T}

/-- Every look-up of a course is for its request. -/
theorem Course.asking_of_mem_pollsOf {request : Http.Request} {w : W} {course : List (Entry W T)}
    {e : WaitEnd} (h : Course world request interval deadline w course e) :
    ∀ poll ∈ pollsOf course, ∃ w', poll = world.asking request w' := by
  induction h with
  | cancelled => simp
  | recorded =>
    intro poll hpoll
    exact ⟨_, List.mem_singleton.mp hpoll⟩
  | expired =>
    intro poll hpoll
    exact ⟨_, List.mem_singleton.mp hpoll⟩
  | again _ _ _ _ _ _ _ _ ih =>
    intro poll hpoll
    rcases List.mem_cons.mp hpoll with rfl | hpoll
    · exact ⟨_, rfl⟩
    · exact ih poll hpoll

variable [DecidableLE T]

/-- A wait uses the network through its look-ups alone. -/
theorem waitUntil_congr {world world' : World W T} {poll : W → Except Http.UrlFault Bool × W}
    (hnow : world.now = world'.now) (hcancelled : world.isCancelled = world'.isCancelled)
    (hpause : world.pause = world'.pause) (polls : Nat) (w : W) :
    waitUntil world poll interval deadline polls w =
      waitUntil world' poll interval deadline polls w := by
  obtain ⟨now, _, isCancelled, pause⟩ := world
  obtain ⟨_, _, _, _⟩ := world'
  cases hnow
  cases hcancelled
  cases hpause
  induction polls generalizing w with
  | zero => rfl
  | succ polls ih =>
    rw [waitUntil, waitUntil]
    simp only [ih]

/-- Every look-up that a wait adds to its journal is for its own secret. -/
theorem exists_journal_of_waitUntil {polls : Nat} {s s' : W × List (Entry W T)} {e : WaitEnd}
    (h : waitUntil world.journaled (client.lookUp world.journaled secret since) interval deadline
      polls s = some (e, s')) :
    ∃ course, s'.2 = s.2 ++ course ∧ ∀ poll ∈ pollsOf course, ∃ request w,
      poll = world.asking request w ∧ client.lookupRequest secret (some since) = .ok request := by
  cases hr : client.lookupRequest secret (some since) with
  | ok request =>
    obtain ⟨course, hs, hcourse⟩ := course_of_waitUntil hr h
    refine ⟨course, hs, fun poll hpoll ↦ ?_⟩
    obtain ⟨w, rfl⟩ := hcourse.asking_of_mem_pollsOf poll hpoll
    exact ⟨request, w, rfl, rfl⟩
  | error fault =>
    refine ⟨[], ?_, by simp⟩
    cases polls with
    | zero => cases h
    | succ polls =>
      rw [waitUntil_succ_of_fault hr] at h
      split at h <;>
      · cases h
        exact (List.append_nil _).symm

/-- Something is recorded only if one of the queries of the wait was answered so, for its own
secret. -/
theorem exists_hit_of_recorded {polls : Nat} {s s' : W × Nat}
    (h : waitUntil (world.answeredBy server) (client.lookUp (world.answeredBy server) secret since)
      interval deadline polls s = some (.recorded, s')) :
    ∃ n, s.2 ≤ n ∧ n < s'.2 ∧ Callback.Client.verdict (server secret n) = .ok true := by
  induction polls generalizing s with
  | zero => cases h
  | succ polls ih =>
    cases hr : client.lookupRequest secret (some since) with
    | error fault =>
      rw [waitUntil_succ_of_fault hr] at h
      split at h <;> cases h
    | ok request =>
      rw [waitUntil_succ hr polls rfl rfl rfl] at h
      split at h
      · cases h
      split at h
      next hhit =>
        cases h
        rw [isHit_asking_answeredBy hr] at hhit
        refine ⟨s.2, Nat.le_refl _, Nat.lt_succ_self _, ?_⟩
        cases hverdict : Callback.Client.verdict (server secret s.2) with
        | error fault =>
          rw [hverdict] at hhit
          cases hhit
        | ok hit =>
          rw [hverdict] at hhit
          rw [show hit = true from hhit]
      next =>
      split at h
      · cases h
      · obtain ⟨n, hle, hlt, hverdict⟩ := ih h
        exact ⟨n, Nat.le_of_succ_le hle, hlt, hverdict⟩

/-! ### Validation -/

namespace Validator

variable {v : Validator Binary64} {p : Payload}

/-- Only its own secret counts for what becomes of a payload. -/
structure KeepsApart [Platform] (v : Validator Binary64) (p : Payload) (client : Callback.Client)
    (secret : String) : Prop where
  /-- Each query is the look-up for the secret since the payload was made: behind the parameters of
  the polling address it has these two and no others, and all of them are sent if the polling
  address has no number sign. -/
  asks : ∀ (W : Type) (world : World W Binary64) polls response timeout w w' outcome,
    v.validate world polls p response timeout w = some (outcome, w') → ∃ journal,
      v.validate world.journaled polls p response timeout (w, []) = some (outcome, w', journal) ∧
      ∀ poll ∈ pollsOf journal, ∃ request w₁, poll = world.asking request w₁ ∧
        client.lookupRequest secret (some p.createdAt) = .ok request ∧
        request.parameters = Http.parametersOf client.server.polling.toList ++
          [("secret", secret), ("since", p.createdAt.fixed 3)] ∧
        ('#' ∉ client.server.polling.toList → request.url.fragment = [])
  /-- A server is always at hand. -/
  configured : ∀ (W : Type) (world : World W Binary64) polls response timeout w w' result,
    v.validate world polls p response timeout w = some (.ok result, w') →
      result.detail ≠ "callback server not configured"
  /-- Nothing but the replies to that look-up counts, also for a run that does not end. -/
  alone : ∀ (W : Type) (world world' : World W Binary64) polls response timeout w,
    world.now = world'.now → world.isCancelled = world'.isCancelled → world.pause = world'.pause →
      (∀ request, client.lookupRequest secret (some p.createdAt) = .ok request →
        world.exchange request = world'.exchange request) →
      v.validate world polls p response timeout w = v.validate world' polls p response timeout w
  /-- What servers have recorded for other secrets changes nothing. -/
  same : ∀ (W : Type) (world : World W Binary64) (server server' : CallbackServer)
    polls response timeout s, (∀ number, server secret number = server' secret number) →
      v.validate (world.answeredBy server) polls p response timeout s =
        v.validate (world.answeredBy server') polls p response timeout s
  /-- A reply for the secret itself confirms. -/
  confirmed : ∀ (W : Type) (world : World W Binary64) (server : CallbackServer)
    polls response timeout s s' result,
    v.validate (world.answeredBy server) polls p response timeout s = some (.ok result, s') →
      result.confirmed = true → ∃ n, s.2 ≤ n ∧ n < s'.2 ∧
        Callback.Client.verdict (server secret n) = .ok true

/-- A payload that probes with a secret is validated by waiting for it. -/
theorem validate_eq_of_probes [Platform] {client : Callback.Client} {secret : String}
    (hp : p.Probes client secret) (hv : v.client = some client) {W : Type}
    (world : World W Binary64) (polls : Nat) (response : Option String)
    (timeout : Option Binary64) (w : W) :
    v.validate world polls p response timeout w =
      (waitUntil world (client.lookUp world secret p.createdAt) v.interval
        ((world.now w).1 + v.effectiveTimeout timeout) polls (world.now w).2).map fun r ↦
          ((r.1.verdict (v.effectiveTimeout timeout)).outcome, r.2) := by
  rw [validate, hp.validation_eq]
  dsimp only
  rw [callbackOutcome, waitForCallback_eq hv hp.callbackSecret_eq hp.secret_ne, Option.map_map]
  rfl

/-- Validation uses the network for its own look-up alone. -/
theorem validate_congr_of_probes [Platform] {client : Callback.Client} {secret : String}
    (hp : p.Probes client secret) (hv : v.client = some client) {W : Type}
    {world world' : World W Binary64} (hnow : world.now = world'.now)
    (hcancelled : world.isCancelled = world'.isCancelled) (hpause : world.pause = world'.pause)
    (hexchange : ∀ request, client.lookupRequest secret (some p.createdAt) = .ok request →
      world.exchange request = world'.exchange request)
    (polls : Nat) (response : Option String) (timeout : Option Binary64) (w : W) :
    v.validate world polls p response timeout w = v.validate world' polls p response timeout w := by
  rw [validate_eq_of_probes hp hv, validate_eq_of_probes hp hv, lookUp_congr hexchange, hnow,
    waitUntil_congr hnow hcancelled hpause]

private theorem detail_ne_of_outcome {e : WaitEnd} {limit : Binary64} {result : ValidationResult}
    (h : (e.verdict limit).outcome = .ok result) :
    result.detail ≠ "callback server not configured" := by
  cases e with
  | recorded =>
    cases h
    decide
  | expired =>
    cases h
    intro hsame
    have hno : ("no callback within " : String).toList.head? = some 'n' := by decide
    have hhead := congrArg (·.toList.head?) hsame
    simp only [toString, String.toList_append, List.head?_append, hno, Option.some_or] at hhead
    exact absurd hhead (by decide)
  | cancelled =>
    cases h
    decide
  | impossible => cases h

private theorem eq_recorded_of_outcome {e : WaitEnd} {limit : Binary64} {result : ValidationResult}
    (h : (e.verdict limit).outcome = .ok result) (hconfirmed : result.confirmed = true) :
    e = .recorded := by
  cases e with
  | recorded => rfl
  | expired =>
    cases h
    cases hconfirmed
  | cancelled =>
    cases h
    cases hconfirmed
  | impossible => cases h

/-- A validator with a server keeps the probes of payloads apart. -/
theorem keepsApart_of_probes [Platform] {client : Callback.Client} {secret : String}
    (hp : p.Probes client secret) (hv : v.client = some client) :
    v.KeepsApart p client secret where
  asks W world polls response timeout w w' outcome h := by
    rw [validate_eq_of_probes hp hv,
      waitUntil_journaled polls ((world.now w).2, [world.reading w]), Option.map_map] at h
    obtain ⟨⟨e, s⟩, hrun, heq⟩ := Option.map_eq_some_iff.mp h
    cases heq
    obtain ⟨course, hjournal, hpolls⟩ := exists_journal_of_waitUntil hrun
    refine ⟨world.reading w :: course, ?_, fun poll hpoll ↦ ?_⟩
    · rw [validate_eq_of_probes hp hv, Option.map_eq_some_iff]
      exact ⟨(e, s), hrun, Prod.ext rfl (Prod.ext rfl hjournal)⟩
    · obtain ⟨request, w₁, hasked, hr⟩ := hpolls poll hpoll
      exact ⟨request, w₁, hasked, hr, Callback.Client.parameters_of_lookupRequest hr⟩
  configured W world polls response timeout w w' result h := by
    rw [validate_eq_of_probes hp hv] at h
    obtain ⟨⟨e, _⟩, -, heq⟩ := Option.map_eq_some_iff.mp h
    exact detail_ne_of_outcome (congrArg Prod.fst heq)
  alone W world world' polls response timeout w hnow hcancelled hpause hexchange :=
    validate_congr_of_probes hp hv hnow hcancelled hpause hexchange polls response timeout w
  same W world server server' polls response timeout s h :=
    have hexchange : ∀ request, client.lookupRequest secret (some p.createdAt) = .ok request →
        (world.answeredBy server).exchange request =
          (world.answeredBy server').exchange request := fun _ ↦ exchange_answeredBy_congr h
    validate_congr_of_probes hp hv (by rfl) (by rfl) (by rfl) hexchange polls response timeout s
  confirmed W world server polls response timeout s s' result h hconfirmed := by
    rw [validate_eq_of_probes hp hv] at h
    obtain ⟨⟨e, s₁⟩, hrun, heq⟩ := Option.map_eq_some_iff.mp h
    obtain ⟨houtcome, rfl⟩ := Prod.mk.inj heq
    obtain rfl : e = .recorded := eq_recorded_of_outcome houtcome hconfirmed
    -- reading the clock is no query
    have hhit := exists_hit_of_recorded hrun
    exact hhit

/-- Each payload with a callback that a generator with a server makes from a loaded catalog has a
secret of its own, and a validator with the same server lets nothing else count for it: it asks for
that secret only, what the server has recorded for others changes nothing, and only a reply for the
secret confirms. -/
theorem exists_keepsApart_of_mem_generateAll [Platform] {g : Generator} {client : Callback.Client}
    (hg : g.client = some client) (hc : g.catalog.Loaded) {source : TokenSource}
    (hs : source.IsHexadecimal) {calls : List (Binary64 × PayloadRequest)} {drawn : Nat}
    (h : .ok (some p) ∈ (g.generateAll source calls drawn).1)
    (hp : p.definition.usesCallback = true) (hv : v.client = some client) :
    ∃ secret, p.Probes client secret ∧ v.KeepsApart p client secret := by
  obtain ⟨secret, hprobes⟩ := Generator.exists_probes hg hc hs h hp
  exact ⟨secret, hprobes, keepsApart_of_probes hprobes hv⟩

/-- Two payloads are made one after the other, and each is validated by its own secret. -/
theorem exists_keepsApart_twice :
    let g : Generator := ⟨.bundled, some Rehearsal.client⟩
    let source : TokenSource := fun number octets ↦
      String.ofList (List.replicate (2 * octets) (if number < 2 then 'a' else 'b'))
    let r : PayloadRequest := ⟨.blindRce, .linuxShell, .interpretation, true⟩
    ∃ p p', (g.generateAll source [(0, r), (0, r)] 0).1 = [.ok (some p), .ok (some p')] ∧
      (∃ secret, p.Probes Rehearsal.client secret ∧
        Rehearsal.validator.KeepsApart p Rehearsal.client secret) ∧
      (∃ secret, p'.Probes Rehearsal.client secret ∧
        Rehearsal.validator.KeepsApart p' Rehearsal.client secret) ∧
      p.callbackSecret ≠ p'.callbackSecret := by
  intro g source r
  have hs : source.IsHexadecimal := by
    intro number octets
    refine ⟨by rw [String.toList_ofList, List.length_replicate], fun c hc ↦ ?_⟩
    rw [String.toList_ofList] at hc
    obtain rfl := List.eq_of_mem_replicate hc
    split <;> decide
  have hchosen : (g.choose? r).any (·.usesCallback) = true := by
    decide +kernel
  obtain ⟨d, hd, huses⟩ := (Option.any_eq_true _ _).mp hchosen
  obtain ⟨p, hp, hpd, hsecret⟩ := Generator.exists_generate_server source 0 0 rfl hd huses
  obtain ⟨p', hp', hpd', hsecret'⟩ := Generator.exists_generate_server source 0 2 rfl hd huses
  have hall : (g.generateAll source [(0, r), (0, r)] 0).1 = [.ok (some p), .ok (some p')] := by
    rw [Generator.generateAll_cons, Generator.generateAll_cons, hp]
    dsimp only
    rw [hp', Generator.generateAll_nil]
  refine ⟨p, p', hall, ?_, ?_, ?_⟩
  · exact exists_keepsApart_of_mem_generateAll rfl PayloadCatalog.loaded_bundled hs
      (hall ▸ List.mem_cons_self) (hpd ▸ huses) rfl
  · exact exists_keepsApart_of_mem_generateAll rfl PayloadCatalog.loaded_bundled hs
      (hall ▸ List.mem_cons_of_mem _ List.mem_cons_self) (hpd' ▸ huses) rfl
  · rw [hsecret, hsecret']
    decide

end Validator
end VulnScanner
