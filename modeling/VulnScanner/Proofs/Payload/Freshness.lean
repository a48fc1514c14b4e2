import Mathlib.Data.List.Nodup
import Mathlib.Data.List.ReduceOption
import VulnScanner.Payload.Bundled
import VulnScanner.Proofs.Lists
import VulnScanner.Proofs.Payload.Probes

/-!
# Draws of a run

Which texts a generator draws when it is asked for payloads one after the other: those that the
chosen definitions need, in their order, each of them for one place in one payload. So payloads
share nothing if no two draws are the same.
-/

namespace VulnScanner

/-! ### Draws -/

/-- Draws texts one after the other. -/
def TokenSource.drawAll (source : TokenSource) (octets : List Nat) : Drawing (List String) :=
  octets.mapM source.draw

namespace TokenSource

variable (source : TokenSource) (drawn : Nat)

@[simp] theorem drawAll_nil : source.drawAll [] drawn = ([], drawn) := rfl

@[simp] theorem drawAll_cons (n : Nat) (rest : List Nat) :
    source.drawAll (n :: rest) drawn =
      (source drawn n :: (source.drawAll rest (drawn + 1)).1,
        (source.drawAll rest (drawn + 1)).2) := by
  rw [drawAll, List.mapM_cons]
  rfl

/-- Texts are drawn where those before them end. -/
theorem drawAll_append (octets more : List Nat) :
    source.drawAll (octets ++ more) drawn =
      ((source.drawAll octets drawn).1 ++
          (source.drawAll more (source.drawAll octets drawn).2).1,
        (source.drawAll more (source.drawAll octets drawn).2).2) := by
  induction octets generalizing drawn with
  | nil => rfl
  | cons n rest ih => simp [ih]

/-- Each text is one draw. -/
theorem snd_drawAll (octets : List Nat) :
    (source.drawAll octets drawn).2 = drawn + octets.length := by
  induction octets generalizing drawn with
  | nil => rfl
  | cons n rest ih =>
    rw [drawAll_cons, ih, List.length_cons]
    omega

end TokenSource

/-- The random texts in a payload: its token, and its secret if it has one. -/
def Payload.draws (p : Payload) : List String := p.randomToken :: p.callbackSecret.toList

namespace Generator

variable {g : Generator} {source : TokenSource} {createdAt : Binary64} {r : PayloadRequest}
  {d : PayloadDefinition} {drawn : Nat}

/-- The octets that are drawn for a definition: those of a token, and behind them those of a secret
if it uses the callback server. -/
def octetsFor (d : PayloadDefinition) : List Nat :=
  tokenOctets :: if d.usesCallback then [secretOctets] else []

/-- The octets that are drawn for a request: none if no definition is chosen. -/
def octetsForRequest (g : Generator) (r : PayloadRequest) : List Nat :=
  ((g.choose? r).map octetsFor).getD []

/-! ### One payload -/

/-- A definition that uses the callback server is chosen only if there is one. -/
theorem exists_client_of_choose? (h : g.choose? r = some d) (hd : d.usesCallback = true) :
    ∃ client, g.client = some client := by
  unfold choose? at h
  simp only [Option.orElse_eq_orElse, Option.orElse_eq_or, Option.or_eq_some_iff] at h
  rcases h with h | ⟨-, h⟩
  · split at h
    next henabled =>
      rw [Bool.and_eq_true] at henabled
      exact Option.isSome_iff_exists.mp henabled.2
    next => cases h
  · have hlocal := List.find?_some h
    rw [hd] at hlocal
    cases hlocal

/-- A payload that is made from a definition: it has a secret exactly if the definition uses the
callback server, and then the address for the secret. -/
structure MadeFrom (g : Generator) (d : PayloadDefinition) (p : Payload) : Prop where
  definition_eq : p.definition = d
  isSome_secret : p.callbackSecret.isSome = d.usesCallback
  url_eq : p.callbackUrl = p.callbackSecret.bind fun secret ↦ g.client.map (·.uri secret)

/-- A payload can be made from a definition if there is a callback server or no need for one. Its
random texts are those that are drawn for the definition. -/
theorem exists_madeFrom (g : Generator) (source : TokenSource) (createdAt : Binary64)
    (d : PayloadDefinition) (drawn : Nat)
    (h : d.usesCallback = true → ∃ client, g.client = some client) :
    ∃ p, g.render source createdAt d drawn =
        (.ok p, (source.drawAll (octetsFor d) drawn).2) ∧
      g.MadeFrom d p ∧ p.draws = (source.drawAll (octetsFor d) drawn).1 := by
  cases hd : d.usesCallback with
  | false =>
    have hoctets : octetsFor d = [tokenOctets] := by simp [octetsFor, hd]
    rw [g.render_local source createdAt hd drawn, hoctets]
    exact ⟨_, rfl, ⟨rfl, hd.symm, rfl⟩, rfl⟩
  | true =>
    have hoctets : octetsFor d = [tokenOctets, secretOctets] := by simp [octetsFor, hd]
    obtain ⟨client, hclient⟩ := h hd
    rw [render_server hclient hd, hoctets]
    exact ⟨_, rfl, ⟨rfl, hd.symm, by rw [hclient]; rfl⟩, rfl⟩

/-- What answers a request: a payload that is made from the chosen definition, and nothing if none
is chosen. -/
def Answers (g : Generator) (r : PayloadRequest) : Option Payload → Prop
  | none => g.choose? r = none
  | some p => ∃ d, g.choose? r = some d ∧ g.MadeFrom d p

/-- A request is always answered, with the texts that are drawn for it and with no others. -/
theorem exists_answers (g : Generator) (source : TokenSource) (createdAt : Binary64)
    (r : PayloadRequest) (drawn : Nat) :
    ∃ made, g.generate source createdAt r drawn =
        (.ok made, (source.drawAll (g.octetsForRequest r) drawn).2) ∧
      g.Answers r made ∧
      made.toList.flatMap Payload.draws = (source.drawAll (g.octetsForRequest r) drawn).1 := by
  cases hchosen : g.choose? r with
  | none =>
    have hoctets : g.octetsForRequest r = [] := by rw [octetsForRequest, hchosen]; rfl
    rw [g.generate_of_choose?_none source createdAt hchosen, hoctets]
    exact ⟨none, rfl, hchosen, rfl⟩
  | some d =>
    have hoctets : g.octetsForRequest r = octetsFor d := by rw [octetsForRequest, hchosen]; rfl
    obtain ⟨p, hp, hmade, hdraws⟩ :=
      g.exists_madeFrom source createdAt d drawn (exists_client_of_choose? hchosen)
    rw [g.generate_of_choose? source createdAt hchosen, hp, hoctets]
    exact ⟨some p, rfl, ⟨d, hchosen, hmade⟩, by simpa using hdraws⟩

/-! ### Runs -/

/-- The octets that are drawn for requests one after the other. -/
def octetsForAll (g : Generator) (calls : List (Binary64 × PayloadRequest)) : List Nat :=
  calls.flatMap fun call ↦ g.octetsForRequest call.2

/-- All requests are answered, with the texts that are drawn for them one after the other. -/
theorem exists_answers_all (g : Generator) (source : TokenSource)
    (calls : List (Binary64 × PayloadRequest)) (drawn : Nat) :
    ∃ made, g.generateAll source calls drawn =
        (made.map .ok, (source.drawAll (g.octetsForAll calls) drawn).2) ∧
      List.Forall₂ (fun call p ↦ g.Answers call.2 p) calls made ∧
      made.reduceOption.flatMap Payload.draws =
        (source.drawAll (g.octetsForAll calls) drawn).1 := by
  induction calls generalizing drawn with
  | nil => exact ⟨[], rfl, .nil, rfl⟩
  | cons call rest ih =>
    obtain ⟨p, hp, hanswers, hdraws⟩ := g.exists_answers source call.1 call.2 drawn
    obtain ⟨made, hmade, hall, hrest⟩ := ih (source.drawAll (g.octetsForRequest call.2) drawn).2
    have happend := source.drawAll_append drawn (g.octetsForRequest call.2) (g.octetsForAll rest)
    have hoctets : g.octetsForAll (call :: rest) =
        g.octetsForRequest call.2 ++ g.octetsForAll rest := List.flatMap_cons
    rw [hoctets, happend, ← hdraws, ← hrest]
    refine ⟨p :: made, ?_, .cons hanswers hall, ?_⟩
    · rw [generateAll_cons, hp, hmade, List.map_cons]
    · cases p <;> simp

end Generator

/-! ### Addresses -/

/-- Two secrets have the same address only if they have the same public form. -/
theorem Callback.Client.publicId_eq_of_uri_eq {client : Callback.Client} {secret secret' : String}
    (h : client.uri secret = client.uri secret') : publicId secret = publicId secret' := by
  unfold uri at h
  rw [← String.toList_inj] at h ⊢
  split at h
  · simpa using h
  · simpa using h

/-- The secrets of payloads in their order. -/
def secretsOf (payloads : List Payload) : List String := payloads.filterMap (·.callbackSecret)

/-- The callback addresses of payloads in their order. -/
def urlsOf (payloads : List Payload) : List String := payloads.filterMap (·.callbackUrl)

/-- Secrets are random texts. -/
theorem secretsOf_sublist (payloads : List Payload) :
    (secretsOf payloads).Sublist (payloads.flatMap Payload.draws) := by
  induction payloads with
  | nil => exact .slnil
  | cons p rest ih =>
    rw [secretsOf, List.filterMap_cons, List.flatMap_cons, Payload.draws]
    cases p.callbackSecret with
    | none => exact ih.cons _
    | some secret => exact (ih.cons_cons secret).cons _

namespace Generator

variable {g : Generator} {payloads : List Payload}

/-- If different secrets have different public forms, payloads with different secrets have different
addresses. -/
theorem nodup_urlsOf (h : ∀ p ∈ payloads, ∃ d, g.MadeFrom d p)
    (hsecrets : (secretsOf payloads).Nodup)
    (hpublic : ∀ secret ∈ secretsOf payloads, ∀ secret' ∈ secretsOf payloads,
      Callback.publicId secret = Callback.publicId secret' → secret = secret') :
    (urlsOf payloads).Nodup := by
  have hurl : ∀ p ∈ payloads, p.callbackUrl =
      p.callbackSecret.bind fun secret ↦ g.client.map (·.uri secret) := by
    intro p hp
    obtain ⟨d, hmade⟩ := h p hp
    exact hmade.url_eq
  cases hclient : g.client with
  | none =>
    have hnone : urlsOf payloads = [] := by
      apply List.filterMap_eq_nil_iff.mpr
      intro p hp
      rw [hurl p hp, hclient]
      exact Option.bind_fun_none _
    rw [hnone]
    exact List.nodup_nil
  | some client =>
    have hurls : urlsOf payloads = (secretsOf payloads).map client.uri := by
      rw [secretsOf, List.map_filterMap]
      apply List.filterMap_congr
      intro p hp
      rw [hurl p hp, hclient]
      cases p.callbackSecret <;> rfl
    rw [hurls]
    apply List.Nodup.map_on ?_ hsecrets
    intro secret hsecret secret' hsecret' huri
    exact hpublic secret hsecret secret' hsecret' (Callback.Client.publicId_eq_of_uri_eq huri)

/-- What is made for requests one after the other. Every request is answered, and nothing is made if
no definition is chosen for it. The random texts of all payloads are the draws of the run, in their
order and each once: for each payload a token and, if its definition uses the callback server, a
secret behind it. So payloads share no token and no secret if no two draws are the same, and they
share no address if moreover no two secrets have the same public form. -/
theorem generateAll_fresh (g : Generator) (source : TokenSource)
    (calls : List (Binary64 × PayloadRequest)) (drawn : Nat) :
    ∃ made : List (Option Payload),
      g.generateAll source calls drawn = (made.map .ok, drawn + (g.octetsForAll calls).length) ∧
      List.Forall₂ (fun call p ↦ g.Answers call.2 p) calls made ∧
      made.reduceOption.flatMap Payload.draws =
        (source.drawAll (g.octetsForAll calls) drawn).1 ∧
      ((source.drawAll (g.octetsForAll calls) drawn).1.Nodup →
        (made.reduceOption.flatMap Payload.draws).Nodup ∧
        ((∀ secret ∈ secretsOf made.reduceOption, ∀ secret' ∈ secretsOf made.reduceOption,
            Callback.publicId secret = Callback.publicId secret' → secret = secret') →
          (urlsOf made.reduceOption).Nodup)) := by
  obtain ⟨made, hmade, hall, hdraws⟩ := g.exists_answers_all source calls drawn
  rw [source.snd_drawAll] at hmade
  refine ⟨made, hmade, hall, hdraws, fun hnodup ↦ ?_⟩
  rw [← hdraws] at hnodup
  refine ⟨hnodup, nodup_urlsOf (g := g) ?_ (hnodup.sublist (secretsOf_sublist _))⟩
  intro p hp
  obtain ⟨call, -, hanswers⟩ :=
    exists_of_mem_of_forall₂ hall.flip (List.reduceOption_mem_iff.mp hp)
  obtain ⟨d, -, hd⟩ := hanswers
  exact ⟨d, hd⟩

/-- Three requests are answered by a payload with a callback, by nothing, and by one without a
callback, which takes three draws. -/
theorem generateAll_fresh_mixed :
    let g : Generator := ⟨.bundled, some ⟨{ address := "192.0.2.10" }, rfl, {}⟩⟩
    let calls : List (Binary64 × PayloadRequest) :=
      [(0, ⟨.blindRce, .linuxShell, .interpretation, true⟩),
       (0, ⟨.arbitraryFileRead, .java, .any, true⟩),
       (0, ⟨.reflectiveRce, .java, .interpretation, true⟩)]
    ∃ made : List (Option Payload), g.generateAll (.ofList []) calls 0 = (made.map .ok, 3) ∧
      made.map (·.map (·.definition.name)) =
        [some "linux_callback", none, some "java_string_format"] ∧
      made.reduceOption.flatMap Payload.draws =
        ["0000000000000001", "00000000000000000000000000000002", "0000000000000003"] ∧
      (made.reduceOption.flatMap Payload.draws).Nodup ∧
      (urlsOf made.reduceOption).Nodup := by
  intro g calls
  have hdrawn : (TokenSource.drawAll (.ofList []) (g.octetsForAll calls) 0).1 =
      ["0000000000000001", "00000000000000000000000000000002", "0000000000000003"] := by
    decide +kernel
  obtain ⟨made, hrun, -, hdraws, hfresh⟩ := g.generateAll_fresh (.ofList []) calls 0
  have hmade : made = (g.generateAll (.ofList []) calls 0).1.filterMap Except.toOption := by
    rw [hrun, List.filterMap_map]
    exact List.filterMap_some.symm
  have hsecrets : secretsOf made.reduceOption = ["00000000000000000000000000000002"] := by
    rw [hmade]
    decide +kernel
  obtain ⟨hnodup, hurls⟩ := hfresh (by rw [hdrawn]; decide)
  refine ⟨made, hrun, by rw [hmade]; decide +kernel, hdraws.trans hdrawn, hnodup, hurls ?_⟩
  rw [hsecrets]
  intro secret hsecret secret' hsecret' _
  rw [List.mem_singleton.mp hsecret, List.mem_singleton.mp hsecret']

end Generator
end VulnScanner
