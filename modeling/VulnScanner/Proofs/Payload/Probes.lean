import VulnScanner.Proofs.Payload.Loading
import VulnScanner.Proofs.Payload.Rendering

/-!
# Probes with a secret

What every payload is that a generator with a callback server has made from a definition that uses
the server: it waits for a callback, it has a secret of its own, and the address for the secret
stands in its text.
-/

namespace VulnScanner

/-! ### Definitions that use the callback server -/

/-- A definition that uses the callback server is validated by it and has the mark of its address
in the template. -/
theorem PayloadDefinition.Fits.of_usesCallback [Platform] {d : PayloadDefinition} (h : d.Fits)
    (hc : d.usesCallback = true) :
    d.validation = .callback ∧ urlMark.toList <:+: d.template.toList := by
  have hcheck := h.checkCallback hc
  unfold PayloadDraft.checkCallback at hcheck
  rw [show d.toDraft.validationType = d.validation from rfl,
    show d.toDraft.template = d.template from rfl] at hcheck
  split at hcheck
  · cases hcheck
  next hvalidation =>
  split at hcheck
  · cases hcheck
  split at hcheck
  · cases hcheck
  next hmark =>
    rw [Bool.not_eq_true, Bool.not_eq_false'] at hmark
    exact ⟨not_not.mp hvalidation, (Text.contains_iff_infix _ _).mp hmark⟩

/-- What is left of the mark of an address when the token has been put in is the mark itself. -/
theorem infix_text_of_mark {template token url : String}
    (h : urlMark.toList <:+: template.toList) :
    url.toList <:+:
      (Text.replaceIn urlMark url (Text.replaceIn tokenMark token template)).toList := by
  have hurl : urlMark.toList = '$' :: "TOKEN_URL".toList := by decide
  have htoken : tokenMark.toList = '$' :: "TOKEN_RANDOM".toList := by decide
  unfold Text.replaceIn
  rw [String.toList_ofList, String.toList_ofList, hurl, htoken]
  rw [hurl] at h
  have hkept : '$' :: "TOKEN_URL".toList <:+:
      Text.replaceAll ('$' :: "TOKEN_RANDOM".toList) token.toList template.toList :=
    Text.infix_replaceAll_of_differ token.toList (by decide) (by decide) (by decide) (by decide) h
  exact Text.infix_replaceAll url.toList (by decide) hkept

/-! ### Probes -/

/-- A payload that waits for a callback to the address that its own secret has at a server. -/
structure Payload.Probes (p : Payload) (client : Callback.Client) (secret : String) : Prop where
  validation_eq : p.definition.validation = .callback
  callbackSecret_eq : p.callbackSecret = some secret
  secret_ne : secret ≠ ""
  callbackUrl_eq : p.callbackUrl = some (client.uri secret)
  publicId_infix : (Callback.publicId secret).toList <:+: (client.uri secret).toList
  url_infix : (client.uri secret).toList <:+: p.text.toList

/-- The address for a secret holds its public form. -/
theorem Callback.Client.publicId_infix_uri (client : Callback.Client) (secret : String) :
    (Callback.publicId secret).toList <:+: (client.uri secret).toList := by
  unfold uri
  split
  · rw [String.toList_append]
    exact (List.suffix_append _ _).isInfix
  · rw [String.toList_append, String.toList_append, List.append_assoc]
    exact (List.prefix_append _ _).isInfix

namespace Generator

variable {g : Generator} {client : Callback.Client} {source : TokenSource} {createdAt : Binary64}
  {d : PayloadDefinition} {drawn : Nat} {p : Payload}

/-- A request for which a definition with a callback is chosen takes two draws, and the second of
them is the secret. -/
theorem exists_generate_server (source : TokenSource) (createdAt : Binary64) (drawn : Nat)
    {r : PayloadRequest} (hg : g.client = some client) (hchosen : g.choose? r = some d)
    (hd : d.usesCallback = true) :
    ∃ p, g.generate source createdAt r drawn = (.ok (some p), drawn + 2) ∧ p.definition = d ∧
      p.callbackSecret = some (source (drawn + 1) secretOctets) := by
  rw [g.generate_of_choose? source createdAt hchosen drawn, render_server hg hd]
  exact ⟨_, rfl, rfl, rfl⟩

/-- Makes payloads for requests one after the other, each at its time. -/
def generateAll (g : Generator) (source : TokenSource)
    (calls : List (Binary64 × PayloadRequest)) :
    Drawing (List (Except NoCallbackServer (Option Payload))) :=
  calls.mapM fun (createdAt, r) ↦ g.generate source createdAt r

@[simp] theorem generateAll_nil : g.generateAll source [] drawn = ([], drawn) := rfl

@[simp] theorem generateAll_cons (call : Binary64 × PayloadRequest)
    (rest : List (Binary64 × PayloadRequest)) :
    g.generateAll source (call :: rest) drawn =
      ((g.generate source call.1 call.2 drawn).1 ::
          (g.generateAll source rest (g.generate source call.1 call.2 drawn).2).1,
        (g.generateAll source rest (g.generate source call.1 call.2 drawn).2).2) := by
  rw [generateAll, List.mapM_cons]
  rfl

/-- Each of several payloads is made by itself, behind the draws for those before it. -/
theorem exists_generate_of_mem {calls : List (Binary64 × PayloadRequest)}
    {result : Except NoCallbackServer (Option Payload)}
    (h : result ∈ (g.generateAll source calls drawn).1) :
    ∃ call ∈ calls, ∃ drawn', (g.generate source call.1 call.2 drawn').1 = result := by
  induction calls generalizing drawn with
  | nil => cases h
  | cons call rest ih =>
    rw [generateAll_cons] at h
    rcases List.mem_cons.mp h with rfl | h
    · exact ⟨call, List.mem_cons_self, drawn, rfl⟩
    · obtain ⟨call', hcall, hresult⟩ := ih h
      exact ⟨call', List.mem_cons_of_mem _ hcall, hresult⟩

/-- Each payload with a callback that a generator with a server makes from a loaded catalog probes
with a secret of its own. -/
theorem exists_probes [Platform] (hg : g.client = some client) (hc : g.catalog.Loaded)
    (hs : source.IsHexadecimal) {calls : List (Binary64 × PayloadRequest)}
    (h : .ok (some p) ∈ (g.generateAll source calls drawn).1)
    (hp : p.definition.usesCallback = true) : ∃ secret, p.Probes client secret := by
  obtain ⟨⟨createdAt, r⟩, -, drawn', hgenerate⟩ := exists_generate_of_mem h
  obtain ⟨d, hd, hrender⟩ := PayloadCatalog.exists_render_of_generate hgenerate
  rcases render_cases hrender with ⟨hlocal, rfl⟩ | ⟨huses, client', hclient, rfl⟩
  · rw [hlocal] at hp
    cases hp
  obtain rfl := Option.some.inj (hg.symm.trans hclient)
  obtain ⟨hvalidation, hmark⟩ := (hc.fits hd).of_usesCallback huses
  refine ⟨source (drawn' + 1) secretOctets, hvalidation, rfl, ?_, rfl,
    client.publicId_infix_uri _, infix_text_of_mark hmark⟩
  intro hempty
  have hlength := (hs (drawn' + 1) secretOctets).1
  rw [hempty] at hlength
  cases hlength

end Generator
end VulnScanner
