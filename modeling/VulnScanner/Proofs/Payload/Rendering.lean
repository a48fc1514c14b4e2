import VulnScanner.Payload.Validation
import VulnScanner.Proofs.Text.Occurrence

/-!
# Payloads that a generator makes

What is known of every payload that a generator has made: its definition is one of the catalog,
its token has sixteen hexadecimal digits in lower case, and without a callback its text is the
template with the token in the place of its mark.
-/

namespace VulnScanner

/-! ### Tokens -/

/-- Lower-case hexadecimal digits. -/
def isTokenDigit (c : Char) : Bool := ('0' ≤ c && c ≤ '9') || ('a' ≤ c && c ≤ 'f')

/-- A random token: sixteen lower-case hexadecimal digits. -/
def IsToken (token : List Char) : Prop :=
  token.length = 16 ∧ ∀ c ∈ token, isTokenDigit c = true

/-- A source that gives two lower-case hexadecimal digits for each octet. -/
def TokenSource.IsHexadecimal (source : TokenSource) : Prop :=
  ∀ number octets, (source number octets).toList.length = 2 * octets ∧
    ∀ c ∈ (source number octets).toList, isTokenDigit c = true

private theorem ne_of_isTokenDigit {c d : Char} (hc : isTokenDigit c = true)
    (hd : isTokenDigit d = false) : c ≠ d := by
  rintro rfl
  rw [hc] at hd
  cases hd

/-- The digits of tokens mean nothing else in an expression. -/
theorem escape_of_isTokenDigit {token : List Char} (h : ∀ c ∈ token, isTokenDigit c = true) :
    Regex.escape token = token := by
  have hspecial : ∀ d ∈ Regex.specialChars, (!isTokenDigit d) = true :=
    List.all_eq_true.mp (by decide)
  induction token with
  | nil => rfl
  | cons c rest ih =>
    have hc : Regex.specialChars.contains c = false := by
      rw [List.contains_eq_mem, decide_eq_false_iff_not]
      intro hm
      exact ne_of_isTokenDigit (h c List.mem_cons_self) (Bool.not_eq_true' _ ▸ hspecial c hm) rfl
    have hrest := ih fun d hd ↦ h d (List.mem_cons_of_mem _ hd)
    unfold Regex.escape at hrest ⊢
    rw [List.flatMap_cons, hc, hrest]
    rfl

/-! ### Payloads -/

/-- A payload that a generator makes from a definition of the catalog. -/
def PayloadCatalog.Mints (c : PayloadCatalog) (p : Payload) : Prop :=
  ∃ (g : Generator) (source : TokenSource) (createdAt : Binary64) (d : PayloadDefinition)
    (drawn : Nat), g.catalog = c ∧ source.IsHexadecimal ∧ d ∈ c.payloads ∧
      (g.render source createdAt d drawn).1 = .ok p

namespace Generator

variable {g : Generator} {client : Callback.Client} {source : TokenSource} {createdAt : Binary64}
  {d : PayloadDefinition} {drawn : Nat} {p : Payload}

/-- Without a callback a payload has only its token drawn. -/
theorem render_local (g : Generator) (source : TokenSource) (createdAt : Binary64)
    {d : PayloadDefinition} (hd : d.usesCallback = false) (drawn : Nat) :
    g.render source createdAt d drawn =
      (.ok {
        definition := d
        text := Text.replaceIn tokenMark (source drawn tokenOctets) d.template
        randomToken := source drawn tokenOctets
        createdAt := createdAt }, drawn + 1) := by
  unfold render
  simp only [hd]
  rfl

/-- A payload with a callback has the secret that was drawn behind its token, and the address for it
in the place of its mark. -/
theorem render_server (hg : g.client = some client) (hd : d.usesCallback = true) :
    g.render source createdAt d drawn =
      (.ok {
        definition := d
        text := Text.replaceIn urlMark (client.uri (source (drawn + 1) secretOctets))
          (Text.replaceIn tokenMark (source drawn tokenOctets) d.template)
        randomToken := source drawn tokenOctets
        callbackSecret := some (source (drawn + 1) secretOctets)
        callbackUrl := some (client.uri (source (drawn + 1) secretOctets))
        createdAt := createdAt }, drawn + 2) := by
  unfold render
  simp only [hd, hg]
  rfl

/-- A payload is made without a callback, or with one if there is a server. -/
theorem render_cases (h : (g.render source createdAt d drawn).1 = .ok p) :
    (d.usesCallback = false ∧ p = {
        definition := d
        text := Text.replaceIn tokenMark (source drawn tokenOctets) d.template
        randomToken := source drawn tokenOctets
        createdAt := createdAt }) ∨
      (d.usesCallback = true ∧ ∃ client, g.client = some client ∧ p = {
        definition := d
        text := Text.replaceIn urlMark (client.uri (source (drawn + 1) secretOctets))
          (Text.replaceIn tokenMark (source drawn tokenOctets) d.template)
        randomToken := source drawn tokenOctets
        callbackSecret := some (source (drawn + 1) secretOctets)
        callbackUrl := some (client.uri (source (drawn + 1) secretOctets))
        createdAt := createdAt }) := by
  cases hd : d.usesCallback with
  | false =>
    rw [g.render_local source createdAt hd drawn] at h
    cases h
    exact .inl ⟨rfl, rfl⟩
  | true =>
    cases hg : g.client with
    | none =>
      unfold render at h
      simp only [hd, hg] at h
      cases h
    | some client =>
      rw [render_server hg hd] at h
      cases h
      exact .inr ⟨rfl, client, rfl, rfl⟩

/-- Without a definition for a request nothing is made and nothing drawn. -/
theorem generate_of_choose?_none (g : Generator) (source : TokenSource)
    (createdAt : Binary64) {r : PayloadRequest} (h : g.choose? r = none) (drawn : Nat) :
    g.generate source createdAt r drawn = (.ok none, drawn) := by
  unfold generate
  rw [h]
  rfl

/-- For a request a payload is made from the definition that is chosen. -/
theorem generate_of_choose? (g : Generator) (source : TokenSource)
    (createdAt : Binary64) {r : PayloadRequest} {d : PayloadDefinition}
    (h : g.choose? r = some d) (drawn : Nat) :
    g.generate source createdAt r drawn =
      ((g.render source createdAt d drawn).1.map some,
        (g.render source createdAt d drawn).2) := by
  unfold generate
  rw [h]
  rfl

end Generator

namespace PayloadCatalog

variable {c : PayloadCatalog} {p : Payload}

/-- A payload has its definition from the catalog. -/
theorem Mints.definition_mem (h : c.Mints p) : p.definition ∈ c.payloads := by
  obtain ⟨g, source, createdAt, d, drawn, -, -, hd, hr⟩ := h
  rcases Generator.render_cases hr with ⟨-, rfl⟩ | ⟨-, client, -, rfl⟩
  · exact hd
  · exact hd

/-- A payload has a token of sixteen digits. -/
theorem Mints.isToken (h : c.Mints p) : IsToken p.randomToken.toList := by
  obtain ⟨g, source, createdAt, d, drawn, -, hs, -, hr⟩ := h
  rcases Generator.render_cases hr with ⟨-, rfl⟩ | ⟨-, client, -, rfl⟩
  · exact hs drawn Generator.tokenOctets
  · exact hs drawn Generator.tokenOctets

/-- Without a callback the text is the template with the token in it. -/
theorem Mints.text_eq (h : c.Mints p) (hc : p.definition.usesCallback = false) :
    p.text = Text.replaceIn tokenMark p.randomToken p.definition.template := by
  obtain ⟨g, source, createdAt, d, drawn, -, -, -, hr⟩ := h
  rcases Generator.render_cases hr with ⟨-, rfl⟩ | ⟨hd, client, -, rfl⟩
  · rfl
  · rw [hd] at hc
    cases hc

/-- Every token can be drawn, for every definition without a callback. -/
theorem exists_mints {d : PayloadDefinition} (hd : d ∈ c.payloads) (hc : d.usesCallback = false)
    {token : List Char} (ht : IsToken token) :
    ∃ p, c.Mints p ∧ p.definition = d ∧ p.randomToken.toList = token := by
  let source : TokenSource := fun _ octets ↦
    if octets = Generator.tokenOctets then String.ofList token
    else String.ofList (List.replicate (2 * octets) '0')
  have hs : source.IsHexadecimal := by
    intro number octets
    by_cases h : octets = Generator.tokenOctets
    · rw [show source number octets = String.ofList token from if_pos h, String.toList_ofList, h]
      exact ht
    · rw [show source number octets = String.ofList (List.replicate (2 * octets) '0') from
        if_neg h, String.toList_ofList]
      refine ⟨List.length_replicate, fun e he ↦ ?_⟩
      rw [List.eq_of_mem_replicate he]
      rfl
  have hr := Generator.render_local ⟨c, none⟩ source 0 hc 0
  refine ⟨_, ⟨⟨c, none⟩, source, 0, d, 0, rfl, hs, hd, by rw [hr]⟩, rfl, ?_⟩
  exact String.toList_ofList

/-- What is chosen for a request is a definition of the catalog. -/
theorem mem_of_choose? {g : Generator} {r : PayloadRequest} {d : PayloadDefinition}
    (h : g.choose? r = some d) : d ∈ g.catalog.payloads := by
  have hfound : d ∈ g.candidates r := by
    unfold Generator.choose? at h
    simp only [Option.orElse_eq_orElse, Option.orElse_eq_or, Option.or_eq_some_iff] at h
    rcases h with h | ⟨-, h⟩
    · split at h
      · exact List.mem_of_find?_eq_some h
      · cases h
    · exact List.mem_of_find?_eq_some h
  exact List.mem_of_mem_filter hfound

/-- What is generated for a request is rendered from a definition of the catalog. -/
theorem exists_render_of_generate {g : Generator} {source : TokenSource} {createdAt : Binary64}
    {r : PayloadRequest} {drawn : Nat}
    (h : (g.generate source createdAt r drawn).1 = .ok (some p)) :
    ∃ d ∈ g.catalog.payloads, (g.render source createdAt d drawn).1 = .ok p := by
  cases hd : g.choose? r with
  | none =>
    rw [g.generate_of_choose?_none source createdAt hd drawn] at h
    cases h
  | some d =>
    refine ⟨d, mem_of_choose? hd, ?_⟩
    rw [g.generate_of_choose? source createdAt hd drawn] at h
    cases hr : (g.render source createdAt d drawn).1 with
    | error fault =>
      rw [hr] at h
      cases h
    | ok q =>
      rw [hr] at h
      cases h
      rfl

end PayloadCatalog
end VulnScanner
