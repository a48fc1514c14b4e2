import VulnScanner.Proofs.Callback.Polling
import VulnScanner.Proofs.Payload.Template

/-!
# Marks that are left

Which marks the texts of payloads still hold. That of the token is always gone. That of the address
is gone from every payload with a callback, if the settings of the server hold none; a payload
without a callback keeps what its template has of it, and nothing is made of other parts.
-/

namespace VulnScanner

/-! ### The public form of secrets -/

/-- Hexadecimal digits are digits of tokens. -/
theorem isTokenDigit_hexDigit (n : Nat) : isTokenDigit (Text.hexDigit n) = true := by
  have hdigit : ∀ k < 16, isTokenDigit (Text.hexDigit k) = true := by decide
  have hmod : Text.hexDigit n = Text.hexDigit (n % 16) := by simp [Text.hexDigit]
  rw [hmod]
  exact hdigit (n % 16) (Nat.mod_lt n (by decide))

private theorem isTokenDigit_of_mem_hexPad {width n : Nat} {c : Char}
    (h : c ∈ Text.hexPad width n) : isTokenDigit c = true := by
  induction width generalizing n with
  | zero => cases h
  | succ width ih =>
    rw [Text.hexPad, List.mem_append, List.mem_singleton] at h
    rcases h with h | rfl
    · exact ih h
    · exact isTokenDigit_hexDigit n

/-- A digest has 28 octets. -/
theorem Octets.Sha3.length_digest (input : List UInt8) : (digest input).length = 28 := by
  have hlane : ∀ w : UInt64, (octetsOf w).length = 8 := fun w ↦ by simp [octetsOf]
  unfold digest
  simp [List.length_flatMap, hlane]

namespace Callback

/-- The public form of a secret is written in digits of tokens. -/
theorem isTokenDigit_of_mem_publicId {secret : String} {c : Char}
    (h : c ∈ (publicId secret).toList) : isTokenDigit c = true := by
  rw [publicId, Octets.Sha3.hexDigest, Text.hexOfBytes, String.toList_ofList,
    List.mem_flatMap] at h
  obtain ⟨b, -, hc⟩ := h
  exact isTokenDigit_of_mem_hexPad hc

/-- The public form of a secret is not empty. -/
theorem publicId_ne_nil (secret : String) : (publicId secret).toList ≠ [] := by
  have hlength := Octets.Sha3.length_digest (Octets.encode secret)
  rw [publicId, Octets.Sha3.hexDigest, Text.hexOfBytes, String.toList_ofList]
  intro h
  cases hdigest : Octets.Sha3.digest (Octets.encode secret) with
  | nil =>
    rw [hdigest] at hlength
    cases hlength
  | cons b rest =>
    rw [hdigest, List.flatMap_cons] at h
    have hpad := congrArg List.length (List.append_eq_nil_iff.mp h).1
    rw [Text.length_hexPad] at hpad
    cases hpad

/-- Settings of a server without the first character of marks. -/
def Server.IsUnmarked (s : Server) : Prop := '$' ∉ s.address.toList ∧ '$' ∉ s.domain.toList

private theorem dollar_not_mem_root {s : Server} (h : s.IsUnmarked) : '$' ∉ s.root.toList := by
  have hport : '$' ∉ (toString s.port).toList := by
    intro hm
    rcases Server.isDigit_of_mem_port hm with hdigit | hsign
    · exact absurd hdigit (by decide)
    · exact absurd hsign (by decide)
  have hhost : '$' ∉ s.rootHost := by
    rw [Server.rootHost, List.mem_append, List.mem_cons, not_or, not_or]
    exact ⟨h.1, by decide, hport⟩
  rw [s.toList_root]
  simp [hhost]

/-- The address for a secret makes no mark where it is put, if the settings of the server hold
none. -/
theorem Client.isInert_uri {client : Client} (h : client.server.IsUnmarked) (secret : String) :
    Template.IsInert (client.uri secret).toList := by
  have hpublic : ∀ c ∈ (publicId secret).toList, ∀ m : Template.Mark, c ∉ m.text :=
    fun c hc ↦ Template.Mark.not_mem_text_of_isTokenDigit (isTokenDigit_of_mem_publicId hc)
  have hdollar : '$' ∉ (publicId secret).toList := fun hm ↦ hpublic _ hm .token (by decide)
  unfold Client.uri
  split
  · rw [String.toList_append]
    constructor
    · rw [List.mem_append, not_or]
      exact ⟨dollar_not_mem_root h, hdollar⟩
    · rw [Server.toList_root]
      exact ⟨'h', _, rfl, fun m ↦ by cases m <;> decide⟩
  · rw [String.toList_append, String.toList_append, List.append_assoc]
    constructor
    · simp only [List.mem_append, not_or]
      exact ⟨hdollar, by decide, h.2⟩
    · obtain ⟨c, rest, hlist⟩ := List.exists_cons_of_ne_nil (publicId_ne_nil secret)
      rw [hlist] at hpublic ⊢
      exact ⟨c, _, rfl, hpublic c List.mem_cons_self⟩

end Callback

/-! ### Texts of payloads -/

namespace Template

variable {text : List Char} {values : Values}

/-- With inert values in, a text holds exactly the marks that it held before and that have no
value. -/
theorem infix_written_put_iff (hvalues : ∀ m value, values m = some value → IsInert value)
    (m : Mark) :
    m.text <:+: written (put values (pieces text)) ↔ values m = none ∧ m.text <:+: text := by
  have hcount := (cuts_pieces text).occurrences_eq m
  -- A mark stands in a text as often as among its pieces, and no other pieces go than those with a
  -- value.
  have hput := ((cuts_pieces text).put hvalues).occurrences_eq m
  rw [count_put, ← hcount] at hput
  rw [m.text_eq] at hput ⊢
  rw [← not_iff_not, not_and_or, ← Text.occurrences_eq_zero_iff, ← Text.occurrences_eq_zero_iff,
    hput]
  cases values m <;> simp

end Template

namespace Generator

open Template

variable {g : Generator} {source : TokenSource} {createdAt : Binary64} {r : PayloadRequest}
  {drawn : Nat} {p : Payload}

/-- The address of a payload makes no mark where it is put. -/
theorem isInert_callbackUrl
    (hclient : ∀ client, g.client = some client → client.server.IsUnmarked)
    {d : PayloadDefinition} (h : (g.render source createdAt d drawn).1 = .ok p) {url : String}
    (hurl : p.callbackUrl = some url) : IsInert url.toList := by
  rcases render_cases h with ⟨-, rfl⟩ | ⟨-, client, hg, rfl⟩
  · cases hurl
  · cases hurl
    exact client.isInert_uri (hclient client hg) _

/-- What is generated holds no mark of a token, for every catalog. It holds the mark of an address
exactly if its definition does not use the callback server and has the mark in its template. -/
theorem marks_of_generate
    (hclient : ∀ client, g.client = some client → client.server.IsUnmarked)
    (hs : source.IsHexadecimal)
    (h : (g.generate source createdAt r drawn).1 = .ok (some p)) :
    ¬ tokenMark.toList <:+: p.text.toList ∧
      (urlMark.toList <:+: p.text.toList ↔
        p.definition.usesCallback = false ∧ urlMark.toList <:+: p.definition.template.toList) := by
  obtain ⟨d, -, hr⟩ := PayloadCatalog.exists_render_of_generate h
  obtain ⟨rfl, htoken, hurl, htext⟩ := text_of_render (hs drawn tokenOctets) hr
  have hvalues : ∀ m value,
      valuesOf p.randomToken.toList (p.callbackUrl.map String.toList) m = some value →
        IsInert value := by
    rintro (_ | _) value hvalue
    · cases hvalue
      exact isInert_of_isToken (htoken ▸ hs drawn tokenOctets)
    · obtain ⟨url, hsome, rfl⟩ := Option.map_eq_some_iff.mp hvalue
      exact isInert_callbackUrl hclient hr hsome
  rw [htext, ← hurl]
  refine ⟨fun hm ↦ ?_, (infix_written_put_iff hvalues .url).trans (and_congr_left fun _ ↦ ?_)⟩
  · cases ((infix_written_put_iff hvalues .token).mp hm).1
  · rw [Option.isSome_eq_false_iff, Option.isNone_iff_eq_none]
    exact Option.map_eq_none_iff

/-- A record without a callback that has the mark of an address in its template. -/
def markedRecord : Value :=
  .mapping
    [(.text "name", .text "plain"), (.text "interpretation_environment", .text "ANY"),
     (.text "execution_environment", .text "ANY"),
     (.text "payload_string", .text "curl $TOKEN_URL"),
     (.text "vulnerability_type", .list [.text "SSRF"])]

/-- Such a record is loaded, and the mark is in what a generator with a server makes from it. -/
theorem marks_of_generate_unused :
    ∃ c p, PayloadCatalog.ofValue (.list [markedRecord]) "" = .ok c ∧
      ((Generator.mk c (some ⟨{ address := "192.0.2.10" }, rfl, {}⟩)).generate
        (fun _ octets ↦ String.ofList (.replicate (2 * octets) '0'))
        0 ⟨.ssrf, .linuxShell, .any, true⟩ 0).1 = .ok (some p) ∧
      ¬ tokenMark.toList <:+: p.text.toList ∧ urlMark.toList <:+: p.text.toList := by
  let d : PayloadDefinition :=
    ⟨"plain", .any, .any, false, "curl $TOKEN_URL", .none, none, [.ssrf]⟩
  let source : TokenSource := fun _ octets ↦ String.ofList (.replicate (2 * octets) '0')
  have hload : (PayloadCatalog.ofValue (.list [markedRecord]) "").toOption = some ⟨[d]⟩ := by
    decide +kernel
  have hs : source.IsHexadecimal := by
    intro number octets
    rw [String.toList_ofList]
    refine ⟨List.length_replicate, fun c hc ↦ ?_⟩
    rw [List.eq_of_mem_replicate hc]
    decide
  let g : Generator := ⟨⟨[d]⟩, some ⟨{ address := "192.0.2.10" }, rfl, {}⟩⟩
  have hclient : ∀ client, g.client = some client → client.server.IsUnmarked := by
    rintro client ⟨⟩
    exact ⟨by decide, by decide⟩
  have hgenerate : (g.generate source 0 ⟨.ssrf, .linuxShell, .any, true⟩ 0).1 = .ok (some {
      definition := d
      text := Text.replaceIn tokenMark (source 0 tokenOctets) d.template
      randomToken := source 0 tokenOctets
      createdAt := 0 }) := by
    rw [g.generate_of_choose? source 0 (show g.choose? _ = some d by decide) 0,
      g.render_local source 0 rfl 0]
    rfl
  have hmarks := marks_of_generate hclient hs hgenerate
  exact ⟨⟨[d]⟩, _, toOption_eq_some_iff.mp hload, hgenerate, hmarks.1,
    hmarks.2.mpr ⟨rfl, by decide⟩⟩

end Generator
end VulnScanner
