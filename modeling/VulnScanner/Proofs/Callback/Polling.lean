import VulnScanner.Proofs.Http.Host
import VulnScanner.Proofs.Number.Numerals
import VulnScanner.Settings

/-!
# Asking a callback server

A client asks at the polling address of its server, or at its root if it has none. Nothing but the
settings decides whether a look-up can be made and which server it goes to: it is the same for every
secret and every moment. The settings are not looked at as an address before, so that there are
clients that can make no look-up, and a client of a domain alone asks at a root without a host.
-/

namespace VulnScanner.Callback

namespace Server

variable {s : Server}

/-- The host in the root of a server. -/
def rootHost (s : Server) : List Char := s.address.toList ++ ':' :: (toString s.port).toList

/-- The root of a server is its host behind a scheme. -/
theorem toList_root (s : Server) :
    s.root.toList = "http".toList ++ ':' :: '/' :: '/' :: (s.rootHost ++ ['/']) := by
  simp [root, rootHost, toString]

/-- Holds for servers with nothing but the name of a host as their address, which may be missing: no
character of it has a meaning in the address of a request. -/
def HasPlainAddress (s : Server) : Prop :=
  ∀ c ∈ s.address.toList,
    c ∉ ['/', '?', '#', '@', '[', ']', ':'] ∧ Http.hidesSign c = false

private theorem isDigit_of_mem_repr {n : Nat} {c : Char} (h : c ∈ n.repr.toList) :
    c.isDigit = true := by
  rw [Nat.repr_eq_ofList_toDigits, String.toList_ofList] at h
  exact Nat.isDigit_of_mem_toDigits (by decide) (by decide) h

private theorem hidesSign_of_isDigit {c : Char} (h : c.isDigit = true) :
    Http.hidesSign c = false := by
  have hlt : c.toNat < 0x2047 := by
    simp only [Char.isDigit, Bool.and_eq_true, decide_eq_true_eq, UInt32.le_iff_toNat_le] at h
    exact Nat.lt_of_le_of_lt h.2 (by decide)
  have hall : Http.signLookalikes.all (0x2047 ≤ ·) = true := by decide
  rw [Http.hidesSign, ← Bool.not_eq_true, List.contains_iff_mem]
  intro hmem
  have hle := of_decide_eq_true (List.all_eq_true.mp hall _ hmem)
  omega

/-- A port is written in digits, perhaps behind a sign. -/
theorem isDigit_of_mem_port {n : Int} {c : Char} (h : c ∈ (toString n).toList) :
    c.isDigit = true ∨ c = '-' := by
  change c ∈ n.repr.toList at h
  rw [Int.repr_eq_if] at h
  split at h
  · exact .inl (isDigit_of_mem_repr h)
  · rw [String.toList_append, List.mem_append] at h
    rcases h with h | h
    · exact .inr (by simpa using h)
    · exact .inl (isDigit_of_mem_repr h)

private theorem sound_of_mem_rootHost (h : s.HasPlainAddress) {c : Char} (hc : c ∈ s.rootHost) :
    c ∉ ['/', '?', '#', '@', '[', ']'] ∧ Http.hidesSign c = false := by
  have hsigns : ∀ d ∈ ['/', '?', '#', '@', '[', ']'],
      ¬(d.isDigit = true ∨ d = '-') ∧ d ≠ ':' := by
    simp
  rw [rootHost, List.mem_append, List.mem_cons] at hc
  rcases hc with hc | rfl | hc
  · exact ⟨fun hsign ↦ (h c hc).1 (List.mem_append_left [':'] hsign), (h c hc).2⟩
  · decide
  · refine ⟨fun hsign ↦ (hsigns c hsign).1 (isDigit_of_mem_port hc), ?_⟩
    rcases isDigit_of_mem_port hc with hdigit | rfl
    · exact hidesSign_of_isDigit hdigit
    · decide

private theorem serverName_rootHost (h : s.HasPlainAddress) :
    Http.serverName s.rootHost = s.address.toList := by
  have huser : Text.splitLast '@' s.rootHost = none :=
    Text.splitLast_of_not_mem fun hc ↦ (sound_of_mem_rootHost h hc).1 (by decide)
  have hbracket : s.rootHost.dropWhile (· ≠ '[') = [] := by
    rw [List.dropWhile_eq_nil_iff]
    intro c hc
    apply decide_eq_true
    rintro rfl
    exact (sound_of_mem_rootHost h hc).1 (by decide)
  have hname : s.rootHost.takeWhile (· ≠ ':') = s.address.toList := by
    rw [rootHost, List.takeWhile_append_of_pos]
    · simp
    · intro c hc
      apply decide_eq_true
      rintro rfl
      exact (h _ hc).1 (by decide)
  unfold Http.serverName
  rw [huser]
  dsimp only [Option.map_none, Option.getD_none]
  rw [hbracket]
  exact hname

/-- The root of a server with a plain address is sound, and it names this address unless it is
missing. -/
theorem ofBase_root (h : s.HasPlainAddress) :
    (Http.Url.ofBase s.root).IsSound ∧ (Http.Url.ofBase s.root).server? =
      if s.address = "" then none else some ("http".toList, s.rootHost) := by
  obtain ⟨hserver, hsound⟩ := Http.Url.ofBase_of_absolute s.toList_root (by decide) (by decide)
    (fun c hc ↦ by
      have hsigns := (sound_of_mem_rootHost h hc).1
      simp only [List.mem_cons, not_or] at hsigns
      exact ⟨hsigns.1, hsigns.2.1, hsigns.2.2.1⟩) (by simp)
  refine ⟨hsound.mpr ?_, ?_⟩
  · have hchars : ∀ c ∈ s.rootHost.filter (!Http.Url.isLeftOut ·),
        c ∉ ['/', '?', '#', '@', '[', ']'] ∧ Http.hidesSign c = false :=
      fun c hc ↦ sound_of_mem_rootHost h (List.mem_of_mem_filter hc)
    have hopen : '[' ∉ s.rootHost.filter (!Http.Url.isLeftOut ·) :=
      fun hc ↦ (hchars _ hc).1 (by decide)
    have hclose : ']' ∉ s.rootHost.filter (!Http.Url.isLeftOut ·) :=
      fun hc ↦ (hchars _ hc).1 (by decide)
    exact ⟨iff_of_false hopen hclose, fun hc ↦ absurd hc hopen, fun c hc ↦ (hchars c hc).2⟩
  · rw [hserver, serverName_rootHost h]
    by_cases hnone : s.address = ""
    · rw [if_pos hnone, if_pos (by rw [hnone]; rfl)]
    · rw [if_neg hnone, if_neg (by simpa using hnone)]

/-- The port of a server that an environment sets can be written out. -/
theorem hasPolling_of_ofEnvironment {env : Environment} (h : ofEnvironment env = .ok s) :
    s.hasPolling = true := by
  obtain ⟨port, hport, h⟩ := bind_eq_ok_iff.mp h
  cases h
  have hdigits := Number.hasDigits_of_readInteger (mapError_eq_ok_iff.mp hport)
  simp [hasPolling, hdigits]

end Server

namespace Client

/-- How a client of a server asks. -/
structure Polls (c : Client) (s : Server) : Prop where
  /-- Look-ups can be made exactly if the polling address can be written out and is sound. -/
  made_iff : ∀ secret since, (∃ r, c.lookupRequest secret since = .ok r) ↔
    s.hasPolling = true ∧ (Http.Url.ofBase s.polling).IsSound
  /-- They name the server that the address names, or none if it names none. -/
  server?_eq : ∀ secret since r, c.lookupRequest secret since = .ok r →
    r.url.server? = (Http.Url.ofBase s.polling).server?
  /-- An address that is absolute as it is written names what is written, if that has a name, and is
  sound if this is, in which tabs and line breaks do not count. -/
  of_absolute : ∀ scheme host rest,
    s.polling.toList = scheme ++ ':' :: '/' :: '/' :: (host ++ rest) →
    Http.isScheme scheme = true → scheme ≠ ['U', 'R', 'L'] →
    (∀ d ∈ host, d ≠ '/' ∧ d ≠ '?' ∧ d ≠ '#') →
    (∀ d ∈ rest.head?, d = '/' ∨ d = '?' ∨ d = '#') →
    (Http.Url.ofBase s.polling).server? =
        (if Http.serverName host = [] then none else some (scheme, host)) ∧
      ((Http.Url.ofBase s.polling).IsSound ↔
        Http.Authority.IsSound (host.filter (!Http.Url.isLeftOut ·)))

private theorem lookupParams_ne_nil {secret : String} {since : Option Binary64} :
    lookupParams secret since ≠ [] := by
  simp [lookupParams]

private theorem polls (c : Client) : c.Polls c.server where
  made_iff _ _ := by
    simp only [lookupRequest_eq_ok_iff, exists_and_left]
    exact and_congr_right fun _ ↦ Http.Client.exists_get_iff lookupParams_ne_nil
  server?_eq _ _ _ hr :=
    Http.Client.server?_of_get lookupParams_ne_nil (lookupRequest_eq_ok_iff.mp hr).2
  of_absolute _ _ _ hasked hscheme hmark hhost hrest :=
    Http.Url.ofBase_of_absolute hasked hscheme hmark hhost hrest

/-- There is a client exactly for servers with an address or a domain, and the settings of its
server decide on all its look-ups. A server that an environment sets has a polling address that can
be written out. If none is given this is the root, which is sound for plain addresses and names
them. It names nothing if there is a domain alone: all look-ups of such a client are made without a
server. -/
theorem ofServer_polls (s : Server) (http : Http.Client) :
    ((∃ c, ofServer s http = .ok c) ↔ s.address ≠ "" ∨ s.domain ≠ "") ∧
      (∀ c, ofServer s http = .ok c → c.Polls s) ∧
      (∀ env, Server.ofEnvironment env = .ok s → s.hasPolling = true) ∧
      (s.pollingUri = "" → s.polling = s.root ∧ (s.HasPlainAddress →
        (Http.Url.ofBase s.root).IsSound ∧ (Http.Url.ofBase s.root).server? =
          if s.address = "" then none else some ("http".toList, s.rootHost))) ∧
      (s.pollingUri = "" → s.address = "" → s.hasPolling = true →
        ∀ c, ofServer s http = .ok c → ∀ secret since,
          ∃ r, c.lookupRequest secret since = .ok r ∧ r.url.server? = none) := by
  have hpolls : ∀ c, ofServer s http = .ok c → c.Polls s := by
    intro c hc
    unfold ofServer at hc
    split at hc
    · cases hc
      exact polls _
    · cases hc
  refine ⟨?_, hpolls, fun _ ↦ Server.hasPolling_of_ofEnvironment,
    fun hnone ↦ ⟨if_pos hnone, Server.ofBase_root⟩, ?_⟩
  · unfold ofServer
    split
    next h => simpa [Server.isEnabled] using h
    next h => simpa [Server.isEnabled] using h
  · intro hnone haddress hwritten c hc secret since
    have hplain : s.HasPlainAddress := fun d hd ↦ by simp [haddress] at hd
    obtain ⟨hsound, hserver⟩ := Server.ofBase_root hplain
    have hpolling : s.polling = s.root := if_pos hnone
    obtain ⟨r, hr⟩ := ((hpolls c hc).made_iff secret since).mpr ⟨hwritten, hpolling ▸ hsound⟩
    refine ⟨r, hr, ?_⟩
    rw [(hpolls c hc).server?_eq secret since r hr, hpolling, hserver, if_pos haddress]

/-- Three servers that are accepted. The client of a domain with a polling address asks there; that
of an address without a scheme can make no look-up, and that of a domain alone makes each without a
server. -/
theorem ofServer_polls_settings :
    (∃ c, ofServer { domain := "cb.example", pollingUri := "https://u@[2001:db8::1]:84?k" } {} =
        .ok c ∧ ∀ secret since, ∃ r, c.lookupRequest secret since = .ok r ∧
          r.url.server? = some ("https".toList, "u@[2001:db8::1]:84".toList)) ∧
    (∃ c, ofServer { address := "192.0.2.10", pollingUri := "callback.example/poll" } {} = .ok c ∧
      ∀ secret since, ¬∃ r, c.lookupRequest secret since = .ok r) ∧
    ∃ c, ofServer { domain := "cb.example" } {} = .ok c ∧ ∀ secret since,
      ∃ r, c.lookupRequest secret since = .ok r ∧ r.url.server? = none := by
  let given : Server := { domain := "cb.example", pollingUri := "https://u@[2001:db8::1]:84?k" }
  let bare : Server := { address := "192.0.2.10", pollingUri := "callback.example/poll" }
  let alone : Server := { domain := "cb.example" }
  have hgiven := (ofServer_polls given {}).2.1 ⟨given, by decide, {}⟩ rfl
  have hbare := (ofServer_polls bare {}).2.1 ⟨bare, by decide, {}⟩ rfl
  have hread : Server.ofEnvironment [("VULNDETECT_CALLBACK_DOMAIN", "cb.example")] = .ok alone := by
    rfl
  have hwritten := (ofServer_polls alone {}).2.2.1 _ hread
  refine ⟨⟨⟨given, by decide, {}⟩, rfl, fun secret since ↦ ?_⟩,
    ⟨⟨bare, by decide, {}⟩, rfl, fun secret since hr ↦ ?_⟩,
    ⟨⟨alone, by decide, {}⟩, rfl, (ofServer_polls alone {}).2.2.2.2 rfl rfl hwritten _ rfl⟩⟩
  · obtain ⟨hserver, hsound⟩ := hgiven.of_absolute "https".toList "u@[2001:db8::1]:84".toList
      "?k".toList (by decide) (by decide) (by decide) (by simp) (by simp)
    have hauthority : Http.Authority.check ("u@[2001:db8::1]:84".toList.filter
        (!Http.Url.isLeftOut ·)) = .ok () := by decide
    obtain ⟨r, hr⟩ := (hgiven.made_iff secret since).mpr
      ⟨by decide, hsound.mpr (Http.Authority.check_eq_ok_iff.mp hauthority)⟩
    refine ⟨r, hr, ?_⟩
    rw [hgiven.server?_eq secret since r hr, hserver]
    decide
  · have hscheme := ((hbare.made_iff secret since).mp hr).2.hasScheme
    exact absurd hscheme (by decide)

end Client
end VulnScanner.Callback
