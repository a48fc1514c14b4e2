import VulnScanner.Payload.Bundled
import VulnScanner.Payload.Rehearsal
import VulnScanner.Proofs.Payload.Loading
import VulnScanner.Proofs.Payload.Rendering
import VulnScanner.Proofs.Regex.DotAll
import VulnScanner.Proofs.Regex.Lockstep

/-!
# Expressions and their stand-in

An expression is checked with zeros in the place of the random token, and it is used with the token
that was drawn. Validation fails exactly if the check fails for the drawn token, so that the check
of the zeros is enough for the token of zeros and, for other tokens, where it says the same of them.
-/

namespace VulnScanner

/-- The check of an expression with any token in the place of the marks. -/
def checkWith [Platform] (token : List Char) (regex : String) : Except PatternFault Unit :=
  let source := regexFor token regex
  match Regex.Pattern.compile {} source with
  | .ok _ => .ok ()
  | .error error => .error ⟨source, error⟩

/-- The check is passed exactly if the expression with the token in it compiles. -/
theorem checkWith_eq_ok_iff [Platform] {token : List Char} {regex : String} :
    checkWith token regex = .ok () ↔
      ∃ p, Regex.Pattern.compile {} (regexFor token regex) = .ok p := by
  unfold checkWith
  cases h : Regex.Pattern.compile {} (regexFor token regex) with
  | error e => simp [h]
  | ok p => simp [h]

/-- An expression is checked with zeros. -/
theorem checkRegex_eq_ok_iff [Platform] (regex : String) :
    checkRegex regex = .ok () ↔ checkWith zeroToken regex = .ok () := by
  unfold checkRegex checkWith
  cases h : Regex.Pattern.compile {} (regexFor zeroToken regex) with
  | error e => simp only [h, reduceCtorEq]
  | ok p => simp only [h]

/-- The pattern of a payload is usable exactly if its expression passes the check with its own
token, and else it has the same fault. -/
theorem Payload.pattern?_eq [Platform] {p : Payload} {regex : String}
    (hr : givenRegex p.definition.regex = some regex) (ht : IsToken p.randomToken.toList) :
    (∀ fault, p.pattern? = some (.error fault) ↔
        checkWith p.randomToken.toList regex = .error fault) ∧
      ((∃ pattern, p.pattern? = some (.ok pattern)) ↔
        checkWith p.randomToken.toList regex = .ok ()) := by
  have hdotted := Regex.compile_dotted {} (regexFor p.randomToken.toList regex)
  rw [Payload.pattern?, hr, Option.map_some, escape_of_isTokenDigit ht.2]
  unfold checkWith
  change Regex.Pattern.compile { dotAll := true } _ = _ at hdotted
  simp only [hdotted]
  cases Regex.Pattern.compile {} (regexFor p.randomToken.toList regex) with
  | error e => simp [Except.map]
  | ok pattern => simp [Except.map]

/-! ### Expressions for which zeros are enough -/

/-- No mark stands where it could be taken in: the expression has neither sets nor counts, no
escapes that take what follows, no named groups and no looking behind, and no mark is escaped.
Whether a backslash stands before the text is given first. -/
def isPlainlyMarked : Bool → List Char → Bool
  | escaped, [] => !escaped
  | true, c :: rest =>
    Regex.isLoneEscape c && !tokenMark.toList.isPrefixOf (c :: rest) && isPlainlyMarked false rest
  | false, c :: rest =>
    if c = '\\' then isPlainlyMarked true rest
    else if c = '(' then decide (Regex.OpensUnnamed rest) && isPlainlyMarked false rest
    else Regex.isCommon c && isPlainlyMarked false rest

/-- The digits of tokens stand for themselves. -/
theorem isInert_of_isTokenDigit {c : Char} (h : isTokenDigit c = true) :
    Regex.isInert c = true := by
  have hne : ∀ d, isTokenDigit d = false → c ≠ d := by
    rintro d hd rfl
    rw [h] at hd
    cases hd
  simp [Regex.isInert, Regex.isPlain, Regex.isLayout, hne '\\' rfl, hne '.' rfl, hne '^' rfl,
    hne '$' rfl, hne '*' rfl, hne '+' rfl, hne '?' rfl, hne '\x7b' rfl, hne '[' rfl, hne '(' rfl,
    hne ')' rfl, hne '|' rfl, hne ' ' rfl, hne '\t' rfl, hne '\n' rfl, hne '\r' rfl,
    hne '\x0b' rfl, hne '\x0c' rfl, hne '#' rfl]

private theorem readAlike_token {token s t : List Char} (ht : ∀ c ∈ token, isTokenDigit c = true)
    (h : Regex.ReadAlike s t) :
    Regex.ReadAlike (List.replicate token.length '0' ++ s) (token ++ t) := by
  induction token with
  | nil => exact h
  | cons c rest ih =>
    rw [List.forall_mem_cons] at ht
    exact .zero (isInert_of_isTokenDigit ht.1) (ih ht.2)

private theorem tokenMark_toList : tokenMark.toList = '$' :: "TOKEN_RANDOM".toList := rfl

private theorem opensUnnamed_replaceAll {text : List Char} (h : Regex.OpensUnnamed text) :
    Regex.OpensUnnamed (Text.replaceAll tokenMark.toList zeroToken text) := by
  have hlead : ∀ c, c ≠ '0' → ¬ ['?', c] <+: text →
      ¬ ['?', c] <+: Text.replaceAll tokenMark.toList zeroToken text := by
    intro c hc hnot hp
    refine hnot (Text.prefix_of_prefix_replaceAll ?_ hp)
    simp [Ne.symm hc]
  exact ⟨hlead 'P' (by decide) h.1, hlead '(' (by decide) h.2.1, hlead '<' (by decide) h.2.2⟩

private theorem isPlainlyMarked_mark_append (rest : List Char) :
    isPlainlyMarked false (tokenMark.toList ++ rest) = isPlainlyMarked false rest := by
  rfl

/-- A plainly marked expression reads alike with zeros and with any token. -/
theorem readAlike_of_isPlainlyMarked {token : List Char} (ht : IsToken token) (text : List Char)
    (h : isPlainlyMarked false text = true) :
    Regex.ReadAlike (Text.replaceAll tokenMark.toList zeroToken text)
      (Text.replaceAll tokenMark.toList token text) := by
  induction hn : text.length using Nat.strong_induction_on generalizing text with
  | _ n ih =>
    subst hn
    have hrec : ∀ rest : List Char, rest.length < text.length → isPlainlyMarked false rest = true →
        Regex.ReadAlike (Text.replaceAll tokenMark.toList zeroToken rest)
          (Text.replaceAll tokenMark.toList token rest) :=
      fun rest hlt hrest ↦ ih rest.length hlt rest hrest rfl
    by_cases hm : tokenMark.toList <+: text
    · obtain ⟨rest, rfl⟩ := hm
      have hlt : rest.length < (tokenMark.toList ++ rest).length := by
        rw [List.length_append]
        exact Nat.lt_add_of_pos_left (by decide)
      rw [isPlainlyMarked_mark_append] at h
      rw [tokenMark_toList, Text.replaceAll_word_append, Text.replaceAll_word_append,
        ← tokenMark_toList]
      have htoken := readAlike_token ht.2 (hrec rest hlt h)
      rwa [ht.1] at htoken
    cases text with
    | nil => exact .nil
    | cons c rest =>
      rw [Text.replaceAll_cons_of_not_begins _ hm, Text.replaceAll_cons_of_not_begins _ hm]
      rw [isPlainlyMarked] at h
      split at h
      · next hb =>
        subst hb
        cases rest with
        | nil => cases h
        | cons d rest =>
          simp only [isPlainlyMarked, Bool.and_eq_true, Bool.not_eq_true'] at h
          have hd : ¬ tokenMark.toList <+: d :: rest := by
            rw [← List.isPrefixOf_iff_prefix, h.1.2]
            exact Bool.false_ne_true
          rw [Text.replaceAll_cons_of_not_begins _ hd, Text.replaceAll_cons_of_not_begins _ hd]
          exact .escaped h.1.1 (hrec rest (Nat.lt_succ_of_lt (Nat.lt_succ_self _)) h.2)
      split at h
      · next hp =>
        subst hp
        rw [Bool.and_eq_true, decide_eq_true_eq] at h
        exact .opened (opensUnnamed_replaceAll h.1) (hrec rest (by simp) h.2)
      · rw [Bool.and_eq_true] at h
        exact .same h.1 (hrec rest (by simp) h.2)

/-- The check with zeros is enough for a plainly marked expression. -/
theorem checkWith_of_isPlainlyMarked [Platform] {regex : String}
    (h : isPlainlyMarked false regex.toList = true) (hz : checkWith zeroToken regex = .ok ())
    {token : List Char} (ht : IsToken token) : checkWith token regex = .ok () := by
  rw [checkWith_eq_ok_iff] at hz ⊢
  exact Regex.exists_compile_of_readAlike (readAlike_of_isPlainlyMarked ht regex.toList h) hz

example : isPlainlyMarked false PayloadCatalog.printedRegex.toList = true := by decide

namespace Validator

variable {W : Type} (v : Validator Binary64) (world : World W Binary64) (polls : Nat)
  (timeout : Option Binary64) (w : W)

/-- A payload that is validated by its expression is validated without a fault exactly if its
pattern is usable. -/
theorem validate_of_regex [Platform] {p : Payload} (hv : p.definition.validation = .regex)
    {regex : String} (hr : givenRegex p.definition.regex = some regex) (response : Option String) :
    (∀ fault, v.validate world polls p response timeout w = some (.error (.pattern fault), w) ↔
        p.pattern? = some (.error fault)) ∧
      ((∃ result, v.validate world polls p response timeout w = some (.ok result, w)) ↔
        ∃ pattern, p.pattern? = some (.ok pattern)) := by
  have hsome : p.pattern?.isSome = true := by
    rw [Payload.pattern?, hr]
    rfl
  unfold validate
  rw [hv]
  simp only [Payload.checkResponse]
  cases hp : p.pattern? with
  | none =>
    rw [hp] at hsome
    cases hsome
  | some outcome =>
    cases outcome with
    | error fault => simp
    | ok pattern =>
      cases response with
      | none => simp
      | some response =>
        cases hm : pattern.occursIn response.toList with
        | false => simp [hm]
        | true => simp [hm]

/-- A definition that is validated by its expression has passed the check of the zeros. A payload
that is made from it is validated without a fault, for every response, exactly if its own token
passes the same check, and else validation fails with the fault of that check. So validation never
fails exactly if every token passes; where the expression is plainly marked, that is so. -/
theorem validate_ok_iff_checkWith [Platform] {c : PayloadCatalog} (hc : c.Loaded)
    {d : PayloadDefinition} (hd : d ∈ c.payloads) (hv : d.validation = .regex) :
    ∃ regex, givenRegex d.regex = some regex ∧ checkWith zeroToken regex = .ok () ∧
      (∀ p, c.Mints p → p.definition = d → ∀ response,
        ((∃ result, v.validate world polls p response timeout w = some (.ok result, w)) ↔
          checkWith p.randomToken.toList regex = .ok ()) ∧
        ∀ fault, v.validate world polls p response timeout w =
            some (.error (.pattern fault), w) ↔
          checkWith p.randomToken.toList regex = .error fault) ∧
      ((∀ p, c.Mints p → p.definition = d → ∀ response,
          ∃ result, v.validate world polls p response timeout w = some (.ok result, w)) ↔
        ∀ token, IsToken token → checkWith token regex = .ok ()) ∧
      (isPlainlyMarked false regex.toList = true →
        ∀ token, IsToken token → checkWith token regex = .ok ()) := by
  obtain ⟨regex, hr⟩ := (hc.fits hd).exists_givenRegex hv
  obtain ⟨hcallback, -, hcheck⟩ := (hc.fits hd).of_givenRegex hr
  have hzero := (checkRegex_eq_ok_iff regex).mp hcheck
  have hown : ∀ p, c.Mints p → p.definition = d → ∀ response,
      ((∃ result, v.validate world polls p response timeout w = some (.ok result, w)) ↔
        checkWith p.randomToken.toList regex = .ok ()) ∧
      ∀ fault, v.validate world polls p response timeout w =
          some (.error (.pattern fault), w) ↔
        checkWith p.randomToken.toList regex = .error fault := by
    rintro p hp rfl response
    obtain ⟨hfault, hresult⟩ := v.validate_of_regex world polls timeout w hv hr response
    obtain ⟨hpattern, husable⟩ := Payload.pattern?_eq hr hp.isToken
    exact ⟨hresult.trans husable, fun fault ↦ (hfault fault).trans (hpattern fault)⟩
  refine ⟨regex, hr, hzero, hown, ⟨fun h token ht ↦ ?_, fun h p hp he response ↦ ?_⟩,
    fun h token ht ↦ checkWith_of_isPlainlyMarked h hzero ht⟩
  · obtain ⟨p, hp, he, rfl⟩ := PayloadCatalog.exists_mints hd hcallback ht
    exact (hown p hp he none).1.mp (h p hp he none)
  · exact (hown p hp he response).1.mpr (h _ hp.isToken)

/-- The definition of a payload with an escaped mark. -/
def escaped : PayloadDefinition where
  name := "escaped"
  interpretation := .linuxShell
  execution := .any
  usesCallback := false
  template := "id"
  validation := .regex
  regex := some "\\$TOKEN_RANDOM"
  vulnerabilities := [.ssrf]

/-- A backslash before the mark is an octal escape with zeros, and it fails with a letter. -/
theorem validate_ok_iff_checkWith_escaped :
    ∃ (c : PayloadCatalog) (p : Payload), c.Loaded ∧ c.Mints p ∧ p.definition.validation = .regex ∧
      ∀ response, ∃ fault, (⟨none, 0, 0⟩ : Validator Binary64).validate Rehearsal.world 1 p
          response none {} = some (.error (.pattern fault), {}) ∧
        fault.message = "bad escape \\c at position 0" := by
  have hc : (⟨[escaped]⟩ : PayloadCatalog).Loaded := by
    have hread : (PayloadCatalog.readRecords "" [] [PayloadCatalog.plainRecord "escaped"
        "LINUX_SHELL" "EXEC_ANY" "id" (some "\\$TOKEN_RANDOM") ["SSRF"]]).toOption =
          some [escaped] := by decide +kernel
    exact ⟨"", _, toOption_eq_some_iff.mp hread⟩
  have hd : escaped ∈ (⟨[escaped]⟩ : PayloadCatalog).payloads := List.mem_singleton_self _
  have ht : IsToken "c000000000000000".toList := ⟨by decide, List.all_eq_true.mp (by decide)⟩
  obtain ⟨p, hp, he, htoken⟩ := PayloadCatalog.exists_mints hd rfl ht
  obtain ⟨regex, hr, -, hown, -, -⟩ :=
    validate_ok_iff_checkWith ⟨none, 0, 0⟩ Rehearsal.world 1 none {} hc hd rfl
  cases hr
  have hfault : checkWith p.randomToken.toList "\\$TOKEN_RANDOM" =
      .error ⟨"\\c000000000000000".toList, .malformed (.badEscape "\\c") 0⟩ := by
    rw [htoken]
    decide +kernel
  exact ⟨_, p, hc, hp, he ▸ rfl, fun response ↦
    ⟨_, ((hown p hp he response).2 _).mpr hfault, rfl⟩⟩

end Validator
end VulnScanner
