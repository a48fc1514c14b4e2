import Mathlib.Data.List.Chain
import VulnScanner.Payload.Rehearsal
import VulnScanner.Proofs.Payload.Bundled
import VulnScanner.Proofs.Payload.Rendering
import VulnScanner.Proofs.Regex.Surrounded

/-!
# Verdicts by expression

For an expression that puts any text around a word with the token in it, a response is confirmed
exactly if the word with the drawn token occurs in it. A response that only repeats a bundled
payload is never confirmed.
-/

namespace VulnScanner

/-! ### Validation by an expression -/

/-- The pattern of a payload, once its expression compiles. -/
theorem Payload.pattern?_of_compile [Platform] {p : Payload} {regex : String}
    (hr : givenRegex p.definition.regex = some regex)
    (ht : IsToken p.randomToken.toList) {pattern : Regex.Pattern}
    (hp : Regex.Pattern.compile { dotAll := true } (regexFor p.randomToken.toList regex) =
      .ok pattern) : p.pattern? = some (.ok pattern) := by
  rw [Payload.pattern?, hr, Option.map_some, escape_of_isTokenDigit ht.2]
  simp only [hp]
  rfl

/-- A response to a payload with a pattern is confirmed exactly if the pattern occurs in it. -/
theorem Validator.validate_of_pattern [Platform] {W : Type} (v : Validator Binary64)
    (world : World W Binary64) (polls : Nat) {p : Payload} {pattern : Regex.Pattern}
    (hv : p.definition.validation = .regex) (hp : p.pattern? = some (.ok pattern))
    (response : String) (timeout : Option Binary64) (w : W) :
    ∃ result, v.validate world polls p (some response) timeout w = some (.ok result, w) ∧
      (result.confirmed = true ↔ pattern.occursIn response.toList = true) := by
  unfold validate
  rw [hv]
  simp only [Payload.checkResponse, hp]
  cases pattern.occursIn response.toList with
  | true => exact ⟨_, rfl, by simp⟩
  | false => exact ⟨_, rfl, by simp⟩

/-- A payload of which the expression surrounds a spelling is confirmed exactly by the responses
in which the word occurs. -/
theorem Validator.validate_of_spells [Platform] {W : Type} (v : Validator Binary64)
    (world : World W Binary64) (polls : Nat) {c : PayloadCatalog} {p : Payload} (hc : c.Loaded)
    (hp : c.Mints p) {regex : String} (hr : givenRegex p.definition.regex = some regex)
    {e word : List Char} (he : regexFor p.randomToken.toList regex = Regex.surrounded e)
    (hs : Regex.Spells e word) (response : String) (timeout : Option Binary64) (w : W) :
    ∃ result, v.validate world polls p (some response) timeout w = some (.ok result, w) ∧
      (result.confirmed = true ↔ word <:+: response.toList) := by
  have hv := ((hc.fits hp.definition_mem).of_givenRegex hr).2.1
  have hcompile := Regex.compile_surrounded hs true
  rw [← he] at hcompile
  have hpattern := Payload.pattern?_of_compile hr hp.isToken hcompile
  obtain ⟨result, hresult, hiff⟩ :=
    validate_of_pattern v world polls hv hpattern response timeout w
  exact ⟨result, hresult, hiff.trans (Regex.occursIn_surroundedPattern e word response.toList)⟩

/-! ### A token between two words -/

/-- ASCII letters, digits and the underscore. -/
def isWordLetter (c : Char) : Bool := Regex.isAsciiLetter c || Regex.isDecimal c || c = '_'

/-- The expression for a token between two words with any text around it. -/
def betweenRegex (front back : String) : String := "(?s).*" ++ front ++ tokenMark ++ back ++ ".*"

private theorem ne_of_isWordLetter {c d : Char} (hc : isWordLetter c = true)
    (hd : isWordLetter d = false) : c ≠ d := by
  rintro rfl
  rw [hc] at hd
  cases hd

/-- The letters of words stand for themselves. -/
theorem isPlain_of_isWordLetter {c : Char} (h : isWordLetter c = true) :
    Regex.isPlain c = true := by
  rw [Regex.isPlain, Bool.not_eq_true', List.contains_eq_mem, decide_eq_false_iff_not]
  have hspecial : ∀ d ∈ ['\\', '.', '^', '$', '*', '+', '?', '\x7b', '[', '(', ')', '|'],
      (!isWordLetter d) = true := List.all_eq_true.mp (by decide)
  exact fun hm ↦ ne_of_isWordLetter h (Bool.not_eq_true' _ ▸ hspecial c hm) rfl

/-- The digits of tokens are letters of words. -/
theorem isWordLetter_of_isTokenDigit {c : Char} (h : isTokenDigit c = true) :
    isWordLetter c = true := by
  simp only [isTokenDigit, isWordLetter, Regex.isAsciiLetter, Regex.isDecimal, Bool.or_eq_true,
    Bool.and_eq_true, decide_eq_true_eq] at h ⊢
  rcases h with h | h
  · exact Or.inl (Or.inr h)
  · exact Or.inl (Or.inl (Or.inl ⟨h.1, Char.le_trans h.2 (by decide)⟩))

/-- With a token in it the expression surrounds the words with the token. -/
theorem regexFor_betweenRegex {front back : String}
    (hf : ∀ c ∈ front.toList, isWordLetter c = true)
    (hb : ∀ c ∈ back.toList, isWordLetter c = true) (token : List Char) :
    regexFor token (betweenRegex front back) =
      Regex.surrounded (front.toList ++ token ++ back.toList) := by
  have hfront : '$' ∉ "(?s).*".toList ++ front.toList := by
    rw [List.mem_append, not_or]
    exact ⟨by decide, fun hm ↦ ne_of_isWordLetter (hf _ hm) (by decide) rfl⟩
  have hback : '$' ∉ back.toList ++ ".*".toList := by
    rw [List.mem_append, not_or]
    exact ⟨fun hm ↦ ne_of_isWordLetter (hb _ hm) (by decide) rfl, by decide⟩
  have htext : (betweenRegex front back).toList =
      ("(?s).*".toList ++ front.toList) ++
        ('$' :: "TOKEN_RANDOM".toList ++ (back.toList ++ ".*".toList)) := by
    simp only [betweenRegex, String.toList_append, List.append_assoc]
    rfl
  rw [regexFor, htext, show tokenMark.toList = '$' :: "TOKEN_RANDOM".toList from rfl,
    Text.replaceAll_append_of_not_mem _ _ _ hfront, Text.replaceAll_word_append,
    Text.replaceAll_of_not_mem _ _ hback]
  simp only [Regex.surrounded, List.append_assoc]
  rfl

/-! ### Repeated payloads -/

/-- No character that is a capital T stands before the digit of a token. -/
def NoMarkedToken (text : List Char) : Prop :=
  text.IsChain fun c d ↦ c = 'T' → isTokenDigit d = false

/-- The words with the token do not occur where no token follows the first word. -/
theorem not_occurs_of_noMarkedToken {text token : List Char} (ht : NoMarkedToken text)
    (hn : IsToken token) (back : List Char) :
    ¬ ("PAYLOAD_START".toList ++ token ++ back) <:+: text := by
  rintro ⟨before, after, rfl⟩
  cases token with
  | nil => cases hn.1
  | cons d rest =>
    have hword := ht.left_of_append.right_of_append.left_of_append
    have hsplit : NoMarkedToken ("PAYLOAD_STAR".toList ++ 'T' :: d :: rest) := hword
    have hpair : NoMarkedToken ('T' :: d :: rest) := hsplit.right_of_append
    have hd := (List.isChain_cons_cons.mp hpair).1 rfl
    rw [hn.2 d List.mem_cons_self] at hd
    cases hd

private theorem noMarkedToken_of_not_mem {text : List Char} (h : 'T' ∉ text) :
    NoMarkedToken text := by
  induction text with
  | nil => exact List.isChain_nil
  | cons c rest ih =>
    have hrest := ih fun hm ↦ h (List.mem_cons_of_mem _ hm)
    refine List.IsChain.cons hrest fun d _ hc ↦ ?_
    exact absurd hc fun e ↦ h (e ▸ List.mem_cons_self)

/-- A token can be put where none would be marked. -/
theorem noMarkedToken_append {before after token : List Char} (hb : NoMarkedToken before)
    (ha : NoMarkedToken after) (hl : before.getLast? ≠ some 'T')
    (hn : ∀ c ∈ token, isTokenDigit c = true) : NoMarkedToken (before ++ token ++ after) := by
  have hmem : 'T' ∉ token := fun hm ↦ nomatch hn _ hm
  have hlast : (before ++ token).getLast? ≠ some 'T' := by
    rw [List.getLast?_append]
    intro h
    rcases Option.or_eq_some_iff.mp h with h | ⟨-, h⟩
    · exact hmem (List.mem_of_getLast? h)
    · exact hl h
  refine List.IsChain.append (List.IsChain.append hb (noMarkedToken_of_not_mem hmem) ?_) ha ?_
  · rintro c hc d - rfl
    exact absurd hc hl
  · rintro c hc d - rfl
    exact absurd hc hlast

/-- A template with one mark is rendered with the token in its place. -/
theorem toList_replaceIn_mark {template before after token : String}
    (ht : template = before ++ tokenMark ++ after) (hb : '$' ∉ before.toList)
    (ha : '$' ∉ after.toList) :
    (Text.replaceIn tokenMark token template).toList =
      before.toList ++ token.toList ++ after.toList := by
  subst ht
  rw [Text.replaceIn, String.toList_ofList, String.toList_append, String.toList_append,
    show tokenMark.toList = '$' :: "TOKEN_RANDOM".toList from rfl, List.append_assoc,
    Text.replaceAll_append_of_not_mem _ _ _ hb, Text.replaceAll_word_append,
    Text.replaceAll_of_not_mem _ _ ha, List.append_assoc]

namespace PayloadCatalog

private theorem not_occurs_in_printing {p : Payload} (hp : bundled.Mints p)
    (before after : String) {name : String} {language : InterpretationEnvironment}
    (hd : p.definition = printing name language (before ++ tokenMark ++ after))
    (hb : '$' ∉ before.toList) (ha : '$' ∉ after.toList) (hnb : NoMarkedToken before.toList)
    (hna : NoMarkedToken after.toList) (hl : before.toList.getLast? ≠ some 'T')
    (back : List Char) :
    ¬ ("PAYLOAD_START".toList ++ p.randomToken.toList ++ back) <:+: p.text.toList := by
  have htext := hp.text_eq (by rw [hd]; rfl)
  have htemplate : p.definition.template = before ++ tokenMark ++ after := by rw [hd]; rfl
  rw [htext, toList_replaceIn_mark htemplate hb ha]
  exact not_occurs_of_noMarkedToken (noMarkedToken_append hnb hna hl hp.isToken.2) hp.isToken back

/-- The words that mark a printed token do not occur in a bundled payload that is to print it. -/
theorem not_occurs_in_text {p : Payload} (hp : bundled.Mints p)
    (hr : p.definition.regex = some printedRegex) (back : List Char) :
    ¬ ("PAYLOAD_START".toList ++ p.randomToken.toList ++ back) <:+: p.text.toList := by
  have hmem := hp.definition_mem
  simp only [bundled, List.mem_cons, List.not_mem_nil, or_false] at hmem
  rcases hmem with hd | hd | hd | hd | hd | hd
  · rw [hd] at hr
    exact absurd hr (by decide)
  · rw [hd] at hr
    exact absurd hr (by decide)
  · rw [hd] at hr
    exact absurd hr (by decide)
  · exact not_occurs_in_printing hp "printf %s%s%s PAYLOAD_START " " PAYLOAD_END" hd (by decide)
      (by decide) (by unfold NoMarkedToken; decide)
      (by unfold NoMarkedToken; decide) (by decide) back
  · exact not_occurs_in_printing hp
      "String.format(\"%s%s%s\", \"PAYLOAD_START\", \""
      "\", \"PAYLOAD_END\")" hd (by decide) (by decide)
      (by unfold NoMarkedToken; decide) (by unfold NoMarkedToken; decide) (by decide) back
  · exact not_occurs_in_printing hp
      "print(\"%s%s%s\" % (\"PAYLOAD_START\", \""
      "\", \"PAYLOAD_END\"))" hd (by decide) (by decide)
      (by unfold NoMarkedToken; decide) (by unfold NoMarkedToken; decide) (by decide) back

/-- A bundled definition asks for the missing page, or what validates it is a printed token. -/
theorem regex_of_mem_bundled {d : PayloadDefinition} (hd : d ∈ bundled.payloads) :
    d.name = "general_ssrf_no_callback" ∧ d.regex = some notFoundRegex ∧
        d.template = "http://google.com/page-does-not-exist" ∧ d.usesCallback = false ∨
      d.name ≠ "general_ssrf_no_callback" ∧
        (d.validation = .regex → d.regex = some printedRegex) := by
  revert d
  decide

end PayloadCatalog

/-! ### The verdicts -/

namespace Validator

variable {W : Type} (v : Validator Binary64) (world : World W Binary64) (polls : Nat) {p : Payload}

/-- A token between two words is confirmed exactly by the responses in which it occurs so. -/
theorem validate_between [Platform] {c : PayloadCatalog} (hc : c.Loaded) (hp : c.Mints p)
    (front back : String) (hf : ∀ x ∈ front.toList, isWordLetter x = true)
    (hb : ∀ x ∈ back.toList, isWordLetter x = true)
    (hr : p.definition.regex = some (betweenRegex front back)) (response : String)
    (timeout : Option Binary64) (w : W) :
    ∃ result, v.validate world polls p (some response) timeout w = some (.ok result, w) ∧
      (result.confirmed = true ↔
        front.toList ++ p.randomToken.toList ++ back.toList <:+: response.toList) := by
  have hplain : ∀ x ∈ front.toList ++ p.randomToken.toList ++ back.toList,
      Regex.isPlain x = true := by
    intro x hx
    simp only [List.mem_append] at hx
    rcases hx with (hx | hx) | hx
    · exact isPlain_of_isWordLetter (hf x hx)
    · exact isPlain_of_isWordLetter (isWordLetter_of_isTokenDigit (hp.isToken.2 x hx))
    · exact isPlain_of_isWordLetter (hb x hx)
  have hgiven : givenRegex p.definition.regex = some (betweenRegex front back) := by
    have hne : betweenRegex front back ≠ "" := by
      intro h
      have hlist := congrArg String.toList h
      simp [betweenRegex, String.toList_append] at hlist
    rw [hr, givenRegex, Option.filter_some, if_pos (bne_iff_ne.mpr hne)]
  exact v.validate_of_spells world polls hc hp hgiven (regexFor_betweenRegex hf hb _)
    (.of_plain hplain) response timeout w

/-- The expression for the missing page is confirmed exactly by the responses with its title. -/
theorem validate_notFound [Platform] (hp : PayloadCatalog.bundled.Mints p)
    (hr : p.definition.regex = some PayloadCatalog.notFoundRegex) (response : String)
    (timeout : Option Binary64) (w : W) :
    ∃ result, v.validate world polls p (some response) timeout w = some (.ok result, w) ∧
      (result.confirmed = true ↔
        PayloadCatalog.notFoundTitle.toList <:+: response.toList) := by
  have hgiven : givenRegex p.definition.regex = some PayloadCatalog.notFoundRegex := by
    rw [hr]
    rfl
  have hregex : regexFor p.randomToken.toList PayloadCatalog.notFoundRegex =
      Regex.surrounded "Error 404 \\(Not Found\\)!!1".toList :=
    Text.replaceAll_of_not_mem _ _ (by decide)
  exact v.validate_of_spells world polls PayloadCatalog.loaded_bundled hp hgiven hregex
    PayloadCatalog.notFound_spells response timeout w

/-- An expression for a token between two words confirms exactly the responses in which the words
with the drawn token occur, the bundled expression for a missing page exactly those with the title
of that page, and no bundled payload is confirmed by a response that repeats it. -/
theorem validate_confirmed_iff_occurs [Platform] (timeout : Option Binary64) (w : W) :
    (∀ (c : PayloadCatalog) (p : Payload) (front back response : String), c.Loaded → c.Mints p →
      (∀ x ∈ front.toList, isWordLetter x = true) → (∀ x ∈ back.toList, isWordLetter x = true) →
      p.definition.regex = some (betweenRegex front back) →
      ∃ result, v.validate world polls p (some response) timeout w = some (.ok result, w) ∧
        (result.confirmed = true ↔
          front.toList ++ p.randomToken.toList ++ back.toList <:+: response.toList)) ∧
    (∀ (p : Payload) (response : String), PayloadCatalog.bundled.Mints p →
      p.definition.name = "general_ssrf_no_callback" →
      ∃ result, v.validate world polls p (some response) timeout w = some (.ok result, w) ∧
        (result.confirmed = true ↔ "Error 404 (Not Found)!!1".toList <:+: response.toList)) ∧
    (∀ p : Payload, PayloadCatalog.bundled.Mints p → p.definition.validation = .regex →
      ∃ result, v.validate world polls p (some p.text) timeout w = some (.ok result, w) ∧
        result.confirmed = false) := by
  refine ⟨?_, ?_, ?_⟩
  · intro c p front back response hc hp hf hb hr
    exact v.validate_between world polls hc hp front back hf hb hr response timeout w
  · intro p response hp hname
    rcases PayloadCatalog.regex_of_mem_bundled hp.definition_mem with ⟨-, hr, -⟩ | ⟨hne, -⟩
    · exact v.validate_notFound world polls hp hr response timeout w
    · exact absurd hname hne
  · intro p hp hv
    rcases PayloadCatalog.regex_of_mem_bundled hp.definition_mem with
      ⟨-, hr, htemplate, hcallback⟩ | ⟨-, hr⟩
    · obtain ⟨result, hresult, hiff⟩ := v.validate_notFound world polls hp hr p.text timeout w
      refine ⟨result, hresult, Bool.eq_false_iff.mpr fun h ↦ ?_⟩
      have htext : p.text.toList = "http://google.com/page-does-not-exist".toList := by
        rw [hp.text_eq hcallback, htemplate, Text.replaceIn, String.toList_ofList]
        exact Text.replaceAll_of_not_mem _ _ (by decide)
      have hmem := (hiff.mp h).subset (by decide : 'E' ∈ PayloadCatalog.notFoundTitle.toList)
      rw [htext] at hmem
      exact absurd hmem (by decide)
    · obtain ⟨result, hresult, hiff⟩ := v.validate_between world polls
        PayloadCatalog.loaded_bundled hp "PAYLOAD_START" "PAYLOAD_END"
        (List.all_eq_true.mp (by decide)) (List.all_eq_true.mp (by decide)) (hr hv) p.text timeout w
      refine ⟨result, hresult, Bool.eq_false_iff.mpr fun h ↦ ?_⟩
      exact PayloadCatalog.not_occurs_in_text hp (hr hv) _ (hiff.mp h)

/-- A token that was printed between lines of other text is confirmed. -/
theorem validate_confirmed_printed :
    ∃ p, PayloadCatalog.bundled.Mints p ∧ p.definition.name = "linux_printf" ∧
      ∃ result, (⟨none, 0, 0⟩ : Validator Binary64).validate Rehearsal.world 1 p
          (some "PAYLOAD_START\nPAYLOAD_START0123456789abcdefPAYLOAD_END\n") none {} =
            some (.ok result, {}) ∧ result.confirmed = true := by
  have ht : IsToken "0123456789abcdef".toList := ⟨by decide, List.all_eq_true.mp (by decide)⟩
  obtain ⟨p, hp, hd, htoken⟩ := PayloadCatalog.exists_mints (c := PayloadCatalog.bundled)
    (d := PayloadCatalog.printing "linux_printf" .linuxShell
      "printf %s%s%s PAYLOAD_START $TOKEN_RANDOM PAYLOAD_END") (by decide) rfl ht
  obtain ⟨result, hresult, hiff⟩ :=
    (validate_confirmed_iff_occurs ⟨none, 0, 0⟩ Rehearsal.world 1 none {}).1
      PayloadCatalog.bundled p "PAYLOAD_START" "PAYLOAD_END"
      "PAYLOAD_START\nPAYLOAD_START0123456789abcdefPAYLOAD_END\n" PayloadCatalog.loaded_bundled hp
      (List.all_eq_true.mp (by decide)) (List.all_eq_true.mp (by decide)) (by rw [hd]; rfl)
  refine ⟨p, hp, by rw [hd]; rfl, result, hresult, hiff.mpr ?_⟩
  rw [htoken]
  exact ⟨"PAYLOAD_START\n".toList, "\n".toList, by decide⟩

end Validator
end VulnScanner
