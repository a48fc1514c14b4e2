import Mathlib.Data.List.TakeWhile
import VulnScanner.Http.Client
import VulnScanner.Proofs.Octets.Form
import VulnScanner.Proofs.Steps

/-!
# Queries of requests

What follows the first question mark of an address is its query. A request that fetches an address
with parameters has those that the address has by itself and the given ones behind them; reading the
address takes none of them off. They count here wherever they stand: behind a number sign they are
part of the fragment, which is not sent, so there is a word on addresses without that sign.
-/

namespace VulnScanner

namespace Http

/-! ### Queries -/

/-- What follows the first question mark, a fragment included. -/
def queryOf (s : List Char) : List Char := (s.dropWhile (· ≠ '?')).drop 1

/-- The parameters in the query of an address. -/
def parametersOf (address : List Char) : List (String × String) :=
  Octets.Form.decodePairs (queryOf address)

variable {s before : List Char}

/-- What stands before the first question mark does not count. -/
theorem queryOf_append_of_not_mem (h : '?' ∉ before) (rest : List Char) :
    queryOf (before ++ rest) = queryOf rest := by
  have hbefore : ∀ c ∈ before, decide (c ≠ '?') = true := fun c hc ↦
    decide_eq_true fun he ↦ h (he ▸ hc)
  rw [queryOf, List.dropWhile_append_of_pos hbefore, queryOf]

/-- The query is what stands behind the first question mark. -/
theorem queryOf_append_cons (h : '?' ∉ before) (rest : List Char) :
    queryOf (before ++ '?' :: rest) = rest := by
  rw [queryOf_append_of_not_mem h]
  rfl

/-- A text without a question mark has no query. -/
theorem queryOf_of_not_mem (h : '?' ∉ s) : queryOf s = [] := by
  have hs := queryOf_append_of_not_mem h []
  rwa [List.append_nil] at hs

/-- Behind a question mark a query goes on to the end. -/
theorem queryOf_append_of_mem (h : '?' ∈ s) (more : List Char) :
    queryOf (s ++ more) = queryOf s ++ more := by
  obtain ⟨before, rest, rfl, hbefore⟩ := List.eq_append_cons_of_mem h
  rw [List.append_assoc, List.cons_append, queryOf_append_cons hbefore,
    queryOf_append_cons hbefore]

/-- Parameters are added behind those that an address has by itself. -/
theorem parametersOf_withQuery (base : String) (pairs : List (String × String)) :
    parametersOf (Url.withQuery base (Octets.Form.encodePairs pairs)).toList =
      parametersOf base.toList ++ pairs := by
  unfold Url.withQuery parametersOf
  split
  next h =>
    have hquery : (base ++ "&" ++ Octets.Form.encodePairs pairs).toList =
        base.toList ++ '&' :: (Octets.Form.encodePairs pairs).toList := by
      simp
    rw [hquery, queryOf_append_of_mem (by simpa using h), Octets.Form.decodePairs_append,
      Octets.Form.decodePairs_encodePairs]
  next h =>
    have hbase : '?' ∉ base.toList := by simpa using h
    have hquery : (base ++ "?" ++ Octets.Form.encodePairs pairs).toList =
        base.toList ++ '?' :: (Octets.Form.encodePairs pairs).toList := by
      simp
    rw [hquery, queryOf_append_cons hbase, queryOf_of_not_mem hbase,
      Octets.Form.decodePairs_encodePairs]
    rfl

/-! ### Addresses that are read -/

namespace Url

open Octets.Form

variable {c : Char}

/-- A query is added behind a sign, which is an ampersand only if there is a question mark. -/
theorem exists_toList_withQuery (base query : String) :
    ∃ sign, (withQuery base query).toList = base.toList ++ sign :: query.toList ∧
      (sign = '?' ∨ sign = '&' ∧ '?' ∈ base.toList) := by
  unfold withQuery
  split
  next h => exact ⟨'&', by simp, .inr ⟨rfl, by simpa using h⟩⟩
  next => exact ⟨'?', by simp, .inl rfl⟩

private theorem toNat_lt_of_isQueryChar (hc : isQueryChar c = true) : c.toNat < 128 := by
  unfold isQueryChar isFormChar Char.isAlphanum Char.isAlpha Char.isUpper Char.isLower
    Char.isDigit at hc
  simp only [Bool.or_eq_true, Bool.and_eq_true, decide_eq_true_eq, UInt32.le_iff_toNat_le,
    beq_iff_eq, ge_iff_le] at hc
  have hsigns : ['-', '.', '_', '~', '+', '%'].all (·.toNat < 128) = true := by decide
  rcases hc with ((((⟨-, h⟩ | ⟨-, h⟩) | ⟨-, h⟩) | h) | rfl) | rfl
  · exact Nat.lt_of_le_of_lt h (by decide)
  · exact Nat.lt_of_le_of_lt h (by decide)
  · exact Nat.lt_of_le_of_lt h (by decide)
  · exact of_decide_eq_true (List.all_eq_true.mp hsigns c (List.contains_iff_mem.mp h))
  · decide
  · decide

/-- Nothing is taken off an address at such a character. -/
theorem isBlank_of_isQueryChar (hc : isQueryChar c = true) :
    Unicode.isBlank c = false ∧ c ≠ '>' ∧ c ≠ ':' ∧ c ≠ '#' := by
  have hall : ∀ n < 128, isQueryChar (Char.ofNat n) = true →
      Unicode.isBlank (Char.ofNat n) = false ∧ Char.ofNat n ≠ '>' ∧ Char.ofNat n ≠ ':' ∧
        Char.ofNat n ≠ '#' := by
    decide +kernel
  have h := hall c.toNat (toNat_lt_of_isQueryChar hc)
  rw [Char.ofNat_toNat] at h
  exact h hc

private theorem question_not_mem_takeWhile (s : List Char) :
    '?' ∉ s.takeWhile Unicode.isBlank := fun h ↦
  absurd (List.mem_takeWhile_imp h) (by decide)

/-- Blanks at the beginning end at the latest at a character that is none. -/
theorem dropBlanks_append_cons (hc : Unicode.isBlank c = false) (s rest : List Char) :
    Unicode.dropBlanks (s ++ c :: rest) = Unicode.dropBlanks s ++ c :: rest := by
  simp only [Unicode.dropBlanks, List.dropWhile_append]
  split
  next h => simp [List.isEmpty_iff.mp h, hc]
  next => rfl

/-- Stripping takes blanks off at the beginning alone if there is none at the end. -/
theorem strip_concat (hc : Unicode.isBlank c = false) (s : List Char) :
    Unicode.strip (s ++ [c]) = Unicode.dropBlanks s ++ [c] := by
  rw [Unicode.strip, dropBlanks_append_cons hc, List.reverse_concat, Unicode.dropBlanks,
    List.dropWhile_cons_of_neg (by simp [hc]), List.reverse_cons, List.reverse_reverse]

/-- Takes off everything that an address may be wrapped in at its beginning, apart from an angle
bracket, which is taken off with its counterpart only. -/
def unwrapFront (s : List Char) : List Char :=
  match Unicode.dropBlanks s with
  | 'U' :: 'R' :: 'L' :: ':' :: rest => Unicode.dropBlanks rest
  | rest => rest

/-- Unwrapping takes something off at the beginning alone if the end is a character of a query. -/
theorem unwrap_concat (hc : isQueryChar c = true) (s : List Char) :
    unwrap (s ++ [c]) = unwrapFront s ++ [c] := by
  obtain ⟨hblank, hbracket, hcolon, -⟩ := isBlank_of_isQueryChar hc
  have hbrackets : withoutBrackets (Unicode.dropBlanks s ++ [c]) = Unicode.dropBlanks s ++ [c] := by
    rw [withoutBrackets, if_neg (by simp [hbracket])]
  rw [unwrap, strip_concat hblank, hbrackets]
  unfold withoutMark unwrapFront
  split
  next inner h =>
    -- the mark ends in a colon, so the last character stands behind it
    rcases List.eq_nil_or_concat inner with rfl | ⟨inner, d, rfl⟩
    · have hlast := congrArg List.getLast? h
      simp [hcolon] at hlast
    · rw [List.concat_eq_append] at h ⊢
      have h : Unicode.dropBlanks s ++ [c] = ('U' :: 'R' :: 'L' :: ':' :: inner) ++ [d] := h
      obtain ⟨hs, hd⟩ := List.append_inj' h rfl
      rw [hs, ← List.singleton_inj.mp hd, strip_concat hblank]
      rfl
  next hmark =>
    split
    next inner hs => exact absurd (by rw [hs]; rfl) (hmark (inner ++ [c]))
    next => rfl

private theorem exists_append_dropBlanks (s : List Char) :
    ∃ before, s = before ++ Unicode.dropBlanks s ∧ '?' ∉ before :=
  ⟨_, List.takeWhile_append_dropWhile.symm, question_not_mem_takeWhile s⟩

/-- No question mark is taken off at the beginning. -/
theorem exists_append_unwrapFront (s : List Char) :
    ∃ before, s = before ++ unwrapFront s ∧ '?' ∉ before := by
  obtain ⟨before, hs, hbefore⟩ := exists_append_dropBlanks s
  unfold unwrapFront
  split
  next inner hmark =>
    obtain ⟨before', hinner, hbefore'⟩ := exists_append_dropBlanks inner
    refine ⟨before ++ 'U' :: 'R' :: 'L' :: ':' :: before', ?_, by simp [hbefore, hbefore']⟩
    rw [List.append_assoc, List.cons_append, List.cons_append, List.cons_append, List.cons_append,
      ← hinner, ← hmark, ← hs]
  next => exact ⟨before, hs, hbefore⟩

/-- Without a number sign there is no fragment. -/
theorem fragment_ofUnwrapped (h : '#' ∉ s) : (ofUnwrapped s).fragment = [] := by
  unfold ofUnwrapped
  split
  next address fragment hsplit =>
    rw [Text.append_of_splitLast hsplit] at h
    exact absurd (List.mem_append_right _ List.mem_cons_self) h
  next => rfl

/-- An address that does not end in a number sign is the address as it was given. -/
theorem toList_ofUnwrapped_concat (hc : c ≠ '#') (s : List Char) :
    (ofUnwrapped (s ++ [c])).toList = s ++ [c] := by
  unfold ofUnwrapped
  split
  next address fragment h =>
    have hsplit := Text.append_of_splitLast h
    unfold toList
    dsimp only
    split
    next hempty =>
      rw [List.isEmpty_iff.mp hempty] at hsplit
      exact absurd (List.singleton_inj.mp (List.append_inj_right' hsplit rfl)) hc
    next => rw [hsplit]
  next => rfl

/-- An address that ends in a character of a query has the same parameters when it is read, and a
fragment only if there is a number sign. -/
theorem parametersOf_text_of_read {u : Url} {written : String} (hc : isQueryChar c = true)
    (hwritten : written.toList = s ++ [c]) (h : Url.read written = .ok u) :
    parametersOf u.text.toList = parametersOf written.toList ∧
      ('#' ∉ written.toList → u.fragment = []) := by
  obtain ⟨before, hs, hbefore⟩ := exists_append_unwrapFront s
  have hlist := toList_ofUnwrapped_concat (isBlank_of_isQueryChar hc).2.2.2 (unwrapFront s)
  have hwhole : written.toList = before ++ (unwrapFront s ++ [c]) := by
    rw [hwritten, ← List.append_assoc, ← hs]
  obtain ⟨rfl, -⟩ := read_eq_ok_iff.mp h
  rw [hwritten, unwrap_concat hc]
  constructor
  · rw [text, hlist, String.toList_ofList, ← hwritten, hwhole, parametersOf, parametersOf,
      queryOf_append_of_not_mem hbefore]
  · intro hsign
    refine fragment_ofUnwrapped fun hmem ↦ hsign ?_
    rw [← hwritten, hwhole]
    exact List.mem_append_right _ hmem

end Url

/-! ### Requests -/

/-- The parameters of a request. -/
def Request.parameters (r : Request) : List (String × String) := parametersOf r.url.text.toList

private theorem exists_withQuery_eq_concat (base : String) {pairs : List (String × String)}
    (hpairs : pairs ≠ []) : ∃ s c,
      (Url.withQuery base (Octets.Form.encodePairs pairs)).toList = s ++ [c] ∧
        Octets.Form.isQueryChar c = true := by
  obtain ⟨query, c, hquery, hc⟩ := Octets.Form.exists_encodePairs_eq_concat hpairs
  obtain ⟨sign, htext, -⟩ := Url.exists_toList_withQuery base (Octets.Form.encodePairs pairs)
  refine ⟨base.toList ++ sign :: query, c, ?_, hc⟩
  rw [htext, hquery, List.append_assoc, List.cons_append]

private theorem sign_not_mem_withQuery {base : String} (h : '#' ∉ base.toList)
    (pairs : List (String × String)) :
    '#' ∉ (Url.withQuery base (Octets.Form.encodePairs pairs)).toList := by
  have hquery : '#' ∉ (Octets.Form.encodePairs pairs).toList := fun hmem ↦
    absurd (Octets.Form.isQueryChar_of_mem_encodePairs _ hmem) (by decide)
  unfold Url.withQuery
  split <;> simp [h, hquery]

/-- The request that fetches an address with parameters has those that the address has by itself and
then the given ones, in their order. They are sent if the address has no number sign. -/
theorem Client.parameters_of_get {c : Client} {url : String} {params : List (String × String)}
    {headers : List (String × Value)} {timeout : Value} {r : Request} (hparams : params ≠ [])
    (h : c.get url params headers timeout = .ok r) :
    r.parameters = parametersOf url.toList ++ params ∧
      ('#' ∉ url.toList → r.url.fragment = []) := by
  have hget : c.request "GET" (Url.withQuery url (Octets.Form.encodePairs params)) headers none
      timeout = .ok r := by
    rwa [get, if_neg (by simpa using hparams)] at h
  obtain ⟨s, d, hs, hd⟩ := exists_withQuery_eq_concat url hparams
  obtain ⟨u, hu, hr⟩ := bind_eq_ok_iff.mp hget
  cases hr
  obtain ⟨hparameters, hfragment⟩ := Url.parametersOf_text_of_read hd hs hu
  exact ⟨hparameters.trans (parametersOf_withQuery url params), fun hsign ↦
    hfragment (sign_not_mem_withQuery hsign params)⟩

/-- An address is fetched with parameters by a request for an address that begins with it. Behind
the first question mark of that one stand the parameters that the address has by itself and then the
given ones, all of them as they were given and in their order, and the request has them too. -/
theorem Client.get_adds_parameters (c : Client) (base : String) {params : List (String × String)}
    (hparams : params ≠ []) (headers : List (String × Value)) (timeout : Value) :
    let url := Url.withQuery base (Octets.Form.encodePairs params)
    c.get base params headers timeout = c.request "GET" url headers none timeout ∧
      base.toList <+: url.toList ∧
      parametersOf url.toList = parametersOf base.toList ++ params ∧
      ∀ r, c.get base params headers timeout = .ok r →
        r.parameters = parametersOf base.toList ++ params := by
  refine ⟨?_, ?_, parametersOf_withQuery base params, fun r hr ↦ ?_⟩
  · rw [get, if_neg (by simpa using hparams)]
  · obtain ⟨sign, htext, -⟩ := Url.exists_toList_withQuery base (Octets.Form.encodePairs params)
    exact ⟨_, htext.symm⟩
  · exact (parameters_of_get hparams hr).1

/-- Signs with a meaning and an empty name come through behind a query that ends in an ampersand. -/
theorem Client.get_adds_parameters_signs :
    let url :=
      Url.withQuery "http://h/?a=%26&" (Octets.Form.encodePairs [("", "é&= +%"), ("?", "")])
    "http://h/?a=%26&".toList <+: url.toList ∧
      parametersOf url.toList = [("a", "&"), ("", "é&= +%"), ("?", "")] := by
  obtain ⟨-, hbegin, hall, -⟩ := Client.get_adds_parameters {} "http://h/?a=%26&"
    (List.cons_ne_nil ("", "é&= +%") [("?", "")]) [] .null
  have hbase : parametersOf "http://h/?a=%26&".toList = [("a", "&")] := by decide +kernel
  exact ⟨hbegin, by rw [hall, hbase]; rfl⟩

end Http
end VulnScanner
