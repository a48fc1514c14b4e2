import Mathlib.Data.List.TakeDrop
import VulnScanner.Proofs.Http.Query

/-!
# Hosts of requests

An absolute address has a scheme, and a host that names a server. Parameters that are added to an
address are neither part of the one nor of the other, so a request with parameters can be made
exactly if the address it is made from is sound, and it goes to the server that is named by this
address.
-/

namespace VulnScanner.Http

/-- A question mark is no part of a scheme. -/
theorem isScheme_eq_false {s : List Char} (h : '?' ∈ s) : isScheme s = false := by
  cases s with
  | nil => cases h
  | cons c rest =>
    rw [isScheme, Bool.and_eq_false_iff]
    rcases List.mem_cons.mp h with rfl | h
    · exact .inl (by decide)
    · exact .inr (List.all_eq_false.mpr ⟨_, h, by decide⟩)

/-- The name of the server in a host, without a user in front of it and without a port. -/
def serverName (host : List Char) : List Char :=
  let named := ((Text.splitLast '@' host).map (·.2)).getD host
  match named.dropWhile (· ≠ '[') with
  | '[' :: inner => inner.takeWhile (· ≠ ']')
  | _ => named.takeWhile (· ≠ ':')

namespace Url

/-- The characters before the first slash or colon. -/
def rawScheme (u : Url) : List Char := u.address.takeWhile fun c ↦ c != '/' && c != ':'

/-- The scheme and the host of an absolute address. -/
def server? (u : Url) : Option (List Char × List Char) :=
  u.host?.bind fun host ↦
    if isScheme u.rawScheme && !(serverName host).isEmpty then some (u.rawScheme, host) else none

/-- The address to which parameters are added. -/
def ofBase (base : String) : Url := ofUnwrapped (unwrapFront base.toList)

variable {a more : List Char} {f k : List Char} {u : Url}

/-! ### Going on with an address -/

/-- The scheme is what stands before the first slash or colon, if that is a colon. -/
theorem splitScheme_eq (u : Url) : u.splitScheme =
    match u.address.dropWhile fun c ↦ c != '/' && c != ':' with
    | ':' :: rest => if u.rawScheme.isEmpty then none else some (Unicode.lower u.rawScheme, rest)
    | _ => none := by
  unfold splitScheme rawScheme
  rw [List.span_eq_takeWhile_dropWhile]
  split
  next rest heq =>
    obtain ⟨htake, -⟩ := Prod.mk.inj heq
    rw [htake]
    split <;> rfl
  next scheme rest hne heq =>
    obtain ⟨htake, hdrop⟩ := Prod.mk.inj heq
    rw [htake, hdrop]
    simp [show scheme ≠ [] from hne]
  next hnone hcolon =>
    split
    next rest hdrop => exact absurd (by rw [hdrop]) (hcolon _ rest)
    next => rfl

private theorem takeWhile_append_cons {p : Char → Bool} {s rest : List Char} {d : Char}
    (hd : p d = false) : (s ++ d :: rest).takeWhile p = s.takeWhile p := by
  induction s with
  | nil => rw [List.nil_append, List.takeWhile_cons, hd]; rfl
  | cons c s ih => rw [List.cons_append, List.takeWhile_cons, List.takeWhile_cons, ih]

private theorem takeWhile_append_of_stop {p : Char → Bool} {d : Char} {rest : List Char}
    (h : a.dropWhile p = d :: rest) : (a ++ more).takeWhile p = a.takeWhile p := by
  rw [List.takeWhile_append, if_neg]
  intro hlength
  have hall := congrArg List.length (List.takeWhile_append_dropWhile (p := p) (l := a))
  rw [List.length_append, h, List.length_cons] at hall
  omega

/-- An address with a scheme goes on behind its colon. -/
theorem splitScheme_append (h : ∀ c ∈ more, c ≠ '/' ∧ c ≠ ':') :
    (⟨a ++ more, f⟩ : Url).splitScheme =
      (⟨a, k⟩ : Url).splitScheme.map fun parts ↦ (parts.1, parts.2 ++ more) := by
  have hmore : more.dropWhile (fun c ↦ c != '/' && c != ':') = [] := by
    rw [List.dropWhile_eq_nil_iff]
    simpa using h
  rw [splitScheme_eq, splitScheme_eq]
  unfold rawScheme
  dsimp only
  rw [List.dropWhile_append, hmore]
  cases hstop : a.dropWhile fun c ↦ c != '/' && c != ':' with
  | nil => rfl
  | cons d rest =>
    rw [takeWhile_append_of_stop hstop]
    rw [if_neg (by simp), List.cons_append]
    by_cases hd : d = ':'
    · subst hd
      cases hempty : (a.takeWhile fun c ↦ c != '/' && c != ':').isEmpty <;> simp
    · simp [hd]

/-- An address with a scheme begins with it. -/
theorem rawScheme_append (h : (⟨a, k⟩ : Url).splitScheme.isSome) :
    (⟨a ++ more, f⟩ : Url).rawScheme = (⟨a, k⟩ : Url).rawScheme := by
  rw [splitScheme_eq] at h
  split at h
  next rest hstop => exact takeWhile_append_of_stop hstop
  next => cases h

/-- An address with a scheme is the scheme, a colon and what follows it. -/
theorem address_of_splitScheme {scheme rest : List Char} (h : u.splitScheme = some (scheme, rest)) :
    u.address = u.rawScheme ++ ':' :: rest := by
  rw [splitScheme_eq] at h
  split at h
  next tail hstop =>
    split at h
    · cases h
    · cases h
      rw [← hstop]
      exact List.takeWhile_append_dropWhile.symm
  next => cases h

private theorem takeWhile_host_append {s : List Char}
    (hstop : more = [] ∨ more.head? = some '?' ∨ more.head? = some '#' ∨ '?' ∈ s) :
    ((s ++ more).takeWhile fun c ↦ c != '/' && c != '?' && c != '#') =
      s.takeWhile fun c ↦ c != '/' && c != '?' && c != '#' := by
  rcases hstop with rfl | hhead | hhead | hmem
  · rw [List.append_nil]
  · obtain ⟨tail, rfl⟩ := List.head?_eq_some_iff.mp hhead
    exact takeWhile_append_cons (by decide)
  · obtain ⟨tail, rfl⟩ := List.head?_eq_some_iff.mp hhead
    exact takeWhile_append_cons (by decide)
  · obtain ⟨before, after, rfl⟩ := List.append_of_mem hmem
    rw [List.append_assoc, List.cons_append, takeWhile_append_cons (by decide),
      takeWhile_append_cons (by decide)]

private theorem behindSlashes?_append {rest : List Char} (h : '/' ∉ more)
    (hstop : more = [] ∨ more.head? = some '?' ∨ more.head? = some '#' ∨ '?' ∈ rest) :
    behindSlashes? (rest ++ more) = behindSlashes? rest := by
  have hfirst : ∀ tail, more ≠ '/' :: tail := by
    rintro tail rfl
    exact h List.mem_cons_self
  unfold behindSlashes?
  split
  next tail heq =>
    match rest, heq, hstop with
    | [], heq, _ => exact absurd heq (hfirst _)
    | [_], heq, _ => exact absurd (List.cons.inj heq).2 (hfirst _)
    | c :: d :: rest, heq, hstop =>
      cases heq
      exact congrArg some (takeWhile_host_append (by simpa using hstop))
  next hnone =>
    split
    next tail => exact absurd rfl (hnone (tail ++ more))
    next => rfl

/-- Parameters that are added to an address leave its scheme and its host as they are. -/
theorem server?_append (h : ∀ c ∈ more, c ≠ '/' ∧ c ≠ ':')
    (hstop : more = [] ∨ more.head? = some '?' ∨ '?' ∈ a) :
    (⟨a ++ more, f⟩ : Url).server? = (⟨a, k⟩ : Url).server? := by
  have hslash : '/' ∉ more := fun hmem ↦ (h _ hmem).1 rfl
  unfold server? host?
  rw [splitScheme_append (k := k) h]
  cases hscheme : (⟨a, k⟩ : Url).splitScheme with
  | none => rfl
  | some parts =>
    obtain ⟨scheme, rest⟩ := parts
    have hraw : (⟨a ++ more, f⟩ : Url).rawScheme = (⟨a, k⟩ : Url).rawScheme :=
      rawScheme_append (Option.isSome_of_eq_some hscheme)
    have haddress : a = _ ++ ':' :: rest := address_of_splitScheme hscheme
    rw [hraw]
    dsimp only [Option.map_some, Option.bind_some]
    by_cases hmark : '?' ∈ (⟨a, k⟩ : Url).rawScheme
    · simp [isScheme_eq_false hmark]
    · rw [behindSlashes?_append hslash]
      refine hstop.imp_right (Or.imp_right fun hmem ↦ .inr ?_)
      rw [haddress] at hmem
      simpa [hmark] using hmem

/-! ### Authorities -/

/-- What is left out is a control character. -/
private theorem toNat_le_of_isLeftOut {c : Char} (h : isLeftOut c = true) : c.toNat ≤ 0x20 := by
  simp only [isLeftOut, Bool.or_eq_true, decide_eq_true_eq] at h
  rcases h with (rfl | rfl) | rfl <;> decide

private theorem isLeftOut_eq_false {c : Char} (h : 0x20 < c.toNat) : isLeftOut c = false := by
  by_contra hleft
  have hle := toNat_le_of_isLeftOut (by simpa using hleft)
  omega

private theorem mem_clean_of_mem {s : List Char} {c : Char} (hc : 0x20 < c.toNat) (h : c ∈ s) :
    c ∈ clean s := by
  rw [clean, List.mem_filter]
  refine ⟨?_, by simp [isLeftOut_eq_false hc]⟩
  rw [← List.takeWhile_append_dropWhile (p := fun d : Char ↦ decide (d.toNat ≤ 0x20)) (l := s),
    List.mem_append] at h
  exact h.resolve_left fun hmem ↦ by simpa [Nat.not_le.mpr hc] using List.mem_takeWhile_imp hmem

private theorem mem_of_mem_clean {s : List Char} {c : Char} (h : c ∈ clean s) : c ∈ s :=
  (List.dropWhile_suffix _).subset (List.mem_of_mem_filter h)

private theorem clean_append_cons {d : Char} (hd : 0x20 < d.toNat) (s rest : List Char) :
    clean (s ++ d :: rest) = clean s ++ d :: rest.filter (!isLeftOut ·) := by
  have hkept := isLeftOut_eq_false hd
  unfold clean
  rw [List.dropWhile_append]
  split
  next h =>
    rw [List.isEmpty_iff.mp h, List.dropWhile_cons_of_neg (by simpa using hd)]
    simp [hkept]
  next => simp [hkept]

private theorem behindScheme_append_cons {before rest : List Char} (h : ':' ∉ before) :
    behindScheme (before ++ ':' :: rest) =
      if isScheme before then rest else before ++ ':' :: rest := by
  have hnone : ∀ c ∈ before, (c != ':') = true := fun c hc ↦ by
    rw [bne_iff_ne]
    rintro rfl
    exact h hc
  unfold behindScheme
  rw [List.span_eq_takeWhile_dropWhile, List.takeWhile_append_of_pos hnone,
    List.dropWhile_append_of_pos hnone, List.takeWhile_cons_of_neg (by decide),
    List.dropWhile_cons_of_neg (by decide), List.append_nil]
  rfl

/-- An authority stands behind the first colon, if a scheme stands before it. -/
private theorem authority_of_colon {before rest : List Char}
    (hlist : u.toList = before ++ ':' :: rest) (hbefore : ∀ c ∈ before, c ≠ '/' ∧ c ≠ ':') :
    u.authority = if isScheme (clean before) then
      (behindSlashes? (rest.filter (!isLeftOut ·))).getD [] else [] := by
  have hcolon : ':' ∉ clean before := fun h ↦ (hbefore ':' (mem_of_mem_clean h)).2 rfl
  rw [authority, hlist, clean_append_cons (by decide), behindScheme_append_cons hcolon]
  split
  · rfl
  · -- no slash can come first
    cases hclean : clean before with
    | nil => rfl
    | cons c tail =>
      have hc := (hbefore c (mem_of_mem_clean (hclean ▸ List.mem_cons_self))).1
      rw [List.cons_append]
      unfold behindSlashes?
      split
      next heq => exact absurd (List.cons.inj heq).1 hc
      next => rfl

/-- What is added behind an address with a scheme leaves its authority as it is. -/
private theorem authority_append {v : Url} (hscheme : u.splitScheme.isSome)
    (hlist : v.toList = u.toList ++ more) (hslash : '/' ∉ more)
    (hstop : more = [] ∨ more.head? = some '?' ∨ more.head? = some '#' ∨ '?' ∈ u.toList) :
    v.authority = u.authority := by
  obtain ⟨⟨scheme, rest⟩, hparts⟩ := Option.isSome_iff_exists.mp hscheme
  have hbefore : ∀ c ∈ u.rawScheme, c ≠ '/' ∧ c ≠ ':' := fun c hc ↦ by
    simpa using List.mem_takeWhile_imp hc
  obtain ⟨rest, hu⟩ : ∃ rest, u.toList = u.rawScheme ++ ':' :: rest := by
    have haddress := address_of_splitScheme hparts
    unfold toList
    split
    · exact ⟨rest, haddress⟩
    · exact ⟨rest ++ '#' :: u.fragment, by rw [haddress]; simp⟩
  have hv : v.toList = u.rawScheme ++ ':' :: (rest ++ more) := by rw [hlist, hu]; simp
  rw [authority_of_colon hv hbefore, authority_of_colon hu hbefore]
  split
  next hname =>
    rw [List.filter_append, behindSlashes?_append]
    · exact fun h ↦ hslash (List.mem_of_mem_filter h)
    rcases hstop with rfl | hhead | hhead | hmem
    · exact .inl rfl
    · obtain ⟨tail, rfl⟩ := List.head?_eq_some_iff.mp hhead
      exact .inr (.inl rfl)
    · obtain ⟨tail, rfl⟩ := List.head?_eq_some_iff.mp hhead
      exact .inr (.inr (.inl rfl))
    · refine .inr (.inr (.inr ?_))
      rw [hu, List.mem_append, List.mem_cons] at hmem
      rcases hmem with hmem | hmem | hmem
      · -- a scheme has no question mark
        have hfalse := isScheme_eq_false (mem_clean_of_mem (by decide) hmem)
        rw [hname] at hfalse
        cases hfalse
      · cases hmem
      · exact List.mem_filter.mpr ⟨hmem, by decide⟩
  next => rfl

/-! ### Adding parameters -/

private theorem unwrapFront_append_cons {d : Char} (hblank : Unicode.isBlank d = false)
    (hmark : d ∉ ['U', 'R', 'L', ':']) (s rest : List Char) :
    unwrapFront (s ++ d :: rest) = unwrapFront s ++ d :: rest := by
  simp only [List.mem_cons, not_or] at hmark
  obtain ⟨hU, hR, hL, hcolon, -⟩ := hmark
  unfold unwrapFront
  rw [dropBlanks_append_cons hblank]
  generalize Unicode.dropBlanks s = front
  split
  next inner h =>
    -- the mark is there before the character or not at all
    simp only [List.append_eq_cons_iff, List.cons_eq_append_iff, List.cons.injEq, hU, hR, hL,
      hcolon, false_and, and_false, false_or] at h
    obtain ⟨_, rfl, _, rfl, _, rfl, inner', rfl, rfl⟩ := h
    exact dropBlanks_append_cons hblank inner' rest
  next hnone =>
    split
    next inner => exact absurd rfl (hnone (inner ++ d :: rest))
    next => rfl

private theorem unwrap_withQuery (base : String) {pairs : List (String × String)}
    (hpairs : pairs ≠ []) :
    ∃ sign, unwrap (withQuery base (Octets.Form.encodePairs pairs)).toList =
        unwrapFront base.toList ++ sign :: (Octets.Form.encodePairs pairs).toList ∧
      (sign = '?' ∨ sign = '&' ∧ '?' ∈ base.toList) := by
  obtain ⟨query, c, hquery, hc⟩ := Octets.Form.exists_encodePairs_eq_concat hpairs
  obtain ⟨sign, htext, hsign⟩ := exists_toList_withQuery base (Octets.Form.encodePairs pairs)
  refine ⟨sign, ?_, hsign⟩
  have hplain : Unicode.isBlank sign = false ∧ sign ∉ ['U', 'R', 'L', ':'] := by
    rcases hsign with rfl | ⟨rfl, -⟩ <;> decide
  rw [htext, hquery, ← List.cons_append, ← List.append_assoc, unwrap_concat hc,
    unwrapFront_append_cons hplain.1 hplain.2, List.append_assoc]

private theorem ofUnwrapped_append {tail : List Char} (h : '#' ∉ tail) (front : List Char) :
    ∃ more f, ofUnwrapped (front ++ tail) = ⟨(ofUnwrapped front).address ++ more, f⟩ ∧
      (more = [] ∨ more = tail ∧ (ofUnwrapped front).address = front) := by
  unfold ofUnwrapped
  rw [Text.splitLast_append h]
  cases Text.splitLast '#' front with
  | none => exact ⟨tail, [], rfl, .inr ⟨rfl, rfl⟩⟩
  | some parts => exact ⟨[], parts.2 ++ tail, by simp, .inl rfl⟩

/-- With parameters an address only goes on, and not in its scheme or its host. -/
private theorem exists_ofUnwrapped_withQuery (base : String) {pairs : List (String × String)}
    (hpairs : pairs ≠ []) :
    ∃ more f, ofUnwrapped (unwrap (withQuery base (Octets.Form.encodePairs pairs)).toList) =
        ⟨(ofBase base).address ++ more, f⟩ ∧
      (∀ c ∈ more, c ≠ '/' ∧ c ≠ ':') ∧
      (more = [] ∨ more.head? = some '?' ∨ '?' ∈ (ofBase base).address) := by
  have hquery : ∀ c ∈ (Octets.Form.encodePairs pairs).toList, c ≠ '/' ∧ c ≠ ':' ∧ c ≠ '#' := by
    intro c hc
    have hchar := Octets.Form.isQueryChar_of_mem_encodePairs c hc
    refine ⟨?_, (isBlank_of_isQueryChar hchar).2.2⟩
    rintro rfl
    exact absurd hchar (by decide)
  obtain ⟨sign, hunwrap, hsign⟩ := unwrap_withQuery base hpairs
  have htail : ∀ c ∈ sign :: (Octets.Form.encodePairs pairs).toList,
      c ≠ '/' ∧ c ≠ ':' ∧ c ≠ '#' := by
    rw [List.forall_mem_cons]
    refine ⟨?_, hquery⟩
    rcases hsign with rfl | ⟨rfl, -⟩ <;> decide
  obtain ⟨more, f, haddress, hmore⟩ :=
    ofUnwrapped_append (fun hmem ↦ (htail _ hmem).2.2 rfl) (unwrapFront base.toList)
  refine ⟨more, f, by rw [hunwrap, haddress]; rfl, ?_⟩
  rcases hmore with rfl | ⟨rfl, hfront⟩
  · exact ⟨nofun, .inl rfl⟩
  refine ⟨fun c hc ↦ ⟨(htail c hc).1, (htail c hc).2.1⟩, .inr ?_⟩
  rcases hsign with rfl | ⟨-, hmark⟩
  · exact .inl rfl
  · obtain ⟨before, hbase, hbefore⟩ := exists_append_unwrapFront base.toList
    rw [hbase, List.mem_append] at hmark
    right
    change '?' ∈ (ofUnwrapped (unwrapFront base.toList)).address
    rw [hfront]
    exact hmark.resolve_left hbefore

variable {base : String} {pairs : List (String × String)}

private theorem exists_toList_ofUnwrapped (s : List Char) :
    ∃ more, s = (ofUnwrapped s).toList ++ more ∧ (more = [] ∨ more = ['#']) := by
  unfold ofUnwrapped
  split
  next address fragment h =>
    have hs := Text.append_of_splitLast h
    unfold toList
    dsimp only
    split
    next hempty => exact ⟨['#'], by rw [hs, List.isEmpty_iff.mp hempty], .inr rfl⟩
    next => exact ⟨[], by rw [hs, List.append_nil], .inl rfl⟩
  next => exact ⟨[], by simp [toList], .inl rfl⟩

/-- An address with parameters is sound exactly if it is sound without them. -/
theorem isSound_withQuery_iff (hpairs : pairs ≠ []) :
    (ofUnwrapped (unwrap (withQuery base (Octets.Form.encodePairs pairs)).toList)).IsSound ↔
      (ofBase base).IsSound := by
  set u := ofUnwrapped (unwrap (withQuery base (Octets.Form.encodePairs pairs)).toList) with hu
  have hscheme : u.splitScheme.isSome = (ofBase base).splitScheme.isSome := by
    obtain ⟨more, f, haddress, hmore, -⟩ := exists_ofUnwrapped_withQuery base hpairs
    rw [hu, haddress, splitScheme_append (k := (ofBase base).fragment) hmore, Option.isSome_map]
  have hauthority (h : (ofBase base).splitScheme.isSome) :
      u.authority = (ofBase base).authority := by
    obtain ⟨query, c, hquery, hc⟩ := Octets.Form.exists_encodePairs_eq_concat hpairs
    obtain ⟨sign, hunwrap, hsign⟩ := unwrap_withQuery base hpairs
    obtain ⟨more, hfront, hmore⟩ := exists_toList_ofUnwrapped (unwrapFront base.toList)
    have hlist : u.toList = unwrapFront base.toList ++ sign :: (query ++ [c]) := by
      rw [hu, hunwrap, hquery, ← List.cons_append, ← List.append_assoc,
        toList_ofUnwrapped_concat (isBlank_of_isQueryChar hc).2.2.2]
    have hslash : '/' ∉ more ++ sign :: (query ++ [c]) := by
      have hquery' : '/' ∉ query ++ [c] := fun hmem ↦ absurd
        (Octets.Form.isQueryChar_of_mem_encodePairs '/' (hquery ▸ hmem)) (by decide)
      rcases hmore with rfl | rfl <;> rcases hsign with rfl | ⟨rfl, -⟩ <;> simpa using hquery'
    have hwhole : u.toList = (ofBase base).toList ++ (more ++ sign :: (query ++ [c])) := by
      rw [hlist, ← List.append_assoc]
      exact congrArg (· ++ _) hfront
    refine authority_append h hwhole hslash (.inr ?_)
    rcases hmore with rfl | rfl
    · rcases hsign with rfl | ⟨-, hmark⟩
      · exact .inl rfl
      · obtain ⟨before, hbase, hbefore⟩ := exists_append_unwrapFront base.toList
        rw [hbase, List.mem_append] at hmark
        rw [List.append_nil] at hfront
        exact .inr (.inr (hfront ▸ hmark.resolve_left hbefore))
    · exact .inr (.inl rfl)
  constructor
  · intro h
    have hbase := hscheme ▸ h.hasScheme
    exact ⟨hbase, hauthority hbase ▸ h.authority⟩
  · intro h
    exact ⟨hscheme.symm ▸ h.hasScheme, (hauthority h.hasScheme).symm ▸ h.authority⟩

/-- An address with parameters can be read exactly if it is sound without them. -/
theorem exists_read_withQuery_iff (hpairs : pairs ≠ []) :
    (∃ v, read (withQuery base (Octets.Form.encodePairs pairs)) = .ok v) ↔
      (ofBase base).IsSound := by
  rw [← isSound_withQuery_iff hpairs]
  constructor
  · rintro ⟨v, hv⟩
    obtain ⟨rfl, hsound⟩ := read_eq_ok_iff.mp hv
    exact hsound
  · intro h
    exact ⟨_, read_eq_ok_iff.mpr ⟨rfl, h⟩⟩

/-- An address with parameters names the server that is named without them. -/
theorem server?_of_read (hpairs : pairs ≠ [])
    (h : read (withQuery base (Octets.Form.encodePairs pairs)) = .ok u) :
    u.server? = (ofBase base).server? := by
  obtain ⟨more, f, haddress, hmore, hstop⟩ := exists_ofUnwrapped_withQuery base hpairs
  obtain ⟨rfl, -⟩ := read_eq_ok_iff.mp h
  rw [haddress]
  exact server?_append hmore hstop

/-! ### Absolute addresses -/

variable {scheme host rest : List Char}

private theorem lt_toNat_of_isAlphanum {c : Char} (h : c.isAlphanum = true) : 0x20 < c.toNat := by
  unfold Char.isAlphanum Char.isAlpha Char.isUpper Char.isLower Char.isDigit at h
  simp only [Bool.or_eq_true, Bool.and_eq_true, decide_eq_true_eq, UInt32.le_iff_toNat_le,
    ge_iff_le] at h
  rcases h with (⟨h, -⟩ | ⟨h, -⟩) | ⟨h, -⟩
  · exact Nat.lt_of_lt_of_le (by decide) h
  · exact Nat.lt_of_lt_of_le (by decide) h
  · exact Nat.lt_of_lt_of_le (by decide) h

private theorem ne_of_isScheme (h : isScheme scheme = true) :
    ∀ c ∈ scheme, c ≠ '/' ∧ c ≠ ':' ∧ c ≠ '#' ∧ 0x20 < c.toNat := by
  have hsigns : ['+', '-', '.'].all (0x20 < ·.toNat) = true := by decide
  have hchar : ∀ c : Char, (c.isAlphanum || ['+', '-', '.'].contains c) = true →
      c ≠ '/' ∧ c ≠ ':' ∧ c ≠ '#' ∧ 0x20 < c.toNat := by
    intro c hc
    refine ⟨?_, ?_, ?_, ?_⟩
    · rintro rfl
      exact absurd hc (by decide)
    · rintro rfl
      exact absurd hc (by decide)
    · rintro rfl
      exact absurd hc (by decide)
    · rcases Bool.or_eq_true_iff.mp hc with hc | hc
      · exact lt_toNat_of_isAlphanum hc
      · exact of_decide_eq_true (List.all_eq_true.mp hsigns c (List.contains_iff_mem.mp hc))
  cases scheme with
  | nil => cases h
  | cons d rest =>
    rw [isScheme, Bool.and_eq_true, List.all_eq_true] at h
    rw [List.forall_mem_cons]
    refine ⟨hchar d ?_, fun c hc ↦ hchar c (h.2 c hc)⟩
    simp [Char.isAlphanum, h.1]

private theorem dropBlanks_of_isScheme (h : isScheme scheme = true) (rest : List Char) :
    Unicode.dropBlanks (scheme ++ rest) = scheme ++ rest := by
  cases scheme with
  | nil => cases h
  | cons d tail =>
    rw [isScheme, Bool.and_eq_true] at h
    have hd : Octets.Form.isQueryChar d = true := by
      simp [Octets.Form.isQueryChar, Octets.Form.isFormChar, Char.isAlphanum, h.1]
    have hblank := (isBlank_of_isQueryChar hd).1
    rw [List.cons_append, Unicode.dropBlanks, List.dropWhile_cons_of_neg (by simp [hblank])]

private theorem takeWhile_host {p : Char → Bool} (hhost : ∀ c ∈ host, p c = true)
    (hrest : ∀ c ∈ rest.head?, p c = false) : (host ++ rest).takeWhile p = host := by
  rw [List.takeWhile_append_of_pos hhost]
  cases rest with
  | nil => exact List.append_nil host
  | cons c rest =>
    rw [List.takeWhile_cons_of_neg (by simp [hrest c rfl]), List.append_nil]

private theorem rawScheme_of_isScheme (h : isScheme scheme = true) :
    (⟨scheme ++ ':' :: rest, f⟩ : Url).rawScheme = scheme := by
  rw [rawScheme, takeWhile_append_cons (by decide), List.takeWhile_eq_self_iff]
  intro c hc
  simp [ne_of_isScheme h c hc]

private theorem splitScheme_of_isScheme (h : isScheme scheme = true) :
    (⟨scheme ++ ':' :: rest, f⟩ : Url).splitScheme = some (Unicode.lower scheme, rest) := by
  have hchars : ∀ c ∈ scheme, (c != '/' && c != ':') = true := by
    intro c hc
    simp [ne_of_isScheme h c hc]
  have hne : scheme.isEmpty = false := by
    cases scheme with
    | nil => cases h
    | cons => rfl
  rw [splitScheme_eq, rawScheme_of_isScheme h]
  dsimp only
  rw [List.dropWhile_append_of_pos hchars, List.dropWhile_cons_of_neg (by decide)]
  simp [hne]

/-- An address with a scheme names what stands behind two slashes, if that has a name. -/
theorem server?_of_absolute (hscheme : isScheme scheme = true)
    (hhost : ∀ c ∈ host, c ≠ '/' ∧ c ≠ '?' ∧ c ≠ '#')
    (hrest : ∀ c ∈ rest.head?, c = '/' ∨ c = '?' ∨ c = '#') :
    (⟨scheme ++ ':' :: '/' :: '/' :: (host ++ rest), f⟩ : Url).server? =
      if serverName host = [] then none else some (scheme, host) := by
  have hbehind : (host ++ rest).takeWhile (fun c ↦ c != '/' && c != '?' && c != '#') = host := by
    apply takeWhile_host
    · intro c hc
      simp [hhost c hc]
    · intro c hc
      rcases hrest c hc with rfl | rfl | rfl <;> rfl
  unfold server? host?
  rw [splitScheme_of_isScheme hscheme, rawScheme_of_isScheme hscheme]
  by_cases hname : serverName host = [] <;> simp [behindSlashes?, hbehind, hscheme, hname]

private theorem clean_of_isScheme (h : isScheme scheme = true) : clean scheme = scheme := by
  have hchars : ∀ c ∈ scheme, 0x20 < c.toNat := fun c hc ↦ (ne_of_isScheme h c hc).2.2.2
  have hdrop : scheme.dropWhile (·.toNat ≤ 0x20) = scheme := by
    cases scheme with
    | nil => rfl
    | cons d rest =>
      rw [List.dropWhile_cons_of_neg]
      simpa using hchars d List.mem_cons_self
  rw [clean, hdrop, List.filter_eq_self]
  intro c hc
  simp [isLeftOut_eq_false (hchars c hc)]

/-- The authority of an absolute address is what stands behind the two slashes, without tabs and
line breaks. -/
theorem authority_of_absolute (hscheme : isScheme scheme = true)
    (hhost : ∀ c ∈ host, c ≠ '/' ∧ c ≠ '?' ∧ c ≠ '#')
    (hrest : ∀ c ∈ rest.head?, c = '/' ∨ c = '?' ∨ c = '#')
    (hlist : u.toList = scheme ++ ':' :: '/' :: '/' :: (host ++ rest)) :
    u.authority = host.filter (!isLeftOut ·) := by
  have hfirst : ∀ c ∈ (rest.filter (!isLeftOut ·)).head?, c = '/' ∨ c = '?' ∨ c = '#' := by
    cases rest with
    | nil => exact fun c hc ↦ by cases hc
    | cons d rest => rcases hrest d rfl with rfl | rfl | rfl <;> simp [isLeftOut]
  rw [authority_of_colon hlist fun c hc ↦ ⟨(ne_of_isScheme hscheme c hc).1,
    (ne_of_isScheme hscheme c hc).2.1⟩, clean_of_isScheme hscheme, if_pos hscheme]
  rw [List.filter_cons_of_pos (by decide), List.filter_cons_of_pos (by decide), List.filter_append]
  apply takeWhile_host
  · intro c hc
    simp [hhost c (List.mem_of_mem_filter hc)]
  · intro c hc
    rcases hfirst c hc with rfl | rfl | rfl <;> rfl

/-- Nothing is taken off in front of an absolute address. The name of the mark that is taken off is
no scheme. -/
private theorem exists_ofBase_of_absolute {base : String}
    (hbase : base.toList = scheme ++ ':' :: '/' :: '/' :: (host ++ rest))
    (hscheme : isScheme scheme = true) (hmark : scheme ≠ ['U', 'R', 'L'])
    (hhost : ∀ c ∈ host, c ≠ '/' ∧ c ≠ '?' ∧ c ≠ '#')
    (hrest : ∀ c ∈ rest.head?, c = '/' ∨ c = '?' ∨ c = '#') :
    ∃ rest' f, ofBase base = ⟨scheme ++ ':' :: '/' :: '/' :: (host ++ rest'), f⟩ ∧
      ∀ c ∈ rest'.head?, c = '/' ∨ c = '?' ∨ c = '#' := by
  have hfront : unwrapFront base.toList = base.toList := by
    have hblank : Unicode.dropBlanks base.toList = base.toList := by
      rw [hbase]
      exact dropBlanks_of_isScheme hscheme _
    unfold unwrapFront
    rw [hblank]
    split
    next inner h =>
      have hself : scheme.takeWhile (· != ':') = scheme := by
        rw [List.takeWhile_eq_self_iff]
        intro c hc
        simp [ne_of_isScheme hscheme c hc]
      have hstart := congrArg (List.takeWhile (· != ':')) (h.symm.trans hbase)
      rw [takeWhile_append_cons (by decide), hself] at hstart
      exact absurd hstart.symm hmark
    next => rfl
  have hsign : '#' ∉ scheme ++ ':' :: '/' :: '/' :: host := by
    intro hmem
    simp only [List.mem_append, List.mem_cons] at hmem
    rcases hmem with hmem | hmem | hmem | hmem | hmem
    · exact (ne_of_isScheme hscheme _ hmem).2.2.1 rfl
    · cases hmem
    · cases hmem
    · cases hmem
    · exact (hhost _ hmem).2.2 rfl
  have hwhole : base.toList = (scheme ++ ':' :: '/' :: '/' :: host) ++ rest := by
    rw [hbase]
    simp
  rw [ofBase, hfront, hwhole, ofUnwrapped, Text.splitLast_append_of_not_mem hsign]
  cases hcut : Text.splitLast '#' rest with
  | none => exact ⟨rest, [], by simp, hrest⟩
  | some parts =>
    refine ⟨parts.1, parts.2, by simp, fun c hc ↦ hrest c ?_⟩
    obtain ⟨tail, htail⟩ := List.head?_eq_some_iff.mp hc
    rw [Text.append_of_splitLast hcut, htail]
    rfl

/-- An absolute address to which parameters are added names its host, if that has a name, and it is
sound if its host is. -/
theorem ofBase_of_absolute {base : String}
    (hbase : base.toList = scheme ++ ':' :: '/' :: '/' :: (host ++ rest))
    (hscheme : isScheme scheme = true) (hmark : scheme ≠ ['U', 'R', 'L'])
    (hhost : ∀ c ∈ host, c ≠ '/' ∧ c ≠ '?' ∧ c ≠ '#')
    (hrest : ∀ c ∈ rest.head?, c = '/' ∨ c = '?' ∨ c = '#') :
    (ofBase base).server? = (if serverName host = [] then none else some (scheme, host)) ∧
      ((ofBase base).IsSound ↔ Authority.IsSound (host.filter (!isLeftOut ·))) := by
  obtain ⟨rest', f, hu, hrest'⟩ := exists_ofBase_of_absolute hbase hscheme hmark hhost hrest
  have hauthority : (ofBase base).authority = host.filter (!isLeftOut ·) := by
    have hfirst : ∀ c ∈ (rest' ++ '#' :: f).head?, c = '/' ∨ c = '?' ∨ c = '#' := by
      cases rest' with
      | nil => simp
      | cons d rest' => exact hrest'
    rw [hu]
    cases hempty : f.isEmpty with
    | true => exact authority_of_absolute hscheme hhost hrest' (by simp [toList, hempty])
    | false => exact authority_of_absolute hscheme hhost hfirst (by simp [toList, hempty])
  have hsplit : (ofBase base).splitScheme.isSome := by
    rw [hu, splitScheme_of_isScheme hscheme]
    rfl
  refine ⟨?_, fun h ↦ hauthority ▸ h.authority, fun h ↦ ⟨hsplit, hauthority ▸ h⟩⟩
  rw [hu]
  exact server?_of_absolute hscheme hhost hrest'

end Url

/-! ### Requests -/

namespace Client

variable {c : Client} {url : String} {params : List (String × String)}
  {headers : List (String × Value)} {timeout : Value} {r : Request}

/-- A request with parameters can be made exactly if its address is sound. -/
theorem exists_get_iff (hparams : params ≠ []) :
    (∃ r, c.get url params headers timeout = .ok r) ↔ (Url.ofBase url).IsSound := by
  rw [← Url.exists_read_withQuery_iff hparams, get, if_neg (by simpa using hparams)]
  constructor
  · rintro ⟨r, hr⟩
    obtain ⟨u, hu, -⟩ := bind_eq_ok_iff.mp hr
    exact ⟨u, hu⟩
  · rintro ⟨u, hu⟩
    exact ⟨_, bind_eq_ok_iff.mpr ⟨u, hu, rfl⟩⟩

/-- A request with parameters goes to the server that its address names. -/
theorem server?_of_get (hparams : params ≠ []) (h : c.get url params headers timeout = .ok r) :
    r.url.server? = (Url.ofBase url).server? := by
  rw [get, if_neg (by simpa using hparams)] at h
  obtain ⟨u, hu, hr⟩ := bind_eq_ok_iff.mp h
  cases hr
  exact Url.server?_of_read hparams hu

end Client
end VulnScanner.Http
