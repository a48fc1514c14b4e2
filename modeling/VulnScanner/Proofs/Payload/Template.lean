import VulnScanner.Proofs.Payload.Probes

/-!
# Templates in pieces

A template is cut in one pass from the left into its marks and the characters between them. The two
replacements of a generator, one behind the other, put the values of a payload into the places of
these marks at once: the first one makes no mark and destroys none.
-/

namespace VulnScanner

namespace Template

/-- The marks of templates. -/
inductive Mark where
  | token
  | url
  deriving DecidableEq, Repr

/-- A mark as it is written. -/
def Mark.text : Mark → List Char
  | token => tokenMark.toList
  | url => urlMark.toList

/-- A piece of a template: a mark, or a character that is kept. -/
inductive Piece where
  | kept (c : Char)
  | mark (m : Mark)
  deriving DecidableEq, Repr

/-- A piece as it is written. -/
def Piece.text : Piece → List Char
  | kept c => [c]
  | mark m => m.text

/-- The text of pieces. -/
def written (ps : List Piece) : List Char := ps.flatMap Piece.text

/-- The mark that a text begins with, if it begins with one. -/
def markAt? (text : List Char) : Option Mark :=
  [Mark.token, Mark.url].find? (·.text.isPrefixOf text)

/-- The pieces of a text behind some characters that are passed over. -/
def piecesAfter : Nat → List Char → List Piece
  | _, [] => []
  | skip + 1, _ :: rest => piecesAfter skip rest
  | 0, c :: rest =>
    match markAt? (c :: rest) with
    | some m => .mark m :: piecesAfter (m.text.length - 1) rest
    | none => .kept c :: piecesAfter 0 rest

/-- The pieces of a text, in one pass from the left. -/
def pieces (text : List Char) : List Piece := piecesAfter 0 text

/-- A text is cut into pieces from the left: a mark is one piece, and a character is kept if no mark
begins at it. -/
inductive Cuts : List Char → List Piece → Prop
  | nil : Cuts [] []
  | mark (m : Mark) {rest : List Char} {ps : List Piece} (h : Cuts rest ps) :
      Cuts (m.text ++ rest) (.mark m :: ps)
  | kept {c : Char} {rest : List Char} {ps : List Piece}
      (hc : ∀ m : Mark, ¬ m.text <+: c :: rest) (h : Cuts rest ps) :
      Cuts (c :: rest) (.kept c :: ps)

/-- What is put into the place of a mark, if anything is. -/
abbrev Values := Mark → Option (List Char)

/-- A piece with the value in its place, if it is a mark that has one. -/
def Piece.put (values : Values) : Piece → List Piece
  | kept c => [.kept c]
  | mark m => (values m).elim [.mark m] (·.map .kept)

/-- Pieces with the values in the places of the marks. -/
def put (values : Values) (ps : List Piece) : List Piece := ps.flatMap (Piece.put values)

/-- The values of a payload: its token, and its address if it has one. -/
def valuesOf (token : List Char) (url? : Option (List Char)) : Values
  | .token => some token
  | .url => url?

/-! ### Marks -/

/-- A mark behind its first character. -/
def Mark.stem : Mark → List Char
  | token => "TOKEN_RANDOM".toList
  | url => "TOKEN_URL".toList

namespace Mark

variable {m m' : Mark}

/-- Every mark begins with the same character. -/
theorem text_eq (m : Mark) : m.text = '$' :: m.stem := by
  cases m <;> decide

/-- That character stands nowhere else in a mark. -/
theorem dollar_not_mem_stem (m : Mark) : '$' ∉ m.stem := by
  cases m <;> decide

/-- No mark begins with another one. -/
theorem eq_of_stem_begins (h : m.stem <+: m'.stem) : m = m' := by
  cases m <;> cases m' <;> first | rfl | exact absurd h (by decide)

/-- Of two marks at the beginning of a text the first is the second. -/
theorem eq_of_prefix_append {rest : List Char} (h : m.text <+: m'.text ++ rest) : m = m' := by
  rw [text_eq, text_eq, List.cons_append, List.cons_prefix_cons] at h
  rcases List.prefix_or_prefix_of_prefix h.2 (List.prefix_append m'.stem rest) with h | h
  · exact eq_of_stem_begins h
  · exact (eq_of_stem_begins h).symm

end Mark

/-! ### Cutting -/

variable {text rest : List Char} {ps qs : List Piece} {values values' : Values} {m : Mark}

@[simp] theorem written_nil : written [] = [] := rfl

@[simp] theorem written_kept_cons (c : Char) (ps : List Piece) :
    written (.kept c :: ps) = c :: written ps := rfl

@[simp] theorem written_mark_cons (m : Mark) (ps : List Piece) :
    written (.mark m :: ps) = m.text ++ written ps := rfl

@[simp] theorem written_map_kept_append (value : List Char) (ps : List Piece) :
    written (value.map .kept ++ ps) = value ++ written ps := by
  induction value with
  | nil => rfl
  | cons c value ih => simp [ih]

/-- The mark that a text begins with is found. -/
theorem markAt?_append (m : Mark) (rest : List Char) : markAt? (m.text ++ rest) = some m := by
  unfold markAt?
  cases m <;> rfl

/-- None is found at the beginning of a text that begins with no mark. -/
theorem markAt?_eq_none (h : ∀ m : Mark, ¬ m.text <+: text) : markAt? text = none := by
  simp [markAt?, h]

private theorem piecesAfter_append (before after : List Char) :
    piecesAfter before.length (before ++ after) = pieces after := by
  induction before with
  | nil => rfl
  | cons c rest ih => rw [List.cons_append, List.length_cons, piecesAfter, ih]

/-- A mark is one piece. -/
theorem pieces_append (m : Mark) (rest : List Char) :
    pieces (m.text ++ rest) = .mark m :: pieces rest := by
  have hmark := markAt?_append m rest
  have hlength : m.text.length - 1 = m.stem.length := by rw [m.text_eq]; rfl
  rw [m.text_eq, List.cons_append] at hmark ⊢
  rw [pieces, piecesAfter, hmark]
  dsimp only
  rw [hlength, piecesAfter_append]

/-- A character at which no mark begins is one piece. -/
theorem pieces_cons {c : Char} (h : ∀ m : Mark, ¬ m.text <+: c :: rest) :
    pieces (c :: rest) = .kept c :: pieces rest := by
  rw [pieces, piecesAfter, markAt?_eq_none h]
  rfl

/-- A text is cut into its pieces. -/
theorem cuts_pieces (text : List Char) : Cuts text (pieces text) := by
  induction h : text.length using Nat.strong_induction_on generalizing text with
  | _ n ih =>
    by_cases hm : ∃ m : Mark, m.text <+: text
    · obtain ⟨m, rest, rfl⟩ := hm
      have hlt : rest.length < n := by
        rw [← h, m.text_eq, List.cons_append, List.length_cons, List.length_append]
        omega
      rw [pieces_append]
      exact .mark m (ih rest.length hlt rest rfl)
    · rw [not_exists] at hm
      cases text with
      | nil => exact .nil
      | cons c rest =>
        rw [pieces_cons hm]
        exact .kept hm (ih rest.length (by rw [← h]; exact Nat.lt_succ_self _) rest rfl)

namespace Cuts

/-- A text is cut in one way only. -/
theorem eq_pieces (h : Cuts text ps) : ps = pieces text := by
  induction h with
  | nil => rfl
  | mark m _ ih => rw [pieces_append, ← ih]
  | kept hc _ ih => rw [pieces_cons hc, ← ih]

/-- The pieces of a text are the text. -/
theorem written_eq (h : Cuts text ps) : written ps = text := by
  induction h with
  | nil => rfl
  | mark m _ ih => rw [written_mark_cons, ih]
  | kept _ _ ih => rw [written_kept_cons, ih]

/-- Every occurrence of a mark is a piece. -/
theorem occurrences_eq (h : Cuts text ps) (m : Mark) :
    Text.occurrences m.text text = ps.count (.mark m) := by
  induction h with
  | nil => rfl
  | @mark m' rest ps _ ih =>
    by_cases hm : m = m'
    · subst hm
      rw [List.count_cons_self, ← ih, m.text_eq,
        Text.occurrences_word_append m.dollar_not_mem_stem]
    · have hother : Piece.mark m' ≠ .mark m := fun h ↦ hm (Piece.mark.inj h).symm
      have hbegins : ¬ m.text <+: m'.text ++ rest := fun h ↦ hm (Mark.eq_of_prefix_append h)
      rw [List.count_cons_of_ne hother, ← ih]
      rw [m'.text_eq, List.cons_append] at hbegins ⊢
      rw [Text.occurrences_cons_of_not_begins hbegins, m.text_eq,
        Text.occurrences_append_of_not_mem _ _ m'.dollar_not_mem_stem]
  | kept hc _ ih =>
    rw [List.count_cons_of_ne (by nofun), ← ih, Text.occurrences_cons_of_not_begins (hc m)]

end Cuts

/-- The pieces of a text are the one way of cutting it. -/
theorem cuts_iff : Cuts text ps ↔ ps = pieces text :=
  ⟨Cuts.eq_pieces, fun h ↦ h ▸ cuts_pieces text⟩

/-! ### Putting values in -/

@[simp] theorem put_nil : put values [] = [] := rfl

@[simp] theorem put_kept_cons (c : Char) (ps : List Piece) :
    put values (.kept c :: ps) = .kept c :: put values ps := rfl

/-- A mark without a value stays. -/
theorem put_mark_cons_of_none (h : values m = none) (ps : List Piece) :
    put values (.mark m :: ps) = .mark m :: put values ps := by
  rw [put, List.flatMap_cons, Piece.put, h]
  rfl

/-- A mark with a value becomes the characters of the value. -/
theorem put_mark_cons_of_some {value : List Char} (h : values m = some value)
    (ps : List Piece) : put values (.mark m :: ps) = value.map .kept ++ put values ps := by
  rw [put, List.flatMap_cons, Piece.put, h]
  rfl

@[simp] theorem put_map_kept_append (value : List Char) (ps : List Piece) :
    put values (value.map .kept ++ ps) = value.map .kept ++ put values ps := by
  induction value with
  | nil => rfl
  | cons c value ih => simp [ih]

/-- Values that are put in behind others are put in for the marks that are left. -/
theorem put_put (ps : List Piece) :
    put values' (put values ps) = put (fun m ↦ values m <|> values' m) ps := by
  induction ps with
  | nil => rfl
  | cons p ps ih =>
    cases p with
    | kept c => rw [put_kept_cons, put_kept_cons, put_kept_cons, ih]
    | mark m =>
      cases hv : values m with
      | some value =>
        rw [put_mark_cons_of_some hv, put_map_kept_append, ih,
          put_mark_cons_of_some (show _ = some value by rw [hv]; rfl)]
      | none =>
        rw [put_mark_cons_of_none hv]
        cases hv' : values' m with
        | some value =>
          rw [put_mark_cons_of_some hv', ih,
            put_mark_cons_of_some (show _ = some value by rw [hv, hv']; rfl)]
        | none =>
          rw [put_mark_cons_of_none hv', ih, put_mark_cons_of_none (by rw [hv, hv']; rfl)]

private theorem count_piece_put (m : Mark) (p : Piece) :
    (p.put values).count (.mark m) = if (values m).isSome then 0 else [p].count (.mark m) := by
  have hkept : ∀ value : List Char, (value.map Piece.kept).count (.mark m) = 0 := by
    intro value
    rw [List.count_eq_zero, List.mem_map]
    rintro ⟨c, -, h⟩
    cases h
  cases p with
  | kept c => exact (hkept [c]).trans (by split <;> rfl)
  | mark m' =>
    by_cases hm : m' = m
    · subst hm
      cases hv : values m' with
      | none => simp [Piece.put, hv]
      | some value => simp [Piece.put, hv, hkept]
    · have hother : [Piece.mark m'].count (.mark m) = 0 := by simp [hm]
      rw [hother, ite_self]
      cases hv : values m' with
      | none =>
        rw [Piece.put, hv]
        exact hother
      | some value => simp [Piece.put, hv, hkept]

/-- A mark with a value is gone, and one without a value stands as often as before. -/
theorem count_put (m : Mark) (ps : List Piece) :
    (put values ps).count (.mark m) =
      if (values m).isSome then 0 else ps.count (.mark m) := by
  induction ps with
  | nil => simp
  | cons p ps ih =>
    have hcons : (p :: ps).count (.mark m) = [p].count (.mark m) + ps.count (.mark m) := by
      rw [← List.count_append, List.singleton_append]
    rw [put, List.flatMap_cons, List.count_append, count_piece_put, ← put, ih, hcons]
    split <;> rfl

/-- The only value is that of one mark. -/
def valueFor (m : Mark) (value : List Char) : Values := fun m' ↦
  if m' = m then some value else none

/-- Replacing a mark puts the value into its places. -/
theorem Cuts.replaceAll_eq (h : Cuts text ps) (m : Mark) (value : List Char) :
    Text.replaceAll m.text value text = written (put (valueFor m value) ps) := by
  induction h with
  | nil => rfl
  | @mark m' rest ps _ ih =>
    by_cases hm : m' = m
    · subst hm
      rw [put_mark_cons_of_some (if_pos rfl), written_map_kept_append, ← ih, m'.text_eq,
        Text.replaceAll_word_append]
    · have hbegins : ¬ m.text <+: m'.text ++ rest :=
        fun h ↦ hm (Mark.eq_of_prefix_append h).symm
      rw [put_mark_cons_of_none (if_neg hm), written_mark_cons, ← ih]
      rw [m'.text_eq, List.cons_append] at hbegins ⊢
      rw [Text.replaceAll_cons_of_not_begins _ hbegins, m.text_eq,
        Text.replaceAll_append_of_not_mem _ _ _ m'.dollar_not_mem_stem]
      rfl
  | kept hc _ ih =>
    rw [Text.replaceAll_cons_of_not_begins _ (hc m), ih, put_kept_cons, written_kept_cons]

/-- A value that makes no mark where it is put: it holds no first character of marks, and it begins
with a character that no mark holds. -/
def IsInert (value : List Char) : Prop :=
  '$' ∉ value ∧ ∃ c rest, value = c :: rest ∧ ∀ m : Mark, c ∉ m.text

/-- A text without the first character of marks is kept as it is. -/
theorem Cuts.append_of_not_mem {value : List Char} (hv : '$' ∉ value) (h : Cuts rest ps) :
    Cuts (value ++ rest) (value.map .kept ++ ps) := by
  induction value with
  | nil => exact h
  | cons c value ih =>
    rw [List.mem_cons, not_or] at hv
    refine .kept (fun m hm ↦ ?_) (ih hv.2)
    rw [m.text_eq, List.cons_prefix_cons] at hm
    exact hv.1 hm.1

/-- What a part of a mark was not in front of, it is not in front of when values are put in. -/
theorem Cuts.prefix_of_prefix_put (h : Cuts text ps)
    (hvalues : ∀ m value, values m = some value → IsInert value) {lead : List Char}
    (hlead : '$' ∉ lead) (hpart : ∀ c ∈ lead, ∃ m : Mark, c ∈ m.text)
    (hp : lead <+: written (put values ps)) : lead <+: text := by
  induction h generalizing lead with
  | nil => exact hp
  | @mark m rest ps _ ih =>
    cases lead with
    | nil => exact List.nil_prefix
    | cons x lead =>
      cases hv : values m with
      | none =>
        rw [put_mark_cons_of_none hv, written_mark_cons, m.text_eq, List.cons_append,
          List.cons_prefix_cons] at hp
        exact absurd (hp.1 ▸ List.mem_cons_self) hlead
      | some value =>
        obtain ⟨-, c, tail, rfl, hc⟩ := hvalues m value hv
        rw [put_mark_cons_of_some hv, written_map_kept_append, List.cons_append,
          List.cons_prefix_cons] at hp
        obtain ⟨m', hm'⟩ := hpart x List.mem_cons_self
        exact absurd (hp.1 ▸ hm') (hc m')
  | kept _ _ ih =>
    cases lead with
    | nil => exact List.nil_prefix
    | cons x lead =>
      rw [List.mem_cons, not_or] at hlead
      rw [List.forall_mem_cons] at hpart
      rw [put_kept_cons, written_kept_cons, List.cons_prefix_cons] at hp
      exact List.cons_prefix_cons.mpr ⟨hp.1, ih hlead.2 hpart.2 hp.2⟩

/-- Inert values make no mark and destroy none but those in whose places they are put. -/
theorem Cuts.put (h : Cuts text ps) (hvalues : ∀ m value, values m = some value → IsInert value) :
    Cuts (written (put values ps)) (put values ps) := by
  induction h with
  | nil => exact .nil
  | @mark m rest ps _ ih =>
    cases hv : values m with
    | none =>
      rw [put_mark_cons_of_none hv, written_mark_cons]
      exact .mark m ih
    | some value =>
      rw [put_mark_cons_of_some hv, written_map_kept_append]
      exact ih.append_of_not_mem (hvalues m value hv).1
  | @kept c rest ps hc h ih =>
    rw [put_kept_cons, written_kept_cons]
    refine .kept (fun m hm ↦ hc m ?_) ih
    -- A mark that the values complete would have been one before.
    rw [m.text_eq, List.cons_prefix_cons] at hm ⊢
    refine ⟨hm.1, h.prefix_of_prefix_put hvalues m.dollar_not_mem_stem (fun x hx ↦ ⟨m, ?_⟩) hm.2⟩
    rw [m.text_eq]
    exact List.mem_cons_of_mem _ hx

/-! ### Payloads -/

/-- No mark holds a digit of tokens. -/
theorem Mark.not_mem_text_of_isTokenDigit {c : Char} (hc : isTokenDigit c = true) (m : Mark) :
    c ∉ m.text := by
  have hmark : ∀ d ∈ m.text, (!isTokenDigit d) = true :=
    List.all_eq_true.mp (by cases m <;> decide)
  intro hm
  have hno := hmark c hm
  rw [hc] at hno
  cases hno

/-- A token is inert. -/
theorem isInert_of_isToken {token : List Char} (h : IsToken token) : IsInert token := by
  refine ⟨fun hm ↦ Mark.not_mem_text_of_isTokenDigit (h.2 _ hm) .token (by decide), ?_⟩
  cases token with
  | nil => cases h.1
  | cons c rest =>
    exact ⟨c, rest, rfl, Mark.not_mem_text_of_isTokenDigit (h.2 c List.mem_cons_self)⟩

/-- The token of a payload is put in without an address first. -/
theorem toList_replaceIn_token (template token : String) :
    (Text.replaceIn tokenMark token template).toList =
      written (put (valuesOf token.toList none) (pieces template.toList)) := by
  have hvalues : valueFor .token token.toList = valuesOf token.toList none := by
    funext m
    cases m <;> rfl
  rw [Text.replaceIn, String.toList_ofList, ← hvalues]
  exact (cuts_pieces template.toList).replaceAll_eq .token token.toList

/-- Then the pieces are those of the template with the token in the places of its mark. -/
theorem cuts_replaceIn_token (template : String) {token : String} (h : IsToken token.toList) :
    Cuts (Text.replaceIn tokenMark token template).toList
      (put (valuesOf token.toList none) (pieces template.toList)) := by
  rw [toList_replaceIn_token]
  refine (cuts_pieces template.toList).put fun m value hvalue ↦ ?_
  cases m with
  | token => exact Option.some.inj hvalue ▸ isInert_of_isToken h
  | url => cases hvalue

/-- The address is put in behind the token as if both were put in at once. -/
theorem toList_replaceIn_url (template : String) {token : String} (h : IsToken token.toList)
    (url : String) :
    (Text.replaceIn urlMark url (Text.replaceIn tokenMark token template)).toList =
      written (put (valuesOf token.toList (some url.toList)) (pieces template.toList)) := by
  have hvalues : (fun m ↦ valuesOf token.toList none m <|> valueFor .url url.toList m) =
      valuesOf token.toList (some url.toList) := by
    funext m
    cases m <;> rfl
  have hurl := (cuts_replaceIn_token template h).replaceAll_eq .url url.toList
  rw [put_put, hvalues] at hurl
  rw [Text.replaceIn, String.toList_ofList]
  exact hurl

/-- Putting in the token leaves the occurrences of the other mark. -/
theorem occurrences_replaceIn_token (template : String) {token : String}
    (h : IsToken token.toList) :
    Text.occurrences urlMark.toList (Text.replaceIn tokenMark token template).toList =
      Text.occurrences urlMark.toList template.toList := by
  have hbehind := (cuts_replaceIn_token template h).occurrences_eq .url
  rw [count_put, ← (cuts_pieces template.toList).occurrences_eq .url] at hbehind
  exact hbehind

/-- A payload has an address exactly if its definition uses the callback server, and its text is the
template with its values in the places of the marks. -/
theorem text_of_render {g : Generator} {source : TokenSource} {createdAt : Binary64}
    {d : PayloadDefinition} {drawn : Nat} {p : Payload}
    (ht : IsToken (source drawn Generator.tokenOctets).toList)
    (h : (g.render source createdAt d drawn).1 = .ok p) :
    p.definition = d ∧ p.randomToken = source drawn Generator.tokenOctets ∧
      p.callbackUrl.isSome = d.usesCallback ∧
      p.text.toList = written (put
        (valuesOf p.randomToken.toList (p.callbackUrl.map String.toList))
        (pieces d.template.toList)) := by
  rcases Generator.render_cases h with ⟨hd, rfl⟩ | ⟨hd, client, -, rfl⟩
  · exact ⟨rfl, rfl, hd.symm, toList_replaceIn_token _ _⟩
  · exact ⟨rfl, rfl, hd.symm, toList_replaceIn_url _ ht _⟩

/-- The values of payloads stand in the places of the marks of a template at once. -/
structure PutsAtOnce (template token : String) : Prop where
  /-- The pieces are the one way of cutting the template from the left, -/
  cuts : ∀ ps, Cuts template.toList ps ↔ ps = pieces template.toList
  /-- in which nothing is lost -/
  written_eq : written (pieces template.toList) = template.toList
  /-- and every occurrence of a mark is a piece. -/
  occurrences_eq : ∀ m : Mark,
    Text.occurrences m.text template.toList = (pieces template.toList).count (.mark m)
  /-- With a callback each of these pieces becomes one copy of its value, and all else is kept. -/
  callback : ∀ url : String,
    (Text.replaceIn urlMark url (Text.replaceIn tokenMark token template)).toList =
      written (put (valuesOf token.toList (some url.toList)) (pieces template.toList))
  /-- Without a callback the mark of the address is kept too. -/
  alone : (Text.replaceIn tokenMark token template).toList =
    written (put (valuesOf token.toList none) (pieces template.toList))
  /-- Between the two replacements the pieces are those of the template but for the tokens, -/
  between : pieces (Text.replaceIn tokenMark token template).toList =
    put (valuesOf token.toList none) (pieces template.toList)
  /-- so that the mark of the address stands where it did and nowhere else. -/
  occurrences_between :
    Text.occurrences urlMark.toList (Text.replaceIn tokenMark token template).toList =
      Text.occurrences urlMark.toList template.toList
  /-- It is in this way that payloads have their texts. -/
  rendered : ∀ (g : Generator) (source : TokenSource) (createdAt : Binary64)
    (d : PayloadDefinition) (drawn : Nat) (p : Payload), d.template = template →
      source drawn Generator.tokenOctets = token →
      (g.render source createdAt d drawn).1 = .ok p →
        p.randomToken = token ∧ p.callbackUrl.isSome = d.usesCallback ∧
          p.text.toList = written (put
            (valuesOf token.toList (p.callbackUrl.map String.toList)) (pieces template.toList))

/-- For every template and every token the two replacements, one behind the other, put all values in
at once. -/
theorem putsAtOnce_of_isToken (template : String) {token : String} (h : IsToken token.toList) :
    PutsAtOnce template token where
  cuts _ := cuts_iff
  written_eq := (cuts_pieces template.toList).written_eq
  occurrences_eq := (cuts_pieces template.toList).occurrences_eq
  callback := toList_replaceIn_url template h
  alone := toList_replaceIn_token template token
  between := (cuts_replaceIn_token template h).eq_pieces.symm
  occurrences_between := occurrences_replaceIn_token template h
  rendered g source createdAt d drawn p hd hs hr := by
    subst hd hs
    obtain ⟨-, htoken, hurl, htext⟩ := text_of_render h hr
    exact ⟨htoken, hurl, htoken ▸ htext⟩

/-- Marks that stand next to each other, in each other's beginnings and in an address: those of the
template are replaced, once each. -/
theorem putsAtOnce_of_isToken_nested :
    IsToken "00c0ffee00c0ffee".toList ∧
      (Text.replaceIn urlMark "$TOKEN_RANDOM" (Text.replaceIn tokenMark "00c0ffee00c0ffee"
        "$TOKEN_$TOKEN_RANDOM$TOKEN_URLPAYLOAD_START$TOKEN_RANDO")).toList =
        "$TOKEN_00c0ffee00c0ffee$TOKEN_RANDOMPAYLOAD_START$TOKEN_RANDO".toList := by
  have htoken : IsToken "00c0ffee00c0ffee".toList :=
    ⟨by decide, List.all_eq_true.mp (by decide)⟩
  have hputs :=
    putsAtOnce_of_isToken "$TOKEN_$TOKEN_RANDOM$TOKEN_URLPAYLOAD_START$TOKEN_RANDO" htoken
  refine ⟨htoken, ?_⟩
  rw [hputs.callback]
  decide +kernel

end Template
end VulnScanner
