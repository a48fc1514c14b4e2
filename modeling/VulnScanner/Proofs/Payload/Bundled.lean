import VulnScanner.Payload.Bundled
import VulnScanner.Proofs.Payload.Loading
import VulnScanner.Proofs.Payload.Spelling
import VulnScanner.Proofs.Regex.Surrounded

/-!
# The bundled catalog is loaded

The bundled definitions are what the file that comes with the program holds. What a record gives
depends on the platform only through its expression, and the bundled expressions put any text around
a word, which is an expression everywhere.
-/

namespace VulnScanner

/-! ### Records on several platforms -/

/-- What is read as a draft is read so on every platform. -/
theorem Record.draft_eq_ok_of_platform (P Q : Platform) {entries : List (Value × Value)}
    {draft : PayloadDraft} (h : @Record.draft P entries = .ok draft) :
    @Record.draft Q entries = .ok draft := by
  obtain ⟨hkeys, hfields⟩ := (@draft_eq_ok_iff_parts _ P _).mp h
  have hkeys' := (@keyFaults_eq_nil_iff _ Q).mpr ((@keyFaults_eq_nil_iff _ P).mp hkeys)
  exact (@draft_eq_ok_iff_parts _ Q _).mpr ⟨hkeys', hfields⟩

/-- A draft that is accepted on one platform is accepted where its expression can be used. -/
theorem PayloadDraft.define_eq_ok_of_platform (P Q : Platform) {draft : PayloadDraft}
    {d : PayloadDefinition} (h : @define P draft = .ok d)
    (hregex : ∀ regex, givenRegex d.regex = some regex → @checkRegex Q regex = .ok ()) :
    @define Q draft = .ok d := by
  obtain ⟨hcheck, rfl⟩ := (@define_eq_ok_iff P _ _).mp h
  refine (@define_eq_ok_iff Q _ _).mpr ⟨?_, rfl⟩
  cases hc : draft.usesCallback with
  | true => rwa [hc] at hcheck
  | false =>
    rw [hc, if_neg Bool.false_ne_true] at hcheck
    rw [if_neg Bool.false_ne_true]
    unfold checkLocal at hcheck ⊢
    split at hcheck
    · exact hcheck
    · exact hcheck
    · next hr => exact hregex _ hr
    · rfl
    · exact hcheck

/-- A record that gives a definition on one platform gives it where its expression can be used. -/
theorem Record.Gives.of_platform (P Q : Platform) {record : Value} {d : PayloadDefinition}
    (h : @Record.Gives P record d)
    (hregex : ∀ regex, givenRegex d.regex = some regex → @checkRegex Q regex = .ok ()) :
    @Record.Gives Q record d := by
  obtain ⟨entries, draft, hentries, hdraft, hdefine⟩ := h
  exact ⟨entries, draft, hentries, draft_eq_ok_of_platform P Q hdraft,
    draft.define_eq_ok_of_platform P Q hdefine hregex⟩

namespace PayloadCatalog

/-! ### The bundled expressions -/

/-- The expression for a missing page. -/
def notFoundRegex : String := "(?s).*Error 404 \\(Not Found\\)!!1.*"

/-- The title of the missing page. -/
def notFoundTitle : String := "Error 404 (Not Found)!!1"

/-- The expression for the missing page spells its title. -/
theorem notFound_spells :
    Regex.Spells "Error 404 \\(Not Found\\)!!1".toList notFoundTitle.toList := by
  have hfirst : Regex.Spells "Error 404 ".toList "Error 404 ".toList :=
    .of_plain (List.all_eq_true.mp (by decide))
  have hmiddle : Regex.Spells "Not Found".toList "Not Found".toList :=
    .of_plain (List.all_eq_true.mp (by decide))
  have hlast : Regex.Spells "!!1".toList "!!1".toList :=
    .of_plain (List.all_eq_true.mp (by decide))
  exact hfirst.append (.escaped (by decide) (hmiddle.append (.escaped (by decide) hlast)))

/-- What validates a bundled definition is the expression for the missing page or the one for a
printed token. -/
theorem givenRegex_of_mem_bundled {d : PayloadDefinition} (hd : d ∈ bundled.payloads)
    {regex : String} (hr : givenRegex d.regex = some regex) :
    regex = notFoundRegex ∨ regex = printedRegex := by
  have hall : bundled.payloads.all (fun d ↦ (givenRegex d.regex).all fun regex ↦
      regex = notFoundRegex || regex = printedRegex) = true := by
    decide
  have hthis := List.all_eq_true.mp hall d hd
  rw [hr] at hthis
  simpa using hthis

/-- An expression that spells a word with any text around it can be used. -/
theorem checkRegex_of_spells [Platform] {regex : String} {e w : List Char} (hs : Regex.Spells e w)
    (h : regexFor zeroToken regex = Regex.surrounded e) : checkRegex regex = .ok () := by
  rw [checkRegex, h, Regex.compile_surrounded hs false]

/-- The bundled expressions can be used. -/
theorem checkRegex_of_mem_bundled [Platform] {d : PayloadDefinition} (hd : d ∈ bundled.payloads)
    {regex : String} (hr : givenRegex d.regex = some regex) : checkRegex regex = .ok () := by
  rcases givenRegex_of_mem_bundled hd hr with rfl | rfl
  · exact checkRegex_of_spells notFound_spells (by decide)
  · refine checkRegex_of_spells (e := "PAYLOAD_START0000000000000000PAYLOAD_END".toList)
      (.of_plain (List.all_eq_true.mp (by decide))) (by decide)

/-! ### The catalog -/

/-- The text of lines, the first of which is given by its characters. -/
theorem textOfLines_cons {line : String} {rest : List String} {cs text : List Char}
    (hline : line = String.ofList cs) (hrest : textOfLines rest = text) :
    textOfLines (line :: rest) = cs ++ '\n' :: text := by
  rw [textOfLines, List.flatMap_cons, hline, String.toList_ofList, ← textOfLines, hrest,
    List.append_assoc]
  rfl

private theorem ofText_textOfLines {lines : List String} {text : List Char} {c : PayloadCatalog}
    (htext : textOfLines lines = text) (hread : (ofText text "").toOption = some c) :
    ofText (textOfLines lines) "" = .ok c := by
  rw [htext]
  exact toOption_eq_some_iff.mp hread

set_option maxRecDepth 20000 in
/-- The bundled catalog is what its file is read as on the common platform. -/
theorem ofText_bundledLines : ofText (textOfLines bundledLines) "" = .ok bundled := by
  apply ofText_textOfLines
  · unfold bundledLines
    -- the characters of a line are read off its literal, and are not decoded again below
    repeat apply textOfLines_cons rfl
    rfl
  · decide +kernel

/-- The bundled catalog has been read from records, whatever the platform. -/
theorem loaded_bundled [Q : Platform] : bundled.Loaded := by
  obtain ⟨source, records, hread⟩ := @loaded_of_ofText .common _ _ _ ofText_bundledLines
  obtain ⟨hgives, hnames⟩ := (@readRecords_nil_eq_ok_iff .common _ _ _).mp hread
  have hmem := (List.forall₂_and_left _ _).mpr ⟨fun d hd ↦ hd, hgives.flip⟩
  have hgives' := hmem.imp fun d record ⟨hd, h⟩ ↦
    Record.Gives.of_platform .common Q h fun regex hr ↦ checkRegex_of_mem_bundled hd hr
  exact ⟨source, records, readRecords_nil_eq_ok_iff.mpr ⟨hgives'.flip, hnames⟩⟩

end PayloadCatalog
end VulnScanner
