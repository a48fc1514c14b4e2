import VulnScanner.Proofs.Payload.Limits
import VulnScanner.Proofs.Yaml.Reading

/-!
# Faults of catalogs that are of another kind

A catalog that cannot be read is refused as a catalog, apart from two cases: a text that has no
value although it is no malformed document, and a limit that is met at a record behind records that
can all be used.
-/

namespace VulnScanner

/-- No error of a document is one of catalogs. -/
theorem Yaml.Error.kind_ne_catalog (e : Yaml.Error) : e.kind ≠ .catalog := by
  cases e with
  | codePoint n =>
    rw [Yaml.Error.kind]
    split <;> exact fun h ↦ nomatch h
  | _ => exact fun h ↦ nomatch h

namespace PayloadCatalog

section

variable [Platform] {source : String} {fault : CatalogFault} {text : List Char}

private theorem ofText_eq_error_iff :
    ofText text source = .error fault ↔
      (Yaml.load text = .error .malformed ∧ fault = .unreadable source) ∨
        (∃ e, Yaml.load text = .error e ∧ e ≠ .malformed ∧ fault = .scalar e) ∨
          ∃ document, Yaml.load text = .ok document ∧ ofValue document source = .error fault := by
  unfold ofText
  cases Yaml.load text with
  | ok document => simp
  | error e => cases e <;> simp [eq_comm (a := fault)]

end

/-- A platform where groups and collections have no room in one another. -/
@[reducible] def tight : Platform where
  characterNamed? _ := none
  groupLevels _ := 1
  documentLevels _ := 1
  displayLevels _ := 1

end PayloadCatalog
end VulnScanner
