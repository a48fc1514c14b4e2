import VulnScanner.Plugin.Loader
import VulnScanner.Proofs.Plugin.Registration
import VulnScanner.Proofs.Steps

/-!
# The fields of manifests

A manifest that is read comes from the fields of the mapping in its file: the definition is what
the draft of these fields is accepted as, and the rest is taken from them as it is.
-/

namespace VulnScanner.PluginManifest

variable [Platform] {m : PluginManifest} {tree : Tree PluginFile} {path directory : Path}
  {field? : String → Option Value}

/-- The entries of the mapping in a file; an empty document is one without entries. -/
def entriesAt? (tree : Tree PluginFile) (path : Path) : Option (List (Value × Value)) :=
  match tree.find path with
  | .file file =>
    (Yaml.load (Octets.universalNewlines file.content.toList)).toOption.bind fun v ↦
      (if v.isTruthy then v else .mapping []).entries?
  | _ => none

/-- The configuration that fields give: an empty one is a mapping without entries. -/
def configField (field? : String → Option Value) : Value :=
  ((field? "config").filter Value.isTruthy).getD (.mapping [])

/-- The manifest of a definition with the other fields. -/
def ofDefinition (directory : Path) (field? : String → Option Value) (d : PluginDefinition) :
    Except Fault PluginManifest := do
  return {
    definition := d
    entryPoint := ← fieldText (field? "entry_point")
    className := ← fieldText (field? "class_name")
    directory := directory
    config := configField field? }

/-- The manifest of a definition has the texts of the other fields. -/
theorem ofDefinition_eq_ok_iff {d : PluginDefinition} :
    ofDefinition directory field? d = .ok m ↔
      ∃ entryPoint className, fieldText (field? "entry_point") = .ok entryPoint ∧
        fieldText (field? "class_name") = .ok className ∧
        (⟨d, entryPoint, className, directory, configField field?⟩ : PluginManifest) = m := by
  simp only [ofDefinition, bind_eq_ok_iff, pure, Except.pure, Except.ok.injEq, exists_and_left]

/-- The manifest of a definition has it. -/
theorem definition_of_ofDefinition {d : PluginDefinition}
    (h : ofDefinition directory field? d = .ok m) : m.definition = d := by
  obtain ⟨_, _, -, -, rfl⟩ := ofDefinition_eq_ok_iff.mp h
  rfl

/-- The fields are read by drafting the definition and checking it. -/
theorem ofFields_eq (directory : Path) (field? : String → Option Value) :
    ofFields directory field? = draft field? >>= fun written ↦
      written.define.mapError .definition >>= ofDefinition directory field? := by
  unfold ofFields
  refine congrArg (draft field? >>= ·) (funext fun written ↦ ?_)
  cases written.define <;> rfl

/-- Fields make a manifest if their draft is accepted and the other fields are texts. -/
theorem ofFields_eq_ok_iff : ofFields directory field? = .ok m ↔
    ∃ written d, draft field? = .ok written ∧ written.define = .ok d ∧
      ofDefinition directory field? d = .ok m := by
  simp only [ofFields_eq, bind_eq_ok_iff, mapError_eq_ok_iff, exists_and_left]

/-- A manifest that is read comes from the fields of the mapping in its file. -/
theorem exists_fields_of_ofFile (h : ofFile tree path = .ok m) :
    ∃ entries, entriesAt? tree path = some entries ∧
      ofFields path.parent (Value.field? entries) = .ok m := by
  unfold ofFile at h
  split at h
  case h_2 => cases h
  next file hfind =>
  unfold ofText at h
  split at h
  · cases h
  next v hload =>
  obtain ⟨_, -, h⟩ := bind_eq_ok_iff.mp h
  split at h
  · cases h
  next entries hentries =>
    refine ⟨entries, ?_, h⟩
    rw [entriesAt?, hfind]
    dsimp only
    rw [hload]
    exact hentries

/-- The definition of a manifest that is read has been checked. -/
theorem isDefined_of_ofFile (h : ofFile tree path = .ok m) : m.definition.IsDefined := by
  obtain ⟨_, -, hfields⟩ := exists_fields_of_ofFile h
  obtain ⟨written, d, -, hdefine, hm⟩ := ofFields_eq_ok_iff.mp hfields
  rw [definition_of_ofDefinition hm]
  exact ⟨written, hdefine⟩

/-- A manifest is kept with the directory that it is in. -/
theorem directory_of_ofFile (h : ofFile tree path = .ok m) : m.directory = path.parent := by
  obtain ⟨_, -, hfields⟩ := exists_fields_of_ofFile h
  obtain ⟨_, _, -, -, hm⟩ := ofFields_eq_ok_iff.mp hfields
  obtain ⟨_, _, -, -, rfl⟩ := ofDefinition_eq_ok_iff.mp hm
  rfl

end VulnScanner.PluginManifest
