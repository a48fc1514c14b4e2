import VulnScanner.Proofs.Data.Entries
import VulnScanner.Proofs.Plugin.Fields

/-!
# Fields of manifests that are left empty

A field of a manifest that need not be there can also be left empty. For most fields this is as if
they were not there. The name and the version are different: left empty they become the text of an
empty value, while without them the texts are empty.
-/

namespace VulnScanner

variable {names : List String}

/-! ### Definitions -/

/-- A text, or that of an empty value if its field is among some. -/
def nullText (names : List String) (field text : String) : String :=
  if field ∈ names then "None" else text

/-- A draft in which the name and the version are those of empty values if they are among some
fields. -/
def PluginDraft.withNulls (names : List String) (draft : PluginDraft) : PluginDraft :=
  { draft with
    name := nullText names "name" draft.name
    version := nullText names "version" draft.version }

/-- A definition in which the name and the version are those of empty values if they are among some
fields. -/
def PluginDefinition.withNulls (names : List String) (d : PluginDefinition) : PluginDefinition :=
  { d with
    name := nullText names "name" d.name
    version := nullText names "version" d.version }

/-- The name and the version do not matter for whether a draft is accepted. -/
theorem PluginDraft.define_withNulls (draft : PluginDraft) :
    (draft.withNulls names).define = draft.define.map (·.withNulls names) := by
  cases hdefine : draft.define with
  | error error =>
    have hrefused : (draft.withNulls names).IsRefused error := by
      cases define_eq_error_iff.mp hdefine with
      | noIdentifier hid => exact .noIdentifier hid
      | unknownType hid htype => exact .unknownType hid htype
      | emptyNames hid htype hnames => exact .emptyNames hid htype hnames
      | emptySoftware hid htype hnames hsoftware hempty =>
        exact .emptySoftware hid htype hnames hsoftware hempty
    exact hrefused.define_eq
  | ok d =>
    cases define_eq_ok_iff.mp hdefine with
    | intro hid htype hnames hsoftware =>
      have haccepted : (draft.withNulls names).IsAccepted _ := .intro hid htype hnames hsoftware
      exact haccepted.define_eq

namespace PluginManifest

/-! ### Fields -/

/-- The fields of a manifest that need not be there. -/
def optionalFields : List String :=
  ["target_service_names", "target_software", "for_web_service", "name", "version", "description",
   "config"]

/-- Fields of which some are left empty on the one side and are not there on the other. -/
structure Emptied (names : List String) (field? without? : String → Option Value) : Prop where
  null : ∀ name ∈ names, field? name = some .null
  absent : ∀ name ∈ names, without? name = none
  same : ∀ name ∉ names, field? name = without? name

namespace Emptied

variable {field? without? : String → Option Value}

/-- What takes an empty field for one that is not there makes no difference. -/
theorem congr {γ : Type} (h : Emptied names field? without?) {g : Option Value → γ}
    (hg : g (some .null) = g none) (name : String) : g (field? name) = g (without? name) := by
  by_cases hname : name ∈ names
  · rw [h.null name hname, h.absent name hname, hg]
  · rw [h.same name hname]

/-- The text of an empty field is that of an empty value. -/
theorem fieldText_eq [Platform] (h : Emptied names field? without?) (name : String) :
    fieldText (field? name) = (fieldText (without? name)).map (nullText names name) := by
  by_cases hname : name ∈ names
  · rw [h.null name hname, h.absent name hname]
    simp [fieldText, textOf, nullText, hname, Except.map]
  · have hsame : nullText names name = id := funext fun text ↦ if_neg hname
    rw [h.same name hname, hsame, Except.map_id]
    rfl

/-- Required fields are the same. -/
theorem same_of_required (h : Emptied names field? without?) (hnames : names ⊆ optionalFields)
    {name : String} (hname : name ∈ requiredFields) : field? name = without? name := by
  have hrequired : ∀ field ∈ requiredFields, field ∉ optionalFields := by decide
  exact h.same name fun hmem ↦ hrequired name hname (hnames hmem)

/-- A draft has the text of an empty value for a name and a version that are left empty. -/
theorem draft_eq [Platform] (h : Emptied names field? without?) (hnames : names ⊆ optionalFields) :
    draft field? = (draft without?).map (·.withNulls names) := by
  have hweb := h.congr (g := fun v ↦ v.any Value.isTruthy) rfl "for_web_service"
  have hdescription := h.congr (g := fun v ↦ fieldText (v.filter Value.isTruthy)) rfl "description"
  unfold draft
  rw [h.same_of_required hnames (by decide : "id" ∈ requiredFields),
    h.same_of_required hnames (by decide : "type" ∈ requiredFields),
    h.congr (g := targetNames) rfl, h.congr (g := present?) rfl, hweb, h.fieldText_eq "name",
    h.fieldText_eq "version", hdescription]
  cases fieldText (without? "id"); · rfl
  cases fieldText (without? "type"); · rfl
  cases targetNames (without? "target_service_names"); · rfl
  cases fieldText (without? "name"); · rfl
  cases fieldText (without? "version"); · rfl
  cases fieldText ((without? "description").filter Value.isTruthy) <;> rfl

end Emptied

/-- A manifest in which the name and the version are those of empty values if they are among some
fields. -/
def withNulls (names : List String) (m : PluginManifest) : PluginManifest :=
  { m with definition := m.definition.withNulls names }

private theorem nullText_eq_iff {field text : String} (h : field ∈ names → text = "") :
    nullText names field text = text ↔ field ∉ names := by
  unfold nullText
  split
  next hmem => simp [h hmem, hmem]
  next hmem => simp [hmem]

/-- Where the name and the version are empty for want of their fields, leaving these empty changes
the manifest. -/
private theorem withNulls_eq_iff {m : PluginManifest}
    (hname : "name" ∈ names → m.definition.name = "")
    (hversion : "version" ∈ names → m.definition.version = "") :
    m.withNulls names = m ↔ "name" ∉ names ∧ "version" ∉ names := by
  rw [← nullText_eq_iff hname, ← nullText_eq_iff hversion]
  constructor
  · intro h
    exact ⟨congrArg (·.definition.name) h, congrArg (·.definition.version) h⟩
  · rintro ⟨hname, hversion⟩
    unfold withNulls PluginDefinition.withNulls
    rw [hname, hversion]

/-- Fields that are left empty make the manifest that there is without them, but for the name and
the version. -/
theorem Emptied.ofFields_eq [Platform] {field? without? : String → Option Value}
    (h : Emptied names field? without?) (hnames : names ⊆ optionalFields) (directory : Path) :
    ofFields directory field? = (ofFields directory without?).map (·.withNulls names) := by
  have hrest : ∀ d, ofDefinition directory field? (d.withNulls names) =
      (ofDefinition directory without? d).map (·.withNulls names) := by
    intro d
    have hconfig := h.congr (g := fun v ↦ (v.filter Value.isTruthy).getD (.mapping [])) rfl "config"
    unfold ofDefinition configField
    rw [hconfig, h.same_of_required hnames (by decide : "entry_point" ∈ requiredFields),
      h.same_of_required hnames (by decide : "class_name" ∈ requiredFields)]
    cases fieldText (without? "entry_point"); · rfl
    cases fieldText (without? "class_name") <;> rfl
  rw [PluginManifest.ofFields_eq, PluginManifest.ofFields_eq, h.draft_eq hnames]
  cases draft without? with
  | error fault => rfl
  | ok written =>
    change ((written.withNulls names).define.mapError _ >>= _) = _
    rw [PluginDraft.define_withNulls]
    cases hdefine : written.define with
    | error error => simp [Except.map, hdefine]
    | ok d => simpa [Except.map, hdefine] using hrest d

/-! ### Documents -/

variable {v v' : Value} {entries entries' : List (Value × Value)}

/-- Only a mapping has entries, and they stand under its keys. -/
private theorem exists_mapping_of_entries? (hv : v.entries? = some entries) :
    ∃ written, v = .mapping written ∧ entries.map Prod.fst = written.map Prod.fst := by
  cases v with
  | mapping written =>
    cases hv
    exact ⟨written, rfl, by rw [List.map_map]; rfl⟩
  | _ => cases hv

/-- A name is in a mapping exactly if there is a field of that name. -/
private theorem holdsName_eq (hv : v.entries? = some entries) (name : String) :
    holdsName v name = .ok (Value.field? entries name).isSome := by
  obtain ⟨written, rfl, hkeys⟩ := exists_mapping_of_entries? hv
  rw [holdsName, Except.ok.injEq, Bool.eq_iff_iff, Option.isSome_iff_ne_none, Ne,
    Value.field?_eq_none_iff, not_not, List.any_eq_true]
  have hkey : Value.HasKey entries name ↔ .text name ∈ entries.map Prod.fst := by
    simp [Value.HasKey]
  rw [hkey, hkeys, List.mem_map]
  simp only [Value.sameKey_text_iff]

private theorem requireNames_congr {path : String} {required : List String}
    (h : ∀ name ∈ required, holdsName v name = holdsName v' name) :
    requireNames v path required = requireNames v' path required := by
  induction required with
  | nil => rfl
  | cons name rest ih =>
    rw [List.forall_mem_cons] at h
    rw [requireNames, requireNames, h.1, ih h.2]

/-- A mapping is read by requiring names and then reading its fields. -/
private theorem ofValue_eq [Platform] (hv : v.entries? = some entries) (file : Path) :
    ofValue file v = requireNames v file.text requiredFields >>= fun _ ↦
      ofFields file.parent (Value.field? entries) := by
  obtain ⟨written, rfl, -⟩ := exists_mapping_of_entries? hv
  have hsame : (if (Value.mapping written).isTruthy then .mapping written else .mapping []) =
      Value.mapping written := by
    cases written <;> rfl
  unfold ofValue
  rw [hsame]
  dsimp only
  rw [hv]

/-- Entries in which some fields are left empty. -/
def leaveEmpty (names : List String) (entries : List (Value × Value)) : List (Value × Value) :=
  names.foldl (fun entries name ↦ Value.putEntry entries (.text name) .null) entries

/-- Entries without some fields. -/
def leaveOut (names : List String) (entries : List (Value × Value)) : List (Value × Value) :=
  entries.filter fun e ↦ !names.any (e.1.sameKey <| .text ·)

private theorem field?_leaveEmpty (name : String) :
    Value.field? (leaveEmpty names entries) name =
      if name ∈ names then some .null else Value.field? entries name := by
  induction names generalizing entries with
  | nil => rfl
  | cons first rest ih =>
    rw [leaveEmpty, List.foldl_cons, ← leaveEmpty, ih]
    by_cases hrest : name ∈ rest
    · simp [hrest]
    by_cases hfirst : first = name
    · subst hfirst
      simp [hrest, Value.field?_putEntry_self]
    · simp [hrest, Ne.symm hfirst, Value.field?_putEntry_of_ne hfirst]

private theorem field?_leaveOut (name : String) :
    Value.field? (leaveOut names entries) name =
      if name ∈ names then none else Value.field? entries name := by
  split
  next hname =>
    rw [Value.field?_eq_none_iff]
    rintro ⟨v, hv⟩
    have hleft := (List.mem_filter.mp hv).2
    rw [Bool.not_eq_true', List.any_eq_false] at hleft
    exact hleft name hname (Value.sameKey_text_iff.mpr rfl)
  next hname =>
    refine Value.field?_filter fun v ↦ ?_
    rw [Bool.not_eq_true', List.any_eq_false]
    intro other hother hsame
    cases Value.sameKey_text_iff.mp hsame
    exact hname hother

/-- Leaving fields empty and leaving them out differ in these fields alone. -/
theorem emptied_leaveEmpty (names : List String) (entries : List (Value × Value)) :
    Emptied names (Value.field? (leaveEmpty names entries))
      (Value.field? (leaveOut names entries)) where
  null name hname := by rw [field?_leaveEmpty, if_pos hname]
  absent name hname := by rw [field?_leaveOut, if_pos hname]
  same name hname := by rw [field?_leaveEmpty, field?_leaveOut, if_neg hname, if_neg hname]

/-- What comes of a manifest in which some fields are left empty, beside the one without them. -/
structure ReadsEmptied [Platform] (names : List String) (file : Path) (v v' : Value) : Prop where
  /-- Both are refused with the same fault, or they make the same manifest, except that a name and
  a version left empty are the text of an empty value. -/
  ofValue_eq : ofValue file v = (ofValue file v').map (·.withNulls names)
  /-- Without these fields the name and the version are empty. -/
  texts : ∀ m', ofValue file v' = .ok m' → ("name" ∈ names → m'.definition.name = "") ∧
    ("version" ∈ names → m'.definition.version = "")
  /-- So both are read alike exactly if they are refused, or if neither field is left empty. -/
  eq_iff : ofValue file v = ofValue file v' ↔
    (∃ fault, ofValue file v' = .error fault) ∨ "name" ∉ names ∧ "version" ∉ names

/-- A name and a version that are not there are empty. -/
private theorem texts_of_ofFields [Platform] {field? without? : String → Option Value}
    {directory : Path} {m' : PluginManifest} (h : Emptied names field? without?)
    (hm' : ofFields directory without? = .ok m') :
    ("name" ∈ names → m'.definition.name = "") ∧
      ("version" ∈ names → m'.definition.version = "") := by
  obtain ⟨written, d, hdraft, hdefine, hm'⟩ := ofFields_eq_ok_iff.mp hm'
  obtain ⟨_, _, -, -, rfl⟩ := ofDefinition_eq_ok_iff.mp hm'
  simp only [draft, bind_eq_ok_iff] at hdraft
  obtain ⟨_, -, _, -, _, -, name, hname, version, hversion, _, -, hwritten⟩ := hdraft
  cases hwritten
  cases PluginDraft.define_eq_ok_iff.mp hdefine with
  | intro =>
    constructor
    · intro hmem
      rw [h.absent "name" hmem] at hname
      exact (Except.ok.inj hname).symm
    · intro hmem
      rw [h.absent "version" hmem] at hversion
      exact (Except.ok.inj hversion).symm

/-- A manifest in which fields are left empty that need not be there is read like the one without
them, except for the name and the version. -/
theorem readsEmptied [Platform] (hnames : names ⊆ optionalFields) (hv : v.entries? = some entries)
    (hv' : v'.entries? = some entries')
    (h : Emptied names (Value.field? entries) (Value.field? entries')) (file : Path) :
    ReadsEmptied names file v v' := by
  have hrequired : requireNames v file.text requiredFields =
      requireNames v' file.text requiredFields := by
    refine requireNames_congr fun name hname ↦ ?_
    rw [holdsName_eq hv, holdsName_eq hv', h.same_of_required hnames hname]
  have hread : ofValue file v = (ofValue file v').map (·.withNulls names) := by
    rw [ofValue_eq hv, ofValue_eq hv', hrequired, h.ofFields_eq hnames]
    cases requireNames v' file.text requiredFields <;> rfl
  have htexts : ∀ m', ofValue file v' = .ok m' → ("name" ∈ names → m'.definition.name = "") ∧
      ("version" ∈ names → m'.definition.version = "") := by
    intro m' hm'
    rw [ofValue_eq hv'] at hm'
    obtain ⟨_, -, hfields⟩ := bind_eq_ok_iff.mp hm'
    exact texts_of_ofFields h hfields
  refine ⟨hread, htexts, ?_⟩
  rw [hread]
  cases hm' : ofValue file v' with
  | error fault => simp [Except.map]
  | ok m' =>
    obtain ⟨hname, hversion⟩ := htexts m' hm'
    simpa [Except.map] using withNulls_eq_iff hname hversion

/-- A mapping with the required fields and all others. -/
def fullEntries : List (Value × Value) :=
  [(.text "id", .text "a"), (.text "name", .text "A"), (.text "type", .text "port_scan"),
   (.text "target_service_names", .list [.text "http"]), (.text "target_software", .text "nginx"),
   (.text "for_web_service", .bool true), (.text "entry_point", .text "a.py"),
   (.text "version", .int 1), (.text "description", .text "d"), (.text "class_name", .text "A"),
   (.text "config", .mapping [(.text "k", .null)])]

/-- If all of these are left empty, the name and the version are read as texts. -/
theorem readsEmptied_all :
    ReadsEmptied optionalFields ⟨"/", ["a", "plugin.yml"]⟩
        (.mapping (leaveEmpty optionalFields fullEntries))
        (.mapping (leaveOut optionalFields fullEntries)) ∧
      [leaveEmpty optionalFields fullEntries, leaveOut optionalFields fullEntries].map
          (fun entries ↦ (ofValue ⟨"/", ["a", "plugin.yml"]⟩ (.mapping entries)).toOption.map
            fun m ↦ (m.definition.pluginId, m.definition.name, m.definition.version)) =
        [some ("a", "None", "None"), some ("a", "", "")] := by
  have hempty : (Value.mapping (leaveEmpty optionalFields fullEntries)).entries? = _ :=
    Value.entries?_mapping (by decide +kernel)
  have hout : (Value.mapping (leaveOut optionalFields fullEntries)).entries? = _ :=
    Value.entries?_mapping (by decide +kernel)
  exact ⟨readsEmptied (List.Subset.refl _) hempty hout (emptied_leaveEmpty _ _) _,
    by decide +kernel⟩

end PluginManifest
end VulnScanner
