import VulnScanner.Proofs.Plugin.Growth
import VulnScanner.Proofs.Plugin.Registration

/-!
# Registries in use

A registry from its beginning on, whatever is asked of it and in whatever order. The log of a use
holds each request with its answer; what a registry holds is what its log says was registered, in
that order, and nothing of it is ever lost, changed or moved. A frozen registry stays as it is.
-/

namespace VulnScanner.Registry

/-! ### Requests -/

/-- What can be asked of a registry. -/
inductive Request where
  | register (d : PluginDefinition) (factory : Factory)
  | freeze
  | get (pluginId : String)
  | byType (t : PluginType)
  | iterate
  | count
  /-- A call of the factory that is registered under an identifier. -/
  | build (pluginId : String)

/-- What is answered to a request. -/
inductive Answer where
  | done
  | entry (e : PluginDefinition × Factory)
  | entries (es : List (PluginDefinition × Factory))
  | count (n : Nat)
  | object (number : Nat)
  | refused (error : RegistryError)
  /-- The factory fails. -/
  | failed (fault : PluginFault)

/-- A registry with the session in which its factories are called. -/
structure Use where
  registry : Registry Factory := .empty
  session : Session := {}

/-- A request with its answer. -/
abbrev LogEntry := Request × Answer

namespace Use

/-- Registers a definition; a refusal changes nothing. -/
def register (u : Use) (d : PluginDefinition) (factory : Factory) : Answer × Use :=
  match u.registry.register d factory factory.isCallable with
  | .ok r => (.done, { u with registry := r })
  | .error error => (.refused error, u)

/-- The answer that a look-up gives. -/
def find (u : Use) (pluginId : String) : Answer :=
  match u.registry.get pluginId with
  | .ok e => .entry e
  | .error error => .refused error

/-- Calls the factory that is registered under an identifier. -/
def build (u : Use) (pluginId : String) : Answer × Use :=
  match u.registry.get pluginId with
  | .error error => (.refused error, u)
  | .ok (d, factory) =>
    match (factory.call d.pluginId).run.run u.session with
    | (.ok number, s) => (.object number, { u with session := s })
    | (.error fault, s) => (.failed fault, { u with session := s })

/-- Answers a request. -/
def ask (u : Use) : Request → Answer × Use
  | .register d factory => u.register d factory
  | .freeze => (.done, { u with registry := u.registry.freeze })
  | .get pluginId => (u.find pluginId, u)
  | .byType t => (.entries (u.registry.byType t), u)
  | .iterate => (.entries u.registry.entries, u)
  | .count => (.count u.registry.entries.length, u)
  | .build pluginId => u.build pluginId

/-- Answers requests one after the other and keeps a log. -/
def askAll (u : Use) : List Request → List LogEntry × Use
  | [] => ([], u)
  | request :: rest =>
    let (answer, u) := u.ask request
    let (log, u) := u.askAll rest
    ((request, answer) :: log, u)

end Use

/-- The entry that a request has added, if it was a registration and not refused. -/
def addedBy : LogEntry → Option (PluginDefinition × Factory)
  | (.register d factory, .done) => some (d, factory)
  | _ => none

/-- The registrations of a log, in the order in which they succeeded. -/
def registeredIn (log : List LogEntry) : List (PluginDefinition × Factory) := log.filterMap addedBy

/-! ### Single operations -/

section Operations

variable {F : Type} {r : Registry F} {d : PluginDefinition} {factory : F} {isCallable : Bool}
  {error : RegistryError} {pluginId : String} {e : PluginDefinition × F}

/-- A registration is refused because the registry is frozen; if it is not, because the identifier
is taken; and if that is free, because the factory cannot be called. -/
theorem register_eq_error_iff :
    r.register d factory isCallable = .error error ↔
      r.isFrozen = true ∧ error = .frozen ∨
      r.isFrozen = false ∧ d.pluginId ∈ r.ids ∧ error = .duplicate d.pluginId ∨
      r.isFrozen = false ∧ d.pluginId ∉ r.ids ∧ isCallable = false ∧
        error = .notCallable d.pluginId := by
  unfold register hasId
  cases r.isFrozen with
  | true => simp [eq_comm]
  | false =>
    by_cases hid : d.pluginId ∈ r.ids
    · simp [hid, eq_comm]
    · cases isCallable <;> simp [hid, eq_comm]

/-- A registration is accepted if the registry is not frozen, the identifier is new and the factory
can be called. -/
theorem exists_register_iff : (∃ r', r.register d factory isCallable = .ok r') ↔
    r.isFrozen = false ∧ d.pluginId ∉ r.ids ∧ isCallable = true := by
  simp only [register_eq_ok_iff, exists_and_left, exists_eq', and_true]

/-- A look-up gives the first entry with the identifier. -/
theorem get_eq_ok_iff : r.get pluginId = .ok e ↔
    r.entries.find? (·.1.pluginId == pluginId) = some e := by
  unfold get
  cases r.entries.find? (·.1.pluginId == pluginId) <;> simp

/-- A look-up succeeds exactly for the identifiers that are there. -/
theorem exists_get_iff : (∃ e, r.get pluginId = .ok e) ↔ pluginId ∈ r.ids := by
  simp only [get_eq_ok_iff, ← Option.isSome_iff_exists, List.find?_isSome, ids, List.mem_map,
    beq_iff_eq]

/-- A look-up fails exactly for the identifiers that are not there. -/
theorem get_eq_error_iff :
    r.get pluginId = .error error ↔ pluginId ∉ r.ids ∧ error = .unknown pluginId := by
  rw [← exists_get_iff, get]
  cases r.entries.find? (·.1.pluginId == pluginId) <;> simp [eq_comm]

/-- An entry is among those of its own category alone. -/
theorem mem_byType_iff {t : PluginType} : e ∈ r.byType t ↔ e ∈ r.entries ∧ e.1.pluginType = t := by
  rw [byType, List.mem_filter, beq_iff_eq]

/-- The entries of the categories, one category after the other, are all entries. -/
theorem flatMap_byType_perm (r : Registry F) :
    (PluginType.all.flatMap r.byType).Perm r.entries := by
  have hsplit : ∀ es : List (PluginDefinition × F),
      (PluginType.all.flatMap fun t ↦ es.filter (·.1.pluginType == t)).Perm es := by
    intro es
    induction es with
    | nil => exact .nil
    | cons e rest ih =>
      refine .trans ?_ (ih.cons e)
      -- the entry is moved to the front past the categories before its own
      cases ht : e.1.pluginType with
      | portScan => simp [PluginType.all, ht]
      | serviceFingerprint => simp [PluginType.all, ht, List.perm_middle]
      | vulnDetection =>
        simpa [PluginType.all, ht] using (List.perm_middle.append_left _).trans List.perm_middle
      | remoteVulnDetection =>
        simpa [PluginType.all, ht] using ((List.perm_middle.append_left _).append_left _).trans
          ((List.perm_middle.append_left _).trans List.perm_middle)
  exact hsplit r.entries

end Operations

/-! ### One request -/

namespace Use

variable {u : Use} {request : Request} {d : PluginDefinition} {factory : Factory}
  {error : RegistryError}

/-- A registration that is accepted gives the registry with the new entry. -/
theorem register_of_ok {r : Registry Factory}
    (h : u.registry.register d factory factory.isCallable = .ok r) :
    u.register d factory = (.done, { u with registry := r }) := by
  rw [register, h]

/-- A registration that is refused leaves everything as it is. -/
theorem register_of_error (h : u.registry.register d factory factory.isCallable = .error error) :
    u.register d factory = (.refused error, u) := by
  rw [register, h]

/-- Building calls the factory once if there is one, and otherwise leaves everything as it is. -/
theorem build_effect (u : Use) (pluginId : String) :
    (u.build pluginId).2.registry = u.registry ∧
      (u.build pluginId).2.session.calls =
        u.session.calls ++ (if pluginId ∈ u.registry.ids then [pluginId] else []) := by
  unfold build
  cases h : u.registry.get pluginId with
  | error error => simp [(get_eq_error_iff.mp h).1]
  | ok e =>
    obtain ⟨d, factory⟩ := e
    have hid : d.pluginId = pluginId := by
      simpa using List.find?_some (get_eq_ok_iff.mp h)
    rw [if_pos (exists_get_iff.mp ⟨_, h⟩), ← hid]
    have hcalls : ((factory.call d.pluginId).run.run u.session).2.calls =
        u.session.calls ++ [d.pluginId] := by
      rw [PluginDefinition.run_call]
      split
      · rfl
      · split <;> rfl
    dsimp only
    split
    next hrun => exact ⟨rfl, by rw [← hcalls, hrun]⟩
    next hrun => exact ⟨rfl, by rw [← hcalls, hrun]⟩

/-- A request adds the entry that it has registered at the end, and nothing else. -/
theorem entries_ask (u : Use) (request : Request) :
    (u.ask request).2.registry.entries =
      u.registry.entries ++ (addedBy (request, (u.ask request).1)).toList := by
  cases request with
  | register d factory =>
    cases h : u.registry.register d factory factory.isCallable with
    | ok r =>
      obtain ⟨-, -, -, rfl⟩ := register_eq_ok_iff.mp h
      rw [ask, register_of_ok h]
      rfl
    | error error =>
      rw [ask, register_of_error h]
      exact (List.append_nil _).symm
  | build pluginId =>
    rw [ask, (u.build_effect pluginId).1]
    simp [addedBy]
  | _ => simp [ask, addedBy, freeze]

/-- Only freezing freezes. -/
theorem isFrozen_ask (u : Use) (request : Request) :
    (u.ask request).2.registry.isFrozen = true ↔
      u.registry.isFrozen = true ∨ .freeze = request := by
  cases request with
  | register d factory =>
    cases h : u.registry.register d factory factory.isCallable with
    | ok r =>
      obtain ⟨-, -, -, rfl⟩ := register_eq_ok_iff.mp h
      simp [ask, register_of_ok h]
    | error error => simp [ask, register_of_error h]
  | build pluginId => simp [ask, (u.build_effect pluginId).1]
  | _ => simp [ask, freeze]

/-- No request changes a frozen registry. -/
theorem registry_ask_of_isFrozen (h : u.registry.isFrozen = true) :
    (u.ask request).2.registry = u.registry := by
  cases request with
  | register d factory =>
    rw [ask, register_of_error (register_eq_error_iff.mpr (.inl ⟨h, rfl⟩))]
  | freeze => rw [ask, freeze, ← h]
  | build pluginId => exact (u.build_effect pluginId).1
  | _ => rfl

/-- No request lets an identifier stand twice. -/
theorem nodup_ids_ask (h : u.registry.ids.Nodup) : (u.ask request).2.registry.ids.Nodup := by
  rw [ids, entries_ask, List.map_append, List.nodup_append_comm]
  cases request with
  | register d factory =>
    cases hr : u.registry.register d factory factory.isCallable with
    | ok r =>
      rw [ask, register_of_ok hr]
      exact List.nodup_cons.mpr ⟨(register_eq_ok_iff.mp hr).2.1, h⟩
    | error error =>
      rw [ask, register_of_error hr]
      exact h
  | _ => exact h

/-! ### All requests -/

/-- The use of an empty registry for some requests. -/
def after (requests : List Request) : Use := (({} : Use).askAll requests).2

/-- The log of the use of an empty registry. -/
def log (requests : List Request) : List LogEntry := (({} : Use).askAll requests).1

/-- What is asked first is answered first. -/
theorem askAll_append (u : Use) (first rest : List Request) :
    u.askAll (first ++ rest) =
      ((u.askAll first).1 ++ ((u.askAll first).2.askAll rest).1,
        ((u.askAll first).2.askAll rest).2) := by
  induction first generalizing u with
  | nil => rfl
  | cons request first ih => simp only [List.cons_append, askAll, ih]

/-- A registry holds what it held and what its log says was registered. -/
theorem entries_askAll (u : Use) (requests : List Request) :
    (u.askAll requests).2.registry.entries =
      u.registry.entries ++ registeredIn (u.askAll requests).1 := by
  induction requests generalizing u with
  | nil => simp [askAll, registeredIn]
  | cons request rest ih =>
    simp only [askAll, ih, entries_ask, registeredIn, List.append_assoc]
    cases hadded : addedBy (request, (u.ask request).1) <;> simp [hadded]

/-- A registry is frozen exactly if it was or freezing is among the requests. -/
theorem isFrozen_askAll (u : Use) (requests : List Request) :
    (u.askAll requests).2.registry.isFrozen = true ↔
      u.registry.isFrozen = true ∨ .freeze ∈ requests := by
  induction requests generalizing u with
  | nil => simp [askAll]
  | cons request rest ih => simp only [askAll, ih, isFrozen_ask, List.mem_cons, or_assoc]

/-- No requests change a frozen registry. -/
theorem registry_askAll_of_isFrozen (requests : List Request) (h : u.registry.isFrozen = true) :
    (u.askAll requests).2.registry = u.registry := by
  induction requests generalizing u with
  | nil => rfl
  | cons request rest ih =>
    have hsame : (u.ask request).2.registry = u.registry := registry_ask_of_isFrozen h
    rw [askAll, ih (hsame ▸ h), hsame]

/-- No requests let an identifier stand twice. -/
theorem nodup_ids_askAll (requests : List Request) (h : u.registry.ids.Nodup) :
    (u.askAll requests).2.registry.ids.Nodup := by
  induction requests generalizing u with
  | nil => exact h
  | cons request rest ih => exact ih (nodup_ids_ask h)

/-- What holds of the use of an empty registry for some requests. -/
structure Chronicle (requests : List Request) : Prop where
  /-- The entries are the registrations that succeeded, in their order. -/
  entries_eq : (after requests).registry.entries = registeredIn (log requests)
  nodup_ids : (after requests).registry.ids.Nodup
  /-- Whatever else is asked, each entry stays in its place. -/
  prefix_entries : ∀ more,
    (after requests).registry.entries <+: (after (requests ++ more)).registry.entries
  isFrozen_iff : (after requests).registry.isFrozen = true ↔ .freeze ∈ requests
  /-- Behind the first freezing nothing changes the registry any more. -/
  registry_eq : .freeze ∈ requests → ∀ more,
    (after (requests ++ more)).registry = (after requests).registry
  /-- A registration is accepted if the registry is open, the identifier is new and the factory
  can be called. -/
  register_done_iff : ∀ d factory, ((after requests).ask (.register d factory)).1 = .done ↔
    .freeze ∉ requests ∧ d.pluginId ∉ (after requests).registry.ids ∧ factory.isCallable = true
  /-- Otherwise it is refused for the first of these that fails, and nothing changes. -/
  register_refused_iff : ∀ d factory error,
    (after requests).ask (.register d factory) = (.refused error, after requests) ↔
      .freeze ∈ requests ∧ error = .frozen ∨
      .freeze ∉ requests ∧ d.pluginId ∈ (after requests).registry.ids ∧
        error = .duplicate d.pluginId ∨
      .freeze ∉ requests ∧ d.pluginId ∉ (after requests).registry.ids ∧
        factory.isCallable = false ∧ error = .notCallable d.pluginId
  /-- A look-up gives what was registered first under the identifier. -/
  get_iff : ∀ pluginId e, (after requests).ask (.get pluginId) = (.entry e, after requests) ↔
    (registeredIn (log requests)).find? (·.1.pluginId == pluginId) = some e
  /-- It fails exactly for the identifiers that are not there. -/
  get_refused_iff : ∀ pluginId error,
    (after requests).ask (.get pluginId) = (.refused error, after requests) ↔
      pluginId ∉ (after requests).registry.ids ∧ error = .unknown pluginId
  /-- The categories are parts of the list of entries, in its order. -/
  byType : ∀ t, ∃ es, (after requests).ask (.byType t) = (.entries es, after requests) ∧
    es.Sublist (after requests).registry.entries ∧
      ∀ e, e ∈ es ↔ e ∈ (after requests).registry.entries ∧ e.1.pluginType = t
  /-- Together they are all of it. -/
  byType_perm :
    (PluginType.all.flatMap (after requests).registry.byType).Perm (after requests).registry.entries
  iterate_eq : (after requests).ask .iterate =
    (.entries (registeredIn (log requests)), after requests)
  count_eq : (after requests).ask .count =
    (.count (registeredIn (log requests)).length, after requests)
  /-- Only building does anything in the session. -/
  session_eq : ∀ request, (∀ pluginId, request ≠ .build pluginId) →
    ((after requests).ask request).2.session = (after requests).session
  /-- Building calls the factory once if there is one. -/
  calls_eq : ∀ pluginId, ((after requests).ask (.build pluginId)).2.session.calls =
    (after requests).session.calls ++
      if pluginId ∈ (after requests).registry.ids then [pluginId] else []

private theorem after_append (requests more : List Request) :
    after (requests ++ more) = ((after requests).askAll more).2 := by
  rw [after, askAll_append]
  rfl

private theorem entries_after (requests : List Request) :
    (after requests).registry.entries = registeredIn (log requests) :=
  entries_askAll {} requests

private theorem isFrozen_after (requests : List Request) :
    (after requests).registry.isFrozen = true ↔ .freeze ∈ requests := by
  rw [after, isFrozen_askAll]
  simp [empty]

/-- What a registry does is told by its log, whatever is asked of it and in whatever order: it lists
what was registered, in that order and under different identifiers, and keeps it in its place; once
frozen it stays as it is; registrations are refused for the reasons given and change nothing then;
look-ups give what was registered first; the categories divide what it lists; and factories are
called for building alone. -/
theorem chronicle (requests : List Request) : Chronicle requests where
  entries_eq := entries_after requests
  nodup_ids := nodup_ids_askAll requests List.nodup_nil
  prefix_entries more := by
    rw [after_append, entries_askAll]
    exact List.prefix_append _ _
  isFrozen_iff := isFrozen_after requests
  registry_eq hfreeze more := by
    rw [after_append]
    exact registry_askAll_of_isFrozen more ((isFrozen_after requests).mpr hfreeze)
  register_done_iff d factory := by
    rw [← isFrozen_after, Bool.not_eq_true, ← exists_register_iff, ask]
    cases h : (after requests).registry.register d factory factory.isCallable with
    | ok r => simp [register_of_ok h]
    | error error => simp [register_of_error h]
  register_refused_iff d factory error := by
    rw [← isFrozen_after, Bool.not_eq_true, ← register_eq_error_iff, ask]
    cases h : (after requests).registry.register d factory factory.isCallable with
    | ok r => simp [register_of_ok h]
    | error error => simp [register_of_error h]
  get_iff pluginId e := by
    rw [← entries_after, ← get_eq_ok_iff, ask, find]
    cases (after requests).registry.get pluginId <;> simp
  get_refused_iff pluginId error := by
    rw [← get_eq_error_iff, ask, find]
    cases (after requests).registry.get pluginId <;> simp
  byType t := ⟨_, rfl, List.filter_sublist, fun _ ↦ mem_byType_iff⟩
  byType_perm := flatMap_byType_perm _
  iterate_eq := by rw [ask, entries_after]
  count_eq := by rw [ask, entries_after]
  session_eq request hbuild := by
    cases request with
    | register d factory =>
      cases h : (after requests).registry.register d factory factory.isCallable with
      | ok r => rw [ask, register_of_ok h]
      | error error => rw [ask, register_of_error h]
    | build pluginId => exact absurd rfl (hbuild pluginId)
    | _ => rfl
  calls_eq pluginId := ((after requests).build_effect pluginId).2

end Use

end VulnScanner.Registry
