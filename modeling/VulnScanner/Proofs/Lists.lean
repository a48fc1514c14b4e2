import Mathlib.Data.List.Forall2

/-!
# Lists of entries and of results

In a list of entries in which no key stands twice, each entry is found under its key. Where two
lists are related member by member, what is known of the members is known of the lists.
-/

namespace VulnScanner

variable {κ β : Type} [BEq κ] [LawfulBEq κ] {entries more : List (κ × β)} {key : κ} {b : β}

/-- An entry is looked up under its key if no key stands twice. -/
theorem lookup_eq_some_iff_mem (h : (entries.map Prod.fst).Nodup) :
    entries.lookup key = some b ↔ (key, b) ∈ entries := by
  induction entries with
  | nil => simp
  | cons e rest ih =>
    obtain ⟨k, c⟩ := e
    rw [List.map_cons, List.nodup_cons] at h
    rw [List.lookup_cons, List.mem_cons, Prod.mk.injEq]
    by_cases he : key = k
    · subst he
      have hrest : (key, b) ∉ rest := fun hm ↦ h.1 (List.mem_map.mpr ⟨_, hm, rfl⟩)
      simp [hrest, eq_comm]
    · simp [he, beq_eq_false_iff_ne.mpr he, ih h.2]

/-- Entries behind that of a key do not change what is found. -/
theorem lookup_append_of_mem (h : key ∈ entries.map Prod.fst) :
    (entries ++ more).lookup key = entries.lookup key := by
  induction entries with
  | nil => cases h
  | cons e rest ih =>
    obtain ⟨k, c⟩ := e
    rw [List.cons_append, List.lookup_cons, List.lookup_cons]
    by_cases he : key = k
    · simp [he]
    · rw [List.map_cons, List.mem_cons] at h
      rw [ih (h.resolve_left he)]

/-- What is left when repetitions are erased stands there once. -/
theorem nodup_eraseDups {α : Type} [BEq α] [LawfulBEq α] (as : List α) : as.eraseDups.Nodup := by
  match as with
  | [] => exact .nil
  | a :: rest =>
    rw [List.eraseDups_cons, List.nodup_cons]
    exact ⟨by simp, nodup_eraseDups _⟩
termination_by as.length
decreasing_by exact Nat.lt_succ_of_le (List.length_filter_le ..)

section Forall₂

variable {α γ : Type} {R : α → β → Prop} {as : List α}

/-- Each member of the first list is related to one of the second. -/
theorem exists_of_mem_of_forall₂ {bs : List β} (h : List.Forall₂ R as bs) {a : α} (ha : a ∈ as) :
    ∃ b ∈ bs, R a b := by
  induction h with
  | nil => cases ha
  | cons hab _ ih =>
    rcases List.mem_cons.mp ha with rfl | ha
    · exact ⟨_, List.mem_cons_self, hab⟩
    · obtain ⟨b, hb, hr⟩ := ih ha
      exact ⟨b, List.mem_cons_of_mem _ hb, hr⟩

/-- Lists of one length are related member by member if they are at each position. -/
theorem forall₂_iff_getElem? {bs : List β} : List.Forall₂ R as bs ↔
    as.length = bs.length ∧ ∀ (i : Nat) a b, as[i]? = some a → bs[i]? = some b → R a b := by
  rw [List.forall₂_iff_get]
  refine and_congr_right fun _ ↦ ⟨fun h i a b ha hb ↦ ?_, fun h i hi hj ↦ ?_⟩
  · obtain ⟨hi, rfl⟩ := List.getElem?_eq_some_iff.mp ha
    obtain ⟨hj, rfl⟩ := List.getElem?_eq_some_iff.mp hb
    exact h i hi hj
  · exact h i _ _ (List.getElem?_eq_getElem hi) (List.getElem?_eq_getElem hj)

/-- Two relations that agree on the members of the first list relate it to the same lists. -/
theorem forall₂_congr_of_mem {S : α → β → Prop} (h : ∀ a ∈ as, ∀ b, R a b ↔ S a b) {bs : List β} :
    List.Forall₂ R as bs ↔ List.Forall₂ S as bs := by
  induction as generalizing bs with
  | nil => rw [List.forall₂_nil_left_iff, List.forall₂_nil_left_iff]
  | cons a rest ih =>
    rw [List.forall_mem_cons] at h
    simp only [List.forall₂_cons_left_iff, h.1, ih h.2]

/-- What is known of all results is known of those that are left when empty ones are passed over. -/
theorem map_filterMap_of_forall₂ {os : List (Option β)} {g : β → γ} {k : α → Option γ}
    (h : List.Forall₂ (fun a o ↦ o.map g = k a) as os) :
    (os.filterMap id).map g = as.filterMap k := by
  induction h with
  | nil => rfl
  | @cons a o _ _ ho _ ih =>
    cases o with
    | none => simpa [← ho] using ih
    | some b => simpa [← ho] using ih

/-- Results that are not empty stand in the order of the members that they are of. -/
theorem sublist_of_forall₂ {os : List (Option β)} {g : β → γ} {k : α → γ}
    (h : List.Forall₂ (fun a o ↦ ∀ b ∈ o, g b = k a) as os) :
    ((os.filterMap id).map g).Sublist (as.map k) := by
  induction h with
  | nil => exact .slnil
  | @cons a o _ _ ho _ ih =>
    cases o with
    | none => exact ih.cons _
    | some b =>
      rw [List.map_cons, ← ho b rfl]
      exact ih.cons_cons _

/-- Where each result has a counterpart, the results that are not empty have theirs in the same
order. -/
theorem sublistForall₂_filterMap {P P' : α → Option β → Prop} {R : β → β → Prop}
    {os os' : List (Option β)} (h : List.Forall₂ P as os) (h' : List.Forall₂ P' as os')
    (hstep : ∀ a ∈ as, ∀ o o', P a o → P' a o' → ∀ b' ∈ o', ∃ b ∈ o, R b' b) :
    List.SublistForall₂ R (os'.filterMap id) (os.filterMap id) := by
  induction h generalizing os' with
  | nil =>
    cases h'
    exact .nil
  | @cons a o as os ho _ ih =>
    obtain _ | @⟨_, o', _, _, ho', h'⟩ := h'
    rw [List.forall_mem_cons] at hstep
    have hrest := ih h' hstep.2
    have hfirst := hstep.1 o o' ho ho'
    cases o' with
    | none =>
      cases o with
      | none => exact hrest
      | some b => exact .cons_right hrest
    | some b' =>
      obtain ⟨b, rfl, hb⟩ := hfirst b' rfl
      exact .cons hb hrest

/-- Members at one position are related, or there are none. -/
theorem rel_getElem? {bs : List β} (h : List.Forall₂ R as bs) (i : Nat) :
    Option.Rel R as[i]? bs[i]? := by
  induction h generalizing i with
  | nil => exact .none
  | cons hab _ ih =>
    cases i with
    | zero => exact .some hab
    | succ i => exact ih i

/-- Changing the members at one position so that they stay related leaves the lists related. -/
theorem forall₂_modify {bs : List β} {f : α → α} {g : β → β} (h : List.Forall₂ R as bs) (i : Nat)
    (hfg : ∀ a b, R a b → R (f a) (g b)) : List.Forall₂ R (as.modify i f) (bs.modify i g) := by
  induction h generalizing i with
  | nil =>
    rw [List.modify_nil, List.modify_nil]
    exact .nil
  | cons hab hrest ih =>
    cases i with
    | zero => exact .cons (hfg _ _ hab) hrest
    | succ i => exact .cons hab (ih i)

/-- Where tests agree on related members, the first members that pass are related. -/
theorem rel_find? {bs : List β} {p : α → Bool} {q : β → Bool} (h : List.Forall₂ R as bs)
    (hpq : ∀ a b, R a b → p a = q b) : Option.Rel R (as.find? p) (bs.find? q) := by
  induction h with
  | nil => exact .none
  | @cons a b _ _ hab _ ih =>
    rw [List.find?_cons, List.find?_cons, hpq a b hab]
    cases q b with
    | true => exact .some hab
    | false => exact ih

end Forall₂

end VulnScanner
