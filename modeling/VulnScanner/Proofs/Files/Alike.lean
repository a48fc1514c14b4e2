import VulnScanner.Proofs.Files.Named

/-!
# File trees that differ in files of other names

Two trees may hold different files in the same directories, as long as what has a certain name is
the same in both. The entries with that name are then found at the same paths, and a look-up of any
of them finds the same.
-/

namespace VulnScanner

namespace Tree

variable {F : Type} {t u : Tree F} {place inside names start : List String} {above : Nat}
  {name : String} {directory path : Path} {found : Option (List String)}

/-- What stands behind something decides how it ends. -/
private theorem getLast?_append_of_eq_some {before : List String}
    (h : names.getLast? = some name) : (before ++ names).getLast? = some name := by
  rw [List.getLast?_append, h, Option.some_or]

/-- Nothing is found where there is no directory. -/
private theorem named_of_no_directory
    (h : ¬ ∃ start, t.find directory = .directory (some start)) : t.named name directory = [] := by
  unfold named
  split
  next start hstart => exact absurd ⟨start, hstart⟩ h
  next => rfl

/-- From a directory a name leads further down, or upwards. -/
private theorem follow_cons_of_directory (h : t.entry? inside.reverse = some .directory)
    (first : String) : t.follow inside 0 (first :: names) =
      if first = ".." then t.follow inside.tail (if inside.isEmpty then 1 else 0) names
      else if first.utf8ByteSize > nameLimit then .tooLong
      else t.follow (first :: inside) 0 names := by
  rw [follow_cons, if_neg (Nat.lt_irrefl 0), h]

/-- From a place that is no directory nothing is reached. -/
private theorem follow_cons_of_no_directory (h : t.entry? inside.reverse ≠ some .directory)
    (first : String) : t.follow inside 0 (first :: names) = .missing := by
  rw [follow_cons, if_neg (Nat.lt_irrefl 0)]
  split
  next hentry => exact absurd hentry h
  next => rfl

/-- Holds when two trees have the same base and differ at most in files that have another name. -/
structure AgreesAt (name : String) (u t : Tree F) : Prop where
  base_eq : u.base = t.base
  entries_alike : ∀ place : List String, u.entry? place = t.entry? place ∨
    place.getLast? ≠ some name ∧ u.entry? place ≠ some .directory ∧ t.entry? place ≠ some .directory

namespace AgreesAt

theorem symm (h : u.AgreesAt name t) : t.AgreesAt name u where
  base_eq := h.base_eq.symm
  entries_alike place := (h.entries_alike place).imp .symm fun ⟨hlast, hu, ht⟩ ↦ ⟨hlast, ht, hu⟩

/-- What has the name is the same. -/
theorem entry?_eq (h : u.AgreesAt name t) (hlast : place.getLast? = some name) :
    u.entry? place = t.entry? place :=
  (h.entries_alike place).resolve_right fun hother ↦ hother.1 hlast

/-- The directories are the same. -/
theorem entry?_eq_directory_iff (h : u.AgreesAt name t) :
    u.entry? place = some .directory ↔ t.entry? place = some .directory := by
  rcases h.entries_alike place with heq | ⟨-, hu, ht⟩
  · rw [heq]
  · exact iff_of_false hu ht

/-- A look-up finds the same if it does after one step, upwards and down. -/
private theorem follow_cons_eq (h : u.AgreesAt name t) {first : String}
    (hup : first = ".." → ∀ inside above, u.follow inside above names = t.follow inside above names)
    (hdown : u.follow (first :: inside) 0 names = t.follow (first :: inside) 0 names) :
    u.follow inside above (first :: names) = t.follow inside above (first :: names) := by
  cases above with
  | succ n =>
    rw [follow_cons, follow_cons, if_pos n.succ_pos, if_pos n.succ_pos]
    split_ifs with hfirst
    · exact hup hfirst ..
    · rfl
  | zero =>
    by_cases hentry : t.entry? inside.reverse = some .directory
    · rw [follow_cons_of_directory hentry,
        follow_cons_of_directory (h.entry?_eq_directory_iff.mpr hentry)]
      split_ifs with hfirst
      · exact hup hfirst ..
      · exact hup hfirst ..
      · rfl
      · exact hdown
    · rw [follow_cons_of_no_directory hentry,
        follow_cons_of_no_directory (h.entry?_eq_directory_iff.not.mpr hentry)]

/-- Names that end with the name lead to the same. -/
theorem follow_eq (h : u.AgreesAt name t) (hname : name ≠ "..")
    (hlast : names.getLast? = some name) :
    u.follow inside above names = t.follow inside above names := by
  induction names generalizing inside above with
  | nil => cases hlast
  | cons first rest ih =>
    cases rest with
    | nil =>
      have hfirst : first = name := by simpa using hlast
      apply h.follow_cons_eq
      · exact fun hup ↦ absurd (hfirst.symm.trans hup) hname
      · have hentry : u.entry? (first :: inside).reverse = t.entry? (first :: inside).reverse :=
          h.entry?_eq (by simp [hfirst])
        rw [follow, follow, hentry]
    | cons second rest =>
      rw [List.getLast?_cons_cons] at hlast
      exact h.follow_cons_eq (fun _ _ _ ↦ ih hlast) (ih hlast)

/-- A look-up that leads to a directory does so in both trees. -/
private theorem follow_of_directory (h : u.AgreesAt name t)
    (hfound : t.follow inside above names = .directory found) :
    u.follow inside above names = .directory found := by
  induction names generalizing inside above with
  | nil =>
    rw [follow] at hfound ⊢
    split_ifs at hfound ⊢
    · exact hfound
    split at hfound
    · cases hfound
    next hentry =>
      rw [h.entry?_eq_directory_iff.mpr hentry]
      exact hfound
    · cases hfound
  | cons first rest ih =>
    cases above with
    | succ n =>
      rw [follow_cons, if_pos n.succ_pos] at hfound ⊢
      split_ifs at hfound ⊢
      exact ih hfound
    | zero =>
      by_cases hentry : t.entry? inside.reverse = some .directory
      · rw [follow_cons_of_directory hentry] at hfound
        rw [follow_cons_of_directory (h.entry?_eq_directory_iff.mpr hentry)]
        split_ifs at hfound ⊢
        · exact ih hfound
        · exact ih hfound
        · exact ih hfound
      · rw [follow_cons_of_no_directory hentry] at hfound
        cases hfound

/-- The same paths lead to directories. -/
theorem find_eq_directory_iff (h : u.AgreesAt name t) :
    u.find path = .directory found ↔ t.find path = .directory found := by
  unfold find
  rw [h.base_eq]
  split_ifs
  · exact ⟨h.symm.follow_of_directory, h.follow_of_directory⟩
  · exact Iff.rfl
  · exact Iff.rfl

/-- A path below a directory that ends with the name leads to the same. -/
theorem find_eq (h : u.AgreesAt name t) (hname : name ≠ "..")
    (hdirectory : t.find directory = .directory (some start)) (hlast : names.getLast? = some name) :
    u.find ⟨directory.anchor, directory.names ++ names⟩ =
      t.find ⟨directory.anchor, directory.names ++ names⟩ := by
  unfold find at hdirectory ⊢
  rw [h.base_eq]
  split at hdirectory
  next hbelow =>
    simp only [Bool.and_eq_true, decide_eq_true_eq, List.isPrefixOf_iff_prefix] at hbelow
    rw [List.drop_append_of_le_length hbelow.2.length_le,
      h.follow_eq hname (getLast?_append_of_eq_some hlast)]
  next => split at hdirectory <;> cases hdirectory

private theorem named_eq_of_directory (h : u.AgreesAt name t)
    (hdirectory : t.find directory = .directory (some start)) :
    u.named name directory = t.named name directory := by
  have hother : u.find directory = .directory (some start) := h.find_eq_directory_iff.mpr hdirectory
  have hstrict : (t.named name directory).Pairwise fun p q ↦ List.lt p.names q.names :=
    pairwise_named hdirectory
  have hstrict' : (u.named name directory).Pairwise fun p q ↦ List.lt p.names q.names :=
    pairwise_named hother
  have hne : ∀ p q : Path, List.lt p.names q.names → p ≠ q := by
    rintro p _ hlt rfl
    exact List.lt_irrefl _ hlt
  have hperm : (u.named name directory).Perm (t.named name directory) := by
    refine (List.perm_ext_iff_of_nodup (hstrict'.imp (hne _ _)) (hstrict.imp (hne _ _))).mpr ?_
    intro p
    rw [mem_named_iff hother, mem_named_iff hdirectory]
    refine exists_congr fun rest ↦ and_congr_right fun hlast ↦ ?_
    rw [h.entry?_eq (getLast?_append_of_eq_some hlast)]
  exact hperm.eq_of_pairwise (fun p q _ _ hlt hgt ↦ absurd hgt (List.lt_asymm hlt)) hstrict' hstrict

/-- The entries with the name are found at the same paths. -/
theorem named_eq (h : u.AgreesAt name t) : u.named name directory = t.named name directory := by
  by_cases hdirectory : ∃ start, t.find directory = .directory (some start)
  · obtain ⟨start, hdirectory⟩ := hdirectory
    exact h.named_eq_of_directory hdirectory
  · have hother : ¬ ∃ start, u.find directory = .directory (some start) := by
      simpa only [h.find_eq_directory_iff] using hdirectory
    rw [named_of_no_directory hother, named_of_no_directory hdirectory]

/-- What is found at these paths is the same. -/
theorem find_of_mem_named (h : u.AgreesAt name t) (hname : name ≠ "..")
    (hpath : path ∈ t.named name directory) : u.find path = t.find path := by
  by_cases hdirectory : ∃ start, t.find directory = .directory (some start)
  · obtain ⟨start, hdirectory⟩ := hdirectory
    obtain ⟨rest, hlast, -, rfl⟩ := (mem_named_iff hdirectory).mp hpath
    exact h.find_eq hname hdirectory hlast
  · rw [named_of_no_directory hdirectory] at hpath
    cases hpath

end AgreesAt
end Tree
end VulnScanner
