import Mathlib.Data.List.Nodup
import VulnScanner.Files.Tree
import VulnScanner.Proofs.Lists

/-!
# Names in a file tree

A tree is sound if it could be on a disk: every place is listed once, no name is too long or leads
upwards, and nothing lies below a file. In a sound tree everything with a name below a directory is
found where it lies, in the order of the names on the way, and it does not matter in which order
the tree is listed.
-/

namespace VulnScanner

/-! ### Order of paths -/

namespace Path

variable {p q : Path} {paths others : List Path} {anchor : String}

/-- The order of paths is that of their names. -/
@[simp] theorem le_eq_true_iff : p.le q = true ↔ List.le p.names q.names :=
  decide_eq_true_iff

/-- Sorted paths ascend. -/
theorem pairwise_mergeSort (paths : List Path) :
    (paths.mergeSort le).Pairwise fun p q ↦ List.le p.names q.names := by
  have htrans : ∀ p q r : Path, p.le q = true → q.le r = true → p.le r = true := by
    simp only [le_eq_true_iff]
    exact fun _ _ _ ↦ List.le_trans
  have htotal : ∀ p q : Path, (p.le q || q.le p) = true := by
    simp only [Bool.or_eq_true, le_eq_true_iff]
    exact fun p q ↦ List.le_total p.names q.names
  exact (List.pairwise_mergeSort htrans htotal paths).imp le_eq_true_iff.mp

/-- Paths from one anchor are sorted alike in whatever order they come. -/
theorem mergeSort_eq_of_perm (h : paths.Perm others) (hanchor : ∀ p ∈ paths, p.anchor = anchor) :
    paths.mergeSort le = others.mergeSort le := by
  have hperm : (paths.mergeSort le).Perm (others.mergeSort le) :=
    (List.mergeSort_perm paths le).trans (h.trans (List.mergeSort_perm others le).symm)
  apply hperm.eq_of_pairwise _ (pairwise_mergeSort paths) (pairwise_mergeSort others)
  intro p q hp hq hpq hqp
  have hsame : p.anchor = q.anchor := by
    rw [hanchor p (List.mem_mergeSort.mp hp), hanchor q (h.mem_iff.mpr (List.mem_mergeSort.mp hq))]
  cases p
  cases q
  exact congrArg₂ Path.mk hsame (List.le_antisymm hpq hqp)

end Path

/-! ### Sound trees -/

/-- Whether an entry is a file. -/
def TreeEntry.isFile {F : Type} : TreeEntry F → Bool
  | .directory => false
  | .file _ => true

/-- What a look-up finds at the place of an entry. -/
def TreeEntry.found {F : Type} (place : List String) : TreeEntry F → Finding F
  | .directory => .directory (some place)
  | .file content => .file content

namespace Tree

variable {F : Type} {t u : Tree F} {place start rest names inside : List String} {above : Nat}
  {entry : TreeEntry F} {directory p : Path} {name : String}

/-- A tree as it can be on a disk. -/
structure IsSound (t : Tree F) : Prop where
  /-- Every place is listed once. -/
  once : (t.entries.map Prod.fst).Nodup
  /-- The names are names of entries. -/
  plain : ∀ e ∈ t.entries, ∀ name ∈ e.1, name ≠ ".." ∧ name.utf8ByteSize ≤ nameLimit
  /-- Nothing lies below a file. -/
  leaves : ∀ e ∈ t.entries, e.2.isFile → ∀ e' ∈ t.entries, e.1 <+: e'.1 → e'.1 = e.1

/-- The order in which a tree is listed does not matter for its soundness. -/
theorem IsSound.of_perm (h : t.IsSound) (hperm : u.entries.Perm t.entries) : u.IsSound where
  once := (hperm.map Prod.fst).nodup_iff.mpr h.once
  plain e he := h.plain e (hperm.mem_iff.mp he)
  leaves e he hfile e' he' := h.leaves e (hperm.mem_iff.mp he) hfile e' (hperm.mem_iff.mp he')

/-! ### Entries -/

private theorem entry?_of_mem (hmem : place ∈ t.entries.map Prod.fst) :
    ∃ entry, t.entry? place = some entry ∧ (place, entry) ∈ t.entries := by
  unfold entry?
  split
  next other entry hfind =>
    have hother : other = place := by simpa using List.find?_some hfind
    have hlisted := List.mem_reverse.mp (List.mem_of_find?_eq_some hfind)
    exact ⟨entry, rfl, hother ▸ hlisted⟩
  next hfind =>
    obtain ⟨e, he, rfl⟩ := List.mem_map.mp hmem
    simpa using List.find?_eq_none.mp hfind e (List.mem_reverse.mpr he)

private theorem entry?_of_not_mem (hmem : place ∉ t.entries.map Prod.fst) :
    t.entry? place =
      if place.isEmpty || t.entries.any (place.isPrefixOf ·.1) then some .directory else none := by
  unfold entry?
  split
  next other entry hfind =>
    have hother : other = place := by simpa using List.find?_some hfind
    have hlisted := List.mem_reverse.mp (List.mem_of_find?_eq_some hfind)
    exact absurd (hother ▸ List.mem_map_of_mem hlisted) hmem
  next => rfl

private theorem onWay_iff : (place.isEmpty || t.entries.any (place.isPrefixOf ·.1)) = true ↔
    place = [] ∨ ∃ e ∈ t.entries, place <+: e.1 := by
  simp only [Bool.or_eq_true, List.isEmpty_iff, List.any_eq_true, List.isPrefixOf_iff_prefix]

/-- There is something at the base and on the way to everything that is listed. -/
theorem isSome_entry?_iff :
    (t.entry? place).isSome ↔ place = [] ∨ ∃ e ∈ t.entries, place <+: e.1 := by
  by_cases hmem : place ∈ t.entries.map Prod.fst
  · obtain ⟨entry, hentry, hlisted⟩ := entry?_of_mem hmem
    rw [hentry]
    exact ⟨fun _ ↦ .inr ⟨_, hlisted, List.prefix_rfl⟩, fun _ ↦ rfl⟩
  · rw [entry?_of_not_mem hmem, ← onWay_iff]
    split
    next hway => exact iff_of_true rfl hway
    next hway => exact iff_of_false (by simp) hway

/-- In a sound tree an entry is listed, or it is a directory on the way to something listed. -/
theorem entry?_eq_some_iff (h : t.IsSound) :
    t.entry? place = some entry ↔ (place, entry) ∈ t.entries ∨
      place ∉ t.entries.map Prod.fst ∧ entry = .directory ∧
        (place = [] ∨ ∃ e ∈ t.entries, place <+: e.1) := by
  by_cases hmem : place ∈ t.entries.map Prod.fst
  · obtain ⟨found, hfound, hlisted⟩ := entry?_of_mem hmem
    rw [hfound]
    constructor
    · intro hentry
      cases hentry
      exact .inl hlisted
    · rintro (hentry | ⟨hnot, -⟩)
      · have hsame := List.inj_on_of_nodup_map h.once hlisted hentry rfl
        exact congrArg (some ·.2) hsame
      · exact absurd hmem hnot
  · have hlisted : (place, entry) ∉ t.entries := fun he ↦ hmem (List.mem_map_of_mem he)
    rw [entry?_of_not_mem hmem, or_iff_right hlisted, and_iff_right hmem, ← onWay_iff]
    split
    next hway => rw [and_iff_left hway, Option.some.injEq, eq_comm]
    next hway => exact ⟨nofun, fun hentry ↦ absurd hentry.2 hway⟩

/-- The way to an entry of a sound tree is a directory. -/
theorem entry?_of_append_cons (h : t.IsSound)
    (hentry : (t.entry? (place ++ name :: rest)).isSome) : t.entry? place = some .directory := by
  have hway : ∃ e ∈ t.entries, place ++ name :: rest <+: e.1 :=
    (isSome_entry?_iff.mp hentry).resolve_left (by simp)
  obtain ⟨e, he, hbelow⟩ := hway
  have hplace : place <+: e.1 := (List.prefix_append ..).trans hbelow
  have hthere : (t.entry? place).isSome := isSome_entry?_iff.mpr (.inr ⟨e, he, hplace⟩)
  obtain ⟨found, hfound⟩ := Option.isSome_iff_exists.mp hthere
  rw [hfound]
  rcases (entry?_eq_some_iff h).mp hfound with hlisted | ⟨-, hdirectory, -⟩
  · cases found with
    | directory => rfl
    | file content =>
      have hsame : e.1 = place := h.leaves _ hlisted rfl e he hplace
      have hlength := hbelow.length_le
      rw [hsame, List.length_append, List.length_cons] at hlength
      omega
  · rw [hdirectory]

/-- The names on the way to an entry of a sound tree are names of entries. -/
theorem IsSound.plain_of_entry? (h : t.IsSound)
    (hentry : (t.entry? (place ++ name :: rest)).isSome) :
    name ≠ ".." ∧ name.utf8ByteSize ≤ nameLimit := by
  have hway : ∃ e ∈ t.entries, place ++ name :: rest <+: e.1 :=
    (isSome_entry?_iff.mp hentry).resolve_left (by simp)
  obtain ⟨e, he, hbelow⟩ := hway
  exact h.plain e he name (hbelow.subset (by simp))

/-- The order in which a sound tree is listed does not matter for its entries. -/
theorem entry?_of_perm (h : t.IsSound) (hperm : u.entries.Perm t.entries) (place : List String) :
    u.entry? place = t.entry? place := by
  ext entry
  rw [entry?_eq_some_iff h, entry?_eq_some_iff (h.of_perm hperm), hperm.mem_iff,
    (hperm.map Prod.fst).mem_iff]
  simp only [hperm.mem_iff]

/-! ### Look-up -/

/-- One name is followed only out of a directory, or upwards. -/
theorem follow_cons : t.follow inside above (name :: rest) =
    if above > 0 then
      if name = ".." then t.follow inside (above + 1) rest else .missing
    else match t.entry? inside.reverse with
      | some .directory =>
        if name = ".." then t.follow inside.tail (if inside.isEmpty then 1 else 0) rest
        else if name.utf8ByteSize > nameLimit then .tooLong
        else t.follow (name :: inside) 0 rest
      | _ => .missing := by
  cases inside <;> rfl

/-- Behind the way to a directory the look-up goes on from its place. -/
theorem follow_append (h : t.follow inside above names = .directory (some start)) :
    t.follow inside above (names ++ rest) = t.follow start.reverse 0 rest := by
  induction names generalizing inside above with
  | nil =>
    unfold follow at h
    split at h
    · cases h
    next habove =>
    split at h
    · cases h
    · cases h
      rw [List.reverse_reverse, Nat.eq_zero_of_not_pos habove, List.nil_append]
    · cases h
  | cons name names ih =>
    rw [follow_cons] at h
    rw [List.cons_append, follow_cons]
    by_cases habove : above > 0
    · rw [if_pos habove] at h ⊢
      split_ifs at h ⊢
      exact ih h
    rw [if_neg habove] at h ⊢
    cases hentry : t.entry? inside.reverse with
    | none =>
      rw [hentry] at h
      cases h
    | some entry =>
      rw [hentry] at h
      cases entry with
      | file content => cases h
      | directory =>
        dsimp only at h ⊢
        split_ifs at h ⊢
        · exact ih h
        · exact ih h
        · exact ih h

/-- Names that lead to an entry of a sound tree are followed to it. -/
theorem follow_of_entry? (h : t.IsSound) (hentry : t.entry? (start ++ rest) = some entry) :
    t.follow start.reverse 0 rest = entry.found (start ++ rest) := by
  induction rest generalizing start with
  | nil =>
    rw [List.append_nil] at hentry ⊢
    unfold follow
    rw [if_neg (Nat.lt_irrefl 0), List.reverse_reverse, hentry]
    cases entry <;> rfl
  | cons name rest ih =>
    have hsome : (t.entry? (start ++ name :: rest)).isSome := Option.isSome_of_eq_some hentry
    obtain ⟨hup, hshort⟩ := h.plain_of_entry? hsome
    have hstep : start ++ name :: rest = (start ++ [name]) ++ rest := by simp
    rw [hstep] at hentry ⊢
    rw [follow_cons, if_neg (Nat.lt_irrefl 0), List.reverse_reverse, entry?_of_append_cons h hsome]
    dsimp only
    rw [if_neg hup, if_neg (Nat.not_lt.mpr hshort), ← ih hentry, List.reverse_append]
    rfl

/-- From a directory that is there, a path that goes on to an entry of a sound tree finds it. -/
theorem find_append (h : t.IsSound) (hdirectory : t.find directory = .directory (some start))
    (hentry : t.entry? (start ++ rest) = some entry) :
    t.find ⟨directory.anchor, directory.names ++ rest⟩ = entry.found (start ++ rest) := by
  unfold find at hdirectory ⊢
  split at hdirectory
  next hbelow =>
    simp only [Bool.and_eq_true, decide_eq_true_eq, List.isPrefixOf_iff_prefix] at hbelow
    have hbelow' : (decide (directory.anchor = t.base.anchor) &&
        t.base.names.isPrefixOf (directory.names ++ rest)) = true := by
      simp [hbelow.1, hbelow.2.trans (List.prefix_append ..)]
    rw [if_pos hbelow', List.drop_append_of_le_length hbelow.2.length_le,
      follow_append hdirectory, follow_of_entry? h hentry]
  next =>
    split at hdirectory <;> cases hdirectory

/-- What is followed depends on the entries only. -/
theorem follow_congr (h : ∀ place, u.entry? place = t.entry? place) :
    u.follow inside above names = t.follow inside above names := by
  induction names generalizing inside above with
  | nil => simp only [follow, h]
  | cons name names ih => simp only [follow, h, ih]

/-- The order in which a sound tree is listed does not matter for a look-up. -/
theorem find_of_perm (h : t.IsSound) (hbase : u.base = t.base)
    (hperm : u.entries.Perm t.entries) (p : Path) : u.find p = t.find p := by
  simp only [find, hbase, follow_congr (entry?_of_perm h hperm)]

/-! ### Entries with a name -/

private theorem mem_waysTo_append_iff {way : List String} :
    way ∈ waysTo place ++ [place] ↔ way <+: place := by
  simp only [waysTo, List.mem_append, List.mem_map, List.mem_range, List.mem_singleton]
  constructor
  · rintro (⟨n, -, rfl⟩ | rfl)
    · exact List.take_prefix n place
    · exact List.prefix_rfl
  · intro hway
    by_cases hlength : way.length < place.length
    · exact .inl ⟨way.length, hlength, (List.prefix_iff_eq_take.mp hway).symm⟩
    · have hle := hway.length_le
      exact .inr (hway.eq_of_length (by omega))

/-- The places are those on the way to what is listed. -/
theorem mem_places_iff : place ∈ t.places ↔ ∃ e ∈ t.entries, place <+: e.1 := by
  simp only [places, List.mem_eraseDups, List.mem_flatMap, mem_waysTo_append_iff]

/-- No place comes twice. -/
theorem nodup_places : t.places.Nodup := nodup_eraseDups _

/-- The places with a name below a directory. -/
def placesNamed (t : Tree F) (name : String) (start : List String) : List (List String) :=
  t.places.filter fun place ↦
    place.getLast? == some name && start.isPrefixOf place && start.length < place.length

private theorem mem_placesNamed_iff :
    place ∈ t.placesNamed name start ↔
      ∃ rest, rest.getLast? = some name ∧ (t.entry? (start ++ rest)).isSome ∧
        place = start ++ rest := by
  simp only [placesNamed, List.mem_filter, mem_places_iff, Bool.and_eq_true, beq_iff_eq,
    List.isPrefixOf_iff_prefix, decide_eq_true_eq, isSome_entry?_iff]
  constructor
  · rintro ⟨hway, ⟨hlast, ⟨rest, rfl⟩⟩, hlength⟩
    have hne : rest ≠ [] := by
      rintro rfl
      simp at hlength
    rw [List.getLast?_append_of_ne_nil _ hne] at hlast
    exact ⟨rest, hlast, .inr hway, rfl⟩
  · rintro ⟨rest, hlast, hway, rfl⟩
    have hne : rest ≠ [] := by
      rintro rfl
      cases hlast
    have hway := hway.resolve_left (by simp [hne])
    have hlength := List.length_pos_of_ne_nil hne
    refine ⟨hway, ⟨?_, List.prefix_append ..⟩, ?_⟩
    · rw [List.getLast?_append_of_ne_nil _ hne, hlast]
    · rw [List.length_append]
      omega

/-- The path of a place below a directory, which is at a place itself. -/
def pathBelow (directory : Path) (start place : List String) : Path :=
  ⟨directory.anchor, directory.names ++ place.drop start.length⟩

private theorem anchor_of_mem_map_pathBelow {places : List (List String)}
    (h : p ∈ places.map (pathBelow directory start)) : p.anchor = directory.anchor := by
  obtain ⟨_, -, rfl⟩ := List.mem_map.mp h
  rfl

private theorem named_eq (hdirectory : t.find directory = .directory (some start)) :
    t.named name directory =
      ((t.placesNamed name start).map (pathBelow directory start)).mergeSort Path.le := by
  unfold named
  rw [hdirectory]
  rfl

/-- A list that holds the paths of the entries with a name in their order is what is found. -/
theorem named_eq_of_perm (hdirectory : t.find directory = .directory (some start))
    {paths : List Path}
    (hfound : ((t.placesNamed name start).map (pathBelow directory start)).Perm paths)
    (hsorted : paths.Pairwise fun p q ↦ p.le q = true) : t.named name directory = paths := by
  rw [named_eq hdirectory, Path.mergeSort_eq_of_perm hfound fun _ ↦ anchor_of_mem_map_pathBelow]
  exact List.mergeSort_of_pairwise hsorted

/-- The paths of the entries with a name below a directory that is there. -/
theorem mem_named_iff (hdirectory : t.find directory = .directory (some start)) :
    p ∈ t.named name directory ↔
      ∃ rest, rest.getLast? = some name ∧ (t.entry? (start ++ rest)).isSome ∧
        p = ⟨directory.anchor, directory.names ++ rest⟩ := by
  rw [named_eq hdirectory, List.mem_mergeSort, List.mem_map]
  simp only [mem_placesNamed_iff]
  constructor
  · rintro ⟨_, ⟨rest, hlast, hentry, rfl⟩, rfl⟩
    exact ⟨rest, hlast, hentry, by simp [pathBelow]⟩
  · rintro ⟨rest, hlast, hentry, rfl⟩
    exact ⟨_, ⟨rest, hlast, hentry, rfl⟩, by simp [pathBelow]⟩

private theorem nodup_map_pathBelow :
    ((t.placesNamed name start).map (pathBelow directory start)).Nodup := by
  apply List.Nodup.map_on _ (nodup_places.filter _)
  intro place hplace other hother heq
  obtain ⟨rest, -, -, rfl⟩ := mem_placesNamed_iff.mp hplace
  obtain ⟨rest', -, -, rfl⟩ := mem_placesNamed_iff.mp hother
  simpa [pathBelow] using heq

/-- The paths of the entries with a name strictly ascend. -/
theorem pairwise_named (hdirectory : t.find directory = .directory (some start)) :
    (t.named name directory).Pairwise fun p q ↦ List.lt p.names q.names := by
  have hnodup : (t.named name directory).Nodup := by
    rw [named_eq hdirectory]
    exact (List.mergeSort_perm _ _).nodup_iff.mpr nodup_map_pathBelow
  have hle : (t.named name directory).Pairwise fun p q ↦ List.le p.names q.names := by
    rw [named_eq hdirectory]
    exact Path.pairwise_mergeSort _
  apply (hle.and hnodup).imp_of_mem
  intro p q hp hq hpq
  obtain ⟨rest, -, -, rfl⟩ := (mem_named_iff hdirectory).mp hp
  obtain ⟨rest', -, -, rfl⟩ := (mem_named_iff hdirectory).mp hq
  -- otherwise each is at most the other, so that they are the same
  by_contra hnot
  have hsame := List.le_antisymm hpq.1 hnot
  exact hpq.2 (congrArg (Path.mk directory.anchor) hsame)

/-- Sorting the entries with a name gives the same for every enumeration of them. -/
theorem mergeSort_eq_named (hdirectory : t.find directory = .directory (some start))
    {found : List Path} (hfound : found.Perm (t.named name directory)) :
    found.mergeSort Path.le = t.named name directory := by
  have hanchor : ∀ p ∈ found, p.anchor = directory.anchor := by
    intro p hp
    obtain ⟨_, -, -, rfl⟩ := (mem_named_iff hdirectory).mp (hfound.mem_iff.mp hp)
    rfl
  rw [named_eq hdirectory] at hfound ⊢
  exact Path.mergeSort_eq_of_perm (hfound.trans (List.mergeSort_perm _ _)) hanchor

/-- The order in which a tree is listed does not matter for its places. -/
theorem perm_places (hperm : u.entries.Perm t.entries) : u.places.Perm t.places := by
  rw [List.perm_ext_iff_of_nodup nodup_places nodup_places]
  simp only [mem_places_iff, hperm.mem_iff, implies_true]

/-- The order in which a sound tree is listed does not matter for the entries with a name. -/
theorem named_of_perm (h : t.IsSound) (hbase : u.base = t.base)
    (hperm : u.entries.Perm t.entries) : u.named name directory = t.named name directory := by
  have hfind := find_of_perm h hbase hperm directory
  cases hdirectory : t.find directory with
  | directory place =>
    cases place with
    | none => simp only [named, hfind, hdirectory]
    | some start =>
      have hplaces : ((u.placesNamed name start).map (pathBelow directory start)).Perm
          ((t.placesNamed name start).map (pathBelow directory start)) :=
        ((perm_places hperm).filter _).map _
      rw [named_eq hdirectory, named_eq (hfind.trans hdirectory)]
      exact Path.mergeSort_eq_of_perm hplaces fun _ ↦ anchor_of_mem_map_pathBelow
  | _ => simp only [named, hfind, hdirectory]

end Tree
end VulnScanner
