import Mathlib.Data.List.Forall2
import VulnScanner.Proofs.Steps
import VulnScanner.Regex.Pattern

/-!
# Nodes that are checked alike

Only looking behind and what is repeated can fail a check, so that nodes pass it if those of the
same places do. What a choice has in common in all its branches passes every check.
-/

namespace VulnScanner.Regex

/-- The second nodes pass every check if the first pass one with the same settings. -/
def ChecksAlike (xs ys : List Node) : Prop :=
  ∀ g h f, sequenceCheck g f xs = .ok () → sequenceCheck h f ys = .ok ()

/-- Two nodes of the same kind, of which the second is checked like the first. -/
structure NodeAlike (a b : Node) : Prop where
  isAnchor : b.isAnchor = a.isAnchor
  isRepeated : b.isRepeated = a.isRepeated
  body : ChecksAlike (a.plainBody?.getD [a]) (b.plainBody?.getD [b])

/-- A node that holds no others and passes every check. -/
def IsLeaf (n : Node) : Prop := ∀ g f, n.check g f = .ok ()

/-- Nodes in a sequence are checked one by one. -/
theorem sequenceCheck_eq_ok_iff {g : List (Option Width)} {f : Flags} {nodes : List Node} :
    sequenceCheck g f nodes = .ok () ↔ ∀ n ∈ nodes, n.check g f = .ok () := by
  induction nodes with
  | nil => simp [sequenceCheck]
  | cons n rest ih =>
    rw [sequenceCheck, bind_eq_ok_iff, List.forall_mem_cons, ← ih]
    exact ⟨fun ⟨_, hn, hr⟩ ↦ ⟨hn, hr⟩, fun ⟨hn, hr⟩ ↦ ⟨(), hn, hr⟩⟩

/-- Branches are checked one by one. -/
theorem branchesCheck_eq_ok_iff {g : List (Option Width)} {f : Flags}
    {branches : List (List Node)} :
    branchesCheck g f branches = .ok () ↔ ∀ b ∈ branches, sequenceCheck g f b = .ok () := by
  induction branches with
  | nil => simp [branchesCheck]
  | cons b rest ih =>
    rw [branchesCheck, bind_eq_ok_iff, List.forall_mem_cons, ← ih]
    exact ⟨fun ⟨_, hn, hr⟩ ↦ ⟨hn, hr⟩, fun ⟨hn, hr⟩ ↦ ⟨(), hn, hr⟩⟩

private theorem isLeaf_of_sameLeaf {a b : Node} (h : a.sameLeaf b = true) :
    IsLeaf a ∧ IsLeaf b := by
  cases a <;> cases b <;> first | exact ⟨fun _ _ ↦ rfl, fun _ _ ↦ rfl⟩ | cases h

private theorem isLeaf_of_members {a : Node} {members : List Member}
    (h : a.members? = some members) : IsLeaf a := by
  cases a <;> first | exact fun _ _ ↦ rfl | cases h

private theorem exists_cons_of_head {b : List Node} {item : Node}
    (h : b.head?.any item.sameLeaf = true) : ∃ n t, b = n :: t ∧ IsLeaf item ∧ IsLeaf n := by
  cases b with
  | nil => cases h
  | cons n t => exact ⟨n, t, rfl, isLeaf_of_sameLeaf h⟩

/-- What all branches begin with in common are leaves. -/
private theorem isLeaf_of_commonLead {items : List Node} {others : List (List Node)}
    (ho : others ≠ []) {b : List Node} (hb : b ∈ items :: others) :
    ∀ n ∈ b.take (commonLead items others), IsLeaf n := by
  induction items generalizing others b with
  | nil => simp [commonLead]
  | cons item rest ih =>
    rw [commonLead]
    split
    · next hall =>
      rw [List.all_eq_true] at hall
      have htails : others.map List.tail ≠ [] := by simpa using ho
      rcases List.mem_cons.mp hb with rfl | hb
      · obtain ⟨o, hmem⟩ := List.exists_mem_of_ne_nil others ho
        obtain ⟨_, _, -, hitem, -⟩ := exists_cons_of_head (hall o hmem)
        rw [List.take_succ_cons, List.forall_mem_cons]
        exact ⟨hitem, ih htails List.mem_cons_self⟩
      · obtain ⟨n, t, rfl, -, hn⟩ := exists_cons_of_head (hall b hb)
        rw [List.take_succ_cons, List.forall_mem_cons]
        have ht : t ∈ others.map List.tail := List.mem_map_of_mem (f := List.tail) hb
        exact ⟨hn, ih htails (List.mem_cons_of_mem _ ht)⟩
    · simp

private theorem exists_of_mapM {α β : Type} {f : α → Option β} {l : List α} {all : List β}
    (h : l.mapM f = some all) : ∀ a ∈ l, ∃ b, f a = some b := by
  induction l generalizing all with
  | nil => simp
  | cons a rest ih =>
    rw [List.mapM_cons, Option.bind_eq_bind, Option.bind_eq_some_iff] at h
    obtain ⟨b, hb, h⟩ := h
    rw [Option.bind_eq_bind, Option.bind_eq_some_iff] at h
    obtain ⟨bs, hbs, -⟩ := h
    exact List.forall_mem_cons.mpr ⟨⟨b, hb⟩, ih hbs⟩

private theorem isLeaf_of_choiceMembers {branches : List (List Node)} {members : List Member}
    (h : choiceMembers? branches = some members) {b : List Node} (hb : b ∈ branches) :
    ∀ n ∈ b, IsLeaf n := by
  unfold choiceMembers? at h
  obtain ⟨all, hall, -⟩ := Option.map_eq_some_iff.mp h
  obtain ⟨ms, hms⟩ := exists_of_mapM hall b hb
  split at hms
  · next item =>
    rw [List.forall_mem_singleton]
    exact isLeaf_of_members hms
  · cases hms

private theorem sequenceCheck_take_append {g : List (Option Width)} {f : Flags} {b : List Node}
    {n : Nat} (h : ∀ node ∈ b.take n, IsLeaf node) :
    sequenceCheck g f b = .ok () ↔ sequenceCheck g f (b.drop n) = .ok () := by
  rw [sequenceCheck_eq_ok_iff, sequenceCheck_eq_ok_iff]
  conv_lhs => rw [← List.take_append_drop n b]
  rw [List.forall_mem_append]
  exact and_iff_right fun node hn ↦ h node hn g f

/-- A choice is checked like all of its branches. -/
theorem sequenceCheck_choose {g : List (Option Width)} {f : Flags} (branches : List (List Node)) :
    sequenceCheck g f (choose branches) = .ok () ↔
      ∀ b ∈ branches, sequenceCheck g f b = .ok () := by
  match branches with
  | [] => simp [choose, sequenceCheck]
  | [branch] => simp [choose]
  | first :: second :: others =>
    let shared := commonLead first (second :: others)
    let rests := (first :: second :: others).map (·.drop shared)
    have hchoose : choose (first :: second :: others) = first.take shared ++
        (choiceMembers? rests).elim [.either rests]
          fun members ↦ [.oneOf false (distinctMembers members)] := by
      rw [choose]
      · cases choiceMembers? rests <;> rfl
      · exact List.cons_ne_nil _ _
    have hlead : ∀ b ∈ first :: second :: others, ∀ n ∈ b.take shared, IsLeaf n :=
      fun b hb ↦ isLeaf_of_commonLead (by simp) hb
    have hrests : (∀ b ∈ first :: second :: others, sequenceCheck g f b = .ok ()) ↔
        ∀ b ∈ rests, sequenceCheck g f b = .ok () := by
      rw [List.forall_mem_map]
      exact forall₂_congr fun b hb ↦ sequenceCheck_take_append (hlead b hb)
    have hfirst : ∀ n ∈ first.take shared, n.check g f = .ok () :=
      fun n hn ↦ hlead first List.mem_cons_self n hn g f
    rw [hrests, hchoose, sequenceCheck_eq_ok_iff, List.forall_mem_append, and_iff_right hfirst]
    cases hc : choiceMembers? rests with
    | some members =>
      refine iff_of_true (by simp [Node.check]) fun b hb ↦ ?_
      rw [sequenceCheck_eq_ok_iff]
      exact fun n hn ↦ isLeaf_of_choiceMembers hc hb n hn g f
    | none =>
      rw [Option.elim_none, List.forall_mem_singleton]
      exact branchesCheck_eq_ok_iff

/-- The second nodes are those of the same places, checked alike. -/
theorem ChecksAlike.spliceGroups {xs ys : List Node} (h : List.Forall₂ NodeAlike xs ys) :
    ChecksAlike (spliceGroups xs) (spliceGroups ys) := by
  induction h with
  | nil => exact fun _ _ _ _ ↦ rfl
  | cons hn _ ih =>
    intro g h f hx
    unfold Regex.spliceGroups at hx ih ⊢
    rw [List.flatMap_cons, sequenceCheck_eq_ok_iff, List.forall_mem_append,
      ← sequenceCheck_eq_ok_iff, ← sequenceCheck_eq_ok_iff] at hx ⊢
    exact ⟨hn.body g h f hx.1, ih g h f hx.2⟩

/-- Choices between branches that are checked alike. -/
theorem ChecksAlike.choose {bs cs : List (List Node)} (h : List.Forall₂ ChecksAlike bs cs) :
    ChecksAlike (choose bs) (choose cs) := by
  intro g h' f hx
  rw [sequenceCheck_choose] at hx ⊢
  induction h with
  | nil => simp
  | cons hb _ ih =>
    rw [List.forall_mem_cons] at hx ⊢
    exact ⟨hb g h' f hx.1, ih hx.2⟩

private theorem checksAlike_singleton {a b : Node}
    (h : ∀ g h f, a.check g f = .ok () → b.check h f = .ok ()) : ChecksAlike [a] [b] := by
  intro g h' f hx
  rw [sequenceCheck_eq_ok_iff, List.forall_mem_singleton] at hx ⊢
  exact h g h' f hx

/-- A node that holds no others is checked like itself. -/
theorem NodeAlike.of_isLeaf {n : Node} (h : IsLeaf n) (hp : n.plainBody? = none) :
    NodeAlike n n := by
  refine ⟨rfl, rfl, ?_⟩
  rw [hp]
  exact checksAlike_singleton fun _ g f _ ↦ h g f

/-! ### Nodes around others -/

/-- Items that are alike one by one. -/
def ItemsAlike : List Node → List Node → Prop := List.Forall₂ NodeAlike

/-- Repetitions of nodes that are checked alike. -/
theorem NodeAlike.repeated (style : Style) (least : Nat) (most : Option Nat)
    {xs ys : List Node} (h : ChecksAlike xs ys) :
    NodeAlike (.repeated style least most xs) (.repeated style least most ys) := by
  refine ⟨rfl, rfl, checksAlike_singleton fun g h' f hx ↦ ?_⟩
  rw [Node.check] at hx ⊢
  split at hx
  · cases hx
  · next ht =>
    rw [if_neg ht]
    exact h g h' f hx

/-- Two characters. -/
theorem NodeAlike.code (m n : Nat) : NodeAlike (.code m) (.code n) :=
  ⟨rfl, rfl, fun _ _ _ _ ↦ rfl⟩

/-- Groups of nodes that are checked alike. -/
theorem NodeAlike.group (number : Option Nat) (on off : Flags) {xs ys : List Node}
    (h : ChecksAlike xs ys) : NodeAlike (.group number on off xs) (.group number on off ys) := by
  refine ⟨rfl, rfl, ?_⟩
  have hcheck : ChecksAlike [.group number on off xs] [.group number on off ys] :=
    checksAlike_singleton fun g h' f hx ↦ h g h' _ hx
  cases number with
  | some number => exact hcheck
  | none =>
    simp only [Node.plainBody?]
    split
    · exact h
    · exact hcheck

/-- Looking ahead for nodes that are checked alike. -/
theorem NodeAlike.look (negated : Bool) {xs ys : List Node} (h : ChecksAlike xs ys) :
    NodeAlike (.look false negated xs) (.look false negated ys) :=
  ⟨rfl, rfl, checksAlike_singleton fun g h' f hx ↦ h g h' f hx⟩

/-- Atomic groups of nodes that are checked alike. -/
theorem NodeAlike.atomic {xs ys : List Node} (h : ChecksAlike xs ys) :
    NodeAlike (.atomic xs) (.atomic ys) :=
  ⟨rfl, rfl, checksAlike_singleton fun g h' f hx ↦ h g h' f hx⟩

end VulnScanner.Regex
