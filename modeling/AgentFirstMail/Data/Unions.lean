import Mathlib.Tactic.Common

namespace Unions
variable {α : Type} {same : α → α → Bool} {known incoming : List α} {item : α}

/-- A comparison that tells items of one kind. -/
structure Kinds (same : α → α → Bool) : Prop where
  refl : ∀ a, same a a = true
  symm : ∀ a b, same a b = same b a
  trans : ∀ a b c, same a b = true → same b c = true → same a c = true

/-- Adds an item that is not known yet. -/
def add (same : α → α → Bool) (known : List α) (item : α) : List α :=
  if known.any (same · item) then known else known ++ [item]

/-- Adds what is not known yet, in order. -/
def extend (same : α → α → Bool) (known incoming : List α) : List α :=
  incoming.foldl (add same) known

/-- The union of two lists up to `same`: what was known, then the first of each kind of what is
new. -/
structure IsUnion (same : α → α → Bool) (known incoming result : List α) : Prop where
  holds : ∀ item ∈ incoming, result.any (same · item) = true
  split : ∃ added, result = known ++ added ∧ added.Sublist incoming ∧
    added.Pairwise (fun item other => same item other = false) ∧
    ∀ item ∈ added, known.any (same · item) = false ∧ incoming.find? (same · item) = some item

theorem extend_nil : extend same known [] = known := rfl

theorem extend_cons (item : α) (rest : List α) :
    extend same known (item :: rest) = extend same (add same known item) rest := rfl

theorem extend_append (incoming later : List α) :
    extend same known (incoming ++ later) = extend same (extend same known incoming) later :=
  List.foldl_append

theorem extend_flatten (lists : List (List α)) :
    extend same known lists.flatten = lists.foldl (extend same) known := by
  induction lists generalizing known with
  | nil => rfl
  | cons first rest ih => rw [List.flatten_cons, extend_append, ih, List.foldl_cons]

theorem extend_eq_self (h : ∀ item ∈ incoming, known.any (same · item) = true) :
    extend same known incoming = known := by
  induction incoming with
  | nil => rfl
  | cons item rest ih =>
    obtain ⟨hitem, hrest⟩ := List.forall_mem_cons.mp h
    rw [extend_cons, add, if_pos hitem, ih hrest]

namespace Kinds
variable (kinds : Kinds same)
include kinds

theorem congr {a b : α} (h : same a b = true) (c : α) : same c a = same c b := by
  rw [Bool.eq_iff_iff]
  exact ⟨fun hca => kinds.trans c a b hca h, fun hcb => kinds.trans c b a hcb (kinds.symm a b ▸ h)⟩

theorem any_congr {a b : α} (h : same a b = true) (items : List α) :
    items.any (same · a) = items.any (same · b) := by
  have hsame : (same · a) = (same · b) := funext fun c => kinds.congr h c
  rw [hsame]

theorem any_add (known : List α) (item other : α) :
    (add same known item).any (same · other) = (known.any (same · other) || same item other) := by
  rw [add]
  split
  · rename_i hany
    cases hother : same item other with
    | true => rw [← kinds.any_congr hother, hany, Bool.or_true]
    | false => rw [Bool.or_false]
  · simp

theorem any_extend (known incoming : List α) (other : α) :
    (extend same known incoming).any (same · other) =
      (known.any (same · other) || incoming.any (same · other)) := by
  induction incoming generalizing known with
  | nil => simp [extend_nil]
  | cons item rest ih =>
    rw [extend_cons, ih, kinds.any_add, List.any_cons, Bool.or_assoc]

theorem extend_extend (first known incoming : List α) :
    extend same first (extend same known incoming) =
      extend same (extend same first known) incoming := by
  induction incoming generalizing known with
  | nil => rfl
  | cons item rest ih =>
    rw [extend_cons, ih, extend_cons]
    congr 1
    by_cases hany : known.any (same · item) = true
    · have hlater : (extend same first known).any (same · item) = true := by
        rw [kinds.any_extend, hany, Bool.or_true]
      rw [add, if_pos hany, add, if_pos hlater]
    · rw [add, if_neg hany, extend_append]
      rfl

theorem isUnion_extend (known incoming : List α) :
    IsUnion same known incoming (extend same known incoming) where
  holds item hmem := by
    rw [kinds.any_extend, Bool.or_eq_true]
    exact .inr (List.any_eq_true.mpr ⟨item, hmem, kinds.refl item⟩)
  split := by
    induction incoming generalizing known with
    | nil => exact ⟨[], (List.append_nil known).symm, .refl [], .nil, fun _ hmem => nomatch hmem⟩
    | cons item rest ih =>
      obtain ⟨added, heq, hsub, hpair, hnew⟩ := ih (add same known item)
      have hlater : ∀ other ∈ added, known.any (same · other) = false ∧
          same item other = false ∧ rest.find? (same · other) = some other := by
        intro other hother
        obtain ⟨hany, hfind⟩ := hnew other hother
        rw [kinds.any_add, Bool.or_eq_false_iff] at hany
        exact ⟨hany.1, hany.2, hfind⟩
      have hfind : ∀ other ∈ added, known.any (same · other) = false ∧
          (item :: rest).find? (same · other) = some other := by
        intro other hother
        obtain ⟨hany, hne, hfound⟩ := hlater other hother
        exact ⟨hany, by rw [List.find?_cons, hne]; exact hfound⟩
      rw [extend_cons, heq, add]
      by_cases hany : known.any (same · item) = true
      · rw [if_pos hany]
        exact ⟨added, rfl, hsub.cons item, hpair, hfind⟩
      · rw [if_neg hany]
        refine ⟨item :: added, by simp, hsub.cons_cons item,
          List.pairwise_cons.mpr ⟨fun other hother => (hlater other hother).2.1, hpair⟩, ?_⟩
        refine List.forall_mem_cons.mpr ⟨⟨Bool.eq_false_iff.mpr hany, ?_⟩, hfind⟩
        rw [List.find?_cons, kinds.refl]

end Kinds
end Unions
