import Mathlib.Data.List.Induction

/-!
# First occurrences

A growing graph meets the same name or edge again and again and keeps it at the place where it was
first met.  One at a time this is `addNew`; of a whole sequence it is `List.eraseDups`.  The two
agree (`foldl_addNew_nil`), and the second commutes with selecting and with renaming apart, which is
how the edges of one entity are read off the edges of all.
-/

namespace TypeGraph

variable {α β : Type} [DecidableEq α] [DecidableEq β]

/-- Appends an element to a list that lacks it. -/
def addNew (xs : List α) (x : α) : List α := if x ∈ xs then xs else xs ++ [x]

@[simp] theorem mem_addNew {xs : List α} {x y : α} : y ∈ addNew xs x ↔ y ∈ xs ∨ y = x := by
  unfold addNew
  by_cases h : x ∈ xs
  · rw [if_pos h]
    constructor
    · exact Or.inl
    · rintro (hy | rfl)
      · exact hy
      · exact h
  · rw [if_neg h, List.mem_append, List.mem_singleton]

theorem nodup_addNew {xs : List α} (h : xs.Nodup) (x : α) : (addNew xs x).Nodup := by
  unfold addNew
  by_cases hx : x ∈ xs
  · rw [if_pos hx]
    exact h
  · rw [if_neg hx]
    refine List.nodup_append.mpr ⟨h, List.pairwise_singleton _ x, ?_⟩
    intro y hy z hz heq
    exact hx (List.mem_singleton.mp hz ▸ heq ▸ hy)

theorem mem_foldl_addNew {xs ys : List α} {y : α} :
    y ∈ ys.foldl addNew xs ↔ y ∈ xs ∨ y ∈ ys := by
  induction ys generalizing xs with
  | nil => simp
  | cons z zs ih =>
      rw [List.foldl_cons, ih, mem_addNew, List.mem_cons]
      tauto

/-! ## Whole sequences -/

theorem eraseDups_concat (xs : List α) (x : α) :
    (xs ++ [x]).eraseDups = addNew xs.eraseDups x := by
  rw [List.eraseDups_append]
  unfold addNew
  by_cases h : x ∈ xs
  · rw [if_pos (List.mem_eraseDups.mpr h)]
    simp [List.removeAll, h]
  · rw [if_neg (fun hx => h (List.mem_eraseDups.mp hx))]
    simp [List.removeAll, h, List.eraseDups_cons]

theorem foldl_addNew_eraseDups (xs ys : List α) :
    ys.foldl addNew xs.eraseDups = (xs ++ ys).eraseDups := by
  induction ys generalizing xs with
  | nil => rw [List.foldl_nil, List.append_nil]
  | cons y ys ih =>
      rw [List.foldl_cons, ← eraseDups_concat, ih, List.append_assoc, List.singleton_append]

/-- Keeping each element when it is first met keeps the first occurrences. -/
theorem foldl_addNew_nil (ys : List α) : ys.foldl addNew [] = ys.eraseDups :=
  foldl_addNew_eraseDups [] ys

theorem nodup_eraseDups (xs : List α) : xs.eraseDups.Nodup := by
  induction xs using List.reverseRecOn with
  | nil => exact List.nodup_nil
  | append_singleton xs x ih =>
      rw [eraseDups_concat]
      exact nodup_addNew ih x

theorem eraseDups_filter (p : α → Bool) (xs : List α) :
    (xs.filter p).eraseDups = xs.eraseDups.filter p := by
  induction xs using List.reverseRecOn with
  | nil => rfl
  | append_singleton xs x ih =>
      rw [List.filter_append, eraseDups_concat]
      by_cases hx : p x = true
      · rw [List.filter_cons_of_pos hx, List.filter_nil, eraseDups_concat, ih]
        unfold addNew
        by_cases hmem : x ∈ xs.eraseDups
        · rw [if_pos hmem, if_pos (List.mem_filter.mpr ⟨hmem, hx⟩)]
        · rw [if_neg hmem, if_neg (fun h => hmem (List.mem_filter.mp h).1), List.filter_append,
            List.filter_cons_of_pos hx, List.filter_nil]
      · rw [List.filter_cons_of_neg hx, List.filter_nil, List.append_nil, ih]
        unfold addNew
        by_cases hmem : x ∈ xs.eraseDups
        · rw [if_pos hmem]
        · rw [if_neg hmem, List.filter_append, List.filter_cons_of_neg hx, List.filter_nil,
            List.append_nil]

theorem eraseDups_map {f : α → β} (hf : Function.Injective f) (xs : List α) :
    (xs.map f).eraseDups = xs.eraseDups.map f := by
  induction xs using List.reverseRecOn with
  | nil => rfl
  | append_singleton xs x ih =>
      rw [List.map_append, List.map_singleton, eraseDups_concat, eraseDups_concat, ih]
      unfold addNew
      by_cases hmem : x ∈ xs.eraseDups
      · rw [if_pos hmem, if_pos (List.mem_map_of_mem hmem)]
      · have hf' : f x ∉ xs.eraseDups.map f := by
          intro h
          obtain ⟨y, hy, hxy⟩ := List.mem_map.mp h
          exact hmem (hf hxy ▸ hy)
        rw [if_neg hmem, if_neg hf', List.map_append, List.map_singleton]

theorem foldl_addNew_of_disjoint {xs ys : List α} (hys : ys.Nodup) (h : ∀ y ∈ ys, y ∉ xs) :
    ys.foldl addNew xs = xs ++ ys := by
  induction ys generalizing xs with
  | nil => rw [List.foldl_nil, List.append_nil]
  | cons y ys ih =>
      obtain ⟨hy, hys⟩ := List.nodup_cons.mp hys
      have hrest : ∀ z ∈ ys, z ∉ xs ++ [y] := by
        intro z hz hmem
        rcases List.mem_append.mp hmem with hxs | hsingle
        · exact h z (List.mem_cons_of_mem y hz) hxs
        · exact hy (List.mem_singleton.mp hsingle ▸ hz)
      rw [List.foldl_cons, addNew, if_neg (h y List.mem_cons_self), ih hys hrest,
        List.append_assoc, List.singleton_append]

end TypeGraph
