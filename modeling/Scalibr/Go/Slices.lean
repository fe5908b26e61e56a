import Scalibr.Go.Cmp
import Mathlib.Data.List.Sort
import Mathlib.Data.String.Basic

/-!
Sorting as the scan code calls it: `slices.SortFunc` with a comparison function, and
`sort.Strings`. Go's library sorts with pattern-defeating quicksort, which lies outside the
repository; `SortFunc` takes it as a parameter with the guarantees its documentation gives
(a permutation, sorted when the comparison is a strict weak ordering, comparisons only
between elements at distinct positions of the slice) and with the one fact of its implementation the
counterexamples use: a slice of at most twelve elements is sorted by
`insertionSortCmpFunc`, modelled here as Go writes it. A comparison may panic (a nil
dereference in `cmpGenericFindings`), so comparators are `Option`-valued and a panic is
`none`.
-/

namespace Scalibr.Go

variable {α β : Type}

/-- The inner loop of `insertionSortCmpFunc`: the element `x` moves left while
`cmp(data[j], data[j-1]) < 0`. The sorted prefix is kept reversed, so its head is
`data[j-1]`. -/
def insertLeft (cmp : α → α → Option Int) (x : α) : List α → Option (List α)
  | [] => some [x]
  | y :: ys =>
      match cmp x y with
      | none => none
      | some c => if c < 0 then (insertLeft cmp x ys).map (y :: ·) else some (x :: y :: ys)

/-- The outer loop of `insertionSortCmpFunc`, over the elements after the sorted prefix
`acc` (reversed). -/
def insertionLoop (cmp : α → α → Option Int) : List α → List α → Option (List α)
  | acc, [] => some acc.reverse
  | acc, x :: xs =>
      match insertLeft cmp x acc with
      | none => none
      | some acc => insertionLoop cmp acc xs

def insertionSortCmpFunc (cmp : α → α → Option Int) (xs : List α) : Option (List α) :=
  insertionLoop cmp [] xs

/-! ### Comparisons at distinct positions -/

/-- `cmp` answers, without panicking, on every two elements at distinct positions of `xs`,
both ways round: every comparison a sort of `xs` can make. -/
def Comparable (cmp : α → α → Option Int) (xs : List α) : Prop :=
  xs.Pairwise fun a b => (cmp a b).isSome ∧ (cmp b a).isSome

/-- `cmp` is `c` on every two elements at distinct positions of `xs`, both ways round. -/
def AgreesOn (cmp : α → α → Option Int) (c : α → α → Int) (xs : List α) : Prop :=
  xs.Pairwise fun a b => cmp a b = some (c a b) ∧ cmp b a = some (c b a)

section Positions

variable {cmp : α → α → Option Int} {c : α → α → Int} {xs ys : List α}

theorem Comparable.perm (h : Comparable cmp xs) (hp : xs.Perm ys) : Comparable cmp ys :=
  List.Pairwise.perm h hp fun h => ⟨h.2, h.1⟩

theorem AgreesOn.perm (h : AgreesOn cmp c xs) (hp : xs.Perm ys) : AgreesOn cmp c ys :=
  List.Pairwise.perm h hp fun h => ⟨h.2, h.1⟩

theorem Comparable.of_isSome (h : ∀ a b, (cmp a b).isSome) : Comparable cmp xs :=
  List.pairwise_of_forall fun a b => ⟨h a b, h b a⟩

theorem AgreesOn.of_eq (h : ∀ a b, cmp a b = some (c a b)) : AgreesOn cmp c xs :=
  List.pairwise_of_forall fun a b => ⟨h a b, h b a⟩

/-- Where `cmp` answers it is `c`, so it is `c` wherever it is comparable. -/
theorem Comparable.agreesOn (h : Comparable cmp xs)
    (hc : ∀ a b, (cmp a b).isSome → cmp a b = some (c a b)) : AgreesOn cmp c xs :=
  List.Pairwise.imp (fun h => ⟨hc _ _ h.1, hc _ _ h.2⟩) h

end Positions

/-! ### Insertion sort meets the contract -/

section Insertion

variable {cmp : α → α → Option Int}

theorem insertLeft_perm {x : α} :
    ∀ {acc r : List α}, insertLeft cmp x acc = some r → r.Perm (x :: acc)
  | [], r, h => by simp [insertLeft] at h; simp [h]
  | y :: ys, r, h => by
      simp only [insertLeft] at h
      split at h
      · cases h
      · split_ifs at h
        · obtain ⟨r', hr', rfl⟩ := Option.map_eq_some'.1 h
          exact ((insertLeft_perm hr').cons y).trans (List.Perm.swap x y ys)
        · cases h; rfl

theorem insertionLoop_perm :
    ∀ {acc xs r : List α}, insertionLoop cmp acc xs = some r → r.Perm (xs ++ acc)
  | acc, [], r, h => by simp [insertionLoop] at h; simp [← h, List.reverse_perm]
  | acc, x :: xs, r, h => by
      simp only [insertionLoop] at h
      split at h
      · cases h
      · rename_i acc' hacc
        exact (insertionLoop_perm h).trans
          (((insertLeft_perm hacc).append_left xs).trans List.perm_middle)

theorem insertLeft_isSome (x : α) :
    ∀ acc : List α, (∀ y ∈ acc, (cmp x y).isSome) → (insertLeft cmp x acc).isSome
  | [], _ => rfl
  | y :: ys, h => by
      obtain ⟨c, hc⟩ := Option.isSome_iff_exists.1 (h y (List.mem_cons_self y ys))
      simp only [insertLeft, hc]
      split_ifs
      · simpa using insertLeft_isSome x ys fun z hz => h z (List.mem_cons_of_mem y hz)
      · rfl

/-- Insertion sort compares only elements at distinct positions: the one being inserted
against the sorted prefix. -/
theorem insertionLoop_isSome :
    ∀ acc xs : List α, Comparable cmp (xs ++ acc) → (insertionLoop cmp acc xs).isSome
  | acc, [], _ => rfl
  | acc, x :: xs, h => by
      have hx := (List.pairwise_cons.1 h).1
      obtain ⟨acc', hacc⟩ := Option.isSome_iff_exists.1
        (insertLeft_isSome x acc fun y hy => (hx y (List.mem_append_right xs hy)).1)
      have hperm := ((insertLeft_perm hacc).append_left xs).trans List.perm_middle
      simp only [insertionLoop, hacc]
      exact insertionLoop_isSome acc' xs (h.perm hperm.symm)

variable {c : α → α → Int}

/-- Inserting into a prefix sorted in descending order (the reversed sorted prefix) keeps
it so. -/
theorem insertLeft_sorted (hc : StrictWeakOrder c) {x : α} :
    ∀ {acc r : List α}, (∀ y ∈ acc, cmp x y = some (c x y)) →
      acc.Sorted (fun a b => c b a ≤ 0) → insertLeft cmp x acc = some r →
      r.Sorted (fun a b => c b a ≤ 0)
  | [], r, _, _, h => by simp [insertLeft] at h; simp [← h]
  | y :: ys, r, hxy, hs, h => by
      rw [List.sorted_cons] at hs
      simp only [insertLeft, hxy y (List.mem_cons_self y ys)] at h
      split_ifs at h with hlt
      · obtain ⟨r', hr', rfl⟩ := Option.map_eq_some'.1 h
        have hrest := insertLeft_sorted hc (fun z hz => hxy z (List.mem_cons_of_mem y hz)) hs.2 hr'
        refine List.sorted_cons.2 ⟨fun z hz => ?_, hrest⟩
        rcases List.mem_cons.1 ((insertLeft_perm hr').subset hz) with rfl | hz
        · exact hlt.le
        · exact hs.1 z hz
      · cases h
        have hyx : c y x ≤ 0 := hc.nonpos_of_nonneg (not_lt.1 hlt)
        refine List.sorted_cons.2 ⟨fun z hz => ?_, List.sorted_cons.2 hs⟩
        rcases List.mem_cons.1 hz with rfl | hz
        · exact hyx
        · exact hc.trans z y x (hs.1 z hz) hyx

theorem insertionLoop_sorted (hc : StrictWeakOrder c) :
    ∀ {acc xs r : List α}, AgreesOn cmp c (xs ++ acc) →
      acc.Sorted (fun a b => c b a ≤ 0) → insertionLoop cmp acc xs = some r →
      r.Sorted (fun a b => c a b ≤ 0)
  | acc, [], r, _, hs, h => by
      simp only [insertionLoop, Option.some.injEq] at h
      exact h ▸ List.pairwise_reverse.2 hs
  | acc, x :: xs, r, hcmp, hs, h => by
      simp only [insertionLoop] at h
      split at h
      · cases h
      · rename_i acc' hacc
        have hperm := ((insertLeft_perm hacc).append_left xs).trans List.perm_middle
        have hx := (List.pairwise_cons.1 hcmp).1
        exact insertionLoop_sorted hc (hcmp.perm hperm.symm)
          (insertLeft_sorted hc (fun y hy => (hx y (List.mem_append_right xs hy)).1) hs hacc) h

end Insertion

/-! ### The contract of `slices.SortFunc` -/

/-- `slices.SortFunc(x, cmp)` on the guarantees the scan code relies on. It returns a
permutation of `x`. It compares only elements at distinct positions, so it panics only
when one of those comparisons does. It returns `x` sorted when `cmp` is a strict weak
ordering on those pairs. On at most twelve elements it is `insertionSortCmpFunc`
(pdqsort's `maxInsertion`). -/
structure SortFunc where
  run : {α : Type} → (α → α → Option Int) → List α → Option (List α)
  perm : ∀ {α : Type} (cmp : α → α → Option Int) (xs ys : List α),
    run cmp xs = some ys → ys.Perm xs
  total : ∀ {α : Type} (cmp : α → α → Option Int) (xs : List α),
    Comparable cmp xs → (run cmp xs).isSome
  sorted : ∀ {α : Type} (cmp : α → α → Option Int) (c : α → α → Int) (xs ys : List α),
    StrictWeakOrder c → AgreesOn cmp c xs →
    run cmp xs = some ys → ys.Sorted (fun a b => c a b ≤ 0)
  small : ∀ {α : Type} (cmp : α → α → Option Int) (xs : List α),
    xs.length ≤ 12 → run cmp xs = insertionSortCmpFunc cmp xs

/-- Insertion sort on every length. It meets the contract, and on the slices of at most
twelve elements that the counterexamples use it is what Go runs. -/
def SortFunc.insertion : SortFunc where
  run := insertionSortCmpFunc
  perm _ _ _ h := by simpa using insertionLoop_perm h
  total _ xs h := insertionLoop_isSome [] xs (by simpa using h)
  sorted _ _ _ _ hc hcmp h := insertionLoop_sorted hc (by simpa using hcmp) List.sorted_nil h
  small _ _ _ := rfl

/-! ### Sorted permutations agree up to ties -/

section Ties

variable {c : α → α → Int}

theorem forall₂_tie_refl (hc : StrictWeakOrder c) :
    ∀ l : List α, List.Forall₂ (fun a b => c a b = 0) l l
  | [] => .nil
  | x :: xs => .cons (hc.refl x) (forall₂_tie_refl hc xs)

theorem forall₂_tie_trans (hc : StrictWeakOrder c) :
    ∀ {l₁ l₂ l₃ : List α}, List.Forall₂ (fun a b => c a b = 0) l₁ l₂ →
      List.Forall₂ (fun a b => c a b = 0) l₂ l₃ → List.Forall₂ (fun a b => c a b = 0) l₁ l₃
  | _, _, _, .nil, .nil => .nil
  | _, _, _, .cons h₁ t₁, .cons h₂ t₂ => .cons (hc.zero_trans h₁ h₂) (forall₂_tie_trans hc t₁ t₂)

/-- Moving a least element of a sorted list to its front changes the list only up to ties. -/
theorem forall₂_tie_erase [DecidableEq α] (hc : StrictWeakOrder c) {b : α} :
    ∀ {l : List α}, l.Sorted (fun a b => c a b ≤ 0) → b ∈ l → (∀ x ∈ l, c b x ≤ 0) →
      List.Forall₂ (fun a b => c a b = 0) l (b :: l.erase b)
  | x :: xs, hs, hb, hmin => by
      rw [List.sorted_cons] at hs
      by_cases hxb : x = b
      · subst hxb
        rw [List.erase_cons_head]
        exact forall₂_tie_refl hc (x :: xs)
      · have hbxs : b ∈ xs := (List.mem_cons.1 hb).resolve_left (Ne.symm hxb)
        have hbx : c b x = 0 :=
          hc.eq_zero_of_nonpos (hmin x (List.mem_cons_self x xs)) (hs.1 b hbxs)
        rw [List.erase_cons_tail (by simpa using hxb)]
        refine .cons ((hc.zero_iff b x).1 hbx) ?_
        cases forall₂_tie_erase hc hs.2 hbxs fun y hy => hmin y (List.mem_cons_of_mem x hy) with
        | cons hhead htail => exact .cons (hc.zero_trans hhead hbx) htail

/-- Two sorted permutations of each other under a strict weak ordering agree position by
position up to ties: sorting fixes everything about the order except among tied elements. -/
theorem forall₂_tie_of_perm_of_sorted [DecidableEq α] (hc : StrictWeakOrder c) :
    ∀ {l₁ l₂ : List α}, l₁.Perm l₂ → l₁.Sorted (fun a b => c a b ≤ 0) →
      l₂.Sorted (fun a b => c a b ≤ 0) → List.Forall₂ (fun a b => c a b = 0) l₁ l₂
  | l₁, [], hp, _, _ => by rw [hp.eq_nil]; exact .nil
  | l₁, b :: t₂, hp, h₁, h₂ => by
      rw [List.sorted_cons] at h₂
      have hmin : ∀ x ∈ l₁, c b x ≤ 0 := fun x hx => by
        rcases List.mem_cons.1 (hp.subset hx) with rfl | hx
        · exact (hc.refl x).le
        · exact h₂.1 x hx
      have hrest : (l₁.erase b).Perm t₂ := by simpa using hp.erase b
      have ih := forall₂_tie_of_perm_of_sorted hc hrest (h₁.sublist (List.erase_sublist b l₁)) h₂.2
      exact forall₂_tie_trans hc
        (forall₂_tie_erase hc h₁ (hp.symm.subset (List.mem_cons_self b t₂)) hmin)
        (.cons (hc.refl b) ih)

/-- Elementwise ties carry over to any key that ties determine. -/
theorem map_eq_of_forall₂_tie {f : α → β} (hf : ∀ a b, c a b = 0 → f a = f b) :
    ∀ {l₁ l₂ : List α}, List.Forall₂ (fun a b => c a b = 0) l₁ l₂ → l₁.map f = l₂.map f
  | _, _, .nil => rfl
  | _, _, .cons h t => by simp [hf _ _ h, map_eq_of_forall₂_tie hf t]

end Ties

/-- Sorting two permutations of one list under a strict weak ordering yields lists that are
permutations of each other and agree, position by position, on every key that the
ordering's ties determine. -/
theorem SortFunc.run_agree [DecidableEq α] (sort : SortFunc) {cmp : α → α → Option Int}
    {c : α → α → Int} {f : α → β} {xs xs' ys ys' : List α} (hc : StrictWeakOrder c)
    (hf : ∀ a b, c a b = 0 → f a = f b) (hp : xs.Perm xs')
    (hcmp : AgreesOn cmp c xs) (hs : sort.run cmp xs = some ys)
    (hs' : sort.run cmp xs' = some ys') :
    ys.Perm ys' ∧ ys.map f = ys'.map f := by
  have hperm : ys.Perm ys' := ((sort.perm _ _ _ hs).trans hp).trans (sort.perm _ _ _ hs').symm
  exact ⟨hperm, map_eq_of_forall₂_tie hf (forall₂_tie_of_perm_of_sorted hc hperm
    (sort.sorted _ _ _ _ hc hcmp hs) (sort.sorted _ _ _ _ hc (hcmp.perm hp) hs'))⟩

/-- `sort.Strings`: the strings in increasing order. Every sort of a linear order yields
the same list, so Go's pdqsort is modelled by insertion sort. -/
def sortStrings (xs : List String) : List String :=
  xs.insertionSort (· ≤ ·)

theorem sortStrings_perm (xs : List String) : (sortStrings xs).Perm xs :=
  List.perm_insertionSort _ xs

theorem sortStrings_sorted (xs : List String) : (sortStrings xs).Sorted (· ≤ ·) :=
  List.sorted_insertionSort _ xs

/-- `sort.Strings` forgets the order it was given. -/
theorem sortStrings_eq_of_perm {xs ys : List String} (h : xs.Perm ys) :
    sortStrings xs = sortStrings ys :=
  List.eq_of_perm_of_sorted (((sortStrings_perm xs).trans h).trans (sortStrings_perm ys).symm)
    (sortStrings_sorted xs) (sortStrings_sorted ys)

end Scalibr.Go
