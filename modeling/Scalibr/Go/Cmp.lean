import Mathlib.Order.Lattice
import Mathlib.Data.Int.Order.Basic

/-!
The three-way comparisons of Go's `cmp` package that `sortResults` and `CmpPackages`
are built from, and the law `slices.SortFunc` asks of its comparison function: a strict
weak ordering, stated on the sign of the result. Comparators are `Int`-valued as in Go.
The lexicographic combinators at the end are what `CmpPackages` computes with `cmp.Or`.
-/

namespace Scalibr.Go

variable {α β : Type}

/-- `cmp.Compare`: `-1`, `0` or `+1` as `a` is less than, equal to or greater than `b`.
Go compares strings bytewise; for Lean strings, which are valid UTF-8, code-point order
is the same order. -/
def cmpCompare [LinearOrder β] (a b : β) : Int :=
  if a < b then -1 else if a > b then 1 else 0

/-- `cmp.Or`: the first argument that is not zero, or zero when all are. -/
def cmpOr : List Int → Int
  | [] => 0
  | x :: xs => if x ≠ 0 then x else cmpOr xs

/-- What `slices.SortFunc` requires of its comparison function. Equal elements compare
as zero, swapping the arguments flips the sign, and "not greater" is transitive. -/
structure StrictWeakOrder (c : α → α → Int) : Prop where
  refl : ∀ a, c a a = 0
  antisymm : ∀ a b, (c a b).sign = -(c b a).sign
  trans : ∀ a b d, c a b ≤ 0 → c b d ≤ 0 → c a d ≤ 0

@[simp] theorem cmpOr_nil : cmpOr [] = 0 := rfl

theorem cmpOr_cons (x : Int) (xs : List Int) :
    cmpOr (x :: xs) = if x = 0 then cmpOr xs else x := by
  by_cases hx : x = 0 <;> simp [cmpOr, hx]

/-- A longer `cmp.Or` is a pair whose second component is the rest. -/
theorem cmpOr_cons_pair (x : Int) (xs : List Int) :
    cmpOr (x :: xs) = cmpOr [x, cmpOr xs] := by
  by_cases hx : x = 0 <;> by_cases hr : cmpOr xs = 0 <;> simp [cmpOr_cons, hx, hr]

@[simp] theorem cmpOr_pair (x y : Int) : cmpOr [x, y] = if x = 0 then y else x := by
  by_cases hx : x = 0 <;> by_cases hy : y = 0 <;> simp [cmpOr, hx, hy]

/-- Lexicographic comparison of two lists under `c`, a proper prefix first. -/
def cmpList (c : α → α → Int) : List α → List α → Int
  | [], [] => 0
  | [], _ :: _ => -1
  | _ :: _, [] => 1
  | x :: xs, y :: ys => cmpOr [c x y, cmpList c xs ys]

theorem cmpCompare_self [LinearOrder β] (a : β) : cmpCompare a a = 0 := by
  simp [cmpCompare]

theorem cmpCompare_neg [LinearOrder β] {a b : β} : cmpCompare a b < 0 ↔ a < b := by
  unfold cmpCompare
  split_ifs with h₁ h₂ <;> simp [h₁]

theorem cmpCompare_pos [LinearOrder β] {a b : β} : 0 < cmpCompare a b ↔ b < a := by
  unfold cmpCompare
  split_ifs with h₁ h₂
  · simp [not_lt_of_gt h₁]
  · simp [h₂]
  · simpa using h₂

theorem cmpCompare_eq_zero [LinearOrder β] {a b : β} : cmpCompare a b = 0 ↔ a = b := by
  unfold cmpCompare
  split_ifs with h₁ h₂
  · simp [ne_of_lt h₁]
  · simp [ne_of_gt h₂]
  · simpa using le_antisymm (not_lt.1 h₂) (not_lt.1 h₁)

theorem cmpCompare_nonpos [LinearOrder β] {a b : β} : cmpCompare a b ≤ 0 ↔ a ≤ b := by
  rw [← not_lt, cmpCompare_pos, not_lt]

/-! ### Sign arithmetic behind antisymmetry -/

private theorem sign_eq_neg_sign_iff {x y : Int} :
    x.sign = -y.sign ↔ (x < 0 ↔ 0 < y) ∧ (x = 0 ↔ y = 0) := by
  rcases lt_trichotomy x 0 with hx | hx | hx <;>
    rcases lt_trichotomy y 0 with hy | hy | hy <;>
    simp [Int.sign_eq_neg_one_of_neg, Int.sign_eq_one_of_pos, hx, hy] <;> omega

namespace StrictWeakOrder

variable {c : α → α → Int}

theorem neg_iff_pos (h : StrictWeakOrder c) (a b : α) : c a b < 0 ↔ 0 < c b a :=
  (sign_eq_neg_sign_iff.1 (h.antisymm a b)).1

theorem zero_iff (h : StrictWeakOrder c) (a b : α) : c a b = 0 ↔ c b a = 0 :=
  (sign_eq_neg_sign_iff.1 (h.antisymm a b)).2

theorem nonpos_of_nonneg (h : StrictWeakOrder c) {a b : α} (hab : 0 ≤ c a b) :
    c b a ≤ 0 := by
  have := h.neg_iff_pos b a
  have := h.zero_iff b a
  omega

theorem eq_zero_of_nonpos (h : StrictWeakOrder c) {a b : α} (hab : c a b ≤ 0)
    (hba : c b a ≤ 0) : c a b = 0 := by
  have := h.neg_iff_pos a b
  omega

/-- Ties are transitive: incomparability is an equivalence. -/
theorem zero_trans (h : StrictWeakOrder c) {a b d : α}
    (hab : c a b = 0) (hbd : c b d = 0) : c a d = 0 := by
  have had := h.trans a b d hab.le hbd.le
  have hda := h.trans d b a ((h.zero_iff b d).1 hbd).le ((h.zero_iff a b).1 hab).le
  have := h.neg_iff_pos a d
  omega

/-- Less-than followed by not-greater is less-than. -/
theorem neg_trans_left (h : StrictWeakOrder c) {a b d : α}
    (hab : c a b < 0) (hbd : c b d ≤ 0) : c a d < 0 := by
  have had := h.trans a b d hab.le hbd
  rcases had.lt_or_eq with had | had
  · exact had
  · have hba := h.trans b d a hbd ((h.zero_iff a d).1 had).le
    have := h.neg_iff_pos a b
    omega

/-- Not-greater followed by less-than is less-than. -/
theorem neg_trans_right (h : StrictWeakOrder c) {a b d : α}
    (hab : c a b ≤ 0) (hbd : c b d < 0) : c a d < 0 := by
  have had := h.trans a b d hab hbd.le
  rcases had.lt_or_eq with had | had
  · exact had
  · have hdb := h.trans d a b ((h.zero_iff a d).1 had).le hab
    have := h.neg_iff_pos b d
    omega

/-- `cmp.Compare` on a linear order is a strict weak ordering. -/
theorem ofLinearOrder [LinearOrder β] : StrictWeakOrder (cmpCompare : β → β → Int) where
  refl := cmpCompare_self
  antisymm a b := sign_eq_neg_sign_iff.2 ⟨by rw [cmpCompare_neg, cmpCompare_pos],
    by rw [cmpCompare_eq_zero, cmpCompare_eq_zero, eq_comm]⟩
  trans a b d hab hbd := by
    rw [cmpCompare_nonpos] at *
    exact le_trans hab hbd

/-- Comparing by a key is a strict weak ordering when comparing keys is. -/
theorem comap (h : StrictWeakOrder c) (f : β → α) :
    StrictWeakOrder (fun a b => c (f a) (f b)) where
  refl a := h.refl (f a)
  antisymm a b := h.antisymm (f a) (f b)
  trans a b d := h.trans (f a) (f b) (f d)

/-! ### Lexicographic combination -/

/-- Antisymmetry survives a lexicographic step whose tail comparisons flip sign. -/
theorem lex_antisymm (h : StrictWeakOrder c) (a b : α) {p q : Int}
    (hpq : p.sign = -q.sign) : (cmpOr [c a b, p]).sign = -(cmpOr [c b a, q]).sign := by
  have hz := h.zero_iff a b
  have hn := h.antisymm a b
  simp only [cmpOr_pair]
  split_ifs <;> simp_all

/-- Transitivity survives a lexicographic step when the tails are transitive on ties. -/
theorem lex_trans (h : StrictWeakOrder c) {a b d : α} {p q r : Int}
    (htail : c a b = 0 → c b d = 0 → p ≤ 0 → q ≤ 0 → r ≤ 0)
    (hab : cmpOr [c a b, p] ≤ 0) (hbd : cmpOr [c b d, q] ≤ 0) : cmpOr [c a d, r] ≤ 0 := by
  simp only [cmpOr_pair] at *
  split_ifs at hab hbd with h₁ h₂ h₂
  · simp [h.zero_trans h₁ h₂, htail h₁ h₂ hab hbd]
  · have := h.neg_trans_right h₁.le (lt_of_le_of_ne hbd h₂)
    simp [this.ne, this.le]
  · have := h.neg_trans_left (lt_of_le_of_ne hab h₁) h₂.le
    simp [this.ne, this.le]
  · have := h.neg_trans_left (lt_of_le_of_ne hab h₁) hbd
    simp [this.ne, this.le]

/-- Comparing by `c₁` and breaking ties by `c₂` is a strict weak ordering. -/
theorem lex {c₁ c₂ : α → α → Int} (h₁ : StrictWeakOrder c₁) (h₂ : StrictWeakOrder c₂) :
    StrictWeakOrder (fun a b => cmpOr [c₁ a b, c₂ a b]) where
  refl a := by simp [h₁.refl a, h₂.refl a]
  antisymm a b := h₁.lex_antisymm a b (h₂.antisymm a b)
  trans a b d := h₁.lex_trans fun _ _ => h₂.trans a b d

/-- The lexicographic order on lists of a strict weak ordering is one. -/
theorem list (h : StrictWeakOrder c) : StrictWeakOrder (cmpList c) where
  refl xs := by
    induction xs with
    | nil => rfl
    | cons x xs ih => simp [cmpList, ih, h.refl x]
  antisymm xs ys := by
    induction xs generalizing ys with
    | nil => cases ys <;> simp [cmpList]
    | cons x xs ih =>
        cases ys with
        | nil => simp [cmpList]
        | cons y ys => exact h.lex_antisymm x y (ih ys)
  trans xs ys zs := by
    induction xs generalizing ys zs with
    | nil => cases zs <;> simp [cmpList]
    | cons x xs ih =>
        cases ys with
        | nil => simp [cmpList]
        | cons y ys =>
            cases zs with
            | nil => cases ys <;> simp [cmpList]
            | cons z zs => exact h.lex_trans fun _ _ => ih ys zs

/-- The constant comparison: everything ties. -/
theorem zero : StrictWeakOrder (fun (_ _ : α) => (0 : Int)) where
  refl _ := rfl
  antisymm _ _ := rfl
  trans _ _ _ _ _ := le_rfl

/-- A `cmp.Or` chain of strict weak orderings is one. -/
theorem chain : ∀ {cs : List (α → α → Int)}, (∀ c ∈ cs, StrictWeakOrder c) →
    StrictWeakOrder (fun a b => cmpOr (cs.map fun c => c a b))
  | [], _ => zero
  | c :: cs, h => by
      have hrest := chain fun c' hc' => h c' (List.mem_cons_of_mem c hc')
      have hpair : (fun a b => cmpOr ((c :: cs).map fun c => c a b)) =
          fun a b => cmpOr [c a b, cmpOr (cs.map fun c => c a b)] := by
        funext a b
        exact cmpOr_cons_pair _ _
      rw [hpair]
      exact (h c (List.mem_cons_self c cs)).lex hrest

end StrictWeakOrder

end Scalibr.Go
