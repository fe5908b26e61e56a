import Scalibr.Inventory
import Scalibr.Go.Cmp

/-!
The comparison functions `sortResults` sorts with: `CmpPackages`, `cmpStatus`,
`cmpPackageVulns`, `cmpGenericFindings` and `cmpString`. `CmpPackages` reads `b.Plugins`
at the indices of `a.Plugins` and `cmpGenericFindings` dereferences `Adv`, `Adv.ID` and
`Target`, so both may panic and are `Option`-valued. The first never does and computes
`packageOrder`, a strict weak ordering; the second panics on two findings that share an
advisory reference when one of them has no target.
-/

namespace Scalibr

open Go

def cmpString (a b : String) : Int :=
  if a < b then -1 else if a > b then 1 else 0

@[simp] theorem cmpString_eq_cmpCompare (a b : String) : cmpString a b = cmpCompare a b := by
  unfold cmpString cmpCompare
  congr

/-- `cmpStatus`: by plugin name. -/
def cmpStatus (a b : Status) : Int :=
  cmpString a.name b.name

/-- `cmpPackageVulns`: by vulnerability identifier. -/
def cmpPackageVulns (a b : PackageVuln) : Int :=
  cmpString a.id b.id

namespace GenericFinding

/-- `f.Adv.ID.Reference`; `none` is a nil dereference of `Adv` or `Adv.ID`. -/
def reference (f : GenericFinding) : Option String :=
  (f.adv.bind GenericFindingAdvisory.id).map AdvisoryID.reference

/-- `f.Target.Extra`; `none` is a nil dereference of `Target`. -/
def targetExtra (f : GenericFinding) : Option String :=
  f.target.map GenericFindingTargetDetails.extra

end GenericFinding

/-- `cmpGenericFindings`: by advisory reference, and by the targets' details when the
references are equal. -/
def cmpGenericFindings (a b : GenericFinding) : Option Int :=
  match a.reference, b.reference with
  | some ra, some rb =>
      if ra ≠ rb then some (cmpString ra rb)
      else
        match a.targetExtra, b.targetExtra with
        | some ea, some eb => some (cmpString ea eb)
        | _, _ => none
  | _, _ => none

/-- The loop of `CmpPackages` over the indices of `a.Plugins`,
`res = cmp.Or(res, cmp.Compare(a.Plugins[i], b.Plugins[i]))`. Reading `b.Plugins[i]` past
its end is Go's index-out-of-range panic. -/
def pluginsLoop : List String → List String → Int → Option Int
  | [], _, res => some res
  | _ :: _, [], _ => none
  | x :: xs, y :: ys, res => pluginsLoop xs ys (cmpOr [res, cmpCompare x y])

def cmpPackages (a b : Package) : Option Int :=
  let res := cmpOr [cmpCompare a.name b.name, cmpCompare a.version b.version,
    cmpCompare a.plugins.length b.plugins.length]
  if res ≠ 0 then some res
  else
    match pluginsLoop a.plugins b.plugins 0 with
    | none => none
    | some res =>
        if res ≠ 0 then some res
        else some (cmpCompare (sprintV a.locations) (sprintV b.locations))

/-! ### The orders the comparators implement -/

/-- Lexicographic on the name, the version, the number of plugins, the plugins one by
one, and the `%v` rendering of the locations. -/
def packageOrder (a b : Package) : Int :=
  cmpOr [cmpCompare a.name b.name, cmpCompare a.version b.version,
    cmpCompare a.plugins.length b.plugins.length, cmpList cmpCompare a.plugins b.plugins,
    cmpCompare (sprintV a.locations) (sprintV b.locations)]

/-- By reference, then by the target's details, a missing part read as empty. -/
def findingOrder (a b : GenericFinding) : Int :=
  cmpOr [cmpCompare (a.reference.getD "") (b.reference.getD ""),
    cmpCompare (a.targetExtra.getD "") (b.targetExtra.getD "")]

/-- What `packageOrder` compares. -/
def packageKey (p : Package) : String × String × List String × String :=
  (p.name, p.version, p.plugins, sprintV p.locations)

/-- What `findingOrder` compares. -/
def findingKey (f : GenericFinding) : String × String :=
  (f.reference.getD "", f.targetExtra.getD "")

theorem cmpOr_pair_assoc (x y z : Int) : cmpOr [cmpOr [x, y], z] = cmpOr [x, cmpOr [y, z]] := by
  by_cases hx : x = 0 <;> simp [hx]

theorem cmpOr_eq_zero : ∀ {xs : List Int}, cmpOr xs = 0 ↔ ∀ x ∈ xs, x = 0
  | [] => by simp
  | x :: xs => by
      have ih := @cmpOr_eq_zero xs
      by_cases hx : x = 0 <;> simp [cmpOr_cons, hx, ih]

/-- On plugin lists of equal length the loop is the lexicographic comparison. -/
theorem pluginsLoop_eq : ∀ {xs ys : List String} (res : Int), xs.length = ys.length →
    pluginsLoop xs ys res = some (cmpOr [res, cmpList cmpCompare xs ys])
  | [], [], res, _ => by by_cases h : res = 0 <;> simp [pluginsLoop, cmpList, h]
  | x :: xs, y :: ys, res, h => by
      rw [pluginsLoop, pluginsLoop_eq _ (by simpa using h), cmpOr_pair_assoc]
      rfl

theorem cmpList_eq_zero [LinearOrder α] : ∀ {xs ys : List α},
    cmpList cmpCompare xs ys = 0 → xs = ys
  | [], [], _ => rfl
  | x :: xs, y :: ys, h => by
      rw [cmpList, cmpOr_pair] at h
      by_cases hxy : cmpCompare x y = 0
      · simp only [hxy, if_true] at h
        rw [cmpCompare_eq_zero.1 hxy, cmpList_eq_zero h]
      · simp [hxy] at h
  | [], _ :: _, h | _ :: _, [], h => by simp [cmpList] at h

theorem cmpOr_append : ∀ xs ys : List Int, cmpOr (xs ++ ys) = cmpOr [cmpOr xs, cmpOr ys]
  | [], ys => by simp
  | x :: xs, ys => by
      rw [List.cons_append, cmpOr_cons_pair x (xs ++ ys), cmpOr_append xs ys,
        ← cmpOr_pair_assoc, ← cmpOr_cons_pair x xs]

/-! ### `CmpPackages` -/

/-- `CmpPackages` never panics: it returns `packageOrder`. When the name, version and
plugin count tie, the plugin lists have equal length and the loop stays in range. -/
theorem cmpPackages_eq (a b : Package) : cmpPackages a b = some (packageOrder a b) := by
  have hsplit := cmpOr_append [cmpCompare a.name b.name, cmpCompare a.version b.version,
    cmpCompare a.plugins.length b.plugins.length]
    [cmpList cmpCompare a.plugins b.plugins, cmpCompare (sprintV a.locations) (sprintV b.locations)]
  unfold cmpPackages packageOrder
  rw [List.cons_append, List.cons_append, List.cons_append, List.nil_append] at hsplit
  rw [hsplit]
  dsimp only
  split_ifs with hres
  · simp [hres]
  · have hlen := cmpOr_eq_zero.1 (not_not.1 hres) (cmpCompare a.plugins.length b.plugins.length)
      (by simp)
    rw [pluginsLoop_eq 0 (cmpCompare_eq_zero.1 hlen)]
    by_cases hL : cmpList cmpCompare a.plugins b.plugins = 0 <;> simp [not_not.1 hres, hL]

theorem packageOrder_strictWeakOrder : StrictWeakOrder packageOrder := by
  show StrictWeakOrder fun a b => cmpOr (([fun a b => cmpCompare a.name b.name,
    fun a b => cmpCompare a.version b.version,
    fun a b => cmpCompare a.plugins.length b.plugins.length,
    fun a b => cmpList cmpCompare a.plugins b.plugins,
    fun a b => cmpCompare (sprintV a.locations) (sprintV b.locations)] :
      List (Package → Package → Int)).map fun c => c a b)
  refine StrictWeakOrder.chain fun c hc => ?_
  simp only [List.mem_cons, List.mem_singleton, List.not_mem_nil, or_false] at hc
  rcases hc with rfl | rfl | rfl | rfl | rfl
  · exact StrictWeakOrder.ofLinearOrder.comap Package.name
  · exact StrictWeakOrder.ofLinearOrder.comap Package.version
  · exact StrictWeakOrder.ofLinearOrder.comap fun p : Package => p.plugins.length
  · exact StrictWeakOrder.ofLinearOrder.list.comap Package.plugins
  · exact StrictWeakOrder.ofLinearOrder.comap fun p : Package => sprintV p.locations

/-- `CmpPackages` ties only packages with the same name, version, plugins and rendering of
their locations. -/
theorem packageKey_eq_of_packageOrder {a b : Package} (h : packageOrder a b = 0) :
    packageKey a = packageKey b := by
  have hz := cmpOr_eq_zero.1 h
  simp only [List.mem_cons, List.mem_singleton, List.not_mem_nil, or_false,
    forall_eq_or_imp, forall_eq] at hz
  obtain ⟨hn, hv, -, hp, hl⟩ := hz
  simp [packageKey, cmpCompare_eq_zero.1 hn, cmpCompare_eq_zero.1 hv, cmpList_eq_zero hp,
    cmpCompare_eq_zero.1 hl]

/-! ### Statuses, vulnerabilities and findings -/

theorem cmpStatus_strictWeakOrder : StrictWeakOrder cmpStatus := by
  have hc : cmpStatus = fun a b => cmpCompare a.name b.name := by
    funext a b
    simp [cmpStatus]
  exact hc ▸ StrictWeakOrder.ofLinearOrder.comap Status.name

theorem cmpPackageVulns_strictWeakOrder : StrictWeakOrder cmpPackageVulns := by
  have hc : cmpPackageVulns = fun a b => cmpCompare a.id b.id := by
    funext a b
    simp [cmpPackageVulns]
  exact hc ▸ StrictWeakOrder.ofLinearOrder.comap PackageVuln.id

theorem findingOrder_strictWeakOrder : StrictWeakOrder findingOrder :=
  (StrictWeakOrder.ofLinearOrder.comap fun f : GenericFinding => f.reference.getD "").lex
    (StrictWeakOrder.ofLinearOrder.comap fun f : GenericFinding => f.targetExtra.getD "")

theorem name_eq_of_cmpStatus {a b : Status} (h : cmpStatus a b = 0) : a.name = b.name := by
  simpa [cmpStatus, cmpCompare_eq_zero] using h

theorem id_eq_of_cmpPackageVulns {a b : PackageVuln} (h : cmpPackageVulns a b = 0) :
    a.id = b.id := by
  simpa [cmpPackageVulns, cmpCompare_eq_zero] using h

theorem findingKey_eq_of_findingOrder {a b : GenericFinding} (h : findingOrder a b = 0) :
    findingKey a = findingKey b := by
  by_cases hr : cmpCompare (a.reference.getD "") (b.reference.getD "") = 0 <;>
    simp_all [findingOrder, findingKey, cmpCompare_eq_zero]

/-- `cmpGenericFindings` panics exactly when a reference is missing, or when the references
are equal and a target is missing. -/
theorem cmpGenericFindings_isSome_iff {a b : GenericFinding} :
    (cmpGenericFindings a b).isSome ↔ a.reference.isSome ∧ b.reference.isSome ∧
      (a.reference = b.reference → a.targetExtra.isSome ∧ b.targetExtra.isSome) := by
  unfold cmpGenericFindings
  rcases a.reference with _ | ra <;> rcases b.reference with _ | rb <;> simp
  by_cases hr : ra = rb
  · rcases a.targetExtra with _ | ea <;> rcases b.targetExtra with _ | eb <;> simp [hr]
  · simp [hr]

/-- Where `cmpGenericFindings` does not panic it computes `findingOrder`. -/
theorem cmpGenericFindings_eq {a b : GenericFinding} (h : (cmpGenericFindings a b).isSome) :
    cmpGenericFindings a b = some (findingOrder a b) := by
  revert h
  unfold cmpGenericFindings findingOrder
  rcases a.reference with _ | ra <;> rcases b.reference with _ | rb <;> simp
  by_cases hr : ra = rb
  · rcases a.targetExtra with _ | ea <;> rcases b.targetExtra with _ | eb <;>
      simp_all [cmpCompare_self]
  · simp [hr, mt cmpCompare_eq_zero.1 hr]

theorem cmpPackages_strict_weak_order :
    (∀ a b, cmpPackages a b = some (packageOrder a b)) ∧ StrictWeakOrder packageOrder :=
  ⟨cmpPackages_eq, packageOrder_strictWeakOrder⟩

end Scalibr
