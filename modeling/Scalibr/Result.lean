import Scalibr.Compare
import Scalibr.Go.Slices

/-!
The scan result and its final assembly, `newScanResult` and `sortResults`. Sorting is what
the spec relies on to make a scan's output independent of the order in which plugins and
the filesystem walk produced it. Because the comparators order by name or identifier
only, that holds up to items that tie (`sortResults_reordered`), not item by item; and a
pair of findings that share a reference and lack a target makes the sort panic.
-/

namespace Scalibr

open Go

/-- `result.ScanResult` without its timestamps and scanner version, which the code only
copies. -/
structure ScanResult where
  status : ScanStatus
  pluginStatus : List Status
  inventory : Inventory
deriving DecidableEq, Repr

/-- `sort.Strings(pkg.Locations)`. -/
def Package.sortLocations (pkg : Package) : Package :=
  { pkg with locations := sortStrings pkg.locations }

/-- `sortResults`: each package's locations, then the plugin statuses, the packages, the
vulnerabilities and the findings. `none` is a panic inside a comparison. -/
def sortResults (sort : SortFunc) (results : ScanResult) : Option ScanResult :=
  match sort.run (fun a b => some (cmpStatus a b)) results.pluginStatus,
      sort.run cmpPackages (results.inventory.packages.map Package.sortLocations),
      sort.run (fun a b => some (cmpPackageVulns a b)) results.inventory.packageVulns,
      sort.run cmpGenericFindings results.inventory.genericFindings with
  | some pluginStatus, some packages, some packageVulns, some genericFindings =>
      some { results with pluginStatus, inventory := ⟨packages, packageVulns, genericFindings⟩ }
  | _, _, _, _ => none

/-- `newScanResultOptions` without the start and end times. -/
structure NewScanResultOptions where
  extractorStatus : List Status := []
  detectorStatus : List Status := []
  annotatorStatus : List Status := []
  enricherStatus : List Status := []
  inventory : Inventory := Inventory.empty
  err : Option GoError := none

/-- The overall status `newScanResult` records: failed with the error's text, or
succeeded. -/
def scanStatusOf : Option GoError → ScanStatus
  | some err => ⟨.failed, err.msg⟩
  | none => ⟨.succeeded, ""⟩

/-- `newScanResult`: the status from the error, the four status lists concatenated, then
`sortResults`. -/
def newScanResult (sort : SortFunc) (o : NewScanResultOptions) : Option ScanResult :=
  sortResults sort ⟨scanStatusOf o.err,
    o.extractorStatus ++ o.detectorStatus ++ o.annotatorStatus ++ o.enricherStatus,
    o.inventory⟩

/-! ### What `sortResults` returns -/

section Sorting

variable {sort : SortFunc} {r s : ScanResult}

theorem sortResults_eq_some (h : sortResults sort r = some s) :
    ∃ ps pk pv gf, sort.run (fun a b => some (cmpStatus a b)) r.pluginStatus = some ps ∧
      sort.run cmpPackages (r.inventory.packages.map Package.sortLocations) = some pk ∧
      sort.run (fun a b => some (cmpPackageVulns a b)) r.inventory.packageVulns = some pv ∧
      sort.run cmpGenericFindings r.inventory.genericFindings = some gf ∧
      s = ⟨r.status, ps, ⟨pk, pv, gf⟩⟩ := by
  unfold sortResults at h
  split at h
  · cases h
    exact ⟨_, _, _, _, ‹_›, ‹_›, ‹_›, ‹_›, rfl⟩
  · cases h

theorem sortResults_status (h : sortResults sort r = some s) : s.status = r.status := by
  obtain ⟨_, _, _, _, _, _, _, _, rfl⟩ := sortResults_eq_some h
  rfl

/-- Sorting keeps every item: each list of the result is a permutation of the input's, the
packages with their locations sorted. -/
theorem sortResults_perm (h : sortResults sort r = some s) :
    s.pluginStatus.Perm r.pluginStatus ∧
      s.inventory.packages.Perm (r.inventory.packages.map Package.sortLocations) ∧
      s.inventory.packageVulns.Perm r.inventory.packageVulns ∧
      s.inventory.genericFindings.Perm r.inventory.genericFindings := by
  obtain ⟨ps, pk, pv, gf, hps, hpk, hpv, hgf, rfl⟩ := sortResults_eq_some h
  exact ⟨sort.perm _ _ _ hps, sort.perm _ _ _ hpk, sort.perm _ _ _ hpv, sort.perm _ _ _ hgf⟩

/-- `sortResults` panics only on two findings at distinct positions that
`cmpGenericFindings` cannot compare. -/
theorem sortResults_isSome (hcmp : Comparable cmpGenericFindings r.inventory.genericFindings) :
    (sortResults sort r).isSome := by
  obtain ⟨ps, hps⟩ := Option.isSome_iff_exists.1
    (sort.total (fun a b => some (cmpStatus a b)) r.pluginStatus (.of_isSome fun _ _ => rfl))
  obtain ⟨pk, hpk⟩ := Option.isSome_iff_exists.1
    (sort.total cmpPackages (r.inventory.packages.map Package.sortLocations)
      (.of_isSome fun a b => by simp [cmpPackages_eq]))
  obtain ⟨pv, hpv⟩ := Option.isSome_iff_exists.1
    (sort.total (fun a b => some (cmpPackageVulns a b)) r.inventory.packageVulns
      (.of_isSome fun _ _ => rfl))
  obtain ⟨gf, hgf⟩ := Option.isSome_iff_exists.1 (sort.total cmpGenericFindings _ hcmp)
  simp [sortResults, hps, hpk, hpv, hgf]

theorem newScanResult_status {o : NewScanResultOptions} (h : newScanResult sort o = some s) :
    s.status = scanStatusOf o.err :=
  sortResults_status h

theorem newScanResult_isSome {o : NewScanResultOptions}
    (hcmp : Comparable cmpGenericFindings o.inventory.genericFindings) :
    (newScanResult sort o).isSome :=
  sortResults_isSome hcmp

/-- `newScanResult` succeeds when the findings compare, with the status of the error, all
four status lists, and all packages with their locations sorted. -/
theorem newScanResult_spec (sort : SortFunc) (o : NewScanResultOptions)
    (hcmp : Comparable cmpGenericFindings o.inventory.genericFindings) :
    ∃ r, newScanResult sort o = some r ∧ r.status = scanStatusOf o.err ∧
      r.pluginStatus.Perm
        (o.extractorStatus ++ o.detectorStatus ++ o.annotatorStatus ++ o.enricherStatus) ∧
      r.inventory.packages.Perm (o.inventory.packages.map Package.sortLocations) := by
  obtain ⟨r, hr⟩ := Option.isSome_iff_exists.1 (newScanResult_isSome hcmp :
    (newScanResult sort o).isSome)
  have hperm := sortResults_perm hr
  exact ⟨r, hr, newScanResult_status hr, hperm.1, hperm.2.1⟩

/-- What `sortResults` establishes: each package's locations in string order, and each of
the four lists in the order of its comparator. -/
structure ScanResult.Sorted (r : ScanResult) : Prop where
  pluginStatus : r.pluginStatus.Sorted fun a b => cmpStatus a b ≤ 0
  locations : ∀ p ∈ r.inventory.packages, p.locations.Sorted (· ≤ ·)
  packages : r.inventory.packages.Sorted fun a b => packageOrder a b ≤ 0
  packageVulns : r.inventory.packageVulns.Sorted fun a b => cmpPackageVulns a b ≤ 0
  genericFindings : r.inventory.genericFindings.Sorted fun a b => findingOrder a b ≤ 0

/-- A result `sortResults` returns is sorted, when its findings all compare. -/
theorem sortResults_sorted (h : sortResults sort r = some s)
    (hcmp : Comparable cmpGenericFindings s.inventory.genericFindings) : s.Sorted := by
  have hgf := (sortResults_perm h).2.2.2
  obtain ⟨ps, pk, pv, gf, hps, hpk, hpv, hgf', rfl⟩ := sortResults_eq_some h
  refine ⟨sort.sorted _ _ _ _ cmpStatus_strictWeakOrder (.of_eq fun _ _ => rfl) hps,
    fun p hp => ?_, sort.sorted _ _ _ _ packageOrder_strictWeakOrder
      (.of_eq cmpPackages_eq) hpk,
    sort.sorted _ _ _ _ cmpPackageVulns_strictWeakOrder (.of_eq fun _ _ => rfl) hpv,
    sort.sorted _ _ _ _ findingOrder_strictWeakOrder
      ((hcmp.perm hgf).agreesOn fun _ _ => cmpGenericFindings_eq) hgf'⟩
  obtain ⟨q, -, rfl⟩ := List.mem_map.1 ((sort.perm _ _ _ hpk).subset hp)
  exact sortStrings_sorted q.locations

end Sorting

/-! ### Reordering the input -/

/-- `q` is `p` with its locations listed in another order. -/
def Package.LocationsReordered (p q : Package) : Prop :=
  q.locations.Perm p.locations ∧ { q with locations := [] } = { p with locations := [] }

theorem Package.sortLocations_eq_of_reordered {p q : Package} (h : p.LocationsReordered q) :
    q.sortLocations = p.sortLocations := by
  obtain ⟨hperm, hrest⟩ := h
  cases p
  cases q
  simp only [Package.mk.injEq, true_and] at hrest
  obtain ⟨rfl, rfl, rfl, rfl⟩ := hrest
  simp [Package.sortLocations, sortStrings_eq_of_perm hperm]

/-- `r'` is `r` with each of its four lists, and each package's locations, in another
order. -/
structure Reordered (r r' : ScanResult) : Prop where
  status : r'.status = r.status
  pluginStatus : r'.pluginStatus.Perm r.pluginStatus
  packages : ∃ ps, ps.Perm r.inventory.packages ∧
    List.Forall₂ Package.LocationsReordered ps r'.inventory.packages
  packageVulns : r'.inventory.packageVulns.Perm r.inventory.packageVulns
  genericFindings : r'.inventory.genericFindings.Perm r.inventory.genericFindings

theorem map_sortLocations_eq_of_reordered {ps qs : List Package}
    (h : List.Forall₂ Package.LocationsReordered ps qs) :
    ps.map Package.sortLocations = qs.map Package.sortLocations := by
  induction h with
  | nil => rfl
  | cons hpq _ ih => simp [Package.sortLocations_eq_of_reordered hpq, ih]

/-- Sorting the locations of each package undoes a reordering of them. -/
theorem Reordered.sortLocations_perm {r r' : ScanResult} (h : Reordered r r') :
    (r.inventory.packages.map Package.sortLocations).Perm
      (r'.inventory.packages.map Package.sortLocations) := by
  obtain ⟨ps, hps, hlocs⟩ := h.packages
  rw [← map_sortLocations_eq_of_reordered hlocs]
  exact (hps.map _).symm

/-- A finding as the filebrowser detector builds it: an advisory with an identifier, and
no target. -/
def fileBrowserFinding : GenericFinding :=
  ⟨some ⟨some ⟨"SCALIBR", "file-browser-weakcredentials"⟩⟩, none, []⟩

/-- Two statuses under one plugin name, one succeeded and one failed, as a filesystem and a
standalone extractor of the same name report them. -/
def twoStatusesOneName : ScanResult :=
  ⟨⟨.succeeded, ""⟩, [⟨"x", 0, ⟨.succeeded, ""⟩⟩, ⟨"x", 0, ⟨.failed, "boom"⟩⟩], Inventory.empty⟩

def twoStatusesOneNameSwapped : ScanResult :=
  ⟨⟨.succeeded, ""⟩, [⟨"x", 0, ⟨.failed, "boom"⟩⟩, ⟨"x", 0, ⟨.succeeded, ""⟩⟩], Inventory.empty⟩

/-- `cmpStatus` ties two statuses of one name, and slices of at most twelve elements are
sorted by insertion, which keeps tied elements in place: the published order of the two
statuses is the order they were produced in, for every sort that meets the contract. -/
theorem sortResults_depends_on_input_order :
    Reordered twoStatusesOneName twoStatusesOneNameSwapped ∧
      ∀ sort : SortFunc,
        sortResults sort twoStatusesOneName ≠ sortResults sort twoStatusesOneNameSwapped := by
  refine ⟨⟨rfl, List.Perm.swap _ _ _, ⟨[], .nil, .nil⟩, .nil, .nil⟩, fun sort => ?_⟩
  simp [sortResults, sort.small, twoStatusesOneName, twoStatusesOneNameSwapped,
    insertionSortCmpFunc, insertionLoop, insertLeft, cmpStatus, cmpCompare_self, Inventory.empty]

/-- What two sorted results share when their inputs differ only in order: the status, and
lists that are permutations of each other and agree position by position on what the
comparators read. -/
structure SameUpToTies (s s' : ScanResult) : Prop where
  status : s.status = s'.status
  pluginStatus : s.pluginStatus.Perm s'.pluginStatus ∧
    s.pluginStatus.map Status.name = s'.pluginStatus.map Status.name
  packages : s.inventory.packages.Perm s'.inventory.packages ∧
    s.inventory.packages.map packageKey = s'.inventory.packages.map packageKey
  packageVulns : s.inventory.packageVulns.Perm s'.inventory.packageVulns ∧
    s.inventory.packageVulns.map PackageVuln.id = s'.inventory.packageVulns.map PackageVuln.id
  genericFindings : s.inventory.genericFindings.Perm s'.inventory.genericFindings ∧
    s.inventory.genericFindings.map findingKey = s'.inventory.genericFindings.map findingKey

/-- Sorting makes the published order independent of the input order up to ties: for
every result whose findings compare without a nil dereference at every two distinct
positions, `sortResults` of any reordering returns lists that are permutations of the
original's and that agree with it, position by position, on plugin names, package keys,
vulnerability IDs and finding keys. -/
theorem sortResults_reordered (sort : SortFunc) {r r' : ScanResult} (hr : Reordered r r')
    (hcmp : Comparable cmpGenericFindings r.inventory.genericFindings) :
    ∃ s s', sortResults sort r = some s ∧ sortResults sort r' = some s' ∧ SameUpToTies s s' := by
  obtain ⟨s, hs⟩ := Option.isSome_iff_exists.1
    (sortResults_isSome hcmp : (sortResults sort r).isSome)
  obtain ⟨s', hs'⟩ := Option.isSome_iff_exists.1
    (sortResults_isSome (hcmp.perm hr.genericFindings.symm) : (sortResults sort r').isSome)
  refine ⟨s, s', hs, hs', ?_⟩
  obtain ⟨ps, pk, pv, gf, hps, hpk, hpv, hgf, rfl⟩ := sortResults_eq_some hs
  obtain ⟨ps', pk', pv', gf', hps', hpk', hpv', hgf', rfl⟩ := sortResults_eq_some hs'
  exact
    { status := hr.status.symm
      pluginStatus := sort.run_agree cmpStatus_strictWeakOrder
        (fun _ _ => name_eq_of_cmpStatus) hr.pluginStatus.symm (.of_eq fun _ _ => rfl) hps hps'
      packages := sort.run_agree packageOrder_strictWeakOrder
        (fun _ _ => packageKey_eq_of_packageOrder) hr.sortLocations_perm
        (.of_eq cmpPackages_eq) hpk hpk'
      packageVulns := sort.run_agree cmpPackageVulns_strictWeakOrder
        (fun _ _ => id_eq_of_cmpPackageVulns) hr.packageVulns.symm (.of_eq fun _ _ => rfl) hpv
        hpv'
      genericFindings := sort.run_agree findingOrder_strictWeakOrder
        (fun _ _ => findingKey_eq_of_findingOrder) hr.genericFindings.symm
        (hcmp.agreesOn fun _ _ => cmpGenericFindings_eq) hgf hgf' }

/-- `twoStatusesOneName` with one finding as the File Browser detector builds it, without a
target. -/
def statusesAndFileBrowserFinding : ScanResult :=
  { twoStatusesOneName with inventory := ⟨[], [], [fileBrowserFinding]⟩ }

def statusesAndFileBrowserFindingSwapped : ScanResult :=
  { twoStatusesOneNameSwapped with inventory := ⟨[], [], [fileBrowserFinding]⟩ }

theorem sortResults_reordered_on_fileBrowserFinding :
    Reordered statusesAndFileBrowserFinding statusesAndFileBrowserFindingSwapped ∧
      Comparable cmpGenericFindings statusesAndFileBrowserFinding.inventory.genericFindings ∧
      ∃ s s', sortResults .insertion statusesAndFileBrowserFinding = some s ∧
        sortResults .insertion statusesAndFileBrowserFindingSwapped = some s' ∧
        SameUpToTies s s' := by
  have hr : Reordered statusesAndFileBrowserFinding statusesAndFileBrowserFindingSwapped :=
    ⟨rfl, List.Perm.swap _ _ _, ⟨[], .nil, .nil⟩, .nil, List.Perm.refl _⟩
  have hcmp : Comparable cmpGenericFindings
      statusesAndFileBrowserFinding.inventory.genericFindings :=
    List.pairwise_singleton _ _
  exact ⟨hr, hcmp, sortResults_reordered .insertion hr hcmp⟩

/-! ### Findings without a target -/

def twoTargetlessFindings : ScanResult :=
  ⟨⟨.succeeded, ""⟩, [], ⟨[], [], [fileBrowserFinding, fileBrowserFinding]⟩⟩

/-- Two findings with one reference make `cmpGenericFindings` read `Target.Extra` of a nil
target: `sortResults` panics, whatever sort meets the contract. -/
theorem sortResults_panics_on_targetless_findings (sort : SortFunc) :
    sortResults sort twoTargetlessFindings = none := by
  simp [sortResults, sort.small, twoTargetlessFindings, fileBrowserFinding, insertionSortCmpFunc,
    insertionLoop, insertLeft, cmpGenericFindings, GenericFinding.reference,
    GenericFinding.targetExtra]

end Scalibr
