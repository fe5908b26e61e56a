import Scalibr.Scan

/-!
`Scanner.ScanContainer`: `Scan` over the flattened filesystem of a container image with the
caller's enrichers held back, then layer attribution, then enrichment with the held-back
enrichers over the attributed inventory. The image, its filesystem and its chain layers lie
outside src/, and so does `trace.PopulateLayerDetails`, which is modelled from the spec's
account of layer attribution.

The enrichment `ScanContainer` runs itself comes after `Scan` has resolved requirements,
validated the plugins, joined the errors and sorted the result, and it goes through none of
these: its enrichers are never validated, its error replaces the failure reason, and its
statuses are appended unsorted. The enrichers are cleared from the caller's config and not
put back.
-/

namespace Scalibr

open Go

/-- `image.ChainLayer`: the layer's diff ID and the files of the image as of that layer. -/
structure ChainLayer where
  diffID : String
  files : List String
deriving DecidableEq, Repr

/-- `image.Image`: its flattened filesystem, known by name, and what `ChainLayers` returns. -/
structure Image where
  fs : String
  chainLayers : Except GoError (List ChainLayer)

/-- Modelled from the spec: the first chain layer, from position `i` on, whose files hold
every one of `locations`. -/
def originLayerFrom (locations : List String) : Nat → List ChainLayer → Option LayerDetails
  | _, [] => none
  | i, l :: ls =>
      if ∀ x ∈ locations, x ∈ l.files then some ⟨i, l.diffID⟩
      else originLayerFrom locations (i + 1) ls

/-- Modelled from the spec: the earliest chain layer whose files hold every one of
`locations`. -/
def originLayer (chainLayers : List ChainLayer) (locations : List String) :
    Option LayerDetails :=
  originLayerFrom locations 0 chainLayers

/-- Modelled from the spec: the package with the layer it was attributed to, or as it was
when no layer holds all of its locations. -/
def Package.attributeLayer (chainLayers : List ChainLayer) (pkg : Package) : Package :=
  match originLayer chainLayers pkg.locations with
  | some d => { pkg with layerDetails := some d }
  | none => pkg

/-- Modelled from the spec: `trace.PopulateLayerDetails` attributes every package of the
inventory to a layer. -/
def populateLayerDetails (chainLayers : List ChainLayer) (inv : Inventory) : Inventory :=
  { inv with packages := inv.packages.map (Package.attributeLayer chainLayers) }

/-- `fmt.Errorf("failed to get chain layers: %w", err)`. -/
def chainLayersError (err : GoError) : GoError :=
  .mk ("failed to get chain layers: " ++ err.msg) [err] false

/-- The config `ScanContainer` scans with: the image's filesystem as the one root, and no
enrichers. -/
def ScanConfig.forImage (config : ScanConfig) (img : Image) : ScanConfig :=
  { config with scanRoots := [⟨img.fs, ""⟩], enrichers := [] }

/-- What a call to `ScanContainer` leaves: the result or the error it returns (`none` for a
panic while sorting), the caller's config afterwards, and the collaborator calls in order. -/
structure ContainerOutcome where
  result : Option (Except GoError ScanResult)
  config : ScanConfig
  calls : List Call

/-- The result `ScanContainer` builds from the one `Scan` returned and from the enrichment
it runs itself: the enricher error, when there is one, replaces the status, and the
enricher statuses are appended. -/
def containerResult (scanResult : ScanResult) (enriched : Inventory)
    (enricherStatus : List Status) (err : Option GoError) : ScanResult :=
  let status : ScanStatus := match err with
    | some err => ⟨.failed, err.msg⟩
    | none => scanResult.status
  ⟨status, scanResult.pluginStatus ++ enricherStatus, enriched⟩

/-- `Scanner.ScanContainer`. The caller's config is overwritten by `forImage` before the
chain layers are read. -/
def scanContainer (c : Collaborators) (img : Image) (config : ScanConfig) : ContainerOutcome :=
  let imageRoot : ScanRoot := ⟨img.fs, ""⟩
  let enrichers := config.enrichers
  let config := config.forImage img
  match img.chainLayers with
  | .error err => ⟨some (.error (chainLayersError err)), config, []⟩
  | .ok chainLayers =>
      let o := scan c config
      match o.result with
      | none => ⟨none, o.config, o.calls⟩
      | some scanResult =>
          let inv := populateLayerDetails chainLayers scanResult.inventory
          let (enriched, enricherStatus, err) := c.enricherRun enrichers imageRoot inv
          ⟨some (.ok (containerResult scanResult enriched enricherStatus err)), o.config,
            o.calls ++ [.populateLayerDetails o.config.filesystemExtractors,
              .enricherRun enrichers inv]⟩

/-! ### Layer attribution -/

/-- The layer found from position `i` on is the first that holds every location: the
layers before it each miss one. -/
theorem originLayerFrom_eq_some {locations : List String} :
    ∀ {i : Nat} {ls : List ChainLayer} {d : LayerDetails},
      originLayerFrom locations i ls = some d →
      ∃ pre l post, ls = pre ++ l :: post ∧ d = ⟨i + pre.length, l.diffID⟩ ∧
        (∀ x ∈ locations, x ∈ l.files) ∧ ∀ l' ∈ pre, ∃ x ∈ locations, x ∉ l'.files
  | _, [], _, h => by cases h
  | i, l :: ls, d, h => by
      unfold originLayerFrom at h
      split_ifs at h with hholds
      · cases h
        exact ⟨[], l, ls, rfl, rfl, hholds, by simp⟩
      · obtain ⟨pre, l', post, rfl, rfl, hl', hpre⟩ := originLayerFrom_eq_some h
        refine ⟨l :: pre, l', post, rfl, by simp [Nat.add_comm pre.length 1, Nat.add_assoc],
          hl', ?_⟩
        simp only [List.mem_cons, forall_eq_or_imp]
        exact ⟨by simpa using hholds, hpre⟩

/-- No layer is found when every layer misses a location. -/
theorem originLayerFrom_eq_none {locations : List String} :
    ∀ {i : Nat} {ls : List ChainLayer},
      originLayerFrom locations i ls = none ↔ ∀ l ∈ ls, ∃ x ∈ locations, x ∉ l.files
  | _, [] => by simp [originLayerFrom]
  | i, l :: ls => by
      unfold originLayerFrom
      split_ifs with hholds
      · simp only [reduceCtorEq, false_iff, not_forall]
        exact ⟨l, List.mem_cons_self l ls, by simpa using hholds⟩
      · rw [originLayerFrom_eq_none]
        simp only [List.mem_cons, forall_eq_or_imp]
        exact ⟨fun h => ⟨by simpa using hholds, h⟩, And.right⟩

/-! ### The exits of `ScanContainer` -/

section Exits

variable {c : Collaborators} {img : Image} {config : ScanConfig}

theorem scanContainer_of_chainLayers_error {err : GoError} (h : img.chainLayers = .error err) :
    scanContainer c img config =
      ⟨some (.error (chainLayersError err)), config.forImage img, []⟩ := by
  simp [scanContainer, h]

theorem scanContainer_of_scan {chainLayers : List ChainLayer} {scanResult : ScanResult}
    (hlayers : img.chainLayers = .ok chainLayers)
    (hscan : (scan c (config.forImage img)).result = some scanResult) :
    let inv := populateLayerDetails chainLayers scanResult.inventory
    let enriched := c.enricherRun config.enrichers ⟨img.fs, ""⟩ inv
    scanContainer c img config =
      ⟨some (.ok (containerResult scanResult enriched.1 enriched.2.1 enriched.2.2)),
        (scan c (config.forImage img)).config,
        (scan c (config.forImage img)).calls ++
          [.populateLayerDetails (scan c (config.forImage img)).config.filesystemExtractors,
            .enricherRun config.enrichers inv]⟩ := by
  simp [scanContainer, hlayers, hscan]

theorem scanContainer_of_scan_panic {chainLayers : List ChainLayer}
    (hlayers : img.chainLayers = .ok chainLayers)
    (hscan : (scan c (config.forImage img)).result = none) :
    scanContainer c img config =
      ⟨none, (scan c (config.forImage img)).config, (scan c (config.forImage img)).calls⟩ := by
  simp [scanContainer, hlayers, hscan]

theorem scan_forImage_enrichers (c : Collaborators) (img : Image) (config : ScanConfig) :
    (scan c (config.forImage img)).config.enrichers = [] := by
  obtain ⟨fs, st, h⟩ := preflight_appends c (config.forImage img)
  rw [scan_config, h]
  rfl

/-- The config `ScanContainer` leaves: the caller's made over for the image, as it returned
early, or as `Scan` left it. -/
theorem scanContainer_config (c : Collaborators) (img : Image) (config : ScanConfig) :
    (scanContainer c img config).config = config.forImage img ∨
      (scanContainer c img config).config = (scan c (config.forImage img)).config := by
  rcases hlayers : img.chainLayers with err | chainLayers
  · exact .inl (by rw [scanContainer_of_chainLayers_error hlayers])
  rcases hscan : (scan c (config.forImage img)).result with _ | scanResult
  · exact .inr (by rw [scanContainer_of_scan_panic hlayers hscan])
  · exact .inr (by rw [scanContainer_of_scan hlayers hscan])

theorem scanContainer_config_enrichers (c : Collaborators) (img : Image) (config : ScanConfig) :
    (scanContainer c img config).config.enrichers = [] := by
  rcases scanContainer_config c img config with h | h <;> rw [h]
  · rfl
  · exact scan_forImage_enrichers c img config

theorem scanContainer_config_scanRoots (c : Collaborators) (img : Image) (config : ScanConfig) :
    (scanContainer c img config).config.scanRoots = [⟨img.fs, ""⟩] := by
  rcases scanContainer_config c img config with h | h <;> rw [h]
  · rfl
  obtain ⟨fs, st, hpre⟩ := preflight_appends c (config.forImage img)
  rw [scan_config, hpre]
  rfl

/-- Every call of `ScanContainer` hands over one of the plugin lists of the config `Scan`
left, except the enrichment it runs itself, which hands over the caller's enrichers. -/
theorem scanContainer_handsOver (c : Collaborators) (img : Image) (config : ScanConfig) :
    ∀ call ∈ (scanContainer c img config).calls,
      call.HandsOver (scan c (config.forImage img)).config ∨ call.HandsOver config := by
  have hscan : ∀ call ∈ (scan c (config.forImage img)).calls,
      call.HandsOver (scan c (config.forImage img)).config ∨ call.HandsOver config :=
    fun call h => .inl (scan_handsOver c _ call h)
  rcases hlayers : img.chainLayers with err | chainLayers
  · simp [scanContainer_of_chainLayers_error hlayers]
  rcases hres : (scan c (config.forImage img)).result with _ | scanResult
  · rw [scanContainer_of_scan_panic hlayers hres]
    exact hscan
  · rw [scanContainer_of_scan hlayers hres]
    simp only [List.mem_append, List.mem_cons, List.mem_nil_iff, or_false]
    rintro call (hcall | rfl | rfl)
    exacts [hscan call hcall, .inl rfl, .inr rfl]

/-- `ScanContainer` hands the enricher runner no enrichers, or the caller's. -/
theorem scanContainer_enricherRun (c : Collaborators) (img : Image) (config : ScanConfig)
    {es : List Enricher} {inv : Inventory}
    (hcall : Call.enricherRun es inv ∈ (scanContainer c img config).calls) :
    es = [] ∨ es = config.enrichers :=
  (scanContainer_handsOver c img config _ hcall).imp
    (fun h => Eq.trans h (scan_forImage_enrichers c img config)) id

end Exits

/-! ### The caller's config -/

/-- `ScanContainer` leaves the caller's config with the image's filesystem as its one scan
root and with no enrichers, on every path, the early return on a chain layer error
included. Otherwise it only appends, to the two extractor lists. -/
theorem scanContainer_overwrites_config (c : Collaborators) (img : Image)
    (config : ScanConfig) :
    ∃ fs st,
      (scanContainer c img config).config = (config.appendExtractors fs st).forImage img := by
  rcases hlayers : img.chainLayers with err | chainLayers
  · exact ⟨[], [], by simp [scanContainer_of_chainLayers_error hlayers]⟩
  obtain ⟨fs, st, h⟩ := preflight_appends c (config.forImage img)
  have hconfig : (scan c (config.forImage img)).config =
      (config.appendExtractors fs st).forImage img := by
    rw [scan_config, h]
    rfl
  refine ⟨fs, st, ?_⟩
  rcases hscan : (scan c (config.forImage img)).result with _ | scanResult
  · rw [scanContainer_of_scan_panic hlayers hscan, hconfig]
  · rw [scanContainer_of_scan hlayers hscan, hconfig]

/-! ### The error `ScanContainer` returns -/

/-- `ScanContainer` returns an error only when the image's chain layers cannot be read, and
then that error, wrapped. Every failure of the scan itself, of its checks, its phases or its
own enrichment, is reported inside the result it returns. -/
theorem scanContainer_error_only_for_chainLayers (c : Collaborators) (img : Image)
    (config : ScanConfig) {e : GoError}
    (h : (scanContainer c img config).result = some (.error e)) :
    ∃ err, img.chainLayers = .error err ∧ e = chainLayersError err := by
  rcases hlayers : img.chainLayers with err | chainLayers
  · rw [scanContainer_of_chainLayers_error hlayers] at h
    cases h
    exact ⟨err, rfl, rfl⟩
  rcases hscan : (scan c (config.forImage img)).result with _ | scanResult
  · rw [scanContainer_of_scan_panic hlayers hscan] at h
    cases h
  · rw [scanContainer_of_scan hlayers hscan] at h
    cases h

/-! ### The enrichment `ScanContainer` runs -/

/-- `ScanContainer` runs the caller's enrichers once, last, over the inventory `Scan`
returned with every package attributed to its layer; `Scan` itself hands the enricher
runner no enrichers. -/
theorem scanContainer_enriches_after_attribution (c : Collaborators) (img : Image)
    (config : ScanConfig) {chainLayers : List ChainLayer} {scanResult : ScanResult}
    (hlayers : img.chainLayers = .ok chainLayers)
    (hscan : (scan c (config.forImage img)).result = some scanResult) :
    ∃ calls, (scanContainer c img config).calls = calls ++
        [.enricherRun config.enrichers (populateLayerDetails chainLayers scanResult.inventory)] ∧
      ∀ es inv, Call.enricherRun es inv ∈ calls → es = [] := by
  rw [scanContainer_of_scan hlayers hscan]
  refine ⟨(scan c (config.forImage img)).calls ++
    [.populateLayerDetails (scan c (config.forImage img)).config.filesystemExtractors], by simp,
    fun es inv hmem => ?_⟩
  rcases List.mem_append.1 hmem with hmem | hmem
  · have hhands : es = _ := scan_handsOver c _ _ hmem
    rwa [scan_forImage_enrichers] at hhands
  · simp at hmem

def emptyImage : Image := ⟨"image", .ok []⟩

theorem scanContainer_enriches_after_attribution_on_emptyImage :
    ∃ calls, (scanContainer failingPhases emptyImage enrichingConfig).calls = calls ++
        [.enricherRun [enricherE] (populateLayerDetails [] Inventory.empty)] ∧
      ∀ es inv, Call.enricherRun es inv ∈ calls → es = [] :=
  scanContainer_enriches_after_attribution failingPhases emptyImage enrichingConfig rfl rfl

/-- An enricher that needs network access. -/
def enricherN : Enricher := ⟨⟨"n", 0, ⟨"", false, true⟩⟩, []⟩

/-- Collaborators in an environment without network access: a plugin that needs it fails
validation. -/
def offlineCollaborators : Collaborators :=
  { quietCollaborators with
    validateRequirements := fun p _ =>
      if p.requirements.network then some (.new "network access required") else none }

def offlineConfig : ScanConfig := ⟨[], [], [], [], [enricherN], none, [], []⟩

/-- The enricher fails validation on the caller's config, yet `ScanContainer` runs it:
`Scan` validates a config from which the enrichers were removed. -/
theorem scanContainer_runs_unvalidated_enricher :
    (offlineConfig.validatePluginRequirements offlineCollaborators.validateRequirements).isSome ∧
      (scanContainer offlineCollaborators emptyImage offlineConfig).calls =
        [.filesystemRun [], .standaloneRun [], .detectorrunnerRun [],
          .annotatorRun [] Inventory.empty, .enricherRun [] Inventory.empty,
          .populateLayerDetails [], .enricherRun [enricherN] Inventory.empty] :=
  ⟨rfl, rfl⟩

/-- Detection fails inside `Scan`, then the enrichment `ScanContainer` runs fails too: the
enricher's error replaces the failure reason, and the detector's error is lost. -/
theorem scanContainer_replaces_failure_reason :
    (scan failingPhases (enrichingConfig.forImage emptyImage)).result =
        some ⟨⟨.failed, "detector failed"⟩, [], Inventory.empty⟩ ∧
      (scanContainer failingPhases emptyImage enrichingConfig).result =
        some (.ok ⟨⟨.failed, "enricher failed"⟩, [], Inventory.empty⟩) :=
  ⟨rfl, rfl⟩

def extractorB : FilesystemExtractor := ⟨⟨"b", 0, noRequirements⟩⟩

def enricherA : Enricher := ⟨⟨"a", 0, noRequirements⟩, []⟩

/-- Collaborators whose walk and enricher runner report a status for every plugin they
run. -/
def reportingCollaborators : Collaborators :=
  { quietCollaborators with
    filesystemRun := fun es _ _ =>
      .ok (Inventory.empty, es.map fun e => statusFromErr e.toPlugin none)
    enricherRun := fun es _ inv => (inv, es.map fun e => statusFromErr e.toPlugin none, none) }

def extractorBEnricherAConfig : ScanConfig := ⟨[extractorB], [], [], [], [enricherA], none, [], []⟩

/-- The enricher's status is appended after the extractor's, out of name order: the result
is not sorted, and no sort that meets the contract leaves it as it is. -/
theorem scanContainer_result_unsorted :
    ∃ r, (scanContainer reportingCollaborators emptyImage extractorBEnricherAConfig).result =
        some (.ok r) ∧ r.pluginStatus.map Status.name = ["b", "a"] ∧ ¬ r.Sorted ∧
      ∀ sort : SortFunc, sortResults sort r ≠ some r := by
  have hunsorted : ¬ ScanResult.Sorted
      ⟨⟨.succeeded, ""⟩, [statusFromErr extractorB.toPlugin none,
        statusFromErr enricherA.toPlugin none], Inventory.empty⟩ := by
    intro h
    have hba := List.rel_of_sorted_cons h.pluginStatus _ (List.mem_singleton_self _)
    simp only [cmpStatus, cmpString_eq_cmpCompare, statusFromErr_name, cmpCompare_nonpos] at hba
    exact absurd hba (by rw [not_le, String.lt_iff_toList_lt]; decide)
  exact ⟨_, rfl, rfl, hunsorted, fun sort h => hunsorted (sortResults_sorted h .nil)⟩

end Scalibr
