import Scalibr.Result
import Scalibr.Standalone

/-!
`Scanner.Scan`: the checks of the config, then filesystem extraction, standalone extraction,
the package index, detection, annotation and enrichment, and the result assembled by
`newScanResult`. The collaborators it calls (the filesystem walker, the detector, annotator
and enricher runners, the package index) lie outside src/ and are taken as functions of what
they are given. A scan also records which collaborator it called with which plugins, so that
what ran can be compared with what was checked.
-/

namespace Scalibr

open Go

def errNoScanRoot : GoError := .new "no scan root specified"

def errFilesWithSeveralRoots : GoError :=
  .new "can't extract specific files with several scan roots"

/-- The findings `detectorrunner.Run` returns. -/
structure Findings where
  packageVulns : List PackageVuln
  genericFindings : List GenericFinding

/-- The collaborators of a scan, each as a function of what it is given. A collaborator
runs only plugins of the list it is handed. `sort` is the standard library's
`slices.SortFunc`, and `printable` the Unicode table that `strconv.IsPrint` reads. -/
structure Collaborators where
  registries : Registries
  mapOrder : MapOrder
  printable : Char → Bool
  validateRequirements : Plugin → Option Capabilities → Option GoError
  filesystemRun : List FilesystemExtractor → List ScanRoot → List String →
    Except GoError (Inventory × List Status)
  standalone : Standalone.World
  packageindexNew : List Package → Option GoError
  detectorrunnerRun : List Detector → ScanRoot → List Package →
    Findings × List Status × Option GoError
  annotatorRun : List Annotator → ScanRoot → Inventory → Inventory × List Status × Option GoError
  enricherRun : List Enricher → ScanRoot → Inventory → Inventory × List Status × Option GoError
  sort : SortFunc

/-- A call to a collaborator, with the plugins handed over and, for the annotator and
enricher runners, the inventory they are given. -/
inductive Call where
  | filesystemRun (extractors : List FilesystemExtractor)
  | standaloneRun (extractors : List StandaloneExtractor)
  | detectorrunnerRun (detectors : List Detector)
  | annotatorRun (annotators : List Annotator) (inv : Inventory)
  | enricherRun (enrichers : List Enricher) (inv : Inventory)
  | populateLayerDetails (extractors : List FilesystemExtractor)

def Call.plugins : Call → List Plugin
  | .filesystemRun es => es.map (·.toPlugin)
  | .populateLayerDetails es => es.map (·.toPlugin)
  | .standaloneRun es => es.map (·.toPlugin)
  | .detectorrunnerRun ds => ds.map (·.toPlugin)
  | .annotatorRun as _ => as.map (·.toPlugin)
  | .enricherRun es _ => es.map (·.toPlugin)

/-- What a call to `Scan` leaves: the result (`none` for a panic while sorting), the
caller's config afterwards, and the collaborator calls in order. -/
structure Outcome where
  result : Option ScanResult
  config : ScanConfig
  calls : List Call

/-- The checks before extraction, in the order `Scan` makes them: the config they leave,
with the required extractors appended, and the first error. -/
def preflight (c : Collaborators) (config : ScanConfig) : ScanConfig × Option GoError :=
  match config.enableRequiredExtractors c.printable c.registries c.mapOrder with
  | (config, some err) => (config, some err)
  | (config, none) =>
      (config, config.validatePluginRequirements c.validateRequirements <|>
        if config.scanRoots.isEmpty then some errNoScanRoot
        else if !config.pathsToExtract.isEmpty && 1 < config.scanRoots.length then
          some errFilesWithSeveralRoots
        else none)

/-- `config.ScanRoots[0]`, the root of the phases after the filesystem walk. The checks
have made sure there is one. -/
def ScanConfig.sysroot (config : ScanConfig) : ScanRoot := config.scanRoots.headD ⟨"", ""⟩

/-- The phases after the checks: the options `newScanResult` is called with, and the calls
made. A failure of the filesystem walk, of standalone extraction or of the package index
ends the scan; the errors of detection, annotation and enrichment are joined. -/
def runPhases (c : Collaborators) (config : ScanConfig) : NewScanResultOptions × List Call :=
  let fsCall := Call.filesystemRun config.filesystemExtractors
  match c.filesystemRun config.filesystemExtractors config.scanRoots config.pathsToExtract with
  | .error err => ({ err := some err }, [fsCall])
  | .ok (inv, extractorStatus) =>
      let sysroot := config.sysroot
      let calls := [fsCall, .standaloneRun config.standaloneExtractors]
      match Standalone.run c.standalone ⟨config.standaloneExtractors, sysroot⟩ with
      | .error err => ({ extractorStatus, inventory := inv, err := some err }, calls)
      | .ok (standaloneInv, standaloneStatus) =>
          let inv := inv.append ⟨standaloneInv, [], []⟩
          let extractorStatus := extractorStatus ++ standaloneStatus
          match c.packageindexNew inv.packages with
          | some err => ({ extractorStatus, inventory := inv, err := some err }, calls)
          | none =>
              let (findings, detectorStatus, err) :=
                c.detectorrunnerRun config.detectors sysroot inv.packages
              let inv := { inv with packageVulns := findings.packageVulns,
                                    genericFindings := findings.genericFindings }
              let (annotated, annotatorStatus, annotatorErr) :=
                c.annotatorRun config.annotators sysroot inv
              let (enriched, enricherStatus, enricherErr) :=
                c.enricherRun config.enrichers sysroot annotated
              ({ extractorStatus, detectorStatus, annotatorStatus, enricherStatus,
                 inventory := enriched,
                 err := multierrAppend (multierrAppend err annotatorErr) enricherErr },
               calls ++ [.detectorrunnerRun config.detectors, .annotatorRun config.annotators inv,
                 .enricherRun config.enrichers annotated])

/-- `Scanner.Scan`: the checks, then the phases on the config they leave; a failed check
ends the scan with a result that holds only its error. -/
def scan (c : Collaborators) (config : ScanConfig) : Outcome :=
  match preflight c config with
  | (config, some err) => ⟨newScanResult c.sort { err := some err }, config, []⟩
  | (config, none) =>
      let (o, calls) := runPhases c config
      ⟨newScanResult c.sort o, config, calls⟩

/-- The call hands over one of `cfg`'s own plugin lists. -/
def Call.HandsOver (cfg : ScanConfig) : Call → Prop
  | .filesystemRun es => es = cfg.filesystemExtractors
  | .populateLayerDetails es => es = cfg.filesystemExtractors
  | .standaloneRun es => es = cfg.standaloneExtractors
  | .detectorrunnerRun ds => ds = cfg.detectors
  | .annotatorRun as _ => as = cfg.annotators
  | .enricherRun es _ => es = cfg.enrichers

theorem Call.mem_plugins_of_handsOver {cfg : ScanConfig} {call : Call} (h : call.HandsOver cfg)
    {p : Plugin} (hp : p ∈ call.plugins) : p ∈ cfg.plugins := by
  cases call <;> simp only [HandsOver, plugins] at h hp <;> subst h <;>
    simp only [ScanConfig.plugins, List.mem_append, hp, true_or, or_true]

/-! ### The exits of `Scan` -/

section Exits

variable {c : Collaborators} {config cfg : ScanConfig}

theorem preflight_appends (c : Collaborators) (config : ScanConfig) :
    ∃ fs st, (preflight c config).1 = config.appendExtractors fs st := by
  obtain ⟨fs, st, h⟩ := @enableLoop_appends c.printable c.registries config.enabledNames
    (c.mapOrder.order config.requiredNames) config
  refine ⟨fs, st, ?_⟩
  unfold preflight ScanConfig.enableRequiredExtractors
  split <;> simp_all

/-- Checks that pass passed both `EnableRequiredExtractors` and
`ValidatePluginRequirements`, the second on the config the first left. -/
theorem preflight_ok (h : preflight c config = (cfg, none)) :
    config.enableRequiredExtractors c.printable c.registries c.mapOrder = (cfg, none) ∧
      cfg.validatePluginRequirements c.validateRequirements = none := by
  unfold preflight at h
  split at h
  · cases h
  · simp only [Prod.mk.injEq, Option.orElse_eq_none] at h
    obtain ⟨rfl, hval, -⟩ := h
    exact ⟨‹_›, hval⟩

theorem preflight_config (c : Collaborators) (config : ScanConfig) :
    (preflight c config).1 =
      (config.enableRequiredExtractors c.printable c.registries c.mapOrder).1 := by
  unfold preflight
  split <;> simp_all

/-- With registries that return extractors under the names asked for, what the checks
append is new: under names the config requires and does not enable, each at most once per
list. -/
theorem preflight_fresh (hreg : c.registries.NameFaithful) (config : ScanConfig) :
    ∃ fs st, (preflight c config).1 = config.appendExtractors fs st ∧
      FreshNames (·.name) config.requiredNames config.enabledNames fs ∧
      FreshNames (·.name) config.requiredNames config.enabledNames st := by
  obtain ⟨fs, st, h, hfs, hst⟩ := enableLoop_fresh hreg config.enabledNames
    (c.mapOrder.order config.requiredNames) config
  have hreq : c.mapOrder.order config.requiredNames ⊆ config.requiredNames :=
    fun _ hn => c.mapOrder.mem_order.1 hn
  exact ⟨fs, st, (preflight_config c config).trans h, hfs.mono hreq (List.Subset.refl _),
    hst.mono hreq (List.Subset.refl _)⟩

/-- The checks leave a config whose requirements are all enabled as it is. -/
theorem preflight_of_covered (hcovered : ∀ n ∈ config.requiredNames, n ∈ config.enabledNames) :
    (preflight c config).1 = config := by
  rw [preflight_config, ScanConfig.enableRequiredExtractors,
    enableLoop_of_enabled fun n hn => hcovered n (c.mapOrder.mem_order.1 hn)]

theorem scan_config (c : Collaborators) (config : ScanConfig) :
    (scan c config).config = (preflight c config).1 := by
  unfold scan
  split <;> simp_all

/-- The result of `Scan` is always what `newScanResult` makes of some options. -/
theorem scan_result (c : Collaborators) (config : ScanConfig) :
    ∃ o, (scan c config).result = newScanResult c.sort o := by
  unfold scan
  split <;> exact ⟨_, rfl⟩

theorem runPhases_handsOver (c : Collaborators) (cfg : ScanConfig) :
    ∀ call ∈ (runPhases c cfg).2, call.HandsOver cfg := by
  unfold runPhases
  split
  · simp [Call.HandsOver]
  dsimp only
  split
  · simp [Call.HandsOver]
  split <;> simp [Call.HandsOver]

theorem scan_of_preflight_error {err : GoError} (h : preflight c config = (cfg, some err)) :
    scan c config = ⟨newScanResult c.sort { err := some err }, cfg, []⟩ := by
  simp [scan, h]

theorem scan_of_preflight_ok (h : preflight c config = (cfg, none)) :
    scan c config = ⟨newScanResult c.sort (runPhases c cfg).1, cfg, (runPhases c cfg).2⟩ := by
  simp [scan, h]

theorem runPhases_of_filesystem_error {err : GoError}
    (hfs : c.filesystemRun cfg.filesystemExtractors cfg.scanRoots cfg.pathsToExtract = .error err) :
    runPhases c cfg = ({ err := some err }, [.filesystemRun cfg.filesystemExtractors]) := by
  simp [runPhases, hfs]

theorem runPhases_of_standalone_error {inv : Inventory} {fsStatus : List Status} {err : GoError}
    (hfs : c.filesystemRun cfg.filesystemExtractors cfg.scanRoots cfg.pathsToExtract =
      .ok (inv, fsStatus))
    (hst : Standalone.run c.standalone ⟨cfg.standaloneExtractors, cfg.sysroot⟩ = .error err) :
    runPhases c cfg = ({ extractorStatus := fsStatus, inventory := inv, err := some err },
      [.filesystemRun cfg.filesystemExtractors, .standaloneRun cfg.standaloneExtractors]) := by
  simp [runPhases, hfs, hst]

theorem runPhases_of_index_error {inv : Inventory} {fsStatus stStatus : List Status}
    {stInv : List Package} {err : GoError}
    (hfs : c.filesystemRun cfg.filesystemExtractors cfg.scanRoots cfg.pathsToExtract =
      .ok (inv, fsStatus))
    (hst : Standalone.run c.standalone ⟨cfg.standaloneExtractors, cfg.sysroot⟩ =
      .ok (stInv, stStatus))
    (hpx : c.packageindexNew (inv.packages ++ stInv) = some err) :
    runPhases c cfg =
      ({ extractorStatus := fsStatus ++ stStatus, inventory := inv.append ⟨stInv, [], []⟩,
         err := some err },
        [.filesystemRun cfg.filesystemExtractors, .standaloneRun cfg.standaloneExtractors]) := by
  simp [runPhases, hfs, hst, hpx]

theorem runPhases_of_index_ok {inv : Inventory} {fsStatus stStatus : List Status}
    {stInv : List Package} {findings : Findings} {detectorStatus : List Status}
    {detectorErr : Option GoError}
    (hfs : c.filesystemRun cfg.filesystemExtractors cfg.scanRoots cfg.pathsToExtract =
      .ok (inv, fsStatus))
    (hst : Standalone.run c.standalone ⟨cfg.standaloneExtractors, cfg.sysroot⟩ =
      .ok (stInv, stStatus))
    (hpx : c.packageindexNew (inv.packages ++ stInv) = none)
    (hdet : c.detectorrunnerRun cfg.detectors cfg.sysroot (inv.packages ++ stInv) =
      (findings, detectorStatus, detectorErr)) :
    let detected : Inventory :=
      ⟨inv.packages ++ stInv, findings.packageVulns, findings.genericFindings⟩
    let annotated := c.annotatorRun cfg.annotators cfg.sysroot detected
    let enriched := c.enricherRun cfg.enrichers cfg.sysroot annotated.1
    runPhases c cfg =
      ({ extractorStatus := fsStatus ++ stStatus, detectorStatus,
         annotatorStatus := annotated.2.1, enricherStatus := enriched.2.1,
         inventory := enriched.1,
         err := multierrAppend (multierrAppend detectorErr annotated.2.2) enriched.2.2 },
        [.filesystemRun cfg.filesystemExtractors, .standaloneRun cfg.standaloneExtractors,
          .detectorrunnerRun cfg.detectors, .annotatorRun cfg.annotators detected,
          .enricherRun cfg.enrichers annotated.1]) := by
  simp [runPhases, hfs, hst, hpx, hdet, Inventory.append]

end Exits

theorem scan_handsOver (c : Collaborators) (config : ScanConfig) :
    ∀ call ∈ (scan c config).calls, call.HandsOver (scan c config).config := by
  rcases hpre : preflight c config with ⟨cfg, _ | err⟩
  · rw [scan_of_preflight_ok hpre]
    exact runPhases_handsOver c cfg
  · simp [scan_of_preflight_error hpre]

/-! ### Inputs -/

def rootDir : ScanRoot := ⟨"local", "/"⟩

def contextCanceled : GoError := .new "context canceled"

def packageA : Package := ⟨"a", "1.0", ["/a"], [], none⟩

/-- Collaborators under which nothing is cancelled, nothing is found, and every plugin
succeeds. -/
def quietCollaborators : Collaborators where
  registries := ⟨fun _ => .error (.new "not found"), fun _ => .error (.new "not found")⟩
  mapOrder := .inserted
  printable := noTable
  validateRequirements _ _ := none
  filesystemRun _ _ _ := .ok (Inventory.empty, [])
  standalone := ⟨fun _ => none, fun _ _ _ => ([], none), fun _ => packageA, fun _ => false, .ok⟩
  packageindexNew _ := none
  detectorrunnerRun _ _ _ := (⟨[], []⟩, [], none)
  annotatorRun _ _ inv := (inv, [], none)
  enricherRun _ _ inv := (inv, [], none)
  sort := .insertion

def extractorS : StandaloneExtractor := ⟨⟨"s", 0, noRequirements⟩⟩

def extractorT : StandaloneExtractor := ⟨⟨"t", 0, noRequirements⟩⟩

/-- Every standalone extractor finds `packageA`; the context is cancelled once the first
one has finished. -/
def cancelledAfterFirst : Collaborators :=
  { quietCollaborators with
    standalone := ⟨fun k => if k = 0 then none else some contextCanceled,
      fun _ _ _ => ([0], none), fun _ => packageA, fun _ => false, .ok⟩ }

def twoStandaloneConfig : ScanConfig :=
  ⟨[], [extractorS, extractorT], [], [], [], none, [rootDir], []⟩

def extractorV : FilesystemExtractor := ⟨⟨"v", 0, noRequirements⟩⟩

def packageB : Package := ⟨"b", "2.0", ["/b"], [], none⟩

/-- The walk finds `packageB`, then the standalone extractors run as under
`cancelledAfterFirst`. -/
def walkThenCancelled : Collaborators :=
  { cancelledAfterFirst with
    filesystemRun := fun _ _ _ =>
      .ok (⟨[packageB], [], []⟩, [statusFromErr extractorV.toPlugin none]) }

/-- The walk finds `packageB`, each standalone extractor a copy of `packageA` of its own,
and `packageindex.New` fails. -/
def walkThenIndexFails : Collaborators :=
  { walkThenCancelled with
    standalone := ⟨fun _ => none, fun k _ _ => ([k], none), fun _ => packageA, fun _ => false,
      .ok⟩
    packageindexNew := fun _ => some (.new "package index failed") }

def walkAndStandaloneConfig : ScanConfig :=
  ⟨[extractorV], [extractorS, extractorT], [], [], [], none, [rootDir], []⟩

/-! ### Aborts after the filesystem walk -/

/-- What an abort after the filesystem walk keeps. `Scan` aborts there in two ways. On an
error of `standalone.Run` (a cancelled context seen before an extractor, or a root path
that cannot be made absolute) the result holds the walk's packages and statuses and
nothing from the standalone extractors. On an error of `packageindex.New` it holds the
packages and statuses of both extraction phases. Either way it fails with the aborting
error's message. -/
theorem scan_abort_after_filesystem (c : Collaborators) (config : ScanConfig)
    {cfg : ScanConfig} {inv : Inventory} {fsStatus : List Status}
    (hpre : preflight c config = (cfg, none))
    (hfs : c.filesystemRun cfg.filesystemExtractors cfg.scanRoots cfg.pathsToExtract =
      .ok (inv, fsStatus))
    (hcmp : Comparable cmpGenericFindings inv.genericFindings) :
    (∀ err, Standalone.run c.standalone ⟨cfg.standaloneExtractors, cfg.sysroot⟩ = .error err →
      ∃ r, (scan c config).result = some r ∧ r.status = ⟨.failed, err.msg⟩ ∧
        r.inventory.packages.Perm (inv.packages.map Package.sortLocations) ∧
        r.pluginStatus.Perm fsStatus) ∧
    (∀ stInv stStatus err,
      Standalone.run c.standalone ⟨cfg.standaloneExtractors, cfg.sysroot⟩ =
        .ok (stInv, stStatus) →
      c.packageindexNew (inv.packages ++ stInv) = some err →
      ∃ r, (scan c config).result = some r ∧ r.status = ⟨.failed, err.msg⟩ ∧
        r.inventory.packages.Perm ((inv.packages ++ stInv).map Package.sortLocations) ∧
        r.pluginStatus.Perm (fsStatus ++ stStatus)) := by
  rw [scan_of_preflight_ok hpre]
  constructor
  · intro err hst
    rw [runPhases_of_standalone_error hfs hst]
    obtain ⟨r, hr, hstatus, hps, hpk⟩ := newScanResult_spec c.sort
      { extractorStatus := fsStatus, inventory := inv, err := some err } hcmp
    exact ⟨r, hr, hstatus, hpk, by simpa using hps⟩
  · intro stInv stStatus err hst hpx
    rw [runPhases_of_index_error hfs hst hpx]
    obtain ⟨r, hr, hstatus, hps, hpk⟩ := newScanResult_spec c.sort
      { extractorStatus := fsStatus ++ stStatus, inventory := inv.append ⟨stInv, [], []⟩,
        err := some err } (by simpa [Inventory.append] using hcmp)
    exact ⟨r, hr, hstatus, hpk, by simpa using hps⟩

theorem scan_abort_after_filesystem_on_cancel :
    (∃ r, (scan walkThenCancelled walkAndStandaloneConfig).result = some r ∧
      r.status = ⟨.failed, contextCanceled.msg⟩ ∧
      r.inventory.packages.Perm ([packageB].map Package.sortLocations) ∧
      r.pluginStatus.Perm [statusFromErr extractorV.toPlugin none]) ∧
    ∃ r, (scan walkThenIndexFails walkAndStandaloneConfig).result = some r ∧
      r.status = ⟨.failed, "package index failed"⟩ ∧
      r.inventory.packages.Perm (([packageB] ++ [{ packageA with plugins := ["s"] },
        { packageA with plugins := ["t"] }]).map Package.sortLocations) ∧
      r.pluginStatus.Perm ([statusFromErr extractorV.toPlugin none] ++
        [statusFromErr extractorS.toPlugin none, statusFromErr extractorT.toPlugin none]) :=
  ⟨(scan_abort_after_filesystem walkThenCancelled walkAndStandaloneConfig rfl rfl
      .nil).1 contextCanceled rfl,
    (scan_abort_after_filesystem walkThenIndexFails walkAndStandaloneConfig rfl rfl
      .nil).2 _ _ (.new "package index failed") rfl rfl⟩

/-- The first standalone extractor finishes and finds `packageA`; the context is cancelled
before the second. The result holds neither the package nor the first extractor's status. -/
theorem scan_discards_finished_standalone_extractors :
    cancelledAfterFirst.standalone.extract 0 extractorS rootDir = ([0], none) ∧
      cancelledAfterFirst.standalone.item 0 = packageA ∧
      (scan cancelledAfterFirst twoStandaloneConfig).result =
        some ⟨⟨.failed, "context canceled"⟩, [], Inventory.empty⟩ :=
  ⟨rfl, rfl, rfl⟩

/-! ### The inventory the annotators get -/

/-- The inventory `Scan` hands to `annotator.Run` holds the packages of both extraction
phases and, as vulnerabilities and findings, exactly what the detectors returned: the
extraction phases' own vulnerabilities and findings are replaced, not kept. -/
theorem scan_annotator_input (c : Collaborators) (config : ScanConfig) {cfg : ScanConfig}
    {inv : Inventory} {fsStatus stStatus : List Status} {stInv : List Package}
    {findings : Findings} {detectorStatus : List Status} {detectorErr : Option GoError}
    (hpre : preflight c config = (cfg, none))
    (hfs : c.filesystemRun cfg.filesystemExtractors cfg.scanRoots cfg.pathsToExtract =
      .ok (inv, fsStatus))
    (hst : Standalone.run c.standalone ⟨cfg.standaloneExtractors, cfg.sysroot⟩ =
      .ok (stInv, stStatus))
    (hpx : c.packageindexNew (inv.packages ++ stInv) = none)
    (hdet : c.detectorrunnerRun cfg.detectors cfg.sysroot (inv.packages ++ stInv) =
      (findings, detectorStatus, detectorErr)) :
    Call.annotatorRun cfg.annotators
      ⟨inv.packages ++ stInv, findings.packageVulns, findings.genericFindings⟩ ∈
      (scan c config).calls := by
  rw [scan_of_preflight_ok hpre, runPhases_of_index_ok hfs hst hpx hdet]
  simp

def vulnFromWalk : PackageVuln := ⟨"CVE-2024-0001", ["v"]⟩

/-- The walk returns `vulnFromWalk`; there are no detectors. -/
def walkReportsVuln : Collaborators :=
  { quietCollaborators with
    filesystemRun := fun _ _ _ =>
      .ok (⟨[], [vulnFromWalk], []⟩, [statusFromErr extractorV.toPlugin none]) }

def walkVulnConfig : ScanConfig := ⟨[extractorV], [], [], [], [], none, [rootDir], []⟩

/-- The walk's vulnerability never reaches the annotators: detection replaced it with the
detectors' empty list. -/
theorem scan_drops_walk_vulnerabilities :
    walkReportsVuln.filesystemRun [extractorV] [rootDir] [] =
        .ok (⟨[], [vulnFromWalk], []⟩, [statusFromErr extractorV.toPlugin none]) ∧
      (scan walkReportsVuln walkVulnConfig).calls =
        [.filesystemRun [extractorV], .standaloneRun [], .detectorrunnerRun [],
          .annotatorRun [] Inventory.empty, .enricherRun [] Inventory.empty] :=
  ⟨rfl, rfl⟩

/-! ### What `Scan` runs, reports and returns -/

/-- `Scan` hands a plugin to a collaborator only once both checks have passed, and only from
the config they passed on: the plugin's requirements hold under that config's
capabilities, and every extractor that an enabled detector or enricher requires is
enabled. -/
theorem scan_runs_only_checked_plugins (c : Collaborators) (config : ScanConfig)
    (hreg : c.registries.NameFaithful) {call : Call} (hcall : call ∈ (scan c config).calls) :
    (preflight c config).2 = none ∧ call.HandsOver (scan c config).config ∧
      (∀ p ∈ call.plugins, p ∈ (scan c config).config.plugins ∧
        c.validateRequirements p (scan c config).config.capabilities = none) ∧
      ∀ n ∈ (scan c config).config.requiredNames, n ∈ (scan c config).config.enabledNames := by
  have hhands := scan_handsOver c config call hcall
  rcases hpre : preflight c config with ⟨cfg, _ | err⟩
  · rw [scan_of_preflight_ok hpre] at hcall hhands ⊢
    obtain ⟨henable, hvalid⟩ := preflight_ok hpre
    refine ⟨rfl, hhands, fun p hp => ?_, enableRequiredExtractors_covers hreg henable⟩
    have hmem := Call.mem_plugins_of_handsOver hhands hp
    exact ⟨hmem, validatePluginRequirements_eq_none.1 hvalid p hmem⟩
  · rw [scan_of_preflight_error hpre] at hcall
    cases hcall

def detectorNeedingX : Detector := ⟨⟨"d", 0, noRequirements⟩, ["x"]⟩

def registryOfXCollaborators : Collaborators :=
  { quietCollaborators with registries := registryOfX }

def detectorNeedingXConfig : ScanConfig :=
  ⟨[], [], [detectorNeedingX], [], [], none, [rootDir], []⟩

theorem scan_runs_only_checked_plugins_on_detectorNeedingX :
    registryOfXCollaborators.registries.NameFaithful ∧
      Call.filesystemRun [extractorX] ∈
        (scan registryOfXCollaborators detectorNeedingXConfig).calls ∧
      (preflight registryOfXCollaborators detectorNeedingXConfig).2 = none ∧
      (Call.filesystemRun [extractorX]).HandsOver
        (scan registryOfXCollaborators detectorNeedingXConfig).config ∧
      (∀ p ∈ (Call.filesystemRun [extractorX]).plugins,
        p ∈ (scan registryOfXCollaborators detectorNeedingXConfig).config.plugins ∧
        registryOfXCollaborators.validateRequirements p
          (scan registryOfXCollaborators detectorNeedingXConfig).config.capabilities = none) ∧
      ∀ n ∈ (scan registryOfXCollaborators detectorNeedingXConfig).config.requiredNames,
        n ∈ (scan registryOfXCollaborators detectorNeedingXConfig).config.enabledNames := by
  have hcalls : (scan registryOfXCollaborators detectorNeedingXConfig).calls =
      [.filesystemRun [extractorX], .standaloneRun [], .detectorrunnerRun [detectorNeedingX],
        .annotatorRun [] Inventory.empty, .enricherRun [] Inventory.empty] := rfl
  have hcall : Call.filesystemRun [extractorX] ∈
      (scan registryOfXCollaborators detectorNeedingXConfig).calls := by
    rw [hcalls]
    exact List.mem_cons_self _ _
  exact ⟨registryOfX_nameFaithful, hcall,
    scan_runs_only_checked_plugins registryOfXCollaborators detectorNeedingXConfig
      registryOfX_nameFaithful hcall⟩

/-- Past the package index `Scan` runs detection, annotation and enrichment whatever each
of them reports, and joins their errors with `multierr.Append`: the scan fails exactly
when one of them reported an error, and its failure reason contains the text of every
error reported. -/
theorem scan_joins_phase_errors (c : Collaborators) (config : ScanConfig) {cfg : ScanConfig}
    {inv : Inventory} {fsStatus stStatus : List Status} {stInv : List Package}
    {findings : Findings} {detectorStatus : List Status} {detectorErr : Option GoError}
    {annotated enriched : Inventory} {annotatorStatus enricherStatus : List Status}
    {annotatorErr enricherErr : Option GoError} {r : ScanResult}
    (hpre : preflight c config = (cfg, none))
    (hfs : c.filesystemRun cfg.filesystemExtractors cfg.scanRoots cfg.pathsToExtract =
      .ok (inv, fsStatus))
    (hst : Standalone.run c.standalone ⟨cfg.standaloneExtractors, cfg.sysroot⟩ =
      .ok (stInv, stStatus))
    (hpx : c.packageindexNew (inv.packages ++ stInv) = none)
    (hdet : c.detectorrunnerRun cfg.detectors cfg.sysroot (inv.packages ++ stInv) =
      (findings, detectorStatus, detectorErr))
    (hann : c.annotatorRun cfg.annotators cfg.sysroot
      ⟨inv.packages ++ stInv, findings.packageVulns, findings.genericFindings⟩ =
        (annotated, annotatorStatus, annotatorErr))
    (henr : c.enricherRun cfg.enrichers cfg.sysroot annotated =
      (enriched, enricherStatus, enricherErr))
    (hr : (scan c config).result = some r) :
    (r.status.status = .failed ↔
      detectorErr.toList ++ annotatorErr.toList ++ enricherErr.toList ≠ []) ∧
    ∀ e ∈ detectorErr.toList ++ annotatorErr.toList ++ enricherErr.toList,
      stringsContains r.status.failureReason e.msg := by
  rw [scan_of_preflight_ok hpre, runPhases_of_index_ok hfs hst hpx hdet] at hr
  simp only [hann, henr] at hr
  rw [newScanResult_status hr]
  constructor
  · rcases detectorErr with _ | _ <;> rcases annotatorErr with _ | _ <;>
      rcases enricherErr with _ | _ <;> simp [scanStatusOf, multierrAppend]
  · intro e he
    rw [List.mem_append] at he
    rcases he with he | he
    · obtain ⟨j, hj, hje⟩ := multierrAppend_contains he
      obtain ⟨k, hk, hkj⟩ := multierrAppend_contains
        (by simp : j ∈ (some j).toList ++ enricherErr.toList)
      rw [hj, hk]
      exact hkj.trans hje
    · obtain ⟨k, hk, hke⟩ := multierrAppend_contains
        (List.mem_append_right (multierrAppend detectorErr annotatorErr).toList he)
      rw [hk]
      exact hke

/-- Detection fails, and so do the enrichers, when there are any. -/
def failingPhases : Collaborators :=
  { quietCollaborators with
    detectorrunnerRun := fun _ _ _ => (⟨[], []⟩, [], some (.new "detector failed"))
    enricherRun := fun es _ inv =>
      (inv, [], if es.isEmpty then none else some (.new "enricher failed")) }

def enricherE : Enricher := ⟨⟨"e", 0, noRequirements⟩, []⟩

def enrichingConfig : ScanConfig := ⟨[], [], [], [], [enricherE], none, [rootDir], []⟩

theorem scan_joins_phase_errors_on_failingPhases :
    (scan failingPhases enrichingConfig).result =
        some ⟨⟨.failed, "detector failed; enricher failed"⟩, [], Inventory.empty⟩ ∧
    (ScanStatusEnum.failed = .failed ↔
      [GoError.new "detector failed"] ++ [] ++ [GoError.new "enricher failed"] ≠ []) ∧
    ∀ e ∈ [GoError.new "detector failed"] ++ [] ++ [GoError.new "enricher failed"],
      stringsContains "detector failed; enricher failed" e.msg := by
  have hr : (scan failingPhases enrichingConfig).result =
      some ⟨⟨.failed, "detector failed; enricher failed"⟩, [], Inventory.empty⟩ := rfl
  exact ⟨hr, scan_joins_phase_errors failingPhases enrichingConfig rfl rfl rfl rfl rfl rfl rfl hr⟩

/-- Every result `Scan` returns is sorted, when its findings compare. -/
theorem scan_result_sorted (c : Collaborators) (config : ScanConfig) {r : ScanResult}
    (hr : (scan c config).result = some r)
    (hcmp : Comparable cmpGenericFindings r.inventory.genericFindings) : r.Sorted := by
  obtain ⟨o, ho⟩ := scan_result c config
  rw [ho] at hr
  exact sortResults_sorted hr hcmp

/-- A finding without a target, under another advisory reference than
`fileBrowserFinding`'s. -/
def weakPasswordFinding : GenericFinding :=
  ⟨some ⟨some ⟨"SCALIBR", "weak-password"⟩⟩, none, []⟩

/-- The walk finds `packageB` and `packageA`, in that order; the detectors report two
findings out of order. -/
def unsortedFindings : Collaborators :=
  { quietCollaborators with
    filesystemRun := fun _ _ _ =>
      .ok (⟨[packageB, packageA], [], []⟩, [statusFromErr extractorV.toPlugin none])
    detectorrunnerRun := fun _ _ _ =>
      (⟨[], [weakPasswordFinding, fileBrowserFinding]⟩, [], none) }

theorem scan_result_sorted_on_unsortedFindings :
    ∃ r, (scan unsortedFindings walkVulnConfig).result = some r ∧
      r.inventory.packages.Perm ([packageB, packageA].map Package.sortLocations) ∧
      r.inventory.genericFindings.Perm [weakPasswordFinding, fileBrowserFinding] ∧
      Comparable cmpGenericFindings r.inventory.genericFindings ∧ r.Sorted := by
  have hcmp : Comparable cmpGenericFindings [weakPasswordFinding, fileBrowserFinding] :=
    List.pairwise_pair.2 ⟨rfl, rfl⟩
  obtain ⟨r, hr⟩ := Option.isSome_iff_exists.1 (sortResults_isSome hcmp :
    (newScanResult .insertion (runPhases unsortedFindings walkVulnConfig).1).isSome)
  have hperm := sortResults_perm hr
  have hcmp' := hcmp.perm hperm.2.2.2.symm
  exact ⟨r, hr, hperm.2.1, hperm.2.2.2, hcmp',
    scan_result_sorted unsortedFindings walkVulnConfig hr hcmp'⟩

end Scalibr
