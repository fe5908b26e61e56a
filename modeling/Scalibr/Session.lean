import Scalibr.Container

/-!
A caller that keeps one `ScanConfig` and hands it to `Scan` and `ScanContainer` again and
again. Both take the config by pointer and change it: `Scan` appends the extractors that
the enabled detectors and enrichers require, and `ScanContainer` also replaces the scan
roots with the image's and clears the enrichers. A session is a sequence of such calls, each
under the collaborators of its own moment: Go picks a new map order every time, and the
filesystem and the context change between calls.

Over every session, `Grown` holds between the caller's config and the one it has become:
extractors that resolving the caller's own requirements can add, the enrichers kept or
cleared, the roots kept or an image's, and nothing else. Each call is a growth and growths
compose, so the run lemma is an induction over the calls. From it: the extractor lists stay
bounded however long the session runs, and no plugin runs that the caller neither enabled
nor required. Three more invariants follow the calls one by one: once one `Scan` has
enabled every requirement nothing later changes the extractors, and after one
`ScanContainer` no later call runs an enricher and the config keeps the root of the last
image scanned.
-/

namespace Scalibr

open Go

/-- A call made with the caller's config: `Scan`, or `ScanContainer` of an image, under the
collaborators of that moment. -/
inductive Request where
  | scan (c : Collaborators)
  | scanContainer (c : Collaborators) (img : Image)

namespace Request

def collaborators : Request → Collaborators
  | scan c | scanContainer c _ => c

/-- The caller's config after the call. -/
def apply : Request → ScanConfig → ScanConfig
  | scan c, config => (Scalibr.scan c config).config
  | scanContainer c img, config => (Scalibr.scanContainer c img config).config

/-- The collaborator calls the call makes. -/
def calls : Request → ScanConfig → List Call
  | scan c, config => (Scalibr.scan c config).calls
  | scanContainer c img, config => (Scalibr.scanContainer c img config).calls

end Request

/-- The caller's config after the calls, in order. -/
def runRequests : List Request → ScanConfig → ScanConfig
  | [], config => config
  | r :: rs, config => runRequests rs (r.apply config)

/-- Every collaborator call of the session, in order. -/
def sessionCalls : List Request → ScanConfig → List Call
  | [], _ => []
  | r :: rs, config => r.calls config ++ sessionCalls rs (r.apply config)

/-- The image of the last `ScanContainer` among the calls, or `img` when there is none. -/
def lastImage (img : Image) : List Request → Image
  | [] => img
  | .scan _ :: rs => lastImage img rs
  | .scanContainer _ img' :: rs => lastImage img' rs

/-- What calls with the caller's config `base` may have made of it: extractors appended
that `base` requires and does not enable, the enrichers kept or cleared, the scan roots
kept or replaced by an image's root, and every other field as it was. -/
structure Grown (base cfg : ScanConfig) : Prop where
  filesystemExtractors : ∃ fs, FreshNames (·.name) base.requiredNames base.enabledNames fs ∧
    cfg.filesystemExtractors = base.filesystemExtractors ++ fs
  standaloneExtractors : ∃ st, FreshNames (·.name) base.requiredNames base.enabledNames st ∧
    cfg.standaloneExtractors = base.standaloneExtractors ++ st
  detectors : cfg.detectors = base.detectors
  annotators : cfg.annotators = base.annotators
  enrichers : cfg.enrichers = base.enrichers ∨ cfg.enrichers = []
  capabilities : cfg.capabilities = base.capabilities
  scanRoots : cfg.scanRoots = base.scanRoots ∨ ∃ fs, cfg.scanRoots = [⟨fs, ""⟩]
  pathsToExtract : cfg.pathsToExtract = base.pathsToExtract

namespace Grown

variable {base cfg cfg' : ScanConfig}

theorem refl (cfg : ScanConfig) : Grown cfg cfg :=
  ⟨⟨[], .nil, by simp⟩, ⟨[], .nil, by simp⟩, rfl, rfl, .inl rfl, rfl, .inl rfl, rfl⟩

theorem of_appendExtractors {fs st}
    (hfs : FreshNames (·.name) cfg.requiredNames cfg.enabledNames fs)
    (hst : FreshNames (·.name) cfg.requiredNames cfg.enabledNames st) :
    Grown cfg (cfg.appendExtractors fs st) :=
  ⟨⟨fs, hfs, rfl⟩, ⟨st, hst, rfl⟩, rfl, rfl, .inl rfl, rfl, .inl rfl, rfl⟩

theorem forImage (cfg : ScanConfig) (img : Image) : Grown cfg (cfg.forImage img) :=
  ⟨⟨[], .nil, by simp [ScanConfig.forImage]⟩, ⟨[], .nil, by simp [ScanConfig.forImage]⟩, rfl,
    rfl, .inr rfl, rfl, .inr ⟨img.fs, rfl⟩, rfl⟩

theorem requiredNames_subset (h : Grown base cfg) : cfg.requiredNames ⊆ base.requiredNames := by
  intro n hn
  rw [ScanConfig.requiredNames, h.detectors] at hn
  rcases h.enrichers with he | he <;> rw [he] at hn
  · exact hn
  · exact List.mem_append_left _ (by simpa using hn)

theorem enabledNames_subset (h : Grown base cfg) : base.enabledNames ⊆ cfg.enabledNames := by
  obtain ⟨fs, -, hfs⟩ := h.filesystemExtractors
  obtain ⟨st, -, hst⟩ := h.standaloneExtractors
  intro n hn
  simp only [ScanConfig.enabledNames, hfs, hst, List.map_append, List.mem_append] at hn ⊢
  tauto

/-- One extractor list over two growths in a row: what each appended, together. -/
private theorem grown_list_trans {α : Type} {name : α → String} {l l' l'' : List α}
    (h : Grown base cfg)
    (hl : ∃ xs, FreshNames name base.requiredNames base.enabledNames xs ∧ l' = l ++ xs)
    (hl' : ∃ ys, FreshNames name cfg.requiredNames cfg.enabledNames ys ∧ l'' = l' ++ ys)
    (henabled : ∀ x ∈ l', name x ∈ cfg.enabledNames) :
    ∃ zs, FreshNames name base.requiredNames base.enabledNames zs ∧ l'' = l ++ zs := by
  obtain ⟨xs, hxs, rfl⟩ := hl
  obtain ⟨ys, hys, rfl⟩ := hl'
  exact ⟨xs ++ ys, hxs.append hys h.requiredNames_subset h.enabledNames_subset
    fun x hx => henabled x (List.mem_append_right l hx), List.append_assoc l xs ys⟩

theorem trans (h : Grown base cfg) (h' : Grown cfg cfg') : Grown base cfg' where
  filesystemExtractors := grown_list_trans h h.filesystemExtractors h'.filesystemExtractors
    fun _ hx => List.mem_append_left _ (List.mem_map_of_mem _ hx)
  standaloneExtractors := grown_list_trans h h.standaloneExtractors h'.standaloneExtractors
    fun _ hx => List.mem_append_right _ (List.mem_map_of_mem _ hx)
  detectors := h'.detectors.trans h.detectors
  annotators := h'.annotators.trans h.annotators
  enrichers := h'.enrichers.elim (fun he => he ▸ h.enrichers) .inr
  capabilities := h'.capabilities.trans h.capabilities
  scanRoots := h'.scanRoots.elim (fun hr => hr ▸ h.scanRoots) .inr
  pathsToExtract := h'.pathsToExtract.trans h.pathsToExtract

/-- A plugin of a grown config is one of the caller's, or an extractor under a name the
caller requires and does not enable. -/
theorem mem_plugins (h : Grown base cfg) {p : Plugin} (hp : p ∈ cfg.plugins) :
    p ∈ base.plugins ∨ p.name ∈ base.requiredNames ∧ p.name ∉ base.enabledNames := by
  obtain ⟨fs, hfs, hfseq⟩ := h.filesystemExtractors
  obtain ⟨st, hst, hsteq⟩ := h.standaloneExtractors
  have henrichers : p ∈ cfg.enrichers.map (·.toPlugin) → p ∈ base.enrichers.map (·.toPlugin) := by
    rcases h.enrichers with he | he <;> simp [he]
  have hsplit : p ∈ base.plugins ∨ p ∈ fs.map (·.toPlugin) ∨ p ∈ st.map (·.toPlugin) := by
    simp only [ScanConfig.plugins, hfseq, hsteq, h.detectors, h.annotators, List.map_append,
      List.mem_append] at hp ⊢
    rcases hp with ((((hp | hp) | hp | hp) | hp) | hp) | hp <;>
      first
      | simp only [hp, true_or, or_true]
      | simp only [henrichers hp, true_or, or_true]
  rcases hsplit with hp | hp | hp
  · exact .inl hp
  · obtain ⟨x, hx, rfl⟩ := List.mem_map.1 hp
    exact .inr (hfs.fresh x hx)
  · obtain ⟨x, hx, rfl⟩ := List.mem_map.1 hp
    exact .inr (hst.fresh x hx)

end Grown

/-! ### One call -/

section Step

variable {c : Collaborators}

theorem grown_scan (hreg : c.registries.NameFaithful) (config : ScanConfig) :
    Grown config (scan c config).config := by
  obtain ⟨fs, st, h, hfs, hst⟩ := preflight_fresh hreg config
  rw [scan_config, h]
  exact .of_appendExtractors hfs hst

theorem grown_scanContainer (hreg : c.registries.NameFaithful) (img : Image)
    (config : ScanConfig) : Grown config (scanContainer c img config).config := by
  rcases scanContainer_config c img config with h | h <;> rw [h]
  · exact .forImage config img
  · exact (Grown.forImage config img).trans (grown_scan hreg _)

/-- Every call is a growth of the config it is given. -/
theorem Request.grown_apply (r : Request) (hreg : r.collaborators.registries.NameFaithful)
    (config : ScanConfig) : Grown config (r.apply config) := by
  cases r with
  | scan c => exact grown_scan hreg config
  | scanContainer c img => exact grown_scanContainer hreg img config

/-- Every plugin a call hands over belongs to a growth of the config it is given. -/
theorem Request.mem_calls_plugins (r : Request) (hreg : r.collaborators.registries.NameFaithful)
    (config : ScanConfig) {call : Call} (hcall : call ∈ r.calls config) {p : Plugin}
    (hp : p ∈ call.plugins) : ∃ cfg, Grown config cfg ∧ p ∈ cfg.plugins := by
  cases r with
  | scan c =>
      exact ⟨_, grown_scan hreg config,
        Call.mem_plugins_of_handsOver (scan_handsOver c config call hcall) hp⟩
  | scanContainer c img =>
      rcases scanContainer_handsOver c img config call hcall with h | h
      · exact ⟨_, (Grown.forImage config img).trans (grown_scan hreg _),
          Call.mem_plugins_of_handsOver h hp⟩
      · exact ⟨config, .refl config, Call.mem_plugins_of_handsOver h hp⟩

/-- A call leaves the enrichers of a config that has none as they are, and runs none. -/
theorem Request.enrichers_of_nil (r : Request) {config : ScanConfig}
    (hnil : config.enrichers = []) :
    (r.apply config).enrichers = [] ∧
      ∀ es inv, Call.enricherRun es inv ∈ r.calls config → es = [] := by
  cases r with
  | scan c =>
      obtain ⟨fs, st, h⟩ := preflight_appends c config
      have henrichers : (Scalibr.scan c config).config.enrichers = [] := by
        rw [scan_config, h]
        exact hnil
      exact ⟨henrichers, fun es inv hcall =>
        Eq.trans (scan_handsOver c config _ hcall) henrichers⟩
  | scanContainer c img =>
      exact ⟨scanContainer_config_enrichers c img config, fun es inv hcall =>
        (scanContainer_enricherRun c img config hcall).elim id (·.trans hnil)⟩

/-- A call on a config whose requirements are all enabled keeps its extractor lists, and
leaves every requirement enabled. -/
theorem Request.apply_of_covered (r : Request) {config : ScanConfig}
    (hcovered : ∀ n ∈ config.requiredNames, n ∈ config.enabledNames) :
    (r.apply config).filesystemExtractors = config.filesystemExtractors ∧
      (r.apply config).standaloneExtractors = config.standaloneExtractors ∧
      ∀ n ∈ (r.apply config).requiredNames, n ∈ (r.apply config).enabledNames := by
  cases r with
  | scan c =>
      rw [apply, scan_config, preflight_of_covered hcovered]
      exact ⟨rfl, rfl, hcovered⟩
  | scanContainer c img =>
      have himage : ∀ n ∈ (config.forImage img).requiredNames,
          n ∈ (config.forImage img).enabledNames :=
        fun n hn => hcovered n ((Grown.forImage config img).requiredNames_subset hn)
      have hconfig : (Scalibr.scanContainer c img config).config = config.forImage img := by
        rcases scanContainer_config c img config with h | h
        · exact h
        · rw [h, scan_config, preflight_of_covered himage]
      rw [apply, hconfig]
      exact ⟨rfl, rfl, himage⟩

end Step

/-! ### Whole sessions -/

section Run

variable (rs : List Request)

/-- The run lemma: over a session whose registries return extractors under the names asked
for, the caller's config only grows. -/
theorem runRequests_grown : ∀ (rs : List Request) (config : ScanConfig),
    (∀ r ∈ rs, r.collaborators.registries.NameFaithful) → Grown config (runRequests rs config)
  | [], config, _ => .refl config
  | r :: rs, config, hreg =>
      (r.grown_apply (hreg r (List.mem_cons_self r rs)) config).trans
        (runRequests_grown rs _ fun r' hr' => hreg r' (List.mem_cons_of_mem r hr'))

/-- Every plugin the session hands over belongs to a growth of the caller's config. -/
theorem sessionCalls_grown : ∀ (rs : List Request) (config : ScanConfig),
    (∀ r ∈ rs, r.collaborators.registries.NameFaithful) →
      ∀ call ∈ sessionCalls rs config, ∀ p ∈ call.plugins,
        ∃ cfg, Grown config cfg ∧ p ∈ cfg.plugins
  | [], _, _, _, hcall => by cases hcall
  | r :: rs, config, hreg, call, hcall => by
      have hr := hreg r (List.mem_cons_self r rs)
      rcases List.mem_append.1 hcall with hcall | hcall
      · exact fun p hp => r.mem_calls_plugins hr config hcall hp
      · intro p hp
        obtain ⟨cfg, hgrown, hmem⟩ := sessionCalls_grown rs _
          (fun r' hr' => hreg r' (List.mem_cons_of_mem r hr')) call hcall p hp
        exact ⟨cfg, (r.grown_apply hr config).trans hgrown, hmem⟩

/-- Over any session, whatever its calls, their order and the collaborators of each, no
plugin is handed to a collaborator that the caller did not enable, except an extractor under
a name that the caller's own detectors or enrichers require and the caller does not
enable. -/
theorem sessionCalls_plugins (config : ScanConfig)
    (hreg : ∀ r ∈ rs, r.collaborators.registries.NameFaithful) :
    ∀ call ∈ sessionCalls rs config, ∀ p ∈ call.plugins,
      p ∈ config.plugins ∨ p.name ∈ config.requiredNames ∧ p.name ∉ config.enabledNames := by
  intro call hcall p hp
  obtain ⟨cfg, hgrown, hmem⟩ := sessionCalls_grown rs config hreg call hcall p hp
  exact hgrown.mem_plugins hmem

/-- However long a session runs, each extractor list of the caller's config grows by at
most the number of distinct names the caller requires and does not enable. -/
theorem runRequests_extractors_bounded (config : ScanConfig)
    (hreg : ∀ r ∈ rs, r.collaborators.registries.NameFaithful) :
    (runRequests rs config).filesystemExtractors.length ≤ config.filesystemExtractors.length +
        (config.requiredNames.filter (· ∉ config.enabledNames)).dedup.length ∧
      (runRequests rs config).standaloneExtractors.length ≤
        config.standaloneExtractors.length +
          (config.requiredNames.filter (· ∉ config.enabledNames)).dedup.length := by
  have hgrown := runRequests_grown rs config hreg
  obtain ⟨fs, hfs, hfseq⟩ := hgrown.filesystemExtractors
  obtain ⟨st, hst, hsteq⟩ := hgrown.standaloneExtractors
  rw [hfseq, hsteq, List.length_append, List.length_append]
  exact ⟨Nat.add_le_add_left hfs.length_le _, Nat.add_le_add_left hst.length_le _⟩

/-- On a config whose requirements are all enabled, no session changes the extractor
lists. -/
theorem runRequests_of_covered : ∀ (rs : List Request) {config : ScanConfig},
    (∀ n ∈ config.requiredNames, n ∈ config.enabledNames) →
      (runRequests rs config).filesystemExtractors = config.filesystemExtractors ∧
        (runRequests rs config).standaloneExtractors = config.standaloneExtractors
  | [], _, _ => ⟨rfl, rfl⟩
  | r :: rs, _, hcovered => by
      obtain ⟨hfs, hst, hcovered'⟩ := r.apply_of_covered hcovered
      obtain ⟨hfs', hst'⟩ := runRequests_of_covered rs hcovered'
      exact ⟨hfs'.trans hfs, hst'.trans hst⟩

/-- Once a `Scan` whose registries return extractors under the names asked for has got
through `EnableRequiredExtractors`, no later call of the session changes the extractor
lists, whatever its collaborators: the config reaches its fixed point in one call. -/
theorem runRequests_extractors_after_scan {c : Collaborators}
    (hreg : c.registries.NameFaithful) (config : ScanConfig)
    (henable : (config.enableRequiredExtractors c.printable c.registries c.mapOrder).2 = none) :
    (runRequests (.scan c :: rs) config).filesystemExtractors =
        (scan c config).config.filesystemExtractors ∧
      (runRequests (.scan c :: rs) config).standaloneExtractors =
        (scan c config).config.standaloneExtractors := by
  have hok : config.enableRequiredExtractors c.printable c.registries c.mapOrder =
      ((config.enableRequiredExtractors c.printable c.registries c.mapOrder).1, none) :=
    Prod.ext rfl henable
  have hcovered := enableRequiredExtractors_covers hreg hok
  rw [← preflight_config, ← scan_config] at hcovered
  exact runRequests_of_covered rs hcovered

/-- On a config without enrichers, no session runs an enricher, and the config keeps
none. -/
theorem sessionCalls_of_no_enrichers : ∀ (rs : List Request) {config : ScanConfig},
    config.enrichers = [] →
      (runRequests rs config).enrichers = [] ∧
        ∀ es inv, Call.enricherRun es inv ∈ sessionCalls rs config → es = []
  | [], _, hnil => ⟨hnil, fun _ _ h => by cases h⟩
  | r :: rs, _, hnil => by
      obtain ⟨hnil', hcalls⟩ := r.enrichers_of_nil hnil
      obtain ⟨hrun, hrest⟩ := sessionCalls_of_no_enrichers rs hnil'
      refine ⟨hrun, fun es inv hcall => ?_⟩
      rcases List.mem_append.1 hcall with hcall | hcall
      exacts [hcalls es inv hcall, hrest es inv hcall]

/-- After one `ScanContainer`, no later call of the session, `Scan` or `ScanContainer`,
runs an enricher: the caller's enrichers were cleared and are never put back. -/
theorem sessionCalls_no_enricher_after_container (c : Collaborators) (img : Image)
    (config : ScanConfig) :
    ∀ es inv, Call.enricherRun es inv ∈ sessionCalls rs (scanContainer c img config).config →
      es = [] :=
  (sessionCalls_of_no_enrichers rs (scanContainer_config_enrichers c img config)).2

/-- On a config whose one scan root is an image's, a session leaves the root of the last
image it scanned. -/
theorem runRequests_scanRoots_of_image :
    ∀ (rs : List Request) (img : Image) {config : ScanConfig},
      config.scanRoots = [⟨img.fs, ""⟩] →
        (runRequests rs config).scanRoots = [⟨(lastImage img rs).fs, ""⟩]
  | [], _, _, h => h
  | .scan c :: rs, img, config, h => by
      obtain ⟨fs, st, hpre⟩ := preflight_appends c config
      have hroots : (scan c config).config.scanRoots = [⟨img.fs, ""⟩] := by
        rw [scan_config, hpre]
        exact h
      exact runRequests_scanRoots_of_image rs img hroots
  | .scanContainer c img' :: rs, _, config, _ =>
      runRequests_scanRoots_of_image rs img' (scanContainer_config_scanRoots c img' config)

/-- After one `ScanContainer`, the config keeps the root of the last image scanned for the
rest of the session: the caller's own scan roots are gone for good, and every later `Scan`
walks an image's filesystem. -/
theorem runRequests_scanRoots_after_container (c : Collaborators) (img : Image)
    (config : ScanConfig) :
    (runRequests rs (scanContainer c img config).config).scanRoots =
      [⟨(lastImage img rs).fs, ""⟩] :=
  runRequests_scanRoots_of_image rs img (scanContainer_config_scanRoots c img config)

/-- The caller enables `enricherE`; a `Scan` after a `ScanContainer` hands the enricher
runner the config's enrichers, and `enricherE` is no longer among them. -/
theorem sessionCalls_no_enricher_after_container_on_enrichingConfig :
    enrichingConfig.enrichers = [enricherE] ∧
      Call.enricherRun (scanContainer failingPhases emptyImage enrichingConfig).config.enrichers
          Inventory.empty ∈
        sessionCalls [.scan failingPhases]
          (scanContainer failingPhases emptyImage enrichingConfig).config ∧
      enricherE ∉ (scanContainer failingPhases emptyImage enrichingConfig).config.enrichers := by
  have hcalls : sessionCalls [.scan failingPhases]
      (scanContainer failingPhases emptyImage enrichingConfig).config =
        [.filesystemRun [], .standaloneRun [], .detectorrunnerRun [],
          .annotatorRun [] Inventory.empty, .enricherRun [] Inventory.empty] := rfl
  have hmem : Call.enricherRun
      (scanContainer failingPhases emptyImage enrichingConfig).config.enrichers Inventory.empty ∈
        sessionCalls [.scan failingPhases]
          (scanContainer failingPhases emptyImage enrichingConfig).config := by
    rw [hcalls]
    exact .tail _ (.tail _ (.tail _ (.tail _ (.head _))))
  refine ⟨rfl, hmem, ?_⟩
  rw [sessionCalls_no_enricher_after_container [.scan failingPhases] failingPhases emptyImage
    enrichingConfig _ Inventory.empty hmem]
  exact List.not_mem_nil _

end Run

/-! ### A session -/

/-- `Scan`, then `ScanContainer` of an empty image, then `Scan` again. -/
def scanTwiceAroundContainer : List Request :=
  [.scan registryOfXCollaborators, .scanContainer registryOfXCollaborators emptyImage,
    .scan registryOfXCollaborators]

theorem scanTwiceAroundContainer_nameFaithful :
    ∀ r ∈ scanTwiceAroundContainer, r.collaborators.registries.NameFaithful := by
  simp only [scanTwiceAroundContainer, List.mem_cons, List.mem_nil_iff, or_false]
  rintro r (rfl | rfl | rfl) <;> exact registryOfX_nameFaithful

/-- The session appends `extractorX` once, in its first call. -/
example :
    (runRequests scanTwiceAroundContainer configNeedingX).filesystemExtractors = [extractorX] :=
  rfl

theorem sessionCalls_plugins_on_scanTwiceAroundContainer :
    (∀ r ∈ scanTwiceAroundContainer, r.collaborators.registries.NameFaithful) ∧
      ∀ call ∈ sessionCalls scanTwiceAroundContainer configNeedingX, ∀ p ∈ call.plugins,
        p ∈ configNeedingX.plugins ∨
          p.name ∈ configNeedingX.requiredNames ∧ p.name ∉ configNeedingX.enabledNames :=
  ⟨scanTwiceAroundContainer_nameFaithful, sessionCalls_plugins scanTwiceAroundContainer
    configNeedingX scanTwiceAroundContainer_nameFaithful⟩

theorem runRequests_extractors_bounded_on_scanTwiceAroundContainer :
    (∀ r ∈ scanTwiceAroundContainer, r.collaborators.registries.NameFaithful) ∧
      (runRequests scanTwiceAroundContainer configNeedingX).filesystemExtractors.length ≤
          configNeedingX.filesystemExtractors.length +
            (configNeedingX.requiredNames.filter (· ∉ configNeedingX.enabledNames)).dedup.length ∧
        (runRequests scanTwiceAroundContainer configNeedingX).standaloneExtractors.length ≤
          configNeedingX.standaloneExtractors.length +
            (configNeedingX.requiredNames.filter (· ∉ configNeedingX.enabledNames)).dedup.length :=
  ⟨scanTwiceAroundContainer_nameFaithful, runRequests_extractors_bounded scanTwiceAroundContainer
    configNeedingX scanTwiceAroundContainer_nameFaithful⟩

theorem runRequests_extractors_after_scan_on_scanTwiceAroundContainer :
    registryOfXCollaborators.registries.NameFaithful ∧
      (configNeedingX.enableRequiredExtractors noTable registryOfX .inserted).2 = none ∧
      (runRequests scanTwiceAroundContainer configNeedingX).filesystemExtractors =
          (scan registryOfXCollaborators configNeedingX).config.filesystemExtractors ∧
        (runRequests scanTwiceAroundContainer configNeedingX).standaloneExtractors =
          (scan registryOfXCollaborators configNeedingX).config.standaloneExtractors :=
  ⟨registryOfX_nameFaithful, rfl, runRequests_extractors_after_scan
    [.scanContainer registryOfXCollaborators emptyImage, .scan registryOfXCollaborators]
    registryOfX_nameFaithful configNeedingX rfl⟩

end Scalibr
