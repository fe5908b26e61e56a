import Scalibr.Plugin
import Mathlib.Data.List.Dedup

/-!
`ScanConfig` and the two steps `Scan` takes before it runs any plugin:
`EnableRequiredExtractors`, which adds the extractors that enabled detectors and enrichers
name but the caller did not enable, and `ValidatePluginRequirements`, which checks every
plugin against the environment's capabilities. The name registries of `list.go` and
`plugin.ValidateRequirements` lie outside src/ and are parameters. Go ranges over the map
of required names in an order of its choosing; `MapOrder` is that choice.
-/

namespace Scalibr

open Go

/-- `scalibrfs.ScanRoot`: a filesystem, known by name, and the path it is rooted at. -/
structure ScanRoot where
  fs : String
  path : String
deriving DecidableEq, Repr

/-- `ScanConfig` with the fields the modelled code reads. The walker's options
(`DirsToSkip`, `MaxFileSize`, `ReadSymlinks`, ...) only pass through to `filesystem.Run`.
`Stats`, which `Scan` sets to `stats.NoopCollector{}` when it is nil and otherwise only
hands on, is left out. -/
structure ScanConfig where
  filesystemExtractors : List FilesystemExtractor
  standaloneExtractors : List StandaloneExtractor
  detectors : List Detector
  annotators : List Annotator
  enrichers : List Enricher
  capabilities : Option Capabilities
  scanRoots : List ScanRoot
  pathsToExtract : List String
deriving DecidableEq, Repr

/-- `el.ExtractorFromName` and `sl.ExtractorFromName` of `list.go`. -/
structure Registries where
  filesystemFromName : String → Except GoError FilesystemExtractor
  standaloneFromName : String → Except GoError StandaloneExtractor

/-- The order in which Go ranges over a map whose keys were inserted as `keys`: every key
once, in an order the runtime picks. -/
structure MapOrder where
  order : List String → List String
  perm : ∀ keys, (order keys).Perm keys.dedup

/-- Ranging over the keys in insertion order, one of the orders Go may pick. -/
def MapOrder.inserted : MapOrder := ⟨List.dedup, fun _ => List.Perm.refl _⟩

theorem MapOrder.mem_order (it : MapOrder) {keys : List String} {n : String} :
    n ∈ it.order keys ↔ n ∈ keys :=
  (it.perm keys).mem_iff.trans List.mem_dedup

theorem MapOrder.nodup_order (it : MapOrder) (keys : List String) : (it.order keys).Nodup :=
  (it.perm keys).nodup_iff.2 (List.nodup_dedup keys)

namespace ScanConfig

/-- The keys of `enabledExtractors`: the names of the enabled extractors. -/
def enabledNames (cfg : ScanConfig) : List String :=
  cfg.filesystemExtractors.map (·.name) ++ cfg.standaloneExtractors.map (·.name)

/-- The keys of `requiredExtractors`, in insertion order: what the detectors and the
enrichers require. -/
def requiredNames (cfg : ScanConfig) : List String :=
  cfg.detectors.flatMap (·.requiredExtractors) ++ cfg.enrichers.flatMap (·.requiredPlugins)

def appendExtractors (cfg : ScanConfig) (fs : List FilesystemExtractor)
    (st : List StandaloneExtractor) : ScanConfig :=
  { cfg with filesystemExtractors := cfg.filesystemExtractors ++ fs,
             standaloneExtractors := cfg.standaloneExtractors ++ st }

@[simp] theorem appendExtractors_nil (cfg : ScanConfig) : cfg.appendExtractors [] [] = cfg := by
  simp [appendExtractors]

@[simp] theorem appendExtractors_append (cfg : ScanConfig) (fs fs' st st') :
    (cfg.appendExtractors fs st).appendExtractors fs' st' =
      cfg.appendExtractors (fs ++ fs') (st ++ st') := by
  simp [appendExtractors]

@[simp] theorem requiredNames_appendExtractors (cfg : ScanConfig) (fs st) :
    (cfg.appendExtractors fs st).requiredNames = cfg.requiredNames := rfl

theorem mem_enabledNames_appendExtractors {cfg : ScanConfig} {fs st} {n : String} :
    n ∈ (cfg.appendExtractors fs st).enabledNames ↔
      n ∈ cfg.enabledNames ∨ n ∈ fs.map (·.name) ∨ n ∈ st.map (·.name) := by
  simp only [enabledNames, appendExtractors, List.map_append, List.mem_append, or_assoc,
    or_left_comm]

end ScanConfig

/-- What a registry lookup found: the extractor, or nothing on an error. -/
def found {α : Type} : Except GoError α → List α
  | .ok x => [x]
  | .error _ => []

/-- The error for a required name that neither registry knows, wrapping both lookup
errors. `printable` is the Unicode table `%q` reads. -/
def notInListError (printable : Char → Bool) (e : String) (err sterr : GoError) : GoError :=
  .mk ("required extractor " ++ sprintQ printable e ++ " not present in list.go: " ++ err.msg ++
    ", " ++ sterr.msg) [err, sterr] false

/-- The loop over the required names. The config is updated as the loop goes, so an error
leaves the extractors appended before it in place. -/
def enableLoop (printable : Char → Bool) (reg : Registries) :
    List String → List String → ScanConfig → ScanConfig × Option GoError
  | _, [], cfg => (cfg, none)
  | enabled, e :: rest, cfg =>
      if e ∈ enabled then enableLoop printable reg enabled rest cfg
      else
        match reg.filesystemFromName e, reg.standaloneFromName e with
        | .error err, .error sterr => (cfg, some (notInListError printable e err sterr))
        | ex, stex =>
            enableLoop printable reg (e :: enabled) rest
              (cfg.appendExtractors (found ex) (found stex))

/-- `cfg.EnableRequiredExtractors()`: the config it leaves, and the error it returns. -/
def ScanConfig.enableRequiredExtractors (printable : Char → Bool) (reg : Registries)
    (it : MapOrder) (cfg : ScanConfig) : ScanConfig × Option GoError :=
  enableLoop printable reg cfg.enabledNames (it.order cfg.requiredNames) cfg

/-- Every plugin of the config, in the order `ValidatePluginRequirements` lists them. -/
def ScanConfig.plugins (cfg : ScanConfig) : List Plugin :=
  cfg.filesystemExtractors.map (·.toPlugin) ++ cfg.standaloneExtractors.map (·.toPlugin) ++
    cfg.detectors.map (·.toPlugin) ++ cfg.annotators.map (·.toPlugin) ++
    cfg.enrichers.map (·.toPlugin)

/-- `cfg.ValidatePluginRequirements()`, with `plugin.ValidateRequirements` as `validate`:
the errors of every plugin that fails, joined. -/
def ScanConfig.validatePluginRequirements
    (validate : Plugin → Option Capabilities → Option GoError) (cfg : ScanConfig) :
    Option GoError :=
  errorsJoin (cfg.plugins.filterMap fun p => validate p cfg.capabilities)

/-! ### `EnableRequiredExtractors` -/

/-- Registries that return an extractor under the name it was looked up by. -/
def Registries.NameFaithful (reg : Registries) : Prop :=
  (∀ n x, reg.filesystemFromName n = .ok x → x.name = n) ∧
    (∀ n x, reg.standaloneFromName n = .ok x → x.name = n)

/-- A registry knows `e`: the two lookups do not both fail. -/
def Registries.Knows (reg : Registries) (e : String) : Prop :=
  (∃ x, reg.filesystemFromName e = .ok x) ∨ ∃ x, reg.standaloneFromName e = .ok x

theorem mem_found {α : Type} {r : Except GoError α} {x : α} : x ∈ found r ↔ r = .ok x := by
  cases r <;> simp [found, eq_comm]

theorem nodup_map_found {α β : Type} (r : Except GoError α) (f : α → β) :
    ((found r).map f).Nodup := by
  cases r <;> simp [found]

/-- What a successful run of the loop from `enabled` over `order` appends: extractors under
names of `order` that were not enabled, each name once per list, and together with
`enabled` every name of `order`. -/
structure LoopAppends (enabled order : List String) (fs : List FilesystemExtractor)
    (st : List StandaloneExtractor) : Prop where
  covers : ∀ n ∈ order, n ∈ enabled ∨ n ∈ fs.map (·.name) ∨ n ∈ st.map (·.name)
  fresh_fs : ∀ x ∈ fs, x.name ∈ order ∧ x.name ∉ enabled
  fresh_st : ∀ x ∈ st, x.name ∈ order ∧ x.name ∉ enabled
  nodup_fs : (fs.map (·.name)).Nodup
  nodup_st : (st.map (·.name)).Nodup

/-- Extractors under names of `required` that are not in `enabled`, each name at most once:
what resolving requirements may add to a config. -/
structure FreshNames {α : Type} (name : α → String) (required enabled : List String)
    (xs : List α) : Prop where
  fresh : ∀ x ∈ xs, name x ∈ required ∧ name x ∉ enabled
  nodup : (xs.map name).Nodup

namespace FreshNames

variable {α : Type} {name : α → String} {required enabled required' enabled' : List String}
  {xs ys : List α}

theorem nil : FreshNames name required enabled [] :=
  ⟨by simp, by simp⟩

theorem mono (h : FreshNames name required enabled xs) (hreq : required ⊆ required')
    (hen : enabled' ⊆ enabled) : FreshNames name required' enabled' xs :=
  ⟨fun x hx => ⟨hreq (h.fresh x hx).1, fun h' => (h.fresh x hx).2 (hen h')⟩, h.nodup⟩

/-- Two rounds of fresh extractors are fresh together, when the second round's
requirements are among the first's and its enabled names cover the first's and what the
first round added. -/
theorem append (hxs : FreshNames name required enabled xs)
    (hys : FreshNames name required' enabled' ys) (hreq : required' ⊆ required)
    (hen : enabled ⊆ enabled') (hadded : ∀ x ∈ xs, name x ∈ enabled') :
    FreshNames name required enabled (xs ++ ys) where
  fresh z hz := by
    rcases List.mem_append.1 hz with hz | hz
    · exact hxs.fresh z hz
    · exact ⟨hreq (hys.fresh z hz).1, fun h => (hys.fresh z hz).2 (hen h)⟩
  nodup := by
    rw [List.map_append, List.nodup_append]
    refine ⟨hxs.nodup, hys.nodup, fun n hn hn' => ?_⟩
    obtain ⟨x, hx, rfl⟩ := List.mem_map.1 hn
    obtain ⟨y, hy, hyx⟩ := List.mem_map.1 hn'
    exact (hys.fresh y hy).2 (hyx ▸ hadded x hx)

/-- No more fresh extractors than distinct names required and not enabled. -/
theorem length_le (h : FreshNames name required enabled xs) :
    xs.length ≤ (required.filter (· ∉ enabled)).dedup.length := by
  rw [← List.length_map xs name]
  refine (List.subperm_of_subset h.nodup fun n hn => ?_).length_le
  obtain ⟨x, hx, rfl⟩ := List.mem_map.1 hn
  simpa [List.mem_dedup, List.mem_filter] using h.fresh x hx

end FreshNames

section Enable

variable {printable : Char → Bool} {reg : Registries}

section Found

variable {α : Type} {name : α → String} {e : String} {r : Except GoError α}
  {enabled rest : List String} {xs : List α}

/-- What a lookup of `e` finds, put before extractors appended later, is new and named
`e`. -/
private theorem fresh_found_append (hr : ∀ x, r = .ok x → name x = e) (he : e ∉ enabled)
    (hxs : ∀ x ∈ xs, name x ∈ rest ∧ name x ∉ e :: enabled) :
    ∀ x ∈ found r ++ xs, name x ∈ e :: rest ∧ name x ∉ enabled := by
  intro x hx
  rcases List.mem_append.1 hx with hx | hx
  · rw [hr x (mem_found.1 hx)]
    exact ⟨List.mem_cons_self e rest, he⟩
  · exact ⟨List.mem_cons_of_mem e (hxs x hx).1,
      fun h' => (hxs x hx).2 (List.mem_cons_of_mem e h')⟩

private theorem nodup_found_append (hr : ∀ x, r = .ok x → name x = e)
    (hnodup : (xs.map name).Nodup) (hxs : ∀ x ∈ xs, name x ∉ e :: enabled) :
    ((found r ++ xs).map name).Nodup := by
  rw [List.map_append, List.nodup_append]
  refine ⟨nodup_map_found _ _, hnodup, fun a ha hb => ?_⟩
  obtain ⟨x, hx, rfl⟩ := List.mem_map.1 ha
  obtain ⟨y, hy, hyx⟩ := List.mem_map.1 hb
  rw [hr x (mem_found.1 hx)] at hyx
  exact hxs y hy (hyx ▸ List.mem_cons_self e enabled)

end Found

/-- One iteration of the loop for a name that is not enabled yet and that a registry
knows, followed by the rest of the loop. -/
private theorem loopAppends_step (hreg : reg.NameFaithful) {enabled rest : List String}
    {e : String} {fs st} (he : e ∉ enabled)
    (hknown : e ∈ (found (reg.filesystemFromName e)).map (·.name) ∨
      e ∈ (found (reg.standaloneFromName e)).map (·.name))
    (h : LoopAppends (e :: enabled) rest fs st) :
    LoopAppends enabled (e :: rest) (found (reg.filesystemFromName e) ++ fs)
      (found (reg.standaloneFromName e) ++ st) where
  covers n hn := by
    have hn' : n = e ∨ n ∈ enabled ∨ n ∈ fs.map (·.name) ∨ n ∈ st.map (·.name) := by
      rcases List.mem_cons.1 hn with rfl | hn
      · exact .inl rfl
      · rcases h.covers n hn with h' | h'
        · exact (List.mem_cons.1 h').elim .inl (.inr ∘ .inl)
        · exact .inr (.inr h')
    simp only [List.map_append, List.mem_append]
    rcases hn' with rfl | h' | h' | h'
    · exact hknown.elim (.inr ∘ .inl ∘ .inl) (.inr ∘ .inr ∘ .inl)
    · exact .inl h'
    · exact .inr (.inl (.inr h'))
    · exact .inr (.inr (.inr h'))
  fresh_fs := fresh_found_append (hreg.1 e) he h.fresh_fs
  fresh_st := fresh_found_append (hreg.2 e) he h.fresh_st
  nodup_fs := nodup_found_append (hreg.1 e) h.nodup_fs fun x hx => (h.fresh_fs x hx).2
  nodup_st := nodup_found_append (hreg.2 e) h.nodup_st fun x hx => (h.fresh_st x hx).2

/-- The loop invariant: a successful loop only appends, and what it appends is described by
`LoopAppends`. -/
theorem enableLoop_ok (hreg : reg.NameFaithful) :
    ∀ {enabled order : List String} {cfg cfg' : ScanConfig},
      enableLoop printable reg enabled order cfg = (cfg', none) →
      ∃ fs st, cfg' = cfg.appendExtractors fs st ∧ LoopAppends enabled order fs st
  | enabled, [], cfg, cfg', h => by
      simp only [enableLoop, Prod.mk.injEq] at h
      exact ⟨[], [], by simp [h.1], ⟨by simp, by simp, by simp, by simp, by simp⟩⟩
  | enabled, e :: rest, cfg, cfg', h => by
      unfold enableLoop at h
      split_ifs at h with he
      · obtain ⟨fs, st, rfl, hloop⟩ := enableLoop_ok hreg h
        refine ⟨fs, st, rfl, fun n hn => ?_, fun x hx => ?_, fun x hx => ?_,
          hloop.nodup_fs, hloop.nodup_st⟩
        · rcases List.mem_cons.1 hn with rfl | hn
          · exact .inl he
          · exact hloop.covers n hn
        · exact ⟨List.mem_cons_of_mem e (hloop.fresh_fs x hx).1, (hloop.fresh_fs x hx).2⟩
        · exact ⟨List.mem_cons_of_mem e (hloop.fresh_st x hx).1, (hloop.fresh_st x hx).2⟩
      · split at h
        · cases h
        · rename_i hnot
          obtain ⟨fs, st, rfl, hloop⟩ := enableLoop_ok hreg h
          refine ⟨_, _, by simp, loopAppends_step hreg he ?_ hloop⟩
          cases hfs : reg.filesystemFromName e with
          | error err =>
              cases hst : reg.standaloneFromName e with
              | error sterr => exact (hnot err sterr hfs hst).elim
              | ok x => simp [found, hreg.2 e x hst]
          | ok x => simp [found, hreg.1 e x hfs]

theorem enableLoop_of_enabled {enabled : List String} {cfg : ScanConfig} :
    ∀ {order : List String}, (∀ n ∈ order, n ∈ enabled) →
      enableLoop printable reg enabled order cfg = (cfg, none)
  | [], _ => rfl
  | e :: rest, h => by
      rw [enableLoop, if_pos (h e (List.mem_cons_self e rest))]
      exact enableLoop_of_enabled fun n hn => h n (List.mem_cons_of_mem e hn)

/-- Whatever the registries return and however the loop ends, it only appends extractors. -/
theorem enableLoop_appends :
    ∀ (enabled order : List String) (cfg : ScanConfig),
      ∃ fs st, (enableLoop printable reg enabled order cfg).1 = cfg.appendExtractors fs st
  | _, [], cfg => ⟨[], [], by simp [enableLoop]⟩
  | enabled, e :: rest, cfg => by
      unfold enableLoop
      split_ifs
      · exact enableLoop_appends enabled rest cfg
      · split
        · exact ⟨[], [], by simp⟩
        · obtain ⟨fs, st, h⟩ := enableLoop_appends (e :: enabled) rest
            (cfg.appendExtractors (found (reg.filesystemFromName e))
              (found (reg.standaloneFromName e)))
          exact ⟨_, _, by rw [h, ScanConfig.appendExtractors_append]⟩

/-- However the loop ends, what it appended is new: under names of `order` that were not
enabled, each name at most once per list. -/
theorem enableLoop_fresh (hreg : reg.NameFaithful) :
    ∀ (enabled order : List String) (cfg : ScanConfig), ∃ fs st,
      (enableLoop printable reg enabled order cfg).1 = cfg.appendExtractors fs st ∧
      FreshNames (·.name) order enabled fs ∧ FreshNames (·.name) order enabled st
  | _, [], cfg => ⟨[], [], by simp [enableLoop], .nil, .nil⟩
  | enabled, e :: rest, cfg => by
      unfold enableLoop
      split_ifs with he
      · obtain ⟨fs, st, h, hfs, hst⟩ := enableLoop_fresh hreg enabled rest cfg
        exact ⟨fs, st, h, hfs.mono (List.subset_cons_self e rest) (List.Subset.refl _),
          hst.mono (List.subset_cons_self e rest) (List.Subset.refl _)⟩
      · split
        · exact ⟨[], [], by simp, .nil, .nil⟩
        · obtain ⟨fs, st, h, hfs, hst⟩ := enableLoop_fresh hreg (e :: enabled) rest
            (cfg.appendExtractors (found (reg.filesystemFromName e))
              (found (reg.standaloneFromName e)))
          exact ⟨_, _, by rw [h, ScanConfig.appendExtractors_append],
            ⟨fresh_found_append (hreg.1 e) he hfs.fresh,
              nodup_found_append (hreg.1 e) hfs.nodup fun x hx => (hfs.fresh x hx).2⟩,
            ⟨fresh_found_append (hreg.2 e) he hst.fresh,
              nodup_found_append (hreg.2 e) hst.nodup fun x hx => (hst.fresh x hx).2⟩⟩

/-- The loop at a name that is not enabled and that a registry knows: what the lookups
found is appended and the name marked enabled. -/
theorem enableLoop_cons_of_knows {enabled rest : List String} {e : String} {cfg : ScanConfig}
    (he : e ∉ enabled) (hknows : reg.Knows e) :
    enableLoop printable reg enabled (e :: rest) cfg = enableLoop printable reg (e :: enabled) rest
      (cfg.appendExtractors (found (reg.filesystemFromName e))
        (found (reg.standaloneFromName e))) := by
  rw [enableLoop, if_neg he]
  split
  · rcases hknows with ⟨x, hx⟩ | ⟨x, hx⟩ <;> simp_all
  · rfl

/-- The loop fails once it meets a name that is not enabled and that no registry knows. -/
theorem enableLoop_isSome :
    ∀ {enabled order : List String} {cfg : ScanConfig},
      (∃ e ∈ order, e ∉ enabled ∧ ¬ reg.Knows e) →
        (enableLoop printable reg enabled order cfg).2.isSome
  | _, [], _, ⟨_, he, _⟩ => absurd he (List.not_mem_nil _)
  | enabled, e' :: rest, cfg, ⟨e, he, hen, hunknown⟩ => by
      by_cases he' : e' ∈ enabled
      · rw [enableLoop, if_pos he']
        rcases List.mem_cons.1 he with rfl | he
        · exact absurd he' hen
        · exact enableLoop_isSome ⟨e, he, hen, hunknown⟩
      by_cases hknows : reg.Knows e'
      · rw [enableLoop_cons_of_knows he' hknows]
        rcases List.mem_cons.1 he with rfl | he
        · exact absurd hknows hunknown
        · refine enableLoop_isSome ⟨e, he, fun h => ?_, hunknown⟩
          rcases List.mem_cons.1 h with rfl | h
          exacts [hunknown hknows, hen h]
      · simp only [Registries.Knows, not_or, not_exists] at hknows
        cases hfs : reg.filesystemFromName e' with
        | ok x => exact absurd hfs (hknows.1 x)
        | error err =>
            cases hst : reg.standaloneFromName e' with
            | ok x => exact absurd hst (hknows.2 x)
            | error sterr => simp [enableLoop, he', hfs, hst]

/-- A loop over distinct names that the registries all know, where not enabled, succeeds
and appends what the lookups of the names that were not enabled found, in the loop's
order. -/
theorem enableLoop_of_knows :
    ∀ {enabled order : List String} {cfg : ScanConfig}, order.Nodup →
      (∀ e ∈ order, e ∉ enabled → reg.Knows e) →
      enableLoop printable reg enabled order cfg =
        (cfg.appendExtractors
          ((order.filter (· ∉ enabled)).flatMap fun e => found (reg.filesystemFromName e))
          ((order.filter (· ∉ enabled)).flatMap fun e => found (reg.standaloneFromName e)),
          none)
  | _, [], cfg, _, _ => by simp [enableLoop]
  | enabled, e :: rest, cfg, hnodup, hknows => by
      obtain ⟨hfresh, hnodup⟩ := List.nodup_cons.1 hnodup
      by_cases he : e ∈ enabled
      · rw [enableLoop, if_pos he,
          enableLoop_of_knows hnodup fun x hx => hknows x (List.mem_cons_of_mem e hx)]
        simp [he]
      · have hrest : rest.filter (· ∉ e :: enabled) = rest.filter (· ∉ enabled) :=
          List.filter_congr fun x hx => by
            simp [List.mem_cons, show x ≠ e from fun h => hfresh (h ▸ hx)]
        rw [enableLoop_cons_of_knows he (hknows e (List.mem_cons_self e rest) he),
          enableLoop_of_knows hnodup fun x hx hxe =>
            hknows x (List.mem_cons_of_mem e hx) fun h => hxe (List.mem_cons_of_mem e h),
          hrest]
        simp [he]

end Enable

/-- A successful call leaves every required name enabled. -/
theorem enableRequiredExtractors_covers {reg : Registries} {it : MapOrder} {cfg cfg' : ScanConfig}
    (hreg : reg.NameFaithful) (hok : cfg.enableRequiredExtractors printable reg it = (cfg', none)) :
    ∀ n ∈ cfg'.requiredNames, n ∈ cfg'.enabledNames := by
  obtain ⟨fs, st, rfl, hloop⟩ := enableLoop_ok hreg hok
  intro n hn
  rw [ScanConfig.requiredNames_appendExtractors] at hn
  exact ScanConfig.mem_enabledNames_appendExtractors.2 (hloop.covers n (it.mem_order.2 hn))

theorem validatePluginRequirements_eq_none
    {validate : Plugin → Option Capabilities → Option GoError} {cfg : ScanConfig} :
    cfg.validatePluginRequirements validate = none ↔
      ∀ p ∈ cfg.plugins, validate p cfg.capabilities = none := by
  simp [ScanConfig.validatePluginRequirements, errorsJoin_eq_none, List.filterMap_eq_nil_iff]

/-- `EnableRequiredExtractors` closes the config under requirements, idempotently. With
registries that return extractors under the names asked for, a successful call only
appends to the two extractor lists; it appends only names that the detectors or the
enrichers require and that were not enabled, each at most once per list, and leaves every
required name enabled. A second call, in any iteration order, then succeeds and changes
nothing. -/
theorem enableRequiredExtractors_idempotent (printable : Char → Bool) (reg : Registries)
    (it it' : MapOrder) {cfg cfg' : ScanConfig} (hreg : reg.NameFaithful)
    (hok : cfg.enableRequiredExtractors printable reg it = (cfg', none)) :
    let required := cfg.detectors.flatMap (·.requiredExtractors) ++
      cfg.enrichers.flatMap (·.requiredPlugins)
    (∃ fs st, cfg' = cfg.appendExtractors fs st ∧
      (∀ n ∈ required, n ∈ cfg'.enabledNames) ∧
      (∀ x ∈ fs, x.name ∈ required ∧ x.name ∉ cfg.enabledNames) ∧
      (∀ x ∈ st, x.name ∈ required ∧ x.name ∉ cfg.enabledNames) ∧
      (fs.map (·.name)).Nodup ∧ (st.map (·.name)).Nodup) ∧
    cfg'.enableRequiredExtractors printable reg it' = (cfg', none) := by
  have hcovers := enableRequiredExtractors_covers hreg hok
  obtain ⟨fs, st, rfl, hloop⟩ := enableLoop_ok hreg hok
  refine ⟨⟨fs, st, rfl, hcovers, fun x hx => ?_, fun x hx => ?_, hloop.nodup_fs,
    hloop.nodup_st⟩, enableLoop_of_enabled fun n hn => hcovers n (it'.mem_order.1 hn)⟩
  · exact ⟨it.mem_order.1 (hloop.fresh_fs x hx).1, (hloop.fresh_fs x hx).2⟩
  · exact ⟨it.mem_order.1 (hloop.fresh_st x hx).1, (hloop.fresh_st x hx).2⟩

/-- No requirements, an OS-independent plugin. -/
def noRequirements : Capabilities := ⟨"", false, false⟩

def extractorX : FilesystemExtractor := ⟨⟨"x", 0, noRequirements⟩⟩

/-- Registries that know one filesystem extractor, `"x"`, and no standalone one. -/
def registryOfX : Registries where
  filesystemFromName n := if n = "x" then .ok extractorX else .error (.new "not found")
  standaloneFromName _ := .error (.new "not found")

theorem registryOfX_nameFaithful : registryOfX.NameFaithful := by
  refine ⟨fun n x h => ?_, fun n x h => by cases h⟩
  simp only [registryOfX] at h
  split_ifs at h with hn
  · cases h
    exact hn.symm

/-- A Unicode table that marks no rune above U+00FF printable. -/
def noTable : Char → Bool := fun _ => false

/-- A config whose one detector requires `"x"`, which is not enabled. -/
def configNeedingX : ScanConfig :=
  ⟨[], [], [⟨⟨"d", 0, noRequirements⟩, ["x"]⟩], [], [], none, [], []⟩

theorem enableRequiredExtractors_idempotent_on_configNeedingX :
    registryOfX.NameFaithful ∧
      configNeedingX.enableRequiredExtractors noTable registryOfX .inserted =
        (configNeedingX.appendExtractors [extractorX] [], none) ∧
      (configNeedingX.appendExtractors [extractorX] []).enableRequiredExtractors noTable
        registryOfX .inserted = (configNeedingX.appendExtractors [extractorX] [], none) := by
  have hok : configNeedingX.enableRequiredExtractors noTable registryOfX .inserted =
      (configNeedingX.appendExtractors [extractorX] [], none) := rfl
  exact ⟨registryOfX_nameFaithful, hok, (enableRequiredExtractors_idempotent noTable registryOfX
    .inserted .inserted registryOfX_nameFaithful hok).2⟩

/-- Go's randomised map order does not show: `EnableRequiredExtractors` fails exactly when
a name that a detector or an enricher requires is neither enabled nor known to a registry,
so it fails in one order iff in every other, and on success each extractor list receives
the same extractors in every order, up to their order. -/
theorem enableRequiredExtractors_order_independent (printable : Char → Bool) (reg : Registries)
    (it it' : MapOrder) (cfg : ScanConfig) :
    let required := cfg.detectors.flatMap (·.requiredExtractors) ++
      cfg.enrichers.flatMap (·.requiredPlugins)
    ((cfg.enableRequiredExtractors printable reg it).2.isSome ↔
      ∃ n ∈ required, n ∉ cfg.enabledNames ∧ ¬ reg.Knows n) ∧
    ((cfg.enableRequiredExtractors printable reg it).2.isSome ↔
      (cfg.enableRequiredExtractors printable reg it').2.isSome) ∧
    ((cfg.enableRequiredExtractors printable reg it).2 = none →
      ∃ fs st fs' st',
        (cfg.enableRequiredExtractors printable reg it).1 = cfg.appendExtractors fs st ∧
        (cfg.enableRequiredExtractors printable reg it').1 = cfg.appendExtractors fs' st' ∧
        fs.Perm fs' ∧ st.Perm st') := by
  have hfails : ∀ it : MapOrder, (cfg.enableRequiredExtractors printable reg it).2.isSome ↔
      ∃ n ∈ cfg.requiredNames, n ∉ cfg.enabledNames ∧ ¬ reg.Knows n := fun it => by
    refine ⟨fun h => ?_, fun ⟨n, hn, hen, hk⟩ => enableLoop_isSome ⟨n, it.mem_order.2 hn, hen, hk⟩⟩
    by_contra hall
    push_neg at hall
    rw [ScanConfig.enableRequiredExtractors, enableLoop_of_knows (it.nodup_order _)
      fun n hn => hall n (it.mem_order.1 hn)] at h
    cases h
  refine ⟨hfails it, (hfails it).trans (hfails it').symm, fun hok => ?_⟩
  have hknows : ∀ n ∈ cfg.requiredNames, n ∉ cfg.enabledNames → reg.Knows n :=
    fun n hn hen => Classical.not_not.1 fun hk => by
      simpa [hok] using (hfails it).2 ⟨n, hn, hen, hk⟩
  have horder := (it.perm cfg.requiredNames).trans (it'.perm cfg.requiredNames).symm
  refine ⟨_, _, _, _, congrArg Prod.fst (enableLoop_of_knows (it.nodup_order _)
      fun n hn => hknows n (it.mem_order.1 hn)),
    congrArg Prod.fst (enableLoop_of_knows (it'.nodup_order _)
      fun n hn => hknows n (it'.mem_order.1 hn)),
    (horder.filter _).flatMap_right _, (horder.filter _).flatMap_right _⟩

theorem forall₂_filter_filterMap {α β : Type} (f : α → Option β) :
    ∀ l : List α, List.Forall₂ (fun a b => f a = some b) (l.filter fun a => (f a).isSome)
      (l.filterMap f)
  | [] => .nil
  | a :: l => by
      cases h : f a <;> simp [List.filterMap_cons, h, forall₂_filter_filterMap f l]

/-- `ValidatePluginRequirements` passes exactly when every plugin does. Otherwise its joined
error wraps one error for each plugin that fails, that plugin's own, in the order of the
five lists: filesystem extractors, standalone extractors, detectors, annotators,
enrichers. -/
theorem validatePluginRequirements_wraps_each_violation
    (validate : Plugin → Option Capabilities → Option GoError) (cfg : ScanConfig) :
    let plugins := cfg.filesystemExtractors.map (·.toPlugin) ++
      cfg.standaloneExtractors.map (·.toPlugin) ++ cfg.detectors.map (·.toPlugin) ++
      cfg.annotators.map (·.toPlugin) ++ cfg.enrichers.map (·.toPlugin)
    (cfg.validatePluginRequirements validate = none ↔
      ∀ p ∈ plugins, validate p cfg.capabilities = none) ∧
    ∀ err, cfg.validatePluginRequirements validate = some err →
      List.Forall₂ (fun p e => validate p cfg.capabilities = some e)
        (plugins.filter fun p => (validate p cfg.capabilities).isSome) err.unwrap := by
  refine ⟨validatePluginRequirements_eq_none, fun err h => ?_⟩
  unfold ScanConfig.validatePluginRequirements errorsJoin at h
  split_ifs at h
  cases h
  exact forall₂_filter_filterMap _ cfg.plugins

/-- The text of the error `ValidatePluginRequirements` returns contains the text of every
plugin's violation. -/
theorem validatePluginRequirements_describes_each_violation
    (validate : Plugin → Option Capabilities → Option GoError) (cfg : ScanConfig)
    {err : GoError} (h : cfg.validatePluginRequirements validate = some err) {p : Plugin}
    (hp : p ∈ cfg.plugins) {e : GoError} (he : validate p cfg.capabilities = some e) :
    stringsContains err.msg e.msg :=
  errorsJoin_contains h (List.mem_filterMap.2 ⟨p, hp, he⟩)

/-- `plugin.ValidateRequirements` where there is no network access: a plugin that needs it
fails. -/
def offlineValidate (p : Plugin) (_ : Option Capabilities) : Option GoError :=
  if p.requirements.network then some (.new (p.name ++ " needs network access")) else none

/-- A filesystem extractor `"a"` and an enricher `"b"` that need the network, and a detector
that does not. -/
def networkConfig : ScanConfig :=
  ⟨[⟨⟨"a", 0, ⟨"", false, true⟩⟩⟩], [], [⟨⟨"d", 0, noRequirements⟩, []⟩], [],
    [⟨⟨"b", 0, ⟨"", false, true⟩⟩, []⟩], none, [], []⟩

theorem validatePluginRequirements_describes_each_violation_on_networkConfig :
    networkConfig.validatePluginRequirements offlineValidate =
        some (.mk "a needs network access\nb needs network access"
          [.new "a needs network access", .new "b needs network access"] false) ∧
      stringsContains "a needs network access\nb needs network access"
        "b needs network access" := by
  have h : networkConfig.validatePluginRequirements offlineValidate =
      some (.mk "a needs network access\nb needs network access"
        [.new "a needs network access", .new "b needs network access"] false) := rfl
  exact ⟨h, validatePluginRequirements_describes_each_violation offlineValidate networkConfig h
    (by simp [networkConfig, ScanConfig.plugins] : (⟨"b", 0, ⟨"", false, true⟩⟩ : Plugin) ∈ _)
    (rfl : offlineValidate ⟨"b", 0, ⟨"", false, true⟩⟩ none = some (.new "b needs network access"))⟩

end Scalibr
