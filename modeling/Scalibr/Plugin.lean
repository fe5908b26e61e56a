import Scalibr.Go.Errors

/-!
Plugins and plugin statuses: the `plugin` package and the plugin interfaces of `extractor`,
`detector`, `annotator` and `enricher`. A plugin here is what it declares (its name,
version, requirements and the plugins it needs); what it does when run belongs to the
collaborators of the scan.
-/

namespace Scalibr

open Go

/-- `plugin.Capabilities`: what an environment provides or a plugin needs. The spec names
these three; only `plugin.ValidateRequirements`, outside src/, reads them. -/
structure Capabilities where
  os : String
  runningSystem : Bool
  network : Bool
deriving DecidableEq, Repr

/-- What every plugin declares: `Name()`, `Version()` and `Requirements()`. -/
structure Plugin where
  name : String
  version : Int
  requirements : Capabilities
deriving DecidableEq, Repr

structure FilesystemExtractor extends Plugin
deriving DecidableEq, Repr

structure StandaloneExtractor extends Plugin
deriving DecidableEq, Repr

/-- `detector.Detector` with `RequiredExtractors()`. -/
structure Detector extends Plugin where
  requiredExtractors : List String
deriving DecidableEq, Repr

structure Annotator extends Plugin
deriving DecidableEq, Repr

/-- `enricher.Enricher` with `RequiredPlugins()`. -/
structure Enricher extends Plugin where
  requiredPlugins : List String
deriving DecidableEq, Repr

/-- The `plugin.ScanStatus` values the scan code sets. -/
inductive ScanStatusEnum where
  | succeeded
  | failed
deriving DecidableEq, Repr

structure ScanStatus where
  status : ScanStatusEnum
  failureReason : String
deriving DecidableEq, Repr

/-- `plugin.Status`: one plugin's outcome. -/
structure Status where
  name : String
  version : Int
  status : ScanStatus
deriving DecidableEq, Repr

/-- Modelled from the spec: `plugin.StatusFromErr(p, false, err)`, whose body is outside
src/. The plugin's name and version, succeeded when `err` is nil and otherwise failed with
the error's text as the reason. Every call in src/ passes `partial = false`. -/
def statusFromErr (p : Plugin) (err : Option GoError) : Status :=
  { name := p.name, version := p.version,
    status := match err with
      | none => ⟨.succeeded, ""⟩
      | some e => ⟨.failed, e.msg⟩ }

@[simp] theorem statusFromErr_name (p : Plugin) (err : Option GoError) :
    (statusFromErr p err).name = p.name := rfl

theorem statusFromErr_succeeded (p : Plugin) (err : Option GoError) :
    (statusFromErr p err).status.status = .succeeded ↔ err = none := by
  cases err <;> simp [statusFromErr]

end Scalibr
