import Scalibr.Plugin

/-!
The inventory a scan accumulates (`inventory.Inventory`): packages, vulnerabilities tied to
packages, and findings that are not tied to one. Only the fields that the modelled code
reads or writes are kept; `MODEL_MAP.json` lists the rest.
-/

namespace Scalibr

/-- `extractor.LayerDetails`: the image layer a package was first seen in. -/
structure LayerDetails where
  index : Nat
  diffID : String
deriving DecidableEq, Repr

/-- `extractor.Package`, the item that `standalone.go` still calls `extractor.Inventory`. -/
structure Package where
  name : String
  version : String
  locations : List String
  plugins : List String
  layerDetails : Option LayerDetails
deriving DecidableEq, Repr

/-- `inventory.PackageVuln`: a vulnerability identifier and the plugins that found it. -/
structure PackageVuln where
  id : String
  plugins : List String
deriving DecidableEq, Repr

structure AdvisoryID where
  publisher : String
  reference : String
deriving DecidableEq, Repr

/-- `inventory.GenericFindingAdvisory`; `id` is a pointer and may be nil. -/
structure GenericFindingAdvisory where
  id : Option AdvisoryID
deriving DecidableEq, Repr

structure GenericFindingTargetDetails where
  extra : String
deriving DecidableEq, Repr

/-- `inventory.GenericFinding`; `adv` and `target` are pointers and may be nil. -/
structure GenericFinding where
  adv : Option GenericFindingAdvisory
  target : Option GenericFindingTargetDetails
  plugins : List String
deriving DecidableEq, Repr

structure Inventory where
  packages : List Package
  packageVulns : List PackageVuln
  genericFindings : List GenericFinding
deriving DecidableEq, Repr

namespace Inventory

/-- The zero value `inventory.Inventory{}`. -/
def empty : Inventory := ⟨[], [], []⟩

/-- `inv.Append(other)`: every field of `other` after the same field of `inv`. -/
def append (inv other : Inventory) : Inventory :=
  ⟨inv.packages ++ other.packages, inv.packageVulns ++ other.packageVulns,
    inv.genericFindings ++ other.genericFindings⟩

@[simp] theorem append_packages (inv other : Inventory) :
    (inv.append other).packages = inv.packages ++ other.packages := rfl

@[simp] theorem append_packageVulns (inv other : Inventory) :
    (inv.append other).packageVulns = inv.packageVulns ++ other.packageVulns := rfl

@[simp] theorem append_genericFindings (inv other : Inventory) :
    (inv.append other).genericFindings = inv.genericFindings ++ other.genericFindings := rfl

end Inventory

end Scalibr
