/-
`certificate.h`, `geometry.h` and `atlas.h`: certificates, what a region
validator answers, and the atlas.

An atlas keeps, next to each region, the certificate it was admitted
with and the boxes its links sweep; `adjacency` and the component of a
region describe the graph of the regions. `transition` is the change of
the scene that led to this atlas, and `versionInfo` its place among the
versions. The query index is computed from the regions.
-/
import RbfSafe.Core.Robot
import RbfSafe.Execution.Deployment
import RbfSafe.Lect.Tree
import RbfSafe.Scene.Types

namespace RbfSafe

-- === boxes

section
variable {α : Type} [Scalar α]

/-- `Interval::overlaps`. -/
def Interval.overlaps (axis other : Interval α) (tolerance : α) : Bool :=
  Scalar.le axis.lower (Scalar.add other.upper tolerance)
    && Scalar.le other.lower (Scalar.add axis.upper tolerance)

/-- `CspaceAabb::overlaps`. -/
def CspaceAabb.overlaps (box other : CspaceAabb α) (tolerance : α) : Bool :=
  box.axes.length == other.axes.length
    && (box.axes.zip other.axes).all fun p => p.1.overlaps p.2 tolerance

/-- `CspaceAabb::center`. -/
def CspaceAabb.center (box : CspaceAabb α) : List α :=
  box.axes.map Interval.center

/-- `point_box_distance_squared`, in `atlas.cpp` and in
`region_index.cpp`. -/
def pointBoxDistanceSquared (point : List α) (box : CspaceAabb α) : α :=
  (box.axes.zip point).foldl (fun squared p =>
    let delta :=
      if Scalar.lt p.2 p.1.lower then Scalar.sub p.1.lower p.2
      else if Scalar.lt p.1.upper p.2 then Scalar.sub p.2 p.1.upper
      else Scalar.zero
    Scalar.add squared (Scalar.mul delta delta)) Scalar.zero

end

namespace Atlas

/-- `RegionId`. -/
abbrev RegionId := UInt64

/-- `ComponentId`. -/
abbrev ComponentId := Nat

-- === certificates

section
variable (α : Type)

/-- `ValidationPolicy`. -/
structure ValidationPolicy where
  algorithm : Bytes
  algorithmVersion : Bytes
  obstaclePadding : α

/-- `Certificate`. -/
structure Certificate where
  id : Bytes := []
  level : EvidenceLevel
  robotDigest : Bytes
  sceneDigest : Bytes
  policy : ValidationPolicy α
  clearanceLowerBound : α
  subjectDigest : Bytes := []
  /-- The certificate this one is inherited from, if it is. -/
  parentCertificateId : Bytes := []
  transitionDigest : Bytes := []

/-- `LinkEnvelope`. -/
structure LinkEnvelope where
  links : List (WorkspaceAabb α) := []

end

/-- `ValidationDisposition`. -/
inductive ValidationDisposition where
  | certifiedFree
  | undetermined
deriving DecidableEq, Repr

/-- `RegionValidation`. -/
structure RegionValidation (α : Type) where
  disposition : ValidationDisposition
  clearanceLowerBound : α
  envelope : LinkEnvelope α

/-- `RegionValidator`. -/
structure RegionValidator (α : Type) [DecodedScalar α] where
  validate : SerialRobotModel α → SceneSnapshot α → CspaceAabb α →
    Result (RegionValidation α)
  algorithmName : Bytes
  algorithmVersion : Bytes

-- === atlas

section
variable (α : Type)

/-- `SafeRegion`. -/
structure SafeRegion where
  id : RegionId
  bounds : CspaceAabb α
  certificateIndex : Nat
  component : ComponentId
  sourceNode : LectNodeKey

/-- `RegionDependency`. -/
structure RegionDependency where
  regionId : RegionId
  envelope : LinkEnvelope α

/-- `AtlasRepairDomain`. -/
structure AtlasRepairDomain where
  id : RegionId
  bounds : CspaceAabb α
  sourceNode : LectNodeKey

end

/-- `AtlasVersionInfo`. -/
structure AtlasVersionInfo where
  sequence : Nat := 0
  id : Bytes := []
  parentId : Bytes := []
  sceneVersion : Bytes := []
  sceneDigest : Bytes := []
  transitionDigest : Bytes := []
deriving DecidableEq

/-- `SafeAtlas`, where `lect` is none if the snapshot has no tree. -/
structure SafeAtlas (α : Type) where
  dimension : Nat := 0
  robotDigest : Bytes := []
  sceneDigest : Bytes := []
  lect : Option (LectTree α) := none
  regions : List (SafeRegion α) := []
  certificates : List (Certificate α) := []
  dependencies : List (RegionDependency α) := []
  repairDomains : List (AtlasRepairDomain α) := []
  adjacency : List (List Nat) := []
  versionInfo : AtlasVersionInfo := {}
  transition : Option (SceneDelta α) := none
  storageSchema : Nat := 0

end Atlas

end RbfSafe
