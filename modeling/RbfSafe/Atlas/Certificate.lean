/-
`certificate.cpp` and `atlas_identity.cpp`: what a certificate says, and
the digests an atlas is known by.

A certificate is made for a subject (a box, or a route through boxes)
after the parameters are checked; its id is the digest of what it says.
A certificate may be carried over to the next scene: it then names the
certificate it stems from and the change of the scene.
-/
import RbfSafe.Atlas.Types

namespace RbfSafe

open Json

/-- `evidence_level_name`. -/
def EvidenceLevel.name : EvidenceLevel → Bytes
  | .unknown => ascii "unknown"
  | .pointChecked => ascii "point_checked"
  | .certifiedRegion => ascii "certified_region"
  | .certifiedConnectivity => ascii "certified_connectivity"
  | .runtimeExecutable => ascii "runtime_executable"

namespace Atlas

variable {α : Type}

section Metric

variable [MetricScalar α] (P : Platform)

/-- The axes of `cspace_box_json` and of `box_identity`. -/
def cspaceBoxJson (box : CspaceAabb α) : Json :=
  .array (box.axes.map fun axis =>
    .array [MetricScalar.json axis.lower, MetricScalar.json axis.upper])

/-- `certificate_identity_json`. -/
def certificateIdentityJson (certificate : Certificate α) : Json :=
  .object (obj (
    [("algorithm", .string certificate.policy.algorithm),
      ("algorithm_version", .string certificate.policy.algorithmVersion),
      ("clearance_lower_bound",
        MetricScalar.json certificate.clearanceLowerBound),
      ("level", .string certificate.level.name),
      ("obstacle_padding",
        MetricScalar.json certificate.policy.obstaclePadding),
      ("robot_digest", .string certificate.robotDigest),
      ("scene_digest", .string certificate.sceneDigest)]
    ++ (if certificate.subjectDigest = [] then []
      else [("subject_digest", .string certificate.subjectDigest)])
    ++ (if certificate.parentCertificateId = [] then []
      else
        [("parent_certificate_id", .string certificate.parentCertificateId),
          ("transition_digest", .string certificate.transitionDigest)])))

/-- `certificate_identity`. -/
def certificateIdentity (certificate : Certificate α) : Bytes :=
  P.sha256 (dump P.toLibc false 0 (certificateIdentityJson certificate))

/-- `cspace_aabb_subject_digest`. -/
def cspaceAabbSubjectDigest (domain : CspaceAabb α) : Bytes :=
  P.sha256 (dump P.toLibc false 0 (.object (obj
    [("bounds", cspaceBoxJson domain),
      ("type", .string (ascii "cspace-aabb"))])))

/-- The checks of a padding or a clearance. -/
def nonNegative (value : α) : Bool :=
  Scalar.isFinite value && !Scalar.lt value Scalar.zero

/-- `make_subject_certificate`. -/
def makeSubjectCertificate (level : EvidenceLevel)
    (robotDigest sceneDigest : Bytes) (policy : ValidationPolicy α)
    (subjectDigest : Bytes) (clearanceLowerBound : α) :
    Result (Certificate α) :=
  if (level ≠ .certifiedRegion ∧ level ≠ .certifiedConnectivity)
      ∨ validSha256 robotDigest = false ∨ validSha256 sceneDigest = false
      ∨ validSha256 subjectDigest = false
      ∨ policy.algorithm = [] ∨ policy.algorithmVersion = []
      ∨ nonNegative policy.obstaclePadding = false
      ∨ nonNegative clearanceLowerBound = false then
    failure .invalidArgument "subject certificate parameters are invalid"
  else
    let certificate : Certificate α :=
      { level, robotDigest, sceneDigest, policy, clearanceLowerBound
        subjectDigest }
    .ok { certificate with id := certificateIdentity P certificate }

-- === identity

/-- The record of one region in `atlas_version_identity`. -/
def atlasRegionJson (atlas : SafeAtlas α) (index : Nat)
    (region : SafeRegion α) : Json :=
  .object (obj
    [("bounds", cspaceBoxJson region.bounds),
      ("certificate_id", .string
        ((atlas.certificates[region.certificateIndex]?).elim [] (·.id))),
      ("component", .string (stdToString region.component)),
      ("envelope", .array
        ((atlas.dependencies[index]?).elim [] fun dependency =>
          dependency.envelope.links.map WorkspaceAabb.json)),
      ("id", .string (stdToString region.id.toNat)),
      ("neighbors", .array
        ((atlas.adjacency[index]?).elim [] fun neighbors =>
          neighbors.filterMap fun neighbor =>
            (atlas.regions[neighbor]?).map fun other =>
              .string (stdToString other.id.toNat))),
      ("source_node", .string region.sourceNode.path)])

/-- `atlas_version_identity`. -/
def atlasVersionIdentity (atlas : SafeAtlas α) : Bytes :=
  P.sha256 (dump P.toLibc false 0 (.object (obj
    [("parent_id", .string atlas.versionInfo.parentId),
      ("repair_domains", .array (atlas.repairDomains.map fun domain =>
        .object (obj
          [("bounds", cspaceBoxJson domain.bounds),
            ("id", .string (stdToString domain.id.toNat)),
            ("source_node", .string domain.sourceNode.path)]))),
      ("regions", .array (atlas.regions.zipIdx.map fun region =>
        atlasRegionJson atlas region.2 region.1)),
      ("robot_digest", .string atlas.robotDigest),
      ("scene_digest", .string atlas.sceneDigest),
      ("scene_version", .string atlas.versionInfo.sceneVersion),
      ("sequence", .string (stdToString atlas.versionInfo.sequence)),
      ("transition_digest", .string atlas.versionInfo.transitionDigest)])))

end Metric

/-- `make_region_certificate` for a domain. -/
def makeRegionCertificate [DecodedScalar α] (P : Platform)
    (robot : SerialRobotModel α) (scene : SceneSnapshot α)
    (domain : CspaceAabb α) (validator : RegionValidator α)
    (validation : RegionValidation α) (obstaclePadding : α) :
    Result (Certificate α) :=
  if domain.valid = false ∨ domain.dimension ≠ robot.dimension then
    failure .dimensionMismatch "certificate domain does not match robot"
  else if validation.disposition ≠ .certifiedFree then
    failure .invalidArgument
      "an undetermined validation cannot create a region certificate"
  else if nonNegative validation.clearanceLowerBound = false
      ∨ nonNegative obstaclePadding = false then
    failure .invalidArgument "certificate parameters are invalid"
  else if validation.envelope.links.length ≠ robot.linkCount
      ∨ validation.envelope.links.all WorkspaceAabb.valid = false then
    failure .internalError
      "certified validation returned an incomplete link envelope"
  else
    makeSubjectCertificate P .certifiedRegion (robot.digest P)
      (scene.digest P)
      { algorithm := validator.algorithmName
        algorithmVersion := validator.algorithmVersion, obstaclePadding }
      (cspaceAabbSubjectDigest P domain) validation.clearanceLowerBound

end Atlas

end RbfSafe
