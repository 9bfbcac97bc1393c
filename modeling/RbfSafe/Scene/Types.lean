/-
`model.cpp` and `scene_delta.cpp`: scenes, and what changed between two.

A scene is a list of obstacles under their ids. `compare_scenes` walks
two maps by id with two cursors and records what was removed, added or
modified; the delta is checked by `validate_scene_delta` and written to
and read from a document.

The shapes of a scene were made by their classes: what their checks
accept came from a `create`. An obstacle carries this.
-/
import RbfSafe.Scene.Envelope
import RbfSafe.Lib.OrderedMap
import RbfSafe.Lib.Sorting

namespace RbfSafe

open Json

variable {α : Type} [DecodedScalar α]

-- === scenes

/-- The class of a shape has made it: its fields are private. -/
def WorkspaceEnvelope.Created : WorkspaceEnvelope α → Prop
  | aabb _ => True
  | obb box => ∃ center basis halfWidths,
      WorkspaceObb.create center basis halfWidths = .ok box
  | kdop slabs => ∃ directions projections,
      WorkspaceKdop.create directions projections = .ok slabs
  | supportHull hull => ∃ points radius,
      WorkspaceSupportHull.create points radius = .ok hull

/-- `SceneObstacle`. -/
structure SceneObstacle (α : Type) [DecodedScalar α] where
  id : Bytes
  bounds : WorkspaceEnvelope α
  made : bounds.valid = true → bounds.Created

/-- `SceneSnapshot`. -/
structure SceneSnapshot (α : Type) [DecodedScalar α] where
  obstacles : List (SceneObstacle α)
  version : Bytes

namespace SceneSnapshot

/-- The loop of `SceneSnapshot::validate`, with the ids seen. -/
def validateObstacles : List Bytes → List (SceneObstacle α) → Result Unit
  | _, [] => .ok ()
  | ids, obstacle :: rest =>
      if obstacle.id = [] then
        failure .invalidArgument "obstacle ID must not be empty"
      else if obstacle.id ∈ ids then
        failure .invalidArgument "obstacle IDs must be unique" obstacle.id
      else if obstacle.bounds.valid = false then
        failure .invalidArgument "obstacle bounds are invalid" obstacle.id
      else validateObstacles (obstacle.id :: ids) rest

/-- `SceneSnapshot::validate`. -/
def validate (scene : SceneSnapshot α) : Result Unit :=
  if scene.version = [] then
    failure .invalidArgument "scene version must not be empty"
  else validateObstacles [] scene.obstacles

/-- `SceneSnapshot::create`, whose constructor sorts by id. -/
def create (obstacles : List (SceneObstacle α)) (version : Bytes) :
    Result (SceneSnapshot α) := do
  let scene : SceneSnapshot α :=
    { obstacles := Lib.Sorting.sort (·.id) obstacles, version }
  scene.validate
  .ok scene

/-- `SceneSnapshot::canonical_json`. -/
def canonicalJson (L : Libc) (scene : SceneSnapshot α) : Bytes :=
  let typed := scene.obstacles.any fun obstacle => !obstacle.bounds.isAabb
  dump L false 0 (.object (obj
    [("obstacles", .array (scene.obstacles.map fun obstacle =>
        match obstacle.bounds.json typed with
        | .object record =>
            .object (emplace (ascii "id") (.string obstacle.id) record)
        | document => document)),
      ("schema", num (if typed then 2 else 1)),
      ("version", .string scene.version)]))

/-- `SceneSnapshot::digest`. -/
def digest (P : Platform) (scene : SceneSnapshot α) : Bytes :=
  P.sha256 (scene.canonicalJson P.toLibc)

/-- The obstacles of a scene, by id. -/
def entries (scene : SceneSnapshot α) :
    List (Bytes × WorkspaceEnvelope α) :=
  scene.obstacles.map fun obstacle => (obstacle.id, obstacle.bounds)

end SceneSnapshot

-- === deltas

/-- `SceneChangeKind`. -/
inductive SceneChangeKind where
  | added
  | removed
  | modified
deriving DecidableEq, Repr

/-- `scene_change_kind_name`. -/
def SceneChangeKind.name : SceneChangeKind → Bytes
  | .added => ascii "added"
  | .removed => ascii "removed"
  | .modified => ascii "modified"

/-- `SceneObstacleChange`. -/
structure SceneObstacleChange (α : Type) where
  kind : SceneChangeKind
  obstacleId : Bytes
  before : Option (WorkspaceEnvelope α)
  after : Option (WorkspaceEnvelope α)

/-- `SceneDelta`. -/
structure SceneDelta (α : Type) where
  fromVersion : Bytes := []
  toVersion : Bytes := []
  fromDigest : Bytes := []
  toDigest : Bytes := []
  changes : List (SceneObstacleChange α) := []
  digest : Bytes := []

namespace SceneDelta

/-- `uses_typed_envelopes`. -/
def usesTypedEnvelopes (delta : SceneDelta α) : Bool :=
  delta.changes.any fun change =>
    change.before.any (fun envelope => !envelope.isAabb)
      || change.after.any (fun envelope => !envelope.isAabb)

/-- `optional_box_json`. -/
def optionalBoxJson (typed : Bool) (box : Option (WorkspaceEnvelope α)) :
    Json :=
  box.elim .null fun envelope => envelope.json typed

/-- A change in `delta_payload`. -/
def changeJson (typed : Bool) (change : SceneObstacleChange α) : Json :=
  .object (obj
    [("after", optionalBoxJson typed change.after),
      ("before", optionalBoxJson typed change.before),
      ("kind", .string change.kind.name),
      ("obstacle_id", .string change.obstacleId)])

/-- The fields of `delta_payload`. -/
def payloadFields (delta : SceneDelta α) : List (String × Json) :=
  [("changes", .array (delta.changes.map
      (changeJson delta.usesTypedEnvelopes))),
    ("format", .string (ascii "rbfsafe-scene-delta")),
    ("from_digest", .string delta.fromDigest),
    ("from_version", .string delta.fromVersion),
    ("schema", num (if delta.usesTypedEnvelopes then 2 else 1)),
    ("to_digest", .string delta.toDigest),
    ("to_version", .string delta.toVersion)]

/-- `delta_identity`. -/
def identity (P : Platform) (delta : SceneDelta α) : Bytes :=
  P.sha256 (dump P.toLibc false 0 (.object (obj delta.payloadFields)))

/-- The checks of one change in `validate_scene_delta`. -/
def changeValid (change : SceneObstacleChange α) : Bool :=
  (match change.kind, change.before, change.after with
    | .added, none, some _ => true
    | .removed, some _, none => true
    | .modified, some before, some after => !before.eq after
    | _, _, _ => false)
    && change.before.all WorkspaceEnvelope.valid
    && change.after.all WorkspaceEnvelope.valid

/-- The loop of `validate_scene_delta`, with the id before. -/
def validateChanges : Bytes → List (SceneObstacleChange α) → Result Unit
  | _, [] => .ok ()
  | previousId, change :: rest =>
      if change.obstacleId = []
          ∨ (previousId ≠ [] ∧ ¬ previousId < change.obstacleId)
          ∨ changeValid change = false then
        failure .corruptData "scene-delta change is invalid"
          change.obstacleId
      else validateChanges change.obstacleId rest

/-- `validate_scene_delta`. -/
def validate (P : Platform) (delta : SceneDelta α) : Result Unit :=
  if delta.fromVersion = [] ∨ delta.toVersion = []
      ∨ validSha256 delta.fromDigest = false
      ∨ validSha256 delta.toDigest = false
      ∨ delta.fromDigest = delta.toDigest
      ∨ validSha256 delta.digest = false then
    failure .corruptData "scene-delta identity is invalid"
  else do
    validateChanges [] delta.changes
    if delta.identity P ≠ delta.digest then
      failure .corruptData "scene-delta digest does not match content"
    else .ok ()

/-- `encode_scene_delta`. -/
def encode (delta : SceneDelta α) : Json :=
  .object (emplace (ascii "digest") (.string delta.digest)
    (obj delta.payloadFields))

/-- The changes `decode_scene_delta` takes. -/
def kMaximumSceneChanges : Nat := 10000000

/-- `string_field`. -/
def stringField (object : Json) (key : String) : Result Bytes :=
  match find (ascii key) object with
  | some (.string value) => .ok value
  | _ => failure .corruptData "invalid scene-delta string" (ascii key)

/-- `optional_box`. -/
def optionalBox (typed : Bool) :
    Json → Result (Option (WorkspaceEnvelope α))
  | .null => .ok none
  | value => do
      let envelope ← decodeWorkspaceEnvelope value typed
      .ok (some envelope)

/-- The kinds in the loop of `decode_scene_delta`. -/
def decodeKind (name : Bytes) : Result SceneChangeKind :=
  if name = ascii "added" then .ok .added
  else if name = ascii "removed" then .ok .removed
  else if name = ascii "modified" then .ok .modified
  else failure .corruptData "unknown scene-delta change kind" name

/-- One turn of the loop of `decode_scene_delta`. -/
def decodeChange (typed : Bool) :
    Json → Result (SceneObstacleChange α)
  | .object fields => do
      let kind ← stringField (.object fields) "kind"
      let obstacleId ← stringField (.object fields) "obstacle_id"
      match find (ascii "before") (.object fields),
          find (ascii "after") (.object fields) with
      | some beforeJson, some afterJson =>
          let before ← optionalBox typed beforeJson
          let after ← optionalBox typed afterJson
          let changeKind ← decodeKind kind
          .ok { kind := changeKind, obstacleId, before, after }
      | _, _ =>
          failure .corruptData "scene-delta change bounds are missing"
  | _ => failure .corruptData "scene-delta change must be object"

/-- `schema->as_number()` against the two schemas. -/
def decodeSchema (document : Json) : Option Bool :=
  match find (ascii "schema") document with
  | some (.number schema) =>
      if schema.toRat = 1 then some false
      else if schema.toRat = 2 then some true
      else none
  | _ => none

/-- `decode_scene_delta`. -/
def decode (P : Platform) (document : Json) : Result (SceneDelta α) :=
  match document with
  | .object fields => do
      let format ← stringField (.object fields) "format"
      match decodeSchema (.object fields) with
      | none =>
          failure .incompatibleFormat "unsupported scene-delta document"
      | some typed =>
          if format ≠ ascii "rbfsafe-scene-delta" then
            failure .incompatibleFormat "unsupported scene-delta document"
          else
            let fromVersion ← stringField (.object fields) "from_version"
            let toVersion ← stringField (.object fields) "to_version"
            let fromDigest ← stringField (.object fields) "from_digest"
            let toDigest ← stringField (.object fields) "to_digest"
            let digest ← stringField (.object fields) "digest"
            match find (ascii "changes") (.object fields) with
            | some (.array records) =>
                if records.length > kMaximumSceneChanges then
                  failure .resourceLimit
                    "scene-delta change count is invalid"
                else
                  let changes ← records.mapM (decodeChange typed)
                  let delta : SceneDelta α :=
                    { fromVersion, toVersion, fromDigest, toDigest, changes
                      digest }
                  delta.validate P
                  .ok delta
            | _ =>
                failure .resourceLimit "scene-delta change count is invalid"
  | _ => failure .corruptData "scene-delta document must be object"

end SceneDelta

/-- The loop of `compare_scenes`. -/
def compareObstacles (old next : List (Bytes × WorkspaceEnvelope α)) :
    List (SceneObstacleChange α) :=
  Lib.OrderedMap.diff
    (fun id bounds => ⟨.removed, id, some bounds, none⟩)
    (fun id bounds => ⟨.added, id, none, some bounds⟩)
    (fun id before after =>
      if before.eq after then none
      else some ⟨.modified, id, some before, some after⟩)
    old next

/-- `compare_scenes`. -/
def compareScenes (P : Platform) (before after : SceneSnapshot α) :
    Result (SceneDelta α) := do
  before.validate
  after.validate
  let delta : SceneDelta α :=
    { fromVersion := before.version
      toVersion := after.version
      fromDigest := before.digest P
      toDigest := after.digest P
      changes := compareObstacles
        (Lib.OrderedMap.fromEntries before.entries)
        (Lib.OrderedMap.fromEntries after.entries) }
  .ok { delta with digest := delta.identity P }

end RbfSafe
