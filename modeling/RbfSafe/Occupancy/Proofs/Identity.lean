/-
What the identity of an occupancy tells apart.

An occupancy is hashed as a document that begins with its algorithm, its
version and its deployment. Occupancies of two deployments have two
documents, whatever numbers follow and however these are printed.
-/
import RbfSafe.Occupancy.Proofs.Links
import RbfSafe.Core.Proofs.Documents

namespace RbfSafe

open Json

section
variable {α : Type} [MetricScalar α] (P : Platform)

/-- The names of the fields that come after the deployment. -/
def laterOccupancyKeys : List String :=
  ["maximum_normalized_joint_width",
    "maximum_subdivision_depth", "robot_digest", "slices", "storage_schema",
    "timeline_id", "trajectory", "workspace_frame_id", "workspace_translation",
    "workspace_angular_uncertainty_radians", "workspace_rotation",
    "workspace_translation_uncertainty"]

/-- The first fields of an occupancy. -/
def leadingFields (occupancy : RobotTrajectoryOccupancy α) :
    List (String × Json) :=
  [("algorithm", .string occupancy.algorithm),
    ("algorithm_version", .string occupancy.algorithmVersion),
    ("deployment_id", .string occupancy.deploymentId),
    ("link_padding", MetricScalar.json occupancy.linkPadding)]

/-- The others come later. -/
theorem exists_later_fields (occupancy : RobotTrajectoryOccupancy α) :
    ∃ later : List (String × Json),
      robotTrajectoryOccupancyJson occupancy
        = .object (obj (leadingFields occupancy ++ later))
      ∧ ∀ field ∈ later, field.1 ∈ laterOccupancyKeys := by
  refine ⟨_, rfl, ?_⟩
  have hkeys : ∀ later : List (String × Json),
      (∀ key ∈ later.map (·.1), key ∈ laterOccupancyKeys) →
      ∀ field ∈ later, field.1 ∈ laterOccupancyKeys :=
    fun later h field hfield => h _ (List.mem_map_of_mem hfield)
  apply hkeys
  unfold frameFields
  by_cases hschema : 2 ≤ occupancy.storageSchema
  · rw [if_pos hschema]
    exact fun key hkey => hkey
  · rw [if_neg hschema]
    show ∀ key ∈ ["maximum_normalized_joint_width",
      "maximum_subdivision_depth", "robot_digest", "slices", "storage_schema",
      "timeline_id", "trajectory", "workspace_frame_id",
      "workspace_translation"], _
    decide

/-- How the document of an occupancy begins. -/
theorem exists_document_tail (occupancy : RobotTrajectoryOccupancy α) :
    ∃ fields, occupancyDocument P occupancy
      = 123 :: (dumpFields P.toLibc false 0
          ((leadingFields occupancy).map (fun f => (ascii f.1, f.2)) ++ fields)
          ++ [125]) := by
  obtain ⟨later, hjson, hlater⟩ := exists_later_fields occupancy
  have hsorted : ["algorithm", "algorithm_version", "deployment_id",
      "link_padding"].Pairwise fun k k' => ascii k < ascii k' := by
    decide
  have hleast : ∀ key ∈ ["algorithm", "algorithm_version", "deployment_id",
      "link_padding"], ∀ later ∈ laterOccupancyKeys,
      ascii key < ascii later := by
    decide
  have hobj : obj (leadingFields occupancy ++ later)
      = (leadingFields occupancy).map (fun f => (ascii f.1, f.2))
        ++ obj later :=
    obj_leading hsorted fun key hkey f hf => hleast key hkey _ (hlater f hf)
  refine ⟨obj later, ?_⟩
  rw [occupancyDocument, hjson, hobj, leadingFields, List.map_cons,
    List.cons_append, dump]
  simp [indent, newline]

/-- **Occupancies hashed alike belong to one deployment.** -/
theorem deploymentId_of_document_eq {first second : RobotTrajectoryOccupancy α}
    (halgorithm : first.algorithm = second.algorithm)
    (h : occupancyDocument P first = occupancyDocument P second) :
    first.deploymentId = second.deploymentId := by
  obtain ⟨fields, hfirst⟩ := exists_document_tail P first
  obtain ⟨fields', hsecond⟩ := exists_document_tail P second
  rw [hfirst, hsecond, List.cons.injEq] at h
  have hfields := List.append_cancel_right h.2
  rw [leadingFields, leadingFields, halgorithm] at hfields
  obtain ⟨-, hfields⟩ := dumpFields_string_inj _ hfields
  obtain ⟨hversion, hfields⟩ := dumpFields_string_inj _ hfields
  exact (dumpFields_string_inj _ hfields).1

end

end RbfSafe
