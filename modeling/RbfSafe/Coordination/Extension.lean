/-
What publishing and rotating trust leave of a rotating history.

A call that succeeds leaves its handle with the history it opens anew:
every record and every bundle stays where it was, one is added at the end,
and `open` has asked the result whether it is valid. A handle that other
handles of the directory were ahead of takes several such steps at once.
Writing the files and reading them back is set apart.
-/
import RbfSafe.Coordination.Reservation
import Mathlib.Logic.Relation

namespace RbfSafe

/-- The history after one more publication. -/
def RotatingOccupancyPublicationHistory.withPublication
    (history : RotatingOccupancyPublicationHistory) (entry : PublicationEntry) :
    RotatingOccupancyPublicationHistory :=
  { history with
    currentPublicationId := entry.publication.id
    entries := history.entries ++ [entry] }

/-- The trust history after one more bundle. -/
def ServiceTrustHistory.withSuccessor (trust : ServiceTrustHistory)
    (successor : ServiceTrustBundle) (record : ServiceTrustRotationRecord) :
    ServiceTrustHistory :=
  { trust with
    currentBundleId := successor.id
    bundles := trust.bundles ++ [successor]
    records := trust.records ++ [record] }

/-- The history after its trust history moved on. -/
def RotatingOccupancyPublicationHistory.withTrust
    (history : RotatingOccupancyPublicationHistory) (trust : ServiceTrustHistory) :
    RotatingOccupancyPublicationHistory :=
  { history with
    currentTrustBundleId := trust.currentBundleId
    trustHistory := some trust }

/-- One step of `publish` or `rotate_trust`, and the history it leaves. -/
inductive Advanced (P : Platform) :
    RotatingOccupancyPublicationHistory → RotatingOccupancyPublicationHistory →
    Prop
  | publish {history : RotatingOccupancyPublicationHistory}
      (entry : PublicationEntry)
      (valid : (history.withPublication entry).valid P = true) :
      Advanced P history (history.withPublication entry)
  | rotateTrust {history : RotatingOccupancyPublicationHistory}
      {trust : ServiceTrustHistory} (successor : ServiceTrustBundle)
      (record : ServiceTrustRotationRecord)
      (held : history.trustHistory = some trust)
      (valid : (history.withTrust (trust.withSuccessor successor record)).valid P
        = true) :
      Advanced P history (history.withTrust (trust.withSuccessor successor record))

/-- A history some steps later, or the history itself. -/
def Later (P : Platform) :
    RotatingOccupancyPublicationHistory → RotatingOccupancyPublicationHistory →
    Prop :=
  Relation.ReflTransGen (Advanced P)

end RbfSafe
