/-
Indices of small vectors.

A literal of `Fin 3` asks for a proof that three is not zero. As instances
the proofs have names, and a definition that uses an index refers to them
wherever it stands.
-/
import Mathlib.Algebra.GroupWithZero.Nat

namespace RbfSafe.Lib

instance neZero_three : NeZero 3 := ⟨by decide⟩

instance neZero_four : NeZero 4 := ⟨by decide⟩

end RbfSafe.Lib
