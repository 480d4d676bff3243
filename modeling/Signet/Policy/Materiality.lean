import Signet.Schemas.Seal

/-!
# Materiality of policy changes

`policy/src/materiality.ts`: which deltas make a new seal, and which raise
privileges so far that the credential needs reauthorization. Callers pass one
delta or a list of deltas; a single delta is the list with that delta.
-/

namespace Signet

/-- Any added, removed, or flipped scope is material because the seal changes. -/
def isSingleDeltaMaterial (delta : SealDelta) : Bool :=
  !delta.added.isEmpty || !delta.removed.isEmpty || !delta.changed.isEmpty

def isMaterialChange (deltas : List SealDelta) : Bool :=
  deltas.any isSingleDeltaMaterial

/-- Reauthorization is only required when privileges expand: newly added scopes
or deny-to-allow flips. -/
def isSingleDeltaEscalation (delta : SealDelta) : Bool :=
  !delta.added.isEmpty || delta.changed.any fun change => change.toStance = .allow

def requiresReauthorization (deltas : List SealDelta) : Bool :=
  deltas.any isSingleDeltaEscalation

end Signet
