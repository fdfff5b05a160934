/-!
# How deep a pattern is

Pieces that stand side by side make one piece that is one deeper than the deepest
of them; a single piece is as deep as it is alone.
-/

namespace Turnstile.Text.Pattern

set_option autoImplicit false

structure Siblings where
  count : Nat := 0
  /-- The depth of the deepest. -/
  deepest : Nat := 0
  deriving DecidableEq, Repr

def Siblings.add (siblings : Siblings) (depth : Nat) : Siblings :=
  ⟨siblings.count + 1, max siblings.deepest depth⟩

def Siblings.depth (siblings : Siblings) : Nat :=
  if siblings.count < 2 then siblings.deepest else siblings.deepest + 1

def deepestAllowed : Nat := 250

end Turnstile.Text.Pattern
