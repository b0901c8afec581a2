/-
# How much work a property test may do

Key definitions: `PropertyBudget`, `PropertyBudget.standard`, `PropertyBudget.quick`.
-/
namespace LongPoll

/-- How many cases are drawn, and how many steps are taken to make a failing one smaller. -/
structure PropertyBudget where
  cases : Nat
  maxShrinkIters : Nat
deriving DecidableEq

namespace PropertyBudget

def standard : PropertyBudget := { cases := 256, maxShrinkIters := 1000 }

/-- For a test that is run often. -/
def quick : PropertyBudget := { cases := 32, maxShrinkIters := 100 }

end PropertyBudget
end LongPoll
