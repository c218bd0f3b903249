/-!
# Counts
-/

namespace Compliance

def sumOf : List Nat → Nat
  | [] => 0
  | count :: counts => count + sumOf counts

end Compliance
