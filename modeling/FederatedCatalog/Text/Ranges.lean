namespace FederatedCatalog.Text

/-- Whether a code point lies in one of the ranges, listed in increasing order. -/
def inRanges (c : Nat) : List (Nat × Nat) → Bool
  | [] => false
  | (first, last) :: rest => if c < first then false else c ≤ last || inRanges c rest

end FederatedCatalog.Text
