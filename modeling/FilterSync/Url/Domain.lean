import FilterSync.Url.Domain.Label

/-!
# Domain names

A domain name is a text of labels with full stops between them. Its characters are mapped
first, which may bring in further full stops.
-/

namespace FilterSync.Url.Domain

/-- The domain name that a text writes, mapped but not encoded. -/
def parse? (s : List Char) : Option (List Char) := do
  let name ← mappedText? s
  let labels ← (Text.pieces '.' name).mapM label?
  if labels.any runsLeft && !labels.all keepsDirection then none else some name

example : parse? "１２７.1".toList = some "127.1".toList := by decide +kernel

example : parse? "אב.a1".toList = some "אב.a1".toList ∧ parse? "אב.1a".toList = none := by
  decide +kernel

end FilterSync.Url.Domain
