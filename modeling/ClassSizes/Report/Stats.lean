/-!
# Counters of a run

A run counts every line that it has processed.  A line that carries the marker is counted once
more, and then again as the maker of a row or as a line that does not conform.
-/

namespace ClassSizes

/-- What a run has seen and made. -/
structure Stats where
  /-- Lines seen. -/
  lines : Nat := 0
  /-- Lines that carry the marker. -/
  markerLines : Nat := 0
  /-- Rows made. -/
  records : Nat := 0
  /-- Lines that carry the marker but do not conform. -/
  skipped : Nat := 0
  deriving DecidableEq, Repr

end ClassSizes
