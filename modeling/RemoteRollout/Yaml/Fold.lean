import RemoteRollout.Yaml.Spot

/-!
# Folding

White space inside a scalar that runs over several lines: on one line it stands as it is; a
single line end becomes a space, and of more than one all but the first stay.
-/

namespace RemoteRollout.Yaml

/-- White space that has been read since the last other character. -/
structure Fold where
  /-- The white space before any line end. -/
  spaces : List Char := []
  /-- The line has ended, or its end was escaped. -/
  broken : Bool := false
  /-- The first line end, unless it was escaped. -/
  first : List Char := []
  /-- The further line ends. -/
  more : List Char := []
deriving DecidableEq, Repr, Inhabited

namespace Fold

/-- One more space or tab. White space at the start of a line does not count. -/
def addSpace (f : Fold) (c : Char) : Fold :=
  if f.broken then f else { f with spaces := f.spaces ++ [c] }

/-- One more line end. White space before it does not count. -/
def addBreak (f : Fold) (c : Char) : Fold :=
  if f.broken then { f with more := f.more ++ [c] }
  else { spaces := [], broken := true, first := [c], more := f.more }

/-- The white space at an escaped line end. -/
def escapedBreak : Fold := { broken := true }

/-- Nothing has been read. -/
def isEmpty (f : Fold) : Bool := f.spaces.isEmpty && !f.broken

/-- What the white space stands for. -/
def text (f : Fold) : List Char :=
  if f.broken then
    if f.first = ['\n'] then (if f.more.isEmpty then [' '] else f.more) else f.first ++ f.more
  else f.spaces

end Fold

end RemoteRollout.Yaml
