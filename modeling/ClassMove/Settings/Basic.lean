import ClassMove.Text.Basic

/-!
# Settings

What can be set: the names of directories that a package tree starts in, how far
up to look for one, and the names of directories that are not searched for imports.
-/

namespace ClassMove

/-- The settings, with their usual values. -/
structure Settings where
  /-- Names of directories that are the base of a package tree. -/
  baseMarkers : List Text := ["java".toList, "groovy".toList]
  /-- How many directories to look at, from the one that holds the file upwards. -/
  maxAscent : Nat := 16
  /-- Names of directories that are not entered when imports are updated. -/
  skipDirs : List Text := [".git".toList, ".svn".toList, ".hg".toList]
deriving DecidableEq

end ClassMove
