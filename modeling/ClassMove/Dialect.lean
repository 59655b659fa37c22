import ClassMove.Path.Location

/-!
# Dialects

Source files are written in one of two dialects, told apart by the extension of
the file name.
-/

namespace ClassMove

/-- A dialect of source files. -/
inductive Dialect where
  | java
  | groovy
deriving DecidableEq

namespace Dialect

/-- The extension of the dialect's files. -/
def extension : Dialect → Text
  | .java => "java".toList
  | .groovy => "groovy".toList

/-- Must a file be named for the class that it declares?  Groovy lets it have another name. -/
def namesFileForClass : Dialect → Bool
  | .java => true
  | .groovy => false

/-- The dialect with this extension. -/
def ofExtension? (extension : Text) : Option Dialect :=
  if extension = Dialect.java.extension then some .java
  else if extension = Dialect.groovy.extension then some .groovy
  else none

@[simp]
theorem ofExtension?_extension (dialect : Dialect) :
    ofExtension? dialect.extension = some dialect := by
  cases dialect <;> decide

/-- The dialect of a file with this name. -/
def ofFileName? (name : FileName) : Option Dialect :=
  name.extension?.bind ofExtension?

/-- The dialect of the file at this path. -/
def ofPath? (path : Path) : Option Dialect :=
  path.fileName?.bind ofFileName?

/-- The dialect of the file at this location. -/
def ofLocation? (location : Location) : Option Dialect :=
  location.fileName?.bind ofFileName?

end Dialect

end ClassMove
