import ClassMove.Dialect
import ClassMove.Files.Basic
import ClassMove.Source.Header

/-!
# Identities of source files

A source file has a class by where it lies below the base of its package tree,
and a class by what it declares.  The two are derived independently and may
differ; only the second one knows what the file imports.
-/

namespace ClassMove

/-- What an identity was derived from. -/
inductive Derivation where
  | location
  | contents
deriving DecidableEq

/-- The class of a source file. -/
structure Identity where
  location : Location
  name : ClassName
  imports : List ClassName
  derivation : Derivation
deriving DecidableEq

namespace Identity

/-- Does the file import the class? -/
def importsClass (identity : Identity) (name : ClassName) : Bool :=
  identity.imports.contains name

/-- The text of a file name without the extension of a dialect. -/
def stem? (name : FileName) : Option Text :=
  name.text?.map fun text =>
    match Dialect.ofFileName? name, Text.cutLast? '.' text with
    | some _, some (stem, _) => stem
    | _, _ => text

/-- The class that belongs at a location below `base`.  No file is looked at. -/
def ofLocation (base location : Location) : Except Failure Identity :=
  let shown := location.display
  match base.below? location with
  | none =>
    .error (Failure.withHint (.of (.invalidPackage shown (some shown)))
      ("File is outside the project base " ++ base.display))
  | some names =>
    match names.getLast?.bind stem? with
    | none => .error (.of (.invalidName shown (some shown)))
    | some simple =>
      let package : Text := Text.join '.' (names.dropLast.map FileName.text)
      if !isSimpleName simple then
        .error (.of (.invalidName simple.asString (some shown)))
      else if !isPackageName package then
        .error (.of (.invalidPackage package.asString (some shown)))
      else do
        let name ← ClassName.ofParts package simple
        .ok ⟨location, name, [], .location⟩

/-- The class that octets declare, with their imports.  Faults show the file as `path`. -/
def ofOctets (path : String) (location : Location) (octets : List UInt8) :
    Except Failure Identity :=
  match Header.ofOctets octets with
  | .error fault => .error (fault.toFailure path)
  | .ok header => do
    let name ← ClassName.ofParts header.package header.typeName
    .ok ⟨location, name, header.imports, .contents⟩

/-- The class that the file at `path` declares. -/
def ofContents (files : FileSystem) (path : Path) : Except Failure Identity :=
  match files.read path with
  | .error refusal => .error (refusal.toFailure ("read " ++ path.display))
  | .ok octets => ofOctets path.display (files.locationOf path) octets

end Identity

/-- Do the class by location and the class by contents agree?  Where files need not be named for
their class, the package decides. -/
def identitiesAgree (dialect : Dialect) (location contents : ClassName) : Bool :=
  if dialect.namesFileForClass then location == contents
  else location.package == contents.package

end ClassMove
