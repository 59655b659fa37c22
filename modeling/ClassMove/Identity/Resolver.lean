import ClassMove.Identity.Basic

/-!
# Remembered identities

A resolver derives identities below one base and remembers those that it found,
by derivation and location.  A lookup may be content with what is remembered, or
ask for a fresh derivation, which is then remembered instead.  Failures are not
remembered.
-/

namespace ClassMove

/-- Identities by location. -/
abbrev IdentityMap := List (Location × Identity)

namespace IdentityMap

/-- The identity remembered for a location. -/
def get? (location : Location) : IdentityMap → Option Identity
  | [] => none
  | (other, identity) :: rest => if other = location then some identity else get? location rest

/-- Remember an identity in place of what was remembered before. -/
def insert (location : Location) (identity : Identity) : IdentityMap → IdentityMap
  | [] => [(location, identity)]
  | (other, old) :: rest =>
    if other = location then (location, identity) :: rest
    else (other, old) :: insert location identity rest

theorem get?_insert_self (location : Location) (identity : Identity) (map : IdentityMap) :
    get? location (insert location identity map) = some identity := by
  induction map with
  | nil => simp [insert, get?]
  | cons entry rest ih =>
    obtain ⟨other, old⟩ := entry
    by_cases same : other = location
    · simp [insert, get?, same]
    · simp [insert, get?, same, ih]

theorem get?_insert_of_ne {location other : Location} (different : other ≠ location)
    (identity : Identity) (map : IdentityMap) :
    get? other (insert location identity map) = get? other map := by
  induction map with
  | nil => simp [insert, get?, Ne.symm different]
  | cons entry rest ih =>
    obtain ⟨first, old⟩ := entry
    by_cases same : first = location
    · subst same; simp [insert, get?, Ne.symm different]
    · simp [insert, get?, same, ih]

end IdentityMap

/-- May a lookup be answered from memory? -/
inductive Freshness where
  | cached
  | fresh
deriving DecidableEq

/-- A base, and the identities found below it. -/
structure Resolver where
  base : Location
  byLocation : IdentityMap := []
  byContents : IdentityMap := []

namespace Resolver

/-- The identities remembered for one derivation. -/
def remembered (resolver : Resolver) : Derivation → IdentityMap
  | .location => resolver.byLocation
  | .contents => resolver.byContents

/-- Remember an identity for its location. -/
def remember (resolver : Resolver) (location : Location) (identity : Identity) : Resolver :=
  match identity.derivation with
  | .location => { resolver with byLocation := resolver.byLocation.insert location identity }
  | .contents => { resolver with byContents := resolver.byContents.insert location identity }

/-- How many identities are remembered. -/
def size (resolver : Resolver) : Nat :=
  resolver.byLocation.length + resolver.byContents.length

/-- The identity remembered for a path with the components of a plain spelling. -/
def lookup? (resolver : Resolver) (derivation : Derivation) (path : Path) : Option Identity :=
  ((resolver.remembered derivation).find? fun (location, _) =>
    location.toPath.sameAs path).map Prod.snd

/-- Derive an identity anew. -/
def derive (resolver : Resolver) (files : FileSystem) (derivation : Derivation)
    (location : Location) : Except Failure Identity :=
  match derivation with
  | .location => Identity.ofLocation resolver.base location
  | .contents => Identity.ofContents files location.toPath

/-- The identity of the file at a location, and the resolver that remembers it. -/
def resolve (resolver : Resolver) (files : FileSystem) (derivation : Derivation)
    (freshness : Freshness) (location : Location) : Except Failure Identity × Resolver :=
  let hit :=
    match freshness with
    | .cached => (resolver.remembered derivation).get? location
    | .fresh => none
  match hit with
  | some identity => (.ok identity, resolver)
  | none =>
    match resolver.derive files derivation location with
    | .ok identity => (.ok identity, resolver.remember location identity)
    | .error failure => (.error failure, resolver)

/-- The identity of the file at a path. -/
def resolvePath (resolver : Resolver) (files : FileSystem) (derivation : Derivation)
    (freshness : Freshness) (path : Path) : Except Failure Identity × Resolver :=
  resolver.resolve files derivation freshness (files.locationOf path)

end Resolver

end ClassMove
