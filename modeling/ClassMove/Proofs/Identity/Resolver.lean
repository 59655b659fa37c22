import ClassMove.Identity.Resolver
import ClassMove.Proofs.Path.Relative
import ClassMove.Proofs.Source.Declaration

/-!
# One lookup

A lookup that is not answered from memory derives the identity anew, and remembers it
in place of what was remembered before for the same derivation and location.
-/

namespace ClassMove

/-! ## Maps -/

namespace IdentityMap

theorem get?_ne_none_iff {location : Location} {map : IdentityMap} :
    get? location map ≠ none ↔ location ∈ map.map Prod.fst := by
  induction map with
  | nil => simp [get?]
  | cons entry map ih =>
    rcases entry with ⟨other, identity⟩
    by_cases same : other = location
    · simp [get?, same]
    · simp [get?, same, Ne.symm same, ih]

theorem mem_of_get? {location : Location} {identity : Identity} {map : IdentityMap}
    (found : get? location map = some identity) : (location, identity) ∈ map := by
  induction map with
  | nil => cases found
  | cons entry map ih =>
    rcases entry with ⟨other, old⟩
    simp only [get?] at found
    split at found
    · next same =>
      cases Option.some.inj found
      rw [same]
      exact List.mem_cons_self ..
    · exact List.mem_cons_of_mem _ (ih found)

/-- What is in a map after an identity was put in is that identity, or was there before. -/
theorem mem_insert {location : Location} {identity : Identity} {map : IdentityMap}
    {entry : Location × Identity} (member : entry ∈ insert location identity map) :
    entry = (location, identity) ∨ entry ∈ map := by
  induction map with
  | nil => exact .inl (List.mem_singleton.1 member)
  | cons first map ih =>
    rcases first with ⟨other, old⟩
    simp only [insert] at member
    split at member
    · rcases List.mem_cons.1 member with same | later
      · exact .inl same
      · exact .inr (List.mem_cons_of_mem _ later)
    · rcases List.mem_cons.1 member with same | later
      · rw [same]
        exact .inr (List.mem_cons_self ..)
      · exact (ih later).imp_right (List.mem_cons_of_mem _)

theorem nodup_insert {map : IdentityMap} (nodup : (map.map Prod.fst).Nodup) (location : Location)
    (identity : Identity) : ((insert location identity map).map Prod.fst).Nodup := by
  induction map with
  | nil => simp [insert]
  | cons entry map ih =>
    rcases entry with ⟨other, old⟩
    simp only [List.map_cons, List.nodup_cons] at nodup
    simp only [insert]
    split
    · next same =>
      rw [← same]
      exact List.nodup_cons.2 nodup
    · next different =>
      refine List.nodup_cons.2 ⟨?_, ih nodup.2⟩
      rw [← get?_ne_none_iff, get?_insert_of_ne different, get?_ne_none_iff]
      exact nodup.1

end IdentityMap

/-! ## Resolvers -/

namespace Resolver

theorem remembered_remember (resolver : Resolver) (location : Location) (identity : Identity)
    (derivation : Derivation) :
    (resolver.remember location identity).remembered derivation =
      if derivation = identity.derivation then
        (resolver.remembered derivation).insert location identity
      else resolver.remembered derivation := by
  rw [remember]
  cases identity.derivation with
  | location =>
    cases derivation with
    | location => rfl
    | contents => rfl
  | contents =>
    cases derivation with
    | location => rfl
    | contents => rfl

theorem remember_base (resolver : Resolver) (location : Location) (identity : Identity) :
    (resolver.remember location identity).base = resolver.base := by
  rw [remember]
  split
  · rfl
  · rfl

section Resolve

variable {resolver : Resolver} {derivation : Derivation} {location : Location}

theorem resolve_of_hit {identity : Identity}
    (hit : (resolver.remembered derivation).get? location = some identity) (files : FileSystem) :
    resolver.resolve files derivation .cached location = (.ok identity, resolver) := by
  simp only [resolve, hit]

/-- A lookup that asks for a fresh identity, or for one that is not remembered. -/
theorem resolve_anew {freshness : Freshness}
    (anew : freshness = .fresh ∨ (resolver.remembered derivation).get? location = none)
    (files : FileSystem) :
    resolver.resolve files derivation freshness location =
      match resolver.derive files derivation location with
      | .ok identity => (.ok identity, resolver.remember location identity)
      | .error failure => (.error failure, resolver) := by
  cases freshness with
  | fresh => rfl
  | cached =>
    have miss : (resolver.remembered derivation).get? location = none := by simpa using anew
    cases derived : resolver.derive files derivation location with
    | error failure => simp only [resolve, miss, derived]
    | ok identity => simp only [resolve, miss, derived]

theorem resolve_of_miss (miss : (resolver.remembered derivation).get? location = none)
    (files : FileSystem) :
    resolver.resolve files derivation .cached location =
      match resolver.derive files derivation location with
      | .ok identity => (.ok identity, resolver.remember location identity)
      | .error failure => (.error failure, resolver) :=
  resolve_anew (.inr miss) files

theorem resolve_fst_of_miss (miss : (resolver.remembered derivation).get? location = none)
    (files : FileSystem) :
    (resolver.resolve files derivation .cached location).1 =
      resolver.derive files derivation location := by
  rw [resolve_of_miss miss]
  cases resolver.derive files derivation location with
  | ok identity => rfl
  | error failure => rfl

end Resolve

/-- A class by location is not remembered among those by contents. -/
theorem byContents_resolve_location (resolver : Resolver) (files : FileSystem)
    (location : Location) :
    (resolver.resolve files .location .cached location).2.byContents = resolver.byContents := by
  cases hit : (resolver.remembered .location).get? location with
  | some identity => rw [resolve_of_hit hit]
  | none =>
    rw [resolve_of_miss hit]
    cases derived : resolver.derive files .location location with
    | error failure => rfl
    | ok identity =>
      rcases Identity.ofLocation_eq_ok_iff.1 derived with ⟨-, -, -, -, -, same⟩
      rw [same]
      rfl

theorem resolve_fresh (resolver : Resolver) (files : FileSystem)
    (derivation : Derivation) (location : Location) :
    (resolver.resolve files derivation .fresh location).1 =
        resolver.derive files derivation location ∧
      (resolver.resolve files derivation .fresh location).2.base = resolver.base := by
  rw [resolve_anew (.inl rfl)]
  cases resolver.derive files derivation location with
  | error failure => exact ⟨rfl, rfl⟩
  | ok identity => exact ⟨rfl, remember_base ..⟩

theorem resolvePath_fresh (resolver : Resolver) (files : FileSystem)
    (derivation : Derivation) (location : Location) :
    (resolver.resolvePath files derivation .fresh location.toPath).1 =
        resolver.derive files derivation location ∧
      (resolver.resolvePath files derivation .fresh location.toPath).2.base = resolver.base := by
  rw [resolvePath, FileSystem.locationOf, Location.ofPath_toPath]
  exact resolver.resolve_fresh files derivation location

theorem derive_contents {files : FileSystem} {location : Location} {octets : List UInt8}
    (read : files.read location.toPath = .ok octets) (resolver : Resolver) :
    resolver.derive files .contents location =
      Identity.ofOctets location.display location octets := by
  rw [derive, Identity.ofContents, read]
  simp [FileSystem.locationOf, Location.display]

end Resolver

end ClassMove
