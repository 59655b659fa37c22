import ClassMove.Proofs.Files.Entry
import ClassMove.Proofs.Identity.Resolver
import Mathlib.Data.Finset.Card

/-!
# What a resolver remembers

A resolver is asked one lookup after another, while the files change between the
lookups in any way.  What it remembers is told by the answers that it gave: for each
derivation and location the last identity that it found.  A lookup that may be answered
from memory gives that identity, and every other one what the files say at the time.
-/

namespace ClassMove

/-! ## Lookups and their answers -/

/-- A lookup, with the files as they are at that time. -/
structure Lookup where
  files : FileSystem
  derivation : Derivation
  freshness : Freshness
  path : Path

namespace Lookup

/-- What the lookup is about, however the path is spelled. -/
def key (lookup : Lookup) : Derivation × Location :=
  (lookup.derivation, lookup.files.locationOf lookup.path)

/-- What the files say at the time of the lookup. -/
def derived (lookup : Lookup) (base : Location) : Except Failure Identity :=
  match lookup.derivation with
  | .location => Identity.ofLocation base lookup.key.2
  | .contents => Identity.ofContents lookup.files lookup.key.2.toPath

end Lookup

/-- Lookups with the answers that were given, in order. -/
abbrev History := List (Lookup × Except Failure Identity)

namespace History

/-- The identity that a lookup found, if it was about the key. -/
def found? (key : Derivation × Location) (entry : Lookup × Except Failure Identity) :
    Option Identity :=
  if entry.1.key = key then entry.2.toOption else none

/-- The identity that was found last for a key. -/
def latest? (history : History) (key : Derivation × Location) : Option Identity :=
  history.reverse.findSome? (found? key)

/-- The keys for which an identity was found. -/
def foundKeys (history : History) : List (Derivation × Location) :=
  (history.filter (·.2.isOk)).map (·.1.key)

theorem latest?_concat (history : History) (entry : Lookup × Except Failure Identity)
    (key : Derivation × Location) :
    latest? (history ++ [entry]) key = (found? key entry).or (latest? history key) := by
  rw [latest?, List.reverse_append, List.reverse_singleton, List.singleton_append,
    List.findSome?_cons]
  cases found? key entry with
  | none => rfl
  | some identity => rfl

theorem latest?_ne_none_iff {history : History} {key : Derivation × Location} :
    latest? history key ≠ none ↔ key ∈ foundKeys history := by
  simp only [latest?, ne_eq, List.findSome?_eq_none_iff, List.mem_reverse, not_forall, foundKeys,
    List.mem_map, List.mem_filter]
  constructor
  · rintro ⟨⟨lookup, answer⟩, member, found⟩
    by_cases same : lookup.key = key
    · cases answer with
      | error failure => simp [found?, Except.toOption] at found
      | ok identity => exact ⟨_, ⟨member, rfl⟩, same⟩
    · simp [found?, same] at found
  · rintro ⟨⟨lookup, answer⟩, ⟨member, isOk⟩, rfl⟩
    refine ⟨_, member, ?_⟩
    cases answer with
    | error failure => cases isOk
    | ok identity => simp [found?, Except.toOption]

end History

namespace Resolver

/-- The answer to a lookup, and the resolver behind it. -/
def answer (resolver : Resolver) (lookup : Lookup) : Except Failure Identity × Resolver :=
  resolver.resolvePath lookup.files lookup.derivation lookup.freshness lookup.path

/-- The resolver after some lookups. -/
def after (resolver : Resolver) : List Lookup → Resolver
  | [] => resolver
  | lookup :: lookups => (resolver.answer lookup).2.after lookups

/-- Some lookups with their answers. -/
def history (resolver : Resolver) : List Lookup → History
  | [] => []
  | lookup :: lookups =>
    (lookup, (resolver.answer lookup).1) :: (resolver.answer lookup).2.history lookups

end Resolver

/-! ## One lookup -/

/-- What is derived for a lookup says what it was derived from. -/
theorem Lookup.key_of_derived {lookup : Lookup} {base : Location} {identity : Identity}
    (derived : lookup.derived base = .ok identity) :
    (identity.derivation, identity.location) = lookup.key := by
  rcases lookup with ⟨files, derivation, freshness, path⟩
  cases derivation with
  | location =>
    rcases Identity.ofLocation_eq_ok_iff.1 derived with ⟨-, -, -, -, -, same⟩
    rw [same]
    rfl
  | contents =>
    rcases Identity.ofContents_eq_ok_iff.1 derived with ⟨-, -, -, located, derivation⟩
    rw [located, derivation]
    rfl

namespace Resolver

/-- What a lookup can do: answer from memory, find an identity and remember it, or fail and leave
everything as it is. -/
theorem answer_cases (resolver : Resolver) (lookup : Lookup) :
    (∃ identity, lookup.freshness = .cached ∧
      (resolver.remembered lookup.key.1).get? lookup.key.2 = some identity ∧
      resolver.answer lookup = (.ok identity, resolver)) ∨
    (lookup.freshness = .fresh ∨ (resolver.remembered lookup.key.1).get? lookup.key.2 = none) ∧
      ((∃ identity, lookup.derived resolver.base = .ok identity ∧
        resolver.answer lookup = (.ok identity, resolver.remember lookup.key.2 identity)) ∨
      ∃ failure, lookup.derived resolver.base = .error failure ∧
        resolver.answer lookup = (.error failure, resolver)) := by
  rcases lookup with ⟨files, derivation, freshness, path⟩
  have derives : resolver.derive files derivation (files.locationOf path) =
      Lookup.derived ⟨files, derivation, freshness, path⟩ resolver.base := rfl
  by_cases anew : freshness = .fresh ∨
      (resolver.remembered derivation).get? (files.locationOf path) = none
  · refine .inr ⟨anew, ?_⟩
    rw [answer, resolvePath, resolve_anew anew, derives]
    cases Lookup.derived ⟨files, derivation, freshness, path⟩ resolver.base with
    | ok identity => exact .inl ⟨identity, rfl, rfl⟩
    | error failure => exact .inr ⟨failure, rfl, rfl⟩
  · rw [not_or] at anew
    rcases Option.ne_none_iff_exists'.1 anew.2 with ⟨identity, hit⟩
    have cached : freshness = .cached := by
      cases freshness with
      | cached => rfl
      | fresh => exact absurd rfl anew.1
    subst cached
    exact .inl ⟨identity, rfl, hit, resolve_of_hit hit files⟩

end Resolver

/-! ## Many lookups -/

/-- What is remembered is told by the answers that were given. -/
structure Remembers (base : Location) (history : History) (resolver : Resolver) : Prop where
  based : resolver.base = base
  latest : ∀ derivation location,
    (resolver.remembered derivation).get? location = history.latest? (derivation, location)
  kept : ∀ derivation, ∀ entry ∈ resolver.remembered derivation,
    entry.2.location = entry.1 ∧ entry.2.derivation = derivation
  located : ∀ entry ∈ resolver.byLocation, Identity.ofLocation base entry.1 = .ok entry.2
  distinct : ∀ derivation, ((resolver.remembered derivation).map Prod.fst).Nodup

namespace Remembers

variable {base : Location} {history : History} {resolver : Resolver}

theorem new (base : Location) : Remembers base [] { base } where
  based := rfl
  latest derivation location := by cases derivation <;> rfl
  kept derivation entry member := by cases derivation <;> cases member
  located entry member := by cases member
  distinct derivation := by cases derivation <;> exact List.nodup_nil

/-- An answer that is no news, because it was remembered or is a failure. -/
theorem unchanged (remembers : Remembers base history resolver) {lookup : Lookup}
    {answer : Except Failure Identity}
    (known : ∀ identity, answer = .ok identity → history.latest? lookup.key = some identity) :
    Remembers base (history ++ [(lookup, answer)]) resolver := by
  refine { remembers with latest := ?_ }
  intro derivation location
  rw [History.latest?_concat, remembers.latest]
  by_cases same : lookup.key = (derivation, location)
  · cases answer with
    | error failure => simp [History.found?, Except.toOption]
    | ok identity => simp [History.found?, same, Except.toOption, ← known identity rfl]
  · simp [History.found?, same]

/-- An identity that was derived takes the place of the one before. -/
theorem derived (remembers : Remembers base history resolver) {lookup : Lookup}
    {identity : Identity} (derived : lookup.derived base = .ok identity) :
    Remembers base (history ++ [(lookup, .ok identity)])
      (resolver.remember lookup.key.2 identity) := by
  have key := Lookup.key_of_derived derived
  refine ⟨(Resolver.remember_base ..).trans remembers.based, ?_, ?_, ?_, ?_⟩
  · intro derivation location
    rw [History.latest?_concat, Resolver.remembered_remember, ← key]
    by_cases here : derivation = identity.derivation
    · by_cases there : location = identity.location
      · subst here there
        rw [if_pos rfl, IdentityMap.get?_insert_self]
        simp [History.found?, ← key, Except.toOption]
      · rw [if_pos here, IdentityMap.get?_insert_of_ne there, remembers.latest]
        simp [History.found?, ← key, here, Ne.symm there]
    · rw [if_neg here, remembers.latest]
      simp [History.found?, ← key, Ne.symm here]
  · intro derivation entry member
    rw [Resolver.remembered_remember] at member
    split at member
    · next here =>
      rcases IdentityMap.mem_insert member with rfl | earlier
      · rw [← key]
        exact ⟨rfl, here.symm⟩
      · exact remembers.kept derivation entry earlier
    · exact remembers.kept derivation entry member
  · intro entry member
    have among := Resolver.remembered_remember resolver lookup.key.2 identity .location
    rw [show (resolver.remember lookup.key.2 identity).byLocation = _ from among] at member
    split at member
    · next here =>
      rcases IdentityMap.mem_insert member with rfl | earlier
      · have asked : lookup.derivation = .location := by
          rw [here]
          exact (congrArg Prod.fst key).symm
        rw [Lookup.derived, asked] at derived
        exact derived
      · exact remembers.located entry earlier
    · exact remembers.located entry member
  · intro derivation
    rw [Resolver.remembered_remember]
    split
    · exact IdentityMap.nodup_insert (remembers.distinct derivation) ..
    · exact remembers.distinct derivation

theorem step (remembers : Remembers base history resolver) (lookup : Lookup) :
    Remembers base (history ++ [(lookup, (resolver.answer lookup).1)])
      (resolver.answer lookup).2 := by
  rcases resolver.answer_cases lookup with ⟨identity, -, hit, answered⟩ |
    ⟨-, ⟨identity, derived, answered⟩ | ⟨failure, -, answered⟩⟩
  · rw [answered]
    refine remembers.unchanged fun other same => ?_
    rw [← Except.ok.inj same, ← hit, remembers.latest]
  · rw [answered]
    rw [remembers.based] at derived
    exact remembers.derived derived
  · rw [answered]
    exact remembers.unchanged fun other same => by cases same

theorem run (remembers : Remembers base history resolver) (lookups : List Lookup) :
    Remembers base (history ++ resolver.history lookups) (resolver.after lookups) := by
  induction lookups generalizing history resolver with
  | nil => simpa [Resolver.history, Resolver.after] using remembers
  | cons lookup lookups ih =>
    have later := ih (remembers.step lookup)
    rw [List.append_assoc] at later
    exact later

/-! ## What follows -/

/-- Each key for which an identity was found is remembered once. -/
theorem size_eq (remembers : Remembers base history resolver) :
    resolver.size = history.foundKeys.toFinset.card := by
  have keyed : ∀ derivation location, location ∈ (resolver.remembered derivation).map Prod.fst ↔
      (derivation, location) ∈ history.foundKeys := by
    intro derivation location
    rw [← IdentityMap.get?_ne_none_iff, remembers.latest, History.latest?_ne_none_iff]
  let keys := (resolver.byLocation.map Prod.fst).map (Prod.mk Derivation.location) ++
    (resolver.byContents.map Prod.fst).map (Prod.mk Derivation.contents)
  have nodup : keys.Nodup := by
    refine List.nodup_append'.2 ⟨?_, ?_, ?_⟩
    · exact (remembers.distinct .location).map (Prod.mk_right_injective _)
    · exact (remembers.distinct .contents).map (Prod.mk_right_injective _)
    · intro key first second
      rcases List.mem_map.1 first with ⟨location, -, rfl⟩
      rcases List.mem_map.1 second with ⟨other, -, same⟩
      cases same
  have same : history.foundKeys.toFinset = keys.toFinset := by
    ext ⟨derivation, location⟩
    rw [List.mem_toFinset, List.mem_toFinset, ← keyed]
    cases derivation with
    | location => simp [keys, Resolver.remembered]
    | contents => simp [keys, Resolver.remembered]
  rw [same, List.toFinset_card_of_nodup nodup]
  simp [keys, Resolver.size]

/-- Where a class belongs does not change, so memory answers as a fresh derivation does. -/
theorem cached_eq_fresh (remembers : Remembers base history resolver) (files : FileSystem)
    (path : Path) :
    (resolver.resolvePath files .location .cached path).1 =
      (resolver.resolvePath files .location .fresh path).1 := by
  rw [Resolver.resolvePath, Resolver.resolvePath, (resolver.resolve_fresh ..).1]
  cases hit : (resolver.remembered .location).get? (files.locationOf path) with
  | some identity =>
    rw [Resolver.resolve_of_hit hit, Resolver.derive, remembers.based]
    exact (remembers.located _ (IdentityMap.mem_of_get? hit)).symm
  | none => exact Resolver.resolve_fst_of_miss hit files

end Remembers

/-- After any lookups, with any changes of the files between them: a lookup that may be answered
from memory gives the identity that was found last for its key, and every other one what the files
say; a failure changes nothing; each entry is remembered under its own derivation and location, and
once; and for classes by location memory makes no difference. -/
theorem answer_after_lookups (base : Location) (earlier : List Lookup) (lookup : Lookup) :
    let history := Resolver.history { base } earlier
    let resolver := Resolver.after { base } earlier
    (∀ identity, lookup.freshness = .cached → history.latest? lookup.key = some identity →
      (resolver.answer lookup).1 = .ok identity) ∧
    (lookup.freshness = .fresh ∨ history.latest? lookup.key = none →
      (resolver.answer lookup).1 = lookup.derived base) ∧
    (∀ failure, (resolver.answer lookup).1 = .error failure →
      (resolver.answer lookup).2.byLocation = resolver.byLocation ∧
        (resolver.answer lookup).2.byContents = resolver.byContents) ∧
    (∀ derivation, ∀ entry ∈ resolver.remembered derivation,
      entry.2.location = entry.1 ∧ entry.2.derivation = derivation) ∧
    resolver.size = history.foundKeys.toFinset.card ∧
    ∀ files path, (resolver.resolvePath files .location .cached path).1 =
      (resolver.resolvePath files .location .fresh path).1 := by
  intro history resolver
  have remembers : Remembers base history resolver := (Remembers.new base).run earlier
  have latest : (resolver.remembered lookup.key.1).get? lookup.key.2 =
      history.latest? lookup.key := remembers.latest ..
  refine ⟨?_, ?_, ?_, remembers.kept, remembers.size_eq, remembers.cached_eq_fresh⟩
  · intro identity cached known
    rw [← latest] at known
    rcases resolver.answer_cases lookup with ⟨other, -, hit, answered⟩ | ⟨anew, -⟩
    · rw [answered, Option.some.inj (known.symm.trans hit)]
    · simp [cached, known] at anew
  · intro anew
    rw [← latest] at anew
    rcases resolver.answer_cases lookup with ⟨other, cached, hit, -⟩ |
      ⟨-, ⟨identity, derived, answered⟩ | ⟨failure, derived, answered⟩⟩
    · simp [cached, hit] at anew
    · rw [answered, ← remembers.based, derived]
    · rw [answered, ← remembers.based, derived]
  · intro failure failed
    rcases resolver.answer_cases lookup with ⟨identity, -, -, answered⟩ |
      ⟨-, ⟨identity, -, answered⟩ | ⟨other, -, answered⟩⟩
    · rw [answered] at failed
      cases failed
    · rw [answered] at failed
      cases failed
    · rw [answered]
      exact ⟨rfl, rfl⟩

/-- A file is looked up, loses its class, and is looked up again by another spelling. -/
def sampleLookups : List Lookup :=
  [⟨.ofFiles [("/java/e/E.java", "package e;\nclass E\n")], .contents, .cached,
      .ofString "/java/e/E.java"⟩,
    ⟨.ofFiles [("/java/e/E.java", "package e;\n")], .contents, .fresh,
      .ofString "/java/./e/E.java"⟩]

def sampleLookup : Lookup :=
  ⟨.ofFiles [], .contents, .cached, .ofString "/java/x/../e/E.java"⟩

/-- The class that was found first is still remembered. -/
theorem answer_after_lookups_sample :
    ((Resolver.after { base := .ofString "/java" } sampleLookups).answer sampleLookup).1 =
      .ok ⟨.ofString "/java/e/E.java", ⟨"e".toList, "E".toList, by decide, by decide⟩, [],
        .contents⟩ :=
  (answer_after_lookups (.ofString "/java") sampleLookups sampleLookup).1 _ rfl (by decide +kernel)

end ClassMove
