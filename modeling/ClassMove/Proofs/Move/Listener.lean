import ClassMove.Inspect
import ClassMove.Proofs.Move.Plan

/-!
# Work that does not depend on who is told

A map from one kind of listener to another that may be taken before or after something
is heard may be taken before or after the whole work.  So result and files are the same
whoever is told, and what a listener has heard in the end can be worked out from a
transcript, the list of all messages.

The messages of a move that ends well come in a fixed order: how far it has come, its own
event, the number of files that are looked at, and the events of these files.
-/

namespace ClassMove

namespace Listener

variable {σ τ : Type} [Listener σ] [Listener τ]

/-- A map that may be taken before or after an event is heard. -/
structure EventHom (map : σ → τ) : Prop where
  map_event : ∀ told files event,
    map (hear told files (.event event)) = hear (map told) files (.event event)

/-- A map that may be taken before or after anything is heard. -/
structure Hom (map : σ → τ) : Prop extends EventHom map where
  map_status : ∀ told files status,
    map (hear told files (.status status)) = hear (map told) files (.status status)

/-- Nobody listens. -/
instance : Listener Unit where
  hear _ _ _ := ()

/-- A transcript. -/
instance : Listener (List Message) where
  hear messages _ message := messages ++ [message]

end Listener

variable {σ τ : Type}

/-- The same progress, told to another listener. -/
def Progress.map (map : σ → τ) (progress : Progress σ) : Progress τ :=
  ⟨progress.files, progress.resolver, map progress.events, progress.updated⟩

/-- The same outcome, told to another listener. -/
def MoveOutcome.map (map : σ → τ) (outcome : MoveOutcome σ) : MoveOutcome τ :=
  ⟨outcome.result, outcome.files, map outcome.events⟩

variable [Listener σ] [Listener τ] {map : σ → τ}

/-! ## The walk -/

namespace Listener.EventHom

theorem map_tell (hom : EventHom map) (progress : Progress σ) (event : Event) :
    (progress.map map).tell event = (progress.tell event).map map := by
  simp only [Progress.tell, Progress.map, hom.map_event]

theorem map_checkConsistency (hom : EventHom map) (file : Path) (shown : String)
    (contents : ClassName) (progress : Progress σ) :
    checkConsistency file shown contents (progress.map map) =
      (checkConsistency file shown contents progress).map map := by
  unfold checkConsistency
  cases Dialect.ofPath? file with
  | none => rfl
  | some dialect =>
    simp only [Progress.map]
    rcases progress.resolver.resolvePath progress.files .location .fresh file with
      ⟨failure | located, resolver⟩
    · rfl
    · dsimp only
      split
      · rfl
      · exact hom.map_tell { progress with resolver } _

theorem map_recordUpdate (hom : EventHom map) (plan : MovePlan) (shown : String) (lines : Nat)
    (progress : Progress σ) :
    recordUpdate plan shown lines (progress.map map) =
      (recordUpdate plan shown lines progress).map map := by
  unfold recordUpdate
  split
  · exact hom.map_tell progress _
  · rw [hom.map_tell]
    rfl

theorem map_visitFile (hom : EventHom map) (plan : MovePlan) (preview : Bool) (file : Path)
    (progress : Progress σ) :
    visitFile plan preview file (progress.map map) =
      (visitFile plan preview file progress).map id (Progress.map map) := by
  unfold visitFile
  simp only [Progress.map]
  rcases progress.resolver.resolvePath progress.files .contents .fresh file with
    ⟨failure | contents, resolver⟩
  · dsimp only
    split
    · exact congrArg _ (hom.map_tell { progress with resolver } _)
    · rfl
  · have checked := hom.map_checkConsistency file
      (file.displayRelative progress.files.current plan.base) contents.name
      { progress with resolver }
    simp only [Progress.map] at checked
    simp only [checked]
    split
    · rcases FileSystem.editImports _ file plan.old plan.new preview with
        failure | ⟨lines, files⟩
      · rfl
      · exact congrArg _ (hom.map_recordUpdate plan _ lines { checkConsistency _ _ _ _ with files })
    · rfl

theorem map_visitFiles (hom : EventHom map) (plan : MovePlan) (preview : Bool) (files : List Path)
    (progress : Progress σ) :
    visitFiles plan preview files (progress.map map) =
      (visitFiles plan preview files progress).map id (Progress.map map) := by
  induction files generalizing progress with
  | nil => rfl
  | cons file rest walk =>
    simp only [visitFiles, hom.map_visitFile plan preview file progress]
    rcases visitFile plan preview file progress with ⟨failure | _, after⟩
    · rfl
    · exact walk after

end Listener.EventHom

/-! ## The whole work -/

namespace Listener.Hom

theorem map_propagate (hom : Hom map) (plan : MovePlan) (settings : Settings) (preview : Bool)
    (progress : Progress σ) :
    propagate plan settings preview (progress.map map) =
      (propagate plan settings preview progress).map id (Progress.map map) := by
  unfold propagate
  split
  · rfl
  · simp only [Progress.map, ← hom.map_status]
    exact hom.map_visitFiles plan preview _ { progress with events := hear _ _ _ }

theorem map_resolveBaseTelling (hom : Hom map) (told : σ) (files : FileSystem)
    (settings : Settings) (explicit? : Option Path) (source : Path) :
    resolveBaseTelling (map told) files settings explicit? source =
      (resolveBaseTelling told files settings explicit? source).map id map := by
  unfold resolveBaseTelling
  cases explicit? with
  | some base =>
    dsimp only
    split <;> rfl
  | none =>
    dsimp only
    split
    · rw [← hom.map_status]
      rfl
    · rw [← hom.map_event]
      rfl

theorem map_runPlan (hom : Hom map) (told : σ) (settings : Settings) (preview : Bool)
    (plan : MovePlan) (files : FileSystem) (resolver : Resolver) :
    runPlan (map told) settings preview plan files resolver =
      (runPlan told settings preview plan files resolver).map map := by
  unfold runPlan
  rcases executeMove files plan preview with ⟨failure | event, moved⟩
  · rfl
  · have followed := hom.map_propagate plan settings preview
      { files := moved, resolver, events := hear told moved (.event event) }
    simp only [Progress.map, hom.map_event] at followed
    simp only [followed]
    rcases propagate plan settings preview _ with ⟨failure | _, progress⟩ <;> rfl

theorem map_moveClassTelling (hom : Hom map) (told : σ) (files : FileSystem)
    (settings : Settings) (request : MoveRequest) :
    moveClassTelling (map told) files settings request =
      (moveClassTelling told files settings request).map map := by
  unfold moveClassTelling
  cases checkMove files request with
  | error failure => rfl
  | ok checked =>
    have announced :
        (if request.preview then hear (map told) files (.status .dryRun) else map told) =
          map (if request.preview then hear told files (.status .dryRun) else told) := by
      split
      · exact (hom.map_status told files .dryRun).symm
      · rfl
    simp only [announced, hom.map_resolveBaseTelling]
    rcases resolveBaseTelling _ files settings request.baseDir? checked.source.toPath with
      ⟨failure | base, heard⟩
    · rfl
    · dsimp only [Prod.map, id]
      rcases planMove files checked { base } with ⟨failure | plan, resolver⟩
      · rfl
      · exact hom.map_runPlan heard settings request.preview plan files resolver

theorem map_inspectFileTelling (hom : Hom map) (told : σ) (files : FileSystem)
    (settings : Settings) (baseDir? : Option Path) (path : Path) :
    inspectFileTelling (map told) files settings baseDir? path =
      (inspectFileTelling told files settings baseDir? path).map id map := by
  simp only [inspectFileTelling]
  rcases files.reach? (files.locationOf path) with _ | ⟨_ | _⟩
  · rfl
  · dsimp only
    cases Dialect.ofLocation? (files.locationOf path) with
    | none => rfl
    | some dialect =>
      simp only [hom.map_resolveBaseTelling]
      rcases resolveBaseTelling told files settings baseDir? _ with ⟨failure | base, heard⟩ <;> rfl
  · rfl

end Listener.Hom

namespace Listener

variable {P : σ → Prop} (keeps : ∀ told files message, P told → P (hear told files message))

/-- Listeners of whom something holds that is kept whenever they hear something. -/
abbrev restrict : Listener (Subtype P) where
  hear told files message := ⟨hear told.1 files message, keeps _ files message told.2⟩

theorem Hom.restrict :
    let _ := Listener.restrict keeps
    Hom (Subtype.val : Subtype P → σ) :=
  let _ := Listener.restrict keeps
  { map_event := fun _ _ _ => rfl, map_status := fun _ _ _ => rfl }

include keeps

theorem keeps_moveClassTelling {told : σ} (holds : P told) (files : FileSystem)
    (settings : Settings) (request : MoveRequest) :
    P (moveClassTelling told files settings request).events := by
  let _ := Listener.restrict keeps
  rw [(Hom.restrict keeps).map_moveClassTelling ⟨told, holds⟩]
  exact Subtype.property
    (moveClassTelling (⟨told, holds⟩ : Subtype P) files settings request).events

theorem keeps_inspectFileTelling {told : σ} (holds : P told) (files : FileSystem)
    (settings : Settings) (baseDir? : Option Path) (path : Path) :
    P (inspectFileTelling told files settings baseDir? path).2 := by
  let _ := Listener.restrict keeps
  rw [(Hom.restrict keeps).map_inspectFileTelling ⟨told, holds⟩]
  exact Subtype.property
    (inspectFileTelling (⟨told, holds⟩ : Subtype P) files settings baseDir? path).2

end Listener

/-- How far a move has come before it does anything. -/
def MoveRequest.announced (request : MoveRequest) (base : String) : List Status :=
  (if request.preview then [.dryRun] else []) ++
    if request.baseDir?.isSome then [] else [.foundBase base]

/-- How far a move has come when it looks at the other files. -/
def MoveResult.scanned (result : MoveResult) (count : Nat) : List Status :=
  if result.old = result.new then [] else [.scanning count]

theorem hear_message (messages : List Message) (files : FileSystem) (message : Message) :
    Listener.hear messages files message = messages ++ [message] :=
  rfl

end ClassMove
