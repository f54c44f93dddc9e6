import SealedBuild.Engine.Images
import SealedBuild.Proofs.Act
import SealedBuild.Proofs.Image.Context

/-!
# The image of a build

The messages of a build are read up to the first one that tells of a failure, and the id that was
told last is that of the image. A build can end without a failure and without an id. The image is
then looked up by its tag, and the tags decide as they are after the build.
-/

namespace SealedBuild.Engine

variable {σ : Type}

/-! ## The messages of a build -/

/-- An item of a build's messages is a fault, or carries an error. -/
def TellsFailure : Except EngineFault BuildMessage → Prop
  | .error _ => True
  | .ok message => message.error.isSome = true

instance : DecidablePred TellsFailure
  | .error _ => inferInstanceAs (Decidable True)
  | .ok message => inferInstanceAs (Decidable (message.error.isSome = true))

/-- The failure that an item of a build's messages tells of. -/
def toldFailure? : Except EngineFault BuildMessage → Option Failure
  | .error fault => some (.artifactHandoff ("image build failed: " ++ fault.message))
  | .ok message => message.error.map fun error => .artifactHandoff (Text.trimmed error)

/-- The ids that the messages of a build tell, in order. -/
def toldIds (stream : EngineStream BuildMessage) : List String :=
  stream.filterMap fun item => item.toOption.bind BuildMessage.imageId

theorem toldFailure?_eq_none_iff {item : Except EngineFault BuildMessage} :
    toldFailure? item = none ↔ ¬ TellsFailure item := by
  cases item <;> simp [toldFailure?, TellsFailure]

theorem eq_artifactHandoff_of_toldFailure? {item : Except EngineFault BuildMessage}
    {failure : Failure} (h : toldFailure? item = some failure) :
    ∃ reason, failure = .artifactHandoff reason := by
  cases item with
  | error fault => exact ⟨_, (Option.some.inj h).symm⟩
  | ok message =>
      obtain ⟨error, -, hfailure⟩ := Option.map_eq_some_iff.mp h
      exact ⟨_, hfailure.symm⟩

/-- The first failure ends a build, also after an id. Without one, each id takes the place of the
one before it. -/
theorem builtImage_eq (found : Option String) (stream : EngineStream BuildMessage) :
    builtImage found stream =
      match stream.findSome? toldFailure? with
      | some failure => .error failure
      | none => .ok ((toldIds stream).getLast?.or found) := by
  induction stream generalizing found with
  | nil => rfl
  | cons item stream ih =>
      rcases item with fault | ⟨error, imageId⟩
      · rfl
      · cases error with
        | some error => rfl
        | none =>
            have hread : builtImage found (.ok ⟨none, imageId⟩ :: stream) =
                builtImage (imageId.or found) stream := rfl
            have hfirst : (Except.ok ⟨none, imageId⟩ :: stream).findSome? toldFailure? =
                stream.findSome? toldFailure? := rfl
            have htold : toldIds (.ok ⟨none, imageId⟩ :: stream) =
                imageId.toList ++ toldIds stream := by
              cases imageId <;> rfl
            rw [hread, ih, hfirst, htold, List.getLast?_append, Option.or_assoc]
            cases imageId <;> rfl

/-! ## Images -/

theorem taggedImage_apply (engine : Engine σ) (tag : String) (world : World σ) :
    engine.taggedImage tag world =
      let answer := engine.imageId tag world
      match answer.1 with
      | .error fault => (.error (.notFound ("image " ++ tag ++ ": " ++ fault.message)), answer.2)
      | .ok none => (.error (.internal ("image " ++ tag ++ " has no id")), answer.2)
      | .ok (some id) => (.ok id, answer.2) := by
  unfold taggedImage
  rw [Act.bind_apply]
  dsimp only
  rcases (engine.imageId tag world).1 with fault | - | id <;> rfl

/-- An image is found by its tag exactly when the engine tells its id. -/
theorem taggedImage_eq_ok_iff {engine : Engine σ} {tag id : String} {world : World σ} :
    (engine.taggedImage tag world).1 = .ok id ↔ (engine.imageId tag world).1 = .ok (some id) := by
  rw [taggedImage_apply]
  dsimp only
  rcases (engine.imageId tag world).1 with fault | - | found <;> simp

theorem assemble_of_pack_error {engine : Engine σ} {request : AssemblyRequest} {world : World σ}
    {failure : Failure} (h : BuildContext.pack world.files request = .error failure) :
    engine.assemble request world = (.error failure, world) := by
  unfold assemble
  rw [Act.bind_apply]
  dsimp only [Act.files]
  rw [h]
  rfl

theorem assemble_of_pack_ok {engine : Engine σ} {request : AssemblyRequest} {world : World σ}
    {context : List UInt8} (h : BuildContext.pack world.files request = .ok context) :
    engine.assemble request world =
      let answer := engine.build ⟨request.tag, request.labels, context⟩ world
      match answer.1.findSome? toldFailure?, (toldIds answer.1).getLast? with
      | some failure, _ => (.error failure, answer.2)
      | none, some id => (.ok id, answer.2)
      | none, none => engine.taggedImage request.tag answer.2 := by
  unfold assemble
  rw [Act.bind_apply]
  dsimp only [Act.files]
  rw [h]
  dsimp only
  rw [Act.bind_apply, builtImage_eq, Option.or_none]
  cases List.findSome? toldFailure? _ with
  | some failure => rfl
  | none => cases List.getLast? _ <;> rfl

/-- For an archive that was packed, an image is given exactly if no message tells of a failure and
the image is the one that was told last or, where none was told, the one that the engine gives for
the tag after the build. -/
theorem assemble_eq_ok_iff {engine : Engine σ} {request : AssemblyRequest} {world : World σ}
    {context : List UInt8} (h : BuildContext.pack world.files request = .ok context) {id : String} :
    let answer := engine.build ⟨request.tag, request.labels, context⟩ world
    (engine.assemble request world).1 = .ok id ↔
      (∀ item ∈ answer.1, ¬ TellsFailure item) ∧
        ((toldIds answer.1).getLast? = some id ∨
          toldIds answer.1 = [] ∧ (engine.imageId request.tag answer.2).1 = .ok (some id)) := by
  rw [assemble_of_pack_ok h]
  dsimp only
  generalize engine.build ⟨request.tag, request.labels, context⟩ world = answer
  simp only [← toldFailure?_eq_none_iff, ← List.findSome?_eq_none_iff]
  cases hfailure : answer.1.findSome? toldFailure? with
  | some failure => simp
  | none =>
      cases hlast : (toldIds answer.1).getLast? with
      | some last =>
          have hne : toldIds answer.1 ≠ [] := by
            intro hnil
            rw [hnil] at hlast
            cases hlast
          simp [hne]
      | none => simp [List.getLast?_eq_none_iff.mp hlast, taggedImage_eq_ok_iff]

/-- A failure anywhere among the messages of a build is the failure of the assembler. -/
theorem assemble_of_tellsFailure {engine : Engine σ} {request : AssemblyRequest} {world : World σ}
    {context : List UInt8} (h : BuildContext.pack world.files request = .ok context) :
    let answer := engine.build ⟨request.tag, request.labels, context⟩ world
    (∃ item ∈ answer.1, TellsFailure item) →
      ∃ reason, engine.assemble request world = (.error (.artifactHandoff reason), answer.2) := by
  rw [assemble_of_pack_ok h]
  dsimp only
  generalize engine.build ⟨request.tag, request.labels, context⟩ world = answer
  rintro ⟨item, hitem, htells⟩
  cases hfailure : answer.1.findSome? toldFailure? with
  | none =>
      have hnone := List.findSome?_eq_none_iff.mp hfailure item hitem
      exact absurd htells (toldFailure?_eq_none_iff.mp hnone)
  | some failure =>
      obtain ⟨_, -, htold⟩ := List.exists_of_findSome?_eq_some hfailure
      obtain ⟨reason, rfl⟩ := eq_artifactHandoff_of_toldFailure? htold
      exact ⟨reason, rfl⟩

/-- The engine tells an id for a tag only if that is what its state has for the tag. -/
def TellsTags (engine : Engine σ) (tags : σ → String → Option String) : Prop :=
  ∀ (world : World σ) (tag id : String),
    (engine.imageId tag world).1 = .ok (some id) → tags world.backend tag = some id

/-- Whatever a build tells, and whatever the tags were before it, an assembler gives an image
exactly if nothing told of a failure and the image is the one that was told last or, where none was
told, the one that the engine gives for the tag after the build. That can be an image from before
the build only if it still has the tag. -/
theorem assemble_told_or_tagged (engine : Engine σ) (request : AssemblyRequest)
    (world : World σ) :
    (∀ failure, BuildContext.pack world.files request = .error failure →
      engine.assemble request world = (.error failure, world)) ∧
    ∀ context, BuildContext.pack world.files request = .ok context →
      let answer := engine.build ⟨request.tag, request.labels, context⟩ world
      ((∃ item ∈ answer.1, TellsFailure item) →
        ∃ reason, engine.assemble request world = (.error (.artifactHandoff reason), answer.2)) ∧
      (∀ id, (engine.assemble request world).1 = .ok id ↔
        (∀ item ∈ answer.1, ¬ TellsFailure item) ∧
          ((toldIds answer.1).getLast? = some id ∨
            toldIds answer.1 = [] ∧ (engine.imageId request.tag answer.2).1 = .ok (some id))) ∧
      ∀ tags, engine.TellsTags tags → toldIds answer.1 = [] →
        ∀ id, (engine.assemble request world).1 = .ok id →
          tags answer.2.backend request.tag = some id := by
  refine ⟨fun failure => assemble_of_pack_error, fun context hpack =>
    ⟨assemble_of_tellsFailure hpack, fun id => assemble_eq_ok_iff hpack, ?_⟩⟩
  intro tags htells hnil id hid
  rcases ((assemble_eq_ok_iff hpack).mp hid).2 with hlast | ⟨-, htagged⟩
  · rw [hnil] at hlast
    cases hlast
  · exact htells _ _ _ htagged

/-- An engine that has images by their tags. A build ends with the messages `told` and gives its tag
to the image that it made, if it made one. -/
def keepingTags (told : EngineStream BuildMessage) (made : Option String) : Engine VarMap where
  ping := pure (.ok ())
  pull _ := pure ()
  create name _ := pure (.ok name)
  start _ := pure (.ok ())
  logs _ := pure []
  containerState _ := pure (.ok none)
  wait _ := pure []
  archive _ _ := pure []
  remove _ := pure (.ok ())
  build request := Act.onBackend fun tags =>
    (told, made.elim tags fun id => tags.insert request.tag id)
  imageId tag := fun world =>
    (match world.backend.get? tag with
      | some id => .ok (some id)
      | none => .error (.refused 404 ("No such image: " ++ tag)), world)

theorem tellsTags_keepingTags (told : EngineStream BuildMessage) (made : Option String) :
    (keepingTags told made).TellsTags VarMap.get? := by
  intro world tag id h
  dsimp only [keepingTags] at h
  cases htag : world.backend.get? tag with
  | none => simp [htag] at h
  | some found => simpa [htag] using h

/-- The host on which the sample artifact is staged, and an image that has the tag already. -/
def taggedWorld : World VarMap where
  files := BuildContext.stagedFiles
  clock _ := default
  backend := VarMap.ofList [("service:1", "sha256:old")]

/-- A build that tells no id moves the tag, and one that tells an id fails after it. -/
theorem assemble_moved_tag :
    ∃ context, BuildContext.pack taggedWorld.files BuildContext.stagedRequest = .ok context ∧
      ((keepingTags [.ok {}] (some "sha256:new")).assemble
        BuildContext.stagedRequest taggedWorld).1 = .ok "sha256:new" ∧
      VarMap.get? ((keepingTags [.ok {}] (some "sha256:new")).build
        ⟨"service:1", BuildContext.stagedRequest.labels, context⟩ taggedWorld).2.backend
          "service:1" = some "sha256:new" ∧
      ∃ reason after, (keepingTags [.ok ⟨none, some "sha256:new"⟩, .error .leftover] none).assemble
        BuildContext.stagedRequest taggedWorld = (.error (.artifactHandoff reason), after) := by
  have hread : taggedWorld.files.read BuildContext.stagedRequest.artifact.stagedPath =
      .ok [0x7f, 0x45, 0x4c, 0x46] := by decide +kernel
  have hpack := BuildContext.pack_eq_ok_iff.mpr ⟨_, hread, rfl⟩
  have hgiven : ((keepingTags [.ok {}] (some "sha256:new")).assemble
      BuildContext.stagedRequest taggedWorld).1 = .ok "sha256:new" :=
    (assemble_eq_ok_iff hpack).mpr ⟨by decide, .inr ⟨by decide, by decide +kernel⟩⟩
  obtain ⟨-, -, htags⟩ := (assemble_told_or_tagged _ _ taggedWorld).2 _ hpack
  obtain ⟨hfails, -⟩ := (assemble_told_or_tagged
    (keepingTags [.ok ⟨none, some "sha256:new"⟩, .error .leftover] none) _ taggedWorld).2 _ hpack
  obtain ⟨reason, hfailed⟩ := hfails ⟨_, List.mem_of_getLast? rfl, trivial⟩
  exact ⟨_, hpack, hgiven, htags _ (tellsTags_keepingTags _ _) (by decide) _ hgiven,
    reason, _, hfailed⟩

/-- A build that tells nothing and makes nothing. The image that had the tag before is given. -/
theorem assemble_older_image :
    taggedWorld.backend.get? BuildContext.stagedRequest.tag = some "sha256:old" ∧
      (∀ context, ((keepingTags [] none).build
        ⟨BuildContext.stagedRequest.tag, BuildContext.stagedRequest.labels, context⟩
          taggedWorld).1 = []) ∧
      ((keepingTags [] none).assemble BuildContext.stagedRequest taggedWorld).1 =
        .ok "sha256:old" := by
  have hread : taggedWorld.files.read BuildContext.stagedRequest.artifact.stagedPath =
      .ok [0x7f, 0x45, 0x4c, 0x46] := by decide +kernel
  have hpack := BuildContext.pack_eq_ok_iff.mpr ⟨_, hread, rfl⟩
  exact ⟨by decide +kernel, fun _ => rfl, (assemble_eq_ok_iff hpack).mpr
    ⟨by decide, .inr ⟨by decide, by decide +kernel⟩⟩⟩

end SealedBuild.Engine
