import TetiBot.Tasks.Execution
import TetiBot.Callable.Adapter

/-
The artifacts that finished executions are published as, and their size.

* `AcceptedOutput`: what the adapter and the image store let through;
* `artifactSize`: the bytes of the JSON text of an artifact, by its parts;
* `finished_artifact_valid_iff`: when the artifact of a finished execution
  passes the validation of the store, for each way to finish.
-/

namespace TetiBot

open Library Library.JsString

/-! ### Accepted outputs -/

/-- An output that the adapter accepted, with its images as the image store
took them in: each is valid, their identifiers differ, and they keep to the
quota of an execution. -/
structure AcceptedOutput where
  output : CallableAdapterTaskArtifact
  accepted : validateCallableAdapterArtifactText output.outputText = .ok ()
  imagesValid : ∀ part ∈ output.images, ∀ label, validateTaskImagePart part label = .ok ()
  imagesDiffer : (output.images.map fun part => part.attachmentId).Nodup
  imageCount : output.images.length ≤ MAX_TASK_IMAGE_PARTS
  imageQuota : imageBytes output.images ≤ MAX_TASK_IMAGE_TOTAL_BYTES

/-! ### Sizes -/

/-- The bytes of an image part in the text of an artifact, with the comma
before it. -/
def imagePartSize (part : TaskImagePart) : Nat := part.json.encodedSize + 1

variable (taskId artifactId : String)

/-- The bytes of the identifiers and the time of an artifact. -/
def artifactFrameSize (createdAt : Timestamp) : Nat :=
  escapedSize (ofString taskId) + escapedSize (ofString artifactId)
    + escapedSize (toISOString createdAt)

variable (t : JsString)

/-- The bytes that the text of an artifact takes in JSON: a byte more for each
quote, backslash and short escape, and up to five for each other control
character or lone surrogate. -/
def artifactTextSize : Nat := utf8Size t + escapeOverhead t

lemma encodedSize_v2 (images : List TaskImagePart) (createdAt : Timestamp) :
    (CollaborationTaskArtifact.v2 taskId artifactId (.text t :: images.map .image)
      createdAt).json.encodedSize
      = artifactTextSize t + (images.map imagePartSize).sum
        + artifactFrameSize taskId artifactId createdAt + 98 := by
  have hitems : ∀ (first : Json), Json.itemsSize (first :: images.map TaskImagePart.json)
      = first.encodedSize + (images.map imagePartSize).sum := by
    induction images with
    | nil => intro first; simp [Json.itemsSize]
    | cons image images ih =>
      intro first
      simp only [List.map_cons, Json.itemsSize, ih, List.sum_cons, imagePartSize]
      omega
  have hparts : (TaskPart.text t :: images.map TaskPart.image).map TaskPart.json
      = (TaskPart.text t).json :: images.map TaskImagePart.json := by
    simp [Function.comp_def, TaskPart.json]
  rw [CollaborationTaskArtifact.json, hparts]
  have hkeys : escapedSize (ofString "schemaVersion") = 13 ∧ escapedSize (ofString "taskId") = 6
      ∧ escapedSize (ofString "artifactId") = 10 ∧ escapedSize (ofString "parts") = 5
      ∧ escapedSize (ofString "createdAt") = 9 ∧ escapedSize (ofString "kind") = 4
      ∧ escapedSize (ofString "text") = 4 ∧ (Json.num 2).encodedSize = 1 := by
    decide +kernel
  obtain ⟨h1, h2, h3, h4, h5, h6, h7, h8⟩ := hkeys
  simp only [Json.encodedSize_obj, Json.fieldsSize, Json.encodedSize_arr, hitems, TaskPart.json,
    jsonString, Json.encodedSize_str, h1, h2, h3, h4, h5, h6, h7, h8, artifactFrameSize]
  rw [escapedSize_eq t, artifactTextSize]
  omega

lemma encodedSize_v1 (createdAt : Timestamp) :
    (CollaborationTaskArtifact.v1 taskId artifactId t createdAt).json.encodedSize
      = artifactTextSize t + artifactFrameSize taskId artifactId createdAt + 86 := by
  have hkeys : escapedSize (ofString "schemaVersion") = 13 ∧ escapedSize (ofString "taskId") = 6
      ∧ escapedSize (ofString "artifactId") = 10 ∧ escapedSize (ofString "createdAt") = 9
      ∧ escapedSize (ofString "kind") = 4 ∧ escapedSize (ofString "text") = 4
      ∧ (Json.num 1).encodedSize = 1 := by
    decide +kernel
  obtain ⟨h1, h2, h3, h4, h5, h6, h7⟩ := hkeys
  rw [CollaborationTaskArtifact.json]
  simp only [Json.encodedSize_obj, Json.fieldsSize, jsonString, Json.encodedSize_str, h1, h2, h3,
    h4, h5, h6, h7, artifactFrameSize]
  rw [escapedSize_eq t, artifactTextSize]
  omega

/-! ### Validation -/

variable {label : String}

lemma validateTextPart_ok {t : JsString} {maximum : Nat} :
    validateTextPart t maximum label = .ok () ↔ isBlank t = false ∧ utf8Size t ≤ maximum := by
  rw [validateTextPart, failIf_then_eq_ok, failIf_eq_ok]
  simp

variable {images : List TaskImagePart}

/-- Images that are valid and differ pass the walk over the parts. -/
lemma validatePartsFrom_images {requireLeadingText : Bool} {maximumTextBytes : Nat} {index : Nat}
    {seen : List String}
    (hvalid : ∀ part ∈ images, ∀ label, validateTaskImagePart part label = .ok ())
    (hdiffer : (images.map fun part => part.attachmentId).Nodup)
    (hnew : ∀ part ∈ images, part.attachmentId ∉ seen) :
    validatePartsFrom label requireLeadingText maximumTextBytes index seen
      (images.map .image) = .ok () := by
  induction images generalizing index seen with
  | nil => rfl
  | cons image images ih =>
    rw [List.map_cons, List.nodup_cons] at hdiffer
    obtain ⟨hfresh, hdiffer⟩ := hdiffer
    rw [List.map_cons, validatePartsFrom, except_bind_eq_ok]
    refine ⟨(), hvalid image (by simp) _, except_bind_eq_ok.mpr ⟨(), ?_, ?_⟩⟩
    · exact failIf_eq_ok.mpr (hnew image (by simp))
    · refine ih (fun part hpart => hvalid part (by simp [hpart])) hdiffer fun part hpart => ?_
      rw [List.mem_cons, not_or]
      refine ⟨fun heq => hfresh ?_, hnew part (by simp [hpart])⟩
      exact heq ▸ List.mem_map_of_mem hpart

/-- A text and valid images that differ are valid parts if there are not too
many of them and they do not take too much room. -/
lemma validateParts_ok_iff {t : JsString}
    (htext : isBlank t = false ∧ utf8Size t ≤ MAX_TASK_ARTIFACT_TEXT_BYTES)
    (hvalid : ∀ part ∈ images, ∀ label, validateTaskImagePart part label = .ok ())
    (hdiffer : (images.map fun part => part.attachmentId).Nodup)
    (hcount : images.length ≤ MAX_TASK_IMAGE_PARTS) :
    validateParts (.text t :: images.map .image) label false MAX_TASK_ARTIFACT_TEXT_BYTES = .ok ()
      ↔ imageBytes images ≤ MAX_TASK_IMAGE_TOTAL_BYTES := by
  have htexts : (images.map TaskPart.image).filterMap TaskPart.text? = [] := by
    simp [List.filterMap_map, Function.comp_def, TaskPart.text?]
  have himages : (images.map TaskPart.image).filterMap TaskPart.image? = images := by
    simp [List.filterMap_map, Function.comp_def, TaskPart.image?]
  have hwalk : validatePartsFrom label false MAX_TASK_ARTIFACT_TEXT_BYTES 0 []
      (.text t :: images.map .image) = .ok () := by
    rw [validatePartsFrom, except_bind_eq_ok]
    refine ⟨(), validateTextPart_ok.mpr htext, except_bind_eq_ok.mpr ⟨(), ?_, ?_⟩⟩
    · exact failIf_eq_ok.mpr (by simp)
    · exact validatePartsFrom_images hvalid hdiffer (by simp)
  have hlength : ¬(MAX_TASK_INPUT_PARTS < images.length + 1) := by
    rw [MAX_TASK_INPUT_PARTS]
    rw [MAX_TASK_IMAGE_PARTS] at hcount
    omega
  rw [validateParts]
  simp only [List.length_cons, List.length_map, List.filterMap_cons, TaskPart.text?,
    TaskPart.image?, htexts, himages]
  rw [failIf_then_eq_ok, hwalk, except_ok_bind, failIf_then_eq_ok, failIf_eq_ok]
  simp [hlength, Nat.not_lt.mpr hcount]

lemma validateSafeId_ok {value : String} :
    validateSafeId value label = .ok () ↔ safeTaskId value = true := by
  rw [validateSafeId, failIf_eq_ok]
  simp

/-- The text of an accepted output is not blank, and not too long. -/
lemma AcceptedOutput.text_ok (accepted : AcceptedOutput) :
    isBlank accepted.output.outputText = false
      ∧ utf8Size accepted.output.outputText ≤ MAX_TASK_ARTIFACT_TEXT_BYTES := by
  have h := accepted.accepted
  rw [validateCallableAdapterArtifactText, failIf_then_eq_ok, failIf_eq_ok] at h
  simpa using h

/-- An artifact of a text and images fits: its text, escaped, its images and
its identifiers do. -/
def V2Fits (images : List TaskImagePart) (createdAt : Timestamp) : Prop :=
  artifactTextSize t + (images.map imagePartSize).sum
    + artifactFrameSize taskId artifactId createdAt + 98 ≤ MAX_TASK_ARTIFACT_BYTES

/-- An artifact of a text alone fits. -/
def V1Fits (createdAt : Timestamp) : Prop :=
  artifactTextSize t + artifactFrameSize taskId artifactId createdAt + 86
    ≤ MAX_TASK_ARTIFACT_BYTES

lemma validate_v1_iff {taskId artifactId : String} (htask : safeTaskId taskId = true)
    (hid : safeTaskId artifactId = true) {t : JsString}
    (htext : isBlank t = false ∧ utf8Size t ≤ MAX_TASK_ARTIFACT_TEXT_BYTES)
    (createdAt : Timestamp) :
    validateTaskArtifact (.v1 taskId artifactId t createdAt) = .ok ()
      ↔ V1Fits taskId artifactId t createdAt := by
  rw [validateTaskArtifact, validateTaskTextArtifact, failIf_then_eq_ok, encodedSize_v1,
    validateSafeId_ok.mpr htask, validateSafeId_ok.mpr hid, except_ok_bind, except_ok_bind,
    validateTextPart_ok, V1Fits, not_lt]
  exact and_iff_left htext

lemma validate_v2_iff {taskId artifactId : String} (htask : safeTaskId taskId = true)
    (hid : safeTaskId artifactId = true) {t : JsString}
    (htext : isBlank t = false ∧ utf8Size t ≤ MAX_TASK_ARTIFACT_TEXT_BYTES)
    (hvalid : ∀ part ∈ images, ∀ label, validateTaskImagePart part label = .ok ())
    (hdiffer : (images.map fun part => part.attachmentId).Nodup)
    (hcount : images.length ≤ MAX_TASK_IMAGE_PARTS) (createdAt : Timestamp) :
    validateTaskArtifact (.v2 taskId artifactId (.text t :: images.map .image) createdAt) = .ok ()
      ↔ V2Fits taskId artifactId t images createdAt
        ∧ imageBytes images ≤ MAX_TASK_IMAGE_TOTAL_BYTES := by
  rw [validateTaskArtifact, validateTaskArtifactV2, failIf_then_eq_ok, encodedSize_v2,
    validateSafeId_ok.mpr htask, validateSafeId_ok.mpr hid, except_ok_bind, except_ok_bind,
    validateParts_ok_iff htext hvalid hdiffer hcount, V2Fits, not_lt]

/-! ### The aggregated artifact -/

/-- Whether an image part is valid does not depend on how it is called. -/
lemma validateTaskImagePart_label {part : TaskImagePart}
    (h : validateTaskImagePart part label = .ok ()) (other : String) :
    validateTaskImagePart part other = .ok () := by
  simp only [validateTaskImagePart, validateSafeId, failIf_then_eq_ok, failIf_eq_ok] at h ⊢
  exact h

/-- The image parts of a list of parts that passed are valid. -/
lemma images_valid_of_validatePartsFrom {requireLeadingText : Bool} {maximumTextBytes : Nat}
    {parts : List TaskPart} {index : Nat} {seen : List String}
    (h : validatePartsFrom label requireLeadingText maximumTextBytes index seen parts = .ok ()) :
    ∀ part ∈ parts.filterMap TaskPart.image?, ∀ label,
      validateTaskImagePart part label = .ok () := by
  induction parts generalizing index seen with
  | nil => simp
  | cons first parts ih =>
    cases first with
    | text t =>
      obtain ⟨_, -, h⟩ := except_bind_eq_ok.mp h
      obtain ⟨_, -, h⟩ := except_bind_eq_ok.mp h
      simpa [TaskPart.image?] using ih h
    | image image =>
      obtain ⟨_, himage, h⟩ := except_bind_eq_ok.mp h
      obtain ⟨_, -, h⟩ := except_bind_eq_ok.mp h
      intro part hpart other
      rw [List.filterMap_cons, TaskPart.image?, List.mem_cons] at hpart
      rcases hpart with rfl | hpart
      · exact validateTaskImagePart_label himage other
      · exact ih h part hpart other

lemma taskArtifactImages_valid {artifact : CollaborationTaskArtifact}
    (h : validateTaskArtifact artifact = .ok ()) :
    ∀ part ∈ taskArtifactImages artifact, ∀ label, validateTaskImagePart part label = .ok () := by
  cases artifact with
  | v1 => simp [taskArtifactImages]
  | v2 taskId artifactId parts createdAt =>
    obtain ⟨_, -, h⟩ := except_bind_eq_ok.mp h
    obtain ⟨_, -, h⟩ := except_bind_eq_ok.mp h
    obtain ⟨_, -, h⟩ := except_bind_eq_ok.mp h
    obtain ⟨_, -, h⟩ := except_bind_eq_ok.mp h
    obtain ⟨_, hwalk, -⟩ := except_bind_eq_ok.mp h
    exact images_valid_of_validatePartsFrom hwalk

/-- The images of the results of several steps, each once. -/
lemma uniqueDelegationImages_spec (artifacts : List CollaborationTaskArtifact) :
    ((uniqueDelegationImages artifacts).map fun part => part.attachmentId).Nodup
      ∧ ∀ part ∈ uniqueDelegationImages artifacts, ∃ artifact ∈ artifacts,
          part ∈ taskArtifactImages artifact := by
  have hfold : ∀ (images known : List TaskImagePart),
      (known.map fun part => part.attachmentId).Nodup →
      let unique := images.foldl (fun images image =>
        if images.any fun known => known.attachmentId == image.attachmentId then images
        else images ++ [image]) known
      (unique.map fun part => part.attachmentId).Nodup
        ∧ ∀ part ∈ unique, part ∈ known ∨ part ∈ images := by
    intro images
    induction images with
    | nil => exact fun known hknown => ⟨hknown, fun part hpart => .inl hpart⟩
    | cons image images ih =>
      intro known hknown
      rw [List.foldl_cons]
      split_ifs with h
      · obtain ⟨hdiffer, hmem⟩ := ih known hknown
        exact ⟨hdiffer, fun part hpart => (hmem part hpart).imp_right (by simp +contextual)⟩
      · have hnew : ((known ++ [image]).map fun part => part.attachmentId).Nodup := by
          rw [List.map_append, List.map_singleton, List.nodup_append]
          refine ⟨hknown, List.nodup_singleton _, ?_⟩
          intro a ha b hb
          obtain ⟨part, hpart, rfl⟩ := List.mem_map.mp ha
          rw [List.mem_singleton.mp hb]
          intro heq
          exact h (List.any_eq_true.mpr ⟨part, hpart, by simpa using heq⟩)
        obtain ⟨hdiffer, hmem⟩ := ih (known ++ [image]) hnew
        refine ⟨hdiffer, fun part hpart => ?_⟩
        rcases hmem part hpart with hpart | hpart
        · rcases List.mem_append.mp hpart with hpart | hpart
          · exact .inl hpart
          · exact .inr (by simp [List.mem_singleton.mp hpart])
        · exact .inr (by simp [hpart])
  obtain ⟨hdiffer, hmem⟩ := hfold (artifacts.flatMap taskArtifactImages) [] List.nodup_nil
  refine ⟨hdiffer, fun part hpart => ?_⟩
  rcases hmem part hpart with hpart | hpart
  · simp at hpart
  · exact List.mem_flatMap.mp hpart

lemma aggregateDelegationText_ok (artifacts : List CollaborationTaskArtifact) :
    isBlank (aggregateDelegationText artifacts MAX_TASK_ARTIFACT_TEXT_BYTES) = false
      ∧ utf8Size (aggregateDelegationText artifacts MAX_TASK_ARTIFACT_TEXT_BYTES)
        ≤ MAX_TASK_ARTIFACT_TEXT_BYTES := by
  refine ⟨?_, utf8Size_truncateUtf8_le _ _⟩
  have hheading : ∀ rest, ∃ tail, join (ofString "\n\n")
      (ofString s!"Teti Host 已按冻结顺序完成 {artifacts.length} 个 Child Agent 步骤。" :: rest)
        = 0x54 :: tail := by
    have hopening : ofString "Teti Host 已按冻结顺序完成 "
        = 0x54 :: (ofString "Teti Host 已按冻结顺序完成 ").tail := by decide +kernel
    intro rest
    have hline : ∃ tail,
        ofString s!"Teti Host 已按冻结顺序完成 {artifacts.length} 个 Child Agent 步骤。"
          = 0x54 :: tail := by
      have happend : ofString s!"Teti Host 已按冻结顺序完成 {artifacts.length} 个 Child Agent 步骤。"
          = ofString "Teti Host 已按冻结顺序完成 " ++ ofString (toString artifacts.length)
            ++ ofString " 个 Child Agent 步骤。" := by
        rw [← ofString_append, ← ofString_append]
        rfl
      rw [happend, hopening]
      exact ⟨_, rfl⟩
    obtain ⟨tail, htail⟩ := hline
    rw [htail]
    cases rest with
    | nil => exact ⟨tail, rfl⟩
    | cons s rest => exact ⟨_, rfl⟩
  obtain ⟨tail, htail⟩ := hheading (artifacts.mapIdx fun index artifact =>
    ofString s!"步骤 {index + 1} 结果：\n" ++ taskArtifactText artifact)
  refine isBlank_of_head (u := 0x54) ?_ (by decide)
  rw [aggregateDelegationText, htail]
  exact head?_truncateUtf8 (by decide) (by decide)

/-! ### Finished executions -/

variable (record : TaskRecord)

/-- The images of the artifact that the host makes of the results of the steps. -/
def aggregatedImages (plan : DelegationPlanState) : List TaskImagePart :=
  (uniqueDelegationImages (intermediateArtifacts record plan)).take 4

/-- The text of the artifact that the host makes of the results of the steps. -/
def aggregatedText (plan : DelegationPlanState) : JsString :=
  aggregateDelegationText (intermediateArtifacts record plan) MAX_TASK_ARTIFACT_TEXT_BYTES

/-- The images that a stage publishes: those of its output, if it is a step of
a plan. -/
def stageImages (output : CallableAdapterTaskArtifact) : List TaskImagePart :=
  if record.delegationPlan.isSome then output.images else []

/-- The artifact of a single-stage execution fits. -/
def SingleStageFits (artifactId : String)
    (output : CallableAdapterTaskArtifact) (completedAt : Timestamp) : Prop :=
  if record.protocolVersion = 1 then
    V1Fits record.request.taskId artifactId output.outputText completedAt
  else V2Fits record.request.taskId artifactId output.outputText output.images completedAt

/-- The aggregated artifact is valid if it fits and its images keep to the
quota of one task. -/
lemma aggregatedArtifact_valid_iff {record : TaskRecord} (hrecord : RecordValid record)
    (htask : safeTaskId record.request.taskId = true) {artifactId : String}
    (hid : safeTaskId artifactId = true) (plan : DelegationPlanState) (completedAt : Timestamp) :
    validateTaskArtifact (aggregatedArtifact record plan artifactId completedAt) = .ok ()
      ↔ V2Fits record.request.taskId artifactId (aggregatedText record plan)
          (aggregatedImages record plan) completedAt
        ∧ imageBytes (aggregatedImages record plan) ≤ MAX_TASK_IMAGE_TOTAL_BYTES := by
  obtain ⟨hdiffer, hmem⟩ := uniqueDelegationImages_spec (intermediateArtifacts record plan)
  refine validate_v2_iff htask hid (aggregateDelegationText_ok _) ?_ ?_ ?_ completedAt
  · intro part hpart
    obtain ⟨artifact, hartifact, hpart⟩ := hmem part (List.mem_of_mem_take hpart)
    exact taskArtifactImages_valid (hrecord.artifacts artifact (List.mem_filter.mp hartifact).1)
      part hpart
  · rw [List.map_take]
    exact hdiffer.sublist (List.take_sublist _ _)
  · rw [MAX_TASK_IMAGE_PARTS, List.length_take]
    exact min_le_left _ _

/-- The request of a stored record has a safe identifier. -/
lemma RecordValid.safeTaskId {record : TaskRecord} (h : RecordValid record) :
    safeTaskId record.request.taskId = true := by
  have hrequest := h.request
  obtain ⟨_, -, hrequest⟩ := except_bind_eq_ok.mp hrequest
  obtain ⟨_, -, hrequest⟩ := except_bind_eq_ok.mp hrequest
  obtain ⟨_, -, hrequest⟩ := except_bind_eq_ok.mp hrequest
  obtain ⟨_, -, hrequest⟩ := except_bind_eq_ok.mp hrequest
  obtain ⟨_, hid, -⟩ := except_bind_eq_ok.mp hrequest
  exact validateSafeId_ok.mp hid

/-- The finish of a single-stage execution goes on to its save where its artifact passes, and
throws before anything of the task has changed where it does not. -/
lemma exec_finishSingleStageExecution {env : Environment} {executionTaskId : String}
    {result : Option CallableAdapterTaskSnapshot} {handle : Option ExecutionHandle}
    {executionEpoch : Nat} {deliver : Bool} {focus : RecordFocus} {w : World} :
    let outcome := singleStageOutcome focus.current result handle executionEpoch
      (env.randomUUID (w.calls + 1)) (env.now w.calls)
    (finishSingleStageExecution env executionTaskId result handle executionEpoch deliver
      focus).exec w = match outcome.validate with
        | .error error => (.error error, w.tick.tick)
        | .ok () =>
          (saveAndDeliver env deliver (focus.set (finishTask focus.current outcome
            (env.now w.calls)))).exec (w.tick.tick.log (.changed focus.current
              (.taskFinished executionTaskId outcome (env.now w.calls)))) := by
  intro outcome
  have hrest : ∀ f : Unit → Runtime RecordFocus,
      (Program.fromExcept outcome.validate >>= f).exec w.tick.tick = match outcome.validate with
        | .error error => (.error error, w.tick.tick)
        | .ok () => (f ()).exec w.tick.tick := by
    intro f
    rw [Program.exec_bind]
    cases outcome.validate <;> rfl
  exact hrest _

/-- **Artifacts of finished executions**: whatever output the adapter accepted,
the artifact that a single-stage execution, a stage, or the aggregation of a
plan is published as passes the validation of the store exactly if its escaped
text fits with its images and identifiers; an aggregated artifact also has to
keep the images of all its steps within the quota of one.  A single-stage task
with such an output is saved as completed where it fits, and else the finish
throws before anything of the task has changed. -/
theorem finished_artifact_valid_iff {record : TaskRecord} (hrecord : RecordValid record)
    (accepted : AcceptedOutput) {artifactId : String} (hid : safeTaskId artifactId = true)
    (completedAt : Timestamp) :
    (validateTaskArtifact (singleStageArtifact record artifactId accepted.output completedAt) = .ok ()
        ↔ SingleStageFits record artifactId accepted.output completedAt)
      ∧ (∀ (env : Environment) (executionTaskId : String) (handle : Option ExecutionHandle)
          (executionEpoch : Nat) (deliver : Bool) (focus : RecordFocus) (w : World),
        focus.current = record → env.randomUUID (w.calls + 1) = artifactId →
        env.now w.calls = completedAt →
        let outcome := SingleStageOutcome.completed
          (singleStageArtifact record artifactId accepted.output completedAt)
        let result := some ⟨.completed, some accepted.output, none⟩
        singleStageOutcome record result handle executionEpoch artifactId completedAt = outcome →
        let finish := finishSingleStageExecution env executionTaskId result handle executionEpoch
          deliver focus
        (SingleStageFits record artifactId accepted.output completedAt →
          finish.exec w = (saveAndDeliver env deliver (focus.set (finishTask record outcome
            completedAt))).exec (w.tick.tick.log (.changed record
              (.taskFinished executionTaskId outcome completedAt))))
          ∧ (¬SingleStageFits record artifactId accepted.output completedAt →
            ∃ error, finish.exec w = (.error error, w.tick.tick)))
      ∧ (validateTaskArtifact (stageArtifact record artifactId accepted.output completedAt) = .ok ()
        ↔ V2Fits record.request.taskId artifactId accepted.output.outputText
            (stageImages record accepted.output) completedAt)
      ∧ ∀ plan, validateTaskArtifact (aggregatedArtifact record plan artifactId completedAt) = .ok ()
        ↔ V2Fits record.request.taskId artifactId (aggregatedText record plan)
            (aggregatedImages record plan) completedAt
          ∧ imageBytes (aggregatedImages record plan) ≤ MAX_TASK_IMAGE_TOTAL_BYTES := by
  have htask := hrecord.safeTaskId
  have hv2 := validate_v2_iff htask hid accepted.text_ok accepted.imagesValid accepted.imagesDiffer
    accepted.imageCount completedAt
  have hsingle : validateTaskArtifact (singleStageArtifact record artifactId accepted.output
      completedAt) = .ok () ↔ SingleStageFits record artifactId accepted.output completedAt := by
    rw [singleStageArtifact, SingleStageFits]
    split_ifs
    · exact validate_v1_iff htask hid accepted.text_ok completedAt
    · exact hv2.trans (and_iff_left accepted.imageQuota)
  refine ⟨hsingle, ?_, ?_, fun plan =>
    aggregatedArtifact_valid_iff hrecord htask hid plan completedAt⟩
  · rintro env executionTaskId handle executionEpoch deliver focus w rfl rfl rfl outcome result
      houtcome finish
    dsimp only [finish]
    rw [exec_finishSingleStageExecution, houtcome]
    refine ⟨fun hfits => ?_, fun hfits => ?_⟩
    · rw [SingleStageOutcome.validate, hsingle.mpr hfits]
    · cases hvalid : validateTaskArtifact _ with
      | error error => exact ⟨error, by rw [SingleStageOutcome.validate, hvalid]⟩
      | ok => exact absurd (hsingle.mp hvalid) hfits
  · rw [stageArtifact, stageImages]
    split_ifs
    · exact hv2.trans (and_iff_left accepted.imageQuota)
    · have htext := validate_v2_iff htask hid accepted.text_ok (List.forall_mem_nil _)
        List.nodup_nil (Nat.zero_le _) completedAt
      exact htext.trans (and_iff_left (by simp [imageBytes]))

/-- A text that the adapter accepts and that takes more room when escaped. -/
def newlines : JsString := 0x78 :: List.replicate 40000 0x0A

lemma utf8Size_replicate_newline (n : Nat) :
    utf8Size (List.replicate n 0x0A) = n ∧ escapeOverhead (List.replicate n 0x0A) = n := by
  induction n with
  | zero => exact ⟨rfl, rfl⟩
  | succ n ih =>
    have hsize : unitSize 0x0A = 1 ∧ escapeOverheadUnit 0x0A = 1 := by decide
    rw [List.replicate_succ, utf8Size_cons_of_not_high (by decide),
      escapeOverhead_cons_of_not_high (by decide), ih.1, ih.2]
    omega

lemma newlines_size : utf8Size newlines = 40001 ∧ escapeOverhead newlines = 40000 := by
  obtain ⟨hsize, hoverhead⟩ := utf8Size_replicate_newline 40000
  have hx : unitSize 0x78 = 1 ∧ escapeOverheadUnit 0x78 = 0 := by decide
  rw [newlines, utf8Size_cons_of_not_high (by decide),
    escapeOverhead_cons_of_not_high (by decide), hsize, hoverhead, hx.1, hx.2]
  exact ⟨by norm_num, by norm_num⟩

def longOutput : AcceptedOutput where
  output := .text newlines
  accepted := by
    rw [validateCallableAdapterArtifactText, failIf_then_eq_ok, failIf_eq_ok]
    refine ⟨?_, ?_⟩
    · have hblank : isBlank newlines = false := isBlank_of_head (u := 0x78) rfl (by decide)
      simp [CallableAdapterTaskArtifact.outputText, hblank]
    · rw [CallableAdapterTaskArtifact.outputText, newlines_size.1]
      decide
  imagesValid := by simp [CallableAdapterTaskArtifact.images]
  imagesDiffer := by simp [CallableAdapterTaskArtifact.images]
  imageCount := by simp [CallableAdapterTaskArtifact.images]
  imageQuota := by simp [CallableAdapterTaskArtifact.images, imageBytes]

/-- A single-stage task that is being executed. -/
def workingRecord : TaskRecord :=
  { sampleTaskRecord with statusRevision := 1, attachmentsReady := true }

lemma workingRecord_valid : RecordValid workingRecord :=
  .of_validateRecord (by decide +kernel)

/-- The adapter accepts the text, and whatever else is the case the finish of
the execution throws and leaves the stored task as it was. -/
theorem accepted_output_not_published :
    validateCallableAdapterArtifactText newlines = .ok ()
      ∧ ∀ (env : Environment) (focus : RecordFocus) (handle : Option ExecutionHandle)
          (executionEpoch : Nat) (deliver : Bool) (w : World), focus.current = workingRecord →
        ∃ error w', (finishSingleStageExecution env "task-1"
            (some ⟨.completed, some longOutput.output, none⟩) handle executionEpoch deliver
            focus).exec w = (.error error, w') ∧ w'.store = w.store := by
  refine ⟨longOutput.accepted, fun env focus handle executionEpoch deliver w hfocus => ?_⟩
  have houtcome : singleStageOutcome focus.current
      (some ⟨.completed, some longOutput.output, none⟩) handle executionEpoch
      (env.randomUUID (w.calls + 1)) (env.now w.calls)
      = .completed (.v2 "task-1" (env.randomUUID (w.calls + 1)) [.text newlines]
          (env.now w.calls)) := by
    rw [hfocus]
    rfl
  have hsize : MAX_TASK_ARTIFACT_BYTES < (CollaborationTaskArtifact.v2 "task-1"
      (env.randomUUID (w.calls + 1)) [.text newlines] (env.now w.calls)).json.encodedSize := by
    have hv2 := encodedSize_v2 "task-1" (env.randomUUID (w.calls + 1)) newlines []
      (env.now w.calls)
    rw [List.map_nil] at hv2
    rw [hv2, artifactTextSize, newlines_size.1, newlines_size.2, MAX_TASK_ARTIFACT_BYTES]
    omega
  have hinvalid : (SingleStageOutcome.completed (.v2 "task-1" (env.randomUUID (w.calls + 1))
      [.text newlines] (env.now w.calls))).validate
      = .error (contractError "Task artifact exceeds the allowed size.") := by
    rw [SingleStageOutcome.validate, validateTaskArtifact, validateTaskArtifactV2, failIf,
      if_pos hsize]
    rfl
  refine ⟨contractError "Task artifact exceeds the allowed size.", w.tick.tick, ?_, rfl⟩
  rw [exec_finishSingleStageExecution, houtcome, hinvalid]

/-- A short output. -/
def shortOutput : AcceptedOutput where
  output := .text (ofString "done")
  accepted := by decide +kernel
  imagesValid := by simp [CallableAdapterTaskArtifact.images]
  imagesDiffer := by simp [CallableAdapterTaskArtifact.images]
  imageCount := by simp [CallableAdapterTaskArtifact.images]
  imageQuota := by simp [CallableAdapterTaskArtifact.images, imageBytes]

/-- A short output is published. -/
theorem finished_artifact_valid_iff_short :
    validateTaskArtifact (singleStageArtifact workingRecord "artifact-1" shortOutput.output 5)
      = .ok () := by
  refine (finished_artifact_valid_iff workingRecord_valid shortOutput (by decide +kernel)
    5).1.mpr ?_
  rw [SingleStageFits, if_neg (by decide), V2Fits]
  decide +kernel

end TetiBot
