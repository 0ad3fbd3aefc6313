import TetiBot.Library.Truncation
import TetiBot.Tasks.Session

/-
What is left of the prompt of a stage.

* `beforeInstruction`: the goal of the task and the results of the stages so far, in front of
  the instruction of the stage; at the first stage nothing.
* `boundedStageInstruction_eq`: the prompt is the three parts, cut at the end.
* `stage_prompt_instruction`: the prompt fits and cuts no character, and it has the whole
  instruction if and only if what comes before leaves room for it.
-/

namespace TetiBot

open Library Library.JsString

/-! ### The parts of a prompt -/

/-- The intermediate results, each under its heading. -/
def priorArtifactsText (record : TaskRecord) : JsString :=
  join (ofString "\n\n") (record.artifacts.mapIdx fun index artifact =>
    ofString s!"阶段 {index + 1} 中间结果:\n" ++ taskArtifactText artifact)

/-- The goal, and the intermediate results if there are any. -/
def promptContext (record : TaskRecord) : List JsString :=
  [ofString "长期协作原始目标:\n" ++ taskInputText record.request.input]
    ++ (if priorArtifactsText record = [] then []
        else [ofString "已保留的中间结果:\n" ++ priorArtifactsText record])

/-- What the prompt of a stage says before its instruction. -/
def beforeInstruction (record : TaskRecord) (stageIndex : Nat) : JsString :=
  if stageIndex = 1 then []
  else join (ofString "\n\n") (promptContext record) ++ ofString "\n\n" ++ ofString "本阶段补充指令:\n"

/-- What the prompt of a stage says after its instruction. -/
def afterInstruction (stageIndex : Nat) : JsString :=
  if stageIndex = 1 then []
  else ofString "\n\n" ++ ofString "仅完成当前阶段；是否继续由 Teti Host 在阶段边界决定。"

section

variable (record : TaskRecord) (instruction : JsString) (stageIndex : Nat)

lemma promptContext_ne_nil : promptContext record ≠ [] := by
  rw [promptContext]
  split_ifs <;> simp

lemma boundedStageInstruction_eq : boundedStageInstruction record instruction stageIndex
    = truncateUtf8 (beforeInstruction record stageIndex ++ instruction ++ afterInstruction stageIndex)
        MAX_TASK_INPUT_TEXT_BYTES := by
  rw [boundedStageInstruction, beforeInstruction, afterInstruction]
  split_ifs with hfirst
  · rw [List.nil_append, List.append_nil]
  · have hparts : ∀ last other : JsString, join (ofString "\n\n") (promptContext record ++ [last, other])
        = join (ofString "\n\n") (promptContext record) ++ ofString "\n\n" ++ last
          ++ ofString "\n\n" ++ other := by
      intro last other
      rw [show promptContext record ++ [last, other] = (promptContext record ++ [last]) ++ [other] by simp,
        join_append_singleton _ (by simp), join_append_singleton _ (promptContext_ne_nil record)]
    have hwhole := hparts (ofString "本阶段补充指令:\n" ++ instruction)
      (ofString "仅完成当前阶段；是否继续由 Teti Host 在阶段边界决定。")
    simp only [List.append_assoc] at hwhole ⊢
    rw [← hwhole, promptContext, priorArtifactsText]
    simp only [List.append_assoc]

lemma afterInstruction_head : ∀ v ∈ (afterInstruction stageIndex).head?, isLow v = false := by
  intro v hv
  rw [afterInstruction] at hv
  split_ifs at hv
  · cases hv
  · obtain rfl : 0x0A = v := Option.some.inj hv
    decide

/-! ### Well-formed prompts -/

lemma wellFormed_beforeInstruction (hgoal : WellFormed (taskInputText record.request.input))
    (hartifacts : ∀ artifact ∈ record.artifacts, WellFormed (taskArtifactText artifact)) :
    WellFormed (beforeInstruction record stageIndex) := by
  have hprior : WellFormed (priorArtifactsText record) := by
    refine WellFormed.join (wellFormed_ofString _) fun text htext => ?_
    obtain ⟨index, hindex, rfl⟩ := List.mem_mapIdx.mp htext
    exact (wellFormed_ofString _).append (hartifacts _ (List.getElem_mem hindex))
  rw [beforeInstruction]
  split_ifs
  · exact wellFormed_nil
  · refine ((WellFormed.join (wellFormed_ofString _) fun text htext => ?_).append
      (wellFormed_ofString _)).append (wellFormed_ofString _)
    rw [promptContext] at htext
    rcases List.mem_append.mp htext with hfirst | hsecond
    · obtain rfl := List.mem_singleton.mp hfirst
      exact (wellFormed_ofString _).append hgoal
    · split_ifs at hsecond
      · cases hsecond
      · obtain rfl := List.mem_singleton.mp hsecond
        exact (wellFormed_ofString _).append hprior

lemma wellFormed_afterInstruction : WellFormed (afterInstruction stageIndex) := by
  rw [afterInstruction]
  split_ifs
  · exact wellFormed_nil
  · exact (wellFormed_ofString _).append (wellFormed_ofString _)

/-! ### The instruction -/

/-- **The prompt of a stage**: it fits, and it is valid text if the goal, the results and the
instruction are.  It has the instruction in full if and only if the instruction, with all that
comes before it, takes no more bytes than a prompt may have. -/
theorem stage_prompt_instruction :
    utf8Size (boundedStageInstruction record instruction stageIndex) ≤ MAX_TASK_INPUT_TEXT_BYTES
    ∧ (WellFormed (taskInputText record.request.input) →
        (∀ artifact ∈ record.artifacts, WellFormed (taskArtifactText artifact)) →
        WellFormed instruction →
        WellFormed (boundedStageInstruction record instruction stageIndex))
    ∧ ((∃ rest, boundedStageInstruction record instruction stageIndex
          = beforeInstruction record stageIndex ++ instruction ++ rest)
        ↔ utf8Size (beforeInstruction record stageIndex ++ instruction)
          ≤ MAX_TASK_INPUT_TEXT_BYTES) := by
  rw [boundedStageInstruction_eq]
  refine ⟨utf8Size_truncateUtf8_le _ _, fun hgoal hartifacts hinstruction => ?_, ?_⟩
  · exact (((wellFormed_beforeInstruction record stageIndex hgoal hartifacts).append
      hinstruction).append (wellFormed_afterInstruction stageIndex)).truncateUtf8 _
  · constructor
    · rintro ⟨rest, hrest⟩
      exact utf8Size_of_prefix_truncateUtf8 ⟨rest, hrest.symm⟩
    · intro hfits
      obtain ⟨rest, hrest⟩ := truncateUtf8_append (afterInstruction_head stageIndex) hfits
      exact ⟨rest, hrest.symm⟩

end

/-! ### A long result -/

/-- A result with a text of 24 KiB. -/
def longResult : CollaborationTaskArtifact :=
  .v2 "task-1" "artifact-1" [.text (List.replicate MAX_TASK_INPUT_TEXT_BYTES 0x61)] 1

/-- A task whose first stage has come to it. -/
def longResultRecord : TaskRecord :=
  { sampleTaskRecord with
    request := { sampleTaskRequest with executionMode := some .longHorizon }
    artifacts := [longResult] }

/-- What stands before the text of the result. -/
def longResultHeading : JsString :=
  ofString "长期协作原始目标:
hi

已保留的中间结果:
阶段 1 中间结果:
"

lemma longResultHeading_isPrefix :
    longResultHeading ++ List.replicate MAX_TASK_INPUT_TEXT_BYTES 0x61
      <+: beforeInstruction longResultRecord 2 := by
  have hprior : priorArtifactsText longResultRecord = ofString "阶段 1 中间结果:\n"
      ++ List.replicate MAX_TASK_INPUT_TEXT_BYTES 0x61 := by
    rw [priorArtifactsText]
    rfl
  have hne : priorArtifactsText longResultRecord ≠ [] := by
    rw [hprior]
    exact List.append_ne_nil_of_left_ne_nil (by decide) _
  have hheading : longResultHeading = ofString "长期协作原始目标:\n" ++ ofString "hi"
      ++ ofString "\n\n" ++ (ofString "已保留的中间结果:\n" ++ ofString "阶段 1 中间结果:\n") := by
    decide
  rw [beforeInstruction, if_neg (by decide), promptContext, if_neg hne, hprior, hheading]
  refine ⟨ofString "\n\n" ++ ofString "本阶段补充指令:\n", ?_⟩
  simp only [List.singleton_append, join, List.append_assoc]
  rfl

/-- The prompt of the second stage has no word of its instruction. -/
theorem stage_prompt_without_instruction :
    ¬∃ front rest, boundedStageInstruction longResultRecord (ofString "Next") 2
      = front ++ ofString "Next" ++ rest := by
  rintro ⟨front, rest, hprompt⟩
  have hbefore : beforeInstruction longResultRecord 2
      <+: beforeInstruction longResultRecord 2 ++ ofString "Next" ++ afterInstruction 2 := by
    rw [List.append_assoc]
    exact List.prefix_append _ _
  have hlarge : MAX_TASK_INPUT_TEXT_BYTES
      < utf8Size (longResultHeading ++ List.replicate MAX_TASK_INPUT_TEXT_BYTES 0x61) := by
    have hascii : ∀ u ∈ List.replicate MAX_TASK_INPUT_TEXT_BYTES 0x61, u < (0x80 : UInt16) :=
      fun u hu => List.eq_of_mem_replicate hu ▸ by decide
    have hheading : 0 < utf8Size longResultHeading := by decide
    rw [utf8Size_append, utf8Size_ascii hascii, List.length_replicate]
    · omega
    · intro v hv
      exact List.eq_of_mem_replicate (List.mem_of_mem_head? hv) ▸ by decide
  -- the prompt ends within the text of the result
  have hcut := truncateUtf8_isPrefix_of_lt (longResultHeading_isPrefix.trans hbefore) hlarge
  rw [← boundedStageInstruction_eq, hprompt] at hcut
  have hmem : (0x4E : UInt16) ∈ front ++ ofString "Next" ++ rest :=
    List.mem_append_left _ (List.mem_append_right _ (by decide))
  rcases List.mem_append.mp (hcut.subset hmem) with hheading | htext
  · exact absurd hheading (by decide)
  · exact absurd (List.eq_of_mem_replicate htext) (by decide)

end TetiBot
