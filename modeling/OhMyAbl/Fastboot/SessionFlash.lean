/-
  **What the flash commands of a session pass to the flash routines.**

  `CmdFlash` exchanges the two halves of the buffer, takes the count of the last download
  command over, and hands this one image to a routine.  `HandsOver` says so for the whole
  command; along a session it turns facts about the download buffer into facts about the
  images that are passed.
-/
import OhMyAbl.Fastboot.Download
import OhMyAbl.Fastboot.FlashTargets
import OhMyAbl.Fastboot.FlashLun

namespace OhMyAbl

open Prog

/-! ### What CmdFlash hands over -/

def flashCall (s : FlashState) : FlashCall := ⟨s.flashDataBuffer, s.flashNumDataBytes, s.image⟩

structure SameBuffers (s s' : FlashState) : Prop where
  usbDataBuffer : s'.usbDataBuffer = s.usbDataBuffer
  flashDataBuffer : s'.flashDataBuffer = s.flashDataBuffer
  numDataBytes : s'.numDataBytes = s.numDataBytes
  flashNumDataBytes : s'.flashNumDataBytes = s.flashNumDataBytes

variable {s s' : FlashState}

theorem SameBuffers.trans {s'' : FlashState} (h : SameBuffers s s') (h' : SameBuffers s' s'') :
    SameBuffers s s'' :=
  ⟨h'.usbDataBuffer.trans h.usbDataBuffer, h'.flashDataBuffer.trans h.flashDataBuffer,
    h'.numDataBytes.trans h.numDataBytes, h'.flashNumDataBytes.trans h.flashNumDataBytes⟩

theorem KeepsDownload.sameBuffers (h : KeepsDownload s s') : SameBuffers s s' :=
  ⟨h.usbDataBuffer, h.flashDataBuffer, h.numDataBytes, h.flashNumDataBytes⟩

/-- A new job is one for a thread, with the buffer that is flashed. -/
def JobsGiven (env : FlashEnv) (s s' : FlashState) : Prop :=
  ∀ job ∈ s'.jobs, job ∈ s.jobs ∨
    env.isUseMThreadParallel = true ∧ job.flashDataBuffer = s.flashDataBuffer

/-- Nothing but the image in the flash buffer is handed over, to a routine or to a thread, and
    memory is changed afterwards at most. -/
structure HandsOver (env : FlashEnv) (s s' : FlashState) : Prop where
  same : SameBuffers s s'
  calls : ∃ k, s'.calls = s.calls ++ List.replicate k (flashCall s)
  jobs : JobsGiven env s s'

structure KeepsImage (env : FlashEnv) (s s' : FlashState) : Prop extends HandsOver env s s' where
  memory : s'.memory = s.memory

structure KeepsCalls (s s' : FlashState) : Prop where
  same : SameBuffers s s'
  calls : s'.calls = s.calls
  jobs : s'.jobs = s.jobs

section HandsOver

variable {env : FlashEnv} {name : Text} {α : Type} {s s' s'' : FlashState} {P : Target → Prop}
  {m : FlashProg α} {arg : List UInt8}

theorem jobsGiven_of_eq (h : s'.jobs = s.jobs) : JobsGiven env s s' :=
  fun _ hjob => .inl (h ▸ hjob)

theorem keepsImage_of_eq (hs : SameBuffers s s') (hm : s'.memory = s.memory)
    (hc : s'.calls = s.calls) (hj : s'.jobs = s.jobs) : KeepsImage env s s' :=
  ⟨⟨hs, ⟨0, by rw [hc, List.replicate_zero, List.append_nil]⟩, jobsGiven_of_eq hj⟩, hm⟩

theorem KeepsDownload.keepsImage (h : KeepsDownload s s') : KeepsImage env s s' :=
  keepsImage_of_eq h.sameBuffers h.memory h.calls h.jobs

theorem KeepsDownload.keepsCalls (h : KeepsDownload s s') : KeepsCalls s s' :=
  ⟨h.sameBuffers, h.calls, h.jobs⟩

theorem KeepsImage.flashCall_eq (h : KeepsImage env s s') : flashCall s' = flashCall s := by
  simp [flashCall, FlashState.image, h.same.flashDataBuffer, h.same.flashNumDataBytes, h.memory]

theorem HandsOver.after (h : KeepsImage env s s') (h' : HandsOver env s' s'') :
    HandsOver env s s'' := by
  obtain ⟨k, hk⟩ := h.calls
  obtain ⟨k', hk'⟩ := h'.calls
  refine ⟨h.same.trans h'.same, ⟨k + k', ?_⟩, fun job hjob => ?_⟩
  · rw [hk', hk, h.flashCall_eq, List.append_assoc, List.replicate_append_replicate]
  · rcases h'.jobs job hjob with hjob | ⟨hthreads, hbuffer⟩
    · exact h.jobs job hjob
    · exact .inr ⟨hthreads, hbuffer.trans h.same.flashDataBuffer⟩

instance : Std.Refl (KeepsImage env) := ⟨fun s => (refl_of KeepsDownload s).keepsImage⟩

instance : IsTrans FlashState (KeepsImage env) where
  trans _ _ _ h h' := ⟨.after h h'.toHandsOver, h'.memory.trans h.memory⟩

instance : Std.Refl KeepsCalls := ⟨fun s => (refl_of KeepsDownload s).keepsCalls⟩

instance : IsTrans FlashState KeepsCalls where
  trans _ _ _ h h' := ⟨h.same.trans h'.same, h'.calls.trans h.calls, h'.jobs.trans h.jobs⟩

theorem KeepsImage.then_calls (h : KeepsImage env s s') (h' : KeepsCalls s' s'') :
    HandsOver env s s'' := by
  obtain ⟨k, hk⟩ := h.calls
  exact ⟨h.same.trans h'.same, ⟨k, h'.calls.trans hk⟩, fun job hjob => h.jobs job (h'.jobs ▸ hjob)⟩

theorem StorageStep.keepsDownload {c : Prop} (h : StorageStep P c s s') : KeepsDownload s s' := by
  obtain ⟨slots, disks, msg, state, new, n, rs, rfl, -⟩ := h
  exact ⟨rfl, rfl, rfl, rfl, rfl, rfl, rfl, rfl, rfl⟩

theorem StorageSteps.keepsDownload (hm : Steps (StorageStep (fun _ => True) True) m) :
    Steps KeepsDownload m :=
  hm.mono fun _ _ h => h.keepsDownload

theorem KeepsDownloadSteps.keepsImage (hm : Steps KeepsDownload m) : Steps (KeepsImage env) m :=
  hm.mono fun _ _ h => h.keepsImage

theorem handOver_keepsImage : Steps (KeepsImage env) handOver :=
  .modify fun _ => ⟨⟨⟨rfl, rfl, rfl, rfl⟩, ⟨1, rfl⟩, jobsGiven_of_eq rfl⟩, rfl⟩

theorem checkCommand_keepsDownload {action : String} :
    Steps KeepsDownload (checkCommand env action name) :=
  steps_of_wp fun s => wp_mono (checkCommand_spec (P := fun _ => True) s fun _ _ => trivial)
    (fun _ _ h => h.1.step.keepsDownload) fun _ _ h => h.keepsDownload

theorem flashOut_keepsDownload (arg : List UInt8) : Steps KeepsDownload (flashOut arg) :=
  .modify fun _ => ⟨rfl, rfl, rfl, rfl, rfl, rfl, rfl, rfl, rfl⟩

theorem answerKey_keepsDownload (status : EfiStatus) (text : String) :
    Steps KeepsDownload (answerKey status text) :=
  .ite (fail_keepsDownload _) (okay_keepsDownload _)

/-! ### Images and tables -/

theorem ImageStep.keepsImage {J : Text → Prop} (h : ImageStep env P J s s') :
    KeepsImage env s s' := by
  cases h with
  | storage h => exact h.keepsDownload.keepsImage
  | note => exact keepsImage_of_eq ⟨rfl, rfl, rfl, rfl⟩ rfl rfl rfl
  | handOver => exact handOver_keepsImage s
  | job n hthreads _ =>
    refine ⟨⟨⟨rfl, rfl, rfl, rfl⟩, ⟨0, (List.append_nil _).symm⟩, fun job hjob => ?_⟩, rfl⟩
    rcases List.mem_append.mp hjob with hjob | hjob
    · exact .inl hjob
    · rw [List.mem_singleton.mp hjob]
      exact .inr ⟨hthreads, rfl⟩

theorem flashImage_keepsImage : Steps (KeepsImage env) (flashImage env name) :=
  flashImage_any.mono (Relation.reflTransGen_le_of_le fun _ _ h => h.keepsImage)

theorem TableEnd.keepsDownload (h : TableEnd s s') : KeepsDownload s s' := by
  obtain ⟨lunSet, ptable, slots, n, rs, rfl⟩ := h
  exact ⟨rfl, rfl, rfl, rfl, rfl, rfl, rfl, rfl, rfl⟩

theorem partitionDump_keepsDownload : Steps KeepsDownload partitionDump :=
  partitionDump_table.mono fun _ _ h => h.keepsDownload

theorem finishTable_keepsDownload (status : EfiStatus) :
    Steps KeepsDownload (finishTable env status) :=
  (finishTable_table status).mono fun _ _ h => h.keepsDownload

theorem updateLunTable_keepsCalls {addr sz : Nat} :
    Steps KeepsCalls (updateLunTable env addr sz) := by
  refine .bind .get fun _ => .bind (.modify fun _ => ⟨⟨rfl, rfl, rfl, rfl⟩, rfl, rfl⟩) fun _ =>
    .bind (.modify fun _ => ⟨⟨rfl, rfl, rfl, rfl⟩, rfl, rfl⟩) fun _ => .ite (.throw _) ?_
  exact .zoom_any fun _ _ => ⟨⟨rfl, rfl, rfl, rfl⟩, rfl, rfl⟩

theorem writeTable_handsOver (s : FlashState) : HandsOver env s ((writeTable env).exec s).2 := by
  refine wp_final (R := HandsOver env s) ?_
  simp only [writeTable, handOver, wp_bind, wp_get, wp_modify]
  have hstart : KeepsImage env s (handed s) := handOver_keepsImage s
  have hrest : Steps KeepsCalls (updateLunTable env s.flashDataBuffer s.flashNumDataBytes >>=
      finishTable env) :=
    .bind updateLunTable_keepsCalls fun _ =>
      (finishTable_keepsDownload _).mono fun _ _ h => h.keepsCalls
  rw [← wp_bind]
  exact wp_of_final (hstart.then_calls (hrest (handed s)))

theorem selectTableLun_keepsDownload : Steps KeepsDownload (selectTableLun env) := by
  refine .modify fun s => ?_
  cases env.slots.rootDeviceType with
  | EMMC => exact ⟨rfl, rfl, rfl, rfl, rfl, rfl, rfl, rfl, rfl⟩
  | UFS => exact ⟨rfl, rfl, rfl, rfl, rfl, rfl, rfl, rfl, rfl⟩
  | NAND => exact refl_of KeepsDownload s
  | UNKNOWN => exact refl_of KeepsDownload s

theorem flashTable_handsOver (s : FlashState) :
    HandsOver env s ((flashTable env name).exec s).2 := by
  have hmibib : Steps (KeepsImage env) (writeMibib env name) := by
    refine .bind .get fun _ => .ite (.bind handOver_keepsImage fun _ => .bind ?_ fun _ => ?_) ?_
    · exact KeepsDownloadSteps.keepsImage
        (StorageSteps.keepsDownload (handleRawImgFlash_steps permits_any))
    · exact KeepsDownloadSteps.keepsImage (finishTable_keepsDownload _)
    · exact KeepsDownloadSteps.keepsImage (fail_keepsDownload _)
  have hbefore : Steps (KeepsImage env) (selectTableLun env >>= fun _ => partitionDump) :=
    KeepsDownloadSteps.keepsImage
      (.bind selectTableLun_keepsDownload fun _ => partitionDump_keepsDownload)
  refine wp_final (R := HandsOver env s) ?_
  simp only [flashTable, wp_bind]
  rw [← wp_bind]
  refine wp_mono (wp_of_steps hbefore) (fun _ s' h => wp_of_final ?_) fun _ _ h => h.toHandsOver
  refine HandsOver.after h ?_
  split
  · exact (hmibib s').toHandsOver
  · exact writeTable_handsOver s'

theorem flashNamed_handsOver (s : FlashState) :
    HandsOver env s ((flashNamed env arg name).exec s).2 := by
  unfold flashNamed
  split
  · refine wp_final (R := HandsOver env s) ?_
    refine wp_seq (wp_of_final (flashTable_handsOver s)) fun _ s' h => ?_
    exact ⟨⟨h.same.1, h.same.2, h.same.3, h.same.4⟩, h.calls, h.jobs⟩
  · have himage : Steps (KeepsImage env)
      (flashImage env name >>= fun goesOn => when goesOn (flashOut arg)) :=
      .bind flashImage_keepsImage fun _ =>
        .when (KeepsDownloadSteps.keepsImage (flashOut_keepsDownload arg))
    exact (himage s).toHandsOver

theorem flashWithLun_handsOver (s : FlashState) :
    HandsOver env s ((flashWithLun env arg name).exec s).2 := by
  unfold flashWithLun
  cases lunOf name with
  | none => exact flashNamed_handsOver s
  | some lun =>
    refine wp_final (R := HandsOver env s) ?_
    simp only [wp_bind, wp_ite]
    refine ⟨fun _ => ⟨⟨rfl, rfl, rfl, rfl⟩, ⟨0, (List.append_nil _).symm⟩, jobsGiven_of_eq rfl⟩,
      fun _ => wp_of_final ?_⟩
    have hlun : KeepsImage env s { s with lun := lun, lunSet := true } :=
      keepsImage_of_eq ⟨rfl, rfl, rfl, rfl⟩ rfl rfl rfl
    exact HandsOver.after hlun (flashNamed_handsOver _)

theorem cmdFlash_handsOver (s : FlashState) :
    HandsOver env (exchanged s) ((cmdFlash env arg).exec s).2 := by
  refine wp_final (R := HandsOver env (exchanged s)) ?_
  have hsame : ∀ {s'}, KeepsDownload (exchanged s) s' → HandsOver env (exchanged s) s' :=
    fun h => h.keepsImage.toHandsOver
  simp only [cmdFlash, wp_bind, wp_ite]
  refine ⟨fun _ => hsame (fail_keepsDownload _ (exchanged s)), fun _ => ⟨fun _ =>
    hsame (fail_keepsDownload _ (exchanged s)), fun _ => ?_⟩⟩
  refine wp_mono (wp_of_steps checkCommand_keepsDownload) (fun _ s' h => ?_) fun _ _ h => hsame h
  refine ⟨fun _ => hsame h, fun _ => ⟨fun _ => wp_of_final ?_, fun _ => wp_of_final ?_⟩⟩
  · exact HandsOver.after h.keepsImage (answerKey_keepsDownload _ _ s').keepsImage.toHandsOver
  · exact HandsOver.after h.keepsImage (flashWithLun_handsOver s')

/-! ### The other commands that write storage -/

theorem cmdErase_keepsDownload : Steps KeepsDownload (cmdErase env arg) :=
  .ite (fail_keepsDownload _) (.bind checkCommand_keepsDownload fun _ => .ite (.pure _)
    (.ite (answerKey_keepsDownload _ _)
      (StorageSteps.keepsDownload (eraseNamed_steps permits_any))))

structure KeepsBuffers (s s' : FlashState) : Prop where
  same : SameBuffers s s'
  memory : s'.memory = s.memory
  calls : s'.calls = s.calls
  jobs : ∀ job ∈ s'.jobs, job ∈ s.jobs

theorem KeepsDownload.keepsBuffers (h : KeepsDownload s s') : KeepsBuffers s s' :=
  ⟨h.sameBuffers, h.memory, h.calls, fun _ hjob => h.jobs ▸ hjob⟩

instance : Std.Refl KeepsBuffers := ⟨fun s => (refl_of KeepsDownload s).keepsBuffers⟩

instance : IsTrans FlashState KeepsBuffers where
  trans _ _ _ h h' := ⟨h.same.trans h'.same, h'.memory.trans h.memory, h'.calls.trans h.calls,
    fun job hjob => h.jobs job (h'.jobs job hjob)⟩

theorem sparseImgFlashThread_keepsBuffers {job : FlashInfo} :
    Steps KeepsBuffers (sparseImgFlashThread env job) := by
  have hset : ∀ b : Bool, Steps KeepsBuffers
      (modify fun s => { s with isFlashComplete := b } : FlashProg PUnit) :=
    fun _ => .modify fun _ => ⟨⟨rfl, rfl, rfl, rfl⟩, rfl, rfl, fun _ hjob => hjob⟩
  refine .ite (.pure _) (.bind (hset _) fun _ => .bind ?_ fun _ => hset _)
  exact (StorageSteps.keepsDownload (sparseImgFlash_steps fun _ _ => trivial)).mono
    fun _ _ h => h.keepsBuffers

end HandsOver

end OhMyAbl
