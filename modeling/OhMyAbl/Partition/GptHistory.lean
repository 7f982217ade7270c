/-
  **Whether an update accepts an image, after other updates.**

  `WriteGpt` sets the file's flag ParseSecondaryGpt before it parses the backup header, and nothing
  resets it.  `ParseGptHeader` compares the block a header names as its own only while the flag is
  not set.
-/
import OhMyAbl.Partition.GptUpdate

namespace OhMyAbl

open Prog

/-! ### The checks of an update -/

def DeviceFound (env : GptEnv) : Prop :=
  u32 env.getStorageHandle.toNat = 0 ∧ env.maxHandles = 1

/-- An update accepts an image: it gets to `WriteGpt`, which finds the device and nothing wrong
    with the image. -/
def AcceptsImage (env : GptEnv) (sz : Nat) (s : GptState) : Prop :=
  partitionGetType s.image sz = some true ∧ DeviceFound env ∧
    ∃ checked s', (checkGpt env sz).exec { s with flashingGpt := true } = (.ok checked, s')

structure ReachesBackup (env : GptEnv) (sz : Nat) (s : GptState) : Prop extends
    PrimaryAccepted env sz s where
  type : partitionGetType s.image sz = some true
  found : DeviceFound env

section Checks

variable {env : GptEnv} {s : GptState} {sz : Nat}

def SameFlag (s s' : GptState) : Prop := s'.parseSecondaryGpt = s.parseSecondaryGpt

instance : Std.Refl SameFlag := ⟨fun _ => rfl⟩

instance : IsTrans GptState SameFlag := ⟨fun _ _ _ h h' => h'.trans h⟩

theorem putImage_sameFlag (a n v : Nat) : Steps SameFlag (putImage a n v) := .modify fun _ => rfl

theorem writeFromImage_sameFlag {lba size src : Nat} :
    Steps SameFlag (writeFromImage env lba size src) :=
  .bind .get fun _ => .bind (.call (.zoom_any fun _ _ => rfl)) fun _ => failIf_steps

theorem commitGpt_sameFlag {checked : Nat × GptHeaderData} :
    Steps SameFlag (commitGpt env sz checked) := by
  refine .bind (.bind ?_ fun _ => .bind ?_ fun _ => ?_) fun _ => .bind ?_ fun _ => .bind ?_ fun _ =>
    ?_
  · exact .bind (putImage_sameFlag _ _ _) fun _ => .bind (putImage_sameFlag _ _ _) fun _ =>
      .bind (putImage_sameFlag _ _ _) fun _ => .bind (putImage_sameFlag _ _ _) fun _ =>
      putImage_sameFlag _ _ _
  · exact .bind .get fun _ => .bind (putImage_sameFlag _ _ _) fun _ => putImage_sameFlag _ _ _
  · exact patchCrcs_steps fun _ _ => putImage_sameFlag _ _ _
  · exact .bind failIf_steps fun _ => .bind failIf_steps fun _ => .modify fun _ => rfl
  · exact .bind .get fun _ => .bind writeFromImage_sameFlag fun _ =>
      .bind writeFromImage_sameFlag fun _ => .bind writeFromImage_sameFlag fun _ =>
      .bind writeFromImage_sameFlag fun _ => writeFromImage_sameFlag
  · exact .bind (.call (.zoom_any fun _ _ => rfl)) fun _ => .bind failIf_steps fun _ =>
      .bind (.modify fun _ => rfl) fun _ => .pure _

theorem checkGpt_flag (hfound : DeviceFound env)
    (htype : partitionGetType s.image sz = some true) :
    wp (checkGpt env sz)
      (fun _ s' => ReachesBackup env sz s ∧ s'.parseSecondaryGpt = true)
      (fun _ s' => s'.parseSecondaryGpt = true ↔
        s.parseSecondaryGpt = true ∨ ReachesBackup env sz s)
      { s with flashingGpt := true } := by
  have hreaches : PrimaryAccepted env sz { s with flashingGpt := true } → ReachesBackup env sz s :=
    fun h => ⟨⟨h.density, h.size, h.primary⟩, htype, hfound⟩
  refine wp_mono checkGpt_spec ?_ ?_
  · rintro _ _ ⟨-, rfl, hprimary, -⟩
    exact ⟨hreaches hprimary, rfl⟩
  · rintro _ s' (⟨hrefused, hnot⟩ | ⟨hrefused, hprimary, -⟩)
    · rw [hrefused.flag, or_iff_left]
      exact fun h => hnot ⟨h.density, h.size, h.primary⟩
    · exact iff_of_true hrefused.flag (.inr (hreaches hprimary))

theorem accepts_iff : AcceptsImage env sz s ↔ DeviceFound env ∧ ImageAccepted env sz s := by
  constructor
  · rintro ⟨htype, hfound, checked, s', hexec⟩
    obtain ⟨-, -, hprimary, hbackup⟩ := wp_ok checkGpt_spec hexec
    exact ⟨hfound, ⟨hprimary.density, hprimary.size, hprimary.primary⟩, htype, hbackup⟩
  · rintro ⟨hfound, hprimary, htype, hbackup⟩
    have hruns : wp (checkGpt env sz) (fun _ _ => True) noExit
        { s with flashingGpt := true } := by
      refine wp_mono checkGpt_spec (fun _ _ _ => trivial) ?_
      rintro _ _ (⟨-, hnot⟩ | ⟨-, -, hnot⟩)
      · exact hnot ⟨hprimary.density, hprimary.size, hprimary.primary⟩
      · exact hnot hbackup
    obtain ⟨checked, s', hexec, -⟩ := wp_returns hruns
    exact ⟨htype, hfound, checked, s', hexec⟩

theorem updatePartitionTable_flag (env : GptEnv) (sz : Nat) (s : GptState) :
    ((updatePartitionTable env sz).exec s).2.parseSecondaryGpt = true ↔
      s.parseSecondaryGpt = true ∨ ReachesBackup env sz s := by
  suffices hwp : wp (updatePartitionTable env sz)
      (fun _ s' => s'.parseSecondaryGpt = true ↔
        s.parseSecondaryGpt = true ∨ ReachesBackup env sz s)
      (fun _ s' => s'.parseSecondaryGpt = true ↔
        s.parseSecondaryGpt = true ∨ ReachesBackup env sz s) s from
    wp_final (R := fun s' : GptState => s'.parseSecondaryGpt = true ↔
      s.parseSecondaryGpt = true ∨ ReachesBackup env sz s) hwp
  unfold updatePartitionTable
  rw [wp_bind, wp_get]
  cases htype : partitionGetType s.image sz with
  | none => exact (or_iff_left fun h => absurd (h.type.symm.trans htype) (by simp)).symm
  | some gpt =>
    cases gpt with
    | false => exact (or_iff_left fun h => absurd (h.type.symm.trans htype) (by simp)).symm
    | true =>
      rw [wp_bind, wp_modify, wp_bind, writeGpt, wp_ite]
      constructor
      · intro hnone
        refine (or_iff_left fun h => ?_).symm
        exact hnone.elim (fun hstatus => hstatus h.found.1) fun hmany => hmany h.found.2
      · intro hone
        rw [not_or, not_not, not_not] at hone
        rw [wp_block, writeGptTo, wp_bind]
        refine wp_mono (checkGpt_flag hone htype) ?_ fun j s' h => ?_
        · rintro checked s₁ ⟨hreaches, hset⟩
          have hkeeps : ∀ {s'}, SameFlag s₁ s' → (s'.parseSecondaryGpt = true ↔
              s.parseSecondaryGpt = true ∨ ReachesBackup env sz s) := fun hflag =>
            iff_of_true (Eq.trans hflag hset) (.inr hreaches)
          refine wp_mono (wp_of_steps commitGpt_sameFlag) (fun _ _ h => hkeeps h) ?_
          rintro (_ | _) s' h
          · exact hkeeps h
          · exact hkeeps h
        · rcases j with _ | _
          · exact h
          · exact h

end Checks

/-! ### Histories -/

/-- One call of `UpdatePartitionTable`: the image in its buffer, and the LUN with its device. -/
structure GptCall where
  env : GptEnv
  sz : Nat
  image : Bytes
  disk : Disk

/-- What stays between calls: the two flags of the file, both FALSE at first. -/
structure GptFlags where
  parseSecondaryGpt : Bool
  flashingGpt : Bool

def initialFlags : GptFlags := ⟨false, false⟩

namespace GptCall

def start (c : GptCall) (f : GptFlags) : GptState :=
  ⟨c.image, f.parseSecondaryGpt, f.flashingGpt, c.disk⟩

def run (c : GptCall) (f : GptFlags) : Except Exit EfiStatus × GptState :=
  (updatePartitionTable c.env c.sz).exec (c.start f)

def flagsAfter (f : GptFlags) (c : GptCall) : GptFlags :=
  ⟨(c.run f).2.parseSecondaryGpt, (c.run f).2.flashingGpt⟩

/-- The primary header names block one as its own, as far as the code looks. -/
def NamesBlockOne (c : GptCall) : Prop :=
  u32 (c.image.u64At (c.env.blockIo.blockSize + PRIMARY_HEADER_OFFSET)) = GPT_LBA

def AcceptedButBlock (c : GptCall) : Prop :=
  DeviceFound c.env ∧ ImageAccepted c.env c.sz (c.start ⟨true, false⟩)

end GptCall

def afterCalls (calls : List GptCall) : GptFlags := calls.foldl GptCall.flagsAfter initialFlags

section History

variable {f : GptFlags} {c : GptCall}

theorem flagsAfter_parseSecondary :
    (GptCall.flagsAfter f c).parseSecondaryGpt = true ↔
      f.parseSecondaryGpt = true ∨ ReachesBackup c.env c.sz (c.start initialFlags) := by
  rw [GptCall.flagsAfter, GptCall.run, updatePartitionTable_flag]
  obtain ⟨flag, flashing⟩ := f
  cases flag with
  | true => exact iff_of_true (.inl rfl) (.inl rfl)
  | false =>
    apply or_congr Iff.rfl
    constructor
    · rintro ⟨⟨hdensity, hsize, hprimary⟩, htype, hfound⟩
      exact ⟨⟨hdensity, hsize, hprimary⟩, htype, hfound⟩
    · rintro ⟨⟨hdensity, hsize, hprimary⟩, htype, hfound⟩
      exact ⟨⟨hdensity, hsize, hprimary⟩, htype, hfound⟩

theorem afterCalls_flag (calls : List GptCall) : ∀ f : GptFlags,
    (calls.foldl GptCall.flagsAfter f).parseSecondaryGpt = true ↔
      f.parseSecondaryGpt = true ∨
        ∃ c ∈ calls, ReachesBackup c.env c.sz (c.start initialFlags) := by
  induction calls with
  | nil =>
    intro f
    simp
  | cons c calls ih =>
    intro f
    rw [List.foldl_cons, ih, flagsAfter_parseSecondary, or_assoc]
    simp

theorem accepts_start : AcceptsImage c.env c.sz (c.start f) ↔
    c.AcceptedButBlock ∧ (f.parseSecondaryGpt = false → c.NamesBlockOne) := by
  rw [accepts_iff]
  constructor
  · rintro ⟨hfound, ⟨hdensity, hsize, hprimary⟩, htype, hbackup⟩
    exact ⟨⟨hfound, ⟨hdensity, hsize, { hprimary with myLba := nofun }⟩, htype, hbackup⟩,
      hprimary.myLba⟩
  · rintro ⟨⟨hfound, ⟨hdensity, hsize, hprimary⟩, htype, hbackup⟩, hblock⟩
    exact ⟨hfound, ⟨hdensity, hsize, { hprimary with myLba := hblock }⟩, htype, hbackup⟩

end History

/-- **Acceptance after a history.**  A sequence of earlier updates leaves the verdict on an image
    what it is on the first call exactly if none of them got to a backup header, or the primary
    header of the image names block one, or the image is refused for another reason. -/
theorem accepts_afterCalls_iff (c : GptCall) (earlier : List GptCall) :
    (AcceptsImage c.env c.sz (c.start (afterCalls earlier)) ↔
        AcceptsImage c.env c.sz (c.start initialFlags)) ↔
      (∀ e ∈ earlier, ¬ ReachesBackup e.env e.sz (e.start initialFlags)) ∨ c.NamesBlockOne ∨
        ¬ c.AcceptedButBlock := by
  have hflag := afterCalls_flag earlier initialFlags
  rw [or_iff_right (by decide : ¬ initialFlags.parseSecondaryGpt = true)] at hflag
  rw [accepts_start, accepts_start]
  by_cases hset : (afterCalls earlier).parseSecondaryGpt = true
  · obtain ⟨e, he, hreaches⟩ := hflag.mp hset
    have hnot : ¬ ∀ e ∈ earlier, ¬ ReachesBackup e.env e.sz (e.start initialFlags) :=
      fun h => h e he hreaches
    rw [or_iff_right hnot]
    have hskips : (afterCalls earlier).parseSecondaryGpt = false → c.NamesBlockOne :=
      fun hclear => absurd (hset.symm.trans hclear) (by decide)
    have hlooks : (initialFlags.parseSecondaryGpt = false → c.NamesBlockOne) ↔ c.NamesBlockOne :=
      ⟨fun h => h rfl, fun h _ => h⟩
    rw [and_iff_left hskips, hlooks]
    constructor
    · intro hsame
      by_cases haccepted : c.AcceptedButBlock
      · exact .inl (hsame.mp haccepted).2
      · exact .inr haccepted
    · rintro (hblock | hrefused)
      · exact (and_iff_left hblock).symm
      · exact iff_of_false hrefused fun h => hrefused h.1
  · have hnone : ∀ e ∈ earlier, ¬ ReachesBackup e.env e.sz (e.start initialFlags) :=
      fun e he hreaches => hset (hflag.mpr ⟨e, he, hreaches⟩)
    have hclear : (afterCalls earlier).parseSecondaryGpt = initialFlags.parseSecondaryGpt :=
      Bool.eq_false_iff.mpr hset
    rw [hclear]
    exact iff_of_true Iff.rfl (.inl hnone)

/-- A call with the sample table, and one whose primary header says that it stands at block two. -/
def goodCall : GptCall := ⟨sampleGptEnv, 34304, protectedState.image, sampleGptState.disk⟩

def blockTwoCall : GptCall :=
  { goodCall with
    image := protectedState.image.overwrite 512 GPT_HEADER_SIZE (sampleHeader 704356120 2 999 2) }

/-- The second image is refused on the first call and flashed after the other one. -/
theorem blockTwo_accepted_later :
    (blockTwoCall.run initialFlags).1 = .ok EFI_VOLUME_CORRUPTED ∧
      ¬ AcceptsImage sampleGptEnv 34304 (blockTwoCall.start initialFlags) ∧
      (blockTwoCall.run (afterCalls [goodCall])).1 = .ok EFI_SUCCESS ∧
      AcceptsImage sampleGptEnv 34304 (blockTwoCall.start (afterCalls [goodCall])) := by
  refine ⟨by decide +kernel, ?_, by decide +kernel, ?_⟩
  · rw [accepts_iff]
    rintro ⟨-, haccepted⟩
    exact absurd (haccepted.primary.myLba rfl) (by decide +kernel)
  · refine accepts_iff.mpr ⟨⟨rfl, rfl⟩, ⟨by decide, by decide, ?_⟩, by decide +kernel, ?_⟩
    · decide +kernel
    · decide +kernel

end OhMyAbl
