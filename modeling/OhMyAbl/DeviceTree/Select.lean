/-
  **The choice of a device tree and of an overlay.**

  `GetSocDtb` walks over the trees that lie one after the other in an image, `GetBoardDtb` over the
  overlays that the table of a DTBO image lists.  The result of either is a tree that ended with the
  bit it asks for, and whatever tree is selectable is the result for some image.
-/
import OhMyAbl.DeviceTree.Fits

namespace OhMyAbl

structure DtGlobals where
  dtbIdx : Int := -1
  dtboIdx : Int := -1
  dtboNeed : Bool := true
  deriving Repr, DecidableEq

def ALL_BITS_SET : Nat :=
  BIT SOC_MATCH ||| BIT VARIANT_MATCH ||| BIT SUBTYPE_EXACT_MATCH ||| BIT FOUNDRYID_EXACT_MATCH |||
    (List.range 16).foldl
      (fun v k => v ||| BIT (PMIC_MATCH_EXACT_MODEL_IDX0 + k * PMIC_SHIFT_IDX)) 0

def checkAllBitsSet (dtMatchVal : Nat) : Bool := dtMatchVal &&& ALL_BITS_SET = ALL_BITS_SET

/-! ### The trees of a kernel image -/

structure KernelImage where
  mem : Bytes
  kernel : Nat
  kernelSize : Nat
  dtbOffset : Nat
  kernel_lt : kernel < 2 ^ 64
  kernelSize_lt : kernelSize < 2 ^ 32
  dtbOffset_lt : dtbOffset < 2 ^ 32

namespace KernelImage

def kernelEnd (image : KernelImage) : Nat := u64 (image.kernel + image.kernelSize)

/-- The condition of the loop and the checks at its start, for the tree at `dtb`: the size of
the tree, if the loop goes on.  The header is checked in a copy at `frame`. -/
def treeAt (image : KernelImage) (frame dtb : Nat) : Option Nat :=
  let h := fdtHeader (image.mem.shift dtb)
  if u64 (dtb + FDT_HEADER_SIZE) < image.kernelEnd ∧ fdtCheckHeader h = true ∧
      fdtCheckHeaderExt frame h = true ∧ dtb ≤ u64 (dtb + h.totalsize) ∧
      u64 (dtb + h.totalsize) ≤ image.kernelEnd then some h.totalsize
  else none

/-- The loop over the trees: `step` is its body, and may have no result. -/
def walk {σ : Type} (image : KernelImage) (frame : Nat) (step : Nat → σ → Option σ) :
    Nat → Nat → σ → Option σ
  | 0, _, _ => none
  | fuel + 1, dtb, s =>
    match image.treeAt frame dtb with
    | none => some s
    | some size => (step dtb s).bind (image.walk frame step fuel (u64 (dtb + size)))

end KernelImage

structure DtbScan where
  cur : DtInfo := {}
  best : DtInfo := {}
  dtbCount : Nat := 0
  globals : DtGlobals

/-- The body of the loop of `GetSocDtb`.  A tree that has not set a bit of the match value may hold
data for the hypervisor. -/
def socStep (board : Board) (image : KernelImage) (dtb : Nat) (s : DtbScan) : Option DtbScan := do
  let blob := image.mem.shift dtb
  let (found, cur, best) ← readDtbFindMatch board blob SOC_MATCH { s.cur with dtb := dtb } s.best
  let _ ← (if cur.dtMatchVal = 0 then getRticDtb blob else some none)
  return { cur, best, dtbCount := s.dtbCount + 1
           globals := { s.globals with
             dtbIdx := if found then s.dtbCount else s.globals.dtbIdx
             dtboNeed := s.globals.dtboNeed &&
               !(cur.dtMatchVal &&& BIT SOC_MATCH ≠ 0 && checkAllBitsSet cur.dtMatchVal) } }

/-- `GetSocDtb`: the address of the chosen tree, 0 for `NULL`.  No result when the work on a tree
has none. -/
def getSocDtb (board : Board) (image : KernelImage) (frame : Nat) (globals : DtGlobals) :
    Option (Nat × DtGlobals) :=
  if image.dtbOffset = 0 ∨ u64 (image.kernel + image.dtbOffset) < image.kernel then
    some (0, globals)
  else
    -- every tree has at least one byte
    (image.walk frame (socStep board image) (image.kernelSize + 1)
      (u64 (image.kernel + image.dtbOffset)) { globals }).map fun s => (s.best.dtb, s.globals)

/-! ### The overlays of a DTBO image -/

def DTBO_ENTRY_SIZE : Nat := 32

structure DtboImage where
  mem : Bytes
  buffer : Nat
  buffer_lt : buffer < 2 ^ 64

namespace DtboImage

def dtEntryCount (image : DtboImage) : Nat := image.mem.beU32At (image.buffer + 16)
def dtEntryOffset (image : DtboImage) : Nat := image.mem.beU32At (image.buffer + 20)

def dtOffset (image : DtboImage) (entry : Nat) : Nat := image.mem.beU32At (entry + 4)

def overlay (image : DtboImage) (entry : Nat) : Nat := image.buffer + image.dtOffset entry

def validAt (image : DtboImage) (boardDtb : Nat) : Bool :=
  fdtCheckHeader (fdtHeader (image.mem.shift boardDtb)) &&
    fdtCheckHeaderExt boardDtb (fdtHeader (image.mem.shift boardDtb))

end DtboImage

/-- Why the loop of `GetBoardDtb` is left early, other than for an invalid tree: an overlay whose
address overflows, or one whose matching has no result. -/
inductive DtboStop where
  | overflow
  | undefined
  deriving Repr, DecidableEq

/-- What `GetBoardDtb` keeps from entry to entry; `entries` and `blobs` record which table
entries it has read and which overlays it has inspected. -/
structure DtboScan where
  cur : DtInfo := {}
  best : DtInfo := {}
  dtboCount : Nat := 0
  globals : DtGlobals
  stopped : Option DtboStop := none
  entries : List Nat := []
  blobs : List Nat := []

def boardScan (board : Board) (image : DtboImage) : Nat → Nat → DtboScan → DtboScan
  | 0, _, s => s
  | n + 1, entry, s =>
    let s := { s with entries := s.entries ++ [entry] }
    if CHECK_ADD64 image.buffer (image.dtOffset entry) then { s with stopped := some .overflow }
    else
      let boardDtb := image.overlay entry
      let s := { s with blobs := s.blobs ++ [boardDtb] }
      if image.validAt boardDtb then
        match readDtbFindMatch board (image.mem.shift boardDtb) VARIANT_MATCH
            { s.cur with dtb := boardDtb } s.best with
        | none => { s with stopped := some .undefined }
        | some (found, cur, best) =>
          boardScan board image n (u64 (entry + DTBO_ENTRY_SIZE))
            { s with
              cur, best, dtboCount := s.dtboCount + 1
              globals := { s.globals with
                dtboIdx := if found then s.dtboCount else s.globals.dtboIdx } }
      else s

/-- The overlay that the scan has chosen, 0 for `NULL`; none if the scan has no result. -/
def DtboScan.result (s : DtboScan) : Option Nat :=
  match s.stopped with
  | none => some s.best.dtb
  | some .overflow => some 0
  | some .undefined => none

def getBoardDtb (board : Board) (image : DtboImage) (globals : DtGlobals) : DtboScan :=
  if image.buffer = 0 ∨ CHECK_ADD64 image.buffer image.dtEntryOffset = true ∨
      image.buffer + image.dtEntryOffset = 0 then { globals }
  else
    boardScan board image image.dtEntryCount (image.buffer + image.dtEntryOffset) { globals }

/-! ### One tree of a scan -/

section

variable {board : Board}

theorem chooseBest_cases (e : Nat) (c best : DtInfo) :
    chooseBest e c best = (false, best) ∨
      chooseBest e c best = (true, c) ∧ c.dtMatchVal.testBit e = true := by
  unfold chooseBest
  split
  · rename_i h
    exact Or.inr ⟨rfl, (and_BIT_ne_zero_iff _ _).mp h.1⟩
  · exact Or.inl rfl

variable {best c : DtInfo} {e dtb frame size : Nat} {blob : Bytes} {image : KernelImage}
  {globals g : DtGlobals} {P : Nat → Nat → Int → Prop} {T : Bytes → Prop}

theorem chooseBest_first (hbit : c.dtMatchVal.testBit e = true) (hbest : best.dtMatchVal = 0) :
    (chooseBest e c best).2 = c := by
  have hpos : best.dtMatchVal < c.dtMatchVal := by
    rw [hbest]
    apply Nat.pos_of_ne_zero
    intro hzero
    rw [hzero] at hbit
    simp at hbit
  unfold chooseBest
  rw [if_pos ⟨(and_BIT_ne_zero_iff _ _).mpr hbit, Or.inl hpos⟩]

theorem readDtbFindMatch_best {cur b : DtInfo} {found : Bool}
    (hheader : fdtCheckHeader (fdtHeader blob) = true)
    (h : readDtbFindMatch board blob e cur best = some (found, c, b)) :
    found = false ∧ b = best ∨
      found = true ∧ Matched board blob cur.dtb b ∧ b.dtMatchVal.testBit e = true := by
  rcases @readDtbFindMatch_cases board blob e cur best hheader with ⟨hnone, -⟩ | ⟨c', hc', hsome⟩
  · rw [h] at hnone
    cases hnone
  · rw [h] at hsome
    rcases chooseBest_cases e c' best with hb | ⟨hb, hbit⟩
    · rw [hb] at hsome
      cases hsome
      exact Or.inl ⟨rfl, rfl⟩
    · rw [hb] at hsome
      cases hsome
      exact Or.inr ⟨rfl, hc', hbit⟩

theorem readDtbFindMatch_first {blob : Bytes} {e : Nat} {cur best : DtInfo}
    (hheader : fdtCheckHeader (fdtHeader blob) = true) (hread : Readable board blob)
    (hbest : best.dtMatchVal = 0)
    (hbit : ∀ c, Matched board blob cur.dtb c → c.dtMatchVal.testBit e = true) :
    ∃ found c b, readDtbFindMatch board blob e cur best = some (found, c, b) ∧
      c.dtMatchVal ≠ 0 ∧ b.dtb = cur.dtb := by
  rcases @readDtbFindMatch_cases board blob e cur best hheader with ⟨-, hnot⟩ | ⟨c, hc, hsome⟩
  · exact absurd hread hnot
  · refine ⟨_, _, _, hsome, fun hzero => ?_, ?_⟩
    · exact absurd (hbit c hc) (by simp [hzero])
    · rw [chooseBest_first (hbit c hc) hbest]
      exact hc.dtb

/-- The header of the tree passes both checks, wherever it has to be for that. -/
def ValidTree (blob : Bytes) : Prop :=
  fdtCheckHeader (fdtHeader blob) = true ∧
    ∃ start, fdtCheckHeaderExt start (fdtHeader blob) = true

theorem ValidTree.exists_above (h : ValidTree blob) (a : Nat) (ha : a < 2 ^ 63) :
    ∃ start, a < start ∧ fdtCheckHeaderExt start (fdtHeader blob) = true := by
  obtain ⟨-, start, hstart⟩ := h
  by_cases hlow : start ≤ a
  · refine ⟨a + 1, by omega, ?_⟩
    rw [← hstart]
    exact fdtCheckHeaderExt_eq blob (by omega) (by omega)
  · exact ⟨start, by omega, hstart⟩

/-! ### The trees a scan visits -/

inductive KernelImage.Visits (image : KernelImage) (frame : Nat) : Nat → Prop
  | first : Visits image frame (u64 (image.kernel + image.dtbOffset))
  | next {dtb dtbSize : Nat} (h : Visits image frame dtb)
      (ht : image.treeAt frame dtb = some dtbSize) : Visits image frame (u64 (dtb + dtbSize))

def KernelImage.PackedFrom (image : KernelImage) (frame : Nat) (T : Bytes → Prop) : Prop :=
  ∀ dtb dtbSize, image.Visits frame dtb → image.treeAt frame dtb = some dtbSize →
    T (image.mem.shift dtb)

inductive DtboImage.Visits (image : DtboImage) : Nat → Nat → Prop
  | first : Visits image 0 (image.buffer + image.dtEntryOffset)
  | next {i entry : Nat} (h : Visits image i entry) (hi : i < image.dtEntryCount)
      (hadd : CHECK_ADD64 image.buffer (image.dtOffset entry) = false)
      (hv : image.validAt (image.overlay entry) = true) :
      Visits image (i + 1) (u64 (entry + DTBO_ENTRY_SIZE))

def DtboImage.PackedFrom (image : DtboImage) (T : Bytes → Prop) : Prop :=
  ∀ i entry, image.Visits i entry → i < image.dtEntryCount →
    CHECK_ADD64 image.buffer (image.dtOffset entry) = false →
    image.validAt (image.overlay entry) = true → T (image.mem.shift (image.overlay entry))

structure Chosen (board : Board) (mem : Bytes) (T : Bytes → Prop)
    (selectable : Board → Bytes → Prop) (dtb : Nat) : Prop where
  packed : T (mem.shift dtb)
  valid : ValidTree (mem.shift dtb)
  readable : Readable board (mem.shift dtb)
  selectable : selectable board (mem.shift dtb)

theorem KernelImage.treeAt_some (h : image.treeAt frame dtb = some size) :
    ValidTree (image.mem.shift dtb) ∧ size = fdtTotalsize (image.mem.shift dtb) ∧
      u64 (dtb + FDT_HEADER_SIZE) < image.kernelEnd ∧
      dtb ≤ u64 (dtb + size) ∧ u64 (dtb + size) ≤ image.kernelEnd := by
  unfold treeAt at h
  dsimp only at h
  split at h
  · rename_i hc
    obtain ⟨hend, hheader, hext, hle, hin⟩ := hc
    cases h
    exact ⟨⟨hheader, frame, hext⟩, rfl, hend, hle, hin⟩
  · cases h

/-- A tree that `GetSocDtb` can choose: behind the first byte of an image there is room for
fewer than 2^32 - 1 bytes. -/
def SocCandidate (board : Board) (blob : Bytes) : Prop :=
  fdtTotalsize blob + 1 < 2 ^ 32 ∧ SocSelectable board blob

theorem KernelImage.treeAt_inside (hkernel : image.kernel < dtb)
    (h : image.treeAt frame dtb = some size) : dtb + size ≤ image.kernel + image.kernelSize := by
  obtain ⟨-, hsize, -, hle, hend⟩ := treeAt_some h
  have h32 := fdtTotalsize_lt (image.mem.shift dtb)
  unfold kernelEnd at hend
  unfold u64 at hle hend
  omega

namespace KernelImage

/-- The address a loop has come to behind `i` trees. -/
def scanned (image : KernelImage) (frame : Nat) : Nat → Option Nat
  | 0 => some (u64 (image.kernel + image.dtbOffset))
  | i + 1 => (image.scanned frame i).bind fun dtb =>
      (image.treeAt frame dtb).map fun size => u64 (dtb + size)

/-- Tree `i` of the scan is at address `dtb`. -/
def TreeIs (image : KernelImage) (frame i dtb : Nat) : Prop :=
  image.scanned frame i = some dtb ∧ (image.treeAt frame dtb).isSome

/-- The scan has a first tree only if the offset is given and does not wrap around. -/
def Started (image : KernelImage) : Prop :=
  image.dtbOffset ≠ 0 ∧ ¬ u64 (image.kernel + image.dtbOffset) < image.kernel

variable {image : KernelImage} {frame i dtb size : Nat}

theorem scanned_succ (h : image.scanned frame i = some dtb)
    (ht : image.treeAt frame dtb = some size) :
    image.scanned frame (i + 1) = some (u64 (dtb + size)) := by
  simp [scanned, h, ht]

theorem Started.first (h : image.Started) :
    u64 (image.kernel + image.dtbOffset) = image.kernel + image.dtbOffset := by
  have hwrap := h.2
  have ho := image.dtbOffset_lt
  unfold u64 at hwrap ⊢
  omega

theorem scanned_spec (hstart : image.Started) (h : image.scanned frame i = some dtb) :
    image.Visits frame dtb ∧ image.kernel < dtb := by
  induction i generalizing dtb with
  | zero =>
    obtain rfl := Option.some.inj h
    have hoffset := hstart.1
    exact ⟨.first, by rw [hstart.first]; omega⟩
  | succ i ih =>
    obtain ⟨dtb', hdtb', hnext⟩ := Option.bind_eq_some_iff.mp h
    obtain ⟨size, ht, rfl⟩ := Option.map_eq_some_iff.mp hnext
    obtain ⟨hvisit, hlt⟩ := ih hdtb'
    exact ⟨.next hvisit ht, Nat.lt_of_lt_of_le hlt (treeAt_some ht).2.2.2.1⟩

/-- What the body of the loop keeps, with the number of trees so far, holds at its end. -/
theorem walk_invariant {σ : Type} {step : Nat → σ → Option σ} {P : Nat → σ → Prop}
    (hstep : ∀ {i dtb s s'}, image.TreeIs frame i dtb → P i s → step dtb s = some s' → P (i + 1) s')
    (fuel : Nat) : ∀ {i dtb : Nat} {s s' : σ}, image.scanned frame i = some dtb → P i s →
      image.walk frame step fuel dtb s = some s' → ∃ n, P n s' := by
  induction fuel with
  | zero => exact fun _ _ h => nomatch h
  | succ fuel ih =>
    intro i dtb s s' hi hs h
    rw [walk] at h
    cases ht : image.treeAt frame dtb with
    | none =>
      rw [ht] at h
      cases h
      exact ⟨i, hs⟩
    | some size =>
      rw [ht] at h
      obtain ⟨s₁, hs₁, hrest⟩ := Option.bind_eq_some_iff.mp h
      have htree : image.TreeIs frame i dtb := ⟨hi, by rw [ht]; rfl⟩
      exact ih (scanned_succ hi ht) (hstep htree hs hs₁) hrest

end KernelImage

theorem socStep_some {s s' : DtbScan} (h : socStep board image dtb s = some s') :
    ∃ found, readDtbFindMatch board (image.mem.shift dtb) SOC_MATCH
      { s.cur with dtb := dtb } s.best =
        some (found, s'.cur, s'.best) ∧ s'.dtbCount = s.dtbCount + 1 ∧
      s'.globals.dtbIdx = if found then (s.dtbCount : Int) else s.globals.dtbIdx := by
  obtain ⟨⟨found, cur, best⟩, hread, hrest⟩ := Option.bind_eq_some_iff.mp h
  obtain ⟨_, -, hs'⟩ := Option.bind_eq_some_iff.mp hrest
  obtain rfl := Option.some.inj hs'
  exact ⟨found, hread, rfl, rfl⟩

theorem getSocDtb_eq (h : image.Started) : getSocDtb board image frame globals =
    (image.walk frame (socStep board image) (image.kernelSize + 1)
      (u64 (image.kernel + image.dtbOffset)) { globals }).map fun s => (s.best.dtb, s.globals) :=
  if_neg (not_or.mpr h)

theorem getSocDtb_not_started (h : ¬ image.Started) :
    getSocDtb board image frame globals = some (0, globals) := by
  rw [getSocDtb, if_pos]
  exact or_iff_not_and_not.mpr h

/-- What holds of the best tree and its index, with the number of trees so far, and is kept by every
    tree of the scan, holds of the result. -/
theorem getSocDtb_invariant (hskip : ∀ {i best idx}, P i best idx → P (i + 1) best idx)
    (hfound : ∀ {i dtb best}, image.Started → image.TreeIs frame i dtb →
      Matched board (image.mem.shift dtb) dtb best → best.dtMatchVal.testBit SOC_MATCH = true →
      P (i + 1) dtb i) (hfirst : P 0 0 globals.dtbIdx)
    (h : getSocDtb board image frame globals = some (dtb, g)) : ∃ n, P n dtb g.dtbIdx := by
  by_cases hstart : image.Started
  · rw [getSocDtb_eq hstart] at h
    obtain ⟨s, hwalk, hs⟩ := Option.map_eq_some_iff.mp h
    cases hs
    have hinv : ∀ {i dtb s s'}, image.TreeIs frame i dtb →
        s.dtbCount = i ∧ P i s.best.dtb s.globals.dtbIdx → socStep board image dtb s = some s' →
        s'.dtbCount = i + 1 ∧ P (i + 1) s'.best.dtb s'.globals.dtbIdx := by
      rintro i dtb s s' ht ⟨rfl, hP⟩ h
      obtain ⟨found, hread, hcount, hidx⟩ := socStep_some h
      obtain ⟨size, hsize⟩ := Option.isSome_iff_exists.mp ht.2
      refine ⟨hcount, ?_⟩
      rw [hidx]
      rcases readDtbFindMatch_best (KernelImage.treeAt_some hsize).1.1 hread with
        ⟨rfl, hbest⟩ | ⟨rfl, hmatched, hbit⟩
      · rw [hbest]
        exact hskip hP
      · have hdtb : s'.best.dtb = dtb := hmatched.dtb
        rw [hdtb]
        exact hfound hstart ht hmatched hbit
    obtain ⟨n, -, hn⟩ := KernelImage.walk_invariant hinv _ (i := 0) rfl ⟨rfl, hfirst⟩ hwalk
    exact ⟨n, hn⟩
  · rw [getSocDtb_not_started hstart] at h
    cases h
    exact ⟨0, hfirst⟩

/-- An invariant rule for the loop over the entries. -/
theorem boardScan_invariant {image : DtboImage}
    (hskip : ∀ {i best idx}, P i best idx → P (i + 1) best idx)
    (hfound : ∀ {i entry best}, image.Visits i entry → i < image.dtEntryCount →
      CHECK_ADD64 image.buffer (image.dtOffset entry) = false →
      image.validAt (image.overlay entry) = true →
      Matched board (image.mem.shift (image.overlay entry)) (image.overlay entry) best →
      best.dtMatchVal.testBit VARIANT_MATCH = true → P (i + 1) (image.overlay entry) i) (n : Nat) :
    ∀ {i entry : Nat} {s : DtboScan}, image.Visits i entry →
      i + n = image.dtEntryCount → s.dtboCount = i → P i s.best.dtb s.globals.dtboIdx →
      ∃ k ≤ image.dtEntryCount, P k (boardScan board image n entry s).best.dtb
        (boardScan board image n entry s).globals.dtboIdx := by
  induction n with
  | zero => exact fun _ hi _ hs => ⟨_, Nat.le_of_eq hi, hs⟩
  | succ n ih =>
    rintro _ entry s hvisit hi rfl hs
    have hlt : s.dtboCount < image.dtEntryCount := by omega
    have hstop : ∃ k ≤ image.dtEntryCount, P k s.best.dtb s.globals.dtboIdx :=
      ⟨_, Nat.le_of_lt hlt, hs⟩
    rw [boardScan]
    split
    · exact hstop
    rename_i hadd
    rw [Bool.not_eq_true] at hadd
    dsimp only
    split
    · rename_i hvalid
      split
      · exact hstop
      · rename_i found cur best hread
        have hheader := (Bool.and_eq_true _ _ ▸ hvalid : _ ∧ _).1
        refine ih (.next hvisit hlt hadd hvalid) (by omega) rfl ?_
        rcases readDtbFindMatch_best hheader hread with ⟨rfl, rfl⟩ | ⟨rfl, hmatched, hbit⟩
        · exact hskip hs
        · have hdtb : best.dtb = image.overlay entry := hmatched.dtb
          rw [hdtb]
          exact hfound hvisit hlt hadd hvalid hmatched hbit
    · exact hstop

theorem DtboScan.result_eq {s : DtboScan} (h : s.result = some dtb) (hdtb : dtb ≠ 0) :
    s.best.dtb = dtb := by
  unfold result at h
  split at h
  · exact Option.some.inj h
  · cases h
    exact absurd rfl hdtb
  · cases h

theorem getBoardDtb_invariant {image : DtboImage}
    (hskip : ∀ {i best idx}, P i best idx → P (i + 1) best idx)
    (hfound : ∀ {i entry best}, image.buffer + image.dtEntryOffset < 2 ^ 64 → image.Visits i entry →
      i < image.dtEntryCount → CHECK_ADD64 image.buffer (image.dtOffset entry) = false →
      image.validAt (image.overlay entry) = true →
      Matched board (image.mem.shift (image.overlay entry)) (image.overlay entry) best →
      best.dtMatchVal.testBit VARIANT_MATCH = true → P (i + 1) (image.overlay entry) i)
    (hfirst : P 0 0 globals.dtboIdx) (h : (getBoardDtb board image globals).result = some dtb)
    (hdtb : dtb ≠ 0) :
    ∃ k ≤ image.dtEntryCount, P k dtb (getBoardDtb board image globals).globals.dtboIdx := by
  rw [← DtboScan.result_eq h hdtb, getBoardDtb]
  split
  · exact ⟨0, Nat.zero_le _, hfirst⟩
  · rename_i htable
    have hadd : ¬ CHECK_ADD64 image.buffer image.dtEntryOffset = true :=
      fun hadd => htable (.inr (.inl hadd))
    have hlt := of_decide_eq_false (Bool.not_eq_true _ ▸ hadd)
    unfold MAX_UINT64 at hlt
    exact boardScan_invariant hskip (hfound (by omega)) _ .first (Nat.zero_add _) rfl hfirst

/-! ### An image with one tree -/

def KernelImage.single (blob : Bytes) (h : fdtTotalsize blob + 1 < 2 ^ 32) : KernelImage where
  mem := fun x => blob (x - 4097)
  kernel := 4096
  kernelSize := 1 + max (fdtTotalsize blob) (FDT_HEADER_SIZE + 1)
  dtbOffset := 1
  kernel_lt := by omega
  kernelSize_lt := by
    unfold FDT_HEADER_SIZE
    omega
  dtbOffset_lt := by omega

section

variable {blob : Bytes} {hsize : fdtTotalsize blob + 1 < 2 ^ 32}

theorem KernelImage.single_shift : (KernelImage.single blob hsize).mem.shift 4097 = blob := by
  funext i
  simp [single]

variable {frame : Nat}

theorem KernelImage.single_first (hheader : fdtCheckHeader (fdtHeader blob) = true)
    (hext : fdtCheckHeaderExt frame (fdtHeader blob) = true) :
    (KernelImage.single blob hsize).treeAt frame 4097 = some (fdtTotalsize blob) := by
  unfold treeAt
  rw [single_shift, if_pos]
  · rfl
  · have htotal : (fdtHeader blob).totalsize = fdtTotalsize blob := rfl
    refine ⟨?_, hheader, hext, ?_⟩
    all_goals simp only [htotal, kernelEnd, single, u64, FDT_HEADER_SIZE]; omega

theorem KernelImage.single_next (hpos : 0 < fdtTotalsize blob) :
    (KernelImage.single blob hsize).treeAt frame (u64 (4097 + fdtTotalsize blob)) = none := by
  unfold treeAt
  rw [if_neg]
  rintro ⟨hroom, -⟩
  simp only [kernelEnd, single, u64, FDT_HEADER_SIZE] at hroom
  omega

theorem KernelImage.single_packedFrom {T : Bytes → Prop} (hT : T blob)
    (hheader : fdtCheckHeader (fdtHeader blob) = true)
    (hext : fdtCheckHeaderExt frame (fdtHeader blob) = true) :
    (KernelImage.single blob hsize).PackedFrom frame T := by
  have hpos : 0 < fdtTotalsize blob := totalsize_pos_of_checkHeaderExt hext
  have hone : ∀ dtb, (KernelImage.single blob hsize).Visits frame dtb →
      dtb = 4097 ∨ (KernelImage.single blob hsize).treeAt frame dtb = none := by
    intro dtb hvisit
    induction hvisit with
    | first => exact Or.inl rfl
    | next _ ht ih =>
      rcases ih with rfl | hnone
      · rw [single_first hheader hext] at ht
        cases ht
        exact Or.inr (single_next hpos)
      · rw [ht] at hnone
        cases hnone
  intro dtb size hvisit ht
  rcases hone dtb hvisit with rfl | hnone
  · rw [single_shift]
    exact hT
  · rw [ht] at hnone
    cases hnone

theorem getSocDtb_single {frame : Nat} {globals : DtGlobals}
    (hheader : fdtCheckHeader (fdtHeader blob) = true)
    (hext : fdtCheckHeaderExt frame (fdtHeader blob) = true) (hread : Readable board blob)
    (hsel : SocSelectable board blob) :
    ∃ g, getSocDtb board (KernelImage.single blob hsize) frame globals = some (4097, g) := by
  have hpos : 0 < fdtTotalsize blob := totalsize_pos_of_checkHeaderExt hext
  obtain ⟨found, c, b, hmatch, hne, hb⟩ := @readDtbFindMatch_first board blob SOC_MATCH
    { dtb := 4097 } {} hheader hread rfl fun c hc => hc.soc.mpr hsel
  have hfuel : (KernelImage.single blob hsize).kernelSize + 1 =
      max (fdtTotalsize blob) (FDT_HEADER_SIZE + 1) + 1 + 1 :=
    congrArg (· + 1) (Nat.add_comm _ _)
  unfold getSocDtb
  rw [if_neg (by simp [KernelImage.single, u64]), hfuel]
  have hstart : u64 ((KernelImage.single blob hsize).kernel +
      (KernelImage.single blob hsize).dtbOffset) = 4097 := rfl
  rw [hstart]
  simp only [KernelImage.walk, KernelImage.single_first hheader hext, socStep,
    KernelImage.single_shift, hmatch, if_neg hne, Option.bind_eq_bind, Option.pure_def,
    Option.bind_some, KernelImage.single_next hpos]
  exact ⟨_, by rw [Option.map_some, hb]⟩

end

def dtboTable : Bytes := fun i => if i = 19 then 1 else if i = 23 then 32 else if i =
    39 then 64 else 0

def DtboImage.single (blob : Bytes) (start : Nat) (h : start < 2 ^ 64) : DtboImage where
  mem := fun x => if x < start then dtboTable (x - (start - 64)) else blob (x - start)
  buffer := start - 64
  buffer_lt := by omega

section

variable {blob : Bytes} {start : Nat} {hlt : start < 2 ^ 64}

theorem DtboImage.single_shift : (DtboImage.single blob start hlt).mem.shift start = blob := by
  funext i
  simp [single]

theorem DtboImage.single_word (hstart : 64 ≤ start) {i : Nat} (hi : i + 4 ≤ 64) :
    (DtboImage.single blob start hlt).mem.beU32At (start - 64 + i) = dtboTable.beU32At i := by
  have hbyte : ∀ j, j < 64 →
      (DtboImage.single blob start hlt).mem (start - 64 + j) = dtboTable j := by
    intro j hj
    simp only [single]
    rw [if_pos (by omega), Nat.add_sub_cancel_left]
  unfold Bytes.beU32At
  simp only [Nat.add_assoc]
  rw [hbyte i (by omega), hbyte (i + 1) (by omega), hbyte (i + 2) (by omega),
    hbyte (i + 3) (by omega)]

theorem DtboImage.single_fields (hstart : 64 ≤ start) :
    (DtboImage.single blob start hlt).dtEntryCount = 1 ∧
    (DtboImage.single blob start hlt).dtEntryOffset = 32 ∧
    (DtboImage.single blob start hlt).dtOffset (start - 64 + 32) = 64 ∧
    (DtboImage.single blob start hlt).overlay (start - 64 + 32) = start := by
  have hoffset : (DtboImage.single blob start hlt).dtOffset (start - 64 + 32) = 64 :=
    single_word hstart (i := 36) (by omega)
  refine ⟨single_word hstart (i := 16) (by omega), single_word hstart (i := 20) (by omega),
    hoffset, ?_⟩
  unfold overlay
  rw [hoffset]
  exact Nat.sub_add_cancel hstart

theorem DtboImage.single_valid (hheader : fdtCheckHeader (fdtHeader blob) = true)
    (hext : fdtCheckHeaderExt start (fdtHeader blob) = true) :
    (DtboImage.single blob start hlt).validAt start = true := by
  unfold validAt
  rw [single_shift, hheader, hext]
  rfl

theorem DtboImage.single_packedFrom {T : Bytes → Prop} (hT : T blob) (hstart : 64 ≤ start) :
    (DtboImage.single blob start hlt).PackedFrom T := by
  obtain ⟨hcount, hentry, -, hoverlay⟩ := @single_fields blob start hlt hstart
  intro i entry hvisit hi _ _
  cases hvisit with
  | first =>
    rw [hentry]
    have haddr : (DtboImage.single blob start hlt).buffer = start - 64 := rfl
    rw [haddr, hoverlay, single_shift]
    exact hT
  | next => omega

theorem getBoardDtb_single {globals : DtGlobals} (hstart : 64 < start)
    (hheader : fdtCheckHeader (fdtHeader blob) = true)
    (hext : fdtCheckHeaderExt start (fdtHeader blob) = true) (hread : Readable board blob)
    (hsel : OverlaySelectable board blob) :
    (getBoardDtb board (DtboImage.single blob start hlt) globals).result = some start := by
  obtain ⟨hcount, hentry, hoffset, hoverlay⟩ :=
    @DtboImage.single_fields blob start hlt (Nat.le_of_lt hstart)
  obtain ⟨found, c, b, hmatch, -, hb⟩ := @readDtbFindMatch_first board blob VARIANT_MATCH
    { dtb := start } {} hheader hread rfl fun c hc => hc.overlay.mpr hsel
  have haddr : (DtboImage.single blob start hlt).buffer = start - 64 := rfl
  have hadd : ∀ n, n ≤ 64 → CHECK_ADD64 (start - 64) n = false := by
    intro n hn
    unfold CHECK_ADD64 MAX_UINT64
    exact decide_eq_false (by omega)
  unfold getBoardDtb
  rw [haddr, hentry, hcount, if_neg]
  · simp only [boardScan, haddr, hoffset, hadd 64 (by omega), hoverlay, DtboImage.single_valid
      hheader hext, DtboImage.single_shift, hmatch]
    exact congrArg some hb
  · rw [hadd 32 (by omega)]
    rintro (hzero | hover | hzero)
    · omega
    · cases hover
    · omega

end

/-! ### The choice and the selection table -/

/-- `GetSocDtb` gives only fitting trees for the images that are packed from a collection. -/
def SocSelectionFits (board : Board) (T : Bytes → Prop) : Prop :=
  ∀ (image : KernelImage) (frame : Nat) (globals g : DtGlobals) (dtb : Nat),
    image.PackedFrom frame T → getSocDtb board image frame globals = some (dtb, g) → dtb ≠ 0 →
    Fits board (image.mem.shift dtb)

/-- `GetBoardDtb` gives only fitting overlays for the images that are packed from a
collection. -/
def OverlaySelectionFits (board : Board) (T : Bytes → Prop) : Prop :=
  ∀ (image : DtboImage) (globals : DtGlobals) (dtb : Nat),
    image.PackedFrom T → (getBoardDtb board image globals).result = some dtb → dtb ≠ 0 →
    Fits board (image.mem.shift dtb)

/-- A tree of the collection that can be chosen, and whose matching has a result. -/
structure Choosable (board : Board) (T : Bytes → Prop) (blob : Bytes) : Prop where
  packed : T blob
  valid : ValidTree blob
  readable : Readable board blob

theorem getSocDtb_chosen (hT : image.PackedFrom frame T)
    (h : getSocDtb board image frame globals = some (dtb, g)) (hdtb : dtb ≠ 0) :
    Chosen board image.mem T SocCandidate dtb := by
  obtain ⟨_, hchosen⟩ := getSocDtb_invariant
    (P := fun _ best _ => best ≠ 0 → Chosen board image.mem T SocCandidate best) (fun h => h)
    (fun {i dtb best} hstart ht hmatched hbit _ => by
      obtain ⟨size, hsize⟩ := Option.isSome_iff_exists.mp ht.2
      obtain ⟨hvisit, hlt⟩ := KernelImage.scanned_spec hstart ht.1
      obtain ⟨hvalid, htotal, -⟩ := KernelImage.treeAt_some hsize
      have hinside := KernelImage.treeAt_inside hlt hsize
      have hks := image.kernelSize_lt
      exact ⟨hT dtb size hvisit hsize, hvalid, hmatched.readable, by omega, hmatched.soc.mp hbit⟩)
    (fun hne => absurd rfl hne) h
  exact hchosen hdtb

theorem getBoardDtb_chosen {image : DtboImage} (hT : image.PackedFrom T)
    (h : (getBoardDtb board image globals).result = some dtb) (hdtb : dtb ≠ 0) :
    Chosen board image.mem T OverlaySelectable dtb := by
  obtain ⟨_, -, hchosen⟩ := getBoardDtb_invariant
    (P := fun _ best _ => best ≠ 0 → Chosen board image.mem T OverlaySelectable best) (fun h => h)
    (fun {i entry best} _ hvisit hi hadd hvalid hmatched hbit _ => by
      have hheader := (Bool.and_eq_true _ _ ▸ hvalid : _ ∧ _)
      exact ⟨hT i entry hvisit hi hadd hvalid, ⟨hheader.1, _, hheader.2⟩, hmatched.readable,
        hmatched.overlay.mp hbit⟩)
    (fun hne => absurd rfl hne) h hdtb
  exact hchosen hdtb

/-- **What is chosen fits, exactly if the PMICs and the OEM variant of every tree that can be
chosen fit, and every overlay that can be chosen has a `qcom,msm-id`.** -/
theorem selectionFits_iff (board : Board) (T : Bytes → Prop) :
    SocSelectionFits board T ∧ OverlaySelectionFits board T ↔
      ∀ blob, Choosable board T blob →
        (SocCandidate board blob → PmicFits board blob ∧ OemFits board blob) ∧
        (OverlaySelectable board blob →
          msmId blob ≠ none ∧ PmicFits board blob ∧ OemFits board blob) := by
  constructor
  · rintro ⟨hsoc, hoverlay⟩ blob ⟨hT, hvalid, hread⟩
    obtain ⟨start, hstart, hext⟩ := hvalid.exists_above 64 (by omega)
    constructor
    · rintro ⟨hsize, hsel⟩
      obtain ⟨g, hget⟩ := @getSocDtb_single board blob hsize start {} hvalid.1 hext hread hsel
      have hfits := hsoc _ start {} g _
        (KernelImage.single_packedFrom hT hvalid.1 hext) hget (by omega)
      rw [KernelImage.single_shift] at hfits
      exact ⟨hfits.pmic, hfits.oem⟩
    · intro hsel
      have hlt : start < 2 ^ 64 := lt_of_checkHeaderExt hext
      have hget := @getBoardDtb_single board blob start hlt {} hstart hvalid.1 hext hread hsel
      have hfits := hoverlay _ {} _ (DtboImage.single_packedFrom hT (Nat.le_of_lt hstart)) hget
        (by omega)
      rw [DtboImage.single_shift] at hfits
      obtain ⟨p, hp, -⟩ := hfits.msm
      exact ⟨by rw [hp]; exact Option.some_ne_none p, hfits.pmic, hfits.oem⟩
  · intro hall
    constructor
    · intro image frame globals g dtb hT hget hdtb
      obtain ⟨hpacked, hvalid, hread, hcand⟩ := getSocDtb_chosen hT hget hdtb
      obtain ⟨hpmic, hoem⟩ := (hall _ ⟨hpacked, hvalid, hread⟩).1 hcand
      exact ⟨hcand.2.1, fun p hp => (hcand.2.2 p hp).2, hpmic, hoem⟩
    · intro image globals dtb hT hget hdtb
      obtain ⟨hpacked, hvalid, hread, hsel⟩ := getBoardDtb_chosen hT hget hdtb
      obtain ⟨hmsm, hpmic, hoem⟩ := (hall _ ⟨hpacked, hvalid, hread⟩).2 hsel
      obtain ⟨hplatform, p, hp, hvariant, hsubtype⟩ := hsel
      refine ⟨hplatform.resolve_left hmsm, ?_, hpmic, hoem⟩
      intro q hq
      rw [hp] at hq
      cases hq
      exact hsubtype

def beWords (ws : List Nat) : List UInt8 :=
  ws.flatMap fun w => [24, 16, 8, 0].map fun k => UInt8.ofNat (w >>> k)

def sampleTree : List Nat :=
  -- header
  [0xd00dfeed, 145, 56, 120, 40, 17, 16, 0, 25, 64] ++
  -- memory reservations
  [0, 0, 0, 0] ++
  -- the root node with its two properties
  [1, 0] ++ [3, 8, 0, 0x150, 0x10000] ++ [3, 16, 12, 0x2f, 0, 0, 0] ++ [2, 9]

def sampleTreeBytes : List UInt8 :=
  beWords sampleTree ++ ascii "qcom,msm-id" ++ [0] ++ ascii "qcom,pmic-id" ++ [0]

def sampleBoard : Board where
  rawChipId := 0x150
  chipVersion := 0x10000
  foundryId := 0
  platform := 8
  version := 0
  subtype := 0
  hlosSubType := 0
  oemVariantId := 0
  pmicModel := fun _ => 0x2e
  pmicTarget := fun _ => 0x2e

def sampleTreeImage : KernelImage where
  mem := fun x => sampleTreeBytes.getD (x - 0x80000800) 0
  kernel := 0x80000000
  kernelSize := 0x800 + 145
  dtbOffset := 0x800
  kernel_lt := by decide
  kernelSize_lt := by decide
  dtbOffset_lt := by decide

/-- The tree is chosen, although its only PMIC is not the board's. -/
theorem getSocDtb_other_pmic :
    getSocDtb sampleBoard sampleTreeImage 0x90000000 {} = some (0x80000800, { dtbIdx := 0 }) ∧
      ¬ Fits sampleBoard (sampleTreeImage.mem.shift 0x80000800) := by
  constructor
  · decide +kernel
  · intro hfits
    have hprop : (rootProp (sampleTreeImage.mem.shift 0x80000800) "qcom,pmic-id").filter
        FdtProp.positive = some ⟨96, 16⟩ := by decide +kernel
    obtain ⟨e, he, hmodels⟩ := hfits.pmic _ hprop
    have hcount : pmicCount (sampleTreeImage.mem.shift 0x80000800) = 4 := by decide +kernel
    have hzero : e = 0 := Nat.lt_one_iff.mp he
    have hmodel := hmodels 0 (by rw [hcount]; omega)
    rw [hzero] at hmodel
    revert hmodel
    decide +kernel

end

end OhMyAbl
