/-
  **Restoring a hibernation image in several threads.**

  `RestoreSnapshotImage` divides the data pages among its threads.  Each (`ReadDataPages`) reads
  runs of pages into its own buffer and hands every page that is no swap-map page to
  `CopyPageToDst`.  The threads are one machine whose labels name the thread that takes the next
  step; a read, a decryption, a copy, and each operation under the mutex is a step.
-/
import OhMyAbl.Lib.Machine
import OhMyAbl.Hibernation.Decrypt
import OhMyAbl.Hibernation.BounceTable

namespace OhMyAbl

open Prog

def DISK_BUFFER_PAGES : Nat := 64 * 1024 * 1024 / PAGE_SIZE

/-! ### The threads -/

/-- The part of `RestoreInfo` that says what a thread is to do: where its pages start on the disk,
    which part of the PFN index is theirs, and where their tags and its buffers are. -/
structure RestoreInfo where
  kernelPfnIndexes : Nat
  offset : Nat
  numPages : Nat
  authtags : Nat
  iv : List UInt8
  /-- the first page frame of `DiskReadBuffer` -/
  diskReadBuffer : Nat
  /-- the page frame of `TempOut` -/
  tempOut : Nat
deriving DecidableEq, Repr, Inhabited

inductive WorkerPc where
  | loop                              -- `while (PendingPages > 0)`
  | page                              -- `while (NrReadPages > 0)`
  | copy (dstPfn : Nat)               -- `CopyPage` to a free frame
  | acquire (dstPfn : Nat)            -- `MutexAcquire`
  | bounce (dstPfn : Nat)             -- `GetUnusedPfn` and `CopyPage`
  | update (dstPfn bouncePfn : Nat)   -- `UpdateBounceEntry`
  | release                           -- `MutexRelease`
  | done
deriving DecidableEq, Repr

/-- A page that was handed to `CopyPageToDst`: where it was on the disk, and what it holds. -/
structure HandedPage where
  offset : Nat
  dstPfn : Nat
  page : List UInt8
deriving DecidableEq, Repr

/-- A thread: the fields of its `RestoreInfo` that change, its local variables, and the pages it has
    handed over. -/
structure Worker where
  offset : Nat
  authtags : Nat
  iv : List UInt8
  status : Int
  pendingPages : Nat
  nrReadPages : Nat
  srcPfn : Nat
  pfnIndex : Nat
  pc : WorkerPc
  handed : List HandedPage

def Worker.start (info : RestoreInfo) : Worker where
  offset := info.offset
  authtags := info.authtags
  iv := info.iv
  status := 0
  pendingPages := info.numPages
  nrReadPages := 0
  srcPfn := 0
  pfnIndex := 0
  pc := .loop
  handed := []

structure RestoreEnv where
  swap : Swap
  image : Nat
  pool : PfnPool
  aes : Option AesContext
  cores : Nat
  info : Nat → RestoreInfo
  /-- how `ThreadResume` ended for each thread -/
  threadResume : Nat → EfiStatus

structure RestoreState where
  tables : BounceTables
  mutex : Option Nat
  workers : Nat → Worker
  reads : Reads

namespace RestoreState

def memory (s : RestoreState) : Bytes := s.tables.memory

def setMemory (s : RestoreState) (memory : Bytes) : RestoreState :=
  { s with tables := { s.tables with memory := memory } }

def setWorker (s : RestoreState) (t : Nat) (w : Worker) : RestoreState :=
  { s with workers := Function.update s.workers t w }

variable {s : RestoreState} {memory : Bytes} {t u : Nat} {w : Worker}

@[simp] theorem setMemory_memory : (s.setMemory memory).memory = memory := rfl
@[simp] theorem setMemory_workers : (s.setMemory memory).workers = s.workers := rfl
@[simp] theorem setWorker_memory : (s.setWorker t w).memory = s.memory := rfl

@[simp] theorem setWorker_workers_self : (s.setWorker t w).workers t = w :=
  Function.update_self ..

@[simp] theorem setWorker_workers_of_ne (h : u ≠ t) : (s.setWorker t w).workers u = s.workers u :=
  Function.update_of_ne h ..

end RestoreState

def Worker.advance (w : Worker) : Worker :=
  { w with
    srcPfn := w.srcPfn + 1
    nrReadPages := w.nrReadPages - 1
    offset := w.offset + 1
    pc := .page }

def Worker.readLength (w : Worker) : Nat :=
  if w.pendingPages > DISK_BUFFER_PAGES then DISK_BUFFER_PAGES else w.pendingPages

section Steps

variable (env : RestoreEnv) (t : Nat) (s : RestoreState)

def dataStatus (w : Worker) : EfiStatus :=
  env.swap.readStatus s.reads.length w.offset w.readLength

def afterRead (w : Worker) : RestoreState :=
  let buffer := pfnAddr (env.info t).diskReadBuffer
  let data := (env.swap.readImage s.reads.length w.offset w.readLength (s.memory.shift buffer)).2
  { s.setMemory (s.memory.replaceFrom buffer data) with
    reads := s.reads ++ [dataStatus env s w] }

def loopStep (w : Worker) : RestoreState :=
  if w.pendingPages = 0 then s.setWorker t { w with status := 0, pc := .done }
  else if i32 (dataStatus env s w).toNat < 0 then
    (afterRead env t s w).setWorker t { w with status := -1, pc := .done }
  else
    (afterRead env t s w).setWorker t
      { w with
        nrReadPages := w.readLength
        srcPfn := (env.info t).diskReadBuffer
        pc := .page }

def copyPageToDst (w : Worker) (dstPfn : Nat) (page : List UInt8) : RestoreState :=
  s.setWorker t
    { w with
      handed := w.handed ++ [⟨w.offset, dstPfn, page⟩]
      pc := if env.pool.isFree dstPfn then .copy dstPfn else .acquire dstPfn }

def Worker.take (w : Worker) : Worker :=
  { w with pfnIndex := w.pfnIndex + 1, pendingPages := w.pendingPages - 1 }

def Worker.dstPfn (w : Worker) : Nat :=
  env.pool.pfnArray ((env.info t).kernelPfnIndexes + w.pfnIndex)

def Worker.text (w : Worker) : List UInt8 := s.memory.slice (pfnAddr w.srcPfn) PAGE_SIZE

def storeTempOut (plain : List UInt8) : RestoreState :=
  s.setMemory (s.memory.overwrite (pfnAddr (env.info t).tempOut) PAGE_SIZE fun i => plain.getD i 0)

def storePlain (w : Worker) (plain : List UInt8) : RestoreState :=
  s.setMemory (s.memory.overwrite (pfnAddr w.srcPfn) PAGE_SIZE fun i => plain.getD i 0)

def pageStep (w : Worker) : Option RestoreState :=
  if w.nrReadPages = 0 then some (s.setWorker t { w with pc := .loop })
  else if checkSwapMapPage env.image w.offset then some (s.setWorker t w.advance)
  else match env.aes with
    | none => some (copyPageToDst env t s w.take (w.dstPfn env t) (w.text s))
    | some aes =>
      (decryptPage aes w.iv (w.text s) w.authtags).map fun d =>
        match d.tempOut with
        | none => s.setWorker t { w.take with iv := d.iv, status := -1, pc := .done }
        | some plain =>
          let s := storeTempOut env t s plain
          if d.ok then
            copyPageToDst env t (storePlain s w plain)
              { w.take with iv := d.iv, authtags := w.authtags + aes.authsize }
              (w.dstPfn env t) plain
          else s.setWorker t { w.take with iv := d.iv, status := -1, pc := .done }

/-- One step of a thread; without a result it waits for the mutex or never gets on. -/
def workerStep : Option RestoreState :=
  let w := s.workers t
  match w.pc with
  | .loop => some (loopStep env t s w)
  | .page => pageStep env t s w
  | .copy dstPfn =>
    some ((s.setMemory (copyPage s.memory w.srcPfn dstPfn)).setWorker t w.advance)
  | .acquire dstPfn =>
    if s.mutex = none then
      some ({ s with mutex := some t }.setWorker t { w with pc := .bounce dstPfn })
    else none
  | .bounce dstPfn =>
    (env.pool.getUnusedPfn s.tables.iterator).map fun (bouncePfn, it) =>
      { s with tables := { s.tables with
          memory := copyPage s.memory w.srcPfn bouncePfn
          iterator := it } }.setWorker t { w with pc := .update dstPfn bouncePfn }
  | .update dstPfn bouncePfn =>
    (s.tables.updateBounceEntry env.pool dstPfn bouncePfn).map fun tables =>
      { s with tables := tables }.setWorker t { w with pc := .release }
  | .release => some ({ s with mutex := none }.setWorker t w.advance)
  | .done => none

end Steps

/-- The machine of the threads that were resumed; the label is the thread that takes a step. -/
def restoreMachine (env : RestoreEnv) : Machine RestoreState Nat := fun s t =>
  if t < env.cores ∧ env.threadResume t = EFI_SUCCESS then workerStep env t s else none

inductive Moved (env : RestoreEnv) (t : Nat) (s : RestoreState) : RestoreState → Prop
  | finish (hpc : (s.workers t).pc = .loop) (hpending : (s.workers t).pendingPages = 0) :
    Moved env t s (s.setWorker t { s.workers t with status := 0, pc := .done })
  | readFails (hpc : (s.workers t).pc = .loop) (hpending : (s.workers t).pendingPages ≠ 0)
      (hret : i32 (dataStatus env s (s.workers t)).toNat < 0) :
    Moved env t s ((afterRead env t s (s.workers t)).setWorker t
      { s.workers t with status := -1, pc := .done })
  | read (hpc : (s.workers t).pc = .loop) (hpending : (s.workers t).pendingPages ≠ 0)
      (hret : ¬ i32 (dataStatus env s (s.workers t)).toNat < 0) :
    Moved env t s ((afterRead env t s (s.workers t)).setWorker t
      { s.workers t with
        nrReadPages := (s.workers t).readLength
        srcPfn := (env.info t).diskReadBuffer
        pc := .page })
  | runEnds (hpc : (s.workers t).pc = .page) (hread : (s.workers t).nrReadPages = 0) :
    Moved env t s (s.setWorker t { s.workers t with pc := .loop })
  | skip (hpc : (s.workers t).pc = .page) (hread : (s.workers t).nrReadPages ≠ 0)
      (hmap : checkSwapMapPage env.image (s.workers t).offset = true) :
    Moved env t s (s.setWorker t (s.workers t).advance)
  | hand (hpc : (s.workers t).pc = .page) (hread : (s.workers t).nrReadPages ≠ 0)
      (hmap : checkSwapMapPage env.image (s.workers t).offset = false) (haes : env.aes = none) :
    Moved env t s (copyPageToDst env t s (s.workers t).take ((s.workers t).dstPfn env t)
      ((s.workers t).text s))
  | decryptFails (hpc : (s.workers t).pc = .page) (hread : (s.workers t).nrReadPages ≠ 0)
      (hmap : checkSwapMapPage env.image (s.workers t).offset = false)
      (haes : env.aes.isSome = true) (iv : List UInt8) (tempOut : Option (List UInt8)) :
    Moved env t s ((tempOut.elim s (storeTempOut env t s)).setWorker t
      { (s.workers t).take with iv := iv, status := -1, pc := .done })
  | decrypt (hpc : (s.workers t).pc = .page) (hread : (s.workers t).nrReadPages ≠ 0)
      (hmap : checkSwapMapPage env.image (s.workers t).offset = false)
      (aes : AesContext) (haes : env.aes = some aes) (iv plain : List UInt8)
      (hok : decryptPage aes (s.workers t).iv ((s.workers t).text s) (s.workers t).authtags =
        some ⟨iv, some plain, true⟩) :
    Moved env t s (copyPageToDst env t
      (storePlain (storeTempOut env t s plain) (s.workers t) plain)
      { (s.workers t).take with iv := iv, authtags := (s.workers t).authtags + aes.authsize }
      ((s.workers t).dstPfn env t) plain)
  | copy (dstPfn : Nat) (hpc : (s.workers t).pc = .copy dstPfn) :
    Moved env t s ((s.setMemory (copyPage s.memory (s.workers t).srcPfn dstPfn)).setWorker t
      (s.workers t).advance)
  | acquire (dstPfn : Nat) (hpc : (s.workers t).pc = .acquire dstPfn) (hmutex : s.mutex = none) :
    Moved env t s ({ s with mutex := some t }.setWorker t
      { s.workers t with pc := .bounce dstPfn })
  | bounce (dstPfn bouncePfn : Nat) (it : KernelPfnIterator)
      (hpc : (s.workers t).pc = .bounce dstPfn)
      (hget : env.pool.getUnusedPfn s.tables.iterator = some (bouncePfn, it)) :
    Moved env t s ({ s with tables := { s.tables with
        memory := copyPage s.memory (s.workers t).srcPfn bouncePfn
        iterator := it } }.setWorker t { s.workers t with pc := .update dstPfn bouncePfn })
  | update (dstPfn bouncePfn : Nat) (tables : BounceTables)
      (hpc : (s.workers t).pc = .update dstPfn bouncePfn)
      (hentry : s.tables.updateBounceEntry env.pool dstPfn bouncePfn = some tables) :
    Moved env t s ({ s with tables := tables }.setWorker t { s.workers t with pc := .release })
  | release (hpc : (s.workers t).pc = .release) :
    Moved env t s ({ s with mutex := none }.setWorker t (s.workers t).advance)

variable {env : RestoreEnv} {s s' : RestoreState} {t : Nat}

theorem pageStep_moved (hpc : (s.workers t).pc = .page)
    (h : pageStep env t s (s.workers t) = some s') : Moved env t s s' := by
  unfold pageStep at h
  split_ifs at h with hread hmap
  · cases h
    exact .runEnds hpc hread
  · cases h
    exact .skip hpc hread hmap
  · have hmap' : checkSwapMapPage env.image (s.workers t).offset = false :=
      Bool.not_eq_true _ ▸ hmap
    cases haes : env.aes with
    | none =>
      rw [haes] at h
      cases h
      exact .hand hpc hread hmap' haes
    | some aes =>
      rw [haes] at h
      obtain ⟨⟨iv, tempOut, ok⟩, hd, hs⟩ := Option.map_eq_some_iff.mp h
      subst hs
      cases tempOut with
      | none => exact .decryptFails hpc hread hmap' (by rw [haes]; rfl) iv none
      | some plain =>
        cases ok with
        | false => exact .decryptFails hpc hread hmap' (by rw [haes]; rfl) iv (some plain)
        | true => exact .decrypt hpc hread hmap' aes haes iv plain hd

/-- All that a step of a worker can do. -/
theorem workerStep_moved (h : workerStep env t s = some s') : Moved env t s s' := by
  unfold workerStep at h
  dsimp only at h
  cases hpc : (s.workers t).pc with
  | loop =>
    rw [hpc] at h
    cases h
    unfold loopStep
    split_ifs with hpending hret
    · exact .finish hpc hpending
    · exact .readFails hpc hpending hret
    · exact .read hpc hpending hret
  | page =>
    rw [hpc] at h
    exact pageStep_moved hpc h
  | copy dstPfn =>
    rw [hpc] at h
    cases h
    exact .copy dstPfn hpc
  | acquire dstPfn =>
    rw [hpc] at h
    split_ifs at h with hmutex
    cases h
    exact .acquire dstPfn hpc hmutex
  | bounce dstPfn =>
    rw [hpc] at h
    obtain ⟨⟨bouncePfn, it⟩, hget, hs⟩ := Option.map_eq_some_iff.mp h
    subst hs
    exact .bounce dstPfn bouncePfn it hpc hget
  | update dstPfn bouncePfn =>
    rw [hpc] at h
    obtain ⟨tables, hentry, hs⟩ := Option.map_eq_some_iff.mp h
    subst hs
    exact .update dstPfn bouncePfn tables hpc hentry
  | release =>
    rw [hpc] at h
    cases h
    exact .release hpc
  | done =>
    rw [hpc] at h
    exact nomatch h

theorem restoreMachine_moved (h : restoreMachine env s t = some s') :
    t < env.cores ∧ env.threadResume t = EFI_SUCCESS ∧ Moved env t s s' := by
  unfold restoreMachine at h
  split_ifs at h with hcore
  exact ⟨hcore.1, hcore.2, workerStep_moved h⟩

/-- What `RestoreSnapshotImage` returns when every thread has posted its semaphore. -/
def restoreResult (env : RestoreEnv) (s : RestoreState) : Option Int :=
  if (List.range env.cores).all fun t => decide ((s.workers t).pc = .done) then
    if (List.range env.cores).all fun t => decide ((s.workers t).status = 0) then
      some (i32 (env.threadResume 0).toNat)
    else some (-1)
  else none

/-! ### Setting up the restore -/

namespace SwsuspInfo

def imagePages (info : Bytes) : Nat := info.u64At 416
def pages (info : Bytes) : Nat := info.u64At 424

end SwsuspInfo

/-- What the platform gives to the restore.  A pool is missing if it could not be allocated. -/
structure RestorePlatform where
  swap : Swap
  /-- the memory when the threads start -/
  memory : Bytes
  kernelProtocol : Bool
  infoPool : Bool
  pfnPool : Option Bytes
  threadNamePool : Bool
  diskReadBuffer : Nat → Option Nat
  /-- with AES support -/
  aes : Option AesPlatform
  uefiMapUnmapped : EfiStatus
  conventionalMemoryRanges : Option (List FreeRange)
  allocatePages : Nat → EfiStatus
  threadResume : Nat → EfiStatus

section Setup

variable (platform : RestorePlatform)

def RestorePlatform.numCores : Nat := if platform.aes.isSome then 8 else 1

def readSwapInfoStruct (image : Nat) : Prog Reads RestoreExit (Nat × Nat) :=
  if !platform.infoPool then throw .failed
  else do
    let (ret, info) ← readImage platform.swap (u64 (image + 1)) 1 fun _ => 0
    if ret ≠ 0 then throw .failed
    else
      return (u32 (u64Sub (u64Sub (SwsuspInfo.pages info) (SwsuspInfo.imagePages info)) 1),
        u32 (SwsuspInfo.imagePages info))

def decryptPfnPages (aes : AesContext) : (pages : Nat) → (iv : List UInt8) → (index auth : Nat) →
    Bytes → Prog Reads RestoreExit (Bytes × List UInt8 × Nat)
  | 0, iv, _, auth, pfnArray => return (pfnArray, iv, auth)
  | pages + 1, iv, index, auth, pfnArray =>
    match decryptPage aes iv (pfnArray.frame PAGE_SIZE index) auth with
    | none => throw .stuck
    | some d =>
      if d.ok then
        decryptPfnPages aes pages d.iv (index + 1) (auth + aes.authsize)
          (pfnArray.setFrame PAGE_SIZE index (d.tempOut.getD []))
      else throw .failed

/-- `ReadKernelImagePfnIndexes`: the index, the page behind it, and the IV and the position among
    the tags that are next. -/
def readKernelImagePfnIndexes (image nrMetaPages : Nat) (aes : Option (AesContext × List UInt8)) :
    Prog Reads RestoreExit (Bytes × Nat × List UInt8 × Nat) := do
  let (pfnArray, offset) ← readPfnPages platform.swap image nrMetaPages platform.pfnPool
  match aes with
  | none => return (pfnArray, offset, [], 0)
  | some (aes, iv) => do
    let (pfnArray, iv, auth) ← decryptPfnPages aes nrMetaPages iv 0 0 pfnArray
    return (pfnArray, offset, iv, auth)

def skipPages (image offset : Nat) : (numPages : Nat) → Nat
  | 0 => offset
  | numPages + 1 => skipSwapMap image (skipPages image offset numPages) + 1

/-- `NUM_PAGES_PER_SILVER_CORE` and `NUM_PAGES_PER_GOLD_CORE` by thread, and what is left for the
    last one. -/
def pagesPerCore (cores nrCopyPages t : Nat) : Nat :=
  if cores = 1 then nrCopyPages
  else if t < 4 then nrCopyPages / 54 * 4
  else if t < 7 then nrCopyPages / 54 * 9
  else nrCopyPages - 4 * (nrCopyPages / 54 * 4) - 3 * (nrCopyPages / 54 * 9)

def pagesBefore (cores nrCopyPages t : Nat) : Nat :=
  ((List.range t).map (pagesPerCore cores nrCopyPages)).sum

def ivOfCore (cores nrCopyPages : Nat) (iv : List UInt8) : (t : Nat) → Option (List UInt8)
  | 0 => some iv
  | t + 1 =>
    (ivOfCore cores nrCopyPages iv t).bind fun iv =>
      incrementIV iv (pagesPerCore cores nrCopyPages t)

def coreIv (nrCopyPages : Nat) (iv : List UInt8) (t : Nat) : Option (List UInt8) :=
  if platform.aes.isSome then ivOfCore platform.numCores nrCopyPages iv t else some []

def restoreInfo (image nrCopyPages offset auth authsize : Nat) (iv : List UInt8) (t : Nat) :
    Option RestoreInfo := do
  let cores := platform.numCores
  let buffer ← platform.diskReadBuffer t
  let iv ← coreIv platform nrCopyPages iv t
  return {
    kernelPfnIndexes := pagesBefore cores nrCopyPages t
    offset := skipPages image offset (pagesBefore cores nrCopyPages t)
    numPages := pagesPerCore cores nrCopyPages t
    authtags := auth + pagesBefore cores nrCopyPages t * authsize
    iv := iv
    diskReadBuffer := buffer
    tempOut := ((platform.aes.bind fun aes => aes.tempOut t)).getD 0 }

def initAes (nrMetaPages nrCopyPages : Nat) :
    Prog Reads RestoreExit (Option (AesContext × List UInt8)) :=
  match platform.aes with
  | none => pure none
  | some aes =>
    some <$> initAesDecrypt platform.swap aes nrMetaPages nrCopyPages platform.numCores

def restoreEnv (image : Nat) (aes : Option AesContext) (pool : PfnPool)
    (info : Nat → Option RestoreInfo) : RestoreEnv where
  swap := platform.swap
  image := image
  pool := pool
  aes := aes
  cores := platform.numCores
  info t := (info t).getD default
  threadResume := platform.threadResume

/-- `RestoreSnapshotImage` from the creation of the threads to the first bounce table, for the free
    ranges of the memory map. -/
def createThreads (image : Nat) (aes : Option AesContext) (nrCopyPages : Nat) (pfnArray : Bytes)
    (info : Nat → Option RestoreInfo) (ranges : List FreeRange) :
    Prog Reads RestoreExit (RestoreEnv × RestoreState) :=
  let preallocated := preallocateFreeRanges platform.allocatePages ranges
  let pool : PfnPool := ⟨fun i => pfnArray.u64At (8 * i), nrCopyPages, preallocated.2⟩
  let env := restoreEnv platform image aes pool info
  if preallocated.1 < 0 then throw .failed
  else match pool.getUnusedPfn ⟨0, 0, 0⟩ with
    | none => throw .stuck
    | some (pfn, it) => do
      let reads ← get
      return (env,
        { tables := ⟨platform.memory, it, pfnAddr pfn, pfnAddr pfn, 0, 0⟩
          mutex := none
          workers := fun t => Worker.start (env.info t)
          reads := reads })

/-- `RestoreSnapshotImage` when everything has been read that describes the image. -/
def divideImage (image nrCopyPages : Nat) (aes : Option AesContext) (pfnArray : Bytes)
    (offset : Nat) (iv : List UInt8) (auth : Nat) :
    Prog Reads RestoreExit (RestoreEnv × RestoreState) :=
  let authsize := (aes.map AesContext.authsize).getD 0
  let info := restoreInfo platform image nrCopyPages offset auth authsize iv
  if !platform.threadNamePool then throw .failed
  else if (List.range platform.numCores).any fun t =>
    (coreIv platform nrCopyPages iv t).isNone then throw .stuck
  else if (List.range platform.numCores).any fun t => (info t).isNone then throw .failed
  -- the semaphores are made before the pointer is looked at
  else if !platform.kernelProtocol then throw .stuck
  else if i32 platform.uefiMapUnmapped.toNat < 0 then throw .failed
  else match platform.conventionalMemoryRanges with
    | none => throw .failed
    | some ranges => createThreads platform image aes nrCopyPages pfnArray info ranges

def restoreSetup (image : Nat) : Prog Reads RestoreExit (RestoreEnv × RestoreState) := do
  let (nrMetaPages, nrCopyPages) ← readSwapInfoStruct platform image
  let aes ← initAes platform nrMetaPages nrCopyPages
  let (pfnArray, offset, iv, auth) ← readKernelImagePfnIndexes platform image nrMetaPages aes
  divideImage platform image nrCopyPages (aes.map Prod.fst) pfnArray offset iv auth

end Setup

/-! ### BootIntoHibernationImage -/

def HIBERNATE_SIG : List UInt8 := ascii "S1SUSPEND" ++ [0]

namespace SwsUspHeader

def image (header : Bytes) : Nat := header.u64At 4064
def sig (header : Bytes) : List UInt8 := header.slice 4086 10

end SwsUspHeader

structure HibernationBoot extends RestorePlatform where
  /-- `PartitionGetInfo` finds the partition and its handle -/
  swapPartition : Bool
  headerPool : Bool
  /-- the pointer is not `NULL` -/
  setRotAndBootState : Bool
  loadImageAndAuth : EfiStatus
  keyMasterFbeSetSeed : EfiStatus
  /-- the number of page tables behind the first one -/
  pageTables : Nat
  shutdownUefiBootServices : EfiStatus

def checkForValidHeader (boot : HibernationBoot) : Prog Reads RestoreExit Nat :=
  let io := boot.swap.io
  if !boot.headerPool then throw .failed
  else if !boot.swapPartition then throw .failed
  else if CHECK_ADD64 io.lastBlock 1 then throw .failed
  else if MAX_UINT64 / (io.lastBlock + 1) < io.blockSize then throw .failed
  else do
    let (ret, header) ← readImage boot.swap 0 1 fun _ => 0
    if ret ≠ 0 then throw .failed
    else if memCmp HIBERNATE_SIG (SwsUspHeader.sig header) 10 then throw .failed
    else if SwsUspHeader.image header ≠ 1 then throw .failed
    else return SwsUspHeader.image header

def restoreStart (boot : HibernationBoot) : Prog Reads RestoreExit (RestoreEnv × RestoreState) := do
  let image ← checkForValidHeader boot
  if !boot.setRotAndBootState then throw .failed
  else if boot.loadImageAndAuth ≠ EFI_SUCCESS then throw .failed
  else if boot.keyMasterFbeSetSeed ≠ EFI_SUCCESS then throw .failed
  else restoreSetup boot.toRestorePlatform image

def getUnusedPfns (pool : PfnPool) : (n : Nat) → KernelPfnIterator → Option KernelPfnIterator
  | 0, it => some it
  | n + 1, it => (pool.getUnusedPfn it).bind fun (_, it) => getUnusedPfns pool n it

inductive Resume where
  | returned                      -- to a normal boot
  | waiting                       -- for a thread, or for ever
  | jumped (s : RestoreState)     -- the relocated code copies the bounced pages and jumps

def bootIntoHibernationImage (boot : HibernationBoot) (schedule : List Nat) : Resume :=
  match ((restoreStart boot).exec []).1 with
  | .error .failed => .returned
  | .error .stuck => .waiting
  | .ok (env, s) =>
    match ((restoreMachine env).run s schedule).bind fun s => (restoreResult env s).map (s, ·) with
    | none => .waiting
    | some (s, ret) =>
      if ret ≠ 0 then .returned
      else
        -- the relocated code, the stack, and the page tables
        match getUnusedPfns env.pool (3 + boot.pageTables) s.tables.iterator with
        | none => .waiting
        | some _ =>
          -- `Status` is an `INT32` there
          if i32 boot.shutdownUefiBootServices.toNat < 0 then .returned else .jumped s

/-! ### No failed read before the jump -/

def AllSucceed (reads : Reads) : Prop := ∀ status ∈ reads, status = EFI_SUCCESS

theorem AllSucceed.append {reads : Reads} {status : EfiStatus} (h : AllSucceed reads)
    (hstatus : status = EFI_SUCCESS) : AllSucceed (reads ++ [status]) := by
  intro st hst
  rcases List.mem_append.mp hst with hmem | hmem
  · exact h st hmem
  · rw [List.mem_singleton.mp hmem, hstatus]

abbrev ReadsChecked {α : Type} (m : Prog Reads RestoreExit α) : Prop := Maintains AllSucceed m

section ReadsChecked

variable {α : Type} {swap : Swap} {image nrMetaPages : Nat} {pfnArray : Bytes} {reads : Reads}

section

variable (hlow : swap.FailuresShow)
include hlow

theorem wp_readImage {offset nrPages : Nat} {buff : Bytes}
    {f : Int × Bytes → Prog Reads RestoreExit α} {Q : α → Reads → Prop}
    (hfail : ∀ ret data, ret ≠ 0 → f (ret, data) = throw .failed)
    (hf : swap.readStatus reads.length offset nrPages = EFI_SUCCESS →
      wp (f (0, (swap.readImage reads.length offset nrPages buff).2)) Q anyExit
        (reads ++ [EFI_SUCCESS])) :
    wp (readImage swap offset nrPages buff >>= f) Q anyExit reads := by
  unfold readImage
  simp only [wp_bind, wp_get, wp_modify, wp_pure]
  unfold Swap.readImage at hf ⊢
  by_cases hret : i32 (swap.readStatus reads.length offset nrPages).toNat = 0
  · have hstatus := hlow.readStatus_eq hret
    rw [hstatus] at hf ⊢
    exact hf rfl
  · rw [hfail _ _ hret]
    trivial

theorem readImage_checked {offset nrPages : Nat} {buff : Bytes}
    {f : Int × Bytes → Prog Reads RestoreExit α}
    (hfail : ∀ ret data, ret ≠ 0 → f (ret, data) = throw .failed)
    (hf : ∀ data, ReadsChecked (f (0, data))) :
    ReadsChecked (readImage swap offset nrPages buff >>= f) :=
  fun _ hreads => wp_readImage hlow hfail fun _ => hf _ _ (hreads.append rfl)

theorem readPfnRuns_checked {rounds loop diskOffset pagesToRead pagesRead pending : Nat} :
    ReadsChecked (readPfnRuns swap image rounds loop diskOffset pagesToRead pagesRead pending
      pfnArray) := by
  induction rounds generalizing loop diskOffset pagesToRead pagesRead pending pfnArray with
  | zero => exact .throw _
  | succ rounds ih =>
    refine readImage_checked hlow (fun ret data hne => if_pos hne) fun data => ?_
    exact .ite (.throw _) (.ite (.pure _) ih)

theorem readPfnPages_checked {pool : Option Bytes} :
    ReadsChecked (readPfnPages swap image nrMetaPages pool) := by
  cases pool with
  | none => exact .throw _
  | some pfnArray => exact .ite (.throw _) (readPfnRuns_checked hlow)

theorem initAesDecrypt_checked {aes : AesPlatform} {nrCopyPages cores : Nat} :
    ReadsChecked (initAesDecrypt swap aes nrMetaPages nrCopyPages cores) := by
  refine readImage_checked hlow (fun ret data hne => if_pos hne) fun dp => ?_
  refine .ite (.throw _) ?_
  split
  · exact .throw _
  · refine .ite (.throw _) ?_
    refine readImage_checked hlow (fun ret data hne => if_pos hne) fun authtags => ?_
    refine .ite (.throw _) (.ite (.throw _) ?_)
    split
    · exact .throw _
    · exact .pure _

end

theorem decryptPfnPages_checked {aes : AesContext} {pages index auth : Nat} {iv : List UInt8} :
    ReadsChecked (decryptPfnPages aes pages iv index auth pfnArray) := by
  induction pages generalizing iv index auth pfnArray with
  | zero => exact .pure _
  | succ pages ih =>
    unfold decryptPfnPages
    split
    · exact .throw _
    · exact .ite ih (.throw _)

variable {platform : RestorePlatform} {nrCopyPages : Nat} {aes : Option AesContext}

/-- The threads start with the reads of the setup. -/
theorem divideImage_checked {offset auth : Nat} {iv : List UInt8} (hreads : AllSucceed reads) :
    wp (divideImage platform image nrCopyPages aes pfnArray offset iv auth)
      (fun r _ => AllSucceed r.2.reads) anyExit reads := by
  refine .ite (fun _ => trivial) fun _ => .ite (fun _ => trivial) fun _ =>
    .ite (fun _ => trivial) fun _ => .ite (fun _ => trivial) fun _ =>
    .ite (fun _ => trivial) fun _ => ?_
  split
  · trivial
  refine .ite (fun _ => trivial) fun _ => ?_
  generalize PfnPool.getUnusedPfn _ _ = unused
  cases unused with
  | none => trivial
  | some unused => exact hreads

section

variable (hlow : platform.swap.FailuresShow)
include hlow

theorem readSwapInfoStruct_checked : ReadsChecked (readSwapInfoStruct platform image) := by
  refine .ite (.throw _) ?_
  refine readImage_checked hlow (fun ret data hne => if_pos hne) fun data => ?_
  exact .ite (.throw _) (.pure _)

theorem initAes_checked : ReadsChecked (initAes platform nrMetaPages nrCopyPages) := by
  unfold initAes
  split
  · exact .pure _
  · exact .bind (initAesDecrypt_checked hlow) fun _ => .pure _

theorem readKernelImagePfnIndexes_checked {aes : Option (AesContext × List UInt8)} :
    ReadsChecked (readKernelImagePfnIndexes platform image nrMetaPages aes) := by
  refine .bind (readPfnPages_checked hlow) fun pages => ?_
  cases aes with
  | none => exact .pure _
  | some aes => exact .bind decryptPfnPages_checked fun _ => .pure _

theorem restoreSetup_checked (hreads : AllSucceed reads) :
    wp (restoreSetup platform image) (fun r _ => AllSucceed r.2.reads) anyExit reads := by
  refine wp_seq (readSwapInfoStruct_checked hlow reads hreads) fun counts reads₁ h₁ => ?_
  refine wp_seq (initAes_checked hlow reads₁ h₁) fun aes reads₂ h₂ => ?_
  refine wp_seq (readKernelImagePfnIndexes_checked hlow reads₂ h₂) fun index reads₃ h₃ => ?_
  exact divideImage_checked h₃

end

theorem checkForValidHeader_checked {boot : HibernationBoot} (hlow : boot.swap.FailuresShow) :
    ReadsChecked (checkForValidHeader boot) := by
  refine .ite (.throw _) (.ite (.throw _) (.ite (.throw _) (.ite (.throw _) ?_)))
  refine readImage_checked hlow (fun ret data hne => if_pos hne) fun header => ?_
  exact .ite (.throw _) (.ite (.throw _) (.ite (.throw _) (.pure _)))

theorem restoreStart_checked {boot : HibernationBoot} (hlow : boot.swap.FailuresShow) :
    wp (restoreStart boot) (fun r _ => AllSucceed r.2.reads) anyExit [] := by
  refine wp_seq (checkForValidHeader_checked hlow [] fun _ h => nomatch h) fun image reads h => ?_
  exact .ite (fun _ => trivial) fun _ => .ite (fun _ => trivial) fun _ =>
    .ite (fun _ => trivial) fun _ => restoreSetup_checked hlow h

end ReadsChecked

/-- The next step of a thread reads no pages, or reads them successfully, or fails with a status
    that is negative as an `INT32`. -/
def ReadNoticed (env : RestoreEnv) (s : RestoreState) (t : Nat) : Prop :=
  (s.workers t).pc = .loop → (s.workers t).pendingPages ≠ 0 →
    dataStatus env s (s.workers t) = EFI_SUCCESS ∨
      i32 (dataStatus env s (s.workers t)).toNat < 0

instance {env : RestoreEnv} {s : RestoreState} {t : Nat} : Decidable (ReadNoticed env s t) :=
  inferInstanceAs (Decidable (_ → _ → _))

/-- No failure of the hardware looks like a success in the low word of its status, and every failed
    read of data pages has a status that is negative as an `INT32`. -/
structure FailuresNoticed (boot : HibernationBoot) (schedule : List Nat) : Prop where
  outcome : ∀ n, i32 (boot.swap.io.outcome n).toNat = 0 → boot.swap.io.outcome n = EFI_SUCCESS
  data : ∀ env s, ((restoreStart boot).exec []).1 = .ok (env, s) →
    Machine.Along (restoreMachine env) (ReadNoticed env) s schedule

section Noticed

variable {env : RestoreEnv} {t u : Nat} {s s' : RestoreState}

theorem Moved.others (h : Moved env t s s') (hu : u ≠ t) : s'.workers u = s.workers u := by
  cases h with
  | decryptFails hpc hread hmap haes iv tempOut =>
    cases tempOut <;> simp [hu, storeTempOut]
  | _ => simp [hu, afterRead, copyPageToDst, storePlain, storeTempOut]

theorem Moved.not_done (h : Moved env t s s') : (s.workers t).pc ≠ .done := by
  intro hdone
  cases h <;> exact absurd (hdone.symm.trans ‹_›) (by simp)

theorem Moved.reads_eq (h : Moved env t s s') :
    s'.reads = s.reads ∨
      (s.workers t).pc = .loop ∧ (s.workers t).pendingPages ≠ 0 ∧
        s'.reads = s.reads ++ [dataStatus env s (s.workers t)] ∧
        (i32 (dataStatus env s (s.workers t)).toNat < 0 →
          (s'.workers t).pc = .done ∧ (s'.workers t).status = -1) := by
  cases h with
  | readFails hpc hpending hret => exact .inr ⟨hpc, hpending, rfl, fun _ => by simp⟩
  | read hpc hpending hret => exact .inr ⟨hpc, hpending, rfl, fun hneg => absurd hneg hret⟩
  | decryptFails hpc hread hmap haes iv tempOut =>
    left
    cases tempOut <;> rfl
  | _ => exact .inl rfl

def ReadsOrError (env : RestoreEnv) (s : RestoreState) : Prop :=
  AllSucceed s.reads ∨
    ∃ u < env.cores, (s.workers u).pc = .done ∧ (s.workers u).status = -1

theorem ReadsOrError.step (h : ReadsOrError env s) (hnoticed : ReadNoticed env s t)
    (hstep : restoreMachine env s t = some s') : ReadsOrError env s' := by
  obtain ⟨ht, -, hmoved⟩ := restoreMachine_moved hstep
  rcases h with hreads | ⟨u, hu, hdone, hstatus⟩
  · rcases hmoved.reads_eq with heq | ⟨hpc, hpending, heq, hneg⟩
    · exact .inl (heq ▸ hreads)
    · rcases hnoticed hpc hpending with hok | hlt
      · exact .inl (heq ▸ hreads.append hok)
      · exact .inr ⟨t, ht, hneg hlt⟩
  · -- the thread that has ended does not move
    have hne : u ≠ t := by
      rintro rfl
      exact hmoved.not_done hdone
    exact .inr ⟨u, hu, by rw [hmoved.others hne]; exact ⟨hdone, hstatus⟩⟩

theorem restoreResult_eq_zero (h : restoreResult env s = some 0) (hu : u < env.cores) :
    (s.workers u).pc = .done ∧ (s.workers u).status = 0 := by
  unfold restoreResult at h
  split_ifs at h with hdone hstatus
  · have hmem := List.mem_range.mpr hu
    exact ⟨of_decide_eq_true (List.all_eq_true.mp hdone u hmem),
      of_decide_eq_true (List.all_eq_true.mp hstatus u hmem)⟩
  · exact absurd h (by decide)

theorem ReadsOrError.reads (h : ReadsOrError env s) (hresult : restoreResult env s = some 0) :
    AllSucceed s.reads := by
  rcases h with hreads | ⟨u, hu, -, hstatus⟩
  · exact hreads
  · have := (restoreResult_eq_zero hresult hu).2
    rw [hstatus] at this
    exact absurd this (by decide)

end Noticed

variable {boot : HibernationBoot}

theorem bootIntoHibernationImage_jumped {schedule : List Nat}
    (h : bootIntoHibernationImage boot schedule = .jumped s) :
    ∃ env s₀, ((restoreStart boot).exec []).1 = .ok (env, s₀) ∧
      (restoreMachine env).run s₀ schedule = some s ∧ restoreResult env s = some 0 := by
  unfold bootIntoHibernationImage at h
  split at h
  · exact nomatch h
  · exact nomatch h
  · rename_i env s₀ hstart
    split at h
    · exact nomatch h
    · rename_i s' ret hrun
      split at h
      · exact nomatch h
      · rename_i hret
        split at h
        · exact nomatch h
        · split at h
          · exact nomatch h
          · cases h
            obtain ⟨s₁, hrun, hmap⟩ := Option.bind_eq_some_iff.mp hrun
            obtain ⟨r, hresult, hpair⟩ := Option.map_eq_some_iff.mp hmap
            cases hpair
            exact ⟨env, s₀, hstart, hrun, not_not.mp hret ▸ hresult⟩

/-- A boot that enters the restored kernel has seen no failed read, if every failed read of data
    pages has a status that is negative as an `INT32`: the other reads compare the status with
    zero. -/
theorem bootIntoHibernationImage_reads_succeed {boot : HibernationBoot} {schedule : List Nat}
    {s : RestoreState} (hnoticed : FailuresNoticed boot schedule)
    (h : bootIntoHibernationImage boot schedule = .jumped s) :
    ∀ status ∈ s.reads, status = EFI_SUCCESS := by
  obtain ⟨env, s₀, hstart, hrun, hresult⟩ := bootIntoHibernationImage_jumped h
  have hreads₀ : AllSucceed s₀.reads :=
    wp_ok (restoreStart_checked hnoticed.outcome) (exec_of_result hstart)
  have hfinal : ReadsOrError env s :=
    Machine.run_invariant_along (fun s t s' hs hP hstep => hs.step hP hstep) (.inl hreads₀)
      (hnoticed.data env s₀ hstart) hrun
  exact hfinal.reads hresult

/-- A partition with an image of three data pages for the frames `0x1A10`, `0x1A20` and `0x1A30`. -/
def sampleImage : Bytes :=
  let header := (Bytes.put (fun _ => 0) 4064 8 1).overwrite 4086 10 fun i => HIBERNATE_SIG.getD i 0
  let info := (header.put (2 * PAGE_SIZE + 416) 8 3).put (2 * PAGE_SIZE + 424) 8 5
  (((info.put (3 * PAGE_SIZE) 8 0x1A10).put (3 * PAGE_SIZE + 8) 8 0x1A20).put
    (3 * PAGE_SIZE + 16) 8 0x1A30).put (3 * PAGE_SIZE + 24) 8 0x1A40

def sampleHibernation (outcome : Nat → EfiStatus) : HibernationBoot where
  swap :=
    { io :=
        { blockSize := 4096
          lastBlock := 1023
          blockSize_lt := by decide
          lastBlock_lt := by decide
          outcome := outcome }
      contents := sampleImage
      leaves := fun _ _ => 0 }
  memory := fun _ => 0
  kernelProtocol := true
  infoPool := true
  pfnPool := some fun _ => 0
  threadNamePool := true
  diskReadBuffer := fun _ => some 0x9000
  aes := none
  uefiMapUnmapped := EFI_SUCCESS
  conventionalMemoryRanges := some [⟨0x1000000, 0x2000000⟩]
  allocatePages := fun _ => EFI_SUCCESS
  threadResume := fun _ => EFI_SUCCESS
  swapPartition := true
  headerPool := true
  setRotAndBootState := true
  loadImageAndAuth := EFI_SUCCESS
  keyMasterFbeSetSeed := EFI_SUCCESS
  pageTables := 2
  shutdownUefiBootServices := EFI_SUCCESS

def Resume.reads? : Resume → Option Reads
  | .jumped s => some s.reads
  | _ => none

theorem Resume.eq_jumped {r : Resume} (h : r.reads? = some reads) :
    ∃ s, r = .jumped s ∧ s.reads = reads := by
  cases r with
  | jumped s => exact ⟨s, rfl, Option.some.inj h⟩
  | returned => exact nomatch h
  | waiting => exact nomatch h

theorem bootIntoHibernationImage_reads_succeed_sample :
    ∃ s, bootIntoHibernationImage (sampleHibernation fun _ => EFI_SUCCESS) (List.replicate 9 0) =
        .jumped s ∧ ∀ status ∈ s.reads, status = EFI_SUCCESS := by
  have hreads : (bootIntoHibernationImage (sampleHibernation fun _ => EFI_SUCCESS)
      (List.replicate 9 0)).reads? = some (List.replicate 4 EFI_SUCCESS) := by decide +kernel
  obtain ⟨s, hjump, -⟩ := Resume.eq_jumped hreads
  refine ⟨s, hjump, bootIntoHibernationImage_reads_succeed ⟨fun _ _ => rfl, ?_⟩ hjump⟩
  intro env s₀ hstart
  have halong : (match ((restoreStart (sampleHibernation fun _ => EFI_SUCCESS)).exec []).1 with
      | .ok r => decide (Machine.Along (restoreMachine r.1) (ReadNoticed r.1) r.2
          (List.replicate 9 0))
      | .error _ => true) = true := by decide +kernel
  rw [hstart] at halong
  exact of_decide_eq_true halong

/-- The read of the data pages fails, and the kernel is entered with what was in the buffer. -/
theorem bootIntoHibernationImage_ignores_failure :
    ∃ s, bootIntoHibernationImage
        (sampleHibernation fun n => if n = 3 then EFI_DEVICE_ERROR else EFI_SUCCESS)
        (List.replicate 9 0) = .jumped s ∧ EFI_DEVICE_ERROR ∈ s.reads := by
  have hreads : (bootIntoHibernationImage
      (sampleHibernation fun n => if n = 3 then EFI_DEVICE_ERROR else EFI_SUCCESS)
      (List.replicate 9 0)).reads? =
      some [EFI_SUCCESS, EFI_SUCCESS, EFI_SUCCESS, EFI_DEVICE_ERROR] := by decide +kernel
  obtain ⟨s, hjump, hs⟩ := Resume.eq_jumped hreads
  refine ⟨s, hjump, ?_⟩
  rw [hs]
  decide

end OhMyAbl
