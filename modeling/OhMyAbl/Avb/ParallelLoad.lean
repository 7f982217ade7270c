/-
  **Loading and hashing the boot image in two threads.**

  `LoadAndVerifyBootHashPartition` (`avb_load_verify_parallel.c`): a loader thread reads the halves
  of the image, a verifier thread hashes them, and the main thread looks at the status each has
  left. The three are one machine whose labels name the thread that takes the next step; each access
  to shared memory and each semaphore operation is a step.  Hashing and the partition reader are
  parameters.
-/
import OhMyAbl.Lib.Bytes
import OhMyAbl.Lib.Machine
import OhMyAbl.Base.Efi

namespace OhMyAbl

/-! ### Results of libavb -/

/-- `AvbSlotVerifyResult`; `unnamed` stands for the values of the C type that no
    enumerator has. -/
inductive AvbSlotVerifyResult where
  | OK
  | ERROR_OOM
  | ERROR_IO
  | ERROR_VERIFICATION
  | ERROR_ROLLBACK_INDEX
  | ERROR_PUBLIC_KEY_REJECTED
  | ERROR_INVALID_METADATA
  | ERROR_UNSUPPORTED_VERSION
  | ERROR_INVALID_ARGUMENT
  | unnamed (code : Nat)
deriving DecidableEq, Repr

inductive AvbIOResult where
  | OK
  | ERROR_OOM
  | ERROR_IO
  | ERROR_NO_SUCH_PARTITION
  | ERROR_RANGE_OUTSIDE_PARTITION
  | ERROR_NO_SUCH_VALUE
  | ERROR_INVALID_VALUE_SIZE
  | ERROR_INSUFFICIENT_SPACE
deriving DecidableEq, Repr

/-- An `EFI_STATUS` assigned to an `AvbSlotVerifyResult`: the low word is kept. -/
def AvbSlotVerifyResult.ofStatus (status : EfiStatus) : AvbSlotVerifyResult :=
  match u32 status.toNat with
  | 0 => .OK
  | 1 => .ERROR_OOM
  | 2 => AvbSlotVerifyResult.ERROR_IO
  | 3 => .ERROR_VERIFICATION
  | 4 => .ERROR_ROLLBACK_INDEX
  | 5 => .ERROR_PUBLIC_KEY_REJECTED
  | 6 => .ERROR_INVALID_METADATA
  | 7 => .ERROR_UNSUPPORTED_VERSION
  | 8 => .ERROR_INVALID_ARGUMENT
  | code => .unnamed code

/-! ### What the threads work with -/

structure ReadResult where
  result : AvbIOResult
  numRead : Nat
  data : Bytes

/-- `AvbOps.read_from_partition` on a partition: what the `i`th call does for an offset and
    a size.  A call that reports all bytes has delivered them; any other call may leave
    anything in the range. -/
structure PartitionReader where
  partition : Bytes
  read : Nat → Nat → Nat → ReadResult
  read_ok : ∀ i off size, (read i off size).result = .OK → (read i off size).numRead = size →
    ∀ k < size, (read i off size).data k = partition (off + k)

def AVB_SHA256_DIGEST_SIZE : Nat := 32

structure HashFns where
  sha256 : List UInt8 → List UInt8
  sha512 : List UInt8 → List UInt8
  sha256_length : ∀ m, (sha256 m).length = AVB_SHA256_DIGEST_SIZE

structure HashDescriptor where
  hashAlgorithm : List UInt8
  salt : List UInt8
  digest : List UInt8
deriving DecidableEq, Repr

def HashDescriptor.isSha256 (desc : HashDescriptor) : Bool :=
  (ascii "sha256").isPrefixOf desc.hashAlgorithm

def HashDescriptor.isSha512 (desc : HashDescriptor) : Bool :=
  (ascii "sha512").isPrefixOf desc.hashAlgorithm

structure ParallelEnv where
  hash : HashFns
  reader : PartitionReader
  desc : HashDescriptor
  imageSize : Nat
  /-- `image_buf` is not `NULL`. -/
  imageBuf : Bool
  /-- `InitReadMultiThreadEnv` found the kernel protocol. -/
  kernelProtocol : Bool
  /-- Both thread infos could be allocated. -/
  infoPool : Bool
  createLoader : Bool
  resumeLoader : EfiStatus
  createVerifier : Bool
  resumeVerifier : EfiStatus

namespace ParallelEnv

variable (env : ParallelEnv)

def splitImageSize : Nat := env.imageSize / 2
def remainImageSize : Nat := env.imageSize % 2

/-- The size of the second half as both threads compute it, and where it starts. -/
def secondSize : Nat := env.splitImageSize + env.remainImageSize
def secondOffset : Nat := 0 + env.secondSize

end ParallelEnv

def loadStatus (env : ParallelEnv) (i off size : Nat) : AvbSlotVerifyResult :=
  let r := env.reader.read i off size
  if r.result = .ERROR_OOM then .ERROR_OOM
  else if r.result ≠ .OK then AvbSlotVerifyResult.ERROR_IO
  else if r.numRead ≠ size then AvbSlotVerifyResult.ERROR_IO
  else .OK

def loadPartitionToVerify (env : ParallelEnv) (i off size : Nat) (buf : Bytes) :
    AvbSlotVerifyResult × Bytes :=
  (loadStatus env i off size, buf.overwrite off size (env.reader.read i off size).data)

/-! ### The threads -/

inductive ThreadId where
  | main
  | loader
  | verifier
deriving DecidableEq, Repr

inductive MainPc where
  | start
  | createLoader
  | createVerifier
  | wait            -- `SemWait (SemMainThread)`
  | checkLoad       -- about to read `ThreadLoadInfo->Status`
  | checkVerify     -- about to read `ThreadVerifyInfo->Status`
  | returned (status : AvbSlotVerifyResult)
  | faulted
deriving DecidableEq, Repr

inductive LoaderPc where
  | notRunning
  | loadFirst
  | postFirst
  | storeFirst
  | loadSecond
  | postSecond
  | storeSecond
  | exited
deriving DecidableEq, Repr

inductive VerifierPc where
  | notRunning
  | waitFirst
  | hashFirst
  | waitSecond
  | hashSecond
  | store
  | postMain
  | exited
deriving DecidableEq, Repr

/-- The state the threads share, with the local variables that live across steps. -/
structure ParallelState where
  main : MainPc
  loader : LoaderPc
  verifier : VerifierPc
  imageBuf : Bytes
  hashCtx : List UInt8
  loadInfoStatus : AvbSlotVerifyResult
  verifyInfoStatus : AvbSlotVerifyResult
  loaderStatus : AvbSlotVerifyResult
  verifierStatus : AvbSlotVerifyResult
  semMainThread : Nat
  semLoadFirst : Nat
  semLoadSecond : Nat

/-- The state in which the routine is entered, with whatever the buffer holds. -/
def ParallelState.init (imageBuf : Bytes) : ParallelState where
  main := .start
  loader := .notRunning
  verifier := .notRunning
  imageBuf := imageBuf
  hashCtx := []
  loadInfoStatus := .OK
  verifyInfoStatus := .OK
  loaderStatus := .OK
  verifierStatus := .OK
  semMainThread := 0
  semLoadFirst := 0
  semLoadSecond := 0

section Steps

variable (env : ParallelEnv)

def mainStep (s : ParallelState) : Option ParallelState :=
  match s.main with
  | .start =>
    if !env.imageBuf then
      some { s with main := .returned .ERROR_OOM }
    else if !env.desc.isSha256 && !env.desc.isSha512 then
      some { s with main := .returned .ERROR_INVALID_METADATA }
    else if !env.infoPool then
      some { s with main := .returned .ERROR_OOM, hashCtx := env.desc.salt }
    else
      some { s with main := .createLoader, hashCtx := env.desc.salt }
  | .createLoader =>
    if !env.kernelProtocol then
      some { s with main := .faulted }
    else if !env.createLoader then
      some { s with main := .returned (.ofStatus EFI_NOT_READY) }
    else
      -- the status of resuming the loader is overwritten below
      some { s with
        main := .createVerifier
        loader := if env.resumeLoader = EFI_SUCCESS then .loadFirst else .notRunning }
  | .createVerifier =>
    if !env.createVerifier then
      some { s with main := .returned (.ofStatus EFI_NOT_READY) }
    else if env.resumeVerifier ≠ EFI_SUCCESS then
      some { s with main := .returned (.ofStatus env.resumeVerifier) }
    else
      some { s with main := .wait, verifier := .waitFirst }
  | .wait =>
    if s.semMainThread = 0 then none
    else some { s with main := .checkLoad, semMainThread := s.semMainThread - 1 }
  | .checkLoad =>
    if s.loadInfoStatus ≠ .OK then some { s with main := .returned s.loadInfoStatus }
    else some { s with main := .checkVerify }
  | .checkVerify => some { s with main := .returned s.verifyInfoStatus }
  | .returned _ => none
  | .faulted => none

def loaderStep (s : ParallelState) : Option ParallelState :=
  match s.loader with
  | .loadFirst =>
    let (status, buf) := loadPartitionToVerify env 0 0 env.splitImageSize s.imageBuf
    -- a failed first read leaves the thread without a post and without a status
    if status ≠ .OK then some { s with loader := .exited, imageBuf := buf }
    else some { s with loader := .postFirst, imageBuf := buf, loaderStatus := status }
  | .postFirst => some { s with loader := .storeFirst, semLoadFirst := s.semLoadFirst + 1 }
  | .storeFirst => some { s with loader := .loadSecond, loadInfoStatus := s.loaderStatus }
  | .loadSecond =>
    let (status, buf) :=
      loadPartitionToVerify env 1 env.secondOffset env.secondSize s.imageBuf
    some { s with loader := .postSecond, imageBuf := buf, loaderStatus := status }
  | .postSecond => some { s with loader := .storeSecond, semLoadSecond := s.semLoadSecond + 1 }
  | .storeSecond => some { s with loader := .exited, loadInfoStatus := s.loaderStatus }
  | .notRunning => none
  | .exited => none

def finalSha256 (hashed : List UInt8) : AvbSlotVerifyResult :=
  if AVB_SHA256_DIGEST_SIZE ≠ env.desc.digest.length then .ERROR_INVALID_METADATA
  else if env.hash.sha256 hashed ≠ env.desc.digest then .ERROR_VERIFICATION
  else .OK

def verifierStep (s : ParallelState) : Option ParallelState :=
  match s.verifier with
  | .waitFirst =>
    if s.semLoadFirst = 0 then none
    else some { s with verifier := .hashFirst, semLoadFirst := s.semLoadFirst - 1 }
  | .hashFirst =>
    some { s with
      verifier := .waitSecond
      hashCtx := s.hashCtx ++ s.imageBuf.slice 0 env.splitImageSize
      verifierStatus := .OK }
  | .waitSecond =>
    if s.semLoadSecond = 0 then none
    else some { s with verifier := .hashSecond, semLoadSecond := s.semLoadSecond - 1 }
  | .hashSecond =>
    if env.desc.isSha256 then
      let hashed := s.hashCtx ++ s.imageBuf.slice env.secondOffset env.secondSize
      some { s with
        verifier := .store, hashCtx := hashed, verifierStatus := finalSha256 env hashed }
    else
      -- the SHA-512 branch tests the SHA-256 context, which is `NULL` here
      some { s with verifier := .store, verifierStatus := .ERROR_INVALID_ARGUMENT }
  | .store => some { s with verifier := .postMain, verifyInfoStatus := s.verifierStatus }
  | .postMain => some { s with verifier := .exited, semMainThread := s.semMainThread + 1 }
  | .notRunning => none
  | .exited => none

def loadAndVerifyBootHashPartition : Machine ParallelState ThreadId
  | s, .main => mainStep env s
  | s, .loader => loaderStep env s
  | s, .verifier => verifierStep env s

end Steps

end OhMyAbl
