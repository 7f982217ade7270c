/-
  **Slot verification (`avb_slot_verify.c`).**

  A vbmeta image is read, its signature and key are checked, its rollback index is compared, and its
  descriptors are walked.  What the parser and the signature check make of a vbmeta image is data
  here (`VbmetaImage`); of the command line only whether it could be built is kept.  The results
  follow the public keys through a whole verification.
-/
import OhMyAbl.Avb.Ops

namespace OhMyAbl

open Prog

def AVB_PART_NAME_MAX_SIZE : Nat := 32
def MAX_NUMBER_OF_LOADED_PARTITIONS : Nat := 32
def MAX_NUMBER_OF_VBMETA_IMAGES : Nat := 32
def AVB_MAX_NUMBER_OF_ROLLBACK_INDEX_LOCATIONS : Nat := 32

/-! ### Vbmeta images -/

/-- `AvbHashDescriptor` with what stands behind it; `valid` is the outcome of
    `avb_hash_descriptor_validate_and_byteswap`, and so for the others. -/
structure HashPartition where
  valid : Bool
  partitionName : List UInt8
  doNotUseAB : Bool
  imageSize : Nat
  desc : HashDescriptor

/-- `AvbHashtreeDescriptor`: what is used of it when it has no root digest. -/
structure HashtreePartition where
  valid : Bool
  rootDigestLen : Nat
  partitionName : List UInt8
  doNotUseAB : Bool
  hashAlgorithm : List UInt8

structure ChainPartition where
  valid : Bool
  rollbackIndexLocation : Nat
  partitionName : List UInt8
  publicKey : List UInt8

/-- `AvbDescriptor`; a kernel command line is invalid also when it is not UTF-8. -/
inductive Descriptor where
  | invalid
  | hash (h : HashPartition)
  | chain (c : ChainPartition)
  | kernelCmdline (valid : Bool) (flags : Nat)
  | hashtree (t : HashtreePartition)
  | property

/-- What `avb_vbmeta_image_verify`, the header and `avb_descriptor_get_all` give for the
    vbmeta image of a partition.  An image that verifies was signed with a key. -/
structure VbmetaImage where
  verifyResult : AvbVBMetaVerifyResult
  publicKey : List UInt8
  flags : Nat
  rollbackIndex : Nat
  rollbackIndexLocation : Nat
  descriptors : Option (List Descriptor)
  signed : verifyResult = .OK → publicKey ≠ []

structure SlotVerifyRequest where
  requestedPartitions : List (List UInt8)
  abSuffix : List UInt8
  allowVerificationError : Bool
  restartCausedByHashtreeCorruption : Bool
  noVbmetaPartition : Bool

/-- What slot verification finds on the device and what its calls to other parts of the
    loader give, by the name of the partition they are about. -/
structure SlotVerifyEnv where
  device : DeviceInfoEnv
  oemPublicKey : List UInt8
  hash : HashFns
  validUtf8 : List UInt8 → Bool
  contents : List UInt8 → Bytes
  readFooter : List UInt8 → AvbIOResult
  readVbmeta : List UInt8 → AvbIOResult × VbmetaImage
  getSizeOfPartition : List UInt8 → AvbIOResult × Nat
  -- the result and the number of bytes of a read from the start of a partition
  readFromPartition : List UInt8 → Nat → AvbIOResult × Nat
  allocVbmeta : List UInt8 → Bool
  allocImage : List UInt8 → Bool
  allocName : List UInt8 → Bool
  allocSlotData : Bool
  allocAbSuffix : Bool
  allocCmdline : Bool
  -- `avb_slot_verify_data_calculate_vbmeta_digest`
  vbmetaDigest : AvbSlotVerifyData → List UInt8
  addRootDigestSubstitution : List UInt8 → AvbSlotVerifyResult
  appendOptions : AvbSlotVerifyResult
  subCmdline : Bool
  -- `BOOTIMAGE_LOAD_VERIFY_IN_PARALLEL`, and what the two threads then give
  loadVerifyInParallel : Bool
  loadAndVerifyBootHashPartition : List UInt8 → HashPartition → AvbSlotVerifyResult × Bytes

def resultShouldContinue : AvbSlotVerifyResult → Bool
  | .OK | .ERROR_VERIFICATION | .ERROR_ROLLBACK_INDEX | .ERROR_PUBLIC_KEY_REJECTED => true
  | _ => false

def avbStrConcat (name suffix : List UInt8) : Option (List UInt8) :=
  if name.length + suffix.length > AVB_PART_NAME_MAX_SIZE - 1 then none else some (name ++ suffix)

def ofIOResult : AvbIOResult → AvbSlotVerifyResult
  | .OK => .OK
  | .ERROR_OOM => .ERROR_OOM
  | _ => AvbSlotVerifyResult.ERROR_IO

/-! ### Persistent digests -/

def persistentDigestName (part : List UInt8) : List UInt8 :=
  ascii "avb.persistent_digest." ++ part

def persistentDigestResult (io : AvbIOResult) (stored expected : Nat) : AvbSlotVerifyResult :=
  match io with
  | .ERROR_OOM => .ERROR_OOM
  | .ERROR_NO_SUCH_VALUE => .ERROR_VERIFICATION
  | .ERROR_INVALID_VALUE_SIZE | .ERROR_INSUFFICIENT_SPACE => .ERROR_INVALID_METADATA
  | .OK => if expected ≠ stored then .ERROR_INVALID_METADATA else .OK
  | _ => AvbSlotVerifyResult.ERROR_IO

variable (env : SlotVerifyEnv) (req : SlotVerifyRequest)

def readStoredDigest (part : List UInt8) (size : Nat) :
    Prog AvbState Exit (AvbSlotVerifyResult × List UInt8) := do
  let s ← get
  let r := avbReadPersistentValue s.device (persistentDigestName part) size
  if !env.allocName part then return (.ERROR_OOM, [])
  else return (persistentDigestResult r.1 r.2.length size, r.2)

/-- `initialize_persistent_digest`: on a locked device the digest is stored and read back. -/
def initializePersistentDigest (part : List UInt8) (size : Nat) (initialDigest : List UInt8) :
    Prog AvbState Exit (AvbSlotVerifyResult × List UInt8) := do
  let s ← get
  if s.device.devInfo.isUnlocked then return (.ERROR_VERIFICATION, [])
  else
    let io ← avbWritePersistentValue env.device (persistentDigestName part) initialDigest
    if io ≠ .OK then return (ofIOResult io, [])
    else readStoredDigest env part size

def readPersistentDigest (part : List UInt8) (size : Nat) (initialDigest : List UInt8) :
    Prog AvbState Exit (AvbSlotVerifyResult × List UInt8) := do
  let s ← get
  if env.allocName part ∧
      (avbReadPersistentValue s.device (persistentDigestName part) size).1 = .ERROR_NO_SUCH_VALUE
  then initializePersistentDigest env part size initialDigest
  else readStoredDigest env part size

/-! ### Loading partitions -/

def loadFullPartition (part : List UInt8) (size : Nat) : AvbSlotVerifyResult :=
  let r := env.readFromPartition part size
  if !env.allocImage part then .ERROR_OOM
  else if r.1 ≠ .OK then ofIOResult r.1
  else if r.2 ≠ size then AvbSlotVerifyResult.ERROR_IO
  else .OK

def addLoadedPartition (p : AvbPartitionData) (ret : AvbSlotVerifyResult) :
    Prog AvbState Exit AvbSlotVerifyResult := do
  let s ← get
  if s.slotData.loadedPartitions.length = MAX_NUMBER_OF_LOADED_PARTITIONS then return .ERROR_OOM
  else
    modify fun s => { s with slotData :=
      { s.slotData with loadedPartitions := s.slotData.loadedPartitions ++ [p] } }
    return ret

def loadRequestedPartitions (env : SlotVerifyEnv) (suffix : List UInt8) :
    List (List UInt8) → Prog AvbState Exit AvbSlotVerifyResult
  | [] => return .OK
  | name :: rest =>
    match avbStrConcat name suffix with
    | none => return .ERROR_INVALID_METADATA
    | some part => do
      let size := env.getSizeOfPartition part
      if size.1 ≠ .OK then return ofIOResult size.1
      else if loadFullPartition env part size.2 ≠ .OK then
        return loadFullPartition env part size.2
      else
        let ret ← addLoadedPartition ⟨name, env.contents part, size.2⟩ .OK
        if ret ≠ .OK then return ret
        else loadRequestedPartitions env suffix rest

def hashPartitionName (h : HashPartition) : Option (List UInt8) :=
  if h.doNotUseAB then
    if h.partitionName.length ≥ AVB_PART_NAME_MAX_SIZE then none else some h.partitionName
  else if h.desc.digest = [] ∧ req.abSuffix ≠ [] then none
  else avbStrConcat h.partitionName req.abSuffix

def AVB_SHA1_DIGEST_SIZE : Nat := 20
def AVB_SHA512_DIGEST_SIZE : Nat := 64

/-- The digest of a loaded image, and its length, by the algorithm of the descriptor. -/
def imageDigest (desc : HashDescriptor) (image : List UInt8) : Option (List UInt8 × Nat) :=
  if desc.hashAlgorithm = ascii "sha256" then
    some (env.hash.sha256 (desc.salt ++ image), AVB_SHA256_DIGEST_SIZE)
  else if desc.hashAlgorithm = ascii "sha512" then
    some (env.hash.sha512 (desc.salt ++ image), AVB_SHA512_DIGEST_SIZE)
  else none

/-- The digest of an image against the one expected of it, which is persistent when the
    descriptor has none. -/
def compareDigest (part : List UInt8) (desc : HashDescriptor) (digest : List UInt8)
    (digestLen : Nat) : Prog AvbState Exit AvbSlotVerifyResult := do
  if desc.digest = [] then
    let r ← readPersistentDigest env part digestLen digest
    if r.1 ≠ .OK then return r.1
    else if digest = r.2 then return .OK
    else return .ERROR_VERIFICATION
  else if digestLen ≠ desc.digest.length then return .ERROR_INVALID_METADATA
  else if digest = desc.digest then return .OK
  else return .ERROR_VERIFICATION

/-- The size to load: an image that need not match its descriptor is loaded with the whole
    partition. -/
def hashImageSize (h : HashPartition) (part : List UInt8) : AvbIOResult × Nat :=
  if req.allowVerificationError then env.getSizeOfPartition part else (.OK, h.imageSize)

/-- Load the image of a partition and compare its digest: the result, and the image if there
    is one. -/
def verifyHashImage (h : HashPartition) (part : List UInt8) (size : Nat) :
    Prog AvbState Exit (AvbSlotVerifyResult × Option AvbPartitionData) := do
  if env.loadVerifyInParallel && strnCmp (ascii "boot") part 4 then
    if !env.allocImage part then return (.ERROR_OOM, none)
    else
      let r := env.loadAndVerifyBootHashPartition part h
      return (r.1, some ⟨h.partitionName, r.2, size⟩)
  else if loadFullPartition env part size ≠ .OK then
    return (loadFullPartition env part size, none)
  else
    match imageDigest env h.desc ((env.contents part).slice 0 (min h.imageSize size)) with
    | none => return (.ERROR_INVALID_METADATA, none)
    | some (digest, digestLen) =>
      let ret ← compareDigest env part h.desc digest digestLen
      return (ret, some ⟨h.partitionName, env.contents part, size⟩)

def verifyHashPartition (h : HashPartition) :
    Prog AvbState Exit (AvbSlotVerifyResult × Option AvbPartitionData) := do
  if !h.valid || !env.validUtf8 h.partitionName then return (.ERROR_INVALID_METADATA, none)
  else if !req.requestedPartitions.contains h.partitionName then return (.OK, none)
  else match hashPartitionName req h with
    | none => return (.ERROR_INVALID_METADATA, none)
    | some part =>
      let size := hashImageSize env req h part
      if size.1 ≠ .OK then return (ofIOResult size.1, none)
      else verifyHashImage env h part size.2

def loadAndVerifyHashPartition (h : HashPartition) : Prog AvbState Exit AvbSlotVerifyResult := do
  let r ← verifyHashPartition env req h
  match r.2 with
  | none => return r.1
  | some p => if resultShouldContinue r.1 then addLoadedPartition p r.1 else return r.1

/-! ### Vbmeta structures -/

/-- The arguments of one `load_and_verify_vbmeta` call; an expected key comes with a chain
    descriptor. -/
structure VbmetaArgs where
  toplevelVbmetaFlags : Nat
  rollbackIndexLocation : Nat
  partitionName : List UInt8
  expectedPublicKey : Option (List UInt8)

def isMainVbmeta (a : VbmetaArgs) : Bool :=
  a.rollbackIndexLocation == 0 && !req.noVbmetaPartition

def lookForVbmetaFooter (a : VbmetaArgs) : Bool := !strnCmp a.partitionName (ascii "vbmeta") 6

def AVB_VBMETA_IMAGE_FLAGS_HASHTREE_DISABLED : Nat := 1
def AVB_VBMETA_IMAGE_FLAGS_VERIFICATION_DISABLED : Nat := 2
def AVB_KERNEL_CMDLINE_FLAGS_USE_ONLY_IF_HASHTREE_NOT_DISABLED : Nat := 1
def AVB_KERNEL_CMDLINE_FLAGS_USE_ONLY_IF_HASHTREE_DISABLED : Nat := 2

def verificationDisabled (flags : Nat) : Bool :=
  flags &&& AVB_VBMETA_IMAGE_FLAGS_VERIFICATION_DISABLED ≠ 0

/-- A program that may jump to the end of its function, the label `out` of
    `load_and_verify_vbmeta` or the label `fail` of `avb_slot_verify`, with a result. -/
abbrev VbmetaProg (α : Type) := Prog AvbState (Jump Exit AvbSlotVerifyResult) α

def readVbmetaImage (nested : VbmetaArgs → Prog AvbState Exit AvbSlotVerifyResult)
    (a : VbmetaArgs) :
    VbmetaProg VbmetaImage := do
  if !env.validUtf8 a.partitionName then goto .ERROR_INVALID_METADATA
  else match avbStrConcat a.partitionName req.abSuffix with
    | none => goto .ERROR_INVALID_METADATA
    | some part =>
      if lookForVbmetaFooter a ∧ env.readFooter part ≠ .OK then
        goto (ofIOResult (env.readFooter part))
      else if !env.allocVbmeta part then goto .ERROR_OOM
      else if (env.readVbmeta part).1 = .OK then return (env.readVbmeta part).2
      else if isMainVbmeta req a ∧ (env.readVbmeta part).1 = .ERROR_NO_SUCH_PARTITION ∧
          !lookForVbmetaFooter a then
        -- without a vbmeta partition the structure is looked for in boot
        let ret ← call (nested ⟨0, 0, ascii "boot", none⟩)
        goto ret
      else goto (ofIOResult (env.readVbmeta part).1)

/-- The result so far after the signature; a locked device stops at an error. -/
def checkSignature (image : VbmetaImage) : VbmetaProg AvbSlotVerifyResult :=
  match image.verifyResult with
  | .OK => return .OK
  | .OK_NOT_SIGNED | .HASH_MISMATCH | .SIGNATURE_MISMATCH =>
    if !req.allowVerificationError then goto .ERROR_VERIFICATION
    else return .ERROR_VERIFICATION
  | .INVALID_VBMETA_HEADER => goto .ERROR_INVALID_METADATA
  | .UNSUPPORTED_VERSION => goto .ERROR_UNSUPPORTED_VERSION

def rejectKey : VbmetaProg AvbSlotVerifyResult :=
  if !req.allowVerificationError then goto .ERROR_PUBLIC_KEY_REJECTED
  else return .ERROR_PUBLIC_KEY_REJECTED

def validateKey (key : List UInt8) : Prog AvbState Exit (AvbIOResult × Bool) := do
  if req.noVbmetaPartition then
    let r ← avbValidatePartitionPublicKey env.oemPublicKey key
    return (r.1, r.2.1)
  else avbValidateVbmetaPublicKey env.oemPublicKey key

/-- Check the key of a verified image: against the key of the chain descriptor, or by the
    operation that validates keys. -/
def checkKey (a : VbmetaArgs) (image : VbmetaImage) (ret : AvbSlotVerifyResult) :
    VbmetaProg AvbSlotVerifyResult := do
  if image.verifyResult ≠ .OK then return ret
  else match a.expectedPublicKey with
    | some key => if key ≠ image.publicKey then rejectKey req else return ret
    | none =>
      let r ← call (validateKey env req image.publicKey)
      if r.1 ≠ .OK then goto (ofIOResult r.1)
      else if !r.2 then rejectKey req
      else return ret

/-- `rollback_index_location_to_use`: the header's in the main image; the operation for keys
    of partitions sets it to 1. -/
def rollbackIndexLocationToUse (a : VbmetaArgs) (image : VbmetaImage) : Nat :=
  if isMainVbmeta req a then image.rollbackIndexLocation
  else if image.verifyResult = .OK ∧ a.expectedPublicKey = none ∧ req.noVbmetaPartition then 1
  else a.rollbackIndexLocation

def checkRollbackIndex (a : VbmetaArgs) (image : VbmetaImage) (ret : AvbSlotVerifyResult) :
    VbmetaProg AvbSlotVerifyResult := do
  let s ← get
  let r := avbReadRollbackIndex s.device (rollbackIndexLocationToUse req a image)
  if r.1 ≠ .OK then goto (ofIOResult r.1)
  else if image.rollbackIndex < r.2 then
    if !req.allowVerificationError then goto .ERROR_ROLLBACK_INDEX
    else return .ERROR_ROLLBACK_INDEX
  else return ret

def addVbmetaImage (a : VbmetaArgs) (image : VbmetaImage) : VbmetaProg Unit := do
  let s ← get
  if s.slotData.vbmetaImages.length = MAX_NUMBER_OF_VBMETA_IMAGES then goto .ERROR_OOM
  else
    modify fun s => { s with slotData :=
      { s.slotData with
        vbmetaImages := s.slotData.vbmetaImages ++ [(a.partitionName, image.flags)] } }

def rootDigestSize (algorithm : List UInt8) : Option Nat :=
  if algorithm = ascii "sha1" then some AVB_SHA1_DIGEST_SIZE
  else if algorithm = ascii "sha256" then some AVB_SHA256_DIGEST_SIZE
  else if algorithm = ascii "sha512" then some AVB_SHA512_DIGEST_SIZE
  else none

/-- A hashtree descriptor.  One without a root digest replaces the result so far by that of
    reading the persistent digest. -/
def walkHashtree (a : VbmetaArgs) (ret : AvbSlotVerifyResult) (t : HashtreePartition) :
    VbmetaProg AvbSlotVerifyResult := do
  if !t.valid then goto .ERROR_INVALID_METADATA
  else if t.rootDigestLen ≠ 0 then return ret
  else if !env.validUtf8 t.partitionName ∨ (!t.doNotUseAB ∧ req.abSuffix ≠ []) ∨
      t.partitionName.length ≥ AVB_PART_NAME_MAX_SIZE then goto .ERROR_INVALID_METADATA
  else match rootDigestSize t.hashAlgorithm with
    | none => goto .ERROR_INVALID_METADATA
    | some size =>
      let r ← call (readStoredDigest env t.partitionName size)
      if r.1 ≠ .OK then goto r.1
      -- a chained image has no list of substitutions
      else if a.expectedPublicKey = none ∧ env.addRootDigestSubstitution t.partitionName ≠ .OK then
        goto (env.addRootDigestSubstitution t.partitionName)
      else return .OK

/-- A chain descriptor.  Its result is kept, and the walk goes on after a verification error
    even on a locked device. -/
def walkChain (nested : VbmetaArgs → Prog AvbState Exit AvbSlotVerifyResult) (a : VbmetaArgs)
    (ret : AvbSlotVerifyResult) (c : ChainPartition) : VbmetaProg AvbSlotVerifyResult := do
  if !isMainVbmeta req a ∨ !c.valid ∨ c.rollbackIndexLocation = 0 then
    goto .ERROR_INVALID_METADATA
  else
    let sub ← call (nested
      ⟨a.toplevelVbmetaFlags, c.rollbackIndexLocation, c.partitionName, some c.publicKey⟩)
    if sub = .OK then return ret
    else if resultShouldContinue sub then return sub
    else goto sub

/-- `apply_cmdline`: a command line may be meant for one of the two verity modes only. -/
def applyCmdline (toplevelVbmetaFlags flags : Nat) : Bool :=
  if toplevelVbmetaFlags &&& AVB_VBMETA_IMAGE_FLAGS_HASHTREE_DISABLED ≠ 0 then
    flags &&& AVB_KERNEL_CMDLINE_FLAGS_USE_ONLY_IF_HASHTREE_NOT_DISABLED = 0
  else flags &&& AVB_KERNEL_CMDLINE_FLAGS_USE_ONLY_IF_HASHTREE_DISABLED = 0

def walkDescriptor (nested : VbmetaArgs → Prog AvbState Exit AvbSlotVerifyResult) (a : VbmetaArgs)
    (ret : AvbSlotVerifyResult) : Descriptor → VbmetaProg AvbSlotVerifyResult
  | .invalid => goto .ERROR_INVALID_METADATA
  | .hash h => do
    let sub ← call (loadAndVerifyHashPartition env req h)
    if sub = .OK then return ret
    else if req.allowVerificationError && resultShouldContinue sub then return sub
    else goto sub
  | .chain c => walkChain req nested a ret c
  | .kernelCmdline valid flags => do
    if !valid then goto .ERROR_INVALID_METADATA
    else if applyCmdline a.toplevelVbmetaFlags flags && !env.allocCmdline then
      goto .ERROR_OOM
    else return ret
  | .hashtree t => walkHashtree env req a ret t
  | .property => return ret

def walkDescriptors (env : SlotVerifyEnv) (req : SlotVerifyRequest)
    (nested : VbmetaArgs → Prog AvbState Exit AvbSlotVerifyResult) (a : VbmetaArgs) :
    AvbSlotVerifyResult → List Descriptor → VbmetaProg AvbSlotVerifyResult
  | ret, [] => return ret
  | ret, d :: rest => do
    let ret' ← walkDescriptor env req nested a ret d
    walkDescriptors env req nested a ret' rest

def setRollbackIndex (loc : Nat) (image : VbmetaImage) : VbmetaProg Unit :=
  if h : loc < AVB_MAX_NUMBER_OF_ROLLBACK_INDEX_LOCATIONS then
    modify fun s => { s with slotData :=
      { s.slotData with
        rollbackIndexes := s.slotData.rollbackIndexes.set loc image.rollbackIndex h } }
  else goto .ERROR_INVALID_METADATA

def followVbmeta (nested : VbmetaArgs → Prog AvbState Exit AvbSlotVerifyResult) (a : VbmetaArgs)
    (image : VbmetaImage) (ret : AvbSlotVerifyResult) : VbmetaProg AvbSlotVerifyResult := do
  addVbmetaImage a image
  if verificationDisabled image.flags then
    let sub ← call (loadRequestedPartitions env req.abSuffix req.requestedPartitions)
    if sub ≠ .OK then return sub else return ret
  else match image.descriptors with
    | none => return ret
    | some descriptors =>
      let ret' ← walkDescriptors env req nested a ret descriptors
      setRollbackIndex (rollbackIndexLocationToUse req a image) image
      return ret'

def verifyVbmeta (nested : VbmetaArgs → Prog AvbState Exit AvbSlotVerifyResult) (a : VbmetaArgs) :
    Prog AvbState Exit AvbSlotVerifyResult := block do
  let image ← readVbmetaImage env req nested a
  let signature ← checkSignature req image
  if !isMainVbmeta req a ∧ image.flags ≠ 0 then goto .ERROR_INVALID_METADATA
  else
    let key ← checkKey env req a image signature
    let ret ← checkRollbackIndex req a image key
    let flags := if isMainVbmeta req a then image.flags else a.toplevelVbmetaFlags
    followVbmeta env req nested { a with toplevelVbmetaFlags := flags } image ret

/-- `load_and_verify_vbmeta`.  The main image may turn to the one in boot, and each of these
    to chained ones, which have no chain descriptors: three levels are enough. -/
def loadAndVerifyVbmeta (env : SlotVerifyEnv) (req : SlotVerifyRequest) :
    Nat → VbmetaArgs → Prog AvbState Exit AvbSlotVerifyResult
  | 0, _ => throw .hang
  | depth + 1, a => verifyVbmeta env req (loadAndVerifyVbmeta env req depth) a

/-! ### Slot verification -/

/-- `avb_manage_hashtree_error_mode`, without the mode it finds, which only the command line
    shows. -/
def manageHashtreeErrorMode : Prog AvbState Exit AvbIOResult := do
  let s ← get
  let name := ascii "avb.managed_verity_mode"
  if req.restartCausedByHashtreeCorruption then
    avbWritePersistentValue env.device name (env.vbmetaDigest s.slotData)
  else
    let r := avbReadPersistentValue s.device name AVB_SHA256_DIGEST_SIZE
    if r.1 = .ERROR_NO_SUCH_VALUE ∨ (r.1 = .OK ∧ r.2 = []) then return .OK
    else if r.1 ≠ .OK then return r.1
    else if r.2.length ≠ AVB_SHA256_DIGEST_SIZE then return AvbIOResult.ERROR_IO
    else if env.vbmetaDigest s.slotData = r.2 then return .OK
    else avbWritePersistentValue env.device name []

/-- The structures of the requested partitions, when there is no vbmeta partition. -/
def verifyRequested (env : SlotVerifyEnv) (req : SlotVerifyRequest) :
    AvbSlotVerifyResult → List (List UInt8) → VbmetaProg AvbSlotVerifyResult
  | ret, [] => return ret
  | _, name :: rest => do
    let ret ← call (loadAndVerifyVbmeta env req 3 ⟨0, 0, name, none⟩)
    if !req.allowVerificationError ∧ ret ≠ .OK then goto ret
    else verifyRequested env req ret rest

def verifyStructures : VbmetaProg AvbSlotVerifyResult := do
  if req.noVbmetaPartition then
    -- `avb_fatal` shuts the device down
    if req.requestedPartitions = [] then call (throw .shutdown)
    else verifyRequested env req .OK req.requestedPartitions
  else
    let ret ← call (loadAndVerifyVbmeta env req 3 ⟨0, 0, ascii "vbmeta", none⟩)
    if !req.allowVerificationError ∧ ret ≠ .OK then goto ret
    else return ret

/-- The verity mode and the command line, by the flags of the top-level structure. -/
def finishSlot (flags : Nat) : VbmetaProg Unit := do
  if !env.allocAbSuffix then goto .ERROR_OOM
  else if verificationDisabled flags then
    if !env.allocCmdline then goto .ERROR_OOM else return ()
  else
    let io ← call (manageHashtreeErrorMode env req)
    if io ≠ .OK then goto (ofIOResult io)
    else if env.appendOptions ≠ .OK then goto env.appendOptions
    else return ()

def verifySlot : VbmetaProg (AvbSlotVerifyResult × AvbSlotVerifyData) := do
  if !env.allocSlotData then goto .ERROR_OOM
  else
    modify fun s => { s with slotData := .empty }
    let ret ← verifyStructures env req
    if !resultShouldContinue ret then goto ret
    else
      let s ← get
      match s.slotData.vbmetaImages with
      | [] => call (throw .fault)
      | (_, flags) :: _ =>
        finishSlot env req flags
        if !env.subCmdline then goto .ERROR_OOM
        else
          let s ← get
          return (ret, s.slotData)

/-- `avb_slot_verify` in the mode `MANAGED_RESTART_AND_EIO`: the result, and the slot data if
    the end is reached. -/
def avbSlotVerify : Prog AvbState Exit (AvbSlotVerifyResult × Option AvbSlotVerifyData) := do
  match ← attempt (verifySlot env req) with
  | .ok (ret, data) => return (ret, some data)
  | .error ret => return (ret, none)

/-! ### What a verification can do to its state -/

/-- The image in `p` was requested and is the contents of the partition it is named after;
    boot images may come from the two threads instead. -/
def FromPartition (p : AvbPartitionData) : Prop :=
  p.partitionName ∈ req.requestedPartitions ∧
    ∃ part, (part = p.partitionName ∨ part = p.partitionName ++ req.abSuffix) ∧
      (strnCmp (ascii "boot") part 4 = false → p.data = env.contents part)

/-- One change other than to the user data: a persistent value is written, an image is
    loaded, or a vbmeta structure is entered. -/
inductive VerifyStep (env : SlotVerifyEnv) (req : SlotVerifyRequest) : AvbState → AvbState → Prop
  | device (s : AvbState) {d : DeviceInfoState} (h : DeviceFrame s.device d) :
      VerifyStep env req s { s with device := d }
  | load (s : AvbState) {p : AvbPartitionData} (h : FromPartition env req p) :
      VerifyStep env req s { s with slotData :=
        { s.slotData with loadedPartitions := s.slotData.loadedPartitions ++ [p] } }
  | structures (s : AvbState) (images : List (List UInt8 × Nat)) (indexes : Vector Nat 32) :
      VerifyStep env req s { s with slotData :=
        { s.slotData with vbmetaImages := images, rollbackIndexes := indexes } }

abbrev Quiet : AvbState → AvbState → Prop :=
  Relation.ReflTransGen (VerifyStep env req)

variable {env req} {s s' : AvbState}

theorem Quiet.frame (h : Quiet env req s s') :
    s'.userData = s.userData ∧ DeviceFrame s.device s'.device := by
  induction h with
  | refl => exact ⟨rfl, DeviceFrame.refl _⟩
  | tail _ step ih =>
    obtain ⟨huser, hdevice⟩ := ih
    cases step with
    | device h => exact ⟨huser, hdevice.trans h⟩
    | load _ => exact ⟨huser, hdevice⟩
    | structures _ _ => exact ⟨huser, hdevice⟩

def AvbSlotVerifyData.Loaded (env : SlotVerifyEnv) (req : SlotVerifyRequest)
    (data : AvbSlotVerifyData) : Prop :=
  ∀ p ∈ data.loadedPartitions, FromPartition env req p

theorem VerifyStep.loaded (h : VerifyStep env req s s') (hs : s.slotData.Loaded env req) :
    s'.slotData.Loaded env req := by
  cases h with
  | device _ => exact hs
  | load hp =>
    intro p hmem
    obtain hold | hnew := List.mem_append.mp hmem
    · exact hs p hold
    · rw [List.mem_singleton.mp hnew]
      exact hp
  | structures _ _ => exact hs

section Steps

variable {env : SlotVerifyEnv} {req : SlotVerifyRequest}

theorem avbWritePersistentValue_quiet (name value : List UInt8) :
    Steps (Quiet env req) (avbWritePersistentValue env.device name value) := by
  refine Steps.bind (fun s => ?_) fun status => ?_
  · exact .single (.device s (writePersistentValue_frame env.device _ _ _ s.device))
  · exact .ite (.pure _) (.ite (.pure _) (.ite (.pure _) (.pure _)))

theorem readStoredDigest_quiet (part : List UInt8) (size : Nat) :
    Steps (Quiet env req) (readStoredDigest env part size) :=
  .bind .get fun _ => .ite (.pure _) (.pure _)

theorem readPersistentDigest_quiet (part : List UInt8) (size : Nat) (digest : List UInt8) :
    Steps (Quiet env req) (readPersistentDigest env part size digest) := by
  refine .bind .get fun s => .ite ?_ (readStoredDigest_quiet part size)
  refine .bind .get fun s => .ite (.pure _) ?_
  refine .bind (avbWritePersistentValue_quiet _ _) fun io => ?_
  exact .ite (.pure _) (readStoredDigest_quiet part size)

theorem addLoadedPartition_quiet {p : AvbPartitionData} (hp : FromPartition env req p)
    (ret : AvbSlotVerifyResult) : Steps (Quiet env req) (addLoadedPartition p ret) := by
  refine .bind .get fun s => .ite (.pure _) (.bind (fun s => ?_) fun _ => .pure _)
  exact .single (.load s hp)

variable {part oem : List UInt8} {h : HashPartition} {s s' : AvbState}

theorem avbStrConcat_eq {name suffix : List UInt8} (h : avbStrConcat name suffix = some part) :
    part = name ++ suffix := by
  unfold avbStrConcat at h
  split at h
  · cases h
  · exact (Option.some.inj h).symm

theorem loadRequestedPartitions_quiet {names : List (List UInt8)}
    (hnames : names ⊆ req.requestedPartitions) :
    Steps (Quiet env req) (loadRequestedPartitions env req.abSuffix names) := by
  induction names with
  | nil => exact .pure _
  | cons name rest ih =>
    unfold loadRequestedPartitions
    cases hpart : avbStrConcat name req.abSuffix with
    | none => exact .pure _
    | some part =>
      refine .ite (.pure _) (.ite (.pure _) ?_)
      obtain ⟨hname, hrest⟩ := List.cons_subset.mp hnames
      refine .bind (addLoadedPartition_quiet ?_ _) fun ret => .ite (.pure _) (ih hrest)
      exact ⟨hname, part, .inr (avbStrConcat_eq hpart), fun _ => rfl⟩

theorem compareDigest_quiet (part : List UInt8) (desc : HashDescriptor) (digest : List UInt8)
    (len : Nat) : Steps (Quiet env req) (compareDigest env part desc digest len) := by
  refine .ite ?_ (.ite (.pure _) (.ite (.pure _) (.pure _)))
  refine .bind (readPersistentDigest_quiet _ _ _) fun r => ?_
  exact .ite (.pure _) (.ite (.pure _) (.pure _))

theorem hashPartitionName_cases (hpart : hashPartitionName req h = some part) :
    part = h.partitionName ∨ part = h.partitionName ++ req.abSuffix := by
  unfold hashPartitionName at hpart
  split_ifs at hpart
  · exact .inl (Option.some.inj hpart).symm
  · exact .inr (avbStrConcat_eq hpart)

def GivesRequested (env : SlotVerifyEnv) (req : SlotVerifyRequest)
    (r : AvbSlotVerifyResult × Option AvbPartitionData) : Prop :=
  ∀ p, r.2 = some p → FromPartition env req p

theorem verifyHashImage_yields (hreq : h.partitionName ∈ req.requestedPartitions)
    (hpart : part = h.partitionName ∨ part = h.partitionName ++ req.abSuffix) (size : Nat) :
    Yields (Quiet env req) (GivesRequested env req) (verifyHashImage env h part size) := by
  refine .ite (fun hparallel => ?_) fun _ => .ite (fun _ => .pure nofun) fun _ => ?_
  · have hboot : strnCmp (ascii "boot") part 4 = true := (Bool.and_eq_true _ _ ▸ hparallel).2
    refine .ite (fun _ => .pure nofun) fun _ => .pure ?_
    rintro p ⟨⟩
    exact ⟨hreq, part, hpart, fun hnot => absurd hboot (Bool.eq_false_iff.mp hnot)⟩
  · split
    · exact .pure nofun
    · refine (compareDigest_quiet _ _ _ _).bind_yields fun ret => .pure ?_
      rintro p ⟨⟩
      exact ⟨hreq, part, hpart, fun _ => rfl⟩

theorem verifyHashPartition_yields (h : HashPartition) :
    Yields (Quiet env req) (GivesRequested env req) (verifyHashPartition env req h) := by
  refine .ite (fun _ => .pure nofun) fun _ => .ite (fun _ => .pure nofun) fun hreq => ?_
  have hmem : h.partitionName ∈ req.requestedPartitions := by simpa using hreq
  cases hpart : hashPartitionName req h with
  | none => exact .pure nofun
  | some part =>
    exact .ite (fun _ => .pure nofun) fun _ =>
      verifyHashImage_yields hmem (hashPartitionName_cases hpart) _

theorem loadAndVerifyHashPartition_quiet (h : HashPartition) :
    Steps (Quiet env req) (loadAndVerifyHashPartition env req h) := by
  refine (verifyHashPartition_yields h).bind_steps fun r hr => ?_
  cases himage : r.2 with
  | none => exact .pure _
  | some p => exact .ite (addLoadedPartition_quiet (hr p himage) r.1) (.pure _)

/-- The call for a chained image: it is given a key, and it is not the main one. -/
structure Chained (req : SlotVerifyRequest) (a : VbmetaArgs) : Prop where
  expected : a.expectedPublicKey ≠ none
  notMain : isMainVbmeta req a = false

section Nested

variable {R : AvbState → AvbState → Prop} [Std.Refl R] [IsTrans AvbState R]
  {nested : VbmetaArgs → Prog AvbState Exit AvbSlotVerifyResult} {a : VbmetaArgs}

theorem walkHashtree_steps (hquiet : ∀ s s', Quiet env req s s' → R s s')
    (ret : AvbSlotVerifyResult) (t : HashtreePartition) :
    Steps R (walkHashtree env req a ret t) := by
  refine .ite (.goto _) (.ite (.pure _) (.ite (.goto _) ?_))
  cases rootDigestSize t.hashAlgorithm with
  | none => exact .goto _
  | some size =>
    refine .bind (.call ((readStoredDigest_quiet _ _).mono hquiet)) fun r => ?_
    exact .ite (.goto _) (.ite (.goto _) (.pure _))

theorem walkChain_steps (hchain : isMainVbmeta req a = true → ∀ a', Chained req a' →
    Steps R (nested a')) (ret : AvbSlotVerifyResult) (c : ChainPartition) :
    Steps R (walkChain req nested a ret c) := by
  unfold walkChain
  split
  · exact .goto _
  · rename_i hvalid
    obtain ⟨hmain, hloc⟩ : isMainVbmeta req a = true ∧ c.rollbackIndexLocation ≠ 0 := by
      simp only [not_or, Bool.not_eq_true', Bool.not_eq_false] at hvalid
      exact ⟨hvalid.1, hvalid.2.2⟩
    refine .bind (.call (hchain hmain _ ⟨nofun, ?_⟩)) fun sub => ?_
    · simp [isMainVbmeta, hloc]
    · exact .ite (.pure _) (.ite (.pure _) (.goto _))

section

variable (hquiet : ∀ s s', Quiet env req s s' → R s s')
  (hchain : isMainVbmeta req a = true → ∀ a', Chained req a' → Steps R (nested a'))
include hquiet hchain

theorem walkDescriptors_steps (descriptors : List Descriptor) (ret : AvbSlotVerifyResult) :
    Steps R (walkDescriptors env req nested a ret descriptors) := by
  induction descriptors generalizing ret with
  | nil => exact .pure _
  | cons d rest ih =>
    refine .bind ?_ fun ret' => ih ret'
    cases d with
    | invalid => exact .goto _
    | hash h =>
      refine .bind (.call ((loadAndVerifyHashPartition_quiet h).mono hquiet)) fun sub => ?_
      exact .ite (.pure _) (.ite (.pure _) (.goto _))
    | chain c => exact walkChain_steps hchain ret c
    | kernelCmdline valid flags => exact .ite (.goto _) (.ite (.goto _) (.pure _))
    | hashtree t => exact walkHashtree_steps hquiet ret t
    | property => exact .pure _

theorem followVbmeta_steps (image : VbmetaImage) (ret : AvbSlotVerifyResult) :
    Steps R (followVbmeta env req nested a image ret) := by
  have hadd : Steps R (addVbmetaImage a image) := by
    refine .bind .get fun s => .ite (.goto _) (fun s => hquiet _ _ (.single ?_))
    exact .structures s (s.slotData.vbmetaImages ++ [(a.partitionName, image.flags)])
      s.slotData.rollbackIndexes
  have hindex : ∀ loc, Steps R (setRollbackIndex loc image) := by
    intro loc
    unfold setRollbackIndex
    split
    · rename_i hloc
      refine fun s => hquiet _ _ (.single ?_)
      exact .structures s s.slotData.vbmetaImages
        (s.slotData.rollbackIndexes.set loc image.rollbackIndex hloc)
    · exact .goto _
  refine .bind hadd fun _ => .ite ?_ ?_
  · refine .bind (.call ((loadRequestedPartitions_quiet (List.Subset.refl _)).mono hquiet))
      fun sub => ?_
    exact .ite (.pure _) (.pure _)
  · cases image.descriptors with
    | none => exact .pure _
    | some descriptors =>
      refine .bind (walkDescriptors_steps hquiet hchain descriptors ret) fun ret' => ?_
      exact .bind (hindex _) fun _ => .pure _

end

omit [IsTrans AvbState R] in
theorem checkSignature_steps (image : VbmetaImage) : Steps R (checkSignature req image) := by
  unfold checkSignature
  cases image.verifyResult with
  | OK => exact .pure _
  | OK_NOT_SIGNED => exact .ite (.goto _) (.pure _)
  | INVALID_VBMETA_HEADER => exact .goto _
  | UNSUPPORTED_VERSION => exact .goto _
  | HASH_MISMATCH => exact .ite (.goto _) (.pure _)
  | SIGNATURE_MISMATCH => exact .ite (.goto _) (.pure _)

theorem checkRollbackIndex_steps (image : VbmetaImage) (ret : AvbSlotVerifyResult) :
    Steps R (checkRollbackIndex req a image ret) := by
  refine .bind .get fun s => .ite (.goto _) (.ite ?_ (.pure _))
  exact .ite (.goto _) (.pure _)

theorem readVbmetaImage_steps
    (hboot : isMainVbmeta req a = true → Steps R (nested ⟨0, 0, ascii "boot", none⟩)) :
    Steps R (readVbmetaImage env req nested a) := by
  refine .ite (.goto _) ?_
  cases avbStrConcat a.partitionName req.abSuffix with
  | none => exact .goto _
  | some part =>
    refine .ite (.goto _) (.ite (.goto _) (.ite (.pure _) ?_))
    split
    · rename_i hmain
      exact .bind (.call (hboot hmain.1)) fun ret => .goto _
    · exact .goto _

theorem verifyVbmeta_steps (hquiet : ∀ s s', Quiet env req s s' → R s s')
    (hkey : ∀ image ret, Steps R (checkKey env req a image ret))
    (hboot : isMainVbmeta req a = true → Steps R (nested ⟨0, 0, ascii "boot", none⟩))
    (hchain : isMainVbmeta req a = true → ∀ a', Chained req a' → Steps R (nested a')) :
    Steps R (verifyVbmeta env req nested a) := by
  refine .block (.bind (readVbmetaImage_steps hboot) fun image => ?_)
  refine .bind (checkSignature_steps image) fun signature => .ite (.goto _) ?_
  refine .bind (hkey image signature) fun key => ?_
  refine .bind (checkRollbackIndex_steps image key) fun ret => ?_
  apply followVbmeta_steps hquiet
  exact hchain

end Nested

omit env in
theorem rejectKey_steps {R : AvbState → AvbState → Prop} [Std.Refl R] : Steps R (rejectKey req) :=
  .ite (.goto _) (.pure _)

theorem loadAndVerifyVbmeta_quiet (depth : Nat) {a : VbmetaArgs} (ha : Chained req a) :
    Steps (Quiet env req) (loadAndVerifyVbmeta env req depth a) := by
  cases depth with
  | zero => exact .throw _
  | succ depth =>
    refine verifyVbmeta_steps (fun _ _ h => h) (fun image ret => ?_)
      (fun hmain => ?_) (fun hmain => ?_)
    · refine .ite (.pure _) ?_
      cases hexp : a.expectedPublicKey with
      | none => exact absurd hexp ha.expected
      | some key => exact .ite rejectKey_steps (.pure _)
    · rw [ha.notMain] at hmain
      cases hmain
    · rw [ha.notMain] at hmain
      cases hmain

/-! ### The keys a verification accepts -/

/-- From `s` to `s'` exactly the keys of the list were accepted, in its order, and
    `IsUserKey` speaks of the last of them. -/
structure KeysAccepted (oemPublicKey : List UInt8) (keys : List (List UInt8)) (s s' : AvbState) :
    Prop where
  device : DeviceFrame s.device s'.device
  multiSlot : s'.userData.isMultiSlot = s.userData.isMultiSlot
  history : s'.userData.acceptedKeys = s.userData.acceptedKeys ++ keys
  trusted : ∀ key ∈ keys, key = s.device.devInfo.userPublicKey ∨ key = oemPublicKey
  isUserKey : s'.userData.isUserKey =
    keys.foldl (fun _ key => key == s.device.devInfo.userPublicKey) s.userData.isUserKey

theorem KeysAccepted.of_quiet (h : Quiet env req s s') : KeysAccepted oem [] s s' := by
  obtain ⟨huser, hdevice⟩ := h.frame
  refine ⟨hdevice, ?_, ?_, nofun, ?_⟩
  · rw [huser]
  · rw [huser, List.append_nil]
  · rw [huser]
    rfl

theorem KeysAccepted.append {ks ks' : List (List UInt8)} {s'' : AvbState}
    (h : KeysAccepted oem ks s s') (h' : KeysAccepted oem ks' s' s'') :
    KeysAccepted oem (ks ++ ks') s s'' where
  device := h.device.trans h'.device
  multiSlot := h'.multiSlot.trans h.multiSlot
  history := by rw [h'.history, h.history, List.append_assoc]
  trusted := by
    intro key hkey
    obtain hk | hk := List.mem_append.mp hkey
    · exact h.trusted key hk
    · rw [← h.device.userKey]
      exact h'.trusted key hk
  isUserKey := by rw [h'.isUserKey, h.isUserKey, h.device.userKey, List.foldl_append]

theorem validateKey_spec (key : List UInt8) (s : AvbState) :
    wp (validateKey env req key)
      (fun r s' => r = (.OK, true) → KeysAccepted env.oemPublicKey [key] s s') noExit s := by
  have hvalidate : wp (validatePublicKey env.oemPublicKey key)
      (fun r s' => r = (.OK, true) → KeysAccepted env.oemPublicKey [key] s s') noExit s := by
    unfold validatePublicKey
    rw [wp_bind, wp_get]
    refine .ite (fun _ => nofun) fun hread => ?_
    have huser : (getUserKey s.device).2 = s.device.devInfo.userPublicKey := by
      unfold getUserKey at hread ⊢
      split_ifs at hread ⊢
      · exact absurd nofun hread
      · rfl
    rw [wp_bind, wp_modify, huser]
    refine .ite (fun htrusted => .ite (fun _ => nofun) fun _ _ => ?_) fun _ => nofun
    refine ⟨DeviceFrame.refl _, rfl, rfl, fun k hk => ?_, rfl⟩
    rw [List.mem_singleton.mp hk]
    exact htrusted
  refine .ite (fun _ => ?_) fun _ => hvalidate
  rw [wp_bind, avbValidatePartitionPublicKey, wp_bind]
  exact hvalidate

theorem ofIOResult_ne_ok {io : AvbIOResult} (h : io ≠ .OK) : ofIOResult io ≠ .OK := by
  cases io with
  | OK => exact absurd rfl h
  | _ => nofun

def vbmetaKey (env : SlotVerifyEnv) (req : SlotVerifyRequest) (name : List UInt8) : List UInt8 :=
  (env.readVbmeta (name ++ req.abSuffix)).2.publicKey

/-- The key of the main vbmeta structure: without a vbmeta partition it is in boot. -/
def mainVbmetaKey (env : SlotVerifyEnv) (req : SlotVerifyRequest) : List UInt8 :=
  if (env.readVbmeta (ascii "vbmeta" ++ req.abSuffix)).1 = .OK then
    vbmetaKey env req (ascii "vbmeta")
  else vbmetaKey env req (ascii "boot")

section Locked

variable {nested : VbmetaArgs → Prog AvbState Exit AvbSlotVerifyResult} {a : VbmetaArgs}

def Fails (j : Jump Exit AvbSlotVerifyResult) : Prop :=
  match j with
  | .goto ret => ret ≠ .OK
  | .exit _ => True

variable {s : AvbState}

/-- The image read, or the verdict on the boot partition that stands in for it. -/
theorem readVbmetaImage_spec {P : AvbSlotVerifyResult → AvbState → Prop}
    (hboot : isMainVbmeta req a = true → lookForVbmetaFooter a = false →
      wp (nested ⟨0, 0, ascii "boot", none⟩) P anyExit s) :
    wp (readVbmetaImage env req nested a)
      (fun image s' => s' = s ∧ (env.readVbmeta (a.partitionName ++ req.abSuffix)).1 = .OK ∧
        image = (env.readVbmeta (a.partitionName ++ req.abSuffix)).2)
      (fun j s' => Fails j ∨ ∃ ret, j = .goto ret ∧ P ret s' ∧
        (env.readVbmeta (a.partitionName ++ req.abSuffix)).1 ≠ .OK) s := by
  refine .ite (fun _ => .inl nofun) fun _ => ?_
  cases hpart : avbStrConcat a.partitionName req.abSuffix with
  | none => exact .inl nofun
  | some part =>
    obtain rfl := avbStrConcat_eq hpart
    refine .ite (fun hfooter => .inl (ofIOResult_ne_ok hfooter.2)) fun _ =>
      .ite (fun _ => .inl nofun) fun _ => .ite (fun hread => ⟨rfl, hread, rfl⟩) fun hread =>
      .ite (fun hmain => ?_) fun _ => .inl (ofIOResult_ne_ok hread)
    have hlook : lookForVbmetaFooter a = false := by simpa using hmain.2.2
    rw [wp_bind, wp_call]
    refine wp_mono (hboot hmain.1 hlook) (fun ret s' hret => ?_) fun _ _ _ => .inl trivial
    exact .inr ⟨ret, rfl, hret, hread⟩

section

variable (hlocked : req.allowVerificationError = false)
include hlocked

theorem checkSignature_spec (image : VbmetaImage) (s : AvbState) :
    wp (checkSignature req image)
      (fun ret s' => s' = s ∧ ret = .OK ∧ image.verifyResult = .OK) (fun j _ => Fails j) s := by
  unfold checkSignature
  rw [hlocked]
  cases hverify : image.verifyResult with
  | OK => exact ⟨rfl, rfl, rfl⟩
  | _ => exact nofun

theorem checkKey_spec (ha : a.expectedPublicKey = none) {image : VbmetaImage}
    (hverify : image.verifyResult = .OK) (ret : AvbSlotVerifyResult) (s : AvbState) :
    wp (checkKey env req a image ret)
      (fun ret' s' => ret' = ret ∧ KeysAccepted env.oemPublicKey [image.publicKey] s s')
      (fun j _ => Fails j) s := by
  unfold checkKey rejectKey
  rw [if_neg (not_not_intro hverify), ha, hlocked, wp_bind, wp_call]
  refine wp_mono (validateKey_spec image.publicKey s) (fun r s' hr => ?_) fun _ _ h => h.elim
  refine .ite (fun hio => ofIOResult_ne_ok hio) fun hio => .ite (fun _ => nofun) fun htrusted => ?_
  exact ⟨rfl, hr (Prod.ext (not_not.mp hio) (by simpa using htrusted))⟩

theorem checkRollbackIndex_spec (image : VbmetaImage) (ret : AvbSlotVerifyResult) (s : AvbState) :
    wp (checkRollbackIndex req a image ret)
      (fun ret' s' => s' = s ∧ ret' = ret) (fun j _ => Fails j) s := by
  unfold checkRollbackIndex
  rw [wp_bind, wp_get, hlocked]
  exact .ite (fun hio => ofIOResult_ne_ok hio) fun _ => .ite (fun _ => nofun) fun _ => ⟨rfl, rfl⟩

/-- An accepted vbmeta image has had its key accepted. -/
theorem verifyVbmeta_accepts (ha : a.expectedPublicKey = none)
    (hchain : ∀ a', Chained req a' → Steps (Quiet env req) (nested a')) {key : List UInt8}
    (hkey : (env.readVbmeta (a.partitionName ++ req.abSuffix)).1 = .OK →
      key = vbmetaKey env req a.partitionName)
    (hboot : isMainVbmeta req a = true → lookForVbmetaFooter a = false →
      wp (nested ⟨0, 0, ascii "boot", none⟩)
        (fun ret s' => (env.readVbmeta (a.partitionName ++ req.abSuffix)).1 ≠ .OK → ret = .OK →
          KeysAccepted env.oemPublicKey [key] s s') anyExit s) :
    wp (verifyVbmeta env req nested a)
      (fun ret s' => ret = .OK → KeysAccepted env.oemPublicKey [key] s s') anyExit s := by
  -- a jump to `out` with another result says nothing
  have hfails : ∀ (j : Jump Exit AvbSlotVerifyResult) (s' : AvbState), Fails j →
      j.post (fun ret s' => ret = .OK → KeysAccepted env.oemPublicKey [key] s s') anyExit s' := by
    intro j s' hj
    cases j with
    | goto ret => exact fun hret => absurd hret hj
    | exit e => trivial
  unfold verifyVbmeta
  rw [wp_block, wp_bind]
  refine wp_mono (readVbmetaImage_spec hboot) ?_ ?_
  · rintro image s₁ ⟨rfl, hread, rfl⟩
    rw [wp_bind]
    refine wp_mono (checkSignature_spec hlocked _ s₁) ?_ hfails
    rintro ret s₂ ⟨rfl, rfl, hverify⟩
    refine .ite (fun _ => nofun) fun _ => ?_
    rw [wp_bind]
    refine wp_mono (checkKey_spec hlocked ha hverify _ s₂) ?_ hfails
    rintro ret s₃ ⟨rfl, haccept⟩
    rw [wp_bind]
    refine wp_mono (checkRollbackIndex_spec hlocked _ _ s₃) ?_ hfails
    rintro ret s₄ ⟨rfl, rfl⟩
    -- the key is accepted; nothing that follows validates another
    have hrest : ∀ s₅, Quiet env req s₄ s₅ → KeysAccepted env.oemPublicKey [key] s₂ s₅ := by
      intro s₅ hquiet
      rw [hkey hread]
      exact haccept.append (.of_quiet hquiet)
    refine wp_mono (wp_of_steps (followVbmeta_steps (fun _ _ h => h)
      (fun _ => hchain) _ _)) (fun ret s₅ h _ => hrest s₅ h) (fun j s₅ h => ?_)
    cases j with
    | goto ret => exact fun _ => hrest s₅ h
    | exit e => trivial
  · rintro j s₁ (hj | ⟨ret, rfl, hret, hread⟩)
    · exact hfails j s₁ hj
    · exact hret hread

theorem loadAndVerifyVbmeta_accepts (depth : Nat) (flags loc : Nat) {name : List UInt8}
    (hname : isMainVbmeta req ⟨flags, loc, name, none⟩ = true →
      lookForVbmetaFooter ⟨flags, loc, name, none⟩ = true) (s : AvbState) :
    wp (loadAndVerifyVbmeta env req depth ⟨flags, loc, name, none⟩)
      (fun ret s' => ret = .OK →
        KeysAccepted env.oemPublicKey [vbmetaKey env req name] s s') anyExit s := by
  cases depth with
  | zero => trivial
  | succ depth =>
    refine verifyVbmeta_accepts hlocked rfl (fun a' => loadAndVerifyVbmeta_quiet depth)
      (fun _ => rfl) (fun hmain hlook => ?_)
    rw [hname hmain] at hlook
    cases hlook

theorem loadAndVerifyVbmeta_main_accepts (depth : Nat) (s : AvbState) :
    wp (loadAndVerifyVbmeta env req depth ⟨0, 0, ascii "vbmeta", none⟩)
      (fun ret s' => ret = .OK → KeysAccepted env.oemPublicKey [mainVbmetaKey env req] s s')
      anyExit s := by
  cases depth with
  | zero => trivial
  | succ depth =>
    refine verifyVbmeta_accepts hlocked rfl (fun a' => loadAndVerifyVbmeta_quiet depth)
      (fun hread => if_pos hread) (fun _ _ => ?_)
    refine wp_imp (loadAndVerifyVbmeta_accepts hlocked depth 0 0 (fun _ => ?_) s)
      fun ret s' hret hread => ?_
    · decide
    · unfold mainVbmetaKey
      rw [if_neg hread]
      exact hret

end

end Locked

/-! ### The whole verification -/

structure VerifyFrame (env : SlotVerifyEnv) (req : SlotVerifyRequest) (s s' : AvbState) : Prop where
  multiSlot : s'.userData.isMultiSlot = s.userData.isMultiSlot
  device : DeviceFrame s.device s'.device
  loaded : s.slotData.Loaded env req → s'.slotData.Loaded env req

instance : Std.Refl (VerifyFrame env req) where
  refl _ := ⟨rfl, DeviceFrame.refl _, fun h => h⟩

instance : IsTrans AvbState (VerifyFrame env req) where
  trans _ _ _ h h' :=
    ⟨h'.multiSlot.trans h.multiSlot, h.device.trans h'.device, fun hs => h'.loaded (h.loaded hs)⟩

theorem Quiet.loaded (h : Quiet env req s s') (hs : s.slotData.Loaded env req) :
    s'.slotData.Loaded env req := by
  induction h with
  | refl => exact hs
  | tail _ step ih => exact step.loaded ih

theorem Quiet.verifyFrame (h : Quiet env req s s') : VerifyFrame env req s s' where
  multiSlot := by rw [h.frame.1]
  device := h.frame.2
  loaded := h.loaded

theorem validateKey_frame (key : List UInt8) :
    Steps (VerifyFrame env req) (validateKey env req key) := by
  have hvalidate : Steps (VerifyFrame env req) (validatePublicKey env.oemPublicKey key) := by
    refine .bind .get fun s => .ite (.pure _) (.bind (fun s => ?_) fun _ =>
      .ite (.ite (.pure _) (.bind (fun s => ?_) fun _ => .pure _))
        (.bind (fun s => ?_) fun _ => .pure _))
    all_goals exact ⟨rfl, DeviceFrame.refl _, fun h => h⟩
  exact .ite (.bind (.bind hvalidate fun _ => .pure _) fun _ => .pure _) hvalidate

theorem loadAndVerifyVbmeta_frame (depth : Nat) (a : VbmetaArgs) :
    Steps (VerifyFrame env req) (loadAndVerifyVbmeta env req depth a) := by
  induction depth generalizing a with
  | zero => exact .throw _
  | succ depth ih =>
    refine verifyVbmeta_steps (fun _ _ h => h.verifyFrame) (fun image ret => ?_)
      (fun _ => ih _) (fun _ a' _ => ih a')
    refine .ite (.pure _) ?_
    cases a.expectedPublicKey with
    | some key => exact .ite rejectKey_steps (.pure _)
    | none =>
      refine .bind (.call (validateKey_frame _)) fun r => ?_
      exact .ite (.goto _) (.ite rejectKey_steps (.pure _))

theorem verifyRequested_frame (names : List (List UInt8)) (ret : AvbSlotVerifyResult) :
    Steps (VerifyFrame env req) (verifyRequested env req ret names) := by
  induction names generalizing ret with
  | nil => exact .pure _
  | cons name rest ih =>
    refine .bind (.call (loadAndVerifyVbmeta_frame 3 _)) fun ret' => ?_
    exact .ite (.goto _) (ih ret')

theorem verifyStructures_frame : Steps (VerifyFrame env req) (verifyStructures env req) := by
  refine .ite (.ite (.call (.throw _)) (verifyRequested_frame _ _)) ?_
  refine .bind (.call (loadAndVerifyVbmeta_frame 3 _)) fun ret => ?_
  exact .ite (.goto _) (.pure _)

theorem manageHashtreeErrorMode_quiet :
    Steps (Quiet env req) (manageHashtreeErrorMode env req) := by
  refine .bind .get fun s => .ite (avbWritePersistentValue_quiet _ _) ?_
  refine .ite (.pure _) (.ite (.pure _) (.ite (.pure _) (.ite (.pure _) ?_)))
  exact avbWritePersistentValue_quiet _ _

theorem finishSlot_quiet (flags : Nat) : Steps (Quiet env req) (finishSlot env req flags) := by
  refine .ite (.goto _) (.ite (.ite (.goto _) (.pure _)) ?_)
  refine .bind (.call manageHashtreeErrorMode_quiet) fun io => ?_
  exact .ite (.goto _) (.ite (.goto _) (.pure _))

/-- The keys a verification accepts: those of the requested partitions, or the one of the
    main structure. -/
def slotKeys (env : SlotVerifyEnv) (req : SlotVerifyRequest) : List (List UInt8) :=
  if req.noVbmetaPartition then req.requestedPartitions.map (vbmetaKey env req)
  else [mainVbmetaKey env req]

section Locked

variable (hlocked : req.allowVerificationError = false)

include hlocked

theorem verifyRequested_accepts (hno : req.noVbmetaPartition = true) (names : List (List UInt8))
    (s : AvbState) :
    wp (verifyRequested env req .OK names)
      (fun ret s' => ret = .OK ∧
        KeysAccepted env.oemPublicKey (names.map (vbmetaKey env req)) s s')
      (fun j _ => Fails j) s := by
  induction names generalizing s with
  | nil => exact ⟨rfl, .of_quiet (.refl : Quiet env req s s)⟩
  | cons name rest ih =>
    unfold verifyRequested
    rw [wp_bind, wp_call, hlocked]
    refine wp_imp (loadAndVerifyVbmeta_accepts hlocked 3 0 0 (fun hmain => ?_) s)
      fun ret s₁ hret => ?_
    · simp [isMainVbmeta, hno] at hmain
    · by_cases hok : ret = .OK
      · subst hok
        refine wp_imp (ih s₁) fun ret' s₂ hret' => ?_
        exact ⟨hret'.1, (hret rfl).append hret'.2⟩
      · rw [if_pos ⟨rfl, hok⟩]
        exact hok

theorem verifyStructures_accepts (s : AvbState) :
    wp (verifyStructures env req)
      (fun ret s' => ret = .OK ∧ KeysAccepted env.oemPublicKey (slotKeys env req) s s')
      (fun j _ => Fails j) s := by
  unfold verifyStructures slotKeys
  by_cases hno : req.noVbmetaPartition = true
  · rw [if_pos hno, if_pos hno]
    split
    · trivial
    · exact verifyRequested_accepts hlocked hno _ s
  · rw [if_neg hno, if_neg hno, wp_bind, wp_call, hlocked]
    refine wp_imp (loadAndVerifyVbmeta_main_accepts hlocked 3 s)
      fun ret s₁ hret => ?_
    by_cases hok : ret = .OK
    · subst hok
      exact ⟨rfl, hret rfl⟩
    · rw [if_pos ⟨rfl, hok⟩]
      exact hok

end Locked

theorem verifySlot_frame (s : AvbState) :
    wp (verifySlot env req)
      (fun r s' => VerifyFrame env req s s' ∧ r.2.Loaded env req)
      (fun _ s' => VerifyFrame env req s s') s := by
  -- the slot data is cleared first, so what it holds at the end was loaded here
  have hempty : AvbSlotVerifyData.Loaded env req .empty := nofun
  have hclear : VerifyFrame env req s { s with slotData := .empty } :=
    ⟨rfl, DeviceFrame.refl _, fun _ => hempty⟩
  refine .ite (fun _ => refl_of (VerifyFrame env req) s) fun _ => ?_
  rw [wp_bind, wp_modify, wp_bind]
  refine wp_mono (wp_of_steps verifyStructures_frame) (fun ret s₁ h₁ => ?_)
    fun j s₁ h₁ => trans_of (VerifyFrame env req) hclear h₁
  have hs₁ := trans_of (VerifyFrame env req) hclear h₁
  refine .ite (fun _ => hs₁) fun _ => ?_
  rw [wp_bind, wp_get]
  split
  · exact hs₁
  · rw [wp_bind]
    refine wp_mono (wp_of_steps (finishSlot_quiet _)) (fun _ s₂ h₂ => ?_)
      fun j s₂ h₂ => trans_of (VerifyFrame env req) hs₁ h₂.verifyFrame
    have hs₂ := trans_of (VerifyFrame env req) hs₁ h₂.verifyFrame
    exact .ite (fun _ => hs₂) fun _ => ⟨hs₂, h₂.loaded (h₁.loaded hempty)⟩

theorem finishSlot_spec (flags : Nat) (s : AvbState) :
    wp (finishSlot env req flags) (fun _ s' => Quiet env req s s') (fun j _ => Fails j) s := by
  refine .ite (fun _ => nofun) fun _ => .ite (fun _ => .ite (fun _ => nofun) fun _ => .refl)
    fun _ => ?_
  rw [wp_bind, wp_call]
  refine Steps.imp manageHashtreeErrorMode_quiet fun io s' hs => ?_
  exact .ite (fun hio => ofIOResult_ne_ok hio) fun _ => .ite (fun happend => happend) fun _ => hs

theorem verifySlot_accepts (hlocked : req.allowVerificationError = false) (s : AvbState) :
    wp (verifySlot env req)
      (fun _ s' => KeysAccepted env.oemPublicKey (slotKeys env req) s s')
      (fun j _ => Fails j) s := by
  refine .ite (fun _ => nofun) fun _ => ?_
  rw [wp_bind, wp_modify]
  refine wp_seq (verifyStructures_accepts hlocked _) ?_
  rintro ret s₁ ⟨rfl, haccept⟩
  -- clearing the slot data has not touched the keys
  have hs₁ : KeysAccepted env.oemPublicKey (slotKeys env req) s s₁ :=
    ⟨haccept.device, haccept.multiSlot, haccept.history, haccept.trusted, haccept.isUserKey⟩
  rw [if_neg (by decide), wp_bind, wp_get]
  split
  · trivial
  · refine wp_seq (finishSlot_spec _ s₁) fun _ s₂ h₂ => .ite (fun _ => nofun) fun _ => ?_
    rw [← List.append_nil (slotKeys env req)]
    exact hs₁.append (.of_quiet h₂)

theorem avbSlotVerify_frame (s : AvbState) :
    wp (avbSlotVerify env req)
      (fun r s' => VerifyFrame env req s s' ∧ ∀ data, r.2 = some data → data.Loaded env req)
      (fun _ s' => VerifyFrame env req s s') s := by
  unfold avbSlotVerify
  rw [wp_bind, wp_attempt]
  refine wp_mono (verifySlot_frame s) (fun r s' hr => ⟨hr.1, ?_⟩) (fun j s' hs => ?_)
  · rintro data ⟨⟩
    exact hr.2
  · cases j with
    | goto ret => exact ⟨hs, nofun⟩
    | exit e => exact hs

theorem avbSlotVerify_avbFrame : Steps AvbFrame (avbSlotVerify env req) := by
  apply steps_of_wp
  intro s
  exact wp_mono (avbSlotVerify_frame s) (fun _ _ h => ⟨h.1.multiSlot, h.1.device⟩)
    fun _ _ h => ⟨h.multiSlot, h.device⟩

theorem avbSlotVerify_accepts (hlocked : req.allowVerificationError = false) (s : AvbState) :
    wp (avbSlotVerify env req)
      (fun r s' => r.1 = .OK → KeysAccepted env.oemPublicKey (slotKeys env req) s s')
      anyExit s := by
  unfold avbSlotVerify
  rw [wp_bind, wp_attempt]
  refine wp_mono (verifySlot_accepts hlocked s) (fun r s' hr _ => hr) (fun j s' hj => ?_)
  cases j with
  | goto ret => exact fun hok => absurd hok hj
  | exit e => trivial

end Steps

end OhMyAbl
