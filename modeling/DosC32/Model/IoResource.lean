import DosC32.Core.Bitmap
import DosC32.Core.Reentry
import DosC32.Model.Machine

/-! # The I/O-port resource registry

`kernel/x86_vm/io/resource.c`: port ranges with their owners, the width and action policy of each
direction, foreground leases, and the dispatch of an access to the callback of its range. A callback
may enter the registry again, so that `read` and `write` are procedures that call out. Handles and
tokens are numbers; pointer arguments are never null.
-/

namespace DosC32

open Effect Reentry

/-- `enum x86_io_resource_status` without `X86_IO_RESOURCE_OK`. -/
inductive IoResourceError where
  | invalidArgument
  | invalidState
  | capacityExhausted
  | overlap
  | staleHandle
  | ownershipDenied
  | accessDenied
  | callbackFault

/-- `enum x86_io_resource_action`; a byte outside the enumeration is unknown. -/
inductive IoResourceAction where
  | absent
  | deny
  | emulate
  | native
  | unknown
deriving DecidableEq

/-- `enum x86_io_callback_status`; every other value counts as a fault. -/
inductive IoCallbackStatus where
  | ok
  | denied
  | fault

/-- `struct x86_io_resource_descriptor`; a callback is a number that stands for its address. -/
structure IoResourceDescriptor where
  (ownerIdentity callbackContext : ℕ)
  (read write : Option ℕ)
  (firstPort lastPort : UInt16)
  (readWidthMask writeWidthMask : BitVec 8)
  (readAction writeAction : IoResourceAction)
  flags : BitVec 8
  reserved : List UInt8

/-- `struct x86_io_resource_slot`. -/
structure IoResourceSlot where
  descriptor : IoResourceDescriptor
  (generation foregroundGeneration foregroundRequester foregroundToken : ℕ)

/-- `struct x86_io_resource_owner`. -/
structure IoResourceOwner where
  slots : Fin 32 → IoResourceSlot
  identity : ℕ
  activeBitmap : BitVec 32
  (initialized dispatchActive : Bool)

/-- `struct x86_io_resource_view`. -/
structure IoResourceView where
  (registryIdentity ownerIdentity resource foregroundRequester : ℕ)
  (firstPort lastPort : UInt16)
  (readWidthMask writeWidthMask : BitVec 8)
  (readAction writeAction : IoResourceAction)
  flags : BitVec 8
  foregroundOwned : Bool

/-- A call of a registered callback; a read has no value. -/
structure IoInvocation where
  slot : Fin 32
  (callback context : ℕ)
  port : UInt16
  width : ℕ
  value : Option UInt32

/-- What a callback returns; `value` is what a read callback stored. -/
structure IoAnswer where
  status : IoCallbackStatus
  value : UInt32

namespace IoResource

abbrev IoM := EStateM IoResourceError IoResourceOwner
abbrev IoProcedure := Procedure IoInvocation IoAnswer IoResourceError IoResourceOwner

def registryCapacity : ℕ := 32
def foregroundTokenDomain : ℕ := 2 ^ 63
def generationMax : ℕ := (foregroundTokenDomain - 1) >>> 6
def resourceHandleInvalid : ℕ := 0
def foregroundTokenInvalid : ℕ := 0
def widthMask8 : BitVec 8 := 0x01
def widthMask16 : BitVec 8 := 0x02
def widthMask32 : BitVec 8 := 0x04
def widthMaskAll : BitVec 8 := 0x07
def flagForeground : BitVec 8 := 0x01
def flagMask : BitVec 8 := 0x01

/-- `width_is_valid`. -/
def widthIsValid (width : ℕ) : Prop := width = 1 ∨ width = 2 ∨ width = 4
deriving Decidable

/-- `width_mask`. -/
def widthMask (width : ℕ) : BitVec 8 :=
  if width = 1 then widthMask8 else if width = 2 then widthMask16 else if width = 4 then widthMask32 else 0

/-- `range_supports_width_mask`; the count is taken in 32 bits. -/
def rangeSupportsWidthMask (first last : UInt16) (mask : BitVec 8) : Prop :=
  let count := (last.toNat + 2 ^ 32 - first.toNat + 1) % 2 ^ 32
  (mask &&& widthMask16 ≠ 0 → 2 ≤ count) ∧ (mask &&& widthMask32 ≠ 0 → 4 ≤ count)
deriving Decidable

/-- The action is served by a callback. -/
def isCallbackAction (action : IoResourceAction) : Bool := action == .emulate || action == .native

/-- `direction_is_valid`. -/
def directionIsValid (widthMask : BitVec 8) (action : IoResourceAction) (callbackPresent : Bool) (flags : BitVec 8) :
    Prop :=
  widthMask &&& ~~~widthMaskAll = 0 ∧ action ≠ .unknown ∧
    (widthMask = 0 → action = .deny ∧ callbackPresent = false) ∧
    (widthMask ≠ 0 → isCallbackAction action = callbackPresent ∧ (action = .native → flags &&& flagForeground ≠ 0))

instance decidableDirection (widthMask : BitVec 8) (action : IoResourceAction) (callbackPresent : Bool)
    (flags : BitVec 8) : Decidable (directionIsValid widthMask action callbackPresent flags) :=
  inferInstanceAs (Decidable (_ ∧ _ ∧ (_ → _) ∧ (_ → _ ∧ (_ → _))))

variable (descriptor : IoResourceDescriptor)

/-- `descriptor_is_valid`. -/
def descriptorIsValid : Prop :=
  identityIsValid descriptor.ownerIdentity ∧ descriptor.firstPort ≤ descriptor.lastPort ∧
    descriptor.flags &&& ~~~flagMask = 0 ∧ descriptor.reserved.all (· == 0) ∧
    rangeSupportsWidthMask descriptor.firstPort descriptor.lastPort descriptor.readWidthMask ∧
    rangeSupportsWidthMask descriptor.firstPort descriptor.lastPort descriptor.writeWidthMask ∧
    directionIsValid descriptor.readWidthMask descriptor.readAction descriptor.read.isSome descriptor.flags ∧
    directionIsValid descriptor.writeWidthMask descriptor.writeAction descriptor.write.isSome descriptor.flags ∧
    ((descriptor.read.isSome || descriptor.write.isSome) = true ↔ identityIsValid descriptor.callbackContext)
deriving Decidable

/-- A descriptor with every byte zero. -/
def clearDescriptor : IoResourceDescriptor := ⟨0, 0, none, none, 0, 0, 0, 0, .absent, .absent, 0, [0, 0, 0]⟩

/-- The owner in zeroed static storage. -/
def clearOwner : IoResourceOwner := ⟨fun _ => ⟨clearDescriptor, 0, 0, 0, 0⟩, 0, 0, false, false⟩

/-- `ranges_overlap`. -/
def rangesOverlap (firstA lastA firstB lastB : UInt16) : Prop := firstA ≤ lastB ∧ firstB ≤ lastA
deriving Decidable

/-- `make_generation_handle`. -/
def makeGenerationHandle (index generation domain : ℕ) : ℕ := domain ||| generation <<< 6 ||| (index + 1)

section Owner

variable (owner : IoResourceOwner)

/-- `slot_is_active`. -/
def slotIsActive (index : Fin 32) : Bool := Bitmap.test owner.activeBitmap index

/-- `decode_resource`. -/
def decodeResource (resource : ℕ) : Option (Fin 32) :=
  let encodedSlot := resource % 64
  let generation := resource >>> 6
  if valid : resource ≠ resourceHandleInvalid ∧ resource ≠ kernelObjectHandleInvalid ∧ resource.testBit 63 = false ∧
      encodedSlot ≠ 0 ∧ encodedSlot ≤ registryCapacity ∧ generation ≠ 0 ∧ generation ≤ generationMax then
    let index : Fin 32 := ⟨encodedSlot - 1, by have := valid.2.2.2.2.1; unfold registryCapacity at this; omega⟩
    if slotIsActive owner index = true ∧ (owner.slots index).generation = generation then some index else none
  else none

/-- `active_range_overlaps`. -/
def activeRangeOverlaps (first last : UInt16) : Bool :=
  (List.finRange 32).any fun index => slotIsActive owner index &&
    decide (rangesOverlap first last (owner.slots index).descriptor.firstPort (owner.slots index).descriptor.lastPort)

/-- `reserve_slot`; the second component is the generation that the slot gets. -/
def reserveSlot (excludedBitmap : BitVec 32) : Option (Fin 32 × ℕ) :=
  ((List.finRange 32).find? fun index => !(slotIsActive owner index || Bitmap.test excludedBitmap index ||
    decide ((owner.slots index).generation ≥ generationMax))).map
      fun index => (index, (owner.slots index).generation + 1)

/-- `find_containing_slot`. -/
def findContainingSlot (port : UInt16) : Option (Fin 32) :=
  (List.finRange 32).find? fun index => slotIsActive owner index &&
    decide ((owner.slots index).descriptor.firstPort ≤ port ∧ port ≤ (owner.slots index).descriptor.lastPort)

/-- The first loop of `x86_io_resource_register_batch`: check each descriptor and reserve a slot for it. -/
def prepareBatch : List IoResourceDescriptor → BitVec 32 → List IoResourceDescriptor →
    Except IoResourceError (List (Fin 32 × ℕ))
  | _, _, [] => .ok []
  | prior, reserved, descriptor :: rest =>
    if ¬ descriptorIsValid descriptor then .error .invalidArgument
    else if activeRangeOverlaps owner descriptor.firstPort descriptor.lastPort then .error .overlap
    else if prior.any fun other => rangesOverlap descriptor.firstPort descriptor.lastPort other.firstPort other.lastPort
      then .error .overlap
    else
      match reserveSlot owner reserved with
      | none => .error .capacityExhausted
      | some (index, generation) =>
        match prepareBatch (descriptor :: prior) (Bitmap.insert reserved index) rest with
        | .error error => .error error
        | .ok claims => .ok ((index, generation) :: claims)

def setSlot (index : Fin 32) (slot : IoResourceSlot) : IoResourceOwner :=
  { owner with slots := Function.update owner.slots index slot }

/-- Fill a reserved slot. -/
def publishSlot (descriptor : IoResourceDescriptor) (index : Fin 32) (generation : ℕ) : IoResourceOwner :=
  setSlot owner index { owner.slots index with
    descriptor, generation, foregroundRequester := kernelObjectHandleInvalid, foregroundToken := foregroundTokenInvalid }

/-- The second loop of `x86_io_resource_register_batch`. -/
def publishBatch : IoResourceOwner → List IoResourceDescriptor → List (Fin 32 × ℕ) → IoResourceOwner
  | owner, descriptor :: rest, (index, generation) :: claims =>
    publishBatch (publishSlot owner descriptor index generation) rest claims
  | owner, _, _ => owner

/-- The bitmap of the reserved slots. -/
def reservedBitmap (claims : List (Fin 32 × ℕ)) : BitVec 32 :=
  claims.foldl (fun bitmap claim => Bitmap.insert bitmap claim.1) 0

/-- The foreground lease of a slot ends. -/
def clearForeground (index : Fin 32) : IoResourceOwner :=
  setSlot owner index { owner.slots index with
    foregroundRequester := kernelObjectHandleInvalid, foregroundToken := foregroundTokenInvalid }

end Owner

/-- `x86_io_resource_registry_initialize`. -/
def registryInitialize (registryIdentity : ℕ) : IoM Unit := do
  failWhen (¬ identityIsValid registryIdentity) .invalidArgument
  let owner ← get
  failWhen (owner.initialized = true) .invalidState
  set { owner with identity := registryIdentity, activeBitmap := 0, dispatchActive := false, initialized := true }

/-- The registry is in use and no callback runs. -/
def requireIdle : IoM Unit := do
  let owner ← get
  failWhen (owner.initialized = false ∨ owner.dispatchActive = true) .invalidState

/-- `x86_io_resource_register_batch`. -/
def registerBatch (descriptors : List IoResourceDescriptor) (resourceCapacity : ℕ) : IoM (List ℕ) := do
  failWhen (descriptors.length = 0 ∨ descriptors.length > registryCapacity ∨ descriptors.length > resourceCapacity)
    .invalidArgument
  requireIdle
  let owner ← get
  match prepareBatch owner [] 0 descriptors with
  | .error error => throw error
  | .ok claims => do
    let published := publishBatch owner descriptors claims
    set { published with activeBitmap := published.activeBitmap ||| reservedBitmap claims }
    pure (claims.map fun claim => makeGenerationHandle claim.1 claim.2 0)

/-- `x86_io_resource_register`. -/
def register : IoM (List ℕ) := registerBatch [descriptor] 1

variable (resource ownerIdentity : ℕ)

/-- The slot of a resource that its owner names. -/
def requireOwned : IoM (Fin 32) := do
  requireIdle
  let owner ← get
  let index ← demand (decodeResource owner resource) .staleHandle
  failWhen ((owner.slots index).descriptor.ownerIdentity ≠ ownerIdentity) .ownershipDenied
  pure index

/-- `x86_io_resource_unregister`. -/
def unregister : IoM Unit := do
  failWhen (¬ identityIsValid ownerIdentity) .invalidArgument
  let index ← requireOwned resource ownerIdentity
  modify fun owner => setSlot { owner with activeBitmap := Bitmap.erase owner.activeBitmap index } index
    { owner.slots index with
      descriptor := clearDescriptor, foregroundRequester := kernelObjectHandleInvalid
      foregroundToken := foregroundTokenInvalid }

/-- `x86_io_resource_query`. -/
def query (resource : ℕ) : IoM IoResourceView := do
  let owner ← get
  failWhen (owner.initialized = false) .invalidState
  let index ← demand (decodeResource owner resource) .staleHandle
  let slot := owner.slots index
  pure ⟨owner.identity, slot.descriptor.ownerIdentity, resource, slot.foregroundRequester, slot.descriptor.firstPort,
    slot.descriptor.lastPort, slot.descriptor.readWidthMask, slot.descriptor.writeWidthMask, slot.descriptor.readAction,
    slot.descriptor.writeAction, slot.descriptor.flags, slot.foregroundToken != foregroundTokenInvalid⟩

/-- `x86_io_resource_foreground_acquire`. -/
def foregroundAcquire (resource ownerIdentity requesterIdentity : ℕ) : IoM ℕ := do
  failWhen (¬ identityIsValid ownerIdentity ∨ ¬ identityIsValid requesterIdentity) .invalidArgument
  let index ← requireOwned resource ownerIdentity
  let owner ← get
  let slot := owner.slots index
  failWhen (slot.descriptor.flags &&& flagForeground = 0 ∨ slot.foregroundToken ≠ foregroundTokenInvalid)
    .ownershipDenied
  failWhen (slot.foregroundGeneration ≥ generationMax) .capacityExhausted
  let token := makeGenerationHandle index (slot.foregroundGeneration + 1) foregroundTokenDomain
  set (setSlot owner index { slot with
    foregroundGeneration := slot.foregroundGeneration + 1, foregroundRequester := requesterIdentity
    foregroundToken := token })
  pure token

/-- The slot that a token encodes. -/
def decodeToken (token : ℕ) : Option (Fin 32) :=
  let encodedSlot := token % 64
  if valid : encodedSlot ≠ 0 ∧ encodedSlot ≤ registryCapacity then
    some ⟨encodedSlot - 1, by have := valid.2; unfold registryCapacity at this; omega⟩
  else none

/-- `x86_io_resource_foreground_release`. -/
def foregroundRelease (token requesterIdentity : ℕ) : IoM Unit := do
  failWhen (¬ identityIsValid requesterIdentity ∨ token = foregroundTokenInvalid ∨ token = kernelObjectHandleInvalid ∨
    token.testBit 63 = false) .invalidArgument
  requireIdle
  let owner ← get
  let index ← demand (decodeToken token) .staleHandle
  failWhen (slotIsActive owner index = false) .staleHandle
  failWhen ((owner.slots index).foregroundToken ≠ token) .staleHandle
  failWhen ((owner.slots index).foregroundRequester ≠ requesterIdentity) .ownershipDenied
  set (clearForeground owner index)

/-- `x86_io_resource_foreground_revoke`. -/
def foregroundRevoke : IoM Unit := do
  failWhen (¬ identityIsValid ownerIdentity) .invalidArgument
  let index ← requireOwned resource ownerIdentity
  modify fun owner => clearForeground owner index

/-- `absent_read_value`. -/
def absentReadValue (width : ℕ) : UInt32 :=
  if width = 1 then 0xff else if width = 2 then 0xffff else 0xffffffff

/-- `value_fits_width`. -/
def valueFitsWidth (value : UInt32) (width : ℕ) : Prop :=
  (width = 1 → value ≤ 0xff) ∧ (width = 2 → value ≤ 0xffff)
deriving Decidable

/-- `foreground_access_is_valid`. -/
def foregroundAccessIsValid (slot : IoResourceSlot) (requesterIdentity : ℕ) : Prop :=
  slot.descriptor.flags &&& flagForeground = 0 ∨
    identityIsValid requesterIdentity ∧ slot.foregroundToken ≠ foregroundTokenInvalid ∧
      slot.foregroundRequester = requesterIdentity
deriving Decidable

/-- `callback_status`. -/
def callbackStatus : IoCallbackStatus → Option IoResourceError
  | .ok => none
  | .denied => some .accessDenied
  | .fault => some .callbackFault

/-- `resolve_access`; without a slot the access goes to the undriven bus. -/
def resolveAccess (owner : IoResourceOwner) (port : UInt16) (width : ℕ) : Except IoResourceError (Option (Fin 32)) :=
  if ¬ widthIsValid width then .error .invalidArgument
  else
    let last := port.toNat + width - 1
    if last > 0xffff then .error .accessDenied
    else
      match findContainingSlot owner port with
      | some index =>
        if last > (owner.slots index).descriptor.lastPort.toNat then .error .accessDenied else .ok (some index)
      | none => if activeRangeOverlaps owner port (UInt16.ofNat last) then .error .accessDenied else .ok none

/-- A guest access; a read has no value. -/
structure Access where
  requesterIdentity : ℕ
  port : UInt16
  width : ℕ
  value : Option UInt32

variable (access : Access)

/-- The policy of the direction of an access. -/
def policy : BitVec 8 × IoResourceAction × Option ℕ :=
  match access.value with
  | none => (descriptor.readWidthMask, descriptor.readAction, descriptor.read)
  | some _ => (descriptor.writeWidthMask, descriptor.writeAction, descriptor.write)

/-- `x86_io_resource_read` and `x86_io_resource_write` up to the callback; nothing is called where the bus is
undriven or the range absent. -/
def dispatch : IoM (Option IoInvocation) := do
  failWhen (access.value.any fun value => ¬ valueFitsWidth value access.width) .invalidArgument
  requireIdle
  let owner ← get
  match resolveAccess owner access.port access.width with
  | .error error => throw error
  | .ok none => pure none
  | .ok (some index) => do
    let slot := owner.slots index
    let (mask, action, callback) := policy slot.descriptor access
    failWhen (mask &&& widthMask access.width = 0 ∨ ¬ foregroundAccessIsValid slot access.requesterIdentity)
      .accessDenied
    match action with
    | .absent => pure none
    | .deny => throw .accessDenied
    | _ => do
      set { owner with dispatchActive := true }
      pure (some ⟨index, callback.getD 0, slot.descriptor.callbackContext, access.port, access.width, access.value⟩)

/-- The rest of `x86_io_resource_read` and `x86_io_resource_write`, after the callback. -/
def complete (answer : IoAnswer) : IoM UInt32 := do
  modify fun owner => { owner with dispatchActive := false }
  match callbackStatus answer.status with
  | some error => throw error
  | none =>
    match access.value with
    | some _ => pure 0
    | none => do
      failWhen (¬ valueFitsWidth answer.value access.width) .callbackFault
      pure answer.value

/-- `x86_io_resource_read` and `x86_io_resource_write`; the value of a write is zero. -/
def transfer : IoProcedure UInt32 := do
  match ← lift (dispatch access) with
  | none => pure (if access.value.isSome then 0 else absentReadValue access.width)
  | some invocation => do
    let answer ← invoke invocation
    lift (complete access answer)

/-- The requests of the registry. -/
inductive Request where
  | registryInitialize (registryIdentity : ℕ)
  | register (descriptor : IoResourceDescriptor)
  | registerBatch (descriptors : List IoResourceDescriptor) (resourceCapacity : ℕ)
  | unregister (resource ownerIdentity : ℕ)
  | query (resource : ℕ)
  | foregroundAcquire (resource ownerIdentity requesterIdentity : ℕ)
  | foregroundRelease (token requesterIdentity : ℕ)
  | foregroundRevoke (resource ownerIdentity : ℕ)
  | transfer (access : Access)

inductive Reply where
  | nothing
  | resources (handles : List ℕ)
  | token (token : ℕ)
  | view (view : IoResourceView)
  | value (value : UInt32)

def perform : Request → IoProcedure Reply
  | .registryInitialize identity => do lift (registryInitialize identity); pure .nothing
  | .register descriptor => do let handles ← lift (register descriptor); pure (.resources handles)
  | .registerBatch descriptors capacity => do
    let handles ← lift (registerBatch descriptors capacity)
    pure (.resources handles)
  | .unregister resource identity => do lift (unregister resource identity); pure .nothing
  | .query resource => do let view ← lift (query resource); pure (.view view)
  | .foregroundAcquire resource identity requester => do
    let token ← lift (foregroundAcquire resource identity requester)
    pure (.token token)
  | .foregroundRelease token requester => do lift (foregroundRelease token requester); pure .nothing
  | .foregroundRevoke resource identity => do lift (foregroundRevoke resource identity); pure .nothing
  | .transfer access => do let value ← transfer access; pure (.value value)

end IoResource

end DosC32
