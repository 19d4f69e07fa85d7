import Zio.Vocabulary

/-!
# Kqueue changes, receipts and their native encoding

The platform-neutral vocabulary of receipt-checked changes, the native `kevent`
record and the codec between them.  The flag bits are the same on the three
supported targets; the filter numbers differ.
-/

namespace Zio

/-- The targets with a kqueue backend. -/
inductive KqueueTarget where
  | macos
  | freebsd
  | netbsd
deriving DecidableEq, Repr

/-- Native kqueue filter selected for a change or observation. -/
inductive Filter where
  | read
  | write
  | user
  | unknown
deriving DecidableEq, Repr

/-- Mutation requested for one `(ident, filter)` pair. -/
inductive Action where
  | addEnabled
  | addDisabled
  | addUser
  | delete
  | disable
  | trigger
deriving DecidableEq, Repr

/-- One platform-neutral input change. -/
structure Change where
  ident : RawFd
  filter : Filter
  action : Action
  token : UInt64
deriving DecidableEq, Repr

/-- Fixed stack change list of at most two changes. -/
structure ChangeList where
  items : List Change
  bounded : items.length ≤ 2

namespace ChangeList

def new : ChangeList := ⟨[], by decide⟩

def push (self : ChangeList) (change : Change) : Option ChangeList :=
  if room : self.items.length < 2 then
    some ⟨self.items ++ [change], by simp; omega⟩
  else
    none

def asSlice (self : ChangeList) : List Change := self.items

end ChangeList

/-- Receipt for one submitted change. -/
structure Receipt where
  action : Action
  error : Option Int32
deriving DecidableEq, Repr

/-! ## Native records -/

/-- A native `kevent`. -/
structure Kevent where
  ident : UInt64
  filter : Int64
  flags : UInt64
  fflags : UInt32
  data : Int64
  udata : UInt64
deriving DecidableEq, Repr

/-- Copied kevent observation detached from kernel-written storage. -/
structure RawKevent where
  ident : RawFd
  filter : Filter
  token : UInt64
  eof : Bool
  nativeError : Bool
  fflags : UInt32
deriving DecidableEq, Repr

namespace KqueueTarget

def evfiltRead : KqueueTarget → Int64
  | macos => -1
  | freebsd => -1
  | netbsd => 0

def evfiltWrite : KqueueTarget → Int64
  | macos => -2
  | freebsd => -2
  | netbsd => 1

def evfiltUser : KqueueTarget → Int64
  | macos => -10
  | freebsd => -11
  | netbsd => 8

/-- `target_applies_interrupted_changes`. -/
def appliesInterruptedChanges : KqueueTarget → Bool
  | macos => false
  | freebsd => true
  | netbsd => true

/-- Whether the counts of a `kevent` call are `c_int`. -/
def narrowCounts : KqueueTarget → Bool
  | macos => true
  | freebsd => true
  | netbsd => false

end KqueueTarget

def evAdd : UInt64 := 0x1
def evDelete : UInt64 := 0x2
def evEnable : UInt64 := 0x4
def evDisable : UInt64 := 0x8
def evClear : UInt64 := 0x20
def evReceipt : UInt64 := 0x40
def evError : UInt64 := 0x4000
def evEof : UInt64 := 0x8000

def noteTrigger : UInt32 := 0x1000000

def enoent : Int32 := 2
def kqueueEintr : Int32 := 4
def eio : Int32 := 5
def einval : Int32 := 22

/-- `RawFd::try_from` on an identifier. -/
def rawFdOfIdent (ident : UInt64) : Option RawFd :=
  if ident.toNat ≤ i32Max then some (Int32.ofNat ident.toNat) else none

/-- `i32::try_from` on receipt data. -/
def i32OfData (data : Int64) : Option Int32 :=
  if -(2 ^ 31 : Int) ≤ data.toInt ∧ data.toInt < 2 ^ 31 then
    some (Int32.ofInt data.toInt)
  else
    none

/-! ## Codec -/

def encodeFilter (target : KqueueTarget) : Filter → Int64
  | .read => target.evfiltRead
  | .write => target.evfiltWrite
  | .user => target.evfiltUser
  | .unknown => 0

def encodeChangeWithReceipt
    (target : KqueueTarget) (change : Change) (includeReceipt : Bool) :
    Except IoError Kevent :=
  if change.ident < 0 then
    .error (.os einval)
  else
    let receipt := if includeReceipt then evReceipt else 0
    .ok
      { ident := UInt64.ofNat change.ident.toInt.toNat
        filter := encodeFilter target change.filter
        flags :=
          match change.action with
          | .addEnabled => evAdd ||| evEnable ||| receipt
          | .addDisabled => evAdd ||| evDisable ||| receipt
          | .addUser => evAdd ||| evClear ||| receipt
          | .delete => evDelete ||| receipt
          | .disable => evDisable ||| receipt
          | .trigger => evAdd ||| receipt
        fflags := if change.action = .trigger then noteTrigger else 0
        data := 0
        udata := change.token }

def encodeChange (target : KqueueTarget) (change : Change) :
    Except IoError Kevent :=
  encodeChangeWithReceipt target change true

/-- Native registration input that never requests a receipt. -/
def encodeRegistrationChange (target : KqueueTarget) (change : Change) :
    Except IoError Kevent :=
  encodeChangeWithReceipt target change false

def decodeFilter (target : KqueueTarget) (filter : Int64) : Filter :=
  if filter = target.evfiltRead then .read
  else if filter = target.evfiltWrite then .write
  else if filter = target.evfiltUser then .user
  else .unknown

def hasFlag (flags expected : UInt64) : Bool := flags &&& expected != 0

def hasEof (flags : UInt64) : Bool := hasFlag flags evEof

def hasNativeError (flags : UInt64) : Bool := hasFlag flags evError

/-! ## Submissions -/

/-- Result of one native changelist submission. -/
inductive NativeApply where
  | receipts (returned : Nat)
  | appliedWithoutReceipts
  | unknown (source : IoError)
deriving DecidableEq, Repr

/-- Proven result of one native filter change. -/
inductive FilterApply where
  | applied
  | alreadyAbsent
  | notApplied (code : Int32)
  | unknown (code : Option Int32)
deriving DecidableEq, Repr

/-- `io::Error::kind` on the kqueue targets, as far as it is inspected. -/
def kqueueInterrupted : IoError → Bool
  | .os code => code == kqueueEintr
  | .simple kind => kind == .interrupted
  | .custom kind _ => kind == .interrupted

def classifyApplyError (error : IoError) (interruptedChangesApply : Bool) :
    NativeApply :=
  if kqueueInterrupted error && interruptedChangesApply then
    .appliedWithoutReceipts
  else
    .unknown error

def isMissingDisable (code : Int32) (expected : Change) : Bool :=
  code == enoent && expected.action == .disable

def decodeReceipt
    (target : KqueueTarget) (event : Option Kevent) (expected : Change) :
    FilterApply :=
  match event with
  | none => .unknown none
  | some event =>
      if rawFdOfIdent event.ident ≠ some expected.ident ∨
          decodeFilter target event.filter ≠ expected.filter ∨
          hasFlag event.flags evError = false then
        .unknown none
      else
        match i32OfData event.data with
        | none => .unknown none
        | some code =>
            if code = 0 then .applied
            else if 0 < code then .notApplied code
            else .unknown none

end Zio
