import Zio.Scripted.Driver

/-!
# Generated model sequences

The action vocabulary of the test kit and the dependency-free generator that
draws a program of actions from a seed.  The generator tracks only whether the
one slot is vacant, registered or uncertain, and whether a handle was retired.
-/

namespace Zio.Testkit

/-- `SEED_GAMMA`. -/
def seedGamma : UInt64 := 0x9e3779b97f4a7c15

inductive Outcome where
  | success
  | notApplied
  | applied
  | unknown
deriving DecidableEq, Repr

namespace Outcome

def name : Outcome → String
  | .success => "success"
  | .notApplied => "not_applied"
  | .applied => "applied"
  | .unknown => "unknown"

def commit : Outcome → Option CommitStatus
  | .success => none
  | .notApplied => some .notApplied
  | .applied => some .applied
  | .unknown => some .unknown

def mutation (self : Outcome) (kind : IoErrorKind) : MutationOutcome :=
  match self.commit with
  | none => .success
  | some commit => .failure commit kind

def index : Outcome → Nat
  | .success => 0
  | .notApplied => 1
  | .applied => 2
  | .unknown => 3

end Outcome

inductive Action where
  | register (outcome : Outcome) (key : Key) (interest : Interest)
      (mode : Mode)
  | registerInvalid (key : Key) (mode : Mode)
  | disarm
  | modify (outcome : Outcome) (interest : Interest) (mode : Mode)
  | modifyInvalid (mode : Mode)
  | delete (outcome : Outcome)
  | probeStale
  | probeWrongPoller
deriving DecidableEq, Repr

def interestName (interest : Interest) : String :=
  match interest.isReadable, interest.isWritable with
  | true, true => "read_write"
  | true, false => "readable"
  | false, true => "writable"
  | false, false => "empty"

def modeName : Mode → String
  | .level => "level"
  | .oneShot => "one_shot"

/-- The `:016x` format of a key. -/
def keyHex (key : Key) : String :=
  let digits := Nat.toDigits 16 key.value.toNat
  String.ofList (List.replicate (16 - digits.length) '0' ++ digits)

def Action.name : Action → String
  | .register outcome key interest mode =>
      "register." ++ outcome.name ++ "." ++ interestName interest ++ "." ++
        modeName mode ++ ".key_" ++ keyHex key
  | .registerInvalid key mode =>
      "register.invalid_interest." ++ modeName mode ++ ".key_" ++
        keyHex key
  | .disarm => "delivery.disarm"
  | .modify outcome interest mode =>
      "modify." ++ outcome.name ++ "." ++ interestName interest ++ "." ++
        modeName mode
  | .modifyInvalid mode => "modify.invalid_interest." ++ modeName mode
  | .delete outcome => "delete." ++ outcome.name
  | .probeStale => "probe.stale"
  | .probeWrongPoller => "probe.wrong_poller"

def scramble (value : UInt64) : UInt64 :=
  let value := (value ^^^ (value >>> 30)) * 0xbf58476d1ce4e5b9
  let value := (value ^^^ (value >>> 27)) * 0x94d049bb133111eb
  value ^^^ (value >>> 31)

/-! ## Coverage -/

/-- Generated transition coverage; a list of flags has one flag for each
outcome. -/
structure Coverage where
  register : List Bool
  modify : List Bool
  delete : List Bool
  special : UInt8
deriving DecidableEq, Repr

namespace Coverage

def disarm : UInt8 := (1 : UInt8) <<< 0

def rearm : UInt8 := (1 : UInt8) <<< 1

def reuse : UInt8 := (1 : UInt8) <<< 2

def stale : UInt8 := (1 : UInt8) <<< 3

def wrongPoller : UInt8 := (1 : UInt8) <<< 4

def invalidRegister : UInt8 := (1 : UInt8) <<< 5

def invalidModify : UInt8 := (1 : UInt8) <<< 6

def mark (self : Coverage) (flag : UInt8) : Coverage :=
  { self with special := self.special ||| flag }

end Coverage

/-! ## Generator -/

inductive GeneratedState where
  | vacant
  | registered (mode : Mode) (arm : ArmState)
  | uncertain
deriving DecidableEq, Repr

structure SplitMix64 where
  state : UInt64
deriving DecidableEq, Repr

def SplitMix64.next (self : SplitMix64) : SplitMix64 × UInt64 :=
  let state := self.state + seedGamma
  (⟨state⟩, scramble state)

structure Generator where
  random : SplitMix64
  state : GeneratedState
  hasStale : Bool
  coverage : Coverage
deriving DecidableEq, Repr

namespace Generator

def new (seed : UInt64) : Generator :=
  { random := ⟨seed⟩
    state := .vacant
    hasStale := false
    coverage :=
      { register := List.replicate 4 false
        modify := List.replicate 4 false
        delete := List.replicate 4 false
        special := 0 } }

/-- `self.random.next()`. -/
def draw (self : Generator) : Generator × UInt64 :=
  let drawn := self.random.next
  ({ self with random := drawn.1 }, drawn.2)

def choose (self : Generator) (options : UInt64) : Generator × UInt64 :=
  let (self, value) := self.draw
  (self, value % options)

def outcome (self : Generator) : Generator × Outcome :=
  let (self, choice) := self.choose 4
  (self,
    if choice = 0 then .success
    else if choice = 1 then .notApplied
    else if choice = 2 then .applied
    else .unknown)

def interest (self : Generator) : Generator × Interest :=
  let (self, choice) := self.choose 3
  (self,
    if choice = 0 then .readable
    else if choice = 1 then .writable
    else Interest.union .readable .writable)

def mode (self : Generator) : Generator × Mode :=
  let (self, choice) := self.choose 2
  (self, if choice = 0 then .level else .oneShot)

def register (self : Generator) : Generator × Action :=
  let (self, outcome) := self.outcome
  let (self, key) := self.draw
  let (self, interest) := self.interest
  let (self, mode) := self.mode
  (self, .register outcome ⟨key⟩ interest mode)

def modify (self : Generator) : Generator × Action :=
  let (self, outcome) := self.outcome
  let (self, interest) := self.interest
  let (self, mode) := self.mode
  (self, .modify outcome interest mode)

def delete (self : Generator) : Generator × Action :=
  let (self, outcome) := self.outcome
  (self, .delete outcome)

/-- The state that a registered or modified entry of known outcome has. -/
def installed (mode : Mode) (previous : GeneratedState) :
    Outcome → GeneratedState
  | .success => .registered mode .armed
  | .applied => .registered mode .armed
  | .notApplied => previous
  | .unknown => .uncertain

def observe (self : Generator) : Action → Generator
  | .register outcome _ _ mode =>
      let coverage :=
        { self.coverage with
          register := self.coverage.register.set outcome.index true }
      let coverage :=
        if self.hasStale && outcome != .notApplied then
          coverage.mark Coverage.reuse
        else coverage
      { self with coverage, state := installed mode .vacant outcome }
  | .registerInvalid _ _ =>
      { self with
        coverage := self.coverage.mark Coverage.invalidRegister }
  | .disarm =>
      let self :=
        { self with coverage := self.coverage.mark Coverage.disarm }
      match self.state with
      | .registered mode _ =>
          { self with state := .registered mode .disarmed }
      | _ => self
  | .modify outcome _ mode =>
      let coverage :=
        { self.coverage with
          modify := self.coverage.modify.set outcome.index true }
      let coverage :=
        match self.state, outcome with
        | .registered _ .disarmed, .success =>
            coverage.mark Coverage.rearm
        | .registered _ .disarmed, .applied =>
            coverage.mark Coverage.rearm
        | _, _ => coverage
      { self with coverage, state := installed mode self.state outcome }
  | .modifyInvalid _ =>
      { self with
        coverage := self.coverage.mark Coverage.invalidModify }
  | .delete outcome =>
      let coverage :=
        { self.coverage with
          delete := self.coverage.delete.set outcome.index true }
      let self := { self with coverage }
      match outcome with
      | .success => { self with hasStale := true, state := .vacant }
      | .applied => { self with hasStale := true, state := .vacant }
      | .notApplied => self
      | .unknown => { self with state := .uncertain }
  | .probeStale =>
      { self with coverage := self.coverage.mark Coverage.stale }
  | .probeWrongPoller =>
      { self with coverage := self.coverage.mark Coverage.wrongPoller }

/-- The arm of `next_action` for any registered state. -/
def nextRegistered (self : Generator) : Generator × Action :=
  let (self, choice) := self.choose 10
  if choice ≤ 2 then
    self.modify
  else if choice ≤ 4 then
    self.delete
  else if choice = 5 then
    (self, .probeWrongPoller)
  else if choice = 6 then
    let (self, mode) := self.mode
    (self, .modifyInvalid mode)
  else if self.hasStale then
    (self, .probeStale)
  else
    self.delete

/-- The action that `next_action` draws before it observes it. -/
def drawAction (self : Generator) : Generator × Action :=
  match self.state with
  | .vacant =>
      let (self, choice) := self.choose 6
      if choice = 0 then
        let (self, key) := self.draw
        let (self, mode) := self.mode
        (self, .registerInvalid ⟨key⟩ mode)
      else
        self.register
  | .registered mode arm =>
      if mode = .oneShot ∧ arm = .armed then
        let (self, choice) := self.choose 8
        if choice = 0 then (self, .disarm) else self.nextRegistered
      else
        self.nextRegistered
  | .uncertain =>
      let (self, choice) := self.choose 8
      if choice ≤ 4 then
        self.delete
      else if choice = 5 then
        (self, .probeWrongPoller)
      else if self.hasStale then
        (self, .probeStale)
      else
        self.delete

def nextAction (self : Generator) : Generator × Action :=
  let (self, action) := self.drawAction
  (self.observe action, action)

/-- Draw a number of actions, one after the other. -/
def nextActions (self : Generator) : Nat → Generator × List Action
  | 0 => (self, [])
  | count + 1 =>
      let (self, action) := self.nextAction
      let (self, actions) := self.nextActions count
      (self, action :: actions)

end Generator

end Zio.Testkit
