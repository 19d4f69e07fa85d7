import Zio.Testkit.Sequence

/-!
# The reference model

The test kit's own model of one registration slot: the active entry, the
handles that were retired, the identities that were issued and the calls that
the backend must have seen.  `Enabled` says that every action of a program
meets the precondition of the model that the earlier actions reach, whatever
handles the poller hands out, and every generated program is enabled.
-/

namespace Zio.Testkit

inductive ExpectedState where
  | registered (arm : ArmState)
  | uncertain
deriving DecidableEq, Repr

def ExpectedState.portable : ExpectedState → RegistrationState
  | .registered arm => .registered arm
  | .uncertain => .uncertain

structure Entry where
  registration : Registration
  interest : Interest
  mode : Mode
  state : ExpectedState
deriving DecidableEq, Repr

def Entry.backend (self : Entry) : ScriptedBackendState :=
  match self.state with
  | .registered arm => .registered self.interest self.mode arm
  | .uncertain => .unknown

structure ReferenceModel where
  active : Option Entry
  retired : List Registration
  issued : List RegistrationId
  calls : List MutationCall
deriving DecidableEq, Repr

namespace ReferenceModel

def empty : ReferenceModel :=
  { active := none, retired := [], issued := [], calls := [] }

/-- The three flags are the allocator's answers. -/
def new (retired issued calls : Bool) : Except Unit ReferenceModel :=
  if retired && issued && calls then .ok empty else .error ()

def stale (self : ReferenceModel) : Option Registration :=
  self.retired.getLast?

def recordRegister
    (self : ReferenceModel) (registration : RegistrationId) (key : Key)
    (interest : Interest) (mode : Mode) : Except String ReferenceModel :=
  if self.active.isSome then
    .error "register requires a vacant reference slot"
  else if registration ∈ self.issued then
    .error "register repeated an issued generation"
  else
    .ok
      { self with
        issued := self.issued ++ [registration]
        calls :=
          self.calls ++ [.register registration key interest mode] }

def completeRegister
    (self : ReferenceModel) (outcome : Outcome)
    (registration : Option Registration) (interest : Interest)
    (mode : Mode) : Except String ReferenceModel :=
  match outcome with
  | .notApplied =>
      if registration.isSome then
        .error "not-applied register retained a handle"
      else
        .ok { self with active := none }
  | .success | .applied =>
      match registration with
      | none => .error "register omitted its retained handle"
      | some registration =>
          .ok
            { self with
              active :=
                some
                  { registration, interest, mode
                    state := .registered .armed } }
  | .unknown =>
      match registration with
      | none => .error "unknown register omitted its handle"
      | some registration =>
          .ok
            { self with
              active :=
                some
                  { registration, interest, mode, state := .uncertain } }

def disarm (self : ReferenceModel) :
    Except String (ReferenceModel × RegistrationId) :=
  match self.active with
  | none => .error "disarm requires a handle"
  | some entry =>
      if entry.mode ≠ .oneShot ∨ entry.state ≠ .registered .armed then
        .error "disarm requires an armed one-shot registration"
      else
        let registration := entry.registration.id
        .ok
          ({ self with
              calls := self.calls ++ [.establishDisarmed registration]
              active :=
                some { entry with state := .registered .disarmed } },
            registration)

def recordModify
    (self : ReferenceModel) (desiredInterest : Interest)
    (desiredMode : Mode) : Except String (ReferenceModel × Entry) :=
  match self.active with
  | none => .error "modify requires a handle"
  | some entry =>
      match entry.state with
      | .uncertain => .error "modify requires a proven registered state"
      | .registered arm =>
          .ok
            ({ self with
                calls :=
                  self.calls ++
                    [.modify entry.registration.id entry.interest
                      entry.mode arm desiredInterest desiredMode] },
              entry)

def completeModify
    (self : ReferenceModel) (outcome : Outcome) (interest : Interest)
    (mode : Mode) : Except String ReferenceModel :=
  match self.active with
  | none => .error "modify lost its active handle"
  | some entry =>
      match outcome with
      | .success | .applied =>
          .ok
            { self with
              active :=
                some
                  { entry with
                    interest, mode, state := .registered .armed } }
      | .notApplied => .ok self
      | .unknown =>
          .ok
            { self with
              active := some { entry with state := .uncertain } }

def recordDelete (self : ReferenceModel) :
    Except String (ReferenceModel × Entry) :=
  match self.active with
  | none => .error "delete requires a handle"
  | some entry =>
      .ok
        ({ self with
            calls :=
              self.calls ++
                [.delete entry.registration.id entry.interest
                  entry.state.portable] },
          entry)

def completeDelete (self : ReferenceModel) (outcome : Outcome) :
    Except String ReferenceModel :=
  match outcome with
  | .success | .applied =>
      match self.active with
      | none => .error "delete lost its active handle"
      | some entry =>
          .ok
            { self with
              active := none
              retired := self.retired ++ [entry.registration] }
  | .notApplied => .ok self
  | .unknown =>
      match self.active with
      | none => .error "delete lost its active handle"
      | some entry =>
          .ok
            { self with
              active := some { entry with state := .uncertain } }

def expectedBackend (self : ReferenceModel) (id : RegistrationId) :
    ScriptedBackendState :=
  match self.active with
  | none => .absent
  | some entry =>
      if entry.registration.id = id then entry.backend else .absent

/-! ## Preconditions and transitions -/

/-- The precondition of an action. -/
def permits (self : ReferenceModel) : Action → Bool
  | .register _ _ _ _ => self.active.isNone
  | .registerInvalid _ _ => self.active.isNone
  | .disarm =>
      self.active.any fun entry =>
        entry.mode == .oneShot && entry.state == .registered .armed
  | .modify _ _ _ => self.active.any fun entry => entry.state != .uncertain
  | .modifyInvalid _ => self.active.isSome
  | .delete _ => self.active.isSome
  | .probeStale => self.stale.isSome
  | .probeWrongPoller => self.active.isSome

/-- What an action makes of the model; a registration may be handed out under
any handle. -/
inductive Advances (self : ReferenceModel) :
    Action → ReferenceModel → Prop
  | register {outcome : Outcome} {key : Key} {interest : Interest}
      {mode : Mode} {id : RegistrationId}
      {registration : Option Registration}
      {recorded after : ReferenceModel} :
      self.recordRegister id key interest mode = .ok recorded →
      recorded.completeRegister outcome registration interest mode =
        .ok after →
      Advances self (.register outcome key interest mode) after
  | registerInvalid {key : Key} {mode : Mode} :
      Advances self (.registerInvalid key mode) self
  | disarm {after : ReferenceModel} {id : RegistrationId} :
      self.disarm = .ok (after, id) → Advances self .disarm after
  | modify {outcome : Outcome} {interest : Interest} {mode : Mode}
      {entry : Entry} {recorded after : ReferenceModel} :
      self.recordModify interest mode = .ok (recorded, entry) →
      recorded.completeModify outcome interest mode = .ok after →
      Advances self (.modify outcome interest mode) after
  | modifyInvalid {mode : Mode} : Advances self (.modifyInvalid mode) self
  | delete {outcome : Outcome} {entry : Entry}
      {recorded after : ReferenceModel} :
      self.recordDelete = .ok (recorded, entry) →
      recorded.completeDelete outcome = .ok after →
      Advances self (.delete outcome) after
  | probeStale : Advances self .probeStale self
  | probeWrongPoller : Advances self .probeWrongPoller self

/-- Every action meets the precondition of the model that the actions before
it reach. -/
def Enabled : ReferenceModel → List Action → Prop
  | _, [] => True
  | model, action :: rest =>
      model.permits action = true ∧
        ∀ after, model.Advances action after → Enabled after rest

end ReferenceModel

/-! ## What the generator draws -/

/-- The register and modify actions ask for a direction. -/
def Action.interested : Action → Bool
  | .register _ _ interest _ => !interest.isEmpty
  | .modify _ interest _ => !interest.isEmpty
  | _ => true

/-- The precondition of an action in the generator's own terms. -/
def GeneratedState.permits (self : GeneratedState) (hasStale : Bool) :
    Action → Bool
  | .register _ _ _ _ => self == .vacant
  | .registerInvalid _ _ => self == .vacant
  | .disarm => self == .registered .oneShot .armed
  | .modify _ _ _ => self != .vacant && self != .uncertain
  | .modifyInvalid _ => self != .vacant
  | .delete _ => self != .vacant
  | .probeStale => hasStale
  | .probeWrongPoller => self != .vacant

namespace Generator

/-- A draw changes nothing but the random source. -/
structure Draws (before after : Generator) : Prop where
  state : after.state = before.state
  hasStale : after.hasStale = before.hasStale

theorem Draws.trans
    {first second third : Generator}
    (earlier : Draws first second) (later : Draws second third) :
    Draws first third :=
  ⟨later.state.trans earlier.state, later.hasStale.trans earlier.hasStale⟩

theorem Draws.refl (self : Generator) : Draws self self := ⟨rfl, rfl⟩

theorem draw_draws (self : Generator) : Draws self self.draw.1 := by
  rcases self with ⟨random, state, hasStale, coverage⟩
  exact ⟨rfl, rfl⟩

theorem choose_draws (self : Generator) (options : UInt64) :
    Draws self (self.choose options).1 := by
  have draws := self.draw_draws
  unfold choose
  generalize self.draw = drawn at draws ⊢
  exact draws

theorem outcome_draws (self : Generator) :
    Draws self self.outcome.1 := by
  have draws := self.choose_draws 4
  unfold outcome
  generalize self.choose 4 = drawn at draws ⊢
  exact draws

theorem interest_draws (self : Generator) :
    Draws self self.interest.1 := by
  have draws := self.choose_draws 3
  unfold interest
  generalize self.choose 3 = drawn at draws ⊢
  exact draws

theorem mode_draws (self : Generator) : Draws self self.mode.1 := by
  have draws := self.choose_draws 2
  unfold mode
  generalize self.choose 2 = drawn at draws ⊢
  exact draws

theorem interest_nonempty (self : Generator) :
    self.interest.2.isEmpty = false := by
  simp only [interest]
  split
  · rfl
  · split <;> rfl

/-- An action that a generator drew, with the generator that is left. -/
structure Sound (before : Generator) (drawn : Generator × Action) :
    Prop where
  draws : Draws before drawn.1
  permitted : before.state.permits before.hasStale drawn.2 = true
  interested : drawn.2.interested = true

theorem Sound.after
    {before middle : Generator} {drawn : Generator × Action}
    (draws : Draws before middle) (sound : Sound middle drawn) :
    Sound before drawn := by
  refine ⟨draws.trans sound.draws, ?_, sound.interested⟩
  rw [← draws.state, ← draws.hasStale]
  exact sound.permitted

theorem register_sound
    {self : Generator} (vacant : self.state = .vacant) :
    Sound self self.register := by
  have first := self.outcome_draws
  unfold register
  generalize self.outcome = drawn at first ⊢
  rcases drawn with ⟨self₁, outcome⟩
  have second := self₁.draw_draws
  simp only
  generalize self₁.draw = drawn at second ⊢
  rcases drawn with ⟨self₂, key⟩
  have third := self₂.interest_draws
  have nonempty := self₂.interest_nonempty
  simp only
  generalize self₂.interest = drawn at third nonempty ⊢
  rcases drawn with ⟨self₃, interest⟩
  have fourth := self₃.mode_draws
  simp only
  generalize self₃.mode = drawn at fourth ⊢
  rcases drawn with ⟨self₄, mode⟩
  refine ⟨((first.trans second).trans third).trans fourth, ?_, ?_⟩
  · rw [vacant]
    rfl
  · simp only [Action.interested]
    rw [nonempty]
    rfl

theorem modify_sound
    {self : Generator} {mode : Mode} {arm : ArmState}
    (registered : self.state = .registered mode arm) :
    Sound self self.modify := by
  have first := self.outcome_draws
  unfold modify
  generalize self.outcome = drawn at first ⊢
  rcases drawn with ⟨self₁, outcome⟩
  have second := self₁.interest_draws
  have nonempty := self₁.interest_nonempty
  simp only
  generalize self₁.interest = drawn at second nonempty ⊢
  rcases drawn with ⟨self₂, interest⟩
  have third := self₂.mode_draws
  simp only
  generalize self₂.mode = drawn at third ⊢
  rcases drawn with ⟨self₃, mode⟩
  refine ⟨(first.trans second).trans third, ?_, ?_⟩
  · rw [registered]
    rfl
  · simp only [Action.interested]
    rw [nonempty]
    rfl

theorem delete_sound
    {self : Generator} (occupied : self.state ≠ .vacant) :
    Sound self self.delete := by
  have draws := self.outcome_draws
  unfold delete
  generalize self.outcome = drawn at draws ⊢
  refine ⟨draws, ?_, rfl⟩
  simpa [GeneratedState.permits] using occupied

theorem Sound.mode
    {self : Generator} (occupied : self.state ≠ .vacant) :
    Sound self (self.mode.1, .modifyInvalid self.mode.2) := by
  refine ⟨self.mode_draws, ?_, rfl⟩
  simpa [GeneratedState.permits] using occupied

theorem Sound.wrongPoller
    {self : Generator} (occupied : self.state ≠ .vacant) :
    Sound self (self, .probeWrongPoller) := by
  refine ⟨Draws.refl self, ?_, rfl⟩
  simpa [GeneratedState.permits] using occupied

theorem Sound.stale
    {self : Generator} (stale : self.hasStale = true) :
    Sound self (self, .probeStale) :=
  ⟨Draws.refl self, stale, rfl⟩

theorem nextRegistered_sound
    {self : Generator} {mode : Mode} {arm : ArmState}
    (registered : self.state = .registered mode arm) :
    Sound self self.nextRegistered := by
  have draws := self.choose_draws 10
  unfold nextRegistered
  generalize self.choose 10 = drawn at draws ⊢
  rcases drawn with ⟨next, choice⟩
  have kept : next.state = .registered mode arm :=
    draws.state.trans registered
  have occupied : next.state ≠ .vacant := by
    rw [kept]
    exact fun same => by cases same
  refine Sound.after draws ?_
  simp only
  split
  · exact modify_sound kept
  split
  · exact delete_sound occupied
  split
  · exact Sound.wrongPoller occupied
  split
  · exact Sound.mode occupied
  split
  · rename_i stale
    exact Sound.stale stale
  · exact delete_sound occupied

theorem invalid_sound
    {self : Generator} (vacant : self.state = .vacant) :
    Sound self
      (self.draw.1.mode.1,
        .registerInvalid ⟨self.draw.2⟩ self.draw.1.mode.2) := by
  refine ⟨self.draw_draws.trans (mode_draws _), ?_, rfl⟩
  rw [vacant]
  rfl

theorem drawAction_sound (self : Generator) :
    Sound self self.drawAction := by
  unfold drawAction
  cases state : self.state with
  | vacant =>
      have draws := self.choose_draws 6
      simp only
      generalize self.choose 6 = drawn at draws ⊢
      rcases drawn with ⟨next, choice⟩
      have kept : next.state = .vacant := draws.state.trans state
      refine Sound.after draws ?_
      simp only
      split
      · exact invalid_sound kept
      · exact register_sound kept
  | registered mode arm =>
      simp only
      split
      · rename_i armed
        have draws := self.choose_draws 8
        generalize self.choose 8 = drawn at draws ⊢
        rcases drawn with ⟨next, choice⟩
        have kept : next.state = .registered mode arm :=
          draws.state.trans state
        refine Sound.after draws ?_
        simp only
        split
        · refine ⟨Draws.refl next, ?_, rfl⟩
          rw [kept, armed.1, armed.2]
          rfl
        · exact nextRegistered_sound kept
      · exact nextRegistered_sound state
  | uncertain =>
      have draws := self.choose_draws 8
      simp only
      generalize self.choose 8 = drawn at draws ⊢
      rcases drawn with ⟨next, choice⟩
      have kept : next.state = .uncertain := draws.state.trans state
      have occupied : next.state ≠ .vacant := by
        rw [kept]
        exact fun same => by cases same
      refine Sound.after draws ?_
      simp only
      split
      · exact delete_sound occupied
      split
      · exact Sound.wrongPoller occupied
      split
      · rename_i stale
        exact Sound.stale stale
      · exact delete_sound occupied

end Generator

/-! ## The generator simulates the model -/

/-- What the generator knows about the active entry. -/
def generatedState : Option Entry → GeneratedState
  | none => .vacant
  | some entry =>
      match entry.state with
      | .registered arm => .registered entry.mode arm
      | .uncertain => .uncertain

/-- The generator's state is the view of the model. -/
structure Represents (generator : Generator) (model : ReferenceModel) :
    Prop where
  state : generator.state = generatedState model.active
  hasStale : generator.hasStale = model.stale.isSome

theorem Represents.permits
    {generator : Generator} {model : ReferenceModel}
    (represents : Represents generator model) (action : Action) :
    model.permits action =
      generator.state.permits generator.hasStale action := by
  rw [represents.state, represents.hasStale]
  rcases model with ⟨active, retired, issued, calls⟩
  cases active with
  | none => cases action <;> rfl
  | some entry =>
      rcases entry with ⟨registration, interest, mode, state⟩
      cases state with
      | uncertain => cases action <;> cases mode <;> rfl
      | registered arm =>
          cases action <;> cases mode <;> cases arm <;> rfl

theorem Represents.draws
    {before after : Generator} {model : ReferenceModel}
    (represents : Represents before model)
    (draws : before.Draws after) : Represents after model :=
  ⟨draws.state.trans represents.state,
    draws.hasStale.trans represents.hasStale⟩

namespace ReferenceModel

theorem recordRegister_ok
    {model recorded : ReferenceModel} {id : RegistrationId} {key : Key}
    {interest : Interest} {mode : Mode}
    (succeeded :
      model.recordRegister id key interest mode = .ok recorded) :
    model.active = none ∧ id ∉ model.issued ∧
      recorded =
        { model with
          issued := model.issued ++ [id]
          calls := model.calls ++ [.register id key interest mode] } := by
  unfold recordRegister at succeeded
  split at succeeded
  · cases succeeded
  · rename_i vacant
    split at succeeded
    · cases succeeded
    · rename_i fresh
      cases succeeded
      exact ⟨by simpa using vacant, fresh, rfl⟩

/-- The entry that a registration of known outcome leaves. -/
def registered
    (registration : Option Registration) (interest : Interest)
    (mode : Mode) : Outcome → Option Entry
  | .notApplied => none
  | .success =>
      registration.map fun registration =>
        { registration, interest, mode, state := .registered .armed }
  | .applied =>
      registration.map fun registration =>
        { registration, interest, mode, state := .registered .armed }
  | .unknown =>
      registration.map fun registration =>
        { registration, interest, mode, state := .uncertain }

theorem completeRegister_ok
    {model after : ReferenceModel} {outcome : Outcome}
    {registration : Option Registration} {interest : Interest}
    {mode : Mode}
    (succeeded :
      model.completeRegister outcome registration interest mode =
        .ok after) :
    (outcome ≠ .notApplied → registration.isSome = true) ∧
      after =
        { model with
          active := registered registration interest mode outcome } := by
  unfold completeRegister at succeeded
  cases outcome <;> cases registration <;>
    simp_all [registered]

/-- What a modification of known outcome makes of its entry. -/
def modified (entry : Entry) (interest : Interest) (mode : Mode) :
    Outcome → Entry
  | .success =>
      { entry with interest, mode, state := .registered .armed }
  | .applied =>
      { entry with interest, mode, state := .registered .armed }
  | .notApplied => entry
  | .unknown => { entry with state := .uncertain }

theorem completeModify_eq
    {model : ReferenceModel} {entry : Entry}
    (active : model.active = some entry) (outcome : Outcome)
    (interest : Interest) (mode : Mode) :
    model.completeModify outcome interest mode =
      .ok
        { model with
          active := some (modified entry interest mode outcome) } := by
  rcases model with ⟨held, retired, issued, calls⟩
  cases active
  cases outcome <;> rfl

/-- The entry that a deletion of known outcome leaves. -/
def deleted (entry : Entry) : Outcome → Option Entry
  | .success => none
  | .applied => none
  | .notApplied => some entry
  | .unknown => some { entry with state := .uncertain }

/-- The handles that a deletion of known outcome retires. -/
def retires (entry : Entry) : Outcome → List Registration
  | .success => [entry.registration]
  | .applied => [entry.registration]
  | .notApplied => []
  | .unknown => []

theorem completeDelete_eq
    {model : ReferenceModel} {entry : Entry}
    (active : model.active = some entry) (outcome : Outcome) :
    model.completeDelete outcome =
      .ok
        { model with
          active := deleted entry outcome
          retired := model.retired ++ retires entry outcome } := by
  rcases model with ⟨held, retired, issued, calls⟩
  cases active
  cases outcome <;> simp [completeDelete, deleted, retires]

theorem recordModify_ok
    {model recorded : ReferenceModel} {entry : Entry}
    {interest : Interest} {mode : Mode}
    (succeeded :
      model.recordModify interest mode = .ok (recorded, entry)) :
    model.active = some entry ∧
      ∃ arm, entry.state = .registered arm ∧
        recorded =
          { model with
            calls :=
              model.calls ++
                [.modify entry.registration.id entry.interest entry.mode
                  arm interest mode] } := by
  unfold recordModify at succeeded
  split at succeeded
  · cases succeeded
  · rename_i found active
    split at succeeded
    · cases succeeded
    · rename_i arm known
      cases succeeded
      exact ⟨active, arm, known, rfl⟩

theorem recordDelete_ok
    {model recorded : ReferenceModel} {entry : Entry}
    (succeeded : model.recordDelete = .ok (recorded, entry)) :
    model.active = some entry ∧
      recorded =
        { model with
          calls :=
            model.calls ++
              [.delete entry.registration.id entry.interest
                entry.state.portable] } := by
  unfold recordDelete at succeeded
  split at succeeded
  · cases succeeded
  · rename_i found active
    cases succeeded
    exact ⟨active, rfl⟩

theorem disarm_ok
    {model after : ReferenceModel} {id : RegistrationId}
    (succeeded : model.disarm = .ok (after, id)) :
    ∃ entry, model.active = some entry ∧ entry.mode = .oneShot ∧
      entry.state = .registered .armed ∧ id = entry.registration.id ∧
      after =
        { model with
          calls := model.calls ++ [.establishDisarmed id]
          active :=
            some { entry with state := .registered .disarmed } } := by
  unfold disarm at succeeded
  split at succeeded
  · cases succeeded
  · rename_i entry active
    split at succeeded
    · cases succeeded
    · rename_i ready
      rw [not_or, not_not, not_not] at ready
      cases succeeded
      exact ⟨entry, active, ready.1, ready.2, rfl, rfl⟩

end ReferenceModel

theorem generatedState_registered
    {registration : Option Registration} {outcome : Outcome}
    (retained : outcome ≠ .notApplied → registration.isSome = true)
    (interest : Interest) (mode : Mode) :
    generatedState
        (ReferenceModel.registered registration interest mode outcome) =
      Generator.installed mode .vacant outcome := by
  cases registration with
  | none =>
      cases outcome with
      | notApplied => rfl
      | success => cases retained (fun same => by cases same)
      | applied => cases retained (fun same => by cases same)
      | unknown => cases retained (fun same => by cases same)
  | some registration => cases outcome <;> rfl

theorem generatedState_modified
    (entry : Entry) (interest : Interest) (mode : Mode)
    (outcome : Outcome) :
    generatedState
        (some (ReferenceModel.modified entry interest mode outcome)) =
      Generator.installed mode (generatedState (some entry)) outcome := by
  cases outcome <;> rfl

namespace Generator

/-- What the generator knows after it observed an action. -/
def observed (state : GeneratedState) : Action → GeneratedState
  | .register outcome _ _ mode => installed mode .vacant outcome
  | .disarm =>
      match state with
      | .registered mode _ => .registered mode .disarmed
      | other => other
  | .modify outcome _ mode => installed mode state outcome
  | .delete .success => .vacant
  | .delete .applied => .vacant
  | .delete .unknown => .uncertain
  | _ => state

/-- Whether an action retires a handle. -/
def retires : Action → Bool
  | .delete .success => true
  | .delete .applied => true
  | _ => false

theorem observe_state (self : Generator) (action : Action) :
    (self.observe action).state = observed self.state action ∧
      (self.observe action).hasStale =
        (self.hasStale || retires action) := by
  rcases self with ⟨random, state, hasStale, coverage⟩
  cases action with
  | disarm => cases state <;> simp [observe, observed, retires]
  | delete outcome =>
      cases outcome <;> simp [observe, observed, retires]
  | register outcome key interest mode =>
      simp [observe, observed, retires]
  | registerInvalid key mode => simp [observe, observed, retires]
  | modify outcome interest mode => simp [observe, observed, retires]
  | modifyInvalid mode => simp [observe, observed, retires]
  | probeStale => simp [observe, observed, retires]
  | probeWrongPoller => simp [observe, observed, retires]

end Generator

/-- Observing an action follows the model, whatever handle was given out. -/
theorem Represents.observe
    {generator : Generator} {model after : ReferenceModel}
    {action : Action} (represents : Represents generator model)
    (advances : model.Advances action after) :
    Represents (generator.observe action) after := by
  obtain ⟨state, stale⟩ := generator.observe_state action
  rw [represents.state] at state
  rw [represents.hasStale] at stale
  cases advances with
  | register recordedOk completedOk =>
      obtain ⟨vacant, _, rfl⟩ :=
        ReferenceModel.recordRegister_ok recordedOk
      obtain ⟨retained, rfl⟩ :=
        ReferenceModel.completeRegister_ok completedOk
      refine ⟨?_, ?_⟩
      · rw [state, generatedState_registered retained]
        rfl
      · rw [stale]
        simp [Generator.retires, ReferenceModel.stale]
  | disarm disarmed =>
      obtain ⟨entry, active, oneShot, armed, rfl, rfl⟩ :=
        ReferenceModel.disarm_ok disarmed
      refine ⟨?_, ?_⟩
      · rw [state, active]
        simp [generatedState, armed, oneShot, Generator.observed]
      · rw [stale]
        simp [Generator.retires, ReferenceModel.stale]
  | modify recordedOk completedOk =>
      obtain ⟨active, arm, known, shape⟩ :=
        ReferenceModel.recordModify_ok recordedOk
      rw [ReferenceModel.completeModify_eq
        (by rw [shape]; exact active)] at completedOk
      cases completedOk
      refine ⟨?_, ?_⟩
      · rw [state, active]
        exact (generatedState_modified _ _ _ _).symm
      · rw [stale, shape]
        simp [Generator.retires, ReferenceModel.stale]
  | @delete outcome entry recorded _ recordedOk completedOk =>
      obtain ⟨active, shape⟩ := ReferenceModel.recordDelete_ok recordedOk
      rw [ReferenceModel.completeDelete_eq
        (by rw [shape]; exact active)] at completedOk
      cases completedOk
      refine ⟨?_, ?_⟩
      · rw [state, active]
        cases outcome <;> rfl
      · rw [stale, shape]
        cases outcome <;>
          simp [Generator.retires, ReferenceModel.stale,
            ReferenceModel.retires]
  | registerInvalid =>
      exact ⟨state, by rw [stale]; simp [Generator.retires]⟩
  | modifyInvalid =>
      exact ⟨state, by rw [stale]; simp [Generator.retires]⟩
  | probeStale =>
      exact ⟨state, by rw [stale]; simp [Generator.retires]⟩
  | probeWrongPoller =>
      exact ⟨state, by rw [stale]; simp [Generator.retires]⟩

/-- A represented model enables everything that the generator draws. -/
theorem Represents.enabled
    {generator : Generator} {model : ReferenceModel}
    (represents : Represents generator model) (count : Nat) :
    model.Enabled (generator.nextActions count).2 := by
  induction count generalizing generator model with
  | zero => trivial
  | succ count inductionHypothesis =>
      have sound := generator.drawAction_sound
      unfold Generator.nextActions Generator.nextAction
      generalize generator.drawAction = drawn at sound ⊢
      rcases drawn with ⟨next, action⟩
      refine ⟨?_, fun after advances => ?_⟩
      · rw [represents.permits]
        exact sound.permitted
      · exact inductionHypothesis
          ((represents.draws sound.draws).observe advances)

theorem Represents.start (seed : UInt64) :
    Represents (Generator.new seed) ReferenceModel.empty := ⟨rfl, rfl⟩

end Zio.Testkit
