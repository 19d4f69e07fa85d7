import Zio.Benchmark.Config
import Zio.Library.Json.Render

/-!
# Settings of a command line

A command line is accepted exactly if it spells settings that are within their
bounds, no two of one flag, which go together.  Their order does not matter.
-/

namespace Zio.Benchmark

/-! ## Numbers -/

/-- The text is a decimal number, which may have a plus sign. -/
def Decimal (text : String) (count : Nat) : Prop :=
  ∃ digits, (text.toList = digits ∨ text.toList = '+' :: digits) ∧
    digits ≠ [] ∧ digits.all Char.isDigit = true ∧
      Json.digitsValue digits = count

/-- What a text has after its plus sign, if it has one. -/
def unsignedText (text : String) : List Char :=
  match text.toList with
  | '+' :: rest => rest
  | characters => characters

theorem parseUnsigned_eq (limit : Nat) (text : String) :
    parseUnsigned limit text =
      if unsignedText text ≠ [] ∧
          (unsignedText text).all Char.isDigit = true then
        if Json.digitsValue (unsignedText text) < limit then
          some (Json.digitsValue (unsignedText text))
        else
          none
      else
        none := rfl

theorem unsignedText_iff
    {text : String} {digits : List Char}
    (decimal : digits.all Char.isDigit = true) :
    (text.toList = digits ∨ text.toList = '+' :: digits) ↔
      unsignedText text = digits := by
  unfold unsignedText
  split
  · rename_i rest signed
    rw [signed]
    constructor
    · rintro (plain | same)
      · rw [← plain, List.all_cons, Bool.and_eq_true] at decimal
        cases decimal.1
      · exact (List.cons.inj same).2
    · exact fun same => Or.inr (congrArg (List.cons '+') same)
  · rename_i unsigned
    constructor
    · rintro (plain | signed)
      · exact plain
      · exact (unsigned digits signed).elim
    · exact Or.inl

theorem parseUnsigned_iff
    {limit count : Nat} {text : String} :
    parseUnsigned limit text = some count ↔
      Decimal text count ∧ count < limit := by
  rw [parseUnsigned_eq]
  constructor
  · intro parsed
    split at parsed
    · rename_i shape
      split at parsed
      · rename_i small
        cases parsed
        exact ⟨⟨_, (unsignedText_iff shape.2).mpr rfl, shape.1, shape.2,
          rfl⟩, small⟩
      · cases parsed
    · cases parsed
  · rintro ⟨⟨digits, spelled, nonempty, decimal, rfl⟩, small⟩
    rw [(unsignedText_iff decimal).mp spelled, if_pos ⟨nonempty, decimal⟩,
      if_pos small]

/-- A written number is a decimal number. -/
theorem decimal_toString (count : Nat) : Decimal (toString count) count := by
  refine ⟨Nat.toDigits 10 count, Or.inl ?_, Nat.toDigits_ne_nil, ?_,
    Json.digitsValue_toDigits count⟩
  · exact String.toList_ofList
  · rw [List.all_eq_true]
    exact Json.toDigits_isDigit count

theorem number_iff
    {value : OsString} {flag : String} {maximum count : Nat}
    (small : maximum < 2 ^ 64) :
    number value flag maximum = .ok count ↔
      ∃ text, value = .text text ∧ Decimal text count ∧ 1 ≤ count ∧
        count ≤ maximum := by
  constructor
  · intro accepted
    have bounds := number_bounds accepted
    unfold number at accepted
    cases value with
    | bytes units => cases accepted
    | text text =>
        refine ⟨text, rfl, ?_, bounds⟩
        simp only [Benchmark.text] at accepted
        split at accepted
        · cases accepted
        · rename_i parsed found
          split at accepted
          · cases accepted
          · cases accepted
            exact (parseUnsigned_iff.mp found).1
  · rintro ⟨text, rfl, decimal, least, most⟩
    have parsed : parseUnsigned (2 ^ 64) text = some count :=
      parseUnsigned_iff.mpr ⟨decimal, most.trans_lt small⟩
    unfold number
    simp only [Benchmark.text, parsed]
    exact if_neg (by omega)

/-! ## Settings -/

/-- The options that take a number. -/
inductive NumberOption where
  | samples
  | iterations
  | warmup
  | sampleTimeMs
deriving DecidableEq, Repr

namespace NumberOption

def flag : NumberOption → String
  | samples => "--samples"
  | iterations => "--iterations"
  | warmup => "--warmup"
  | sampleTimeMs => "--sample-time-ms"

def maximum : NumberOption → Nat
  | samples => maxSamples
  | iterations => maxIterations
  | warmup => maxWarmup
  | sampleTimeMs => maxSampleTimeMs

def get (self : Builder) : NumberOption → Option Nat
  | samples => self.samples
  | iterations => self.iterations
  | warmup => self.warmup
  | sampleTimeMs => self.sampleTimeMs

def set (self : Builder) (value : Option Nat) : NumberOption → Builder
  | samples => { self with samples := value }
  | iterations => { self with iterations := value }
  | warmup => { self with warmup := value }
  | sampleTimeMs => { self with sampleTimeMs := value }

end NumberOption

inductive Setting where
  | number (option : NumberOption) (count : Nat)
  | implementation (implementation : Implementation)
  | scenario (scenario : Scenario)
  | output (path : OsString)
  | smoke
  | help
deriving DecidableEq, Repr

namespace Setting

def flag : Setting → String
  | number option _ => option.flag
  | implementation _ => "--implementation"
  | scenario _ => "--scenario"
  | output _ => "--output"
  | smoke => "--smoke"
  | help => "--help"

def apply (self : Builder) : Setting → Builder
  | number option count => option.set self (some count)
  | .implementation value =>
      { self with implementation := some value }
  | .scenario value => { self with scenario := some value }
  | output path => { self with output := some path }
  | smoke => { self with smoke := true }
  | help => { self with help := true }

/-- The setting has not been made. -/
def Free (self : Builder) : Setting → Prop
  | number option _ => option.get self = none
  | implementation _ => self.implementation = none
  | scenario _ => self.scenario = none
  | output _ => self.output = none
  | smoke => self.smoke = false
  | help => self.help = false

/-- The arguments that spell a setting. -/
def Spells : Setting → List OsString → Prop
  | number option count, args =>
      ∃ text, args = [.text option.flag, .text text] ∧
        Decimal text count ∧ 1 ≤ count ∧ count ≤ option.maximum
  | .implementation value, args =>
      args = [.text "--implementation", .text value.name]
  | .scenario value, args =>
      args = [.text "--scenario", .text value.name]
  | output path, args => args = [.text "--output", path]
  | smoke, args => args = [.text "--smoke"]
  | help, args => args = [.text "--help"] ∨ args = [.text "-h"]

/-- The arguments that a setting is written as. -/
def render : Setting → List OsString
  | number option count => [.text option.flag, .text (toString count)]
  | .implementation value =>
      [.text "--implementation", .text value.name]
  | .scenario value => [.text "--scenario", .text value.name]
  | output path => [.text "--output", path]
  | smoke => [.text "--smoke"]
  | help => [.text "--help"]

/-- Only numbers have bounds. -/
def Within : Setting → Prop
  | number option count => 1 ≤ count ∧ count ≤ option.maximum
  | _ => True

theorem Within.spells {setting : Setting} (within : setting.Within) :
    setting.Spells setting.render := by
  cases setting with
  | number option count =>
      exact ⟨_, rfl, decimal_toString count, within.1, within.2⟩
  | implementation value => exact rfl
  | scenario value => exact rfl
  | output path => exact rfl
  | smoke => exact rfl
  | help => exact Or.inl rfl

/-- A setting frees no other one, and takes those of its own flag. -/
theorem free_apply
    {self : Builder} {setting other : Setting} :
    other.Free (setting.apply self) ↔
      other.flag ≠ setting.flag ∧ other.Free self := by
  cases setting with
  | number option count =>
      cases option <;> cases other with
      | number another _ =>
          cases another <;>
            simp [apply, Free, flag, NumberOption.flag, NumberOption.get,
              NumberOption.set]
      | _ => simp [apply, Free, flag, NumberOption.flag, NumberOption.set]
  | _ =>
      cases other with
      | number another _ =>
          cases another <;>
            simp [apply, Free, flag, NumberOption.flag, NumberOption.get]
      | _ => simp [apply, Free, flag]

/-- Settings of different flags can be made in either order. -/
theorem apply_comm
    {first second : Setting} (apart : first.flag ≠ second.flag)
    (self : Builder) :
    second.apply (first.apply self) = first.apply (second.apply self) := by
  cases first with
  | number option count =>
      cases option <;> cases second with
      | number another _ =>
          cases another <;>
            first
              | rfl
              | exact (apart rfl).elim
      | _ => rfl
  | _ =>
      cases second with
      | number another _ => cases another <;> rfl
      | _ =>
          first
            | rfl
            | exact (apart rfl).elim

end Setting

/-- The arguments that spell some settings. -/
inductive Spelling : List Setting → List OsString → Prop
  | nil : Spelling [] []
  | cons {setting : Setting} {settings : List Setting}
      {group args : List OsString} :
      setting.Spells group →
        Spelling settings args →
          Spelling (setting :: settings) (group ++ args)

/-! ## Parsing -/

namespace Setting

theorem parseImplementation_iff
    {value : String} {implementation : Implementation} :
    parseImplementation value = .ok implementation ↔
      value = implementation.name := by
  constructor
  · intro parsed
    unfold parseImplementation at parsed
    split at parsed
    · cases parsed
      assumption
    split at parsed
    · cases parsed
      assumption
    split at parsed
    · cases parsed
      assumption
    split at parsed
    · cases parsed
      assumption
    · cases parsed
  · rintro rfl
    cases implementation <;> rfl

theorem parseScenario_iff
    {value : String} {scenario : Scenario} :
    parseScenario value = .ok scenario ↔ value = scenario.name := by
  constructor
  · intro parsed
    unfold parseScenario at parsed
    split at parsed
    · rename_i found read
      cases parsed
      have same := List.find?_some read
      exact (of_decide_eq_true same).symm
    · cases parsed
  · rintro rfl
    cases scenario <;> rfl

theorem switch_number (self : Builder) (option : NumberOption) :
    self.switch option.flag = none := by
  cases option <;> rfl

theorem takesValue_number (self : Builder) (option : NumberOption) :
    self.takesValue option.flag =
      some
        (Builder.setNumber (option.get self)
          (fun value => option.set self value) option.flag
          option.maximum) := by
  cases option <;> rfl

theorem maximum_small (option : NumberOption) :
    option.maximum < 2 ^ 64 := by
  cases option <;> decide

theorem parse_taken
    {self after : Builder} {argument : String} {value : OsString}
    {take : OsString → Except String Builder}
    (unswitched : self.switch argument = none)
    (taken : self.takesValue argument = some take)
    (ran : take value = .ok after) (args : List OsString) :
    Builder.parse (.text argument :: value :: args) self =
      Builder.parse args after := by
  rw [Builder.parse, unswitched, taken]
  simp only [ran]

theorem parse_switched
    {self after : Builder} {argument : String}
    (switched : self.switch argument = some (.ok after))
    (args : List OsString) :
    Builder.parse (.text argument :: args) self =
      Builder.parse args after := by
  rw [Builder.parse, switched]

theorem setValue_none
    {α : Type} {slot : Option α} (empty : slot = none) (value : α)
    (flag : String) : setValue slot value flag = .ok (some value) := by
  rw [empty]
  rfl

theorem setFlag_unset
    {slot : Bool} (unset : slot = false) (flag : String) :
    setFlag slot flag = .ok true := by
  rw [unset]
  rfl

/-- Arguments that spell a setting make it, if it has not been made. -/
theorem Spells.parse
    {setting : Setting} {group : List OsString}
    (spells : setting.Spells group) {self : Builder}
    (free : setting.Free self) (args : List OsString) :
    Builder.parse (group ++ args) self =
      Builder.parse args (setting.apply self) := by
  cases setting with
  | number option count =>
      obtain ⟨text, rfl, decimal, least, most⟩ := spells
      have read : Benchmark.number (.text text) option.flag option.maximum =
          .ok count :=
        (number_iff (maximum_small option)).mpr
          ⟨text, rfl, decimal, least, most⟩
      refine parse_taken (switch_number self option)
        (takesValue_number self option) ?_ args
      simp only [Builder.setNumber, read, setValue_none free, bind,
        Except.bind, pure, Except.pure]
      rfl
  | implementation value =>
      cases spells
      have empty : self.implementation = none := free
      have read : parseImplementation value.name = .ok value :=
        parseImplementation_iff.mpr rfl
      refine parse_taken rfl rfl ?_ args
      simp only [Benchmark.text, read, setValue_none empty, bind,
        Except.bind, pure, Except.pure]
      rfl
  | scenario value =>
      cases spells
      have empty : self.scenario = none := free
      have read : parseScenario value.name = .ok value :=
        parseScenario_iff.mpr rfl
      refine parse_taken rfl rfl ?_ args
      simp only [Benchmark.text, read, setValue_none empty, bind,
        Except.bind, pure, Except.pure]
      rfl
  | output path =>
      cases spells
      have empty : self.output = none := free
      refine parse_taken rfl rfl ?_ args
      simp only [setValue_none empty, bind, Except.bind, pure, Except.pure]
      rfl
  | smoke =>
      cases spells
      refine parse_switched ?_ args
      unfold Builder.switch
      rw [if_pos rfl, setFlag_unset free]
      rfl
  | help =>
      have unset : self.help = false := free
      rcases spells with rfl | rfl
      · refine parse_switched ?_ args
        unfold Builder.switch
        rw [if_neg (by decide), if_pos (Or.inl rfl), setFlag_unset unset]
        rfl
      · refine parse_switched ?_ args
        unfold Builder.switch
        rw [if_neg (by decide), if_pos (Or.inr rfl), setFlag_unset unset]
        rfl

theorem setNumber_number
    {slot : Option Nat} {update : Option Nat → Builder} {flag : String}
    {maximum : Nat} {value : OsString} {after : Builder}
    (accepted : Builder.setNumber slot update flag maximum value =
      .ok after) :
    slot = none ∧ ∃ count,
      Benchmark.number value flag maximum = .ok count ∧
        after = update (some count) := by
  obtain ⟨count, read, run⟩ := bind_ok accepted
  obtain ⟨set, stored, run⟩ := bind_ok run
  obtain ⟨empty, rfl⟩ := setValue_ok stored
  cases run
  exact ⟨empty, count, read, rfl⟩

/-- An argument that is taken with a value spells a setting with it. -/
def Makes (self : Builder) (group : List OsString) (after : Builder) :
    Prop :=
  ∃ setting : Setting,
    setting.Spells group ∧ setting.Free self ∧ after = setting.apply self

theorem makes_number
    {self after : Builder} {value : OsString} (option : NumberOption)
    (accepted : Builder.setNumber (option.get self)
      (fun value => option.set self value) option.flag option.maximum
      value = .ok after) :
    Makes self [.text option.flag, value] after := by
  obtain ⟨empty, count, read, rfl⟩ := setNumber_number accepted
  obtain ⟨text, rfl, decimal, least, most⟩ :=
    (number_iff (maximum_small option)).mp read
  exact ⟨.number option count, ⟨text, rfl, decimal, least, most⟩, empty,
    rfl⟩

theorem text_ok
    {value : OsString} {flag text : String}
    (read : Benchmark.text value flag = .ok text) : value = .text text := by
  cases value with
  | text value =>
      cases read
      rfl
  | bytes units => cases read

theorem makes_taken
    {self after : Builder} {argument : String} {value : OsString}
    {take : OsString → Except String Builder}
    (taken : self.takesValue argument = some take)
    (accepted : take value = .ok after) :
    Makes self [.text argument, value] after := by
  unfold Builder.takesValue at taken
  split at taken
  · rename_i same
    cases same
    cases taken
    exact makes_number .samples accepted
  split at taken
  · rename_i same
    cases same
    cases taken
    exact makes_number .iterations accepted
  split at taken
  · rename_i same
    cases same
    cases taken
    exact makes_number .warmup accepted
  split at taken
  · rename_i same
    cases same
    cases taken
    exact makes_number .sampleTimeMs accepted
  split at taken
  · rename_i same
    cases same
    cases taken
    obtain ⟨text, read, run⟩ := bind_ok accepted
    obtain ⟨parsed, named, run⟩ := bind_ok run
    obtain ⟨set, stored, run⟩ := bind_ok run
    obtain ⟨empty, rfl⟩ := setValue_ok stored
    cases run
    cases text_ok read
    cases parseImplementation_iff.mp named
    exact ⟨.implementation parsed, rfl, empty, rfl⟩
  split at taken
  · rename_i same
    cases same
    cases taken
    obtain ⟨text, read, run⟩ := bind_ok accepted
    obtain ⟨parsed, named, run⟩ := bind_ok run
    obtain ⟨set, stored, run⟩ := bind_ok run
    obtain ⟨empty, rfl⟩ := setValue_ok stored
    cases run
    cases text_ok read
    cases parseScenario_iff.mp named
    exact ⟨.scenario parsed, rfl, empty, rfl⟩
  split at taken
  · rename_i same
    cases same
    cases taken
    obtain ⟨set, stored, run⟩ := bind_ok accepted
    obtain ⟨empty, rfl⟩ := setValue_ok stored
    cases run
    exact ⟨.output value, rfl, empty, rfl⟩
  · cases taken

theorem setFlag_ok
    {slot after : Bool} {flag : String}
    (accepted : setFlag slot flag = .ok after) :
    slot = false ∧ after = true := by
  cases slot with
  | false =>
      cases accepted
      exact ⟨rfl, rfl⟩
  | true => cases accepted

theorem makes_switched
    {self after : Builder} {argument : String}
    (switched : self.switch argument = some (.ok after)) :
    Makes self [.text argument] after := by
  unfold Builder.switch at switched
  split at switched
  · rename_i same
    cases same
    obtain ⟨set, stored, run⟩ := bind_ok (Option.some.inj switched)
    obtain ⟨unset, rfl⟩ := setFlag_ok stored
    cases run
    exact ⟨.smoke, rfl, unset, rfl⟩
  split at switched
  · rename_i same
    obtain ⟨set, stored, run⟩ := bind_ok (Option.some.inj switched)
    obtain ⟨unset, rfl⟩ := setFlag_ok stored
    cases run
    refine ⟨.help, ?_, unset, rfl⟩
    rcases same with rfl | rfl
    · exact Or.inl rfl
    · exact Or.inr rfl
  · cases switched

end Setting

/-- The builder with some settings made in turn. -/
def Builder.make (self : Builder) (settings : List Setting) : Builder :=
  settings.foldl (fun self setting => setting.apply self) self

/-- No two settings have the same flag. -/
def Distinct (settings : List Setting) : Prop :=
  (settings.map Setting.flag).Nodup

/-- The loop over the arguments accepts what spells settings that have not been
made. -/
theorem Builder.parse_iff
    {args : List OsString} {self after : Builder} :
    Builder.parse args self = .ok after ↔
      ∃ settings, Spelling settings args ∧ Distinct settings ∧
        (∀ setting ∈ settings, setting.Free self) ∧
          after = self.make settings := by
  constructor
  · intro accepted
    have step : ∀ {group args : List OsString} {self next : Builder},
        Setting.Makes self group next →
          (∃ settings, Spelling settings args ∧ Distinct settings ∧
            (∀ setting ∈ settings, setting.Free next) ∧
              after = next.make settings) →
            ∃ settings, Spelling settings (group ++ args) ∧
              Distinct settings ∧
                (∀ setting ∈ settings, setting.Free self) ∧
                  after = self.make settings := by
      rintro group args self next ⟨setting, spells, free, rfl⟩
        ⟨settings, spelling, distinct, rest, rfl⟩
      refine ⟨setting :: settings, .cons spells spelling, ?_, ?_, rfl⟩
      · refine List.nodup_cons.mpr ⟨fun member => ?_, distinct⟩
        obtain ⟨other, inside, same⟩ := List.mem_map.mp member
        exact (Setting.free_apply.mp (rest other inside)).1 same
      · intro other member
        rcases List.mem_cons.mp member with rfl | later
        · exact free
        · exact (Setting.free_apply.mp (rest other later)).2
    fun_induction Builder.parse args self with
    | case1 self =>
        cases accepted
        exact ⟨[], .nil, List.nodup_nil,
          fun setting member => (List.not_mem_nil member).elim, rfl⟩
    | case2 => cases accepted
    | case3 => cases accepted
    | case4 argument args self next switched inductionHypothesis =>
        exact step (Setting.makes_switched switched)
          (inductionHypothesis accepted)
    | case5 => cases accepted
    | case6 => cases accepted
    | case7 => cases accepted
    | case8 argument self _ take taken value args next ran
        inductionHypothesis =>
        exact step (Setting.makes_taken taken ran)
          (inductionHypothesis accepted)
  · rintro ⟨settings, spelling, distinct, free, rfl⟩
    induction spelling generalizing self with
    | nil => rfl
    | @cons setting settings group args spells _ inductionHypothesis =>
        rw [spells.parse (free setting List.mem_cons_self) args]
        obtain ⟨apart, later⟩ := List.nodup_cons.mp distinct
        refine inductionHypothesis later fun other member => ?_
        refine Setting.free_apply.mpr ⟨fun same => apart ?_,
          free other (List.mem_cons_of_mem setting member)⟩
        exact same ▸ List.mem_map_of_mem member

/-! ## Configurations -/

namespace Setting

def numberOf (option : NumberOption) : Setting → Option Nat
  | number other count => if other = option then some count else none
  | _ => none

def implementationOf : Setting → Option Implementation
  | .implementation value => some value
  | _ => none

def scenarioOf : Setting → Option Scenario
  | .scenario value => some value
  | _ => none

def outputOf : Setting → Option OsString
  | output path => some path
  | _ => none

end Setting

/-- The samples of a run that does not say how many. -/
def Metric.defaultSamples : Metric → Nat
  | .timing => 96
  | .allocation => 12

/-- The configuration that settings ask for. -/
def configured (metric : Metric) (settings : List Setting) : Config :=
  let number := fun option =>
    settings.findSome? (Setting.numberOf option)
  let smoke := decide (.smoke ∈ settings)
  { samples :=
      if smoke then 2 else (number .samples).getD metric.defaultSamples
    iterations := if smoke then none else number .iterations
    warmupIterations := if smoke then 1 else (number .warmup).getD 10
    warmupExplicit := (number .warmup).isSome
    targetSampleTimeMs :=
      ((number .sampleTimeMs).map UInt64.ofNat).getD defaultSampleTimeMs
    implementation := settings.findSome? Setting.implementationOf
    scenario := settings.findSome? Setting.scenarioOf
    output := settings.findSome? Setting.outputOf
    help := decide (.help ∈ settings)
    smoke }

/-- Settings that go together. -/
structure Coherent (metric : Metric) (settings : List Setting) : Prop where
  timed : metric = .allocation →
    ∀ count, .number .sampleTimeMs count ∉ settings
  smoke : .smoke ∈ settings → ∀ option count,
    .number option count ∉ settings
  supported : ∀ implementation scenario,
    .implementation implementation ∈ settings →
      .scenario scenario ∈ settings →
        scenario.supports implementation = true

/-- A field of the builder that settings of one flag set. -/
structure Slot (α : Type) where
  get : Builder → Option α
  pick : Setting → Option α
  applied : ∀ self setting,
    get (setting.apply self) = (pick setting).or (get self)
  own : ∀ first second, (pick first).isSome → (pick second).isSome →
    first.flag = second.flag

theorem Slot.make
    {α : Type} (slot : Slot α) {settings : List Setting}
    (distinct : Distinct settings) (self : Builder) :
    slot.get (self.make settings) =
      (settings.findSome? slot.pick).or (slot.get self) := by
  induction settings generalizing self with
  | nil => rfl
  | cons setting rest inductionHypothesis =>
      obtain ⟨apart, later⟩ := List.nodup_cons.mp distinct
      have made := inductionHypothesis later (setting.apply self)
      rw [slot.applied] at made
      refine made.trans ?_
      cases picked : slot.pick setting with
      | none =>
          rw [List.findSome?_cons_of_isNone (by rw [picked]; rfl)]
          rfl
      | some value =>
          have others : rest.findSome? slot.pick = none := by
            rw [List.findSome?_eq_none_iff]
            intro other member
            cases found : slot.pick other with
            | none => rfl
            | some another =>
                have same := slot.own setting other
                  (by rw [picked]; rfl) (by rw [found]; rfl)
                exact (apart (same ▸ List.mem_map_of_mem member)).elim
          rw [others, List.findSome?_cons_of_isSome (by rw [picked]; rfl),
            picked]
          rfl

def numberSlot (option : NumberOption) : Slot Nat :=
  { get := fun self => option.get self
    pick := Setting.numberOf option
    applied := fun self setting => by
      cases setting with
      | number other count => cases option <;> cases other <;> rfl
      | _ => cases option <;> rfl
    own := fun first second one two => by
      cases first with
      | number other count =>
          cases second with
          | number another more =>
              have same : other = option := by
                by_contra apart
                simp [Setting.numberOf, apart] at one
              have also : another = option := by
                by_contra apart
                simp [Setting.numberOf, apart] at two
              rw [same, also]
              rfl
          | _ => cases two
      | _ => cases one }

def implementationSlot : Slot Implementation :=
  { get := Builder.implementation
    pick := Setting.implementationOf
    applied := fun self setting => by
      cases setting with
      | number option count => cases option <;> rfl
      | _ => rfl
    own := fun first second one two => by
      cases first with
      | implementation value =>
          cases second with
          | implementation other => rfl
          | _ => cases two
      | _ => cases one }

def scenarioSlot : Slot Scenario :=
  { get := Builder.scenario
    pick := Setting.scenarioOf
    applied := fun self setting => by
      cases setting with
      | number option count => cases option <;> rfl
      | _ => rfl
    own := fun first second one two => by
      cases first with
      | scenario value =>
          cases second with
          | scenario other => rfl
          | _ => cases two
      | _ => cases one }

def outputSlot : Slot OsString :=
  { get := Builder.output
    pick := Setting.outputOf
    applied := fun self setting => by
      cases setting with
      | number option count => cases option <;> rfl
      | _ => rfl
    own := fun first second one two => by
      cases first with
      | output path =>
          cases second with
          | output other => rfl
          | _ => cases two
      | _ => cases one }

theorem make_switches (self : Builder) (settings : List Setting) :
    (self.make settings).smoke =
        (self.smoke || decide (.smoke ∈ settings)) ∧
      (self.make settings).help =
        (self.help || decide (.help ∈ settings)) := by
  induction settings generalizing self with
  | nil => simp [Builder.make]
  | cons setting rest inductionHypothesis =>
      obtain ⟨smoke, help⟩ := inductionHypothesis (setting.apply self)
      have step : self.make (setting :: rest) =
          (setting.apply self).make rest := rfl
      rw [step, smoke, help]
      cases setting with
      | number option count =>
          cases option <;> simp [Setting.apply, NumberOption.set]
      | _ => simp [Setting.apply]

/-- The settings that a choice may come from. -/
theorem pick_mem
    {α : Type} {pick : Setting → Option α} {make : α → Setting}
    (picked : ∀ setting value,
      pick setting = some value → setting = make value)
    {settings : List Setting} {value : α}
    (found : settings.findSome? pick = some value) :
    make value ∈ settings := by
  obtain ⟨setting, member, same⟩ := List.exists_of_findSome?_eq_some found
  exact picked setting value same ▸ member

/-- A choice of a flag is the setting that makes it. -/
theorem pick_iff
    {α : Type} {pick : Setting → Option α} {make : α → Setting}
    (picked : ∀ setting value,
      pick setting = some value ↔ setting = make value)
    (own : ∀ one other, (make one).flag = (make other).flag)
    {settings : List Setting} (distinct : Distinct settings) {value : α} :
    settings.findSome? pick = some value ↔ make value ∈ settings := by
  refine ⟨pick_mem fun setting value => (picked setting value).mp,
    fun member => ?_⟩
  have chosen := (picked (make value) value).mpr rfl
  obtain ⟨other, found⟩ := Option.isSome_iff_exists.mp
    (show (settings.findSome? pick).isSome from
      List.findSome?_isSome_iff.mpr ⟨make value, member, by rw [chosen]; rfl⟩)
  have inside := pick_mem (fun setting value => (picked setting value).mp)
    found
  have same := List.inj_on_of_nodup_map distinct inside member
    (own other value)
  have again := (picked (make value) other).mpr same.symm
  rw [chosen] at again
  rw [found, again]

theorem pick_isSome
    {α : Type} {pick : Setting → Option α} {settings : List Setting}
    {setting : Setting} (member : setting ∈ settings)
    (picked : (pick setting).isSome) :
    (settings.findSome? pick).isSome := by
  rw [List.findSome?_isSome_iff]
  exact ⟨setting, member, picked⟩

/-- The configuration of a builder. -/
def Builder.config (self : Builder) (metric : Metric) : Config :=
  { samples :=
      if self.smoke then 2 else self.samples.getD metric.defaultSamples
    iterations := if self.smoke then none else self.iterations
    warmupIterations := if self.smoke then 1 else self.warmup.getD 10
    warmupExplicit := self.warmup.isSome
    targetSampleTimeMs :=
      (self.sampleTimeMs.map UInt64.ofNat).getD defaultSampleTimeMs
    implementation := self.implementation
    scenario := self.scenario
    output := self.output
    help := self.help
    smoke := self.smoke }

theorem Builder.finish_eq (self : Builder) (metric : Metric) :
    self.finish metric =
      if metric = .allocation ∧ self.sampleTimeMs.isSome then
        .error "--sample-time-ms is available only for timing receipts"
      else if self.smoke ∧ (self.samples.isSome ∨ self.iterations.isSome ∨
          self.warmup.isSome ∨ self.sampleTimeMs.isSome) then
        .error "--smoke cannot be combined with sampling or warmup tuning"
      else
        match self.implementation, self.scenario with
        | some implementation, some scenario =>
            if scenario.supports implementation then
              .ok (self.config metric)
            else
              .error
                ("scenario `" ++ scenario.name ++ "` is not exposed by `" ++
                  implementation.name ++ "`")
        | _, _ => .ok (self.config metric) := by
  unfold Builder.finish Builder.config
  cases metric <;> cases self.sampleTimeMs <;> rfl

theorem Builder.finish_iff
    {self : Builder} {metric : Metric} {config : Config} :
    self.finish metric = .ok config ↔
      ¬ (metric = .allocation ∧ self.sampleTimeMs.isSome) ∧
        ¬ (self.smoke ∧ (self.samples.isSome ∨ self.iterations.isSome ∨
          self.warmup.isSome ∨ self.sampleTimeMs.isSome)) ∧
        (∀ implementation ∈ self.implementation,
          ∀ scenario ∈ self.scenario,
            scenario.supports implementation = true) ∧
        config = self.config metric := by
  rw [Builder.finish_eq]
  by_cases timed : metric = .allocation ∧ self.sampleTimeMs.isSome
  · rw [if_pos timed]
    exact iff_of_false (fun same => by cases same) fun all => all.1 timed
  by_cases tuned : self.smoke ∧ (self.samples.isSome ∨
      self.iterations.isSome ∨ self.warmup.isSome ∨
      self.sampleTimeMs.isSome)
  · rw [if_neg timed, if_pos tuned]
    exact iff_of_false (fun same => by cases same) fun all => all.2.1 tuned
  rw [if_neg timed, if_neg tuned]
  cases chosen : self.implementation with
  | none =>
      simp only [Except.ok.injEq]
      exact ⟨fun same => ⟨timed, tuned, fun _ member => (by cases member),
        same.symm⟩, fun all => all.2.2.2.symm⟩
  | some implementation =>
      cases selected : self.scenario with
      | none =>
          simp only [Except.ok.injEq]
          exact ⟨fun same => ⟨timed, tuned,
            fun _ _ _ member => (by cases member), same.symm⟩,
            fun all => all.2.2.2.symm⟩
      | some scenario =>
          simp only
          by_cases supported : scenario.supports implementation = true
          · rw [if_pos supported, Except.ok.injEq]
            exact ⟨fun same => ⟨timed, tuned,
              fun one first other second => by
                cases first
                cases second
                exact supported, same.symm⟩,
              fun all => all.2.2.2.symm⟩
          · rw [if_neg supported]
            exact iff_of_false (fun same => by cases same)
              fun all => supported
                (all.2.2.1 implementation rfl scenario rfl)

/-! ## Acceptance -/

/-- The builder that settings make from nothing. -/
structure Made (settings : List Setting) (builder : Builder) : Prop where
  number : ∀ option, option.get builder =
    settings.findSome? (Setting.numberOf option)
  implementation : builder.implementation =
    settings.findSome? Setting.implementationOf
  scenario : builder.scenario = settings.findSome? Setting.scenarioOf
  output : builder.output = settings.findSome? Setting.outputOf
  smoke : builder.smoke = decide (.smoke ∈ settings)
  help : builder.help = decide (.help ∈ settings)

theorem made {settings : List Setting} (distinct : Distinct settings) :
    Made settings (Builder.make {} settings) :=
  { number := fun option => by
      refine ((numberSlot option).make distinct {}).trans ?_
      cases option <;> exact Option.or_none
    implementation :=
      (implementationSlot.make distinct {}).trans Option.or_none
    scenario := (scenarioSlot.make distinct {}).trans Option.or_none
    output := (outputSlot.make distinct {}).trans Option.or_none
    smoke := (make_switches {} settings).1.trans (Bool.false_or _)
    help := (make_switches {} settings).2.trans (Bool.false_or _) }

namespace Made

variable {settings : List Setting} {builder : Builder}
  (made : Made settings builder)
include made

theorem config (metric : Metric) :
    builder.config metric = configured metric settings := by
  have samples : builder.samples = _ := made.number .samples
  have iterations : builder.iterations = _ := made.number .iterations
  have warmup : builder.warmup = _ := made.number .warmup
  have sampleTimeMs : builder.sampleTimeMs = _ :=
    made.number .sampleTimeMs
  unfold Builder.config configured
  rw [samples, iterations, warmup, sampleTimeMs, made.implementation,
    made.scenario, made.output, made.smoke, made.help]

theorem number_isSome (option : NumberOption) :
    (option.get builder).isSome ↔
      ∃ count, .number option count ∈ settings := by
  rw [made.number]
  constructor
  · intro present
    obtain ⟨count, found⟩ := Option.isSome_iff_exists.mp present
    refine ⟨count, pick_mem (fun setting value picked => ?_) found⟩
    cases setting with
    | number other count =>
        unfold Setting.numberOf at picked
        simp only at picked
        split at picked
        · rename_i same
          cases picked
          rw [same]
        · cases picked
    | _ => cases picked
  · rintro ⟨count, member⟩
    exact pick_isSome member (by simp [Setting.numberOf])

theorem implementation_iff
    (distinct : Distinct settings) {implementation : Implementation} :
    builder.implementation = some implementation ↔
      .implementation implementation ∈ settings := by
  rw [made.implementation]
  refine pick_iff (fun setting value => ?_) (fun _ _ => rfl) distinct
  cases setting with
  | implementation other =>
      simp [Setting.implementationOf]
  | _ => simp [Setting.implementationOf]

theorem scenario_iff
    (distinct : Distinct settings) {scenario : Scenario} :
    builder.scenario = some scenario ↔ .scenario scenario ∈ settings := by
  rw [made.scenario]
  refine pick_iff (fun setting value => ?_) (fun _ _ => rfl) distinct
  cases setting with
  | scenario other => simp [Setting.scenarioOf]
  | _ => simp [Setting.scenarioOf]

/-- The checks of the builder are those of the settings. -/
theorem finish_iff
    (distinct : Distinct settings) {metric : Metric} {config : Config} :
    builder.finish metric = .ok config ↔
      Coherent metric settings ∧ config = configured metric settings := by
  have present := made.number_isSome
  have smoke : builder.smoke = true ↔ .smoke ∈ settings := by
    rw [made.smoke, decide_eq_true_eq]
  rw [Builder.finish_iff, made.config]
  constructor
  · rintro ⟨timed, tuned, supported, rfl⟩
    refine ⟨⟨fun allocation count member => ?_,
      fun smoking option count member => ?_,
      fun implementation scenario one two => ?_⟩, rfl⟩
    · exact timed ⟨allocation, (present .sampleTimeMs).mpr ⟨count, member⟩⟩
    · have tuning := (present option).mpr ⟨count, member⟩
      refine tuned ⟨smoke.mpr smoking, ?_⟩
      cases option with
      | samples => exact Or.inl tuning
      | iterations => exact Or.inr (Or.inl tuning)
      | warmup => exact Or.inr (Or.inr (Or.inl tuning))
      | sampleTimeMs => exact Or.inr (Or.inr (Or.inr tuning))
    · exact supported implementation
        ((made.implementation_iff distinct).mpr one) scenario
        ((made.scenario_iff distinct).mpr two)
  · rintro ⟨coherent, rfl⟩
    refine ⟨?_, ?_, fun implementation one scenario two => ?_, rfl⟩
    · rintro ⟨allocation, timing⟩
      obtain ⟨count, member⟩ := (present .sampleTimeMs).mp timing
      exact coherent.timed allocation count member
    · rintro ⟨smoking, tuning⟩
      have quiet := coherent.smoke (smoke.mp smoking)
      rcases tuning with tuning | tuning | tuning | tuning
      · obtain ⟨count, member⟩ := (present .samples).mp tuning
        exact quiet _ count member
      · obtain ⟨count, member⟩ := (present .iterations).mp tuning
        exact quiet _ count member
      · obtain ⟨count, member⟩ := (present .warmup).mp tuning
        exact quiet _ count member
      · obtain ⟨count, member⟩ := (present .sampleTimeMs).mp tuning
        exact quiet _ count member
    · exact coherent.supported implementation scenario
        ((made.implementation_iff distinct).mp one)
        ((made.scenario_iff distinct).mp two)

end Made

/-- The settings that a command line spells are in any order. -/
theorem make_perm
    {settings others : List Setting} (perm : settings.Perm others)
    (distinct : Distinct settings) (self : Builder) :
    self.make settings = self.make others := by
  refine perm.foldl_eq' (fun first one second two builder => ?_) self
  by_cases same : first.flag = second.flag
  · rw [List.inj_on_of_nodup_map distinct one two same]
  · exact Setting.apply_comm same builder

theorem configured_perm
    {settings others : List Setting} (perm : settings.Perm others)
    (distinct : Distinct settings) (metric : Metric) :
    configured metric settings = configured metric others := by
  have again : Distinct others :=
    (perm.map Setting.flag).nodup_iff.mp distinct
  rw [← (made distinct).config, ← (made again).config,
    make_perm perm distinct]

theorem spelling_render
    {settings : List Setting}
    (within : ∀ setting ∈ settings, setting.Within) :
    Spelling settings (settings.flatMap Setting.render) := by
  induction settings with
  | nil => exact .nil
  | cons setting rest inductionHypothesis =>
      exact .cons (within setting List.mem_cons_self).spells
        (inductionHypothesis fun other member =>
          within other (List.mem_cons_of_mem setting member))

theorem Config.parse_iff
    {args : List OsString} {metric : Metric} {config : Config} :
    Config.parse args metric = .ok config ↔
      ∃ settings, Spelling settings args ∧ Distinct settings ∧
        Coherent metric settings ∧ config = configured metric settings := by
  have split : Config.parse args metric = .ok config ↔
      ∃ builder, Builder.parse args {} = .ok builder ∧
        builder.finish metric = .ok config := by
    unfold Config.parse
    cases Builder.parse args {} with
    | error message =>
        exact iff_of_false (fun same => by cases same)
          fun ⟨_, same, _⟩ => by cases same
    | ok builder =>
        exact ⟨fun finished => ⟨builder, rfl, finished⟩,
          fun ⟨_, same, finished⟩ => by
            cases same
            exact finished⟩
  rw [split]
  constructor
  · rintro ⟨builder, parsed, finished⟩
    obtain ⟨settings, spelling, distinct, _, rfl⟩ :=
      Builder.parse_iff.mp parsed
    exact ⟨settings, spelling, distinct,
      ((made distinct).finish_iff distinct).mp finished⟩
  · rintro ⟨settings, spelling, distinct, finished⟩
    refine ⟨Builder.make {} settings, Builder.parse_iff.mpr
      ⟨settings, spelling, distinct, fun setting _ => ?_, rfl⟩,
      ((made distinct).finish_iff distinct).mpr finished⟩
    cases setting with
    | number option count => cases option <;> rfl
    | _ => rfl

/-- A command line is accepted exactly if it spells settings of different
flags, within their bounds, that go together; their order does not matter, and
settings that are written out are read back. -/
theorem parse_exact (metric : Metric) :
    (∀ args config,
      Config.parse args metric = .ok config ↔
        ∃ settings, Spelling settings args ∧ Distinct settings ∧
          Coherent metric settings ∧
            config = configured metric settings) ∧
      (∀ settings others : List Setting, settings.Perm others →
        Distinct settings →
          configured metric settings = configured metric others) ∧
      ∀ settings : List Setting,
        (∀ setting ∈ settings, setting.Within) → Distinct settings →
          Coherent metric settings →
            Config.parse (settings.flatMap Setting.render) metric =
              .ok (configured metric settings) := by
  refine ⟨fun args config => Config.parse_iff,
    fun settings others perm distinct =>
      configured_perm perm distinct metric,
    fun settings within distinct coherent => ?_⟩
  exact Config.parse_iff.mpr
    ⟨settings, spelling_render within, distinct, coherent, rfl⟩

/-- The settings of a short run of one candidate in one scenario. -/
def focusedSettings : List Setting :=
  [.number .samples 5, .number .iterations 200, .implementation .polling,
    .scenario .readySingle, .output (.text "-")]

theorem focusedSettings_read :
    Config.parse (focusedSettings.flatMap Setting.render) .allocation =
        .ok (configured .allocation focusedSettings) ∧
      configured .allocation focusedSettings =
        configured .allocation focusedSettings.reverse := by
  have within : ∀ setting ∈ focusedSettings, setting.Within := by
    simp [focusedSettings, Setting.Within, NumberOption.maximum, maxSamples,
      maxIterations]
  have distinct : Distinct focusedSettings := by
    unfold Distinct focusedSettings
    decide
  have coherent : Coherent .allocation focusedSettings :=
    { timed := by simp [focusedSettings]
      smoke := by simp [focusedSettings]
      supported := by
        intro implementation scenario chosen measured
        simp only [focusedSettings, List.mem_cons, List.not_mem_nil,
          reduceCtorEq, Setting.implementation.injEq,
          Setting.scenario.injEq, or_false, false_or] at chosen measured
        rw [chosen, measured]
        rfl }
  obtain ⟨_, reordered, written⟩ := parse_exact .allocation
  exact ⟨written focusedSettings within distinct coherent,
    reordered _ _ (List.reverse_perm _).symm distinct⟩

end Zio.Benchmark
