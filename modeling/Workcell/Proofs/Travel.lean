import Mathlib.Tactic.Linarith
import Workcell.Device.Driver
import Workcell.Proofs.Fit.Machines
import Workcell.Proofs.Fractions
import Workcell.Proofs.Outstanding

/-!
What the state of an axis tells of its history.

A history of an axis is any order of commands, stops, and ticks of the motions that are still carried out, those that
have been superseded unnoticed among them. Beside the axis it is noted which command was the last to home it, which
commands have been carried through, and whether a stop has frozen a motion since the last command. A command that is
refused, for its target or because there is no scheduler, leaves everything as it is.
-/

set_option autoImplicit false

namespace Workcell

inductive Errand (R : Type) where
  | move (live : Bool) (target : R) (speed : Option R)
  | home (live : Bool)
  | stop
  | tick (index : Nat)

structure Travel (R : Type) where
  axis : Axis R
  motions : List (AxisMotion R)
  home? : Option Nat
  through : List Nat
  frozen : Bool

namespace Travel

variable {R : Type} [Scalar R]

omit [Scalar R] in
def begin (axis : Axis R) : Travel R := ⟨axis, [], none, [], false⟩

def command (travel : Travel R) (target : R) (speed : Option R) (homing : Bool) : Travel R :=
  let (_, motion, moved) := travel.axis.command target speed homing
  let home? := if homing then some moved.generation else travel.home?
  match motion with
  | none => ⟨moved, travel.motions, home?, moved.generation :: travel.through, false⟩
  | some motion => ⟨moved, travel.motions ++ [motion], home?, travel.through, false⟩

def step (travel : Travel R) : Errand R → Travel R
  | .move live target speed =>
      match travel.axis.accepts target with
      | .error _ => travel
      | .ok () => if live then travel.command target speed false else travel
  | .home live => if live then travel.command travel.axis.homeTarget none true else travel
  | .stop => { travel with axis := travel.axis.stop, frozen := travel.frozen || travel.axis.state.moving }
  | .tick index =>
      match travel.motions[index]? with
      | none => travel
      | some motion =>
          match motion.tick? travel.axis with
          | none => { travel with motions := travel.motions.eraseIdx index }
          | some (moved, true) =>
              { travel with
                axis := moved
                motions := travel.motions.eraseIdx index
                through := motion.generation :: travel.through }
          | some (moved, false) => { travel with axis := moved }

def after (axis : Axis R) (history : List (Errand R)) : Travel R := history.foldl step (begin axis)

-- The axis stands inside its limits and was last commanded to go to a place inside them; it moves exactly while a
-- motion of its own generation is carried out; it stands where it was commanded to go unless it moves or has been
-- frozen; and it is homed exactly when the last command to home it has been carried through.
structure Honest (travel : Travel R) : Prop where
  above : travel.axis.spec.min ≤ travel.axis.state.position
  below : travel.axis.state.position ≤ travel.axis.spec.max
  commandedAbove : travel.axis.spec.min ≤ travel.axis.state.commanded
  commandedBelow : travel.axis.state.commanded ≤ travel.axis.spec.max
  moving : travel.axis.state.moving = true ↔ ∃ motion ∈ travel.motions, motion.generation = travel.axis.generation
  arrived : travel.axis.state.moving = false → travel.frozen = false →
    travel.axis.state.position = travel.axis.state.commanded
  homed : travel.axis.state.homed = true ↔ ∃ command ∈ travel.through, travel.home? = some command

def Between (exact : Scalar.Exact R) (low high : Rat) (x : R) : Prop := ∃ q, x = exact.of q ∧ low ≤ q ∧ q ≤ high

-- The way of one tick: some fraction, or more than any.
def Stride (exact : Scalar.Exact R) (way : R) : Prop := (∃ s, way = exact.of s ∧ 0 ≤ s) ∨ ∀ p, exact.of p ≤ way

structure Fit (exact : Scalar.Exact R) (low high : Rat) (axis : Axis R) : Prop where
  lower : axis.spec.min = exact.of low
  upper : axis.spec.max = exact.of high
  ordered : low ≤ high
  home : ∃ q, axis.spec.home.getD Scalar.zero = exact.of q
  fast : Scalar.zero < axis.spec.maxSpeed
  ticks : Scalar.isFinite axis.spec.maxSpeed = true ∨ axis.tick ≠ 0

section

variable {exact : Scalar.Exact R} {low high : Rat} {axis : Axis R}

theorem Fit.of_same (fit : Fit exact low high axis) (other : Axis R) (spec : other.spec = axis.spec)
    (tick : other.tick = axis.tick) : Fit exact low high other := by
  obtain ⟨lower, upper, ordered, home, fast, ticks⟩ := fit
  rw [← spec] at lower upper home fast ticks
  rw [← tick] at ticks
  exact ⟨lower, upper, ordered, home, fast, ticks⟩

theorem clamp_between (spec : AxisSpec R) (lower : spec.min = exact.of low) (upper : spec.max = exact.of high)
    (ordered : low ≤ high) (q : Rat) : ∃ r, spec.clamp? (exact.of q) = some (exact.of r) ∧ low ≤ r ∧ r ≤ high := by
  unfold AxisSpec.clamp?
  rw [lower, upper, if_pos ((exact.le low high).mpr ordered)]
  simp only [exact.lt]
  by_cases short : q < low
  · simp only [if_pos short, exact.lt, if_neg (not_lt.mpr ordered)]
    exact ⟨low, rfl, le_refl low, ordered⟩
  · simp only [if_neg short, exact.lt]
    by_cases long : high < q
    · simp only [if_pos long]
      exact ⟨high, rfl, ordered, le_refl high⟩
    · simp only [if_neg long]
      exact ⟨q, rfl, not_lt.mp short, not_lt.mp long⟩

theorem speed_above_zero (fit : Fit exact low high axis) (request : Option R) :
    (∃ v, axis.speed request = exact.of v ∧ 0 < v) ∨
      Scalar.isFinite (axis.speed request) = false ∧ Scalar.zero < axis.speed request ∧ axis.tick ≠ 0 := by
  have own : (∃ v, axis.spec.maxSpeed = exact.of v ∧ 0 < v) ∨
      Scalar.isFinite axis.spec.maxSpeed = false ∧ Scalar.zero < axis.spec.maxSpeed ∧ axis.tick ≠ 0 := by
    cases bounded : Scalar.isFinite axis.spec.maxSpeed with
    | false => exact Or.inr ⟨rfl, fit.fast, fit.ticks.resolve_left (by simp [bounded])⟩
    | true =>
        obtain ⟨v, same⟩ := exact.finite _ bounded
        refine Or.inl ⟨v, same, (exact.lt 0 v).mp ?_⟩
        rw [← same, ← exact.zero]
        exact fit.fast
  cases request with
  | none => exact own
  | some s =>
      simp only [Axis.speed]
      by_cases usable : Scalar.isFinite s = true ∧ Scalar.zero < s
      · rw [if_pos usable]
        obtain ⟨v, rfl⟩ := exact.finite s usable.1
        have positive : 0 < v := (exact.lt 0 v).mp (exact.zero ▸ usable.2)
        unfold Scalar.lesser
        by_cases slower : axis.spec.maxSpeed < exact.of v
        · rw [if_pos slower]
          exact own
        · rw [if_neg slower]
          exact Or.inl ⟨v, rfl, positive⟩
      · rw [if_neg usable]
        exact own

theorem command_stride (fit : Fit exact low high axis) (request : Option R) :
    Stride exact (axis.speed request * Scalar.seconds axis.tick) := by
  obtain ⟨span, same, nonneg, positive⟩ := exact.seconds axis.tick
  rw [same]
  rcases speed_above_zero fit request with ⟨v, speed, above⟩ | ⟨endless, above, ticks⟩
  · rw [speed, exact.mul]
    exact Or.inl ⟨v * span, rfl, mul_nonneg above.le nonneg⟩
  · exact Or.inr fun p => exact.far _ p span endless above (positive ticks)

-- What becomes of an axis by a command: either it stands there already, or a motion is to carry it there.
theorem command_cases (fit : Fit exact low high axis) (position : Between exact low high axis.state.position) (q : Rat)
    (speed : Option R) (homing : Bool) :
    ∃ target, Between exact low high target ∧
      (axis.state.position = target ∧ axis.command (exact.of q) speed homing =
          (target, none, axis.publish ⟨target, target, false, axis.state.homed || homing⟩ (axis.generation + 1)) ∨
        ∃ way, Stride exact way ∧ axis.command (exact.of q) speed homing =
          (target, some ⟨axis.generation + 1, target, way, homing⟩,
            axis.publish ⟨axis.state.position, target, true, axis.state.homed && !homing⟩ (axis.generation + 1))) := by
  obtain ⟨r, clamped, above, below⟩ := clamp_between axis.spec fit.lower fit.upper fit.ordered q
  refine ⟨exact.of r, ⟨r, rfl, above, below⟩, ?_⟩
  obtain ⟨p, place, -⟩ := position
  unfold Axis.command
  rw [clamped, Option.getD_some]
  by_cases there : (axis.state.position == exact.of r) = true
  · left
    have same : axis.state.position = exact.of r := by
      rw [place, exact.same] at there
      rw [place, there]
    simp only [if_pos there]
    refine ⟨same, ?_⟩
    rw [same]
    cases axis.state.homed with
    | false => simp
    | true => simp
  · right
    simp only [if_neg there]
    exact ⟨_, command_stride fit speed, rfl⟩

-- A tick brings the axis to the target, or a part of the way toward it.
theorem advance_between (motion : AxisMotion R) (state : AxisState R) (stride : Stride exact motion.step)
    (target : Between exact low high motion.target) (position : Between exact low high state.position) :
    motion.advance state = (⟨motion.target, state.commanded, false, state.homed || motion.homing⟩, true) ∨
      ∃ place, Between exact low high place ∧
        motion.advance state = (⟨place, state.commanded, state.moving, state.homed⟩, false) := by
  obtain ⟨t, aim, tAbove, tBelow⟩ := target
  obtain ⟨p, place, pAbove, pBelow⟩ := position
  simp only [AxisMotion.advance]
  by_cases near : Scalar.abs (motion.target - state.position) ≤ motion.step
  · rw [if_pos near]
    exact Or.inl rfl
  · rw [if_neg near]
    refine Or.inr ⟨_, ?_, rfl⟩
    rw [aim, place, exact.sub] at near ⊢
    rw [exact.abs] at near
    rcases stride with ⟨s, way, nonneg⟩ | far
    · rw [way, exact.le, not_le] at near
      rw [way, exact.copySign, exact.add, abs_of_nonneg nonneg]
      -- The rest of the way is longer than the tick's, on the one side or the other.
      by_cases back : t - p < 0
      · rw [abs_of_neg back] at near
        rw [if_pos back]
        exact ⟨_, rfl, by linarith, by linarith⟩
      · rw [abs_of_nonneg (not_lt.mp back)] at near
        rw [if_neg back]
        exact ⟨_, rfl, by linarith, by linarith⟩
    · exact absurd (far _) near

end

structure Sound (exact : Scalar.Exact R) (low high : Rat) (travel : Travel R) : Prop where
  fit : Fit exact low high travel.axis
  position : Between exact low high travel.axis.state.position
  commanded : Between exact low high travel.axis.state.commanded
  moving : travel.axis.state.moving = true ↔ ∃ motion ∈ travel.motions, motion.generation = travel.axis.generation
  arrived : travel.axis.state.moving = false → travel.frozen = false →
    travel.axis.state.position = travel.axis.state.commanded
  homed : travel.axis.state.homed = true ↔ ∃ command ∈ travel.through, travel.home? = some command
  outstanding : Outstanding AxisMotion.generation travel.axis.generation travel.motions
  current : ∀ motion ∈ travel.motions, motion.generation = travel.axis.generation →
    motion.target = travel.axis.state.commanded ∧ Stride exact motion.step ∧
      (motion.homing = true ↔ travel.home? = some motion.generation)
  throughPast : ∀ command ∈ travel.through, command ≤ travel.axis.generation
  homePast : ∀ command, travel.home? = some command → command ≤ travel.axis.generation

variable {exact : Scalar.Exact R} {low high : Rat}

theorem Sound.honest {travel : Travel R} (sound : Sound exact low high travel) : travel.Honest := by
  obtain ⟨p, place, pAbove, pBelow⟩ := sound.position
  obtain ⟨c, aim, cAbove, cBelow⟩ := sound.commanded
  refine ⟨?_, ?_, ?_, ?_, sound.moving, sound.arrived, sound.homed⟩
  · rw [place, sound.fit.lower]
    exact (exact.le low p).mpr pAbove
  · rw [place, sound.fit.upper]
    exact (exact.le p high).mpr pBelow
  · rw [aim, sound.fit.lower]
    exact (exact.le low c).mpr cAbove
  · rw [aim, sound.fit.upper]
    exact (exact.le c high).mpr cBelow

theorem begin_sound (axis : Axis R) (fit : Fit exact low high axis) (home : R) (place : Between exact low high home)
    (idle : axis.state = ⟨home, home, false, false⟩) : Sound exact low high (begin axis) where
  fit := fit
  position := by
    simp only [begin, idle]
    exact place
  commanded := by
    simp only [begin, idle]
    exact place
  moving := by simp [begin, idle]
  arrived _ _ := by simp only [begin, idle]
  homed := by simp [begin, idle]
  outstanding := .nothing
  current _ member := absurd member List.not_mem_nil
  throughPast _ member := absurd member List.not_mem_nil
  homePast _ known := by cases known

theorem command_sound (travel : Travel R) (sound : Sound exact low high travel) (q : Rat) (speed : Option R)
    (homing : Bool) : Sound exact low high (travel.command (exact.of q) speed homing) := by
  have gone := sound.outstanding.superseded
  have done : ∀ command ∈ travel.through, command ≠ travel.axis.generation + 1 := by
    intro command member
    have bound := sound.throughPast command member
    omega
  have home : ∀ command, travel.home? = some command → command ≠ travel.axis.generation + 1 := by
    intro command known
    have bound := sound.homePast command known
    omega
  have homePast : ∀ command, (if homing = true then some (travel.axis.generation + 1) else travel.home?) = some command →
      command ≤ travel.axis.generation + 1 := by
    intro command known
    cases homing with
    | true => exact (Option.some.inj known).symm.le
    | false => exact Nat.le_succ_of_le (sound.homePast command known)
  have throughPast : ∀ command ∈ travel.through, command ≤ travel.axis.generation + 1 :=
    fun command member => Nat.le_succ_of_le (sound.throughPast command member)
  obtain ⟨target, inside, cases⟩ := command_cases sound.fit sound.position q speed homing
  rcases cases with ⟨there, same⟩ | ⟨way, stride, same⟩
  · simp only [command, same, Axis.publish]
    exact {
      fit := sound.fit.of_same _ rfl rfl
      position := inside
      commanded := inside
      moving := by
        simp only [Bool.false_eq_true, false_iff, not_exists, not_and]
        exact gone
      arrived := fun _ _ => rfl
      homed := by
        cases homing with
        | true => simp
        | false =>
            simp only [Bool.or_false, Bool.false_eq_true, if_false, List.mem_cons, exists_eq_or_imp]
            rw [sound.homed]
            exact ⟨Or.inr, fun either => either.resolve_left fun known => home _ known rfl⟩
      outstanding := sound.outstanding.moved_on
      current := fun motion member own => absurd own (gone motion member)
      throughPast := by
        intro command member
        rcases List.mem_cons.mp member with rfl | old
        · exact le_refl _
        · exact throughPast command old
      homePast := homePast }
  · simp only [command, same, Axis.publish]
    exact {
      fit := sound.fit.of_same _ rfl rfl
      position := sound.position
      commanded := inside
      moving := ⟨fun _ => ⟨_, List.mem_append_right _ (List.mem_singleton_self _), rfl⟩, fun _ => rfl⟩
      arrived := fun idle => by cases idle
      homed := by
        cases homing with
        | true =>
            simp only [Bool.not_true, Bool.and_false, Bool.false_eq_true, if_true, Option.some.injEq, false_iff]
            rintro ⟨command, member, rfl⟩
            exact done _ member rfl
        | false => simpa using sound.homed
      outstanding := sound.outstanding.begun _ rfl
      current := by
        intro motion member own
        rcases List.mem_append.mp member with old | new
        · exact absurd own (gone motion old)
        · rw [List.mem_singleton.mp new]
          refine ⟨rfl, stride, ?_⟩
          cases homing with
          | true => simp
          | false => simpa using fun known => home _ known rfl
      throughPast := throughPast
      homePast := homePast }

omit [Scalar R] in
theorem stop_state (axis : Axis R) :
    axis.stop.spec = axis.spec ∧ axis.stop.tick = axis.tick ∧ axis.stop.generation = axis.generation + 1 ∧
      axis.stop.state = ⟨axis.state.position, axis.state.commanded, false, axis.state.homed⟩ := by
  unfold Axis.stop
  cases moving : axis.state.moving with
  | true => exact ⟨rfl, rfl, rfl, rfl⟩
  | false =>
      refine ⟨rfl, rfl, rfl, ?_⟩
      show axis.state = ⟨_, _, false, _⟩
      rw [← moving]

theorem stop_sound (travel : Travel R) (sound : Sound exact low high travel) : Sound exact low high (travel.step .stop) := by
  have gone := sound.outstanding.superseded
  obtain ⟨spec, tick, later, state⟩ := stop_state travel.axis
  simp only [step]
  exact {
    fit := sound.fit.of_same _ spec tick
    position := by
      rw [state]
      exact sound.position
    commanded := by
      rw [state]
      exact sound.commanded
    moving := by
      rw [state, later]
      simp only [Bool.false_eq_true, false_iff, not_exists, not_and]
      exact gone
    arrived := by
      intro _ free
      rw [Bool.or_eq_false_iff] at free
      rw [state]
      exact sound.arrived free.2 free.1
    homed := by
      rw [state]
      exact sound.homed
    outstanding := later ▸ sound.outstanding.moved_on
    current := by
      intro motion member own
      rw [later] at own
      exact absurd own (gone motion member)
    throughPast := by
      intro command member
      rw [later]
      exact Nat.le_succ_of_le (sound.throughPast command member)
    homePast := by
      intro command known
      rw [later]
      exact Nat.le_succ_of_le (sound.homePast command known) }

theorem tick_sound (travel : Travel R) (sound : Sound exact low high travel) (index : Nat) :
    Sound exact low high (travel.step (.tick index)) := by
  simp only [step]
  cases present : travel.motions[index]? with
  | none => exact sound
  | some motion =>
      have member := List.mem_of_getElem? present
      have fewer : ∀ other ∈ travel.motions.eraseIdx index, other ∈ travel.motions := fun other =>
        List.mem_of_mem_eraseIdx
      have others := sound.outstanding.others_differ index motion present
      simp only [AxisMotion.tick?]
      by_cases own : travel.axis.generation = motion.generation
      · rw [if_pos own]
        obtain ⟨target, stride, homing⟩ := sound.current motion member own.symm
        have moving : travel.axis.state.moving = true := sound.moving.mpr ⟨motion, member, own.symm⟩
        rcases advance_between motion travel.axis.state stride (target ▸ sound.commanded) sound.position with
          last | ⟨place, inside, partway⟩
        · simp only [last, Axis.publish]
          exact {
            fit := sound.fit.of_same _ rfl rfl
            position := target ▸ sound.commanded
            commanded := sound.commanded
            moving := by
              simp only [Bool.false_eq_true, false_iff, not_exists, not_and]
              exact fun other listed same => others other listed (same.trans own)
            arrived := fun _ _ => target
            homed := by
              rw [Bool.or_eq_true, sound.homed, homing]
              simp only [List.mem_cons, exists_eq_or_imp]
              exact or_comm
            outstanding := sound.outstanding.removed index
            current := fun other listed same => absurd (same.trans own) (others other listed)
            throughPast := by
              intro command listed
              rcases List.mem_cons.mp listed with rfl | old
              · exact own.symm.le
              · exact sound.throughPast command old
            homePast := sound.homePast }
        · simp only [partway, Axis.publish]
          exact {
            fit := sound.fit.of_same _ rfl rfl
            position := inside
            commanded := sound.commanded
            moving := sound.moving
            arrived := fun idle => absurd (moving.symm.trans idle) (by simp)
            homed := sound.homed
            outstanding := sound.outstanding
            current := sound.current
            throughPast := sound.throughPast
            homePast := sound.homePast }
      · rw [if_neg own]
        exact {
          fit := sound.fit
          position := sound.position
          commanded := sound.commanded
          moving := by
            rw [sound.moving]
            constructor
            · rintro ⟨other, listed, same⟩
              refine ⟨other, ?_, same⟩
              obtain ⟨place, found⟩ := List.getElem?_of_mem listed
              refine List.mem_eraseIdx_iff_getElem?.mpr ⟨place, ?_, found⟩
              rintro rfl
              rw [present] at found
              exact own (Option.some.inj found ▸ same).symm
            · rintro ⟨other, listed, same⟩
              exact ⟨other, fewer other listed, same⟩
          arrived := sound.arrived
          homed := sound.homed
          outstanding := sound.outstanding.removed index
          current := fun other listed => sound.current other (fewer other listed)
          throughPast := sound.throughPast
          homePast := sound.homePast }

theorem step_sound (travel : Travel R) (sound : Sound exact low high travel) (errand : Errand R) :
    Sound exact low high (travel.step errand) := by
  cases errand with
  | move live target speed =>
      simp only [step, Axis.accepts]
      by_cases sensible : Scalar.isFinite target = true
      · obtain ⟨q, rfl⟩ := exact.finite target sensible
        rw [if_pos sensible]
        cases live with
        | true => exact command_sound travel sound q speed false
        | false => exact sound
      · rw [if_neg sensible]
        exact sound
  | home live =>
      cases live with
      | true =>
          obtain ⟨q, given⟩ := sound.fit.home
          obtain ⟨r, clamped, -⟩ := clamp_between travel.axis.spec sound.fit.lower sound.fit.upper sound.fit.ordered q
          have target : travel.axis.homeTarget = exact.of r := by
            rw [Axis.homeTarget, AxisSpec.homePosition?, given, clamped, Option.getD_some]
          simp only [step, target, if_true]
          exact command_sound travel sound r none true
      | false => exact sound
  | stop => exact stop_sound travel sound
  | tick index => exact tick_sound travel sound index

theorem after_sound (axis : Axis R) (start : Sound exact low high (begin axis)) (history : List (Errand R)) :
    Sound exact low high (after axis history) := by
  have carried : ∀ (errands : List (Errand R)) (travel : Travel R), Sound exact low high travel →
      Sound exact low high (errands.foldl step travel) := by
    intro errands
    induction errands with
    | nil => exact fun _ sound => sound
    | cons errand rest ih => exact fun travel sound => ih _ (step_sound travel sound errand)
  exact carried history _ start

theorem limits_of_valid (spec : AxisSpec R) (valid : spec.validate = .ok ()) :
    spec.min < spec.max ∧ Scalar.zero < spec.maxSpeed := by
  obtain ⟨-, range, fast, -⟩ := spec.valid_iff.mp valid
  exact ⟨range, fast⟩

/-- An axis made of a valid record tells the truth of its history, whatever the history is. -/
theorem state_tells_the_history (exact : Scalar.Exact R) (spec : AxisSpec R) (valid : spec.validate = .ok ())
    (lower : Scalar.isFinite spec.min = true) (upper : Scalar.isFinite spec.max = true)
    (home : ∀ place, spec.home = some place → Scalar.isFinite place = true) (tick : Duration)
    (ticks : Scalar.isFinite spec.maxSpeed = true ∨ tick ≠ 0) :
    ∃ axis, (Driver.simulation tick).createAxis spec = .ok (some axis) ∧ ∀ history, (after axis history).Honest := by
  obtain ⟨range, fast⟩ := limits_of_valid spec valid
  obtain ⟨low, lowest⟩ := exact.finite _ lower
  obtain ⟨high, highest⟩ := exact.finite _ upper
  have ordered : low ≤ high := by
    rw [lowest, highest, exact.lt] at range
    exact range.le
  have known : ∃ q, spec.home.getD Scalar.zero = exact.of q := by
    cases given : spec.home with
    | none => exact ⟨0, exact.zero⟩
    | some place => exact exact.finite place (home place given)
  obtain ⟨q, given⟩ := known
  obtain ⟨r, clamped, above, below⟩ := clamp_between spec lowest highest ordered q
  have parked : spec.homePosition? = some (exact.of r) := by rw [AxisSpec.homePosition?, given, clamped]
  refine ⟨⟨spec, tick, spec.contact, ⟨exact.of r, exact.of r, false, false⟩, 0, 0⟩, ?_, fun history => ?_⟩
  · simp only [Driver.createAxis, Axis.new?, parked, Option.map_some, Axis.withContact]
  · have fit : Fit exact low high ⟨spec, tick, spec.contact, ⟨exact.of r, exact.of r, false, false⟩, 0, 0⟩ :=
      ⟨lowest, highest, ordered, ⟨q, given⟩, fast, ticks⟩
    exact (after_sound _ (begin_sound _ fit _ ⟨r, rfl, above, below⟩ rfl) history).honest

open Exact (Reading)

def slide : AxisSpec Reading := .new "slide" (.of 0) (.of 100)

def errands : List (Errand Reading) :=
  [.move true (.of 2) none, .tick 0, .home true, .tick 0, .tick 0, .move true .none none, .move true (.of 50) none, .stop]

theorem state_tells_of_a_slide :
    slide.validate = .ok () ∧ (Scalar.isFinite slide.min && Scalar.isFinite slide.max && Scalar.isFinite slide.maxSpeed) ∧
      ∃ axis, (Driver.simulation (.ofMillis 10)).createAxis slide = .ok (some axis) ∧ (after axis errands).Honest ∧
        (after axis errands).axis.state.homed = true ∧ (after axis errands).frozen = true := by
  have valid : slide.validate = .ok () := rfl
  obtain ⟨axis, made, honest⟩ := state_tells_the_history Exact.readings slide valid rfl rfl
    (fun _ given => by cases given) (.ofMillis 10) (Or.inl rfl)
  refine ⟨valid, rfl, axis, made, honest errands, ?_⟩
  obtain rfl : _ = axis := Option.some.inj (Except.ok.inj made)
  decide +kernel

end Travel

end Workcell
