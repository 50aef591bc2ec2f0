import Mathlib.Algebra.Order.Floor.Semiring
import Mathlib.Algebra.Ring.Parity
import Mathlib.Tactic.FieldSimp
import Workcell.Proofs.Arriving.Leg
import Workcell.Proofs.Arriving.Trip
import Workcell.Proofs.Fractions
import Workcell.Proofs.Settling
import Workcell.Proofs.Sturdy.Devices

/-!
The way of an actuator from one end of its travel to the other, without rounding but of the time that the stroke takes.

A stroke may begin anywhere on the travel, where another one was cut short or turned back; its time is the part of the
action time that the way before it is of the travel. From then on the position follows the clock at every tick, and the
first tick at which the time is over ends the stroke.
-/

set_option autoImplicit false

namespace Workcell

def Decimal.Nearest (x : Rat) (n : Nat) : Prop := |x - n| ≤ 1 / 2 ∧ (|x - n| = 1 / 2 → Even n)

theorem Decimal.roundHalfEven_nearest (numerator denominator : Nat) (positive : 0 < denominator) :
    Nearest (numerator / denominator) (roundHalfEven numerator denominator) := by
  have counts : (0 : Rat) < denominator := by exact_mod_cast positive
  have split : (numerator : Rat) = denominator * (numerator / denominator : Nat) + (numerator % denominator : Nat) := by
    exact_mod_cast (Nat.div_add_mod numerator denominator).symm
  have short := Nat.mod_lt numerator positive
  unfold roundHalfEven
  generalize numerator / denominator = quotient at split ⊢
  generalize numerator % denominator = rest at split short ⊢
  have part : (numerator : Rat) / denominator = quotient + rest / denominator := by
    rw [split]
    field_simp
  rw [part]
  by_cases below : 2 * rest < denominator
  · have least : (0 : Rat) ≤ rest / denominator := by positivity
    have less : (rest : Rat) / denominator < 1 / 2 := by
      rw [div_lt_div_iff₀ counts two_pos]
      exact_mod_cast (by omega : rest * 2 < 1 * denominator)
    rw [if_pos below, Nearest, add_sub_cancel_left, abs_of_nonneg least]
    exact ⟨less.le, fun exactly => absurd exactly less.ne⟩
  · rw [if_neg below]
    by_cases above : denominator < 2 * rest
    · have most : (rest : Rat) / denominator < 1 := by
        rw [div_lt_one counts]
        exact_mod_cast short
      have more : 1 / 2 < (rest : Rat) / denominator := by
        rw [div_lt_div_iff₀ two_pos counts]
        exact_mod_cast (by omega : 1 * denominator < rest * 2)
      have gained : |(quotient : Rat) + rest / denominator - (quotient + 1 : Nat)| = 1 - rest / denominator := by
        rw [Nat.cast_succ, add_sub_add_left_eq_sub, abs_of_neg (sub_neg.mpr most), neg_sub]
      rw [if_pos above, Nearest, gained]
      exact ⟨by linarith, fun exactly => absurd exactly (by linarith)⟩
    · have half : (rest : Rat) / denominator = 1 / 2 := by
        rw [div_eq_div_iff counts.ne' two_ne_zero]
        exact_mod_cast (by omega : rest * 2 = 1 * denominator)
      rw [if_neg above, half, Nearest]
      by_cases even : quotient % 2 = 0
      · rw [if_pos even, add_sub_cancel_left, abs_of_pos (by norm_num)]
        exact ⟨le_refl _, fun _ => Nat.even_iff.mpr even⟩
      · rw [if_neg even, Nat.cast_succ, add_sub_add_left_eq_sub]
        exact ⟨by norm_num [abs_of_neg], fun _ => Nat.even_iff.mpr (by omega)⟩

namespace Actuator

theorem stroke_time_nearest (actuator : Actuator Rat) (on : Bool) (onTravel : OnTravel actuator.state.position)
    (sized : actuator.spec.actionTime < Nat.pow 2 64) :
    Decimal.Nearest (|travelEnd on - actuator.state.position| * actuator.spec.stroke) (actuator.strokeTime on) := by
  have times : (Scalar.seconds actuator.spec.stroke : Rat) = actuator.spec.stroke / 1000000000 := Exact.fractions_timed _
  obtain ⟨time, timed⟩ := Option.isSome_iff_exists.mp (Exact.steady.timed actuator on onTravel sized)
  have same : actuator.strokeTime on = time := congrArg (Option.getD · 0) timed
  have seconds : Exact.nanoseconds (|travelEnd on - actuator.state.position| * Scalar.seconds actuator.spec.stroke) =
      some time := Exact.magnitude_is_abs _ ▸ timed
  rw [Exact.nanoseconds] at seconds
  split at seconds
  · cases seconds
  · rename_i inside
    rw [same, ← Option.some.inj seconds]
    generalize isWay : |travelEnd on - actuator.state.position| * Scalar.seconds actuator.spec.stroke = way at inside ⊢
    have positive : 0 ≤ way := not_lt.mp fun negative => inside (Or.inl negative)
    have nearest := Decimal.roundHalfEven_nearest (way.num.toNat * 1000000000) way.den way.den_pos
    have spans : (way.num.toNat : Rat) / way.den = way := by
      have counts : ((way.num.toNat : Int) : Rat) = way.num := by
        rw [Int.toNat_of_nonneg (Rat.num_nonneg.mpr positive)]
      rw [← Int.cast_natCast, counts, Rat.num_div_den]
    have whole : ((way.num.toNat * 1000000000 : Nat) : Rat) / way.den =
        |travelEnd on - actuator.state.position| * actuator.spec.stroke := by
      push_cast
      rw [mul_div_right_comm, spans, ← isWay, times]
      ring
    rw [← whole]
    exact nearest

end Actuator

def elapsedAt (tick : Duration) (begun ticks : Nat) : Duration := .ofMillis (tickAt tick begun ticks - begun)

theorem elapsedAt_mono (tick : Duration) (lasts : tick ≠ 0) (begun : Nat) : StrictMono (elapsedAt tick begun) := by
  intro earlier later less
  have ahead := tickAt_mono tick lasts begun less
  have begins : begun ≤ tickAt tick begun earlier := (tickAt_mono tick lasts begun).monotone (Nat.zero_le earlier)
  show (tickAt tick begun earlier - begun) * 1000000 < (tickAt tick begun later - begun) * 1000000
  omega

theorem elapsedAt_reaches (tick : Duration) (lasts : tick ≠ 0) (begun : Nat) (time : Duration) :
    ∃ ticks, time ≤ elapsedAt tick begun ticks := ⟨time, (elapsedAt_mono tick lasts begun).le_apply⟩

theorem elapsedAt_of_millis (ms begun ticks : Nat)
    (named : Duration.beyond (begun + ticks * ms) (.ofMillis ms) = false) :
    elapsedAt (.ofMillis ms) begun (ticks + 1) = (ticks + 1) * Duration.ofMillis ms := by
  rw [elapsedAt, tickAt_of_millis ms begun ticks named, Nat.add_sub_cancel_left]
  exact Nat.mul_assoc _ _ _

namespace Stroke

-- What an actuator shows on a stroke once some time has passed: it was `was` before, and stays so until the time of
-- the stroke is over.
def shows (stroke : Stroke Rat) (was : Bool) (elapsed : Duration) : ActuatorState Rat :=
  if elapsed < stroke.time then
    ⟨was, stroke.on, true, stroke.start + (stroke.target - stroke.start) * (elapsed / stroke.time)⟩
  else ⟨stroke.on, stroke.on, false, stroke.target⟩

variable {stroke : Stroke Rat}

theorem fraction_eq (stroke : Stroke Rat) (lasts : stroke.time ≠ 0) (elapsed : Duration) :
    stroke.fraction elapsed = if stroke.time < elapsed then (1 : Rat) else (elapsed : Rat) / stroke.time := by
  have counts : (0 : Rat) < stroke.time := by exact_mod_cast Nat.pos_of_ne_zero lasts
  have ratio : (Scalar.seconds elapsed / Scalar.seconds stroke.time : Rat) = elapsed / stroke.time := by
    rw [Exact.fractions_timed elapsed, Exact.fractions_timed stroke.time]
    show (elapsed : Rat) / 1000000000 / (stroke.time / 1000000000) = _
    field_simp
  have finished : (1 : Rat) < elapsed / stroke.time ↔ stroke.time < elapsed := by
    rw [one_lt_div counts]
    exact Nat.cast_lt
  show (if (1 : Rat) < Scalar.seconds elapsed / Scalar.seconds stroke.time then (1 : Rat) else _) = _
  rw [ratio]
  exact if_congr finished rfl rfl

theorem one_le_fraction_iff (lasts : stroke.time ≠ 0) (elapsed : Duration) :
    Scalar.one ≤ stroke.fraction elapsed ↔ stroke.time ≤ elapsed := by
  have counts : (0 : Rat) < stroke.time := by exact_mod_cast Nat.pos_of_ne_zero lasts
  show (1 : Rat) ≤ stroke.fraction elapsed ↔ _
  rw [fraction_eq stroke lasts]
  by_cases finished : stroke.time < elapsed
  · rw [if_pos finished]
    exact iff_of_true (le_refl _) finished.le
  · rw [if_neg finished, one_le_div counts]
    exact Nat.cast_le

theorem advance_shows (lasts : stroke.time ≠ 0) (was : Bool) (earlier elapsed : Duration) (short : earlier < stroke.time) :
    stroke.advance elapsed (stroke.shows was earlier) = (stroke.shows was elapsed, decide (stroke.time ≤ elapsed)) := by
  unfold advance shows
  rw [if_pos short]
  dsimp only
  by_cases finished : stroke.time ≤ elapsed
  · rw [if_pos ((one_le_fraction_iff lasts elapsed).mpr finished), if_neg (Nat.not_lt.mpr finished), decide_eq_true finished]
  · have part : stroke.fraction elapsed = elapsed / stroke.time :=
      (fraction_eq stroke lasts elapsed).trans (if_neg fun past => finished past.le)
    rw [if_neg (mt (one_le_fraction_iff lasts elapsed).mp finished), if_pos (Nat.lt_of_not_le finished),
      decide_eq_false finished, part]

-- How many ticks a stroke takes: the first at which its time is over.
def ticks (stroke : Stroke Rat) (tick : Duration) (lasts : tick ≠ 0) (begun : Nat) : Nat :=
  Nat.find (elapsedAt_reaches tick lasts begun stroke.time)

theorem lt_ticks_iff (tick : Duration) (lasts : tick ≠ 0) (begun steps : Nat) :
    steps < stroke.ticks tick lasts begun ↔ elapsedAt tick begun steps < stroke.time := by
  constructor
  · exact fun short => Nat.lt_of_not_le (Nat.find_min (elapsedAt_reaches tick lasts begun stroke.time) short)
  · intro short
    refine Nat.lt_of_not_le fun late => ?_
    have reached : stroke.time ≤ elapsedAt tick begun (stroke.ticks tick lasts begun) :=
      Nat.find_spec (elapsedAt_reaches tick lasts begun stroke.time)
    exact Nat.not_lt_of_le (reached.trans ((elapsedAt_mono tick lasts begun).monotone late)) short

def along (stroke : Stroke Rat) (fired : Actuator Rat) (begun ticks : Nat) : Actuator Rat :=
  ⟨fired.spec, fired.tick, stroke.shows fired.state.on (elapsedAt fired.tick begun ticks), fired.generation,
    fired.published + ticks⟩

def trip (stroke : Stroke Rat) (fired : Actuator Rat) (lasts : fired.tick ≠ 0) (handle begun : Nat) :
    Trip Rat (Actuator Rat) :=
  ⟨.actuator handle stroke 0, begun, fired.tick, stroke.ticks fired.tick lasts begun, stroke.along fired begun⟩

-- By unfolding: a comparison of the actuators as wholes would have the arithmetic of the clock reduced.
theorem along_generation (fired : Actuator Rat) (begun ticks : Nat) :
    (stroke.along fired begun ticks).generation = fired.generation := by
  rw [along]

theorem trip_generation (fired : Actuator Rat) (lasts : fired.tick ≠ 0) (handle begun ticks : Nat) :
    ((stroke.trip fired lasts handle begun).stand ticks).generation = fired.generation :=
  stroke.along_generation fired begun ticks

-- Whatever the ticks before have been, a tick shows what the time that has passed by then makes of it.
theorem tick_shows (fired : Actuator Rat) (time : stroke.time ≠ 0) (own : fired.generation = stroke.generation)
    (ticks : Nat) (earlier elapsed : Duration) (short : earlier < stroke.time) :
    stroke.tick? elapsed ⟨fired.spec, fired.tick, stroke.shows fired.state.on earlier, fired.generation,
        fired.published + ticks⟩ =
      some (⟨fired.spec, fired.tick, stroke.shows fired.state.on elapsed, fired.generation, fired.published + (ticks + 1)⟩,
        decide (stroke.time ≤ elapsed)) := by
  unfold tick?
  rw [if_pos own, advance_shows time _ _ _ short]
  rfl

theorem step_along (fired : Actuator Rat) (handle begun : Nat) (time : stroke.time ≠ 0)
    (own : fired.generation = stroke.generation) (cell : Cell Rat) (ticks : Nat)
    (there : cell.actuators.get? handle = some (stroke.along fired begun ticks))
    (now : cell.now = tickAt fired.tick begun (ticks + 1)) (short : elapsedAt fired.tick begun ticks < stroke.time) :
    Motor.step cell (.actuator handle stroke begun) = some (decide (stroke.time ≤ elapsedAt fired.tick begun (ticks + 1)),
      { cell with actuators := cell.actuators.set handle (stroke.along fired begun (ticks + 1)) }.signal
        (.actuator handle)) := by
  have elapsed : Duration.ofMillis (cell.now - begun) = elapsedAt fired.tick begun (ticks + 1) := by rw [now, elapsedAt]
  have ticked : stroke.tick? (elapsedAt fired.tick begun (ticks + 1)) (stroke.along fired begun ticks) =
      some (stroke.along fired begun (ticks + 1), decide (stroke.time ≤ elapsedAt fired.tick begun (ticks + 1))) :=
    tick_shows fired time own ticks _ _ short
  simp only [Motor.step, there, elapsed, ticked, Option.pure_def, Option.bind_eq_bind, Option.bind_some]

theorem trip_lawful (fired : Actuator Rat) (lasts : fired.tick ≠ 0) (handle begun : Nat) (time : stroke.time ≠ 0)
    (own : fired.generation = stroke.generation) :
    (stroke.trip fired lasts handle begun).Lawful (fun cell => cell.actuators.get? handle) (.actuator handle) where
  lasts := lasts
  own _ _ := rfl
  paced cell ticks there := by
    have known : cell.actuators.get? handle = some (stroke.along fired begun ticks) := there
    show ((cell.actuators.get? handle).map Actuator.tick).getD 0 = fired.tick
    rw [known, Option.map_some, Option.getD_some, along]
  goes cell ticks short there now := by
    have inside : handle < cell.actuators.slots.length := (List.getElem?_eq_some_iff.mp there).1
    have further : ticks + 1 < stroke.ticks fired.tick lasts begun ↔ _ := lt_ticks_iff fired.tick lasts begun (ticks + 1)
    have going : ticks < stroke.ticks fired.tick lasts begun := short
    have last : stroke.time ≤ elapsedAt fired.tick begun (ticks + 1) ↔ stroke.ticks fired.tick lasts begun = ticks + 1 := by
      rw [← not_lt, ← further]
      omega
    have stepped := stroke.step_along fired handle begun time own cell ticks there now
      ((lt_ticks_iff fired.tick lasts begun ticks).mp going)
    refine ⟨_, _, stepped, decide_eq_true_iff.trans last, ?_, rfl, List.mem_append_right _ (List.mem_singleton.mpr rfl)⟩
    show (cell.actuators.set handle (stroke.along fired begun (ticks + 1))).get? handle = _
    simp [Bank.get?, Bank.set, inside, trip]
  differs ticks := by
    intro same
    have published := congrArg Actuator.published same
    simp only [trip, along] at published
    omega

end Stroke

def Workload.shownActuator {R W : Type} (cell? : W → Option (Cell R)) (handle : Nat) (world : W) : Option (Actuator R) :=
  (cell? world).bind fun cell => cell.actuators.get? handle

-- An actuator on a stroke that it is left alone with: a tick at its time and no tick more, with the next one ahead of
-- the clock and the scheduler not at its end until the time of the stroke is over.
structure Stroke.Timely {W J : Type} (stroke : Stroke Rat) (fired : Actuator Rat) (load : Workload W J)
    (cell? : W → Option (Cell Rat)) (handle begun : Nat) (ticks : List Nat) (reached : Schedule W J) : Prop where
  short : ∀ earlier < ticks.length, elapsedAt fired.tick begun earlier < stroke.time
  there : Workload.shownActuator cell? handle reached.world = some (stroke.along fired begun ticks.length)
  times : ticks = (List.range ticks.length).map fun earlier => tickAt fired.tick begun (earlier + 1)
  ahead : elapsedAt fired.tick begun ticks.length < stroke.time →
    load.now reached.world ≤ tickAt fired.tick begun (ticks.length + 1) ∧ (reached.step load).isSome = true

namespace Stroke

variable {W J : Type} {load : Workload W J} {cell? : W → Option (Cell Rat)} {motor : Motor Rat → J}

theorem along_zero (stroke : Stroke Rat) (fired : Actuator Rat) (began : fired.state = stroke.shows fired.state.on 0)
    (begun : Nat) : stroke.along fired begun 0 = fired := by
  have none_ : elapsedAt fired.tick begun 0 = 0 := by
    rw [elapsedAt, tickAt, Nat.sub_self]
    rfl
  rw [along, none_, ← began]
  rfl

theorem underway_of_undisturbed (stroke : Stroke Rat) (fired : Actuator Rat) (lasts : fired.tick ≠ 0)
    (takes : stroke.time ≠ 0) (own : fired.generation = stroke.generation)
    (began : fired.state = stroke.shows fired.state.on 0) (houses : load.Houses cell? motor) {handle : Nat}
    {before : Schedule W J} (numbered : before.Numbered)
    (seen : Workload.shownActuator cell? handle before.world = some fired) {number : Nat} {later : List (Request J)}
    {ticks : List Nat} {reached : Schedule W J}
    (undisturbed : (later.foldl (fun schedule request => schedule.grant load number request)
      (before.grant load number (Effect.request motor (.stroke handle stroke)))).Undisturbed load
        (Workload.shownActuator cell? handle) before.next ticks reached) :
    (stroke.trip fired lasts handle (load.now before.world)).Underway load (Workload.shownActuator cell? handle) motor
        (some before.next) ticks.length reached ∧
      ticks = (List.range ticks.length).map fun earlier => tickAt fired.tick (load.now before.world) (earlier + 1) := by
  have shows := houses.shows (fun cell => cell.actuators.get? handle) fun _ _ => rfl
  have going : 0 < stroke.ticks fired.tick lasts (load.now before.world) := by
    rw [lt_ticks_iff, elapsedAt, tickAt, Nat.sub_self]
    exact Nat.pos_of_ne_zero takes
  let trip := stroke.trip fired lasts handle (load.now before.world)
  have stands : Workload.shownActuator cell? handle before.world = some (trip.stand 0) :=
    seen.trans (congrArg some (stroke.along_zero fired began _).symm)
  have sets := Trip.sets_out shows going numbered rfl stands number later
  exact Trip.Underway.undisturbed (stroke.trip_lawful fired lasts handle _ takes own) shows sets undisturbed

theorem timely_of_underway (stroke : Stroke Rat) (fired : Actuator Rat) (lasts : fired.tick ≠ 0)
    (takes : stroke.time ≠ 0) (own : fired.generation = stroke.generation) (houses : load.Houses cell? motor)
    {handle begun : Nat} {mover : Option Nat} {ticks : List Nat} {reached : Schedule W J}
    (underway : (stroke.trip fired lasts handle begun).Underway load (Workload.shownActuator cell? handle) motor mover
      ticks.length reached)
    (times : ticks = (List.range ticks.length).map fun earlier => tickAt fired.tick begun (earlier + 1)) :
    stroke.Timely fired load cell? handle begun ticks reached where
  short earlier before :=
    (lt_ticks_iff fired.tick lasts begun earlier).mp (Nat.lt_of_lt_of_le before underway.bounded)
  there := underway.there
  times := times
  ahead short := underway.ahead (stroke.trip_lawful fired lasts handle begun takes own) (houses.shows _ fun _ _ => rfl)
    ((lt_ticks_iff fired.tick lasts begun ticks.length).mpr short)

theorem Timely.arrives {stroke : Stroke Rat} {fired : Actuator Rat} {handle begun : Nat} {ticks : List Nat}
    {reached : Schedule W J} (timely : stroke.Timely fired load cell? handle begun ticks reached) (lasts : fired.tick ≠ 0)
    (passed : tickAt fired.tick begun (stroke.ticks fired.tick lasts begun) < load.now reached.world ∨
      reached.step load = none) :
    ticks.length = stroke.ticks fired.tick lasts begun ∧ ∃ arrived,
      Workload.shownActuator cell? handle reached.world = some arrived ∧
      arrived.state = ⟨stroke.on, stroke.on, false, stroke.target⟩ := by
  have counts (steps : Nat) : steps < stroke.ticks fired.tick lasts begun ↔ elapsedAt fired.tick begun steps < stroke.time :=
    lt_ticks_iff fired.tick lasts begun steps
  have bounded : ticks.length ≤ stroke.ticks fired.tick lasts begun := Nat.le_of_not_lt fun past =>
    Nat.lt_irrefl _ ((counts _).mpr (timely.short _ past))
  have all : ticks.length = stroke.ticks fired.tick lasts begun :=
    all_ticked fired.tick lasts bounded (fun short => timely.ahead ((counts _).mp short))
      (passed.imp_right fun ended => congrArg Option.isSome ended)
  have isOver : ¬ elapsedAt fired.tick begun ticks.length < stroke.time := fun short =>
    Nat.lt_irrefl _ (all ▸ (counts _).mpr short)
  refine ⟨all, _, timely.there, ?_⟩
  rw [along, shows, if_neg isOver]

end Stroke

theorem fire_leaves {R : Type} [Scalar R] (cell : Cell R) (handle : Nat) (actuator fired : Actuator R) (on : Bool)
    (stroke? : Option (Stroke R)) (live : cell.live = true) (fires : actuator.fire on = (stroke?, fired)) :
    fireActuator handle actuator on cell = (.ok fired,
      { cell with
        actuators := cell.actuators.set handle fired
        outbox := cell.outbox ++ .signal (.actuator handle) :: stroke?.toList.map fun stroke =>
          .stroke handle stroke }) := by
  have published : ¬ fired.published = actuator.published := by
    have isFired : fired = (actuator.fire on).2 := by rw [fires]
    rw [isFired]
    unfold Actuator.fire
    dsimp only
    split
    · exact Nat.succ_ne_self _
    · exact Nat.succ_ne_self _
  rw [fireActuator, Act.get_bind_apply, fires]
  cases stroke? with
  | none =>
      simp only [Cell.putActuator, if_neg published]
      rfl
  | some stroke =>
      simp only [if_pos live, Cell.putActuator, if_neg published, Cell.signal, Cell.effect, List.append_assoc]
      rfl

namespace Course

variable {R : Type} [Scalar R] {grounds : Grounds R} {spec : ActuatorSpec}

-- Whatever has happened to an actuator, it stands on its travel, and its strokes lead along it.
structure OnTravel (grounds : Grounds R) (spec : ActuatorSpec) (course : Course R) : Prop where
  spec : course.actuator.spec = spec
  stands : course.actuator.Sound grounds
  strokes : ∀ stroke ∈ course.strokes, stroke.Sound

theorem step_on_travel (steady : Scalar.Steady R) (course : Course R) (sound : course.OnTravel grounds spec) (deed : Deed) :
    (course.step deed).OnTravel grounds spec := by
  cases deed with
  | fire on =>
      have kept := course.actuator.fire_spec on
      have fired := Actuator.Sound.fired steady sound.stands on
      rw [step]
      rcases isFired : course.actuator.fire on with ⟨stroke?, actuator⟩
      rw [isFired] at kept fired
      cases stroke? with
      | none => exact ⟨kept.trans sound.spec, fired.1, sound.strokes⟩
      | some stroke =>
          refine ⟨kept.trans sound.spec, fired.1, fun other member => ?_⟩
          rcases List.mem_append.mp member with old | new
          · exact sound.strokes other old
          · exact List.mem_singleton.mp new ▸ fired.2 stroke rfl
  | stop => exact ⟨(Actuator.stop_spec _).trans sound.spec, sound.stands.stopped, sound.strokes⟩
  | tick index elapsed =>
      have fewer : ∀ other ∈ course.strokes.eraseIdx index, other.Sound := fun other member =>
        sound.strokes other (List.mem_of_mem_eraseIdx member)
      simp only [step]
      cases present : course.strokes[index]? with
      | none => exact sound
      | some stroke =>
          dsimp only
          cases ticked : stroke.tick? elapsed course.actuator with
          | none => exact ⟨sound.spec, sound.stands, fewer⟩
          | some result =>
              obtain ⟨moved, done⟩ := result
              have stands := Actuator.Sound.advanced steady sound.stands stroke
                (sound.strokes stroke (List.mem_of_getElem? present)) elapsed done ticked
              have kept : moved.spec = course.actuator.spec := by
                unfold Stroke.tick? at ticked
                split at ticked
                · cases ticked
                  rfl
                · cases ticked
              cases done with
              | true => exact ⟨kept.trans sound.spec, stands, fewer⟩
              | false => exact ⟨kept.trans sound.spec, stands, sound.strokes⟩

theorem after_on_travel (steady : Scalar.Steady R) (history : List Deed) :
    (after spec grounds.tick history).OnTravel grounds spec := by
  have carried : ∀ (deeds : List Deed) (course : Course R), course.OnTravel grounds spec →
      (deeds.foldl step course).OnTravel grounds spec := by
    intro deeds
    induction deeds with
    | nil => exact fun _ sound => sound
    | cons deed rest ih => exact fun course sound => ih _ (step_on_travel steady course sound deed)
  refine carried history _ ⟨rfl, ⟨steady.ends false, rfl⟩, fun _ member => absurd member List.not_mem_nil⟩

end Course

def halfwayClamp : Actuator Rat :=
  (Course.after (.new "clamp" .cylinder 200) (.ofMillis 10) [.fire true, .tick 0 (.ofMillis 100)]).actuator

def clampCell (actuator : Actuator Rat) : Cell Rat :=
  { Cell.new ⟨"stand", [], [.new "clamp" .cylinder 200]⟩ (.simulation (.ofMillis 10)) with
    actuators := ⟨[actuator], [("clamp", 0)]⟩ }

def clampBench (actuator : Actuator Rat) : Schedule (Bench Rat Unit) (BenchJob Rat Unit) :=
  ⟨.new (clampCell actuator) .standard 1, [], [], [], 0⟩

end Workcell
