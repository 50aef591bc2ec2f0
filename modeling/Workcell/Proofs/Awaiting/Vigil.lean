import Workcell.Proofs.Awaiting.Secluded

/-!
Waits for a device that end in time. What the device shows counts before the bound, and a bound that has passed stops the
device where it is; so whichever comes first decides, and neither is a fault.
-/

set_option autoImplicit false

namespace Workcell

variable {R : Type} [Scalar R] {W J D : Type}

-- What an action waits for at a device until its timer: that the device meets it, or else to stop the device.
structure Vigil (R D : Type) where
  seen : Cell R → Option D
  signal : Signal
  await : Duration → Cell R → Reply R × Cell R
  wait : Timer → Wait R
  met : D → Bool
  stopped : D → D
  value : D → Value R

structure Vigil.Lawful (vigil : Vigil R D) : Prop where
  own : ∀ cell outbox, vigil.seen { cell with outbox := outbox } = vigil.seen cell
  traced : ∀ cell traces, vigil.seen { cell with traces := traces } = vigil.seen cell
  issued : ∀ cell issued, vigil.seen { cell with issued := issued } = vigil.seen cell
  clocked : ∀ cell now, vigil.seen { cell with now := now } = vigil.seen cell
  timer : ∀ timer, (vigil.wait timer).timer = timer
  listens : ∀ timer, vigil.signal ∈ .cancelled :: (vigil.wait timer).signal?.toList
  stands : ∀ cell device bound, vigil.seen cell = some device → vigil.met device = true →
    vigil.await bound cell = (.value (vigil.value device), cell)
  lapses : ∀ cell device bound, vigil.seen cell = some device → vigil.met device = false →
    Duration.due cell.now bound ≤ cell.now → ∃ after, vigil.await bound cell =
      (.value (vigil.value (vigil.stopped device)), after) ∧ vigil.seen after = some (vigil.stopped device)
  begins : ∀ cell device bound, vigil.seen cell = some device → vigil.met device = false →
    cell.now < Duration.due cell.now bound → vigil.await bound cell =
      (.waiting (vigil.wait ⟨Duration.due cell.now bound, cell.issued⟩), { cell with issued := cell.issued + 1 })
  comes : ∀ cell device timer, vigil.seen cell = some device → vigil.met device = true →
    cell.look (vigil.wait timer) = (.value (vigil.value device), cell)
  passes : ∀ cell device timer, vigil.seen cell = some device → vigil.met device = false → timer.due ≤ cell.now →
    ∃ after, cell.look (vigil.wait timer) = (.value (vigil.value (vigil.stopped device)), after) ∧
      vigil.seen after = some (vigil.stopped device)
  stays : ∀ cell device timer, vigil.seen cell = some device → vigil.met device = false → cell.now < timer.due →
    cell.look (vigil.wait timer) = (.waiting (vigil.wait timer), cell)

-- How a wait that has lasted since some time ends for something on its way: at the tick that brings it there, or at
-- the limit, with the device stopped after the last tick by then.
structure Vigil.Ends (vigil : Vigil R D) (trip : Trip R D) (since limit now : Nat) (progress : Progress R) (after : Cell R)
    (ticks : Nat) (device : D) : Prop where
  seen : vigil.seen after = some device
  done : progress = .done (vigil.value device)
  within : now ≤ limit
  bounded : ticks ≤ trip.ticks
  comes : vigil.met (trip.stand ticks) = true →
    now = max since (tickAt trip.pace trip.start ticks) ∧ device = trip.stand ticks
  passes : vigil.met (trip.stand ticks) = false → now = limit ∧ device = vigil.stopped (trip.stand ticks) ∧
    tickAt trip.pace trip.start ticks ≤ limit ∧ (ticks < trip.ticks → limit ≤ tickAt trip.pace trip.start (ticks + 1))

namespace Vigil

variable {vigil : Vigil R D} {trip : Trip R D} {load : Workload W J} {cell? : W → Option (Cell R)}
  {motor : Motor R → J} {table : W → HandlerTable R} {fresh : Step R → J} {going : Run R → J} {beside : W → List J}
  {runner : Nat}  {mover : Option Nat} {step : Step R} {key : Nat} {timer : Timer}

structure Lasts (vigil : Vigil R D) (trip : Trip R D) (load : Workload W J) (cell? : W → Option (Cell R))
    (motor : Motor R → J) (going : Run R → J) (runner : Nat) (mover : Option Nat) (run : Run R) (timer : Timer)
    (since ticks : Nat) (reached : Schedule W J) : Prop where
  since : since ≤ load.now reached.world
  waiting : trip.Waiting load cell? motor going vigil.seen runner mover run timer ticks reached
  told : vigil.met (trip.stand ticks) = true →
    runner ∈ reached.ready ∧ load.now reached.world = tickAt trip.pace trip.start ticks

def Comes (vigil : Vigil R D) (trip : Trip R D) (load : Workload W J) (cell? : W → Option (Cell R)) (motor : Motor R → J)
    (going : Run R → J) (runner : Nat) (mover : Option Nat) (run : Run R) (timer : Timer) (since : Nat)
    (result : Option (Progress R × Cell R)) (reached : Schedule W J) : Prop :=
  match result with
  | none => ∃ ticks, vigil.Lasts trip load cell? motor going runner mover run timer since ticks reached
  | some (progress, after) => ∃ ticks device,
      vigil.Ends trip since timer.due (load.now reached.world) progress after ticks device

theorem comes_of_awaits (isVigil : vigil.Lawful) (lawful : trip.Lawful vigil.seen vigil.signal)
    (houses : load.Houses cell? motor) (carries : load.Carries cell? motor table fresh going beside)
    {begun reached : Schedule W J} {looks : List (Cell R)} {result : Option (Progress R × Cell R)}
    {since first : Nat} (sets : vigil.Lasts trip load cell? motor going runner mover
      (.attempt step 1 (.waiting key (vigil.wait timer))) timer since first begun)
    (awaits : begun.Awaits load cell? table going vigil.seen runner mover looks result reached) :
    vigil.Comes trip load cell? motor going runner mover (.attempt step 1 (.waiting key (vigil.wait timer))) timer since
      result reached := by
  have attends : (Run.attempt step 1 (.waiting key (vigil.wait timer))).Attends timer
      (.cancelled :: (vigil.wait timer).signal?.toList) := by
    have attends := attends_of_wait step 1 key (vigil.wait timer)
    rwa [isVigil.timer] at attends
  induction awaits with
  | begun => exact ⟨first, sets⟩
  | other before stepped theirs alone uncut forward clock ih =>
      obtain ⟨ticks, lasts⟩ := ih
      rcases lasts.waiting.other lawful houses isVigil.own carries attends stepped theirs alone uncut forward clock with
        ⟨still, kept⟩ | ⟨onward, short, now, heard⟩
      · refine ⟨ticks, lasts.since.trans forward, still, fun met => ?_⟩
        obtain ⟨ready, now⟩ := lasts.told met
        exact ⟨kept ready, (clock (List.ne_nil_of_mem ready)).trans now⟩
      · exact ⟨ticks + 1, lasts.since.trans forward, onward, fun _ => ⟨heard (isVigil.listens timer), now⟩⟩
  | shuffled before same ih =>
      obtain ⟨ticks, lasts⟩ := ih
      exact ⟨ticks, lasts.since, lasts.waiting.shuffled same, fun met => (lasts.told met).imp_left (same.symm.subset ·)⟩
  | @waits looks reached next run cell later after before stepped own found held resumed ih =>
      obtain ⟨ticks, lasts⟩ := ih
      obtain rfl := carries.single _ _ (Option.some.inj (lasts.waiting.slot.found.symm.trans found))
      have uncut := lasts.waiting.uncut cell held
      have device : vigil.seen cell = some (trip.stand ticks) := by
        have there := lasts.waiting.underway.there
        rwa [held, Option.bind_some] at there
      have ended : ∀ value after', cell.look (vigil.wait timer) = (.value value, after') → False := by
        intro value after' looked
        rw [Run.resume_ended _ step 1 key _ cell after' value uncut looked] at resumed
        cases resumed
      cases met : vigil.met (trip.stand ticks) with
      | true => exact (ended _ _ (isVigil.comes cell _ timer device met)).elim
      | false =>
          by_cases passed : timer.due ≤ cell.now
          · obtain ⟨stopped, looked, -⟩ := isVigil.passes cell _ timer device met passed
            exact (ended _ _ looked).elim
          · have ahead := Nat.lt_of_not_le passed
            have waits := Run.resume_waits (table reached.world) step 1 key _ _ cell cell uncut
              (isVigil.stays cell _ timer device met ahead)
            obtain ⟨still, clock⟩ := lasts.waiting.again lawful houses isVigil.own carries stepped own held waits
              attends uncut
              rfl rfl ahead
            refine ⟨ticks, lasts.since.trans clock.ge, still, fun isMet => ?_⟩
            rw [met] at isMet
            cases isMet
  | @ends looks reached run cell progress after before own found held resumed finished ih =>
      obtain ⟨ticks, lasts⟩ := ih
      obtain rfl := carries.single _ _ (Option.some.inj (lasts.waiting.slot.found.symm.trans found))
      have uncut := lasts.waiting.uncut cell held
      have now := houses.clock reached.world cell held
      have device : vigil.seen cell = some (trip.stand ticks) := by
        have there := lasts.waiting.underway.there
        rwa [held, Option.bind_some] at there
      cases met : vigil.met (trip.stand ticks) with
      | true =>
          rw [Run.resume_ended _ step 1 key _ cell cell _ uncut (isVigil.comes cell _ timer device met)] at resumed
          cases resumed
          refine ⟨ticks, trip.stand ticks, (isVigil.traced _ _).trans device, rfl, lasts.waiting.limit,
            lasts.waiting.underway.bounded, fun _ => ⟨?_, rfl⟩, fun unmet => ?_⟩
          · have arrived := (lasts.told met).2
            exact arrived.trans (max_eq_right (arrived ▸ lasts.since)).symm
          · rw [met] at unmet
            cases unmet
      | false =>
          by_cases passed : timer.due ≤ cell.now
          · obtain ⟨stopped, looked, left⟩ := isVigil.passes cell _ timer device met passed
            rw [Run.resume_ended _ step 1 key _ cell stopped _ uncut looked] at resumed
            cases resumed
            have limit := lasts.waiting.limit
            have exactly : load.now reached.world = timer.due := Nat.le_antisymm limit (now ▸ passed)
            refine ⟨ticks, vigil.stopped (trip.stand ticks), (isVigil.traced _ _).trans left, rfl, limit,
              lasts.waiting.underway.bounded, fun isMet => ?_, fun _ => ⟨exactly, rfl, exactly ▸ lasts.waiting.past,
                fun short => ?_⟩⟩
            · rw [met] at isMet
              cases isMet
            · exact exactly ▸ (lasts.waiting.underway.ahead lawful (houses.shows _ isVigil.own) short).1
          · have waits := Run.resume_waits (table reached.world) step 1 key _ _ cell cell uncut
              (isVigil.stays cell _ timer device met (Nat.lt_of_not_le passed))
            rw [waits] at resumed
            cases resumed
            exact absurd rfl (finished _)

def Opens (vigil : Vigil R D) (step : Step R) (table : HandlerTable R) (bound : Duration) (cell sent : Cell R) : Prop :=
  step.start table cell = match vigil.await bound sent with
    | (.value value, after) => (.done value, after.trace step .completed 1)
    | (.waiting wait, after) =>
        (.pending (.attempt step 1 (.waiting after.issued wait)), { after with issued := after.issued + 1 })

def Soft (vigil : Vigil R D) (trip : Trip R D) (load : Workload W J) (since limit : Nat)
    (result : Option (Progress R × Cell R)) (reached : Schedule W J) : Prop :=
  match result with
  | none => load.now reached.world ≤ limit ∧ (reached.step load).isSome = true
  | some (progress, after) =>
      ∃ ticks device, vigil.Ends trip since limit (load.now reached.world) progress after ticks device

theorem soft_of_comes (isVigil : vigil.Lawful) (carries : load.Carries cell? motor table fresh going beside) {since : Nat}
    {result : Option (Progress R × Cell R)} {reached : Schedule W J}
    (comes : vigil.Comes trip load cell? motor going runner mover (.attempt step 1 (.waiting key (vigil.wait timer))) timer
      since result reached) : vigil.Soft trip load since timer.due result reached := by
  cases result with
  | some ended => exact comes
  | none =>
      obtain ⟨ticks, lasts⟩ := comes
      have attends := attends_of_wait step 1 key (vigil.wait timer)
      rw [isVigil.timer] at attends
      exact ⟨lasts.waiting.limit, lasts.waiting.goes_on carries attends⟩

section

variable {bound : Duration} {cell sent : Cell R} {first : Nat} {begun : Schedule W J}
  (isVigil : vigil.Lawful) (opens : vigil.Opens step (table begun.world) bound cell sent)
  (there : vigil.seen sent = some (trip.stand first))
include isVigil opens there

theorem started_stands (met : vigil.met (trip.stand first) = true) :
    step.start (table begun.world) cell = (.done (vigil.value (trip.stand first)), sent.trace step .completed 1) := by
  rw [opens, isVigil.stands sent _ bound there met]

theorem started_lapses (unmet : vigil.met (trip.stand first) = false) (finished : Duration.due sent.now bound ≤ sent.now) :
    ∃ after, step.start (table begun.world) cell = (.done (vigil.value (vigil.stopped (trip.stand first))), after) ∧
      vigil.seen after = some (vigil.stopped (trip.stand first)) := by
  obtain ⟨after, lapsed, stopped⟩ := isVigil.lapses sent _ bound there unmet finished
  rw [opens, lapsed]
  exact ⟨_, rfl, (isVigil.traced _ _).trans stopped⟩

theorem started_waits (unmet : vigil.met (trip.stand first) = false) (ahead : sent.now < Duration.due sent.now bound) :
    step.start (table begun.world) cell =
      (.pending (.attempt step 1 (.waiting (sent.issued + 1) (vigil.wait ⟨Duration.due sent.now bound, sent.issued⟩))),
        { sent with issued := sent.issued + 1 + 1 }) := by
  rw [opens, isVigil.begins sent _ bound there unmet ahead]

end

theorem soft_of_performs (isVigil : vigil.Lawful) (lawful : trip.Lawful vigil.seen vigil.signal)
    (houses : load.Houses cell? motor) (carries : load.Carries cell? motor table fresh going beside)
    {begun reached : Schedule W J} {cell sent : Cell R} {bound : Duration} {first : Nat} {looks : List (Cell R)}
    {result : Option (Progress R × Cell R)} (held : cell? begun.world = some cell)
    (opens : vigil.Opens step (table begun.world) bound cell sent) (still : sent.now = cell.now)
    (there : vigil.seen sent = some (trip.stand first)) (bounded : first ≤ trip.ticks)
    (past : tickAt trip.pace trip.start first ≤ cell.now)
    (coming : first < trip.ticks → cell.now ≤ tickAt trip.pace trip.start (first + 1))
    (sets : vigil.met (trip.stand first) = false → sent.now < Duration.due sent.now bound → ∀ next,
      begun.step load = some next → vigil.Lasts trip load cell? motor going runner mover
        (.attempt step 1 (.waiting (sent.issued + 1) (vigil.wait ⟨Duration.due sent.now bound, sent.issued⟩)))
        ⟨Duration.due sent.now bound, sent.issued⟩ (load.now begun.world) first next)
    (performs : begun.Performs load cell? table going vigil.seen runner mover step looks result reached) :
    vigil.Soft trip load (load.now begun.world) (Duration.due (load.now begun.world) bound) result reached := by
  have now := houses.clock begun.world cell held
  rw [← now]
  cases met : vigil.met (trip.stand first) with
  | true =>
      have started := started_stands isVigil opens there met
      cases performs with
      | atOnce isHeld begins finished =>
          cases held.symm.trans isHeld
          cases started.symm.trans begins
          refine ⟨first, trip.stand first, (isVigil.traced _ _).trans there, rfl, ?_, bounded, fun _ => ⟨?_, rfl⟩,
            fun unmet => absurd (met.symm.trans unmet) (by decide)⟩
          · rw [← now]
            exact Duration.due_least _ _
          · rw [← now]
            exact (max_eq_left past).symm
      | later isHeld begins =>
          cases held.symm.trans isHeld
          cases started.symm.trans begins
  | false =>
      by_cases finished : Duration.due sent.now bound ≤ sent.now
      · obtain ⟨after, started, stopped⟩ := started_lapses isVigil opens there met finished
        rw [still] at finished
        have exactly : cell.now = Duration.due cell.now bound := Nat.le_antisymm (Duration.due_least _ _) finished
        cases performs with
        | atOnce isHeld begins =>
            cases held.symm.trans isHeld
            cases started.symm.trans begins
            refine ⟨first, _, stopped, rfl, ?_, bounded, fun isMet => absurd (met.symm.trans isMet) (by decide),
              fun _ => ⟨?_, rfl, ?_, fun short => ?_⟩⟩
            · rw [← now]
              exact exactly.le
            · rw [← now]
              exact exactly
            · exact exactly ▸ past
            · exact exactly ▸ coming short
        | later isHeld begins =>
            cases held.symm.trans isHeld
            cases started.symm.trans begins
      · have ahead := Nat.lt_of_not_le finished
        have started := started_waits isVigil opens there met ahead
        cases performs with
        | atOnce isHeld begins finished =>
            cases held.symm.trans isHeld
            cases started.symm.trans begins
            exact absurd rfl (finished _)
        | later isHeld begins stepped awaits =>
            cases held.symm.trans isHeld
            cases started.symm.trans begins
            have comes := comes_of_awaits isVigil lawful houses carries (sets met ahead _ stepped) awaits
            have soft := soft_of_comes isVigil carries comes
            rw [← now, still] at soft
            exact soft

theorem ends_of_lonely (isVigil : vigil.Lawful) (lawful : trip.Lawful vigil.seen vigil.signal)
    (houses : load.Houses cell? motor) (carries : load.Carries cell? motor table fresh going beside)
    {begun : Schedule W J} {cell sent : Cell R} {bound : Duration} {first : Nat} {spares : Drive R → Prop}
    (begins : begun.Begins load cell? fresh runner step cell)
    (opens : vigil.Opens step (table begun.world) bound cell sent)
    (there : vigil.seen sent = some (trip.stand first))
    (sets : vigil.met (trip.stand first) = false → sent.now < Duration.due sent.now bound → ∀ next,
      begun.step load = some next → vigil.Lasts trip load cell? motor going runner mover
        (.attempt step 1 (.waiting (sent.issued + 1) (vigil.wait ⟨Duration.due sent.now bound, sent.issued⟩)))
        ⟨Duration.due sent.now bound, sent.issued⟩ (load.now begun.world) first next)
    (spared : trip.Spared vigil.seen spares)
    (lonely : vigil.met (trip.stand first) = false → sent.now < Duration.due sent.now bound → ∀ next,
      begun.step load = some next → next.Lonely load cell? motor spares mover runner) :
    ∃ looks result reached, begun.Performs load cell? table going vigil.seen runner mover step looks (some result)
    reached := by
  cases met : vigil.met (trip.stand first) with
  | true => exact ⟨[], _, begun, .atOnce begins.held (started_stands isVigil opens there met) nofun⟩
  | false =>
      by_cases finished : Duration.due sent.now bound ≤ sent.now
      · obtain ⟨after, started, -⟩ := started_lapses isVigil opens there met finished
        exact ⟨[], _, begun, .atOnce begins.held started nofun⟩
      · have ahead := Nat.lt_of_not_le finished
        obtain ⟨next, stepped⟩ := begins.step
        have lasting : ∀ looks reached, next.Awaits load cell? table going vigil.seen runner mover looks none reached →
            ∃ key wait ticks, trip.Waiting load cell? motor going vigil.seen runner mover
              (.attempt step 1 (.waiting key wait)) wait.timer ticks reached ∧
              wait.timer.due ≤ Duration.due sent.now bound := by
          intro looks reached history
          obtain ⟨ticks, lasts⟩ := comes_of_awaits isVigil lawful houses carries (sets met ahead next stepped) history
          refine ⟨sent.issued + 1, vigil.wait ⟨Duration.due sent.now bound, sent.issued⟩, ticks, ?_, ?_⟩
          · rw [isVigil.timer]
            exact lasts.waiting
          · rw [isVigil.timer]
        obtain ⟨looks, result, final, ended⟩ := Schedule.Lonely.ends houses carries spared isVigil.own isVigil.clocked
          lasting [] next .begun (lonely met ahead next stepped)
        exact ⟨looks, result, final, .later begins.held (started_waits isVigil opens there met ahead) stepped ended⟩

theorem sent_bounded (isVigil : vigil.Lawful) (lawful : trip.Lawful vigil.seen vigil.signal)
    (houses : load.Houses cell? motor) (carries : load.Carries cell? motor table fresh going beside)
    {begun : Schedule W J} {cell sent : Cell R} {bound : Duration} (begins : begun.Begins load cell? fresh runner step cell)
    (opens : vigil.Opens step (table begun.world) bound cell sent) (still : sent.now = cell.now)
    (uncut : sent.cancelled = false) (there : vigil.seen sent = some (trip.stand 0)) (start : trip.start = cell.now)
    (goes : vigil.met (trip.stand 0) = false → 0 < trip.ticks ∧ ∃ alert way, sent.outbox = [.signal alert, way] ∧
      way.request motor = .begin (motor ⟨trip.drive, none⟩)) :
    (∀ looks result reached, begun.Performs load cell? table going vigil.seen runner
        (some (begun.next + (beside begun.world).length)) step looks result reached →
      vigil.Soft trip load (load.now begun.world) (Duration.due (load.now begun.world) bound) result reached) ∧
    ∀ spares, trip.Spared vigil.seen spares → beside begun.world = [] →
      begun.Secluded load motor spares none runner → sent.Ticking →
      ∃ looks result reached, begun.Performs load cell? table going vigil.seen runner (some begun.next) step looks
        (some result) reached := by
  have now := houses.clock begun.world cell begins.held
  have sets : vigil.met (trip.stand 0) = false → sent.now < Duration.due sent.now bound → ∀ next,
      begun.step load = some next → vigil.Lasts trip load cell? motor going runner
        (some (begun.next + (beside begun.world).length))
        (.attempt step 1 (.waiting (sent.issued + 1) (vigil.wait ⟨Duration.due sent.now bound, sent.issued⟩)))
        ⟨Duration.due sent.now bound, sent.issued⟩ (load.now begun.world) 0 next := by
    intro unmet ahead next stepped
    obtain ⟨far, alert, way, outbox, drives⟩ := goes unmet
    have attends := attends_of_wait step 1 (sent.issued + 1) (vigil.wait ⟨Duration.due sent.now bound, sent.issued⟩)
    rw [isVigil.timer] at attends
    obtain ⟨waiting, clock⟩ := Trip.Waiting.of_sent houses isVigil.own carries alert way begins.slot stepped begins.head
      begins.held (started_waits isVigil opens there unmet ahead) attends uncut still ahead outbox drives
      ((isVigil.issued _ _).trans there) start far
    exact ⟨clock.ge, waiting, fun met => absurd (met.symm.trans unmet) (by decide)⟩
  refine ⟨fun looks result reached performs => ?_, fun spares spared alone secluded ticking => ?_⟩
  · refine soft_of_performs isVigil lawful houses carries begins.held opens still there (Nat.zero_le _) ?_ (fun far => ?_)
      sets performs
    · exact start.le
    · rw [← start]
      exact (tickAt_succ trip.pace lawful.lasts trip.start 0).le
  · rw [alone, List.length_nil, Nat.add_zero] at sets
    refine ends_of_lonely isVigil lawful houses carries begins opens there sets spared fun unmet ahead next stepped => ?_
    obtain ⟨-, alert, way, outbox, drives⟩ := goes unmet
    exact secluded.started_sent houses carries alone begins.slot begins.head stepped begins.held
      (started_waits isVigil opens there unmet ahead) still ⟨ticking.axes, ticking.actuators⟩ alert way trip.drive
      outbox drives

theorem standing_bounded (isVigil : vigil.Lawful) (lawful : trip.Lawful vigil.seen vigil.signal)
    (houses : load.Houses cell? motor) (carries : load.Carries cell? motor table fresh going beside)
    {begun : Schedule W J} {cell sent : Cell R} {bound : Duration} {first : Nat}
    (begins : begun.Begins load cell? fresh runner step cell)
    (opens : vigil.Opens step (table begun.world) bound cell sent) (still : sent.now = cell.now)
    (uncut : sent.cancelled = false) (same : vigil.seen sent = vigil.seen cell) (quiet : sent.outbox = [])
    (underway : trip.Underway load (fun world => (cell? world).bind vigil.seen) motor mover first begun)
    (past : tickAt trip.pace trip.start first ≤ load.now begun.world) :
    (∀ looks result reached,
        begun.Performs load cell? table going vigil.seen runner mover step looks result reached →
      vigil.Soft trip load (load.now begun.world) (Duration.due (load.now begun.world) bound) result reached) ∧
    ∀ spares, trip.Spared vigil.seen spares → beside begun.world = [] →
      begun.Secluded load motor spares mover runner → sent.Ticking →
      ∃ looks result reached, begun.Performs load cell? table going vigil.seen runner mover step looks (some result)
        reached := by
  have now := houses.clock begun.world cell begins.held
  have there : vigil.seen sent = some (trip.stand first) := by
    have there := underway.there
    rw [begins.held, Option.bind_some] at there
    exact same.trans there
  have sets : vigil.met (trip.stand first) = false → sent.now < Duration.due sent.now bound → ∀ next,
      begun.step load = some next → vigil.Lasts trip load cell? motor going runner mover
        (.attempt step 1 (.waiting (sent.issued + 1) (vigil.wait ⟨Duration.due sent.now bound, sent.issued⟩)))
        ⟨Duration.due sent.now bound, sent.issued⟩ (load.now begun.world) first next := by
    intro unmet ahead next stepped
    have attends := attends_of_wait step 1 (sent.issued + 1) (vigil.wait ⟨Duration.due sent.now bound, sent.issued⟩)
    rw [isVigil.timer] at attends
    obtain ⟨waiting, clock⟩ := Trip.Waiting.of_started lawful houses isVigil.own carries underway past begins.slot stepped
      begins.head begins.held (started_waits isVigil opens there unmet ahead) attends uncut still
      ((isVigil.issued _ _).trans same) ahead
    exact ⟨clock.ge, waiting, fun met => absurd (met.symm.trans unmet) (by decide)⟩
  refine ⟨fun looks result reached performs => ?_, fun spares spared alone secluded ticking => ?_⟩
  · refine soft_of_performs isVigil lawful houses carries begins.held opens still there underway.bounded (now ▸ past)
      (fun short => ?_) sets performs
    exact now ▸ (underway.ahead lawful (houses.shows _ isVigil.own) short).1
  · refine ends_of_lonely isVigil lawful houses carries begins opens there sets spared fun unmet ahead next stepped => ?_
    exact secluded.started_still houses carries alone begins.slot.found begins.head stepped begins.held
      (started_waits isVigil opens there unmet ahead) still ⟨ticking.axes, ticking.actuators⟩ quiet

theorem resting_bounded (isVigil : vigil.Lawful) (lawful : trip.Lawful vigil.seen vigil.signal)
    (houses : load.Houses cell? motor) (carries : load.Carries cell? motor table fresh going beside)
    {begun : Schedule W J} {cell sent : Cell R} {bound : Duration} (begins : begun.Begins load cell? fresh runner step cell)
    (opens : vigil.Opens step (table begun.world) bound cell sent) (still : sent.now = cell.now)
    (uncut : sent.cancelled = false) (there : vigil.seen sent = some (trip.stand 0)) (start : trip.start = cell.now)
    (rests : trip.ticks = 0) (quiet : vigil.met (trip.stand 0) = false → sent.outbox = []) :
    (∀ looks result reached, begun.Performs load cell? table going vigil.seen runner none step looks result reached →
      vigil.Soft trip load (load.now begun.world) (Duration.due (load.now begun.world) bound) result reached) ∧
    ∀ spares, trip.Spared vigil.seen spares → beside begun.world = [] →
      begun.Secluded load motor spares none runner → sent.Ticking →
      ∃ looks result reached, begun.Performs load cell? table going vigil.seen runner none step looks (some result)
        reached := by
  have now := houses.clock begun.world cell begins.held
  have sets : vigil.met (trip.stand 0) = false → sent.now < Duration.due sent.now bound → ∀ next,
      begun.step load = some next → vigil.Lasts trip load cell? motor going runner none
        (.attempt step 1 (.waiting (sent.issued + 1) (vigil.wait ⟨Duration.due sent.now bound, sent.issued⟩)))
        ⟨Duration.due sent.now bound, sent.issued⟩ (load.now begun.world) 0 next := by
    intro unmet ahead next stepped
    have attends := attends_of_wait step 1 (sent.issued + 1) (vigil.wait ⟨Duration.due sent.now bound, sent.issued⟩)
    rw [isVigil.timer] at attends
    have started := started_waits isVigil opens there unmet ahead
    obtain ⟨left, given, -⟩ := carries.starts step begun.world cell _ _ begins.held started still
    obtain ⟨waiting, clock⟩ : trip.Waiting load cell? motor going vigil.seen runner none _ _ 0 next ∧ _ :=
      Trip.Waiting.of_turn houses isVigil.own carries begins.slot left given stepped begins.head begins.held attends
      uncut still
        ahead (start.trans now).le fun _ view =>
          ⟨Nat.zero_le _, view.trans ((isVigil.issued _ _).trans there), fun short => absurd rests short.ne', nofun⟩
    exact ⟨clock.ge, waiting, fun met => absurd (met.symm.trans unmet) (by decide)⟩
  refine ⟨fun looks result reached performs => ?_, fun spares spared alone secluded ticking => ?_⟩
  · exact soft_of_performs isVigil lawful houses carries begins.held opens still there (Nat.zero_le _) start.le
      (fun short => absurd rests short.ne') sets performs
  · refine ends_of_lonely isVigil lawful houses carries begins opens there sets spared fun unmet ahead next stepped => ?_
    exact secluded.started_still houses carries alone begins.slot.found begins.head stepped begins.held
      (started_waits isVigil opens there unmet ahead) still ⟨ticking.axes, ticking.actuators⟩ (quiet unmet)

end Vigil

end Workcell
