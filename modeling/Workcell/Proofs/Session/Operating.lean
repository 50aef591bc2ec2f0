import Workcell.Proofs.Session.Accounts

/-!
The turns of the operator: orders are taken up one after the other, each when the one before has been answered, and starts
and stops do to an account what they are to do.
-/

set_option autoImplicit false

namespace Workcell

section

variable {R A : Type}

theorem Stage.unfinished {machine : Machine R} {taken : List (Order A)} {returned : List (Nat × Outcome R)}
    {session : Session R A} {driver : Option (Nat × Option (Task R))} {sampler : Option (Nat × Sampler R)}
    {current : Option (Chapter R)} (stage : Stage machine taken returned session.runs driver sampler current)
    (busy : driver.isSome = true) (run : Nat) (last : run + 1 = session.runs.length) :
    session.isFinished run = false := by
  have unfinished : ∀ {number state}, Present session.runs number state → session.isFinished run = false := by
    intro number state present
    have same : run = number := Nat.succ.inj (last.trans present.last.symm)
    simp only [Session.isFinished, same, present.found, present.unfinished]
  cases stage with
  | idle past => cases busy
  | fresh number state step chapter present going unseen => exact unfinished present
  | running number state run sampler chapter present going ready forced => exact unfinished present
  | ended number state sampler chapter present ended forced => exact unfinished present
  | sampled number state present isOver => exact unfinished present

def Brings (asked : List (Request (SessionJob R A))) (before after : Option (Nat × Option (Task R))) : Prop :=
  ∀ jobs operator sampler, Roster jobs operator before sampler →
    Roster (jobs ++ Request.begun asked) operator after sampler

theorem brings_motors (asked : List (Request (SessionJob R A)))
    (motors : ∀ job ∈ Request.begun asked, job.isMotor = true) (driver : Option (Nat × Option (Task R))) :
    Brings asked driver driver := fun _ _ _ roster => (Roster.motors_iff _ motors).mpr roster

theorem brings_nothing (driver : Option (Nat × Option (Task R))) :
    Brings ([] : List (Request (SessionJob R A))) driver driver :=
  brings_motors [] (fun _ member => nomatch member) driver

theorem brings_drive (number : Nat) (task : Task R) :
    Brings [.begin (.drive number task : SessionJob R A)] none (some (number, some task)) := by
  intro jobs operator sampler roster
  have first : Roster (.drive number task :: jobs) operator (some (number, some task)) sampler :=
    (Roster.driver_iff _ _ rfl).mpr ⟨rfl, roster⟩
  exact first.perm (List.perm_append_singleton _ jobs).symm

theorem Brings.append {asked more : List (Request (SessionJob R A))} {before between after : Option (Nat × Option (Task R))}
    (first : Brings asked before between) (second : Brings more between after) : Brings (asked ++ more) before after := by
  intro jobs operator sampler roster
  have both := second _ operator sampler (first jobs operator sampler roster)
  rwa [List.append_assoc, ← Request.begun_append] at both

variable [Scalar R]

namespace Account

variable {machine : Machine R} {script : List (Order A)} {returned : List (Nat × Outcome R)} {session : Session R A}
  {driver : Option (Nat × Option (Task R))} {sampler : Option (Nat × Sampler R)} {ledger : Ledger R A}

-- The account of a start that is refused.
theorem refuses (account : Account machine script returned session none none none ledger)
    (inactive : session.active = none) (place : Nat) (scenario : String) (waits : ledger.waiting = some (place, scenario))
    (fault : Fault) :
    ∃ later, Account machine script returned (session.publishFault fault) none none none later ∧
      later.left = ledger.left ∧ later.waiting = none := by
  have stage := account.stage
  generalize now : ledger.current = current at stage
  cases stage with
  | idle past =>
      have before : ledger.chapters = ledger.closed := by
        rw [Ledger.chapters, now]
        exact List.append_nil _
      let frame : Frame R := ⟨nextTick session.now session.lastTick, "", none, none, some [.ofFault fault]⟩
      let chapter : Chapter R := ⟨place, scenario, none, [frame]⟩
      have after : ({ ledger with closed := ledger.closed ++ [chapter], waiting := none } : Ledger R A).chapters =
          ledger.chapters ++ [chapter] := by
        rw [before]
        simp only [Ledger.chapters, now]
        exact List.append_nil _
      refine ⟨{ ledger with closed := ledger.closed ++ [chapter], waiting := none }, {
        script := account.script
        onMachine := account.onMachine
        handlers := account.handlers
        frames := ?_
        starts := ?_
        runs := ?_
        once := account.once
        known := account.known
        active := account.active
        refused := fun _ _ _ => inactive
        complete := ?_
        stage := ?_
        desk := .gone }, rfl, rfl⟩
      · rw [after, List.flatMap_append, ← account.frames]
        exact Stream.sent_push _ _
      · have starts := account.starts
        rw [waits] at starts
        rw [after, List.map_append]
        exact starts.trans (List.append_nil _).symm
      · rw [after, List.filterMap_append, account.runs]
        exact List.append_nil _
      · intro other member
        rcases List.mem_append.mp member with earlier | last
        · exact account.complete other earlier
        · rw [List.mem_singleton.mp last]
          exact .refused place scenario frame fault rfl rfl rfl
      · show Stage machine ledger.taken returned session.runs none none ledger.current
        rw [now]
        exact .idle past

-- The account of a start that begins a run.
theorem begins (account : Account machine script returned session none none none ledger)
    (place : Nat) (scenario : String) (waits : ledger.waiting = some (place, scenario)) (flow : Step R) (cell : Cell R)
    (tick : Nat) (events : cell.events = [.flowStarted scenario tick schemaVersion]) (uncut : cell.cancelled = false)
    (stocked : cell.Stocked machine) :
    ∃ later, Account machine script returned { session with
        runs := session.runs ++ [⟨scenario, cell, false, false, false⟩], active := some session.runs.length }
        none (some (session.runs.length, some (.fresh flow))) none later ∧
      later.left = ledger.left ∧ later.waiting = none := by
  have stage := account.stage
  generalize now : ledger.current = current at stage
  cases stage with
  | idle past =>
      let chapter : Chapter R := ⟨place, scenario, some session.runs.length, []⟩
      have longer : (session.runs ++ [SessionRun.mk scenario cell false false false]).length = session.runs.length + 1 :=
        List.length_append
      have after : ({ ledger with current := some chapter, waiting := none } : Ledger R A).chapters =
          ledger.chapters ++ [chapter] := by
        simp only [Ledger.chapters, now]
        exact congrArg (· ++ [chapter]) (List.append_nil _).symm
      refine ⟨{ ledger with current := some chapter, waiting := none }, {
        script := account.script
        onMachine := account.onMachine
        handlers := account.handlers
        frames := ?_
        starts := ?_
        runs := ?_
        once := account.once
        known := ?_
        active := ?_
        refused := ?_
        complete := account.complete
        stage := ?_
        desk := .gone }, rfl, rfl⟩
      · rw [after, List.flatMap_append, ← account.frames]
        exact (List.append_nil _).symm
      · have starts := account.starts
        rw [waits] at starts
        rw [after, List.map_append]
        exact starts.trans (List.append_nil _).symm
      · rw [after, List.filterMap_append, account.runs, List.length_append]
        exact List.range_succ.symm
      · intro entry member
        rw [List.length_append]
        exact Nat.lt_succ_of_lt (account.known entry member)
      · intro number active
        cases active
        exact longer.symm
      · intro last isLast isRefused
        rw [after, List.getLast?_concat] at isLast
        cases isLast
        cases isRefused
      · refine .fresh _ ⟨scenario, cell, false, false, false⟩ flow chapter ?_ ?_ rfl
        · refine ⟨List.getElem?_concat_length .., longer.symm, ?_, rfl⟩
          intro earlier run before found
          rw [List.getElem?_append_left before] at found
          exact past run (List.mem_of_getElem? found)
        · refine ⟨⟨rfl, stocked, rfl, .unseen place scenario _⟩, rfl, ?_, ?_, ?_⟩
          · exact ⟨tick, [], events, List.forall_mem_nil _⟩
          · intro member
            obtain ⟨entry, there, same⟩ := List.mem_map.mp member
            exact absurd (same ▸ account.known entry there) (Nat.lt_irrefl _)
          · intro cancelled
            cases uncut.symm.trans cancelled

-- A start, once nothing is left of the run before: it is refused, or it begins a run.
theorem begin_keeps (account : Account machine script returned session none none none ledger)
    (inactive : session.active = none) (place : Nat) (scenario : String)
    (waits : ledger.waiting = some (place, scenario)) :
    match session.begin scenario with
    | (.ok (), next, asked) => next.active ≠ none ∧ ∃ driver later,
        Account machine script returned next none driver none later ∧ later.left = ledger.left ∧ later.waiting = none ∧
          Brings asked none driver
    | (.error (.fault _), next, asked) => next.active = none ∧ asked = [] ∧ ∃ later,
        Account machine script returned next none none none later ∧ later.left = ledger.left ∧ later.waiting = none
    | (.error (.panic _), next, asked) => next = session ∧ asked = [] := by
  unfold Session.begin
  cases Scenario.build session.catalog scenario session.machine with
  | error failure =>
      cases failure with
      | fault fault => exact ⟨inactive, rfl, account.refuses inactive place scenario waits fault⟩
      | panic message => exact ⟨rfl, rfl⟩
  | ok flow =>
      rcases made : materializeAll session.newCell with ⟨outcome, cell⟩
      cases outcome with
      | error failure =>
          cases failure with
          | fault fault => exact ⟨inactive, rfl, account.refuses inactive place scenario waits fault⟩
          | panic message => exact ⟨rfl, rfl⟩
      | ok done =>
          obtain ⟨silent, stocked⟩ := materialize_all_stocks session.newCell cell made
          have started : (cell.pushEvent (.flowStarted scenario session.now schemaVersion)).events =
              [.flowStarted scenario session.now schemaVersion] :=
            congrArg (· ++ [Event.flowStarted scenario session.now schemaVersion]) silent.silent
          have onMachine : session.newCell.machine = machine := account.onMachine
          have equipped : (cell.pushEvent (.flowStarted scenario session.now schemaVersion)).Stocked machine :=
            onMachine ▸ ⟨stocked.axes, stocked.actuators⟩
          obtain ⟨later, begun, left, waiting⟩ :=
            account.begins place scenario waits flow _ session.now started silent.cancelled equipped
          exact ⟨nofun, _, later, begun, left, waiting, brings_drive _ _⟩

end Account

end

variable {R A : Type}

theorem cancel_beside (cell : Cell R) : Cell.Beside cell cell.cancel ∧ cell.cancel.cancelled = true := by
  unfold Cell.cancel
  split
  · next cancelled => exact ⟨.refl cell, cancelled⟩
  · exact ⟨⟨rfl, fun _ has => has, fun _ has => has⟩, rfl⟩

theorem answer_kept (answer : A) (session : Session R A) : session.Kept [] (session.answer answer) :=
  ⟨rfl, rfl, (List.append_nil _).symm, rfl, rfl⟩

variable [Scalar R]

def Worked (machine : Machine R) (script : List (Order A)) (returned : List (Nat × Outcome R))
    (before : Option (Nat × Option (Task R))) (sampler : Option (Nat × Sampler R)) (left : List (Order A))
    (worked : Session.Turn A × Session R A × List (Request (SessionJob R A))) : Prop :=
  ∃ driver ledger, Account machine script returned worked.2.1 none driver sampler ledger ∧ ledger.left = left ∧
    Brings worked.2.2 before driver ∧
    match worked.1 with
    | .answered _ => ledger.waiting = none ∧ (worked.2.1.active = none → driver = none)
    | .waits pause =>
        Desk worked.2.1.active worked.2.1.runs.length driver.isSome ledger (some (pause, left.map Order.instruction))
    | .broken => True

theorem Worked.after {machine : Machine R} {script : List (Order A)} {returned : List (Nat × Outcome R)}
    {before between : Option (Nat × Option (Task R))} {sampler : Option (Nat × Sampler R)} {left : List (Order A)}
    {turn : Session.Turn A} {session : Session R A} {asked more : List (Request (SessionJob R A))}
    (worked : Worked machine script returned between sampler left (turn, session, more))
    (brings : Brings asked before between) :
    Worked machine script returned before sampler left (turn, session, asked ++ more) := by
  obtain ⟨driver, ledger, account, isLeft, further, follows⟩ := worked
  exact ⟨driver, ledger, account, isLeft, brings.append further, follows⟩

def Seated (machine : Machine R) (script : List (Order A)) (returned : List (Nat × Outcome R))
    (before : Option (Nat × Option (Task R))) (sampler : Option (Nat × Sampler R))
    (result : Option (SessionJob R A) × Session R A × List (Request (SessionJob R A))) : Prop :=
  ∃ operator driver ledger, Account machine script returned result.2.1 operator driver sampler ledger ∧
    Brings result.2.2 before driver ∧ result.1 = operator.map fun post => .operator post.1 post.2

theorem Worked.proceeds {machine : Machine R} {script : List (Order A)} {returned : List (Nat × Outcome R)}
    {before : Option (Nat × Option (Task R))} {sampler : Option (Nat × Sampler R)} {left : List (Order A)}
    {turn : Session.Turn A} {session : Session R A} {asked : List (Request (SessionJob R A))}
    (worked : Worked machine script returned before sampler left (turn, session, asked))
    (follows : ∀ next driver ledger, Account machine script returned next none driver sampler ledger →
      ledger.left = left → ledger.waiting = none → (next.active = none → driver = none) →
      Seated machine script returned driver sampler (Session.follow (left.map Order.instruction) next)) :
    Seated machine script returned before sampler (match turn with
      | .answered answer =>
          ((Session.follow (left.map Order.instruction) (session.answer answer)).1,
            (Session.follow (left.map Order.instruction) (session.answer answer)).2.1,
            asked ++ (Session.follow (left.map Order.instruction) (session.answer answer)).2.2)
      | .waits pause => (some (.operator pause (left.map Order.instruction)), session, asked)
      | .broken => (none, { session with finished := true, broken := true }, asked)) := by
  obtain ⟨driver, ledger, account, isLeft, brings, follow⟩ := worked
  cases turn with
  | answered answer =>
      have answered := account.kept (answer_kept answer session) account.stage fun busy => busy
      obtain ⟨operator, after, later, kept, further, isJob⟩ := follows _ driver ledger answered isLeft follow.1 follow.2
      exact ⟨operator, after, later, kept, brings.append further, isJob⟩
  | waits pause =>
      exact ⟨some (pause, left.map Order.instruction), driver, ledger, { account with desk := follow }, brings, rfl⟩
  | broken =>
      have same : session.Kept [] { session with finished := true, broken := true } :=
        ⟨rfl, rfl, (List.append_nil _).symm, rfl, rfl⟩
      exact ⟨none, driver, ledger, account.kept same account.stage (fun busy => busy), brings, rfl⟩

namespace Account

variable {machine : Machine R} {script : List (Order A)} {returned : List (Nat × Outcome R)} {session : Session R A}
  {operator : Option (SessionPause A × List (SessionInstruction R A))} {driver : Option (Nat × Option (Task R))}
  {sampler : Option (Nat × Sampler R)} {ledger : Ledger R A}

theorem idle (account : Account machine script returned session operator none sampler ledger) : sampler = none := by
  have stage := account.stage
  generalize ledger.current = current at stage
  cases stage with
  | idle past => rfl

theorem unseated (account : Account machine script returned session operator driver sampler ledger) :
    Account machine script returned session none driver sampler ledger := { account with desk := .gone }

-- A stop has come to its end.
theorem after_stop (account : Account machine script returned session none none none ledger)
    (inactive : session.active = none) (next : Stopping A) (waits : ledger.waiting.map Prod.snd = next.scenario?) :
    Worked machine script returned none none ledger.left (session.afterStop next) := by
  cases next with
  | stop answer =>
      have noneWaits : ledger.waiting = none := Option.map_eq_none_iff.mp waits
      exact ⟨none, ledger, account, rfl, brings_nothing none, noneWaits, fun _ => rfl⟩
  | start scenario answer =>
      obtain ⟨⟨place, other⟩, waiting, rfl⟩ := Option.map_eq_some_iff.mp waits
      have begins := account.begin_keeps inactive place other waiting
      rcases result : session.begin other with ⟨outcome, after, asked⟩
      rw [result] at begins
      simp only [Worked, Session.afterStop, result]
      cases outcome with
      | ok done =>
          obtain ⟨active, driver, later, kept, left, noneWaits, brings⟩ := begins
          exact ⟨driver, later, kept, left, brings, noneWaits, fun none => absurd none active⟩
      | error failure =>
          cases failure with
          | fault fault =>
              obtain ⟨stillInactive, rfl, later, kept, left, noneWaits⟩ := begins
              exact ⟨none, later, kept, left, brings_nothing none, noneWaits, fun _ => rfl⟩
          | panic message =>
              obtain ⟨rfl, rfl⟩ := begins
              exact ⟨none, ledger, account, rfl, brings_nothing none, trivial⟩

-- Beginning to stop cancels the active run, if there is one.
theorem begin_stop (account : Account machine script returned session none driver sampler ledger)
    (settled : session.active = none → driver = none)
    (commanded : ∀ chapter ∈ ledger.current, Order.Later ledger.taken chapter.place) :
    ∃ stopped next asked, session.beginStop = (stopped, next, asked) ∧ next.active = none ∧
      Account machine script returned next none driver sampler ledger ∧
      (∀ job ∈ Request.begun asked, job.isMotor = true) ∧ (stopped = none → driver = none) ∧
      ∀ run, stopped = some run → run + 1 = next.runs.length := by
  unfold Session.beginStop
  cases active : session.active with
  | none =>
      refine ⟨_, _, _, rfl, active, account, ?_, fun _ => settled active, nofun⟩
      exact fun _ member => nomatch member
  | some run =>
      have inactive : Account machine script returned { session with active := none } none driver sampler ledger :=
        { account with active := nofun, refused := fun _ _ _ => rfl, desk := .gone }
      obtain ⟨kept, motors⟩ := inactive.within run () (fun cell => ((), cell.cancel))
        (fun cell => (cancel_beside cell).1) fun cell => Or.inr ⟨(cancel_beside cell).2, commanded⟩
      have same := within_kept run () (fun cell => ((), cell.cancel)) { session with active := none }
      have last := account.active run active
      refine ⟨_, _, _, rfl, same.active, kept, motors, ?_, ?_⟩
      · intro isOver
        cases busy : driver with
        | none => rfl
        | some work =>
            have unfinished : ({ session with active := none } : Session R A).isFinished run = false :=
              account.stage.unfinished (busy ▸ rfl) run last
            simp only [unfinished, Bool.not_false, if_true] at isOver
            cases isOver
      · intro other isRun
        split at isRun
        · cases isRun
          exact last.trans same.runs.symm
        · cases isRun

-- A stop, and what follows it, of a command that has just been taken up.
theorem stop_then (account : Account machine script returned session none driver sampler ledger)
    (settled : session.active = none → driver = none)
    (commanded : ∀ chapter ∈ ledger.current, Order.Later ledger.taken chapter.place) (next : Bool → Stopping A)
    (waits : ∀ inProgress, ledger.waiting.map Prod.snd = (next inProgress).scenario?) :
    Worked machine script returned driver sampler ledger.left (session.stopThen next) := by
  obtain ⟨stopped, after, asked, begun, inactive, stopping, motors, isOver, last⟩ := account.begin_stop settled commanded
  unfold Session.stopThen
  rw [begun]
  cases stopped with
  | some run =>
      refine ⟨driver, ledger, stopping, rfl, brings_motors asked motors driver, ?_⟩
      exact .stopping run (next true) inactive (last run rfl) (waits true)
  | none =>
      have idle := isOver rfl
      subst idle
      have alone := stopping.idle
      subst alone
      exact (stopping.after_stop inactive (next false) (waits false)).after (brings_motors asked motors none)

-- An order is taken up.
theorem takes (account : Account machine script returned session none driver sampler ledger) (order : Order A)
    (rest : List (Order A)) (left : ledger.left = order :: rest) (noneWaits : ledger.waiting = none) :
    Account machine script returned session none driver sampler { ledger with
      taken := ledger.taken ++ [order]
      left := rest
      waiting := order.scenario?.map fun scenario => (ledger.taken.length, scenario) } where
  script := by rw [← account.script, left, List.append_assoc, List.singleton_append]
  onMachine := account.onMachine
  handlers := account.handlers
  frames := account.frames
  starts := by
    have starts := account.starts
    rw [noneWaits] at starts
    rw [Order.starts_append, starts]
    exact congrArg (· ++ _) (List.append_nil _)
  runs := account.runs
  once := account.once
  known := account.known
  active := account.active
  refused := account.refused
  complete := by
    intro chapter member
    have complete := (account.complete chapter member).later [order] []
    rwa [List.append_nil] at complete
  stage := account.stage.later [order]
  desk := .gone

theorem later_than_chapters (account : Account machine script returned session operator driver sampler ledger)
    (order : Order A) (command : order.isCommand = true) (chapter : Chapter R) (member : chapter ∈ ledger.current) :
    Order.Later (ledger.taken ++ [order]) chapter.place := by
  have inside : chapter ∈ ledger.chapters := List.mem_append_right _ (Option.mem_toList.mpr member)
  have start : (chapter.place, chapter.scenario) ∈ Order.starts ledger.taken := by
    rw [account.starts]
    exact List.mem_append_left _ (List.mem_map_of_mem inside)
  exact ⟨ledger.taken.length, order, Order.starts_below ledger.taken _ start, List.getElem?_concat_length .., command⟩

theorem instruct_keeps (account : Account machine script returned session none driver sampler ledger) (order : Order A)
    (rest : List (Order A)) (left : ledger.left = order :: rest) (noneWaits : ledger.waiting = none)
    (settled : session.active = none → driver = none) :
    Worked machine script returned driver sampler rest (session.instruct order.instruction) := by
  have taken := account.takes order rest left noneWaits
  have commanded := account.later_than_chapters order
  have notBusy : session.active = none → driver.isSome = false := fun inactive => settled inactive ▸ rfl
  cases order with
  | start scenario answer =>
      exact taken.stop_then settled (commanded rfl) (fun _ => .start scenario answer) fun _ => rfl
  | stop answer => exact taken.stop_then settled (commanded rfl) (fun inProgress => .stop (answer inProgress)) fun _ => rfl
  | sleep ms answer =>
      simp only [Order.instruction, Session.instruct, Session.hold]
      split
      · exact ⟨driver, _, taken, rfl, brings_nothing driver, rfl, settled⟩
      · have same : session.Kept [] { session with issued := session.issued + 1 } :=
          ⟨rfl, rfl, (List.append_nil _).symm, rfl, rfl⟩
        refine ⟨driver, _, taken.kept same taken.stage (fun busy => busy), rfl, brings_nothing driver, ?_⟩
        exact .free _ nofun notBusy rfl
  | waitIdle answer =>
      simp only [Order.instruction, Session.instruct]
      cases active : session.active with
      | none => exact ⟨driver, _, taken, rfl, brings_nothing driver, rfl, fun _ => settled active⟩
      | some run =>
          dsimp only
          split
          · exact ⟨driver, _, taken, rfl, brings_nothing driver, rfl, settled⟩
          · exact ⟨driver, _, taken, rfl, brings_nothing driver, .free _ nofun notBusy rfl⟩

theorem follow_keeps (orders : List (Order A))
    (account : Account machine script returned session none driver sampler ledger) (left : ledger.left = orders)
    (noneWaits : ledger.waiting = none) (settled : session.active = none → driver = none) :
    Seated machine script returned driver sampler (Session.follow (orders.map Order.instruction) session) := by
  induction orders generalizing session driver ledger with
  | nil =>
      have same : session.Kept [] { session with finished := true } := ⟨rfl, rfl, (List.append_nil _).symm, rfl, rfl⟩
      exact ⟨none, driver, ledger, account.kept same account.stage (fun busy => busy), brings_nothing driver, rfl⟩
  | cons order rest ih =>
      have worked := account.instruct_keeps order rest left noneWaits settled
      rw [List.map_cons, Session.follow]
      rcases result : session.instruct order.instruction with ⟨turn, after, asked⟩
      rw [result] at worked
      have seated := worked.proceeds fun _ _ _ account left noneWaits settled => ih account left noneWaits settled
      cases turn with
      | answered answer => exact seated
      | waits pause => exact seated
      | broken => exact seated

-- A turn of the operator.
theorem operator_turn (pause : SessionPause A) (instructions : List (SessionInstruction R A))
    (account : Account machine script returned session (some (pause, instructions)) driver sampler ledger) :
    Seated machine script returned driver sampler (Session.poll (.operator pause instructions) session) := by
  have nobody := account.unseated
  have unchanged : Seated machine script returned driver sampler (some (.operator pause instructions), session, []) :=
    ⟨_, driver, ledger, account, brings_nothing driver, rfl⟩
  cases account.desk with
  | free pause waitsForNoStop idle noneWaiting =>
      have settled : session.active = none → driver = none := fun inactive =>
        Option.not_isSome_iff_eq_none.mp (Bool.eq_false_iff.mp (idle inactive))
      have answered : ∀ answer, Seated machine script returned driver sampler
          (Session.follow (ledger.left.map Order.instruction) (session.answer answer)) := fun answer =>
        (nobody.kept (answer_kept answer session) nobody.stage fun busy => busy).follow_keeps ledger.left rfl noneWaiting
          settled
      cases pause with
      | ready => exact nobody.follow_keeps ledger.left rfl noneWaiting settled
      | stopping run next => exact absurd rfl (waitsForNoStop run next)
      | sleeping timer answer =>
          simp only [Session.poll, Session.resume]
          by_cases due : timer.due ≤ session.now
          · simp only [if_pos due]
            exact answered answer
          · simp only [if_neg due]
            exact unchanged
      | idle run answer =>
          simp only [Session.poll, Session.resume]
          by_cases isOver : session.isFinished run = true
          · simp only [if_pos isOver]
            exact answered answer
          · simp only [if_neg isOver]
            exact unchanged
  | stopping run next inactive last waits =>
      simp only [Session.poll, Session.resume]
      by_cases isOver : session.isFinished run = true
      · have idle : driver = none := by
          cases busy : driver with
          | none => rfl
          | some work => exact absurd isOver (Bool.eq_false_iff.mp (account.stage.unfinished (busy ▸ rfl) run last))
        subst idle
        have alone := account.idle
        subst alone
        have worked := nobody.after_stop inactive next waits
        rcases result : session.afterStop next with ⟨turn, after, asked⟩
        rw [result] at worked
        have seated := worked.proceeds fun _ _ _ account left noneWaits settled =>
          account.follow_keeps _ left noneWaits settled
        simp only [if_pos isOver]
        cases turn with
        | answered answer => exact seated
        | waits pause => exact seated
        | broken => exact seated
      · simp only [if_neg isOver]
        exact unchanged

end Account

namespace Session

def proceed (script : List (SessionInstruction R A)) :
    Turn A × Session R A × List (Request (SessionJob R A)) →
      Option (SessionJob R A) × Session R A × List (Request (SessionJob R A))
  | (.answered answer, session, asked) =>
      ((follow script (session.answer answer)).1, (follow script (session.answer answer)).2.1,
        asked ++ (follow script (session.answer answer)).2.2)
  | (.waits pause, session, asked) => (some (.operator pause script), session, asked)
  | (.broken, session, asked) => (none, { session with finished := true, broken := true }, asked)

theorem follow_proceeds (instruction : SessionInstruction R A) (rest : List (SessionInstruction R A))
    (session : Session R A) :
    follow (instruction :: rest) session = proceed rest (session.instruct instruction) := by
  rw [follow]
  rcases session.instruct instruction with ⟨turn, after, asked⟩
  cases turn with
  | answered answer => rfl
  | waits pause => rfl
  | broken => rfl

end Session

end Workcell
