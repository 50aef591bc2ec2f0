import Workcell.Proofs.Schedule.Law
import Workcell.Proofs.Session.Heeding
import Workcell.Proofs.Session.Lifecycle

/-!
Operators side by side: which runs of a session can be live at the same time.
-/

set_option autoImplicit false

namespace Workcell

variable {R A : Type}

theorem SessionJob.start_given (job : SessionJob R A) (waits : job.waitsToStart = true) : job.givesStart = true := by
  cases job with
  | operator pause script => exact Bool.or_eq_true_iff.mpr (Or.inl waits)
  | motor run motor => cases waits
  | drive run task => cases waits
  | closing run => cases waits
  | sampling run sampler timer => cases waits

variable [Scalar R]

namespace Session

variable {displaced : List Nat} {session : Session R A}

theorem close_calm (number : Nat) (outcome : Outcome R) (session : Session R A) :
    Calm session (session.close number outcome).1 ∧
      ∀ job ∈ Request.begun (session.close number outcome).2, job.Tame := by
  unfold close
  have calm := within_calm number () (fun cell => ((), (ending outcome).foldl Cell.pushEvent cell.stopAll)) session
    fun cell cut => by
      rw [push_all]
      exact (stop_all_later cell).cancelled.trans cut
  have begins := within_begins number () (fun cell => ((), (ending outcome).foldl Cell.pushEvent cell.stopAll)) session
  exact ⟨calm.trans (note_calm number _ _ fun run _ live => live),
    SessionJob.tame_of_append _ [.signal .closing] begins SessionJob.tame_of_nothing⟩

theorem sample_calm (number : Nat) (sampler : Sampler R) (session : Session R A) :
    Calm session (session.sample number sampler).2.1 ∧
      ∀ job ∈ Request.begun (session.sample number sampler).2.2, job.Tame := by
  cases found : session.runs[number]? with
  | none =>
      simp only [sample, within, found]
      exact ⟨.of_same rfl rfl, SessionJob.tame_of_nothing⟩
  | some state =>
      obtain ⟨kept, runs, -, motors⟩ := Account.sample_kept session number state sampler found
      have noted := note_calm number (fun run => { run with
        cell := { session.lend state with events := [], outbox := [] } }) session fun run there live => by
          cases found.symm.trans there
          exact live
      exact ⟨noted.trans (.of_same kept.active runs), fun job member => job.tame_of_motor (motors job member)⟩

omit [Scalar R] in
-- A turn in which no run becomes live and no other one active.
theorem Tended.minds_calm (tended : session.Tended displaced) {next : Session R A} (calm : Calm session next)
    (left : Option (SessionJob R A)) (tame : ∀ job ∈ left, job.Tame) (asked : List (Request (SessionJob R A)))
    (begins : ∀ job ∈ Request.begun asked, job.Tame) (starting waited : Bool) :
    Minded displaced starting waited session (left, next, asked) where
  tended := tended.calm calm
  left job member := ⟨(tame job member).sound, fun gives => by
    cases (tame job member).noStart.symm.trans gives⟩
  begun := begins
  still _ := Or.inl calm.active
  waits job member waits := by
    cases (tame job member).noStart.symm.trans (job.start_given waits)

def driven (run : Nat) (asked : List (Request (SessionJob R A)))
    (polled : Progress R × Session R A × List (Request (SessionJob R A))) :
    Option (SessionJob R A) × Session R A × List (Request (SessionJob R A)) :=
  match polled.1.outcome with
  | .error task => (some (.drive run task), polled.2.1, asked ++ polled.2.2)
  | .ok outcome => (some (.closing run), (polled.2.1.close run outcome).1,
      asked ++ polled.2.2 ++ (polled.2.1.close run outcome).2)

theorem Tended.driven (tended : session.Tended displaced) (run : Nat) (asked : List (Request (SessionJob R A)))
    (polled : Progress R × Session R A × List (Request (SessionJob R A))) (calm : Calm session polled.2.1)
    (first : ∀ job ∈ Request.begun asked, job.Tame) (begins : ∀ job ∈ Request.begun polled.2.2, job.Tame)
    (fit : ∀ left, polled.1.outcome = .error left → left.Fit) :
    Minded displaced false false session (Session.driven run asked polled) := by
  unfold Session.driven
  cases ends : polled.1.outcome with
  | error left =>
      refine tended.minds_calm calm _ (fun job member => ?_) _ (SessionJob.tame_of_append _ _ first begins) _ _
      cases member
      exact ⟨fit left ends, rfl⟩
  | ok outcome =>
      obtain ⟨closed, closing⟩ := close_calm run outcome polled.2.1
      have before := SessionJob.tame_of_append _ _ first begins
      refine tended.minds_calm (calm.trans closed) _ (fun job member => ?_) _
        (SessionJob.tame_of_append _ _ before closing) _ _
      cases member
      exact ⟨trivial, rfl⟩

theorem Tended.drive (tended : session.Tended displaced) (run : Nat) (task : Task R) (fit : task.Fit) :
    Minded displaced false false session (poll (.drive run task) session) := by
  have calm := within_calm run (.fault .cancelled) (fun cell => task.poll session.handlers cell) session
    (task_stays_cancelled session.handlers task fit)
  have begins := within_begins run (.fault .cancelled) (fun cell => task.poll session.handlers cell) session
  have staysFit : ∀ left, (session.within run (.fault .cancelled) fun cell =>
      task.poll session.handlers cell).1.outcome = .error left → left.Fit := by
    intro left goesOn
    unfold within at goesOn
    split at goesOn
    · exact task_stays_fit session.handlers task left fit _ goesOn
    · cases goesOn
  cases task with
  | fresh step =>
      refine tended.driven run [.begin (.sampling run (Sampler.new session.settings.sampling.epsilon 0).force none)] _ calm
        (fun job member => ?_) begins staysFit
      cases List.mem_singleton.mp member
      exact ⟨trivial, rfl⟩
  | running inner => exact tended.driven run [] _ calm SessionJob.tame_of_nothing begins staysFit

theorem Tended.sampling (tended : session.Tended displaced) (run : Nat) (sampler : Sampler R) (timer : Option Timer) :
    Minded displaced false false session (poll (.sampling run sampler timer) session) := by
  obtain ⟨calm, begins⟩ := sample_calm run sampler session
  have stays : ∀ (sampler : Sampler R) (timer : Option Timer), ∀ job ∈ some (.sampling run sampler timer),
      SessionJob.Tame (A := A) job := by
    intro sampler timer job member
    cases member
    exact ⟨trivial, rfl⟩
  simp only [poll]
  by_cases closing : ((session.runs[run]?).map SessionRun.closing).getD true = true
  · rw [if_pos closing]
    have isOver := calm.trans (note_calm run (fun run => { run with sampled := true }) _ fun _ _ live => live)
    exact tended.minds_calm isOver _ SessionJob.tame_of_none _
      (SessionJob.tame_of_append _ [.signal (.sampled run)] begins SessionJob.tame_of_nothing) _ _
  · rw [if_neg closing]
    have waits : ∀ issued, Calm session { (session.sample run sampler).2.1 with issued := issued } :=
      fun issued => calm.trans (.of_same rfl rfl)
    cases timer with
    | none =>
        simp only [if_true]
        exact tended.minds_calm (waits _) _ (stays _ _) _ begins _ _
    | some timer =>
        by_cases due : timer.due ≤ session.now
        · simp only [decide_eq_true_eq, if_pos due]
          exact tended.minds_calm (waits _) _ (stays _ _) _ begins _ _
        · simp only [decide_eq_true_eq, if_neg due]
          exact tended.minds_calm (.refl session) _ (stays _ _) _ SessionJob.tame_of_nothing _ _

theorem Tended.closing (tended : session.Tended displaced) (run : Nat) :
    Minded displaced false false session (poll (.closing run) session) := by
  simp only [poll]
  split
  · split
    · have finishes : Calm session (session.note run fun run => { run with finished := true }) :=
        note_calm run _ session fun run _ live => by simp [SessionRun.isLive] at live
      exact tended.minds_calm finishes _ SessionJob.tame_of_none [.signal (.ended run)] SessionJob.tame_of_nothing _ _
    · refine tended.minds_calm (.refl session) _ ?_ _ SessionJob.tame_of_nothing _ _
      intro job member
      cases member
      exact ⟨trivial, rfl⟩
  · exact tended.minds_calm (.refl session) _ SessionJob.tame_of_none _ SessionJob.tame_of_nothing _ _

theorem Tended.turn (tended : session.Tended displaced) (job : SessionJob R A) (sound : job.Sound) :
    Minded (displaces job session displaced) job.givesStart job.waitsToStart session (poll job session) := by
  cases job with
  | operator pause script => exact tended.operate pause script sound
  | drive run task => exact tended.drive run task sound
  | sampling run sampler timer => exact tended.sampling run sampler timer
  | closing run => exact tended.closing run
  | motor run motor =>
      have calm := within_calm run none (fun cell => motor.poll cell) session fun cell cut =>
        (motor_silent motor cell).cancelled.trans cut
      have begins := within_begins run none (fun cell => motor.poll cell) session
      simp only [poll]
      refine tended.minds_calm calm _ ?_ _ begins _ _
      intro job member
      obtain ⟨left, -, rfl⟩ := Option.map_eq_some_iff.mp member
      exact ⟨trivial, rfl⟩

omit [Scalar R] in
theorem sound_when_touched (job : SessionJob R A) (sound : job.Sound) (key : Nat) : (touch key job).Sound := by
  cases job with
  | drive run task =>
      cases task with
      | fresh step => exact sound
      | running run => exact touch_fit key run sound
  | operator pause script => exact sound
  | motor run motor => exact sound
  | closing run => exact sound
  | sampling run sampler timer => exact sound

omit [Scalar R] in
theorem touch_gives (job : SessionJob R A) (key : Nat) :
    (touch key job).givesStart = job.givesStart ∧ (touch key job).waitsToStart = job.waitsToStart := by
  cases job with
  | drive run task => exact ⟨rfl, rfl⟩
  | operator pause script => exact ⟨rfl, rfl⟩
  | motor run motor => exact ⟨rfl, rfl⟩
  | closing run => exact ⟨rfl, rfl⟩
  | sampling run sampler timer => exact ⟨rfl, rfl⟩

structure Watched (displaced : List Nat) (session : Session R A) (jobs : List (SessionJob R A)) : Prop where
  tended : session.Tended displaced
  sound : ∀ job ∈ jobs, job.Sound

theorem watched_law : (workload (R := R) (A := A)).Law displaces Watched where
  perm same watched := ⟨watched.tended, fun job member => watched.sound job (same.mem_iff.mpr member)⟩
  touch watched key := by
    refine ⟨watched.tended, fun job member => ?_⟩
    rcases List.mem_cons.mp member with rfl | later
    · exact sound_when_touched _ (watched.sound _ List.mem_cons_self) key
    · exact watched.sound job (List.mem_cons_of_mem _ later)
  elapse watched now := ⟨watched.tended.calm (.of_same rfl rfl), watched.sound⟩
  turn := by
    intro displaced session job rest watched
    have minded := watched.tended.turn job (watched.sound job List.mem_cons_self)
    refine ⟨minded.tended, fun other member => ?_⟩
    rcases List.mem_append.mp member with before | begun
    · rcases List.mem_append.mp before with left | later
      · exact (minded.left other (Option.mem_toList.mp left)).1
      · exact watched.sound other (List.mem_cons_of_mem job later)
    · exact (minded.begun other begun).sound

structure Sole (displaced : List Nat) (session : Session R A) (jobs : List (SessionJob R A)) : Prop
    extends Watched displaced session jobs where
  clear : displaced = []
  alone : jobs.countP SessionJob.givesStart ≤ 1
  waits : ∀ job ∈ jobs, job.waitsToStart = true → session.active = none

theorem displaces_none (job : SessionJob R A) (session : Session R A)
    (waits : job.waitsToStart = true → session.active = none) : displaces job session [] = [] := by
  cases job with
  | operator pause script =>
      cases pause with
      | stopping run next =>
          have nothing : session.displacedAfter next = [] := by
            cases next with
            | start scenario answer => exact displaced_by_none scenario session (waits rfl)
            | stop answer => rfl
          simp [displaces, nothing]
      | ready => rfl
      | sleeping timer answer => rfl
      | idle run answer => rfl
  | motor run motor => rfl
  | drive run task => rfl
  | closing run => rfl
  | sampling run sampler timer => rfl

theorem Sole.turn {job : SessionJob R A} {rest : List (SessionJob R A)} (sole : Sole displaced session (job :: rest)) :
    Sole (displaces job session displaced) (poll job session).2.1
      ((poll job session).1.toList ++ rest ++ Request.begun (poll job session).2.2) := by
  have watched := watched_law.turn sole.toWatched
  have minded := sole.tended.turn job (sole.sound job List.mem_cons_self)
  have waits := sole.waits job List.mem_cons_self
  have alone := sole.alone
  rw [List.countP_cons] at alone
  have clear : displaces job session displaced = [] := by
    rw [sole.clear]
    exact displaces_none job session waits
  have begins : (Request.begun (poll job session).2.2).countP SessionJob.givesStart = 0 := by
    refine List.countP_eq_zero.mpr fun other member gives => ?_
    cases (minded.begun other member).noStart.symm.trans gives
  have leaves : (poll job session).1.toList.countP SessionJob.givesStart ≤ if job.givesStart = true then 1 else 0 := by
    cases left : (poll job session).1 with
    | none => exact Nat.zero_le _
    | some next =>
        have gives := (minded.left next left).2
        rw [Option.toList_some, List.countP_singleton]
        by_cases may : next.givesStart = true
        · rw [if_pos may, if_pos (gives may)]
        · rw [if_neg may]
          exact Nat.zero_le _
  refine ⟨watched, clear, ?_, fun other member starting => ?_⟩
  · rw [List.countP_append, List.countP_append, begins]
    omega
  · rcases List.mem_append.mp member with before | begun
    · rcases List.mem_append.mp before with left | later
      · rcases minded.waits other (Option.mem_toList.mp left) starting with none | ⟨waited, same⟩
        · exact none
        · exact same.trans (waits waited)
      · -- Another one may start a run, so this job may not.
        have gives := other.start_given starting
        have positive : 0 < rest.countP SessionJob.givesStart := List.countP_pos_iff.mpr ⟨other, later, gives⟩
        have noStart : job.givesStart = false := by
          cases may : job.givesStart with
          | false => rfl
          | true =>
              rw [if_pos may] at alone
              omega
        have inactive := sole.waits other (List.mem_cons_of_mem job later) starting
        rcases minded.still noStart with same | none
        · exact same.trans inactive
        · exact none
    · cases (minded.begun other begun).noStart.symm.trans (other.start_given starting)

theorem sole_law : (workload (R := R) (A := A)).Law displaces Sole where
  perm same sole := ⟨watched_law.perm same sole.toWatched, sole.clear, same.countP_eq _ ▸ sole.alone,
    fun job member => sole.waits job (same.mem_iff.mpr member)⟩
  touch := by
    intro displaced session job rest sole key
    obtain ⟨gives, waits⟩ := touch_gives job key
    refine ⟨watched_law.touch sole.toWatched key, sole.clear, ?_, fun other member starting => ?_⟩
    · have alone := sole.alone
      rw [List.countP_cons] at alone ⊢
      exact gives ▸ alone
    · rcases List.mem_cons.mp member with rfl | later
      · exact sole.waits job List.mem_cons_self (waits.symm.trans starting)
      · exact sole.waits other (List.mem_cons_of_mem job later) starting
  elapse sole now := ⟨watched_law.elapse sole.toWatched now, sole.clear, sole.alone, sole.waits⟩
  turn := Sole.turn

def sitDown (script : List (Order A)) : SessionJob R A := .operator .ready (script.map Order.instruction)

omit [Scalar R] in
theorem sit_down_sound (script : List (Order A)) : (sitDown script : SessionJob R A).Sound := by
  intro instruction member
  obtain ⟨order, -, rfl⟩ := List.mem_map.mp member
  cases order with
  | start scenario answer => rfl
  | stop answer => rfl
  | sleep ms answer => rfl
  | waitIdle answer => rfl

omit [Scalar R] in
theorem sit_down_gives (script : List (Order A)) :
    (sitDown script : SessionJob R A).givesStart = script.any fun order => order.scenario?.isSome := by
  simp only [sitDown, SessionJob.givesStart, SessionPause.givesStart, Bool.false_or, List.any_map]
  congr 1
  funext order
  cases order with
  | start scenario answer => rfl
  | stop answer => rfl
  | sleep ms answer => rfl
  | waitIdle answer => rfl

omit [Scalar R] in
theorem new_watched (machine : Machine R) (driver : Driver) (catalog : Catalog (Scenario R)) (settings : SessionSettings R)
    (handlers : HandlerTable R) (hook : Hook R) (scripts : List (List (Order A))) :
    Watched [] (new machine driver catalog settings handlers hook) (scripts.map sitDown) where
  tended := by
    refine ⟨fun number active => ?_, fun number live => ?_⟩
    · cases active
    · simp [isLive, new] at live
  sound job member := by
    obtain ⟨script, -, rfl⟩ := List.mem_map.mp member
    exact sit_down_sound script

end Session

/-- Whatever operators do side by side with starts and stops, a live run is the active one, or a start that had waited for
the end of another run has displaced it; a stop leaves live only what has been displaced. Where one operator at most gives
starts nothing is displaced. -/
theorem live_runs_are_active_or_displaced (machine : Machine R) (driver : Driver) (catalog : Catalog (Scenario R))
    (settings : SessionSettings R) (handlers : HandlerTable R) (hook : Hook R) (scripts : List (List (Order A)))
    (displaced : List Nat) (session : Session R A) (jobs : List (SessionJob R A))
    (reached : Session.workload.CrewReach Session.displaces (Session.new machine driver catalog settings handlers hook)
      (scripts.map Session.sitDown) [] displaced session jobs) :
    (∀ run, session.isLive run = true → session.active = some run ∨ run ∈ displaced) ∧
      (∀ run, session.beginStop.2.1.isLive run = true → run ∈ displaced) ∧
      ((scripts.countP fun script => script.any fun order => order.scenario?.isSome) ≤ 1 → displaced = []) := by
  have begins := Session.new_watched machine driver catalog settings handlers hook scripts
  have watched := Session.watched_law.crew_reached _ _ [] begins displaced session jobs reached
  refine ⟨watched.tended.live, watched.tended.halted.2.2, fun few => ?_⟩
  have sole : Session.Sole [] (Session.new machine driver catalog settings handlers hook) (scripts.map Session.sitDown) := by
    refine ⟨begins, rfl, ?_, fun _ _ _ => rfl⟩
    rw [List.countP_map]
    refine Nat.le_trans (Nat.le_of_eq ?_) few
    congr 1
    funext script
    exact Session.sit_down_gives script
  exact (Session.sole_law.crew_reached _ _ [] sole displaced session jobs reached).clear

def restingSession : Session Rat Unit :=
  Session.new gripperCell.machine gripperCell.driver ⟨[("rest", fun _ => .ok (Flow.delay 1000))]⟩
    ⟨.default, defaultWait, .ofMillis 10, 0⟩ HandlerTable.standard .propagating

def sideBySide (scripts : List (List (Order Unit))) (steps : Nat) :
    List Nat × Schedule (Session Rat Unit) (SessionJob Rat Unit) :=
  Schedule.follow Session.workload Session.displaces steps
    ([], Schedule.crew restingSession (scripts.map Session.sitDown))

theorem side_by_side_reaches (scripts : List (List (Order Unit))) (steps : Nat) :
    Session.workload.CrewReach Session.displaces restingSession (scripts.map Session.sitDown) []
      (sideBySide scripts steps).1 (sideBySide scripts steps).2.world ((sideBySide scripts steps).2.jobs.map Prod.snd) :=
  Schedule.crew_reaches Session.workload Session.displaces restingSession (scripts.map Session.sitDown) [] steps

def restart : Order Unit := .start "rest" fun _ => ()

theorem live_runs_are_active_or_displaced_beside_a_stop :
    (sideBySide [[restart, restart], [.stop fun _ => ()]] 6).2.world.isLive 1 = true ∧
      (sideBySide [[restart, restart], [.stop fun _ => ()]] 6).2.world.active = some 1 ∧
      ∀ run, (sideBySide [[restart, restart], [.stop fun _ => ()]] 6).2.world.beginStop.2.1.isLive run = false := by
  obtain ⟨active, stopped, clear⟩ := live_runs_are_active_or_displaced _ _ _ _ _ _ _ _ _ _
    (side_by_side_reaches [[restart, restart], [.stop fun _ => ()]] 6)
  have none := clear (by decide)
  rw [none] at active stopped
  have live : (sideBySide [[restart, restart], [.stop fun _ => ()]] 6).2.world.isLive 1 = true := by decide +kernel
  refine ⟨live, (active 1 live).resolve_right List.not_mem_nil, fun run => ?_⟩
  exact Bool.eq_false_iff.mpr fun still => absurd (stopped run still) List.not_mem_nil

-- Two operators start while a run is in progress: the start of the one that waits displaces the run of the other.
theorem starts_displace_one_another :
    ¬∀ (scripts : List (List (Order Unit))) (displaced : List Nat) (session : Session Rat Unit)
      (jobs : List (SessionJob Rat Unit)),
      Session.workload.CrewReach Session.displaces restingSession (scripts.map Session.sitDown) [] displaced session jobs →
      ∀ run, session.isLive run = true → session.active = some run := by
  intro claimed
  have active := claimed _ _ _ _ (side_by_side_reaches [[restart, restart], [restart]] 8) 1 (by decide +kernel)
  have other : (sideBySide [[restart, restart], [restart]] 8).2.world.active = some 2 := by decide +kernel
  cases active.symm.trans other

end Workcell
