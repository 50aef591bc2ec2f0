import Workcell.Duration

/-!
Devices that tell motions apart by generations.

A device is set going by commands, and every motion that a command begins bears the generation of the command. Nothing
is assumed of when a motion is taken down that has been superseded, by a later command or by a stop: it may go on to
tick for as long as it likes. What the device shows is then told by a device that knows of no generations, and has
nothing but the one motion in progress.
-/

set_option autoImplicit false

namespace Workcell

-- What happens to a device. Motions are numbered in the order in which they have been begun; `elapsed` is the time
-- since then.
inductive Occasion (C : Type) where
  | order (command : C)
  | stop
  | tick (index : Nat) (elapsed : Duration)

abbrev Way (S : Type) := Duration → S → S × Bool

-- How a device works that has only the motion in progress.
structure Gear (S C : Type) where
  order : C → S → Option (S × Option (Way S))
  stop : S → Option S

structure Single (S : Type) where
  state : S
  current : Option (Nat × Way S)
  begun : Nat
  shown : List S

namespace Gear

variable {S C : Type}

def step (gear : Gear S C) (single : Single S) : Occasion C → Single S
  | .order command =>
      match gear.order command single.state with
      | none => single
      | some (state, none) => ⟨state, none, single.begun, single.shown ++ [state]⟩
      | some (state, some way) => ⟨state, some (single.begun, way), single.begun + 1, single.shown ++ [state]⟩
  | .stop =>
      match gear.stop single.state with
      | none => ⟨single.state, none, single.begun, single.shown⟩
      | some state => ⟨state, none, single.begun, single.shown ++ [state]⟩
  | .tick index elapsed =>
      match single.current with
      | none => single
      | some (number, way) =>
          if index = number then
            let (state, done) := way elapsed single.state
            ⟨state, if done then none else single.current, single.begun, single.shown ++ [state]⟩
          else single

def after (gear : Gear S C) (state : S) (history : List (Occasion C)) : Single S :=
  history.foldl gear.step ⟨state, none, 0, []⟩

end Gear

structure Rig (D S M C : Type) where
  state : D → S
  published : D → Nat
  order : C → D → Option M × D
  stop : D → D
  tick? : M → Duration → D → Option (D × Bool)

-- A device with every motion that has ever been begun, but for those that have come to their end themselves.
structure Fleet (D S M : Type) where
  device : D
  motions : List (Option M)
  shown : List S

namespace Rig

variable {D S M C : Type}

def shownAfter (rig : Rig D S M C) (before after : D) (shown : List S) : List S :=
  if rig.published after = rig.published before then shown else shown ++ [rig.state after]

def step (rig : Rig D S M C) (fleet : Fleet D S M) : Occasion C → Fleet D S M
  | .order command =>
      let (motion, moved) := rig.order command fleet.device
      ⟨moved, fleet.motions ++ motion.toList.map some, rig.shownAfter fleet.device moved fleet.shown⟩
  | .stop =>
      let stopped := rig.stop fleet.device
      ⟨stopped, fleet.motions, rig.shownAfter fleet.device stopped fleet.shown⟩
  | .tick index elapsed =>
      match fleet.motions[index]? with
      | some (some motion) =>
          match rig.tick? motion elapsed fleet.device with
          | none => fleet
          | some (moved, done) =>
              ⟨moved, if done then fleet.motions.set index none else fleet.motions,
                rig.shownAfter fleet.device moved fleet.shown⟩
      | _ => fleet

def after (rig : Rig D S M C) (device : D) (history : List (Occasion C)) : Fleet D S M :=
  history.foldl rig.step ⟨device, [], []⟩

end Rig

def Occasion.since {C : Type} (number : Nat) : Occasion C → Option (Occasion C)
  | .tick index elapsed => if number ≤ index then some (.tick (index - number) elapsed) else none
  | other => some other

def Occasion.isOrder {C : Type} : Occasion C → Bool
  | .order _ => true
  | _ => false

-- A device shows what one shows that has only the motion in progress. What it shows from an accepted command on is
-- what a device does that has just been given the command in the same state; and from a stop to the next command it
-- shows nothing, and stays as it is.
structure Rig.Obeys {D S M C : Type} (rig : Rig D S M C) (gear : Gear S C) (device : D) : Prop where
  shows : ∀ history, (rig.after device history).shown = (gear.after (rig.state device) history).shown
  forgets : ∀ history command later,
    (gear.order command (rig.state (rig.after device history).device)).isSome = true →
      (rig.after device (history ++ .order command :: later)).shown = (rig.after device history).shown ++
        (gear.after (rig.state (rig.after device history).device)
          (.order command :: later.filterMap (Occasion.since (rig.after device history).motions.length))).shown
  rests : ∀ history later, (∀ occasion ∈ later, occasion.isOrder = false) →
    (rig.after device (history ++ .stop :: later)).shown = (rig.after device (history ++ [.stop])).shown ∧
      rig.state (rig.after device (history ++ .stop :: later)).device =
        rig.state (rig.after device (history ++ [.stop])).device

section

variable {D S M C : Type} (rig : Rig D S M C) (gear : Gear S C) (generation : D → Nat) (fits : D → Prop)

structure Rig.Carries (stamp : Nat) (way : Way S) (motion : M) : Prop where
  past : ∀ elapsed device, fits device → generation device ≠ stamp → rig.tick? motion elapsed device = none
  goes : ∀ elapsed device, fits device → generation device = stamp →
    ∃ moved, rig.tick? motion elapsed device = some (moved, (way elapsed (rig.state device)).2) ∧
      rig.state moved = (way elapsed (rig.state device)).1 ∧ rig.published moved ≠ rig.published device ∧
      generation moved = stamp ∧ fits moved

-- What ties devices that tell motions apart by generations to a gear: every accepted command and every stop begins a
-- new generation before it shows anything.
structure Rig.Turns : Prop where
  refused : ∀ command device, fits device → gear.order command (rig.state device) = none →
    rig.order command device = (none, device)
  given : ∀ command device state way?, fits device →
    gear.order command (rig.state device) = some (state, way?) →
    ∃ motion moved, rig.order command device = (motion, moved) ∧ rig.state moved = state ∧
      rig.published moved ≠ rig.published device ∧ generation moved = generation device + 1 ∧ fits moved ∧
      Option.Rel (rig.Carries generation fits (generation moved)) way? motion
  stopped : ∀ device, fits device → generation (rig.stop device) = generation device + 1 ∧ fits (rig.stop device) ∧
    match gear.stop (rig.state device) with
    | none => rig.state (rig.stop device) = rig.state device ∧ rig.published (rig.stop device) = rig.published device
    | some state => rig.state (rig.stop device) = state ∧ rig.published (rig.stop device) ≠ rig.published device
  still : ∀ state stopped, gear.stop state = some stopped → gear.stop stopped = none

structure Fleet.Reads (fleet : Fleet D S M) (single : Single S) : Prop where
  fit : fits fleet.device
  state : rig.state fleet.device = single.state
  shown : fleet.shown = single.shown
  begun : fleet.motions.length = single.begun
  carried : ∀ (index : Nat) (motion : M), fleet.motions[index]? = some (some motion) →
    ∃ stamp way, rig.Carries generation fits stamp way motion ∧ stamp ≤ generation fleet.device ∧
      (stamp = generation fleet.device → single.current = some (index, way))
  current : ∀ index way, single.current = some (index, way) →
    ∃ motion, fleet.motions[index]? = some (some motion) ∧
      rig.Carries generation fits (generation fleet.device) way motion

end

namespace Rig.Turns

variable {D S M C : Type} {rig : Rig D S M C} {gear : Gear S C} {generation : D → Nat} {fits : D → Prop}

-- A new generation supersedes every motion that is left.
theorem superseded {fleet : Fleet D S M} {single : Single S} (reads : fleet.Reads rig generation fits single)
    (index : Nat) (motion : M) (present : fleet.motions[index]? = some (some motion)) (later : Nat)
    (new : later = generation fleet.device + 1) :
    ∃ stamp way, rig.Carries generation fits stamp way motion ∧ stamp ≤ later ∧ stamp ≠ later := by
  obtain ⟨stamp, way, carries, bound, -⟩ := reads.carried index motion present
  exact ⟨stamp, way, carries, by omega, by omega⟩

theorem order_reads (turns : rig.Turns gear generation fits) {fleet : Fleet D S M} {single : Single S}
    (reads : fleet.Reads rig generation fits single) (command : C) :
    (rig.step fleet (.order command)).Reads rig generation fits (gear.step single (.order command)) := by
  cases accepted : gear.order command single.state with
  | none =>
      have refused := turns.refused command fleet.device reads.fit (by rw [reads.state, accepted])
      simp only [Rig.step, Gear.step, refused, accepted, shownAfter, if_true, Option.toList_none, List.map_nil,
        List.append_nil]
      exact reads
  | some outcome =>
      obtain ⟨state, way?⟩ := outcome
      obtain ⟨motion, moved, ordered, same, news, next, stillFits, carries⟩ :=
        turns.given command fleet.device state way? reads.fit (by rw [reads.state, accepted])
      have shown : rig.shownAfter fleet.device moved fleet.shown = single.shown ++ [state] := by
        rw [shownAfter, if_neg news, reads.shown, same]
      have past := superseded reads
      cases carries with
      | none =>
          simp only [Rig.step, Gear.step, ordered, accepted, Option.toList_none, List.map_nil, List.append_nil]
          refine ⟨stillFits, same, shown, reads.begun, ?_, nofun⟩
          intro index motion present
          obtain ⟨stamp, way, carries, bound, gone⟩ := past index motion present _ next
          exact ⟨stamp, way, carries, bound, fun own => absurd own gone⟩
      | @some way motion carries =>
          simp only [Rig.step, Gear.step, ordered, accepted, Option.toList_some, List.map_cons, List.map_nil]
          have last : (fleet.motions ++ [some motion])[single.begun]? = some (some motion) := by
            rw [← reads.begun]
            simp
          refine ⟨stillFits, same, shown, ?_, ?_, ?_⟩
          · rw [List.length_append, reads.begun, List.length_singleton]
          · intro index other present
            by_cases old : index < fleet.motions.length
            · rw [List.getElem?_append_left old] at present
              obtain ⟨stamp, way, carries, bound, gone⟩ := past index other present _ next
              exact ⟨stamp, way, carries, bound, fun own => absurd own gone⟩
            · rw [List.getElem?_append_right (by omega), List.getElem?_singleton] at present
              by_cases newest : index - fleet.motions.length = 0
              case neg =>
                rw [if_neg newest] at present
                cases present
              rw [if_pos newest] at present
              cases present
              refine ⟨_, way, carries, Nat.le_refl _, fun _ => ?_⟩
              have number : single.begun = index := by rw [← reads.begun]; omega
              rw [number]
          · intro index other current
            cases current
            exact ⟨motion, last, carries⟩

theorem stop_reads (turns : rig.Turns gear generation fits) {fleet : Fleet D S M} {single : Single S}
    (reads : fleet.Reads rig generation fits single) :
    (rig.step fleet .stop).Reads rig generation fits (gear.step single .stop) := by
  obtain ⟨next, stillFits, halts⟩ := turns.stopped fleet.device reads.fit
  rw [reads.state] at halts
  have past : ∀ (index : Nat) (motion : M), fleet.motions[index]? = some (some motion) →
      ∃ stamp way, rig.Carries generation fits stamp way motion ∧ stamp ≤ generation (rig.stop fleet.device) ∧
        (stamp = generation (rig.stop fleet.device) → (none : Option (Nat × Way S)) = some (index, way)) := by
    intro index motion present
    obtain ⟨stamp, way, carries, bound, gone⟩ := superseded reads index motion present _ next
    exact ⟨stamp, way, carries, bound, fun own => absurd own gone⟩
  simp only [Rig.step, Gear.step]
  cases halted : gear.stop single.state with
  | none =>
      rw [halted] at halts
      refine ⟨stillFits, halts.1, ?_, reads.begun, past, nofun⟩
      rw [shownAfter, if_pos halts.2, reads.shown]
  | some state =>
      rw [halted] at halts
      refine ⟨stillFits, halts.1, ?_, reads.begun, past, nofun⟩
      rw [shownAfter, if_neg halts.2, reads.shown, halts.1]

theorem tick_reads {fleet : Fleet D S M} {single : Single S} (reads : fleet.Reads rig generation fits single)
    (index : Nat) (elapsed : Duration) :
    (rig.step fleet (.tick index elapsed)).Reads rig generation fits (gear.step single (.tick index elapsed)) := by
  -- Either the tick is one of the motion in progress, or neither device does anything.
  have idle : (∀ way, single.current ≠ some (index, way)) → gear.step single (.tick index elapsed) = single := by
    intro other
    simp only [Gear.step]
    cases current : single.current with
    | none => rfl
    | some motion =>
        obtain ⟨number, way⟩ := motion
        have differs : index ≠ number := by
          rintro rfl
          exact other way current
        simp only [if_neg differs]
  cases present : fleet.motions[index]? with
  | none =>
      have nobody : ∀ way, single.current ≠ some (index, way) := by
        intro way current
        obtain ⟨motion, there, -⟩ := reads.current index way current
        rw [present] at there
        cases there
      rw [idle nobody]
      simp only [Rig.step, present]
      exact reads
  | some entry =>
      cases entry with
      | none =>
          have nobody : ∀ way, single.current ≠ some (index, way) := by
            intro way current
            obtain ⟨motion, there, -⟩ := reads.current index way current
            rw [present] at there
            cases there
          rw [idle nobody]
          simp only [Rig.step, present]
          exact reads
      | some motion =>
          obtain ⟨stamp, way, carries, bound, own⟩ := reads.carried index motion present
          by_cases same : generation fleet.device = stamp
          · have current := own same.symm
            obtain ⟨moved, ticked, state, news, stamped, stillFits⟩ := carries.goes elapsed fleet.device reads.fit same
            rw [reads.state] at ticked state
            have shown : rig.shownAfter fleet.device moved fleet.shown =
                single.shown ++ [(way elapsed single.state).1] := by
              rw [shownAfter, if_neg news, reads.shown, state]
            simp only [Rig.step, Gear.step, present, ticked, current, if_true]
            refine ⟨stillFits, state, shown, ?_, ?_, ?_⟩
            · split
              · rw [List.length_set, reads.begun]
              · exact reads.begun
            · intro other still there
              have before : fleet.motions[other]? = some (some still) ∧
                  ((way elapsed single.state).2 = true → other ≠ index) := by
                cases done : (way elapsed single.state).2 with
                | false =>
                    simp only [done, Bool.false_eq_true, if_false] at there
                    exact ⟨there, nofun⟩
                | true =>
                    simp only [done, if_true, List.getElem?_set] at there
                    by_cases here : index = other
                    · rw [if_pos here] at there
                      split at there <;> cases there
                    · rw [if_neg here] at there
                      exact ⟨there, fun _ => Ne.symm here⟩
              obtain ⟨stampOther, wayOther, carriesOther, boundOther, ownOther⟩ :=
                reads.carried other still before.1
              rw [same, ← stamped] at boundOther ownOther
              refine ⟨stampOther, wayOther, carriesOther, boundOther, fun latest => ?_⟩
              have last := ownOther latest
              rw [current] at last
              cases last
              cases done : (way elapsed single.state).2 with
              | false => rfl
              | true => exact absurd rfl (before.2 done)
            · intro other wayOther left
              cases done : (way elapsed single.state).2 with
              | true =>
                  rw [done] at left
                  cases left
              | false =>
                  rw [done] at left
                  cases left
                  refine ⟨motion, present, ?_⟩
                  rw [stamped]
                  exact carries
          · have nobody : ∀ way, single.current ≠ some (index, way) := by
              intro other current
              obtain ⟨found, there, carriesFound⟩ := reads.current index other current
              rw [present] at there
              cases there
              obtain ⟨moved, ticked, -⟩ := carriesFound.goes elapsed fleet.device reads.fit rfl
              rw [carries.past elapsed fleet.device reads.fit same] at ticked
              cases ticked
            rw [idle nobody]
            simp only [Rig.step, present, carries.past elapsed fleet.device reads.fit same]
            exact reads

theorem step_reads (turns : rig.Turns gear generation fits) {fleet : Fleet D S M} {single : Single S}
    (reads : fleet.Reads rig generation fits single) (occasion : Occasion C) :
    (rig.step fleet occasion).Reads rig generation fits (gear.step single occasion) := by
  cases occasion with
  | order command => exact turns.order_reads reads command
  | stop => exact turns.stop_reads reads
  | tick index elapsed => exact tick_reads reads index elapsed

theorem after_reads (turns : rig.Turns gear generation fits) (device : D) (fit : fits device)
    (history : List (Occasion C)) :
    (rig.after device history).Reads rig generation fits (gear.after (rig.state device) history) := by
  have carried : ∀ (occasions : List (Occasion C)) (fleet : Fleet D S M) (single : Single S),
      fleet.Reads rig generation fits single →
        (occasions.foldl rig.step fleet).Reads rig generation fits (occasions.foldl gear.step single) := by
    intro occasions
    induction occasions with
    | nil => exact fun _ _ reads => reads
    | cons occasion rest ih => exact fun fleet single reads => ih _ _ (turns.step_reads reads occasion)
  exact carried history _ _ ⟨fit, rfl, rfl, rfl, (fun _ _ present => nomatch present), nofun⟩

end Rig.Turns

namespace Gear

variable {S C : Type} (gear : Gear S C)

structure Later (number : Nat) (before : List S) (single other : Single S) : Prop where
  state : single.state = other.state
  current : single.current = other.current.map fun motion => (motion.1 + number, motion.2)
  begun : single.begun = other.begun + number
  shown : single.shown = before ++ other.shown

theorem step_later (number : Nat) (before : List S) (single other : Single S)
    (later : Later number before single other) (occasion : Occasion C) :
    Later number before (gear.step single occasion) ((occasion.since number).toList.foldl gear.step other) := by
  obtain ⟨state, current, begun, shown⟩ := later
  cases occasion with
  | order command =>
      simp only [Occasion.since, Option.toList_some, List.foldl_cons, List.foldl_nil, step, state]
      cases gear.order command other.state with
      | none => exact ⟨state, current, begun, shown⟩
      | some outcome =>
          obtain ⟨next, way?⟩ := outcome
          cases way? with
          | none => exact ⟨rfl, rfl, begun, by simp [shown]⟩
          | some way => exact ⟨rfl, by simp [begun], by simp only [begun]; omega, by simp [shown]⟩
  | stop =>
      simp only [Occasion.since, Option.toList_some, List.foldl_cons, List.foldl_nil, step, state]
      cases gear.stop other.state with
      | none => exact ⟨rfl, rfl, begun, shown⟩
      | some next => exact ⟨rfl, rfl, begun, by simp [shown]⟩
  | tick index elapsed =>
      by_cases old : number ≤ index
      · simp only [Occasion.since, if_pos old, Option.toList_some, List.foldl_cons, List.foldl_nil, step, current]
        cases now : other.current with
        | none => exact ⟨state, current, begun, shown⟩
        | some motion =>
            obtain ⟨own, way⟩ := motion
            simp only [Option.map_some]
            by_cases same : index - number = own
            · rw [if_pos same, if_pos (by omega)]
              rw [state]
              refine ⟨rfl, ?_, begun, by simp [shown]⟩
              cases (way elapsed other.state).2 with
              | true => rfl
              | false => simp
            · rw [if_neg same, if_neg (by omega)]
              exact ⟨state, current, begun, shown⟩
      · simp only [Occasion.since, if_neg old, Option.toList_none, List.foldl_nil, step, current]
        cases now : other.current with
        | none => exact ⟨state, current, begun, shown⟩
        | some motion =>
            simp only [Option.map_some]
            rw [if_neg (by omega)]
            exact ⟨state, current, begun, shown⟩

theorem fold_later (number : Nat) (before : List S) (occasions : List (Occasion C)) (single other : Single S)
    (later : Later number before single other) :
    Later number before (occasions.foldl gear.step single)
      ((occasions.filterMap (Occasion.since number)).foldl gear.step other) := by
  induction occasions generalizing single other with
  | nil => exact later
  | cons occasion rest ih =>
      have next := ih _ _ (gear.step_later number before single other later occasion)
      rw [← List.foldl_append] at next
      rw [List.foldl_cons, List.filterMap_cons]
      cases kept : occasion.since number with
      | none =>
          rw [kept] at next
          exact next
      | some left =>
          rw [kept] at next
          exact next

-- An accepted command forgets the motion in progress, and with it all that was before.
theorem order_later (single : Single S) (command : C) (accepted : (gear.order command single.state).isSome = true) :
    Later single.begun single.shown (gear.step single (.order command))
      (gear.step ⟨single.state, none, 0, []⟩ (.order command)) := by
  simp only [step]
  cases ordered : gear.order command single.state with
  | none =>
      rw [ordered] at accepted
      cases accepted
  | some outcome =>
      obtain ⟨state, way?⟩ := outcome
      cases way? with
      | none => exact ⟨rfl, rfl, by simp, by simp⟩
      | some way => exact ⟨rfl, by simp, by simp only; omega, by simp⟩

theorem rest_after_stop (still : ∀ state stopped, gear.stop state = some stopped → gear.stop stopped = none)
    (single : Single S) (occasions : List (Occasion C)) (quiet : ∀ occasion ∈ occasions, occasion.isOrder = false) :
    occasions.foldl gear.step (gear.step single .stop) = gear.step single .stop := by
  have stopped : (gear.step single .stop).current = none ∧ gear.stop (gear.step single .stop).state = none := by
    simp only [step]
    cases halted : gear.stop single.state with
    | none => exact ⟨rfl, halted⟩
    | some state => exact ⟨rfl, still _ _ halted⟩
  generalize gear.step single .stop = resting at stopped ⊢
  obtain ⟨gone, halted⟩ := stopped
  obtain ⟨state, current, begun, shown⟩ := resting
  cases gone
  induction occasions with
  | nil => rfl
  | cons occasion rest ih =>
      have first : gear.step ⟨state, none, begun, shown⟩ occasion = ⟨state, none, begun, shown⟩ := by
        cases occasion with
        | order command => exact absurd (quiet _ List.mem_cons_self) (by simp [Occasion.isOrder])
        | stop =>
            simp only at halted
            simp only [step, halted]
        | tick index elapsed => rfl
      rw [List.foldl_cons, first]
      exact ih fun other member => quiet other (List.mem_cons_of_mem _ member)

end Gear

theorem Rig.Turns.obeys {D S M C : Type} {rig : Rig D S M C} {gear : Gear S C} {generation : D → Nat}
    {fits : D → Prop} (turns : rig.Turns gear generation fits) (device : D) (fit : fits device) :
    rig.Obeys gear device where
  shows history := (turns.after_reads device fit history).shown
  forgets history command later accepted := by
    have before := turns.after_reads device fit history
    have whole := turns.after_reads device fit (history ++ .order command :: later)
    rw [before.state] at accepted
    have since := gear.fold_later _ _ later _ _ (gear.order_later _ command accepted)
    rw [whole.shown, before.shown, before.state, before.begun]
    simp only [Gear.after, List.foldl_append, List.foldl_cons] at since ⊢
    exact since.shown
  rests history later quiet := by
    have stopped := turns.after_reads device fit (history ++ [.stop])
    have whole := turns.after_reads device fit (history ++ .stop :: later)
    have same : gear.after (rig.state device) (history ++ .stop :: later) =
        gear.after (rig.state device) (history ++ [.stop]) := by
      simp only [Gear.after, List.foldl_append, List.foldl_cons, List.foldl_nil]
      exact gear.rest_after_stop turns.still _ later quiet
    rw [whole.shown, stopped.shown, whole.state, stopped.state, same]
    exact ⟨rfl, rfl⟩

end Workcell
