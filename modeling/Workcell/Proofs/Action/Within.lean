import Workcell.Action.Table

/-!
Work on a cell, taken apart: what holds of all that it does to a cell, and of all the faults that it ends in.
-/

set_option autoImplicit false

namespace Workcell

variable {R : Type}

namespace Act

variable {A B : Type}

theorem bind_apply (act : Act R A) (next : A → Act R B) (cell : Cell R) :
    (act >>= next) cell = match act cell with
      | (.ok a, after) => next a after
      | (.error failure, after) => (.error failure, after) := by
  rcases result : act cell with ⟨outcome, after⟩
  cases outcome with
  | ok a => simp [bind, ExceptT.bind, ExceptT.mk, ExceptT.bindCont, StateT.bind, result]
  | error failure =>
      simp only [bind, ExceptT.bind, ExceptT.mk, ExceptT.bindCont, StateT.bind, result]
      rfl

theorem bind_ok (act : Act R A) (next : A → Act R B) (cell after : Cell R) (b : B)
    (yields : (act >>= next) cell = (.ok b, after)) :
    ∃ a between, act cell = (.ok a, between) ∧ next a between = (.ok b, after) := by
  rw [bind_apply] at yields
  rcases result : act cell with ⟨outcome, between⟩
  rw [result] at yields
  cases outcome with
  | ok a => exact ⟨a, between, rfl, yields⟩
  | error failure => cases yields

theorem get_bind_apply (next : Cell R → Act R A) (cell : Cell R) : ((get : Act R (Cell R)) >>= next) cell = next cell cell :=
  bind_apply get next cell

def Within (rel : Cell R → Cell R → Prop) (act : Act R A) : Prop := ∀ cell, rel cell (act cell).2

def Fails (fine : Failure → Prop) (act : Act R A) : Prop :=
  ∀ cell failure, (act cell).1 = .error failure → fine failure

variable {rel : Cell R → Cell R → Prop} {fine : Failure → Prop}

theorem within_bind (trans : ∀ a b c, rel a b → rel b c → rel a c) (act : Act R A) (next : A → Act R B)
    (first : Within rel act) (second : ∀ a, Within rel (next a)) : Within rel (act >>= next) := by
  intro cell
  have before := first cell
  rw [bind_apply]
  rcases result : act cell with ⟨outcome, after⟩
  rw [result] at before
  cases outcome with
  | ok a => exact trans _ _ _ before (second a after)
  | error failure => exact before

theorem within_pure (refl : ∀ cell, rel cell cell) (a : A) : Within rel (pure a : Act R A) := fun cell => refl cell

theorem within_get (refl : ∀ cell, rel cell cell) : Within rel (get : Act R (Cell R)) := fun cell => refl cell

theorem within_fail (refl : ∀ cell, rel cell cell) (fault : Fault) : Within rel (fail fault : Act R A) :=
  fun cell => refl cell

theorem within_of_except (refl : ∀ cell, rel cell cell) (result : Except Fault A) :
    Within rel (ofExcept result : Act R A) := by
  cases result with
  | ok a => exact within_pure refl a
  | error fault => exact within_fail refl fault

-- Stated with the change applied, so that a defined change matches without being unfolded.
theorem within_change (f : Cell R → A × Cell R) (changes : ∀ cell, rel cell (f cell).2) :
    Within rel (change fun cell => f cell) :=
  changes

theorem within_tell (f : Cell R → Cell R) (changes : ∀ cell, rel cell (f cell)) : Within rel (tell f) := changes

theorem within_each {S D : Type} (refl : ∀ cell, rel cell cell) (trans : ∀ a b c, rel a b → rel b c → rel a c)
    (records : List S) (work : S → Act R D) (each : ∀ record, Within rel (work record)) :
    Within rel (forIn records PUnit.unit fun record _ => do
      let _ ← work record
      pure (ForInStep.yield PUnit.unit) : Act R PUnit) := by
  induction records with
  | nil => exact within_pure refl _
  | cons record rest ih =>
      rw [List.forIn_cons]
      refine within_bind trans _ _ ?_ fun step => ?_
      · exact within_bind trans _ _ (each record) fun _ => within_pure refl _
      · cases step with
        | done result => exact within_pure refl _
        | yield result => exact ih

theorem fails_bind (act : Act R A) (next : A → Act R B) (first : Fails fine act)
    (second : ∀ a, Fails fine (next a)) : Fails fine (act >>= next) := by
  intro cell failure failed
  rw [bind_apply] at failed
  rcases result : act cell with ⟨outcome, after⟩
  rw [result] at failed
  cases outcome with
  | ok a => exact second a after failure failed
  | error reason =>
      cases failed
      exact first cell failure (by rw [result])

theorem fails_pure (a : A) : Fails fine (pure a : Act R A) := fun _ _ failed => nomatch failed

theorem fails_get : Fails fine (get : Act R (Cell R)) := fun _ _ failed => nomatch failed

theorem fails_fail (fault : Fault) (isFine : fine (.fault fault)) : Fails fine (fail fault : Act R A) := by
  intro cell other failed
  cases failed
  exact isFine

theorem fails_panic (message : String) (isFine : fine (.panic (some message))) :
    Fails fine (panic message : Act R A) := by
  intro cell other failed
  cases failed
  exact isFine

theorem fails_of_except (result : Except Fault A) (isFine : ∀ fault, result = .error fault → fine (.fault fault)) :
    Fails fine (ofExcept result : Act R A) := by
  cases result with
  | ok a => exact fails_pure a
  | error fault => exact fails_fail fault (isFine fault rfl)

theorem fails_change (f : Cell R → A × Cell R) : Fails fine (change f) := fun _ _ failed => nomatch failed

theorem fails_tell (f : Cell R → Cell R) : Fails fine (tell f) := fun _ _ failed => nomatch failed

theorem Fails.mono {wide : Failure → Prop} {act : Act R A} (fails : Fails fine act)
    (wider : ∀ failure, fine failure → wide failure) : Fails wide act :=
  fun cell failure failed => wider failure (fails cell failure failed)

end Act

namespace HandlerTable

theorem mem_of_lookup {K V : Type} [BEq K] [LawfulBEq K] (key : K) (value : V) (entries : List (K × V))
    (found : entries.lookup key = some value) : (key, value) ∈ entries := by
  induction entries with
  | nil => cases found
  | cons entry rest ih =>
      obtain ⟨other, held⟩ := entry
      rw [List.lookup_cons] at found
      by_cases same : key = other
      · subst other
        simp only [beq_self_eq_true] at found
        cases found
        simp
      · have differs : (key == other) = false := by simpa using same
        rw [differs] at found
        exact List.mem_cons_of_mem _ (ih found)

theorem resolve_fault (table : HandlerTable R) (cell : Cell R) (call : Call R) (fault : Fault)
    (refused : table.resolve cell call = .error fault) :
    fault = .deviceNotFound call.device ∨ fault = .unsupported call.operation call.device := by
  unfold resolve at refused
  cases target : target? cell call.device with
  | error reason =>
      rw [target] at refused
      cases refused
      unfold target? at target
      split at target
      · cases target
      · split at target
        · cases target
        · cases target
          exact Or.inl rfl
  | ok port =>
      rw [target] at refused
      simp only [bind, Except.bind] at refused
      cases found : table.find? ⟨call.operation, port⟩ with
      | none =>
          rw [found] at refused
          cases refused
          exact Or.inr rfl
      | some handler =>
          rw [found] at refused
          cases refused

variable [Scalar R]

-- A handler that the standard table has for a call is one of its sort for the operation of the call.
theorem standard_handler (cell : Cell R) (call : Call R) (handler : Handler R)
    (resolved : standard.resolve cell call = .ok handler) :
    (call.operation, handler) ∈ motions ∨ (call.operation, handler) ∈ switchings ∨
      (call.operation, handler) ∈ services := by
  unfold resolve at resolved
  cases target : target? cell call.device with
  | error fault =>
      rw [target] at resolved
      cases resolved
  | ok port =>
      rw [target] at resolved
      simp only [bind, Except.bind] at resolved
      cases found : (standard (R := R)).find? ⟨call.operation, port⟩ with
      | none =>
          rw [found] at resolved
          cases resolved
      | some other =>
          rw [found] at resolved
          cases resolved
          have member := mem_of_lookup _ _ _ found
          have sorted : ∀ sort handlers, (⟨call.operation, port⟩, handler) ∈ on sort handlers →
              (call.operation, handler) ∈ handlers := by
            intro sort handlers inside
            obtain ⟨entry, present, same⟩ := List.mem_map.mp inside
            obtain ⟨operation, work⟩ := entry
            cases same
            exact present
          simp only [standard, List.mem_append] at member
          rcases member with ((motion | cylinder) | vacuum) | service
          · exact Or.inl (sorted _ _ motion)
          · exact Or.inr (Or.inl (sorted _ _ cylinder))
          · exact Or.inr (Or.inl (sorted _ _ vacuum))
          · exact Or.inr (Or.inr (sorted _ _ service))

end HandlerTable

end Workcell
