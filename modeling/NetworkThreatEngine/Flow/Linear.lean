import NetworkThreatEngine.Flow.Heard

/-!
# Concurrent updates in sequence

A call of `update` has one section or two, and other calls and the reaper come in between. Its effect and its
result are still those of a call that nobody interrupts, made where the call ends: the table and the results of
any interleaving are those of a sequential program.
-/
namespace Nte
open Transition

namespace FlowTracker

/-- What the calls of a sequential program return, null left out. -/
def returnsOf (t : FlowTracker) : List Step → List Nat
  | [] => []
  | .update call :: rest =>
      (t.update call.info call.now call.created).1.toList ++ returnsOf (t.step (.update call)) rest
  | .evict now :: rest => returnsOf (t.step (.evict now)) rest

theorem returnsOf_append (t : FlowTracker) (steps more : List Step) :
    t.returnsOf (steps ++ more) = t.returnsOf steps ++ (steps.foldl step t).returnsOf more := by
  induction steps generalizing t with
  | nil => rfl
  | cons s steps ih =>
      cases s with
      | update call =>
          rw [List.cons_append, returnsOf, returnsOf, ih, List.append_assoc]
          rfl
      | evict now => exact ih _

/-- The packet of a call, with its reading of the clock on entry. -/
def calledWith : Step → Option (PacketInfo × TimePoint)
  | .update call => some (call.info, call.now)
  | .evict _ => none

end FlowTracker

namespace SharedTable
open FlowTracker

/-- The call that a step ends, or the eviction that it is. A call that finds its key reads the clock once. -/
def ends (s : SharedTable) : TableStep → List Step
  | .read info now =>
      match keyed info with
      | none => [.update ⟨info, now, now⟩]
      | some (key, _) => if (s.tracker.table.lookup key).isSome then [.update ⟨info, now, now⟩] else []
  | .write caller created =>
      match s.waiting[caller]? with
      | some call => [.update ⟨call.info, call.now, created⟩]
      | none => []
  | .evict now => [.evict now]

/-- The calls in the order in which they end, and the evictions between them. -/
def sequential (s : SharedTable) : List TableStep → List Step
  | [] => []
  | a :: as => s.ends a ++ ((s.next a).map (sequential · as)).getD []

/-- A call that begins. -/
def issued : TableStep → Option (PacketInfo × TimePoint)
  | .read info now => some (info, now)
  | _ => none

/-- The calls that have begun and not ended. -/
def pending (s : SharedTable) : List (PacketInfo × TimePoint) := s.waiting.map fun call => (call.info, call.now)

/-- A call that waits has the key and the direction of its packet. -/
def WaitsKeyed (s : SharedTable) : Prop := ∀ call ∈ s.waiting, keyed call.info = some (call.key, call.direction)

/-- From one state to the other the tracker has made these steps, one after the other. -/
structure Performs (s s' : SharedTable) (began : List (PacketInfo × TimePoint)) (steps : List Step) : Prop where
  tracker : s'.tracker = steps.foldl FlowTracker.step s.tracker
  returned : s'.returned = s.returned ++ s.tracker.returnsOf steps
  calls : (s.pending ++ began).Perm (steps.filterMap calledWith ++ s'.pending)
  keyed : s'.WaitsKeyed

theorem Performs.trans {s s' s'' : SharedTable} {began more : List (PacketInfo × TimePoint)} {steps later : List Step}
    (h : Performs s s' began steps) (h' : Performs s' s'' more later) :
    Performs s s'' (began ++ more) (steps ++ later) where
  tracker := by
    rw [h'.tracker, h.tracker, List.foldl_append]
  returned := by
    rw [h'.returned, h.returned, h.tracker, returnsOf_append, List.append_assoc]
  calls := by
    have first := h.calls.append_right more
    rw [List.append_assoc, List.append_assoc] at first
    rw [List.filterMap_append, List.append_assoc]
    exact first.trans (h'.calls.append_left _)
  keyed := h'.keyed

/-- A call ends in a state, with the result and the effect it has when nobody interrupts it. -/
theorem performs_call {s : SharedTable} (waiting : List WaitingCall) {began : List (PacketInfo × TimePoint)}
    (call : UpdateCall) (left : ∀ c ∈ waiting, FlowTracker.keyed c.info = some (c.key, c.direction))
    (calls : (s.pending ++ began).Perm ((call.info, call.now) :: waiting.map fun c : WaitingCall => (c.info, c.now))) :
    Performs s ({ s with waiting }.finish (s.tracker.update call.info call.now call.created)) began
      [.update call] := by
  have returns : s.tracker.returnsOf [.update call] =
      (s.tracker.update call.info call.now call.created).1.toList := List.append_nil _
  have effect : (s.tracker.update call.info call.now call.created).2 = s.tracker.step (.update call) := rfl
  generalize s.tracker.update call.info call.now call.created = outcome at returns effect ⊢
  obtain ⟨result, tracker⟩ := outcome
  cases result with
  | none => exact ⟨effect, by rw [returns]; exact (List.append_nil _).symm, calls, left⟩
  | some id => exact ⟨effect, by rw [returns]; rfl, calls, left⟩

theorem next_performs {s s' : SharedTable} {a : TableStep} (waits : s.WaitsKeyed) (h : s.next a = some s') :
    Performs s s' (issued a).toList (s.ends a) := by
  cases a with
  | read info now =>
      obtain rfl : s.read info now = s' := Option.some.inj h
      have arrives : (s.pending ++ [(info, now)]).Perm ((info, now) :: s.pending) := List.perm_append_singleton _ _
      cases packet : FlowTracker.keyed info with
      | none =>
          have performs := performs_call (s := s) s.waiting ⟨info, now, now⟩ waits arrives
          rw [s.tracker.update_of_unkeyed packet] at performs
          rw [s.read_of_unkeyed now packet, ends, packet]
          exact performs
      | some both =>
          obtain ⟨key, direction⟩ := both
          cases found : s.tracker.table.lookup key with
          | some node =>
              have performs := performs_call (s := s) s.waiting ⟨info, now, now⟩ waits arrives
              rw [s.tracker.update_of_keyed packet, updateKey, found] at performs
              rw [s.read_of_known now packet found, ends, packet]
              dsimp only
              rw [found]
              exact performs
          | none =>
              rw [s.read_of_new now packet found, ends, packet]
              dsimp only
              rw [found]
              refine ⟨rfl, (List.append_nil _).symm, ?_, ?_⟩
              · simp [pending, issued]
              · intro call mem
                rcases List.mem_append.mp mem with old | new
                · exact waits call old
                · rw [List.mem_singleton.mp new]
                  exact packet
  | write caller created =>
      obtain ⟨call, here, rfl⟩ := Option.map_eq_some_iff.mp h
      obtain ⟨bound, rfl⟩ := List.getElem?_eq_some_iff.mp here
      have left : ∀ c ∈ s.waiting.eraseIdx caller, FlowTracker.keyed c.info = some (c.key, c.direction) :=
        fun c mem => waits c (List.mem_of_mem_eraseIdx mem)
      have calls : (s.pending ++ []).Perm ((s.waiting[caller].info, s.waiting[caller].now) ::
          (s.waiting.eraseIdx caller).map fun c : WaitingCall => (c.info, c.now)) := by
        rw [List.append_nil]
        exact ((List.getElem_cons_eraseIdx_perm bound).map fun c : WaitingCall => (c.info, c.now)).symm
      have performs := performs_call (s := s) _ ⟨s.waiting[caller].info, s.waiting[caller].now, created⟩ left calls
      rw [s.tracker.update_of_keyed (waits _ (List.getElem_mem bound)), updateKey_eq_exclusive] at performs
      rw [ends, here]
      exact performs
  | evict now =>
      obtain rfl : { s with tracker := s.tracker.evictExpiredFlows now } = s' := Option.some.inj h
      refine ⟨rfl, (List.append_nil _).symm, ?_, waits⟩
      change (s.pending ++ []).Perm s.pending
      rw [List.append_nil]

variable {cfg : Config}

theorem run_performs {s s' : SharedTable} {as : List TableStep} (waits : s.WaitsKeyed)
    (hrun : (machine cfg).run s as = some s') : Performs s s' (as.filterMap issued) (s.sequential as) := by
  induction as generalizing s with
  | nil =>
      cases hrun
      exact ⟨rfl, (List.append_nil _).symm, by rw [List.filterMap_nil, List.append_nil]; exact List.Perm.refl _, waits⟩
  | cons a as ih =>
      obtain ⟨s₁, hnext, hrest⟩ := (Machine.run_cons _).mp hrun
      have first := next_performs waits hnext
      have rest := ih first.keyed hrest
      have next : s.next a = some s₁ := hnext
      rw [sequential, next, List.filterMap_cons]
      have whole := first.trans rest
      cases call : issued a <;> rw [call] at whole <;> exact whole

/-- Steps that come later are put behind. -/
theorem sequential_append {s s' : SharedTable} {as : List TableStep} (bs : List TableStep)
    (hrun : (machine cfg).run s as = some s') : s.sequential (as ++ bs) = s.sequential as ++ s'.sequential bs := by
  induction as generalizing s with
  | nil =>
      cases hrun
      rfl
  | cons a as ih =>
      obtain ⟨s₁, hnext, hrest⟩ := (Machine.run_cons _).mp hrun
      have next : s.next a = some s₁ := hnext
      rw [List.cons_append, sequential, sequential, next, List.append_assoc]
      exact congrArg (s.ends a ++ ·) (ih hrest)

/-- The run is a sequential one: its table and its results are those of the calls it has ended, each call is made once,
and a call that begins after another one has ended comes behind it. -/
structure Linearized (cfg : Config) (as : List TableStep) (s : SharedTable) (steps : List Step) : Prop where
  tracker : s.tracker = steps.foldl FlowTracker.step (.ofConfig cfg)
  returned : s.returned = (FlowTracker.ofConfig cfg).returnsOf steps
  calls : (as.filterMap issued).Perm (steps.filterMap calledWith ++ s.pending)
  order : ∀ bs, (start cfg).sequential (as ++ bs) = steps ++ s.sequential bs

theorem updates_linearizable (cfg : Config) (as : List TableStep) (s : SharedTable)
    (hrun : (machine cfg).run (machine cfg).start as = some s) :
    Linearized cfg as s ((start cfg).sequential as) := by
  have performs := run_performs (s := start cfg) (by intro call mem; cases mem) hrun
  exact ⟨performs.tracker, performs.returned, performs.calls, fun bs => sequential_append bs hrun⟩

/-- Two callers miss the same key; the second of them finds the other's record, which the reaper leaves alone. -/
theorem updates_linearizable_race :
    ∃ s, (machine {}).run (machine {}).start raceSteps = some s ∧ s.returned = [0, 0] ∧
      Linearized {} raceSteps s ((start {}).sequential raceSteps) := by
  have ends : ((machine {}).run (machine {}).start raceSteps).map (·.returned) = some [0, 0] := by decide +kernel
  obtain ⟨s, hrun, returned⟩ := Option.map_eq_some_iff.mp ends
  exact ⟨s, hrun, returned, updates_linearizable {} raceSteps s hrun⟩

end SharedTable

end Nte
