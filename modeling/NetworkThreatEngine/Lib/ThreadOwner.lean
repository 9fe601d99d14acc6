import NetworkThreatEngine.Lib.Transition

/-!
# Owners of thread objects

A program that starts, joins and destroys `std::thread` objects, beside the threads it started and
outside code. Destroying or assigning over a joinable object terminates the process. `check` executes
the program symbolically along all its paths; a program it accepts never terminates the process.
-/
set_option linter.unusedSectionVars false

namespace ThreadOwner
open Transition

/-- A step of a started thread. -/
inductive Act (F : Type) where
  | await (ready : (F → Bool) → Bool)
  | store (f : F) (b : Bool)

/-- A thread object, with what its thread has still to do. -/
inductive Thread (F : Type) where
  | empty
  | running (rest : List (Act F))
  | returned

def Thread.joinable {F : Type} : Thread F → Bool
  | empty => false
  | running _ => true
  | returned => true

/-- The owner's commands. `attempt` is a call that may throw; `whenSet` and `unlessSet` are the two ways
a function returns early on a flag. -/
inductive Cmd (F T : Type) where
  | attempt
  | store (f : F) (b : Bool)
  | whenSet (f : F) (body : List (Cmd F T))
  | unlessSet (f : F) (body : List (Cmd F T))
  | spawn (t : T)
  | join (t : T)
  | joinIfJoinable (t : T)
  | destroy (t : T)
  | endTry

/-- The owner's code starts inside a `try`; an exception continues with `handler`, which begins with
the unwinding. `shared f b` says that somebody else may store `b` to `f`. -/
structure Program (F T : Type) where
  code : List (Cmd F T)
  handler : List (Cmd F T)
  body : T → List (Act F)
  outside : (F → Bool) → F → Bool → Bool
  shared : F → Bool → Bool
  body_shared : ∀ t f b, .store f b ∈ body t → shared f b = true
  outside_shared : ∀ flags f b, outside flags f b = true → shared f b = true

structure State (F T : Type) where
  flags : F → Bool
  threads : T → Thread F
  code : List (Cmd F T)
  handler : Option (List (Cmd F T))
  terminated : Bool := false

inductive Label (F T : Type) where
  | owner
  | throw
  | thread (t : T)
  | outside (f : F) (b : Bool)

variable {F T : Type} [DecidableEq F] [DecidableEq T]

namespace State
variable (s : State F T)

def set (f : F) (b : Bool) : State F T := { s with flags := Function.update s.flags f b }

def put (t : T) (th : Thread F) : State F T := { s with threads := Function.update s.threads t th }

def goto (code : List (Cmd F T)) : State F T := { s with code }

def terminate : State F T := { s with terminated := true }

/-- An exception that nothing catches terminates, too. -/
def raise : State F T :=
  match s.handler with
  | some code => { s with code, handler := none }
  | none => s.terminate

/-- A join returns when the thread has. -/
def joined (t : T) (whenEmpty : State F T) (rest : List (Cmd F T)) : Option (State F T) :=
  match s.threads t with
  | .empty => some whenEmpty
  | .running _ => none
  | .returned => some ((s.put t .empty).goto rest)

def execute (p : Program F T) (rest : List (Cmd F T)) : Cmd F T → Option (State F T)
  | .attempt => some (s.goto rest)
  | .store f b => some ((s.set f b).goto rest)
  | .whenSet f body => some (s.goto (if s.flags f then body ++ rest else rest))
  | .unlessSet f body => some (s.goto (if s.flags f then rest else body ++ rest))
  | .spawn t =>
      some (if (s.threads t).joinable then s.terminate else (s.put t (.running (p.body t))).goto rest)
  | .join t => s.joined t s.raise rest
  | .joinIfJoinable t => s.joined t (s.goto rest) rest
  | .destroy t => some (if (s.threads t).joinable then s.terminate else s.goto rest)
  | .endTry => some { s with code := rest, handler := none }

def next (p : Program F T) : Label F T → Option (State F T)
  | .owner =>
      match s.code with
      | cmd :: rest => s.execute p rest cmd
      | [] => none
  | .throw =>
      match s.code with
      | .attempt :: _ => some s.raise
      | .spawn _ :: _ => some s.raise
      | _ => none
  | .thread t =>
      match s.threads t with
      | .running [] => some (s.put t .returned)
      | .running (.await ready :: rest) => if ready s.flags then some (s.put t (.running rest)) else none
      | .running (.store f b :: rest) => some ((s.put t (.running rest)).set f b)
      | _ => none
  | .outside f b => if p.outside s.flags f b then some (s.set f b) else none

end State

def Program.machine (p : Program F T) : Machine (State F T) (Label F T) where
  start := { flags := fun _ => false, threads := fun _ => .empty, code := p.code, handler := some p.handler }
  next := fun s a => if s.terminated then none else s.next p a

/-! ## What is taken for granted -/

/-- Two things the program does not ensure by itself: an exception leaves `unwound`, the thread object
that unwinding destroys, without a thread to join, and where the owner tests `flag`, which the thread
`worker` clears by itself, that thread is joined already or has not cleared it. -/
structure Trust (F T : Type) where
  unwound : T
  flag : F
  worker : T

def Trust.Holds (c : Trust F T) (s : State F T) : Label F T → Prop
  | .throw => (s.threads c.unwound).joinable = false
  | .owner =>
      match s.code with
      | .whenSet f _ :: _ => f = c.flag → s.flags f = true ∨ (s.threads c.worker).joinable = false
      | _ => True
  | _ => True

instance (c : Trust F T) (s : State F T) : (a : Label F T) → Decidable (c.Holds s a)
  | .throw => inferInstanceAs (Decidable ((s.threads c.unwound).joinable = false))
  | .owner =>
      match h : s.code with
      | .whenSet f _ :: _ =>
          decidable_of_iff (f = c.flag → s.flags f = true ∨ (s.threads c.worker).joinable = false)
            (by simp [Trust.Holds, h])
      | [] | .attempt :: _ | .store .. :: _ | .unlessSet .. :: _ | .spawn _ :: _ | .join _ :: _
      | .joinIfJoinable _ :: _ | .destroy _ :: _ | .endTry :: _ => isTrue (by simp [Trust.Holds, h])
  | .thread _ => isTrue trivial
  | .outside .. => isTrue trivial

/-! ## Symbolic execution -/

/-- What is known at a point of the code: the values of some flags, which nobody else can change, and
objects that are surely not joinable. -/
structure Known (F T : Type) where
  flags : F → Option Bool
  idle : T → Bool

namespace Known
variable (k : Known F T)

/-- The value `b` of a flag, where nobody else stores the other one. -/
def stable (p : Program F T) (f : F) (b : Bool) : Option Bool := if p.shared f (!b) then none else some b

/-- All flags are down and no thread has been started. -/
def start (p : Program F T) : Known F T where
  flags := fun f => stable p f false
  idle := fun _ => true

def store (p : Program F T) (f : F) (b : Bool) : Known F T :=
  { k with flags := Function.update k.flags f (stable p f b) }

def put (t : T) (idle : Bool) : Known F T := { k with idle := Function.update k.idle t idle }

/-- Where a test of the flag failed. -/
def unset (p : Program F T) (c : Trust F T) (f : F) : Known F T :=
  if f = c.flag then (k.store p f false).put c.worker true else k.store p f false

end Known

/-- All paths from a point of the code, with `fuel` for the longest: no joinable object is destroyed
or assigned over, nothing is thrown outside the `try`, and at the end no object of `ts` is joinable and
the flags `fs` are down. -/
def check (p : Program F T) (c : Trust F T) (ts : List T) (fs : List F) :
    Nat → Known F T → Option (List (Cmd F T)) → List (Cmd F T) → Bool
  | 0, _, _, _ => false
  | _ + 1, k, _, [] => ts.all k.idle && fs.all fun f => k.flags f == some false
  | fuel + 1, k, handler, cmd :: rest =>
      let caught (k : Known F T) : Bool :=
        match handler with
        | some code => check p c ts fs fuel k none code
        | none => false
      match cmd with
      | .attempt => caught (k.put c.unwound true) && check p c ts fs fuel k handler rest
      | .store f b => check p c ts fs fuel (k.store p f b) handler rest
      | .whenSet f body =>
          (k.flags f == some false || check p c ts fs fuel k handler (body ++ rest)) &&
            (k.flags f == some true || check p c ts fs fuel (k.unset p c f) handler rest)
      | .unlessSet f body =>
          (k.flags f == some true || check p c ts fs fuel k handler (body ++ rest)) &&
            (k.flags f == some false || check p c ts fs fuel k handler rest)
      | .spawn t =>
          k.idle t && caught (k.put c.unwound true) && check p c ts fs fuel (k.put t false) handler rest
      | .join t => caught (k.put t true) && check p c ts fs fuel (k.put t true) handler rest
      | .joinIfJoinable t => check p c ts fs fuel (k.put t true) handler rest
      | .destroy t => k.idle t && check p c ts fs fuel k handler rest
      | .endTry => check p c ts fs fuel k none rest

/-! ## Soundness -/

/-- What is known is true, and nobody else makes it false. -/
structure Known.Holds (k : Known F T) (p : Program F T) (s : State F T) : Prop where
  flags : ∀ f b, k.flags f = some b → p.shared f (!b) = false ∧ s.flags f = b
  idle : ∀ t, k.idle t = true → (s.threads t).joinable = false

theorem Known.stable_eq {p : Program F T} {f : F} {b v : Bool} (h : Known.stable p f b = some v) :
    p.shared f (!v) = false ∧ b = v := by
  unfold Known.stable at h
  split at h
  · cases h
  · rename_i own
    cases h
    exact ⟨Bool.eq_false_iff.mpr own, rfl⟩

namespace Known.Holds
variable {k : Known F T} {p : Program F T} {s : State F T}

theorem start (p : Program F T) : (Known.start p).Holds p p.machine.start where
  flags := fun _ _ => Known.stable_eq
  idle := fun _ _ => rfl

theorem store (h : k.Holds p s) (f : F) (b : Bool) : (k.store p f b).Holds p (s.set f b) where
  flags := by
    intro g v hg
    by_cases same : g = f
    · subst same
      simp only [Known.store, State.set, Function.update_self] at hg ⊢
      exact Known.stable_eq hg
    · simp only [Known.store, State.set, Function.update_of_ne same] at hg ⊢
      exact h.flags g v hg
  idle := h.idle

/-- A store by somebody else does not touch what is known. -/
theorem shared (h : k.Holds p s) {f : F} {b : Bool} (hf : p.shared f b = true) : k.Holds p (s.set f b) where
  flags := by
    intro g v hg
    obtain ⟨own, value⟩ := h.flags g v hg
    refine ⟨own, ?_⟩
    by_cases same : g = f
    · subst same
      have agree : b = v := by
        by_contra differ
        rw [← Bool.eq_not.mpr differ, hf] at own
        cases own
      simpa [State.set] using agree
    · exact (Function.update_of_ne same _ _).trans value
  idle := h.idle

/-- The object is not joinable: now that is known. -/
theorem learn (h : k.Holds p s) {t : T} (ht : (s.threads t).joinable = false) : (k.put t true).Holds p s where
  flags := h.flags
  idle := by
    intro u hu
    by_cases same : u = t
    · subst same
      exact ht
    · simp only [Known.put, Function.update_of_ne same] at hu
      exact h.idle u hu

theorem put (h : k.Holds p s) (t : T) {idle : Bool} {th : Thread F} (hidle : idle = true → th.joinable = false) :
    (k.put t idle).Holds p (s.put t th) where
  flags := h.flags
  idle := by
    intro u hu
    by_cases same : u = t
    · subst same
      simp only [Known.put, State.put, Function.update_self] at hu ⊢
      exact hidle hu
    · simp only [Known.put, State.put, Function.update_of_ne same] at hu ⊢
      exact h.idle u hu

/-- A step of a thread leaves its object joinable. -/
theorem advance (h : k.Holds p s) {t : T} (busy : (s.threads t).joinable = true) (th : Thread F) :
    k.Holds p (s.put t th) where
  flags := h.flags
  idle := by
    intro u hu
    have free := h.idle u hu
    have other : u ≠ t := by
      rintro rfl
      rw [free] at busy
      cases busy
    simpa [State.put, Function.update_of_ne other] using free

/-- A failed test of the flag a worker clears: by trust the worker has been joined. -/
theorem unset (h : k.Holds p s) {c : Trust F T} {f : F} {body rest : List (Cmd F T)}
    (hcode : s.code = .whenSet f body :: rest) (trusted : c.Holds s .owner) (down : s.flags f = false) :
    (k.unset p c f).Holds p s := by
  have unchanged : s.set f false = s := by
    rw [State.set, ← down, Function.update_eq_self]
  have known : (k.store p f false).Holds p s := by
    have stored := h.store f false
    rwa [unchanged] at stored
  unfold Known.unset
  split
  · rename_i same
    rw [Trust.Holds, hcode] at trusted
    refine known.learn ((trusted same).resolve_left fun up => ?_)
    rw [down] at up
    cases up
  · exact known

end Known.Holds

/-- The stores the thread has still to do are among the shared ones. -/
def Thread.Shared (p : Program F T) (th : Thread F) : Prop :=
  ∀ rest, th = .running rest → ∀ f b, .store f b ∈ rest → p.shared f b = true

/-- The process is alive, and what is known at this point of the code makes all paths from it good. -/
structure Fit (p : Program F T) (c : Trust F T) (ts : List T) (fs : List F) (s : State F T) : Prop where
  alive : s.terminated = false
  bodies : ∀ t, (s.threads t).Shared p
  checked : ∃ fuel k, k.Holds p s ∧ check p c ts fs fuel k s.handler s.code = true

section Soundness
variable {p : Program F T} {c : Trust F T} {ts : List T} {fs : List F} {s s' : State F T}

theorem shared_put (h : ∀ t, (s.threads t).Shared p) (t : T) {th : Thread F} (hth : th.Shared p) :
    ∀ u, ((s.put t th).threads u).Shared p := by
  intro u
  by_cases same : u = t
  · subst same
    simpa [State.put] using hth
  · simpa [State.put, Function.update_of_ne same] using h u

/-- An exception is caught by a handler that was checked. -/
theorem fit_raise (alive : s.terminated = false) (bodies : ∀ t, (s.threads t).Shared p) {k : Known F T}
    {fuel : Nat} (hk : k.Holds p s)
    (h : (match s.handler with
      | some code => check p c ts fs fuel k none code
      | none => false) = true) : Fit p c ts fs s.raise := by
  unfold State.raise
  cases hh : s.handler with
  | none =>
      rw [hh] at h
      cases h
  | some code =>
      rw [hh] at h
      exact ⟨alive, bodies, fuel, k, ⟨hk.flags, hk.idle⟩, h⟩

theorem fit_joined (alive : s.terminated = false) (bodies : ∀ t, (s.threads t).Shared p) {k : Known F T}
    {fuel : Nat} {t : T} {rest : List (Cmd F T)} {whenEmpty : State F T} (hk : k.Holds p s)
    (hempty : (k.put t true).Holds p s → Fit p c ts fs whenEmpty)
    (h : check p c ts fs fuel (k.put t true) s.handler rest = true)
    (hnext : s.joined t whenEmpty rest = some s') : Fit p c ts fs s' := by
  unfold State.joined at hnext
  cases hth : s.threads t with
  | empty =>
      simp only [hth, Option.some.injEq] at hnext
      subst hnext
      exact hempty (hk.learn (by rw [hth]; rfl))
  | running rest =>
      simp [hth] at hnext
  | returned =>
      simp only [hth, Option.some.injEq] at hnext
      subst hnext
      refine ⟨alive, shared_put bodies t nofun, fuel, k.put t true, ?_, h⟩
      have joined : (k.put t true).Holds p (s.put t .empty) := hk.put t fun _ => rfl
      exact ⟨joined.flags, joined.idle⟩

theorem execute_fit (fit : Fit p c ts fs s) {cmd : Cmd F T} {rest : List (Cmd F T)} (hcode : s.code = cmd :: rest)
    (trusted : c.Holds s .owner) (hnext : s.execute p rest cmd = some s') : Fit p c ts fs s' := by
  obtain ⟨alive, bodies, fuel, k, hk, hcheck⟩ := fit
  rw [hcode] at hcheck
  cases fuel with
  | zero => cases hcheck
  | succ fuel =>
      cases cmd with
      | attempt =>
          cases hnext
          simp only [check, Bool.and_eq_true] at hcheck
          exact ⟨alive, bodies, fuel, k, ⟨hk.flags, hk.idle⟩, hcheck.2⟩
      | store f b =>
          cases hnext
          have stored := hk.store f b
          exact ⟨alive, bodies, fuel, k.store p f b, ⟨stored.flags, stored.idle⟩, hcheck⟩
      | whenSet f body =>
          cases hnext
          simp only [check, Bool.and_eq_true, Bool.or_eq_true, beq_iff_eq] at hcheck
          obtain ⟨taken, skipped⟩ := hcheck
          cases hf : s.flags f with
          | true =>
              have path := taken.resolve_left fun down => absurd ((hk.flags f _ down).2.symm.trans hf) (by decide)
              exact ⟨alive, bodies, fuel, k, ⟨hk.flags, hk.idle⟩, by simpa [State.goto, hf] using path⟩
          | false =>
              have path := skipped.resolve_left fun up => absurd ((hk.flags f _ up).2.symm.trans hf) (by decide)
              have learned := hk.unset hcode trusted hf
              exact ⟨alive, bodies, fuel, k.unset p c f, ⟨learned.flags, learned.idle⟩,
                by simpa [State.goto, hf] using path⟩
      | unlessSet f body =>
          cases hnext
          simp only [check, Bool.and_eq_true, Bool.or_eq_true, beq_iff_eq] at hcheck
          obtain ⟨taken, skipped⟩ := hcheck
          cases hf : s.flags f with
          | true =>
              have path := skipped.resolve_left fun down => absurd ((hk.flags f _ down).2.symm.trans hf) (by decide)
              exact ⟨alive, bodies, fuel, k, ⟨hk.flags, hk.idle⟩, by simpa [State.goto, hf] using path⟩
          | false =>
              have path := taken.resolve_left fun up => absurd ((hk.flags f _ up).2.symm.trans hf) (by decide)
              exact ⟨alive, bodies, fuel, k, ⟨hk.flags, hk.idle⟩, by simpa [State.goto, hf] using path⟩
      | spawn t =>
          cases hnext
          simp only [check, Bool.and_eq_true] at hcheck
          obtain ⟨⟨free, -⟩, path⟩ := hcheck
          rw [hk.idle t free]
          have started : (k.put t false).Holds p (s.put t (.running (p.body t))) := hk.put t nofun
          refine ⟨alive, shared_put bodies t ?_, fuel, k.put t false, ⟨started.flags, started.idle⟩, path⟩
          rintro rest ⟨⟩
          exact p.body_shared t
      | join t =>
          simp only [check, Bool.and_eq_true] at hcheck
          obtain ⟨caught, path⟩ := hcheck
          exact fit_joined alive bodies hk (fun learned => fit_raise alive bodies learned caught) path hnext
      | joinIfJoinable t =>
          refine fit_joined alive bodies hk (fun learned => ?_) hcheck hnext
          exact ⟨alive, bodies, fuel, k.put t true, ⟨learned.flags, learned.idle⟩, hcheck⟩
      | destroy t =>
          cases hnext
          simp only [check, Bool.and_eq_true] at hcheck
          obtain ⟨free, path⟩ := hcheck
          rw [hk.idle t free]
          exact ⟨alive, bodies, fuel, k, ⟨hk.flags, hk.idle⟩, path⟩
      | endTry =>
          cases hnext
          exact ⟨alive, bodies, fuel, k, ⟨hk.flags, hk.idle⟩, hcheck⟩

theorem throw_fit (fit : Fit p c ts fs s) (trusted : c.Holds s .throw) (hnext : s.next p .throw = some s') :
    Fit p c ts fs s' := by
  obtain ⟨alive, bodies, fuel, k, hk, hcheck⟩ := fit
  rw [State.next] at hnext
  cases fuel with
  | zero => cases hcheck
  | succ fuel =>
      split at hnext
      · rename_i rest hcode
        cases hnext
        rw [hcode] at hcheck
        simp only [check, Bool.and_eq_true] at hcheck
        exact fit_raise alive bodies (hk.learn trusted) hcheck.1
      · rename_i t rest hcode
        cases hnext
        rw [hcode] at hcheck
        simp only [check, Bool.and_eq_true] at hcheck
        exact fit_raise alive bodies (hk.learn trusted) hcheck.1.2
      · cases hnext

theorem thread_fit (fit : Fit p c ts fs s) {t : T} (hnext : s.next p (.thread t) = some s') : Fit p c ts fs s' := by
  obtain ⟨alive, bodies, fuel, k, hk, hcheck⟩ := fit
  rw [State.next] at hnext
  cases hth : s.threads t with
  | empty => simp [hth] at hnext
  | returned => simp [hth] at hnext
  | running acts =>
      have busy : (s.threads t).joinable = true := by
        rw [hth]
        rfl
      have shared := bodies t acts hth
      cases acts with
      | nil =>
          simp only [hth, Option.some.injEq] at hnext
          subst hnext
          have advanced := hk.advance busy .returned
          exact ⟨alive, shared_put bodies t nofun, fuel, k, advanced, hcheck⟩
      | cons act acts =>
          have later : Thread.Shared p (.running acts) := by
            rintro rest ⟨⟩ f b mem
            exact shared f b (List.mem_cons_of_mem act mem)
          have advanced := hk.advance busy (.running acts)
          cases act with
          | await ready =>
              simp only [hth] at hnext
              split at hnext
              · cases hnext
                exact ⟨alive, shared_put bodies t later, fuel, k, advanced, hcheck⟩
              · cases hnext
          | store f b =>
              simp only [hth, Option.some.injEq] at hnext
              subst hnext
              exact ⟨alive, shared_put bodies t later, fuel, k,
                advanced.shared (shared f b List.mem_cons_self), hcheck⟩

theorem next_fit (fit : Fit p c ts fs s) {a : Label F T} (trusted : c.Holds s a)
    (hnext : p.machine.next s a = some s') : Fit p c ts fs s' := by
  simp only [Program.machine, fit.alive, Bool.false_eq_true, if_false] at hnext
  cases a with
  | owner =>
      rw [State.next] at hnext
      split at hnext
      · exact execute_fit fit ‹_› trusted hnext
      · cases hnext
  | throw => exact throw_fit fit trusted hnext
  | thread t => exact thread_fit fit hnext
  | outside f b =>
      obtain ⟨alive, bodies, fuel, k, hk, hcheck⟩ := fit
      rw [State.next] at hnext
      split at hnext
      · rename_i allowed
        cases hnext
        exact ⟨alive, bodies, fuel, k, hk.shared (p.outside_shared _ _ _ allowed), hcheck⟩
      · cases hnext

/-- A program that passes the check terminates the process in no run that may be trusted, and when the
owner's code has ended every object of `ts` has been joined and the flags `fs` are down. -/
theorem check_sound (fuel : Nat) (passed : check p c ts fs fuel (.start p) (some p.handler) p.code = true)
    {as : List (Label F T)} (trusted : p.machine.Guarded c.Holds p.machine.start as)
    (hrun : p.machine.run p.machine.start as = some s) :
    s.terminated = false ∧
      (s.code = [] → (∀ t ∈ ts, (s.threads t).joinable = false) ∧ ∀ f ∈ fs, s.flags f = false) := by
  have start : Fit p c ts fs p.machine.start :=
    ⟨rfl, fun _ => nofun, fuel, .start p, Known.Holds.start p, passed⟩
  obtain ⟨alive, -, fuel, k, hk, hcheck⟩ :=
    p.machine.guarded_run c.Holds (Fit p c ts fs) (fun _ _ _ fit ok h => next_fit fit ok h) start trusted hrun
  refine ⟨alive, fun ended => ?_⟩
  rw [ended] at hcheck
  cases fuel with
  | zero => cases hcheck
  | succ fuel =>
      simp only [check, Bool.and_eq_true, List.all_eq_true, beq_iff_eq] at hcheck
      obtain ⟨idle, down⟩ := hcheck
      exact ⟨fun t mem => hk.idle t (idle t mem), fun f mem => (hk.flags f false (down f mem)).2⟩

end Soundness

end ThreadOwner
