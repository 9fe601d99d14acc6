import Mathlib

/-!
# Rules for stateful programs

A program of the state monad has a result and a state afterwards. Two kinds of facts about it
compose along its binds: a relation between the states before and after, and isolation, that is,
working on the part of the state that belongs to one key.
-/
namespace StateRules
variable {σ α β : Type}

def result (x : StateM σ α) (s : σ) : α := (x.run s).1

def after (x : StateM σ α) (s : σ) : σ := (x.run s).2

/-- Looks at the state and leaves it as it is. -/
def query (f : σ → α) : StateM σ α := modifyGet fun s => (f s, s)

@[simp] theorem result_pure (a : α) (s : σ) : result (pure a) s = a := rfl
@[simp] theorem after_pure (a : α) (s : σ) : after (pure a : StateM σ α) s = s := rfl

@[simp] theorem result_bind (x : StateM σ α) (f : α → StateM σ β) (s : σ) :
    result (x >>= f) s = result (f (result x s)) (after x s) := rfl

@[simp] theorem after_bind (x : StateM σ α) (f : α → StateM σ β) (s : σ) :
    after (x >>= f) s = after (f (result x s)) (after x s) := rfl

@[simp] theorem result_query (f : σ → α) (s : σ) : result (query f) s = f s := rfl
@[simp] theorem after_query (f : σ → α) (s : σ) : after (query f) s = s := rfl
@[simp] theorem after_modify (f : σ → σ) (s : σ) : after (modify f : StateM σ PUnit) s = f s := rfl
@[simp] theorem result_modifyGet (f : σ → α × σ) (s : σ) :
    result (modifyGet f : StateM σ α) s = (f s).1 := rfl
@[simp] theorem after_modifyGet (f : σ → α × σ) (s : σ) :
    after (modifyGet f : StateM σ α) s = (f s).2 := rfl

theorem after_ite {c : Prop} [Decidable c] (x y : StateM σ α) (s : σ) :
    after (if c then x else y) s = if c then after x s else after y s := by
  split <;> rfl

/-- Two early returns and the rest leave the same state. -/
theorem ite_pair (p q : Prop) [Decidable p] [Decidable q] (a b c : α) (s : σ) :
    (if p then (a, s) else if q then (b, s) else (c, s)) = (if p then a else if q then b else c, s) := by
  split
  · rfl
  · split <;> rfl

/-! ## Relations between before and after -/

/-- Wherever the program starts, it ends in a state related to that one. -/
def Keeps (R : σ → σ → Prop) (x : StateM σ α) : Prop := ∀ s, R s (after x s)

section Keeps
variable {R : σ → σ → Prop}

theorem Keeps.pure (refl : ∀ s, R s s) (a : α) : Keeps R (pure a : StateM σ α) := refl

theorem Keeps.bind {x : StateM σ α} {f : α → StateM σ β} (hx : Keeps R x)
    (trans : ∀ {s t u}, R s t → R t u → R s u) (hf : ∀ a, Keeps R (f a)) : Keeps R (x >>= f) :=
  fun s => trans (hx s) (hf (result x s) (after x s))

theorem Keeps.ite {c : Prop} [Decidable c] {x y : StateM σ α} (hx : Keeps R x) (hy : Keeps R y) :
    Keeps R (if c then x else y) := by
  split
  · exact hx
  · exact hy

end Keeps

/-! ## Isolation -/

section Isolation
variable {κ ν ι : Type}

/-- The program leaves every other key's view alone; its result and what it does to its own
key's view depend on that view only. -/
structure Local (view : σ → κ → ν) (k : κ) (x : StateM σ α) : Prop where
  frame : ∀ s j, j ≠ k → view (after x s) j = view s j
  result : ∀ s t, view s k = view t k → result x s = result x t
  effect : ∀ s t, view s k = view t k → view (after x s) k = view (after x t) k

variable {view : σ → κ → ν} {k : κ}

theorem Local.pure (a : α) : Local view k (pure a : StateM σ α) where
  frame := fun _ _ _ => rfl
  result := fun _ _ _ => rfl
  effect := fun _ _ h => h

theorem Local.bind {x : StateM σ α} {f : α → StateM σ β} (hx : Local view k x)
    (hf : ∀ a, Local view k (f a)) : Local view k (x >>= f) where
  frame := by
    intro s j hj
    rw [after_bind, (hf _).frame _ j hj, hx.frame s j hj]
  result := by
    intro s t h
    rw [result_bind, result_bind, hx.result s t h]
    exact (hf _).result _ _ (hx.effect s t h)
  effect := by
    intro s t h
    rw [after_bind, after_bind, hx.result s t h]
    exact (hf _).effect _ _ (hx.effect s t h)

theorem Local.ite {c : Prop} [Decidable c] {x y : StateM σ α} (hx : Local view k x)
    (hy : Local view k y) : Local view k (if c then x else y) := by
  split
  · exact hx
  · exact hy

/-- Reading what the key's view determines. -/
theorem Local.query {f : σ → α} (h : ∀ s t, view s k = view t k → f s = f t) :
    Local view k (query f) where
  frame := fun _ _ _ => rfl
  result := h
  effect := fun _ _ hv => hv

/-- One program for each input, run on a list of inputs. -/
def runAll (prog : ι → StateM σ Unit) (s : σ) (is : List ι) : σ := is.foldl (fun s i => after (prog i) s) s

@[simp] theorem runAll_nil (prog : ι → StateM σ Unit) (s : σ) : runAll prog s [] = s := rfl

@[simp] theorem runAll_cons (prog : ι → StateM σ Unit) (s : σ) (i : ι) (is : List ι) :
    runAll prog s (i :: is) = runAll prog (after (prog i) s) is := rfl

theorem runAll_append (prog : ι → StateM σ Unit) (s : σ) (is js : List ι) :
    runAll prog s (is ++ js) = runAll prog (runAll prog s is) js := List.foldl_append

/-- Where every program is local to its input's key, a key's view is the one that the inputs with
this key alone produce. -/
theorem runAll_isolated [DecidableEq κ] {prog : ι → StateM σ Unit} (key : ι → κ)
    (hlocal : ∀ i, Local view (key i) (prog i)) (k : κ) (is : List ι) {s t : σ}
    (start : view s k = view t k) :
    view (runAll prog s is) k = view (runAll prog t (is.filter fun i => key i = k)) k := by
  induction is generalizing s t with
  | nil => exact start
  | cons i is ih =>
      rw [runAll_cons]
      by_cases hk : key i = k
      · rw [List.filter_cons_of_pos (by simpa using hk), runAll_cons]
        subst hk
        exact ih ((hlocal i).effect s t start)
      · rw [List.filter_cons_of_neg (by simpa using hk)]
        exact ih (((hlocal i).frame s k fun heq => hk heq.symm).trans start)

end Isolation

/-! ## What a run keeps -/

/-- What every program preserves, a run over any inputs preserves. -/
theorem runAll_invariant {ι : Type} {prog : ι → StateM σ Unit} (inv : σ → Prop)
    (step : ∀ i s, inv s → inv (after (prog i) s)) (is : List ι) {s : σ} (start : inv s) :
    inv (runAll prog s is) := by
  induction is generalizing s with
  | nil => exact start
  | cons i is ih => exact ih (step i s start)

end StateRules
