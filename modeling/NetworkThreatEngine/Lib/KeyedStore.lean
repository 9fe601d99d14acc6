import NetworkThreatEngine.Lib.History

/-!
# Stores with an entry for each key

An engine keeps an entry for each key and makes it at the first input with this key. Inputs with other
keys do not touch an entry, so it is what its own inputs make of it. What an engine takes from its entries
from time to time and what it leaves there add up to its inputs.
-/
namespace KeyedStore

structure Engine (κ ι ε ρ : Type) where
  key : ι → κ
  create : ι → ε
  work : ε → ι → ρ × ε

namespace Engine
variable {κ ι ε ρ : Type} (m : Engine κ ι ε ρ)

def ownStep (e : Option ε) (i : ι) : Option ε := some (m.work (e.getD (m.create i)) i).2

/-- What inputs of one key make of its entry. -/
def own (is : List ι) : Option ε := is.foldl m.ownStep none

@[simp] theorem own_nil : m.own [] = none := rfl

theorem own_snoc (is : List ι) (i : ι) :
    m.own (is ++ [i]) = some (m.work ((m.own is).getD (m.create i)) i).2 := List.foldl_concat ..

theorem own_cons (first : ι) (rest : List ι) :
    m.own (first :: rest) = some ((first :: rest).foldl (fun e i => (m.work e i).2) (m.create first)) := by
  induction rest using List.reverseRecOn with
  | nil => rfl
  | append_singleton rest i ih =>
      rw [← List.cons_append, own_snoc, ih, List.foldl_concat]
      rfl

/-- What holds of a new entry and is kept by each input holds of the entry that an input finds. -/
theorem own_invariant (inv : List ι → ε → Prop) (fresh : ∀ i, inv [] (m.create i))
    (kept : ∀ is i e, inv is e → inv (is ++ [i]) (m.work e i).2) (is : List ι) (i : ι) :
    inv is ((m.own is).getD (m.create i)) := by
  induction is using List.reverseRecOn generalizing i with
  | nil => exact fresh i
  | append_singleton is j ih =>
      rw [own_snoc]
      exact kept is j _ (ih j)

/-- The same for what an entry is to the input that finds it. -/
theorem own_found (inv : List ι → ι → ε → Prop) (fresh : ∀ i, inv [] i (m.create i))
    (kept : ∀ is i e, inv is i e → ∀ j, inv (is ++ [i]) j (m.work e i).2) (is : List ι) (i : ι) :
    inv is i ((m.own is).getD (m.create i)) := by
  induction is using List.reverseRecOn generalizing i with
  | nil => exact fresh i
  | append_singleton is j ih =>
      rw [own_snoc]
      exact kept is j _ (ih j) i

variable {m} in
theorem forall_own {p : ε → Prop} {is : List ι} (h : ∀ i, p ((m.own is).getD (m.create i))) :
    ∀ e ∈ m.own is, p e := by
  intro e mem
  cases is with
  | nil => cases mem
  | cons i rest =>
      have found := h i
      rwa [Option.mem_def.mp mem] at found

/-- The engine for inputs that stand for others. -/
def comap {ι' : Type} (f : ι' → ι) : Engine κ ι' ε ρ where
  key i := m.key (f i)
  create i := m.create (f i)
  work e i := m.work e (f i)

theorem own_comap {ι' : Type} (f : ι' → ι) (is : List ι') : (m.comap f).own is = m.own (is.map f) := by
  rw [own, own, List.foldl_map]
  rfl

/-! ## Evaluations -/

section Evaluations
variable {α : Type} (evaluate : ε → ι → Option α)

/-- What inputs of one key take from its entry. -/
def evaluations (is : List ι) : List α :=
  History.outputs m.ownStep (fun e i => evaluate (e.getD (m.create i)) i) none is

variable {m evaluate}

theorem forall_evaluations {good : α → Prop} (sound : ∀ e i a, evaluate e i = some a → good a) (is : List ι) :
    ∀ a ∈ m.evaluations evaluate is, good a :=
  History.forall_outputs fun e i => sound (e.getD (m.create i)) i

theorem own_conserved {M : Type} [AddCommMonoid M] (amount : ε → M) (used : α → M) (weight : ι → M)
    (fresh : ∀ i, amount (m.create i) = 0)
    (law : ∀ e i, ((evaluate e i).map used).getD 0 + amount (m.work e i).2 = amount e + weight i) (is : List ι) :
    ((m.evaluations evaluate is).map used).sum + ((m.own is).map amount).getD 0 = (is.map weight).sum := by
  refine (History.conserved (fun e : Option ε => (e.map amount).getD 0) used weight ?_).trans (zero_add _)
  intro e i
  have entry : amount (e.getD (m.create i)) = (e.map amount).getD 0 := by
    cases e with
    | none => exact fresh i
    | some e => rfl
  rw [← entry]
  exact law (e.getD (m.create i)) i

end Evaluations

section Runs
variable [DecidableEq κ]

/-- The entry an input works on. -/
def entry (store : AList fun _ : κ => ε) (i : ι) : ε := (store.lookup (m.key i)).getD (m.create i)

def result (store : AList fun _ : κ => ε) (i : ι) : ρ := (m.work (m.entry store i) i).1

def step (store : AList fun _ : κ => ε) (i : ι) : AList fun _ : κ => ε :=
  store.insert (m.key i) (m.work (m.entry store i) i).2

def run (is : List ι) : AList fun _ : κ => ε := is.foldl m.step ∅

theorem run_snoc (is : List ι) (i : ι) : m.run (is ++ [i]) = m.step (m.run is) i := List.foldl_concat ..

theorem run_lookup (is : List ι) (k : κ) : (m.run is).lookup k = m.own (is.filter fun i => m.key i = k) := by
  induction is using List.reverseRecOn with
  | nil => rfl
  | append_singleton is i ih =>
      rw [run_snoc, step, List.filter_append]
      by_cases here : m.key i = k
      · subst here
        rw [AList.lookup_insert, List.filter_cons_of_pos (by simp), List.filter_nil, own_snoc, ← ih]
        rfl
      · rw [AList.lookup_insert_ne (Ne.symm here), List.filter_cons_of_neg (by simpa using here), List.filter_nil,
          List.append_nil, ih]

/-- The entry an input finds is what the earlier inputs of its key made of it. -/
theorem entry_run (is : List ι) (i : ι) :
    m.entry (m.run is) i = (m.own (is.filter fun j => m.key j = m.key i)).getD (m.create i) := by
  rw [entry, run_lookup]

/-- An engine that keeps more in its entries finds in them what this one has. -/
theorem run_map {ε' : Type} {m' : Engine κ ι ε' ρ} (view : ε' → ε) (key : m'.key = m.key)
    (create : ∀ i, view (m'.create i) = m.create i) (work : ∀ e i, view (m'.work e i).2 = (m.work (view e) i).2)
    (is : List ι) (k : κ) : (m.run is).lookup k = ((m'.run is).lookup k).map view := by
  rw [run_lookup, run_lookup, key]
  generalize is.filter (fun i => m.key i = k) = js
  induction js using List.reverseRecOn with
  | nil => rfl
  | append_singleton js i ih =>
      rw [own_snoc, own_snoc, ih, Option.map_some, work]
      cases m'.own js with
      | none => rw [Option.map_none, Option.getD_none, Option.getD_none, create]
      | some e => rfl

theorem entry_map {ε' : Type} {m' : Engine κ ι ε' ρ} (view : ε' → ε) (key : m'.key = m.key)
    (create : ∀ i, view (m'.create i) = m.create i) (work : ∀ e i, view (m'.work e i).2 = (m.work (view e) i).2)
    (is : List ι) (i : ι) : m.entry (m.run is) i = view (m'.entry (m'.run is) i) := by
  rw [entry, run_map m view key create work, entry, key]
  cases (m'.run is).lookup (m.key i) with
  | none => exact (create i).symm
  | some e => rfl

/-! ## Entries that are forgotten -/

section Forgetting
variable {ω : Type} (view : ρ → ω)

/-- What inputs get to see of their results. -/
def views : AList (fun _ : κ => ε) → List ι → List ω
  | _, [] => []
  | store, i :: is => view (m.result store i) :: views (m.step store i) is

/-- The input treats the entry as a new one. -/
def Renews (e : ε) (i : ι) : Prop :=
  view (m.work e i).1 = view (m.work (m.create i) i).1 ∧ (m.work e i).2 = (m.work (m.create i) i).2

/-- The second store has the entries of the first one, without some that the inputs to come treat as new ones. -/
def Forgets (later : ι → Prop) (store store' : AList fun _ : κ => ε) : Prop :=
  ∀ k, store'.lookup k = store.lookup k ∨
    store'.lookup k = none ∧ ∀ e ∈ store.lookup k, ∀ i, later i → m.key i = k → m.Renews view e i

variable {m view} {later : ι → Prop} {store store' : AList fun _ : κ => ε}

theorem Forgets.work (h : m.Forgets view later store store') {i : ι} (hi : later i) :
    view (m.result store' i) = view (m.result store i) ∧
      (m.work (m.entry store' i) i).2 = (m.work (m.entry store i) i).2 := by
  unfold result entry
  rcases h (m.key i) with same | ⟨forgotten, renews⟩
  · rw [same]
    exact ⟨rfl, rfl⟩
  · rw [forgotten]
    cases found : store.lookup (m.key i) with
    | none => exact ⟨rfl, rfl⟩
    | some e =>
        obtain ⟨seen, next⟩ := renews e found i hi rfl
        exact ⟨seen.symm, next.symm⟩

theorem Forgets.step (h : m.Forgets view later store store') {i : ι} (hi : later i) :
    m.Forgets view later (m.step store i) (m.step store' i) := by
  intro k
  unfold Engine.step
  by_cases here : k = m.key i
  · subst here
    rw [AList.lookup_insert, AList.lookup_insert, (h.work hi).2]
    exact .inl rfl
  · rw [AList.lookup_insert_ne here, AList.lookup_insert_ne here]
    exact h k

/-- Entries that are forgotten are not missed. -/
theorem Forgets.views_eq (h : m.Forgets view later store store') {is : List ι} (his : ∀ i ∈ is, later i) :
    m.views view store' is = m.views view store is := by
  induction is generalizing store store' with
  | nil => rfl
  | cons i is ih =>
      have hi := his i List.mem_cons_self
      rw [views, views, (h.work hi).1, ih (h.step hi) fun j mem => his j (List.mem_cons_of_mem i mem)]

end Forgetting

end Runs

end Engine

end KeyedStore
