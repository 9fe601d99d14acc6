import Mathlib

/-!
# Lives of a key

A store makes an entry for a key when an input comes for it and there is none, and it drops entries now and then.
An entry is one life of its key. Lives are numbered as they begin; a log keeps each input with the life it went to.
-/
namespace Lives
variable {κ ι : Type} [DecidableEq κ]

/-- The inputs of one life. -/
def inputsOf (log : List (Nat × ι)) (life : Nat) : List ι := (log.filter (·.1 = life)).map Prod.snd

/-- The lives that the inputs of a key went to. -/
def livesOf (keyOf : ι → κ) (log : List (Nat × ι)) (k : κ) : List Nat :=
  (log.filter fun e => keyOf e.2 = k).map Prod.fst

/-- What the log knows of the store: the lives under way, how many have begun, and which have ended. -/
structure Kept (keyOf : ι → κ) (log : List (Nat × ι)) (live : κ → Option Nat) (made : Nat) (ended : Nat → Prop) :
    Prop where
  begun : ∀ k life, live k = some life → life < made ∧ ∃ i, (life, i) ∈ log
  logged : ∀ e ∈ log, e.1 < made
  held : ∀ k life, live k = some life → ∀ e ∈ log, e.1 = life → keyOf e.2 = k
  latest : ∀ k life, live k = some life → ∀ e ∈ log, keyOf e.2 = k → e.1 ≤ life
  oneKey : ∀ d ∈ log, ∀ e ∈ log, d.1 = e.1 → keyOf d.2 = keyOf e.2
  inTurn : ∀ k, (livesOf keyOf log k).Pairwise (· ≤ ·)
  passed : ∀ e ∈ log, live (keyOf e.2) = some e.1 ∨ ended e.1

section Logs
variable {keyOf : ι → κ} {log : List (Nat × ι)} {life : Nat} {i : ι}

theorem inputsOf_snoc (log : List (Nat × ι)) (life : Nat) (i : ι) (life' : Nat) :
    inputsOf (log ++ [(life, i)]) life' = if life = life' then inputsOf log life' ++ [i] else inputsOf log life' := by
  unfold inputsOf
  rw [List.filter_append, List.map_append]
  split
  · rename_i same
    rw [List.filter_cons_of_pos (by simpa using same)]
    rfl
  · rename_i other
    rw [List.filter_cons_of_neg (by simpa using other)]
    exact List.append_nil _

theorem livesOf_snoc (k : κ) : livesOf keyOf (log ++ [(life, i)]) k =
    if keyOf i = k then livesOf keyOf log k ++ [life] else livesOf keyOf log k := by
  unfold livesOf
  rw [List.filter_append, List.map_append]
  split
  · rename_i same
    rw [List.filter_cons_of_pos (by simpa using same)]
    rfl
  · rename_i other
    rw [List.filter_cons_of_neg (by simpa using other)]
    exact List.append_nil _

theorem mem_inputsOf : i ∈ inputsOf log life ↔ (life, i) ∈ log := by
  simp [inputsOf]

theorem mem_livesOf {k : κ} : life ∈ livesOf keyOf log k ↔ ∃ i, (life, i) ∈ log ∧ keyOf i = k := by
  simp [livesOf]

/-- A life that has not begun has no inputs. -/
theorem inputsOf_eq_nil (later : ∀ e ∈ log, e.1 ≠ life) : inputsOf log life = [] := by
  rw [inputsOf, List.map_eq_nil_iff, List.filter_eq_nil_iff]
  intro e mem same
  exact later e mem (of_decide_eq_true same)

theorem kept_start (keyOf : ι → κ) {live : κ → Option Nat} (none : ∀ k, live k = none) (made : Nat)
    (ended : Nat → Prop) : Kept keyOf [] live made ended where
  begun := fun k life h => absurd ((none k).symm.trans h) (by simp)
  logged := by simp
  held := by simp
  latest := by simp
  oneKey := by simp
  inTurn := fun _ => List.Pairwise.nil
  passed := by simp

end Logs

section Steps
variable {keyOf : ι → κ} {log : List (Nat × ι)} {live live' : κ → Option Nat} {made : Nat} {ended ended' : Nat → Prop}
  (h : Kept keyOf log live made ended)
include h

/-- A life is of one key. -/
theorem Kept.apart {k k' : κ} {life : Nat} (under : live k = some life) (under' : live k' = some life) : k = k' := by
  obtain ⟨-, i, mem⟩ := h.begun k life under
  exact (h.held k life under (life, i) mem rfl).symm.trans (h.held k' life under' (life, i) mem rfl)

/-- Inputs of a key that are put behind go to a life no earlier than the ones before. -/
theorem Kept.inTurn_snoc {i : ι} {life : Nat} (last : ∀ e ∈ log, keyOf e.2 = keyOf i → e.1 ≤ life) (k : κ) :
    (livesOf keyOf (log ++ [(life, i)]) k).Pairwise (· ≤ ·) := by
  rw [livesOf_snoc]
  split
  · rename_i same
    rw [List.pairwise_append]
    refine ⟨h.inTurn k, List.pairwise_singleton _ _, ?_⟩
    intro before mem life' new
    obtain ⟨j, logged, key⟩ := mem_livesOf.mp mem
    rw [List.mem_singleton.mp new]
    exact last (before, j) logged (key.trans same.symm)
  · exact h.inTurn k

/-- The key has a life under way. -/
theorem Kept.take {i : ι} {life : Nat} (here : live (keyOf i) = some life) (keep : ∀ l, l ≠ life → ended l → ended' l) :
    Kept keyOf (log ++ [(life, i)]) live made ended' where
  begun := by
    intro k life' under
    obtain ⟨bound, j, mem⟩ := h.begun k life' under
    exact ⟨bound, j, List.mem_append_left _ mem⟩
  logged := by
    intro e mem
    rcases List.mem_append.mp mem with old | new
    · exact h.logged e old
    · rw [List.mem_singleton.mp new]
      exact (h.begun _ _ here).1
  held := by
    intro k life' under e mem same
    rcases List.mem_append.mp mem with old | new
    · exact h.held k life' under e old same
    · obtain rfl := List.mem_singleton.mp new
      obtain ⟨-, j, mem⟩ := h.begun _ _ here
      dsimp only at same ⊢
      rw [← h.held _ _ here (life, j) mem rfl]
      exact h.held k life' under (life, j) mem same
  latest := by
    intro k life' under e mem key
    rcases List.mem_append.mp mem with old | new
    · exact h.latest k life' under e old key
    · obtain rfl := List.mem_singleton.mp new
      dsimp only at key ⊢
      rw [← key, here] at under
      exact (Option.some.inj under).le
  oneKey := by
    have mine (e : Nat × ι) (old : e ∈ log) (same : e.1 = life) : keyOf e.2 = keyOf i := h.held _ _ here e old same
    intro d memD e memE same
    rcases List.mem_append.mp memD with oldD | newD <;> rcases List.mem_append.mp memE with oldE | newE
    · exact h.oneKey d oldD e oldE same
    · obtain rfl := List.mem_singleton.mp newE
      exact mine d oldD same
    · obtain rfl := List.mem_singleton.mp newD
      exact (mine e oldE same.symm).symm
    · rw [List.mem_singleton.mp newD, List.mem_singleton.mp newE]
  inTurn := h.inTurn_snoc (h.latest _ _ here)
  passed := by
    intro e mem
    rcases List.mem_append.mp mem with old | new
    · by_cases same : e.1 = life
      · rw [h.held _ _ here e old same, here, same]
        exact .inl rfl
      · exact (h.passed e old).imp_right (keep e.1 same)
    · obtain rfl := List.mem_singleton.mp new
      exact .inl here

/-- The key has none, and one begins. -/
theorem Kept.start {i : ι} (absent : live (keyOf i) = none) (here : live' (keyOf i) = some made)
    (others : ∀ k, k ≠ keyOf i → live' k = live k) (keep : ∀ l, l ≠ made → ended l → ended' l) :
    Kept keyOf (log ++ [(made, i)]) live' (made + 1) ended' where
  begun := by
    intro k life under
    by_cases same : k = keyOf i
    · subst same
      obtain rfl := Option.some.inj (here.symm.trans under)
      exact ⟨Nat.lt_succ_self _, i, List.mem_append_right _ (List.mem_singleton_self _)⟩
    · rw [others k same] at under
      obtain ⟨bound, j, mem⟩ := h.begun k life under
      exact ⟨Nat.lt_succ_of_lt bound, j, List.mem_append_left _ mem⟩
  logged := by
    intro e mem
    rcases List.mem_append.mp mem with old | new
    · exact Nat.lt_succ_of_lt (h.logged e old)
    · rw [List.mem_singleton.mp new]
      exact Nat.lt_succ_self _
  held := by
    intro k life under e mem same
    rcases List.mem_append.mp mem with old | new <;> by_cases own : k = keyOf i
    · subst own
      obtain rfl := Option.some.inj (here.symm.trans under)
      exact absurd same (h.logged e old).ne
    · rw [others k own] at under
      exact h.held k life under e old same
    · rw [List.mem_singleton.mp new, own]
    · rw [others k own] at under
      obtain rfl := List.mem_singleton.mp new
      exact absurd same (h.begun k life under).1.ne'
  latest := by
    intro k life under e mem key
    by_cases own : k = keyOf i
    · subst own
      obtain rfl := Option.some.inj (here.symm.trans under)
      rcases List.mem_append.mp mem with old | new
      · exact (h.logged e old).le
      · rw [List.mem_singleton.mp new]
    · rw [others k own] at under
      rcases List.mem_append.mp mem with old | new
      · exact h.latest k life under e old key
      · rw [List.mem_singleton.mp new] at key
        exact absurd key.symm own
  oneKey := by
    intro d memD e memE same
    rcases List.mem_append.mp memD with oldD | newD <;> rcases List.mem_append.mp memE with oldE | newE
    · exact h.oneKey d oldD e oldE same
    · rw [List.mem_singleton.mp newE] at same
      exact absurd same (h.logged d oldD).ne
    · rw [List.mem_singleton.mp newD] at same
      exact absurd same (h.logged e oldE).ne'
    · rw [List.mem_singleton.mp newD, List.mem_singleton.mp newE]
  inTurn := h.inTurn_snoc fun e mem _ => (h.logged e mem).le
  passed := by
    intro e mem
    rcases List.mem_append.mp mem with old | new
    · by_cases own : keyOf e.2 = keyOf i
      · refine .inr (keep e.1 (h.logged e old).ne ((h.passed e old).resolve_left ?_))
        rw [own, absent]
        exact (Option.some_ne_none _).symm
      · rw [others _ own]
        exact (h.passed e old).imp_right (keep e.1 (h.logged e old).ne)
    · obtain rfl := List.mem_singleton.mp new
      exact .inl here

/-- Some lives end. -/
theorem Kept.drop (fewer : ∀ k life, live' k = some life → live k = some life)
    (dropped : ∀ k life, live k = some life → live' k = some life ∨ ended' life) (keep : ∀ l, ended l → ended' l) :
    Kept keyOf log live' made ended' where
  begun := fun k life under => h.begun k life (fewer k life under)
  logged := h.logged
  held := fun k life under => h.held k life (fewer k life under)
  latest := fun k life under => h.latest k life (fewer k life under)
  oneKey := h.oneKey
  inTurn := h.inTurn
  passed := by
    intro e mem
    rcases h.passed e mem with under | gone
    · exact dropped _ _ under
    · exact .inr (keep e.1 gone)

end Steps

end Lives
