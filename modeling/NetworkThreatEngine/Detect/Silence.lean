import NetworkThreatEngine.Detect.Baseline
import NetworkThreatEngine.Lib.History

/-!
# Silence

A source that was silent for too long starts over, so that its baseline is not averaged over the silence.
The engine looks at the time of the last packet only once a baseline is there; a silence during the first
window becomes part of it.
-/
namespace Nte
open History KeyedStore

namespace VolumeHistory

/-- What further packets of the source make of a history. -/
def after (cfg : EWMAConfig) (h : VolumeHistory) (packets : List Arrival) : VolumeHistory :=
  run (next cfg) h packets

/-- The packets behind the figures of the profile: those of the closed windows and of the open one. -/
def held (h : VolumeHistory) : List Arrival := (h.closed.map (·.packets)).flatten ++ h.current

/-- No window of the history starts before the time. -/
def Since (t : TimePoint) (h : VolumeHistory) : Prop := t ≤ h.profile.windowStart ∧ ∀ w ∈ h.closed, t ≤ w.start

/-- The source starts over with the packet: it opens a window, the windows from here on hold no earlier
packet and do not reach back, and nothing is reported until one of them has been closed. -/
structure Restarts (cfg : EWMAConfig) (h : VolumeHistory) (p : Arrival) : Prop where
  start : (h.next cfg p).profile.windowStart = p.now
  opens : (h.next cfg p).held = [p]
  held : ∀ later, (h.after cfg (p :: later)).held <:+ p :: later
  since : ∀ later, (∀ r ∈ later, p.now ≤ r.now) → (h.after cfg (p :: later)).Since p.now
  quiet : h.profile.anomaly cfg p = none
  silent : ∀ later r, (h.after cfg (p :: later)).closed = [] →
    (h.after cfg (p :: later)).profile.anomaly cfg r = none

variable {cfg : EWMAConfig} {h : VolumeHistory}

/-! ## One packet -/

theorem lastUpdate_receive (profile : PerIpEwmaProfile) (a : Arrival) :
    (profile.receive cfg a).lastUpdate = a.now := by
  unfold PerIpEwmaProfile.receive PerIpEwmaProfile.update
  dsimp only
  split
  · rfl
  · split <;> rfl

theorem windowStart_receive (profile : PerIpEwmaProfile) (a : Arrival) :
    (profile.receive cfg a).windowStart =
      if profile.ageAt cfg a.now < cfg.minWindowSec then (profile.resetStale cfg a.now).windowStart else a.now := by
  by_cases young : profile.ageAt cfg a.now < cfg.minWindowSec
  · rw [if_pos young, PerIpEwmaProfile.receive, PerIpEwmaProfile.update_young young]
    rfl
  · rw [if_neg young, PerIpEwmaProfile.receive]
    cases state : (profile.resetStale cfg a.now).coldStart with
    | true =>
        rw [PerIpEwmaProfile.update_seeds young state]
        rfl
    | false =>
        rw [PerIpEwmaProfile.update_scores young state]
        rfl

theorem held_reset (h : VolumeHistory) (now : TimePoint) :
    (h.reset cfg now).held = if h.profile.stale cfg now then [] else h.held := by
  unfold reset
  split <;> rfl

/-- Whether or not it closes the window, the packet is held. -/
theorem held_next (h : VolumeHistory) (a : Arrival) : (h.next cfg a).held = (h.reset cfg a.now).held ++ [a] := by
  unfold next
  dsimp only
  split
  · simp [held]
  · simp [held]

/-- A packet is in the open window, or it closed a window. -/
theorem current_next (h : VolumeHistory) (a : Arrival) :
    (h.next cfg a).closed = [] → (h.next cfg a).current ≠ [] := by
  unfold next
  dsimp only
  split
  · intro _
    simp
  · simp

theorem since_of_stale {now : TimePoint} (stale : h.profile.stale cfg now = true) : (h.reset cfg now).Since now := by
  unfold reset
  rw [if_pos stale, PerIpEwmaProfile.resetStale_of_stale stale]
  exact ⟨le_refl now, fun w mem => by cases mem⟩

theorem Since.reset {t now : TimePoint} (since : h.Since t) (le : t ≤ now) : (h.reset cfg now).Since t := by
  cases state : h.profile.stale cfg now with
  | true =>
      obtain ⟨start, closed⟩ := since_of_stale state
      exact ⟨le.trans start, fun w mem => le.trans (closed w mem)⟩
  | false =>
      rw [VolumeHistory.reset, state, if_neg Bool.false_ne_true]
      exact since

theorem Since.next {t : TimePoint} {a : Arrival} (kept : (h.reset cfg a.now).Since t) (le : t ≤ a.now) :
    (h.next cfg a).Since t := by
  refine ⟨?_, ?_⟩
  · rw [next_profile, windowStart_receive, ← reset_profile]
    split
    · exact kept.1
    · exact le
  · unfold VolumeHistory.next
    dsimp only
    split
    · exact kept.2
    · intro w mem
      rcases List.mem_append.mp mem with old | new
      · exact kept.2 w old
      · rw [List.mem_singleton.mp new]
        exact kept.1

/-! ## Runs -/

theorem after_snoc (h : VolumeHistory) (packets : List Arrival) (a : Arrival) :
    h.after cfg (packets ++ [a]) = (h.after cfg packets).next cfg a := run_snoc ..

theorem after_profile (h : VolumeHistory) (packets : List Arrival) :
    (h.after cfg packets).profile = run (PerIpEwmaProfile.receive cfg) h.profile packets := by
  induction packets using List.reverseRecOn with
  | nil => rfl
  | append_singleton packets a ih => rw [after_snoc, next_profile, ih, run_snoc]

theorem Tracks.after (tracks : h.Tracks cfg) (packets : List Arrival) : (h.after cfg packets).Tracks cfg := by
  induction packets using List.reverseRecOn with
  | nil => exact tracks
  | append_singleton packets a ih =>
      rw [after_snoc]
      exact ih.next a

/-- As long as no window is closed there is no baseline to score against. -/
theorem Tracks.silent (tracks : h.Tracks cfg) (none : h.closed = []) (r : Arrival) :
    h.profile.anomaly cfg r = .none := by
  have cold : h.profile.coldStart = true := tracks.cold.mpr none
  have fresh : h.profile.stale cfg r.now = false := by rw [PerIpEwmaProfile.stale, cold]; rfl
  apply PerIpEwmaProfile.anomaly_of_cold
  rw [PerIpEwmaProfile.resetStale_of_fresh fresh, cold]

/-- A stale profile starts over with the packet. -/
theorem Tracks.restarts (tracks : h.Tracks cfg) {p : Arrival} (stale : h.profile.stale cfg p.now = true) :
    h.Restarts cfg p := by
  have empty := PerIpEwmaProfile.resetStale_of_stale stale
  have start : (h.next cfg p).profile.windowStart = p.now := by
    rw [next_profile, windowStart_receive, empty]
    split <;> rfl
  have opens : (h.next cfg p).held = [p] := by
    rw [held_next, held_reset, if_pos stale]
    rfl
  constructor
  · exact start
  · exact opens
  · intro later
    induction later using List.reverseRecOn with
    | nil =>
        change (h.next cfg p).held <:+ [p]
        rw [opens]
    | append_singleton later r ih =>
        rw [← List.cons_append, after_snoc, held_next, held_reset]
        split
        · exact List.suffix_append _ _
        · obtain ⟨earlier, all⟩ := ih
          exact ⟨earlier, by rw [← List.append_assoc, all]⟩
  · intro later
    induction later using List.reverseRecOn with
    | nil =>
        intro _
        exact (since_of_stale stale).next (le_refl p.now)
    | append_singleton later r ih =>
        intro ordered
        rw [← List.cons_append, after_snoc]
        have le : p.now ≤ r.now := ordered r (by simp)
        have known := ih fun s mem => ordered s (by simp [mem])
        exact (known.reset le).next le
  · apply PerIpEwmaProfile.anomaly_of_cold
    rw [empty]
  · intro later r none
    exact (tracks.after (p :: later)).silent none r

/-- A profile in cold start goes on with the window it has. -/
theorem Tracks.not_restarts {h : VolumeHistory} (tracks : h.Tracks cfg) (q : Arrival)
    (cold : (h.next cfg q).profile.coldStart = true) (p : Arrival) : ¬ (h.next cfg q).Restarts cfg p := by
  intro restarts
  have fresh : (h.next cfg q).profile.stale cfg p.now = false := by rw [PerIpEwmaProfile.stale, cold]; rfl
  have some := current_next h q ((tracks.next q).cold.mp cold)
  have opens := restarts.opens
  rw [held_next, held_reset, fresh, if_neg Bool.false_ne_true, List.append_eq_singleton_iff] at opens
  rcases opens with ⟨none, -⟩ | ⟨-, none⟩
  · exact some (List.append_eq_nil_iff.mp none).2
  · cases none

end VolumeHistory

/-! ## The engine -/

/-- The engine makes of a source's packets what the source's history says. -/
theorem ewmaEngine_own (cfg : EWMAConfig) (first : EWMACall) (calls : List EWMACall) :
    (ewmaEngine cfg).own (first :: calls) =
      some ((VolumeHistory.create first.created).after cfg ((first :: calls).map (·.arrival))).profile := by
  rw [Engine.own_cons, VolumeHistory.after_profile, run, List.foldl_map]
  rfl

/-- A packet that comes after too long a silence starts the source over exactly if the profile was out of
cold start. The history it is judged by has the profile's own figures. -/
theorem silence_restarts_iff (cfg : EWMAConfig) (created : TimePoint) (before : List Arrival) (q p : Arrival)
    (silence : secondsBetween p.now q.now > cfg.staleResetSec) :
    let profile := run (PerIpEwmaProfile.receive cfg) (.create created) (before ++ [q])
    let h := (VolumeHistory.create created).after cfg (before ++ [q])
    (h.profile = profile ∧ ∀ later, (h.after cfg later).Tracks cfg) ∧
      (h.Restarts cfg p ↔ profile.coldStart = false) := by
  dsimp only
  have known := (VolumeHistory.tracks_create cfg created).after before
  have profile : ((VolumeHistory.create created).after cfg (before ++ [q])).profile =
      run (PerIpEwmaProfile.receive cfg) (.create created) (before ++ [q]) := VolumeHistory.after_profile ..
  rw [VolumeHistory.after_snoc] at profile ⊢
  refine ⟨⟨profile, (known.next q).after⟩, ?_⟩
  rw [← profile]
  cases state : (((VolumeHistory.create created).after cfg before).next cfg q).profile.coldStart with
  | true => exact iff_of_false (known.not_restarts q state p) (by decide)
  | false =>
      have last : (((VolumeHistory.create created).after cfg before).next cfg q).profile.lastUpdate = q.now := by
        rw [VolumeHistory.next_profile, VolumeHistory.lastUpdate_receive]
      refine iff_of_true ((known.next q).restarts ?_) rfl
      rw [PerIpEwmaProfile.stale, state, last]
      simpa using silence

/-- Packets at 0 and 1 s make a baseline, so one at 100 s starts over. -/
theorem silence_restarts_warm :
    (({} : EWMAConfig).staleResetSec < 99 ∧
      ((VolumeHistory.create 0).after {} ([⟨60, 0⟩] ++ [⟨60, 1000000000⟩])).Restarts {} ⟨60, 100000000000⟩) :=
  ⟨by norm_num, (silence_restarts_iff {} 0 [⟨60, 0⟩] ⟨60, 1000000000⟩ ⟨60, 100000000000⟩
    (by norm_num [secondsBetween])).2.mpr (by decide +kernel)⟩

/-- One packet, and another a hundred seconds later: the first window holds both, seeds the baseline with a
fiftieth of a packet a second, and ten packets in the next second are an anomaly. -/
theorem silence_in_first_window :
    secondsBetween 100000000000 0 > ({} : EWMAConfig).staleResetSec ∧
      ¬ ((VolumeHistory.create 0).after {} [⟨60, 0⟩]).Restarts {} ⟨60, 100000000000⟩ ∧
      ((VolumeHistory.create 0).after {} [⟨60, 0⟩, ⟨60, 100000000000⟩]).profile.ewmaPps = 1 / 50 ∧
      (((VolumeHistory.create 0).after {} ([⟨60, 0⟩, ⟨60, 100000000000⟩] ++
        List.replicate 9 ⟨60, 100500000000⟩)).profile.anomaly {} ⟨60, 101000000000⟩).map (·.severity) =
          some .HIGH := by
  refine ⟨by norm_num [secondsBetween], ?_, by decide +kernel, by decide +kernel⟩
  intro restarts
  exact absurd restarts.opens (by decide +kernel)

end Nte
