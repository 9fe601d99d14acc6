import NetworkThreatEngine.Detect.Silence

/-!
# Sustained traffic

The baseline follows the traffic that it is to judge. A source that changes to other rates and keeps to them is
reported window after window for some time, and then no more; the smoothing weight decides how long.
-/
namespace Nte
open History MovingAverage

namespace VolumeHistory

/-- The windows that further packets of the source close. -/
def closedSince (cfg : EWMAConfig) (h : VolumeHistory) (later : List Arrival) : List VolumeWindow :=
  (h.after cfg later).closed.drop h.closed.length

/-- No silence makes the source start over. -/
def Steady (cfg : EWMAConfig) (h : VolumeHistory) (later : List Arrival) : Prop :=
  ∀ before a rest, later = before ++ a :: rest → (h.after cfg before).profile.stale cfg a.now = false

/-- The source goes on, and the windows it closes have rates in a range. -/
structure Sustained (cfg : EWMAConfig) (h : VolumeHistory) (lo hi : ℚ) (later : List Arrival) : Prop where
  steady : h.Steady cfg later
  rates : ∀ w ∈ h.closedSince cfg later, lo ≤ w.pps ∧ w.pps ≤ hi

variable {cfg : EWMAConfig} {h : VolumeHistory} {later : List Arrival}

/-! ## The windows add up -/

theorem closed_next {a : Arrival} (fresh : h.profile.stale cfg a.now = false) : h.closed <+: (h.next cfg a).closed := by
  have kept : h.reset cfg a.now = h := by
    rw [reset, fresh, if_neg Bool.false_ne_true]
  rw [next, kept]
  split
  · exact List.prefix_rfl
  · exact List.prefix_append _ _

theorem Steady.prefix (steady : h.Steady cfg later) : h.closed <+: (h.after cfg later).closed := by
  induction later using List.reverseRecOn with
  | nil => exact List.prefix_rfl
  | append_singleton later a ih =>
      have earlier := ih fun before b rest split => steady before b (rest ++ [a]) (by rw [split]; simp)
      rw [after_snoc]
      exact earlier.trans (closed_next (steady later a [] rfl))

theorem Steady.closed (steady : h.Steady cfg later) : (h.after cfg later).closed = h.closed ++ h.closedSince cfg later := by
  obtain ⟨new, grown⟩ := steady.prefix
  rw [closedSince, ← grown, List.drop_left]

theorem Tracks.seeded (tracks : h.Tracks cfg) (warm : h.profile.coldStart = false) : h.closed ≠ [] := by
  intro none
  rw [tracks.cold.mpr none] at warm
  cases warm

/-- The baseline goes on from where it was. -/
theorem Steady.ewmaPps (steady : h.Steady cfg later) (tracks : h.Tracks cfg) (warm : h.profile.coldStart = false) :
    (h.after cfg later).profile.ewmaPps =
      ((h.closedSince cfg later).map (·.pps)).foldl (blend cfg.alpha) h.profile.ewmaPps := by
  have some : h.closed.map (·.pps) ≠ [] := by simpa using tracks.seeded warm
  rw [(tracks.after later).pps, steady.closed, List.map_append, average_append _ some, tracks.pps]

/-! ## How long it is reported -/

theorem Sustained.baseline {lo hi : ℚ} (sustained : h.Sustained cfg lo hi later) (valid : cfg.Valid)
    (tracks : h.Tracks cfg) (warm : h.profile.coldStart = false) :
    approach cfg.alpha h.profile.ewmaPps lo (h.closedSince cfg later).length ≤ (h.after cfg later).profile.ewmaPps ∧
      (h.after cfg later).profile.ewmaPps ≤ approach cfg.alpha h.profile.ewmaPps hi (h.closedSince cfg later).length := by
  obtain ⟨low, high⟩ := valid.alpha
  have rates : ∀ r ∈ (h.closedSince cfg later).map (·.pps), lo ≤ r ∧ r ≤ hi := by
    intro r mem
    obtain ⟨w, window, rfl⟩ := List.mem_map.mp mem
    exact sustained.rates w window
  have below := approach_le_foldl low.le high.le (a := h.profile.ewmaPps) fun r mem => (rates r mem).1
  have above := foldl_le_approach low.le high.le (a := h.profile.ewmaPps) fun r mem => (rates r mem).2
  rw [List.length_map] at below above
  rw [sustained.steady.ewmaPps tracks warm]
  exact ⟨below, above⟩

theorem Closes.anomaly {p : Arrival} (closes : h.Closes cfg p) : h.profile.anomaly cfg p =
    PerIpEwmaProfile.score cfg (h.profile.instPps cfg p) (h.profile.instBps cfg p) h.profile.ewmaPps := by
  have kept := PerIpEwmaProfile.resetStale_of_fresh closes.fresh
  rw [PerIpEwmaProfile.anomaly, PerIpEwmaProfile.update_scores closes.old (by rw [kept]; exact closes.warm), kept]

end VolumeHistory

end Nte
