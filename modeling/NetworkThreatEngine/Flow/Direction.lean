import NetworkThreatEngine.Flow.Accounting
import NetworkThreatEngine.Flow.Identity
import NetworkThreatEngine.Lib.History

/-!
# The direction of a packet

`FlowKey::make` orders the endpoints of a packet by address and port, `FlowTracker::update` takes the
direction from the addresses alone. The two agree unless a packet goes between two ports of one host,
from the higher one to the lower.
-/
namespace Nte
open FlowTracker History

namespace FlowKey

def lo (key : FlowKey) : Endpoint := (key.loAddr, key.loPort)
def hi (key : FlowKey) : Endpoint := (key.hiAddr, key.hiPort)

theorem make_lo_hi (a b : Addr128) (p q : UInt16) (proto : UInt8) :
    ((make a b p q proto).lo = (a, p) ∧ (make a b p q proto).hi = (b, q)) ∧ srcIsLo a b p q = true ∨
      ((make a b p q proto).lo = (b, q) ∧ (make a b p q proto).hi = (a, p)) ∧ srcIsLo a b p q = false := by
  unfold make
  cases srcIsLo a b p q with
  | true => exact .inl ⟨⟨rfl, rfl⟩, rfl⟩
  | false => exact .inr ⟨⟨rfl, rfl⟩, rfl⟩

end FlowKey

/-- The endpoint a packet comes from. -/
def PacketInfo.source (info : PacketInfo) : Option FlowKey.Endpoint :=
  (addresses info).map fun both => (both.1, info.srcPort)

/-- The direction `update` passes on says whether the packet comes from the lower endpoint of its key; two
identical endpoints have no order. -/
def DirectionAgrees (info : PacketInfo) : Prop :=
  ∀ srcAddr dstAddr, addresses info = some (srcAddr, dstAddr) →
    (FlowKey.make srcAddr dstAddr info.srcPort info.dstPort info.ipProtoNum).lo ≠
      (FlowKey.make srcAddr dstAddr info.srcPort info.dstPort info.ipProtoNum).hi →
    (directionOf srcAddr dstAddr = .LO_TO_HI ↔
      info.source = some (FlowKey.make srcAddr dstAddr info.srcPort info.dstPort info.ipProtoNum).lo)

/-- Between two ports of one host the packet does not go to the lower one. -/
def PortsInOrder (info : PacketInfo) : Prop := ∀ addr, addresses info = some (addr, addr) → info.srcPort ≤ info.dstPort

theorem directionOf_eq_lo_iff (a b : Addr128) : directionOf a b = .LO_TO_HI ↔ a.val ≤ b.val := by
  unfold directionOf
  split <;> simp_all

/-- The two orders differ on a packet from the higher to the lower port of one host, and on no other. -/
theorem srcIsLo_iff_le {a b : Addr128} {p q : UInt16} (inOrder : a = b → p ≤ q) :
    FlowKey.srcIsLo a b p q = true ↔ a.val ≤ b.val := by
  rw [FlowKey.srcIsLo_iff]
  constructor
  · rintro (less | ⟨rfl, -⟩)
    · exact List.le_of_lt less
    · exact List.le_refl _
  · intro le
    rcases Std.lt_trichotomy a.val b.val with less | equal | greater
    · exact .inl less
    · have same : a = b := Subtype.ext equal
      exact .inr ⟨same, inOrder same⟩
    · exact absurd greater (List.not_lt.mpr le)

theorem directionAgrees_iff (info : PacketInfo) : DirectionAgrees info ↔ PortsInOrder info := by
  constructor
  · intro agrees addr same
    by_contra above
    have other : FlowKey.srcIsLo addr addr info.srcPort info.dstPort = false := by
      rw [Bool.eq_false_iff, ne_eq, FlowKey.srcIsLo_iff]
      rintro (less | ⟨-, le⟩)
      · exact List.lt_irrefl _ less
      · exact above le
    obtain ⟨-, case⟩ | ⟨⟨lo, hi⟩, -⟩ := FlowKey.make_lo_hi addr addr info.srcPort info.dstPort info.ipProtoNum
    · rw [other] at case
      cases case
    · have agree := agrees addr addr same
      rw [lo, hi, PacketInfo.source, same, directionOf_eq_lo_iff] at agree
      have apart : (addr, info.dstPort) ≠ (addr, info.srcPort) := by
        intro equal
        rw [Prod.mk.injEq] at equal
        exact above (equal.2 ▸ UInt16.le_refl _)
      have claimed := (agree apart).mp (List.le_refl _)
      exact apart (Option.some.inj claimed).symm
  · intro inOrder srcAddr dstAddr both apart
    have order := srcIsLo_iff_le (a := srcAddr) (b := dstAddr) (p := info.srcPort) (q := info.dstPort)
      fun same => inOrder srcAddr (by rw [both, same])
    rw [directionOf_eq_lo_iff, ← order, PacketInfo.source, both]
    obtain ⟨⟨lo, hi⟩, case⟩ | ⟨⟨lo, hi⟩, case⟩ :=
      FlowKey.make_lo_hi srcAddr dstAddr info.srcPort info.dstPort info.ipProtoNum
    · rw [lo]
      exact iff_of_true case rfl
    · rw [lo, hi] at apart
      rw [lo, case]
      exact iff_of_false Bool.false_ne_true fun equal => apart (Option.some.inj equal).symm

/-! ## What the two sides sent -/

/-- A tracker with the packets accounted to its nodes so far. -/
structure FlowLedger where
  tracker : FlowTracker
  packets : List (Nat × PacketInfo) := []

/-- The counters of one side of a flow are the number and the bytes of these packets. -/
structure SideCounts (packets bytes : UInt64) (sent : List PacketInfo) : Prop where
  packets : packets = UInt64.ofNat sent.length
  bytes : bytes = UInt64.ofNat (sent.map (·.capturedLength)).sum

structure FlowRecord.Sides (record : FlowRecord) (fromLo fromHi : List PacketInfo) : Prop where
  lo : SideCounts record.loToHiPackets record.loToHiBytes fromLo
  hi : SideCounts record.hiToLoPackets record.hiToLoBytes fromHi

namespace FlowLedger

def start (cfg : Config) : FlowLedger := { tracker := .ofConfig cfg }

def step (l : FlowLedger) (s : Step) : FlowLedger where
  tracker := l.tracker.step s
  packets :=
    match s with
    | .update call =>
        l.packets ++ ((l.tracker.update call.info call.now call.created).1.map fun id => (id, call.info)).toList
    | .evict _ => l.packets

/-- The packets accounted to a node that came from an endpoint. -/
def sentBy (l : FlowLedger) (id : Nat) (endpoint : FlowKey.Endpoint) : List PacketInfo :=
  (l.packets.filter fun p => p.1 = id ∧ p.2.source = some endpoint).map Prod.snd

/-- In every record of a flow between two endpoints each side's counters are those of its packets. -/
def CountsSides (l : FlowLedger) : Prop :=
  ∀ key node, l.tracker.table.lookup key = some node → key.lo ≠ key.hi →
    node.record.Sides (l.sentBy node.id key.lo) (l.sentBy node.id key.hi)

/-- A packet that is accounted does not go from the higher to the lower port of one host. -/
def AccountsInOrder (l : FlowLedger) : Step → Prop
  | .update call => (l.tracker.update call.info call.now call.created).1.isSome → PortsInOrder call.info
  | .evict _ => True

end FlowLedger

/-! ## One packet -/

namespace FlowRecord

def sideCounters (record : FlowRecord) : (UInt64 × UInt64) × (UInt64 × UInt64) :=
  ((record.loToHiPackets, record.loToHiBytes), (record.hiToLoPackets, record.hiToLoBytes))

theorem advance_sideCounters (record : FlowRecord) (p : Segment) :
    (record.advance p).sideCounters = record.sideCounters := by
  have totals := advance_totals record p
  simp only [Prod.mk.injEq] at totals
  obtain ⟨-, lo, hi, -, loBytes, hiBytes, -⟩ := totals
  rw [sideCounters, lo, hi, loBytes, hiBytes]
  rfl

/-- Of an update the sides see the accounting alone. -/
theorem updateRecord_sideCounters (record : FlowRecord) (info : PacketInfo) (direction : FlowDirection)
    (now : TimePoint) :
    (record.updateRecord info direction now).sideCounters =
      (record.accounted ⟨info, direction, now⟩).sideCounters := by
  have same := congrArg sideCounters (core_receive record ⟨info, direction, now⟩)
  refine same.trans ?_
  split
  · exact advance_sideCounters (record.accounted ⟨info, direction, now⟩) _
  · rfl

end FlowRecord

theorem SideCounts.sent {packets bytes : UInt64} {sent : List PacketInfo} (h : SideCounts packets bytes sent)
    (info : PacketInfo) :
    SideCounts (packets + 1) (bytes + UInt64.ofNat info.capturedLength) (sent ++ [info]) := by
  constructor
  · rw [List.length_append, h.packets, UInt64.ofNat_add]
    rfl
  · rw [List.map_append, List.sum_append, h.bytes, UInt64.ofNat_add]
    simp

/-- A packet that nobody sent cannot be counted. -/
theorem SideCounts.not_sent {packets bytes bytes' : UInt64} {sent : List PacketInfo}
    (h : SideCounts packets bytes sent) : ¬ SideCounts (packets + 1) bytes' sent := by
  intro more
  have same : packets + 1 = packets := more.packets.trans h.packets.symm
  have one : (1 : UInt64) = 0 := add_eq_left.mp same
  exact absurd one (by decide)

namespace FlowRecord.Sides
variable {record : FlowRecord} {fromLo fromHi : List PacketInfo}

theorem sides_iff (record : FlowRecord) : record.Sides fromLo fromHi ↔
    SideCounts record.sideCounters.1.1 record.sideCounters.1.2 fromLo ∧
      SideCounts record.sideCounters.2.1 record.sideCounters.2.2 fromHi :=
  ⟨fun h => ⟨h.lo, h.hi⟩, fun h => ⟨h.1, h.2⟩⟩

theorem sentLo (h : record.Sides fromLo fromHi) (info : PacketInfo) (now : TimePoint) :
    (record.updateRecord info .LO_TO_HI now).Sides (fromLo ++ [info]) fromHi := by
  rw [sides_iff, updateRecord_sideCounters]
  exact ⟨h.lo.sent info, h.hi⟩

theorem sentHi (h : record.Sides fromLo fromHi) (info : PacketInfo) (now : TimePoint) :
    (record.updateRecord info .HI_TO_LO now).Sides fromLo (fromHi ++ [info]) := by
  rw [sides_iff, updateRecord_sideCounters]
  exact ⟨h.lo, h.hi.sent info⟩

theorem not_sentLo (h : record.Sides fromLo fromHi) (info : PacketInfo) (now : TimePoint) :
    ¬ (record.updateRecord info .LO_TO_HI now).Sides fromLo (fromHi ++ [info]) := by
  rw [sides_iff, updateRecord_sideCounters]
  intro counted
  exact h.lo.not_sent counted.1

theorem not_sentHi (h : record.Sides fromLo fromHi) (info : PacketInfo) (now : TimePoint) :
    ¬ (record.updateRecord info .HI_TO_LO now).Sides (fromLo ++ [info]) fromHi := by
  rw [sides_iff, updateRecord_sideCounters]
  intro counted
  exact h.hi.not_sent counted.2

end FlowRecord.Sides

namespace FlowLedger

theorem sentBy_snoc {l l' : FlowLedger} {id : Nat} {info : PacketInfo} (packets : l'.packets = l.packets ++ [(id, info)])
    (id' : Nat) (endpoint : FlowKey.Endpoint) :
    l'.sentBy id' endpoint =
      if id = id' ∧ info.source = some endpoint then l.sentBy id' endpoint ++ [info] else l.sentBy id' endpoint := by
  rw [sentBy, packets, List.filter_append, List.map_append]
  by_cases here : id = id' ∧ info.source = some endpoint
  · rw [if_pos here, List.filter_cons_of_pos (by simpa using here)]
    rfl
  · rw [if_neg here, List.filter_cons_of_neg (by simpa using here)]
    exact List.append_nil _

/-- A packet comes from one of the two endpoints of its key. -/
theorem source_eq {info : PacketInfo} {srcAddr dstAddr : Addr128} (both : addresses info = some (srcAddr, dstAddr)) :
    info.source = some (FlowKey.make srcAddr dstAddr info.srcPort info.dstPort info.ipProtoNum).lo ∨
      info.source = some (FlowKey.make srcAddr dstAddr info.srcPort info.dstPort info.ipProtoNum).hi := by
  rw [PacketInfo.source, both]
  obtain ⟨⟨lo, -⟩, -⟩ | ⟨⟨-, hi⟩, -⟩ :=
    FlowKey.make_lo_hi srcAddr dstAddr info.srcPort info.dstPort info.ipProtoNum
  · exact .inl (congrArg some lo.symm)
  · exact .inr (congrArg some hi.symm)

/-- What comes of a packet in the two sides' counters: they are right as long as its direction is. -/
theorem sides_iff_direction {l l' : FlowLedger} {id : Nat} {info : PacketInfo} {lo hi : FlowKey.Endpoint}
    {record : FlowRecord} (packets : l'.packets = l.packets ++ [(id, info)]) (apart : lo ≠ hi)
    (source : info.source = some lo ∨ info.source = some hi)
    (sides : record.Sides (l.sentBy id lo) (l.sentBy id hi)) (direction : FlowDirection) (now : TimePoint) :
    (record.updateRecord info direction now).Sides (l'.sentBy id lo) (l'.sentBy id hi) ↔
      (direction = .LO_TO_HI ↔ info.source = some lo) := by
  rw [sentBy_snoc packets, sentBy_snoc packets]
  rcases source with fromLo | fromHi
  · have other : info.source ≠ some hi := by
      rw [fromLo]
      exact fun same => apart (Option.some.inj same)
    rw [if_pos ⟨rfl, fromLo⟩, if_neg fun h => other h.2]
    cases direction with
    | LO_TO_HI => exact iff_of_true (sides.sentLo info now) (iff_of_true rfl fromLo)
    | HI_TO_LO => exact iff_of_false (sides.not_sentHi info now) fun agree => by cases agree.mpr fromLo
  · have other : info.source ≠ some lo := by
      rw [fromHi]
      exact fun same => apart (Option.some.inj same).symm
    rw [if_neg fun h => other h.2, if_pos ⟨rfl, fromHi⟩]
    cases direction with
    | LO_TO_HI => exact iff_of_false (sides.not_sentLo info now) fun agree => other (agree.mp rfl)
    | HI_TO_LO => exact iff_of_true (sides.sentHi info now) (iff_of_false (by decide) other)

/-! ## Runs -/

/-- What holds of every ledger: the nodes are distinct, and packets are accounted to nodes made. -/
structure Known (l : FlowLedger) : Prop where
  distinct : l.tracker.NodesDistinct
  made : ∀ p ∈ l.packets, p.1 < l.tracker.nodesMade

/-- The packet is accounted to the node `id` under `key`, whose record was `record`. -/
structure Takes (l l' : FlowLedger) (info : PacketInfo) (now : TimePoint) (key : FlowKey) (direction : FlowDirection)
    (id : Nat) (record : FlowRecord) : Prop where
  packets : l'.packets = l.packets ++ [(id, info)]
  table : l'.tracker.table = l.tracker.table.insert key ⟨id, record.updateRecord info direction now⟩
  place : l.tracker.table.lookup key = some ⟨id, record⟩ ∧ l'.tracker.nodesMade = l.tracker.nodesMade ∨
    id = l.tracker.nodesMade ∧ (∃ created, record = .create key created) ∧
      l'.tracker.nodesMade = l.tracker.nodesMade + 1

/-- An update that returns null leaves the ledger as it is; any other accounts its packet to the node of
its key, which may be new. -/
theorem step_update_cases (l : FlowLedger) (call : UpdateCall) :
    (l.tracker.update call.info call.now call.created).1 = none ∧ l.step (.update call) = l ∨
      ∃ srcAddr dstAddr id record, addresses call.info = some (srcAddr, dstAddr) ∧
        (l.tracker.update call.info call.now call.created).1 = some id ∧
        Takes l (l.step (.update call)) call.info call.now
          (.make srcAddr dstAddr call.info.srcPort call.info.dstPort call.info.ipProtoNum)
          (directionOf srcAddr dstAddr) id record := by
  have unchanged : (⟨l.tracker, l.packets ++ []⟩ : FlowLedger) = l :=
    congrArg (FlowLedger.mk l.tracker) (List.append_nil _)
  unfold step FlowTracker.step
  dsimp only
  cases both : addresses call.info with
  | none =>
      have null : l.tracker.update call.info call.now call.created = (none, l.tracker) := by
        rw [FlowTracker.update, both]
      rw [null]
      exact .inl ⟨rfl, unchanged⟩
  | some pair =>
      have keyed : l.tracker.update call.info call.now call.created =
          l.tracker.updateKey (.make pair.1 pair.2 call.info.srcPort call.info.dstPort call.info.ipProtoNum)
            call.info (directionOf pair.1 pair.2) call.now call.created := by
        rw [FlowTracker.update, both]
      rw [keyed]
      rcases updateKey_cases l.tracker (.make pair.1 pair.2 call.info.srcPort call.info.dstPort call.info.ipProtoNum)
        call.info (directionOf pair.1 pair.2) call.now call.created with
        ⟨node, found, result⟩ | ⟨-, -, result⟩ | ⟨-, -, result⟩
      · rw [result]
        exact .inr ⟨pair.1, pair.2, node.id, node.record, rfl, rfl, rfl, rfl, .inl ⟨found, rfl⟩⟩
      · rw [result]
        exact .inl ⟨rfl, unchanged⟩
      · rw [result]
        exact .inr ⟨pair.1, pair.2, l.tracker.nodesMade, _, rfl, rfl, rfl, rfl, .inr ⟨rfl, ⟨_, rfl⟩, rfl⟩⟩

section Takes
variable {l l' : FlowLedger} {info : PacketInfo} {now : TimePoint} {key : FlowKey} {direction : FlowDirection}
  {id : Nat} {record : FlowRecord}

theorem Takes.made (h : Takes l l' info now key direction id record) (known : l.Known) :
    ∀ p ∈ l'.packets, p.1 < l'.tracker.nodesMade := by
  rw [h.packets]
  intro p mem
  rcases h.place with ⟨found, made⟩ | ⟨rfl, -, made⟩ <;> rw [made] <;> rcases List.mem_append.mp mem with old | new
  · exact known.made p old
  · rw [List.mem_singleton.mp new]
    exact known.distinct.old key id ⟨_, found, rfl⟩
  · exact Nat.lt_succ_of_lt (known.made p old)
  · rw [List.mem_singleton.mp new]
    exact Nat.lt_succ_self _

/-- The nodes under other keys have other ids. -/
theorem Takes.apart (h : Takes l l' info now key direction id record) (known : l.Known) {key' : FlowKey}
    {node' : FlowNode} (other : key' ≠ key) (lookup : l.tracker.table.lookup key' = some node') : id ≠ node'.id := by
  rcases h.place with ⟨found, -⟩ | ⟨rfl, -, -⟩
  · intro same
    exact other (known.distinct.apart key' key id ⟨node', lookup, same.symm⟩ ⟨_, found, rfl⟩)
  · exact (Nat.ne_of_lt (known.distinct.old key' node'.id ⟨node', lookup, rfl⟩)).symm

/-- The record that takes the packet has counted its sides so far. -/
theorem Takes.sides (h : Takes l l' info now key direction id record) (known : l.Known) (counts : l.CountsSides)
    (ends : key.lo ≠ key.hi) : record.Sides (l.sentBy id key.lo) (l.sentBy id key.hi) := by
  rcases h.place with ⟨found, -⟩ | ⟨rfl, ⟨created, rfl⟩, -⟩
  · exact counts key _ found ends
  · have nothing (endpoint : FlowKey.Endpoint) : l.sentBy l.tracker.nodesMade endpoint = [] := by
      rw [sentBy, List.map_eq_nil_iff, List.filter_eq_nil_iff]
      intro p mem
      have earlier := known.made p mem
      simp only [decide_eq_true_eq, not_and]
      omega
    rw [nothing, nothing]
    exact ⟨⟨rfl, rfl⟩, ⟨rfl, rfl⟩⟩

/-- Only the record that takes the packet can go wrong. -/
theorem Takes.countsSides_iff (h : Takes l l' info now key direction id record) (known : l.Known)
    (counts : l.CountsSides) : l'.CountsSides ↔ (key.lo ≠ key.hi →
      (record.updateRecord info direction now).Sides (l'.sentBy id key.lo) (l'.sentBy id key.hi)) := by
  constructor
  · intro all
    have here : l'.tracker.table.lookup key = some ⟨id, record.updateRecord info direction now⟩ := by
      rw [h.table, AList.lookup_insert]
    exact all key _ here
  · intro this key' node' lookup ends
    rw [h.table] at lookup
    rcases lookup_insert_cases lookup with ⟨rfl, rfl⟩ | ⟨other, old⟩
    · exact this ends
    · have apart := h.apart known other old
      rw [sentBy_snoc h.packets, sentBy_snoc h.packets, if_neg fun same => apart same.1,
        if_neg fun same => apart same.1]
      exact counts key' node' old ends

end Takes

theorem Known.step {l : FlowLedger} (known : l.Known) (s : Step) : (l.step s).Known := by
  refine ⟨known.distinct.step s, ?_⟩
  cases s with
  | update call =>
      rcases step_update_cases l call with ⟨-, same⟩ | ⟨_, _, _, _, -, -, takes⟩
      · rw [same]
        exact known.made
      · exact takes.made known
  | evict now => exact known.made

/-- The counters stay right exactly in a step whose packet, if it is accounted, does not go down between
two ports of one host. -/
theorem countsSides_step {l : FlowLedger} (known : l.Known) (counts : l.CountsSides) (s : Step) :
    (l.step s).CountsSides ↔ l.AccountsInOrder s := by
  cases s with
  | update call =>
      rcases step_update_cases l call with ⟨null, same⟩ | ⟨srcAddr, dstAddr, id, record, both, result, takes⟩
      · rw [same, AccountsInOrder, null]
        exact iff_of_true counts nofun
      · have direction : DirectionAgrees call.info ↔ PortsInOrder call.info := directionAgrees_iff call.info
        rw [takes.countsSides_iff known counts, AccountsInOrder, result, ← direction]
        constructor
        · intro this _ srcAddr' dstAddr' both' ends
          obtain ⟨rfl, rfl⟩ := Prod.mk.inj (Option.some.inj (both.symm.trans both'))
          exact (sides_iff_direction takes.packets ends (source_eq both) (takes.sides known counts ends) _ _).mp (this ends)
        · intro agrees ends
          exact (sides_iff_direction takes.packets ends (source_eq both) (takes.sides known counts ends) _ _).mpr
            (agrees rfl srcAddr dstAddr both ends)
  | evict now => exact iff_of_true (fun key node lookup => counts key node (hasNode_without lookup)) trivial

theorem known_start (cfg : Config) : (start cfg).Known where
  distinct := by
    constructor
    · rintro key id ⟨node, h, -⟩
      cases h
    · rintro key key' id ⟨node, h, -⟩ -
      cases h
  made := by
    intro p mem
    cases mem

theorem known_run (cfg : Config) (steps : List Step) : (run step (start cfg) steps).Known := by
  induction steps using List.reverseRecOn with
  | nil => exact known_start cfg
  | append_singleton steps s ih =>
      rw [run_snoc]
      exact ih.step s

/-- The ledger keeps the tracker's own run. -/
theorem run_tracker (cfg : Config) (steps : List Step) :
    (machine cfg).run (machine cfg).start steps = some (run step (start cfg) steps).tracker := by
  induction steps using List.reverseRecOn with
  | nil => rfl
  | append_singleton steps s ih =>
      rw [Transition.Machine.run_append, ih, run_snoc]
      rfl

end FlowLedger

/-- The direction of a packet agrees with its key exactly if it does not go from the higher to the lower
port of one host; and the counters of the two sides are right all along a run exactly if every packet
that is accounted is of that kind. -/
theorem directions_agree_iff (info : PacketInfo) (cfg : Config) (steps : List Step) :
    (DirectionAgrees info ↔ PortsInOrder info) ∧
      ((∀ before, before <+: steps → (run FlowLedger.step (.start cfg) before).CountsSides) ↔
        ∀ before s after, steps = before ++ s :: after →
          (run FlowLedger.step (.start cfg) before).AccountsInOrder s) := by
  refine ⟨directionAgrees_iff info, ?_⟩
  have start : (FlowLedger.start cfg).Known ∧ (FlowLedger.start cfg).CountsSides :=
    ⟨FlowLedger.known_start cfg, by rintro key node ⟨⟩⟩
  have all : Every FlowLedger.step (fun _ _ => false) (.start cfg) (fun l _ s => l.AccountsInOrder s) steps ↔
      ∀ before, before <+: steps → (run FlowLedger.step (.start cfg) before).Known ∧
        (run FlowLedger.step (.start cfg) before).CountsSides := by
    apply every_iff_forall (fun (l : FlowLedger) (_ : List Step) => l.Known ∧ l.CountsSides) start
    intro l _ s h
    rw [← FlowLedger.countsSides_step h.1 h.2 s]
    exact and_iff_right (h.1.step s)
  refine Iff.trans ?_ all.symm
  exact forall₂_congr fun before _ => (and_iff_right (FlowLedger.known_run cfg before)).symm

/-! ## Two sockets of one host

A UDP datagram from port 5001 to port 5000 of 127.0.0.1. -/

def loopbackDatagram : Capture := .ofFrame (List.replicate 12 0 ++
  [0x08, 0x00, 0x45, 0, 0, 28, 0, 0, 0, 0, 64, 17, 0, 0, 127, 0, 0, 1, 127, 0, 0, 1] ++
  [0x13, 0x89, 0x13, 0x88, 0, 8, 0, 0]) 42 0

/-- It comes from the higher endpoint of its key and is counted for the lower one. -/
theorem loopback_direction_wrong :
    ¬ DirectionAgrees (dissect loopbackDatagram) ∧
      ¬ (run FlowLedger.step (.start {}) [.update ⟨dissect loopbackDatagram, 0, 0⟩]).CountsSides := by
  have both : addresses (dissect loopbackDatagram) =
      some (ipv4ToAddr128 0x7F000001, ipv4ToAddr128 0x7F000001) := by decide +kernel
  constructor
  · intro agrees
    have claimed := agrees _ _ both (by decide +kernel)
    exact absurd (claimed.mp (by decide)) (by decide +kernel)
  · intro counts
    have sides := counts (.make (ipv4ToAddr128 0x7F000001) (ipv4ToAddr128 0x7F000001) 5001 5000 17)
      ⟨0, (FlowRecord.create (.make (ipv4ToAddr128 0x7F000001) (ipv4ToAddr128 0x7F000001) 5001 5000 17) 0).updateRecord
        (dissect loopbackDatagram) .LO_TO_HI 0⟩ (by decide +kernel) (by decide +kernel)
    exact absurd sides.lo.packets (by decide +kernel)

end Nte
