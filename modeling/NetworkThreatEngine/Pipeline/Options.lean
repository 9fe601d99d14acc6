import NetworkThreatEngine.Detect.Baseline
import NetworkThreatEngine.Lib.Getopt

/-!
# The command line

`parse_args` and the bounds it checks. What the detection results ask of a configuration holds of every one
that `main` can run with.
-/
namespace Nte
open Getopt

structure CaptureConfig where
  snaplen : Int32 := 65535
  promiscuous : Int32 := 1
  kernelBufferBytes : Int32 := 20 * 1024 * 1024
  readTimeoutMs : Int32 := 1000
  interface : Octets := []
  deriving DecidableEq

/-- The configuration of the analysis layers with the settings of the layers around them. -/
structure Options where
  config : Config := {}
  capture : CaptureConfig := {}
  dbPath : Octets := ascii "alerts.db"
  dashboardRefreshMs : Int32 := 500
  deriving DecidableEq

/-- `parse_args` returns, or calls `std::exit`, or lets an exception of a conversion pass. -/
inductive Parsed where
  | options (o : Options)
  | exit (success : Bool)
  | throws
  deriving DecidableEq

def optstring : Octets := ascii "i:d:s:w:p:r:e:b:R:h"

def letter (c : Char) : UInt8 := UInt8.ofNat c.toNat

namespace Options

/-! `stod` and `stoi` give the number an argument begins with, or throw. -/
section Parsing
variable (stod : Octets → Option ℚ) (stoi : Octets → Option Int32)

/-- A value that is out of bounds leaves the setting as it is. -/
def setReal (o : Options) (value : Octets) (valid : ℚ → Bool) (set : ℚ → Options) : Parsed :=
  match stod value with
  | none => .throws
  | some v => .options (if valid v then set v else o)

def setInt (o : Options) (value : Octets) (set : Int32 → Options) : Parsed :=
  match stoi value with
  | none => .throws
  | some v => .options (if v > 0 then set v else o)

def positive (v : ℚ) : Bool := v > 0
def fraction (v : ℚ) : Bool := v > 0 && v < 1

/-- One turn of the loop. The product of `-b` wraps. -/
def accept (o : Options) : Opt → Parsed
  | .arg c value =>
      if c = letter 'i' then .options { o with capture.interface := value }
      else if c = letter 'd' then .options { o with dbPath := value }
      else if c = letter 's' then
        o.setReal stod value positive fun v => { o with config.delivery.alertSuppressionSec := v }
      else if c = letter 'w' then o.setReal stod value positive fun v => { o with config.portScan.windowSec := v }
      else if c = letter 'p' then
        o.setInt stoi value fun v => { o with config.portScan.distinctPortThreshold := v.toUInt32 }
      else if c = letter 'r' then o.setReal stod value positive fun v => { o with config.synFlood.synRatePps := v }
      else if c = letter 'e' then o.setReal stod value fraction fun v => { o with config.ewma.alpha := v }
      else if c = letter 'b' then
        o.setInt stoi value fun v => { o with capture.kernelBufferBytes := v * 1024 * 1024 }
      else if c = letter 'R' then o.setInt stoi value fun v => { o with dashboardRefreshMs := v }
      else .exit false
  | .flag c => if c = letter 'h' then .exit true else .exit false
  | .unknown => .exit false

def acceptAll (o : Options) : List Opt → Parsed
  | [] => .options o
  | t :: ts =>
      match accept stod stoi o t with
      | .options o => acceptAll o ts
      | ended => ended

/-- The arguments behind the program's name. -/
def parseArgs (args : List Octets) : Parsed := acceptAll stod stoi {} (getopt optstring args)

/-! ## What one option sets -/

/-- The argument of an option, if it is this one. -/
def argumentOf (c : Char) : Opt → Option Octets
  | .arg d value => if d = letter c then some value else none
  | _ => none

def realOf (c : Char) (valid : ℚ → Bool) (t : Opt) : Option ℚ := ((argumentOf c t).bind stod).filter valid
def intOf (c : Char) (t : Opt) : Option Int32 := ((argumentOf c t).bind stoi).filter (· > 0)

/-- The settings with what an option sets. -/
def setting (o : Options) (t : Opt) : Options where
  config :=
    { o.config with
      delivery.alertSuppressionSec := (realOf stod 's' positive t).getD o.config.delivery.alertSuppressionSec
      portScan.windowSec := (realOf stod 'w' positive t).getD o.config.portScan.windowSec
      portScan.distinctPortThreshold :=
        ((intOf stoi 'p' t).map Int32.toUInt32).getD o.config.portScan.distinctPortThreshold
      synFlood.synRatePps := (realOf stod 'r' positive t).getD o.config.synFlood.synRatePps
      ewma.alpha := (realOf stod 'e' fraction t).getD o.config.ewma.alpha }
  capture :=
    { o.capture with
      interface := (argumentOf 'i' t).getD o.capture.interface
      kernelBufferBytes := ((intOf stoi 'b' t).map (· * 1024 * 1024)).getD o.capture.kernelBufferBytes }
  dbPath := (argumentOf 'd' t).getD o.dbPath
  dashboardRefreshMs := (intOf stoi 'R' t).getD o.dashboardRefreshMs

variable {stod stoi} {o o' : Options}

theorem argumentOf_arg {c d : Char} (value : Octets) :
    argumentOf c (.arg (letter d) value) = if letter d = letter c then some value else none := rfl

theorem setReal_eq {value : Octets} {valid : ℚ → Bool} {set : ℚ → Options}
    (h : o.setReal stod value valid set = .options o') : o' = (((stod value).filter valid).map set).getD o := by
  unfold setReal at h
  cases read : stod value with
  | none =>
      rw [read] at h
      cases h
  | some v =>
      rw [read] at h
      obtain rfl := Parsed.options.inj h
      rw [Option.filter_some]
      split <;> rfl

theorem setInt_eq {value : Octets} {set : Int32 → Options} (h : o.setInt stoi value set = .options o') :
    o' = (((stoi value).filter (· > 0)).map set).getD o := by
  unfold setInt at h
  cases read : stoi value with
  | none =>
      rw [read] at h
      cases h
  | some v =>
      rw [read] at h
      obtain rfl := Parsed.options.inj h
      rw [Option.filter_some]
      by_cases valid : v > 0
      · rw [if_pos valid, if_pos (decide_eq_true valid)]
        rfl
      · rw [if_neg valid, if_neg (by simpa using valid)]
        rfl

/-- An option sets its own setting and no other. -/
theorem accept_eq {t : Opt} (h : accept stod stoi o t = .options o') : o' = setting stod stoi o t := by
  cases t with
  | flag c =>
      unfold accept at h
      dsimp only at h
      split at h <;> cases h
  | unknown => cases h
  | arg c value =>
      unfold accept at h
      dsimp only at h
      split at h
      · rename_i c
        subst c
        cases h
        rfl
      split at h
      · rename_i c
        subst c
        cases h
        rfl
      split at h
      · rename_i c
        subst c
        have own : realOf stod 's' positive (.arg (letter 's') value) = (stod value).filter positive := rfl
        rw [setReal_eq h, setting, own]
        cases (stod value).filter positive <;> rfl
      split at h
      · rename_i c
        subst c
        have own : realOf stod 'w' positive (.arg (letter 'w') value) = (stod value).filter positive := rfl
        rw [setReal_eq h, setting, own]
        cases (stod value).filter positive <;> rfl
      split at h
      · rename_i c
        subst c
        have own : intOf stoi 'p' (.arg (letter 'p') value) = (stoi value).filter (· > 0) := rfl
        rw [setInt_eq h, setting, own]
        cases (stoi value).filter (· > 0) <;> rfl
      split at h
      · rename_i c
        subst c
        have own : realOf stod 'r' positive (.arg (letter 'r') value) = (stod value).filter positive := rfl
        rw [setReal_eq h, setting, own]
        cases (stod value).filter positive <;> rfl
      split at h
      · rename_i c
        subst c
        have own : realOf stod 'e' fraction (.arg (letter 'e') value) = (stod value).filter fraction := rfl
        rw [setReal_eq h, setting, own]
        cases (stod value).filter fraction <;> rfl
      split at h
      · rename_i c
        subst c
        have own : intOf stoi 'b' (.arg (letter 'b') value) = (stoi value).filter (· > 0) := rfl
        rw [setInt_eq h, setting, own]
        cases (stoi value).filter (· > 0) <;> rfl
      split at h
      · rename_i c
        subst c
        have own : intOf stoi 'R' (.arg (letter 'R') value) = (stoi value).filter (· > 0) := rfl
        rw [setInt_eq h, setting, own]
        cases (stoi value).filter (· > 0) <;> rfl
      cases h

/-! ## All options -/

theorem acceptAll_cons {t : Opt} {ts : List Opt} (h : acceptAll stod stoi o (t :: ts) = .options o') :
    acceptAll stod stoi (setting stod stoi o t) ts = .options o' := by
  rw [acceptAll] at h
  cases accepted : accept stod stoi o t with
  | options o₁ =>
      rw [accepted] at h
      rw [← accept_eq accepted]
      exact h
  | exit success =>
      rw [accepted] at h
      cases h
  | throws =>
      rw [accepted] at h
      cases h

/-- What one option keeps, all of them keep. -/
theorem acceptAll_invariant (inv : Options → Prop) (step : ∀ o t, inv o → inv (setting stod stoi o t)) {ts : List Opt}
    (start : inv o) (h : acceptAll stod stoi o ts = .options o') : inv o' := by
  induction ts generalizing o with
  | nil =>
      cases h
      exact start
  | cons t ts ih => exact ih (step o t start) (acceptAll_cons h)

def lastOf {α : Type} (pick : Opt → Option α) (ts : List Opt) : Option α := (ts.filterMap pick).getLast?

/-- A setting has the value that was given last, if any. -/
theorem acceptAll_last {α : Type} {pick : Opt → Option α} (field : Options → α)
    (sets : ∀ o t, field (setting stod stoi o t) = (pick t).getD (field o)) {ts : List Opt}
    (h : acceptAll stod stoi o ts = .options o') : field o' = (lastOf pick ts).getD (field o) := by
  induction ts generalizing o with
  | nil =>
      cases h
      rfl
  | cons t ts ih =>
      rw [ih (acceptAll_cons h), sets, lastOf, lastOf, List.filterMap_cons]
      cases pick t with
      | none => rfl
      | some a => rw [List.getLast?_cons, Option.getD_some, Option.getD_some]

theorem lastOf_map {α β : Type} (pick : Opt → Option α) (f : α → β) (ts : List Opt) :
    lastOf (fun t => (pick t).map f) ts = (lastOf pick ts).map f := by
  rw [lastOf, lastOf, ← List.getLast?_map, List.map_filterMap]

theorem lastOf_intOf {c : Char} {ts : List Opt} {v : Int32} (h : lastOf (intOf stoi c) ts = some v) : 0 < v := by
  obtain ⟨t, -, given⟩ := List.mem_filterMap.mp (List.mem_of_getLast? h)
  exact of_decide_eq_true (Option.filter_eq_some_iff.mp given).2

/-- The settings without an option, and placeholders for the others. -/
def others (o : Options) : Options :=
  { o with
    config := { o.config with
      delivery.alertSuppressionSec := 0, portScan.windowSec := 0, portScan.distinctPortThreshold := 0,
      synFlood.synRatePps := 0, ewma.alpha := 0 }
    capture := { o.capture with interface := [], kernelBufferBytes := 0 }
    dbPath := []
    dashboardRefreshMs := 0 }

/-- What the layers ask of their configuration. -/
structure Valid (o : Options) : Prop where
  ewma : o.config.ewma.Valid
  scanWindow : 0 < o.config.portScan.windowSec
  scanThreshold : 0 < o.config.portScan.distinctPortThreshold.toNat ∧
    o.config.portScan.distinctPortThreshold.toNat < 2 ^ 31
  synRate : 0 < o.config.synFlood.synRatePps
  synWindow : 0 < o.config.synFlood.windowSec
  suppression : 0 < o.config.delivery.alertSuppressionSec
  refresh : 0 < o.dashboardRefreshMs

theorem realOf_getD {c : Char} {valid : ℚ → Bool} {t : Opt} {old : ℚ} (h : valid old = true) :
    valid ((realOf stod c valid t).getD old) = true := by
  cases given : realOf stod c valid t with
  | none => exact h
  | some v => exact (Option.filter_eq_some_iff.mp given).2

theorem intOf_getD {c : Char} {t : Opt} {old : Int32} (h : 0 < old) : 0 < (intOf stoi c t).getD old := by
  cases given : intOf stoi c t with
  | none => exact h
  | some v => exact of_decide_eq_true (Option.filter_eq_some_iff.mp given).2

theorem positive_iff {v : ℚ} : positive v = true ↔ 0 < v := decide_eq_true_iff

theorem fraction_iff {v : ℚ} : fraction v = true ↔ 0 < v ∧ v < 1 := by
  simp [fraction]

/-- A positive `int` is the same number as a `uint32_t`. -/
theorem toUInt32_bounds {v : Int32} (h : 0 < v) : 0 < v.toUInt32.toNat ∧ v.toUInt32.toNat < 2 ^ 31 := by
  have sign := Int32.lt_iff_toInt_lt.mp h
  have range := v.toInt_lt
  rw [Int32.toNat_toUInt32_of_le (Int32.le_of_lt h), Int32.toNatClampNeg]
  rw [Int32.toInt_zero] at sign
  omega

theorem Valid.setting (h : o.Valid) (t : Opt) : (setting stod stoi o t).Valid where
  ewma :=
    { h.ewma with
      alpha := fraction_iff.mp (realOf_getD (fraction_iff.mpr h.ewma.alpha)) }
  scanWindow := positive_iff.mp (realOf_getD (positive_iff.mpr h.scanWindow))
  scanThreshold := by
    unfold Options.setting
    dsimp only
    cases given : intOf stoi 'p' t with
    | none => exact h.scanThreshold
    | some v => exact toUInt32_bounds (of_decide_eq_true (Option.filter_eq_some_iff.mp given).2)
  synRate := positive_iff.mp (realOf_getD (positive_iff.mpr h.synRate))
  synWindow := h.synWindow
  suppression := positive_iff.mp (realOf_getD (positive_iff.mpr h.suppression))
  refresh := intOf_getD h.refresh

theorem default_valid : ({} : Options).Valid where
  ewma := by constructor <;> norm_num
  scanWindow := by norm_num
  scanThreshold := by decide
  synRate := by norm_num
  synWindow := by norm_num
  suppression := by norm_num
  refresh := by decide

/-- A size in megabytes is that many bytes as long as these fit an `int`. -/
theorem kernelBufferBytes_iff {v : Int32} (h : 0 < v) :
    (v * 1024 * 1024).toInt = v.toInt * 2 ^ 20 ↔ v.toInt < 2048 := by
  have sign := Int32.lt_iff_toInt_lt.mp h
  rw [Int32.toInt_zero] at sign
  have range := v.toInt_lt
  rw [Int32.toInt_mul, Int32.toInt_mul]
  have k : (1024 : Int32).toInt = 1024 := rfl
  rw [k]
  constructor
  · intro same
    have bounded := @Int.bmod_lt ((v.toInt * 1024).bmod (2 ^ 32) * 1024) (2 ^ 32) (by norm_num)
    rw [same] at bounded
    omega
  · intro small
    rw [Int.bmod_eq_of_le (n := v.toInt * 1024) (by omega) (by omega), Int.bmod_eq_of_le (by omega) (by omega)]
    ring

/-- Each option sets its setting to the last valid value that was given for it. -/
structure LastWins (stod : Octets → Option ℚ) (stoi : Octets → Option Int32) (ts : List Opt) (o : Options) : Prop where
  interface : o.capture.interface = (lastOf (argumentOf 'i') ts).getD []
  dbPath : o.dbPath = (lastOf (argumentOf 'd') ts).getD (ascii "alerts.db")
  suppression : o.config.delivery.alertSuppressionSec = (lastOf (realOf stod 's' positive) ts).getD 5
  scanWindow : o.config.portScan.windowSec = (lastOf (realOf stod 'w' positive) ts).getD 10
  scanThreshold : o.config.portScan.distinctPortThreshold =
    (lastOf (fun t => (intOf stoi 'p' t).map Int32.toUInt32) ts).getD 20
  synRate : o.config.synFlood.synRatePps = (lastOf (realOf stod 'r' positive) ts).getD 50
  alpha : o.config.ewma.alpha = (lastOf (realOf stod 'e' fraction) ts).getD (1 / 8)
  kernelBuffer : o.capture.kernelBufferBytes = (lastOf (intOf stoi 'b') ts).getD 20 * 1024 * 1024
  kernelBufferSize : ∀ v, lastOf (intOf stoi 'b') ts = some v →
    (o.capture.kernelBufferBytes.toInt = v.toInt * 2 ^ 20 ↔ v.toInt < 2048)
  refresh : o.dashboardRefreshMs = (lastOf (intOf stoi 'R') ts).getD 500
  others : o.others = ({} : Options).others

/-- Whatever is on the command line: a configuration that `parse_args` returns is valid, each of its settings is the
last valid one given or the default, and no option changes another's setting. The kernel buffer has the megabytes
asked for exactly when they fit an `int`. -/
theorem parse_args_settings (stod : Octets → Option ℚ) (stoi : Octets → Option Int32) (args : List Octets) (o : Options)
    (h : parseArgs stod stoi args = .options o) : o.Valid ∧ LastWins stod stoi (getopt optstring args) o := by
  refine ⟨acceptAll_invariant Valid (fun _ t valid => valid.setting t) default_valid h, ?_⟩
  have buffer : o.capture.kernelBufferBytes = (lastOf (intOf stoi 'b') (getopt optstring args)).getD 20 * 1024 * 1024 := by
    have last := acceptAll_last (·.capture.kernelBufferBytes) (fun _ _ => rfl) h
    rw [lastOf_map] at last
    rw [last]
    cases lastOf (intOf stoi 'b') (getopt optstring args) <;> rfl
  constructor
  · exact acceptAll_last (·.capture.interface) (fun _ _ => rfl) h
  · exact acceptAll_last (·.dbPath) (fun _ _ => rfl) h
  · exact acceptAll_last (·.config.delivery.alertSuppressionSec) (fun _ _ => rfl) h
  · exact acceptAll_last (·.config.portScan.windowSec) (fun _ _ => rfl) h
  · exact acceptAll_last (·.config.portScan.distinctPortThreshold) (fun _ _ => rfl) h
  · exact acceptAll_last (·.config.synFlood.synRatePps) (fun _ _ => rfl) h
  · exact acceptAll_last (·.config.ewma.alpha) (fun _ _ => rfl) h
  · exact buffer
  · intro v last
    rw [buffer, last]
    exact kernelBufferBytes_iff (lastOf_intOf last)
  · exact acceptAll_last (·.dashboardRefreshMs) (fun _ _ => rfl) h
  · exact acceptAll_invariant (fun o => o.others = ({} : Options).others) (fun _ _ same => same) rfl h

end Parsing

def exampleStod (s : Octets) : Option ℚ :=
  if s = ascii "0.5" then some (1 / 2) else if s = ascii "2" then some 2 else none

def exampleStoi (s : Octets) : Option Int32 := if s = ascii "7" then some 7 else none

/-- Two smoothing factors, of which the second is out of bounds, and a threshold in one element with its option. -/
def exampleArgs : List Octets := [ascii "-e", ascii "0.5", ascii "-p7", ascii "-e2", ascii "--", ascii "-h"]

def exampleOptions : Options where
  config := { ewma := { alpha := 1 / 2 }, portScan := { distinctPortThreshold := 7 } }

theorem parse_args_settings_example : parseArgs exampleStod exampleStoi exampleArgs = .options exampleOptions ∧
    exampleOptions.Valid ∧ LastWins exampleStod exampleStoi (getopt optstring exampleArgs) exampleOptions :=
  have parsed : parseArgs exampleStod exampleStoi exampleArgs = .options exampleOptions := by decide +kernel
  ⟨parsed, parse_args_settings exampleStod exampleStoi exampleArgs exampleOptions parsed⟩

end Options

end Nte
