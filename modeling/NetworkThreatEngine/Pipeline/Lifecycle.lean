import NetworkThreatEngine.Lib.ThreadOwner

/-!
# Start-up and shutdown

The thread objects of `main`, `CaptureLayer`, `FlowTracker` and `DeliveryLayer`, with each `start`,
`stop` and destructor where `main` runs it, beside the threads themselves and the signal handler.
-/
namespace Nte.Lifecycle
open Transition ThreadOwner

/-- The atomic flags, and for each global pointer whether it is set. -/
inductive Flag where
  | shutdownFlag
  | ringShutdown
  | captureRunning
  | trackerRunning
  | deliveryRunning
  | ringBuffer
  | capture
  | flowTracker
  | delivery
  deriving DecidableEq

inductive ThreadName where
  | consumer
  | producer
  | reaper
  | writer
  | dashboard
  deriving DecidableEq

abbrev Code := List (Cmd Flag ThreadName)

/-! ## The layers -/

/-- `CaptureLayer::start`; finding and opening the interface may throw. -/
def captureStart : Code :=
  [.unlessSet .captureRunning [.attempt, .store .captureRunning true, .spawn .producer]]

/-- `CaptureLayer::stop` returns early on a flag that `producer_loop` clears, too. -/
def captureStop : Code :=
  [.whenSet .captureRunning [.store .captureRunning false, .joinIfJoinable .producer]]

def startReaper : Code := [.store .trackerRunning true, .spawn .reaper]

/-- `FlowTracker::stop_reaper` joins whatever the flag says. -/
def stopReaper : Code := [.store .trackerRunning false, .joinIfJoinable .reaper]

/-- `DeliveryLayer::start`; opening the database may throw. -/
def deliveryStart : Code :=
  [.unlessSet .deliveryRunning [.attempt, .store .deliveryRunning true, .spawn .writer, .spawn .dashboard]]

def deliveryStop : Code :=
  [.whenSet .deliveryRunning
    [.store .deliveryRunning false, .joinIfJoinable .writer, .joinIfJoinable .dashboard]]

/-- `pcap_loop` returns whenever it likes: by `pcap_breakloop`, or by an error of the interface. -/
def producerLoop : List (Act Flag) := [.await fun _ => true, .store .captureRunning false]

/-- `pop` returns `false`, or the consumer tests `g_shutdown_flag` after a packet. -/
def consumerThreadFunc : List (Act Flag) := [.await fun flags => flags .shutdownFlag || flags .ringShutdown]

def threadBody : ThreadName → List (Act Flag)
  | .consumer => consumerThreadFunc
  | .producer => producerLoop
  | .reaper => [.await fun flags => !flags .trackerRunning]
  | .writer => [.await fun flags => !flags .deliveryRunning]
  | .dashboard => [.await fun flags => !flags .deliveryRunning]

/-- `signal_handler` raises the flag, then shuts the ring buffer down if there is one. -/
def signalHandler (flags : Flag → Bool) : Flag → Bool → Bool
  | .shutdownFlag, true => true
  | .ringShutdown, true => flags .shutdownFlag && flags .ringBuffer
  | _, _ => false

/-! ## The main thread -/

/-- `make_unique` allocates and runs the constructor. -/
def construct (pointer : Flag) : Code := [.attempt, .store pointer true]

/-- The body of the `try` block. The last `destroy` is the end of the scope of `consumer`. -/
def tryBlock : Code :=
  construct .ringBuffer ++ construct .capture ++ construct .flowTracker ++ [.attempt] ++ construct .delivery ++
    deliveryStart ++ startReaper ++ [.spawn .consumer] ++ captureStart ++ [.join .consumer] ++
    captureStop ++ stopReaper ++ deliveryStop ++ [.destroy .consumer, .endTry]

/-- `reset` clears the pointer and runs the destructor, which stops the layer before its thread objects
are destroyed. -/
def reset (pointer : Flag) (stop : Code) (threads : List ThreadName) : Code :=
  [.whenSet pointer (.store pointer false :: (stop ++ threads.map .destroy))]

/-- The pipeline objects are destroyed in reverse order. -/
def epilogue : Code :=
  reset .delivery deliveryStop [.dashboard, .writer] ++ reset .flowTracker stopReaper [.reaper] ++
    reset .capture captureStop [.producer] ++ reset .ringBuffer [] []

/-- Stack unwinding destroys the local `consumer` before the `catch` block is entered. -/
def catchBlock : Code :=
  [.destroy .consumer, .store .shutdownFlag true, .whenSet .ringBuffer [.store .ringShutdown true],
    .whenSet .delivery deliveryStop, .whenSet .flowTracker stopReaper, .whenSet .capture captureStop]

/-- The producer thread clears its layer's flag, the signal handler raises the two of the shutdown. -/
def sharedStore : Flag → Bool → Bool
  | .captureRunning, false => true
  | .shutdownFlag, true => true
  | .ringShutdown, true => true
  | _, _ => false

theorem threadBody_shared (t : ThreadName) (f : Flag) (b : Bool) (h : .store f b ∈ threadBody t) :
    sharedStore f b = true := by
  cases t with
  | producer =>
      simp only [threadBody, producerLoop, List.mem_cons, reduceCtorEq, Act.store.injEq, List.not_mem_nil,
        or_false, false_or] at h
      obtain ⟨rfl, rfl⟩ := h
      rfl
  | consumer => simp [threadBody, consumerThreadFunc] at h
  | reaper => simp [threadBody] at h
  | writer => simp [threadBody] at h
  | dashboard => simp [threadBody] at h

theorem signalHandler_shared (flags : Flag → Bool) (f : Flag) (b : Bool) (h : signalHandler flags f b = true) :
    sharedStore f b = true := by
  revert h
  fun_cases signalHandler flags f b <;> simp [sharedStore]

def program : Program Flag ThreadName where
  code := tryBlock ++ epilogue
  handler := catchBlock ++ epilogue
  body := threadBody
  outside := signalHandler
  shared := sharedStore
  body_shared := threadBody_shared
  outside_shared := signalHandler_shared

abbrev MainState := State Flag ThreadName

/-! ## Orderly runs -/

/-- No exception leaves the `try` block while `consumer` is joinable, and where `CaptureLayer::stop` tests
`running_` with a thread to join, `producer_loop` has not cleared it. -/
def orderly : Trust Flag ThreadName where
  unwound := .consumer
  flag := .captureRunning
  worker := .producer

def layerFlags : List Flag :=
  [.captureRunning, .trackerRunning, .deliveryRunning, .ringBuffer, .capture, .flowTracker, .delivery]

/-- All threads have been joined, no layer runs and the pipeline objects are gone. -/
structure Stopped (s : MainState) : Prop where
  joined : ∀ t, (s.threads t).joinable = false
  down : ∀ f ∈ layerFlags, s.flags f = false

theorem program_passes :
    check program orderly [.consumer, .producer, .reaper, .writer, .dashboard] layerFlags 80 (.start program)
      (some program.handler) program.code = true := by
  decide +kernel

/-- In an orderly run the process is never terminated, and when `main` returns everything has been
stopped. -/
theorem orderly_run_stops (as : List (Label Flag ThreadName)) (s : MainState)
    (guarded : program.machine.Guarded orderly.Holds program.machine.start as)
    (hrun : program.machine.run program.machine.start as = some s) :
    s.terminated = false ∧ (s.code = [] → Stopped s) := by
  obtain ⟨alive, stopped⟩ := check_sound 80 program_passes guarded hrun
  refine ⟨alive, fun ended => ?_⟩
  obtain ⟨idle, down⟩ := stopped ended
  refine ⟨fun t => idle t ?_, down⟩
  cases t <;> decide

/-- All layers are started; `main` waits for the consumer. -/
def startUp : List (Label Flag ThreadName) := List.replicate 21 .owner

/-- Ctrl-C: the consumer returns. -/
def signal : List (Label Flag ThreadName) :=
  [.outside .shutdownFlag true, .outside .ringShutdown true, .thread .consumer, .thread .consumer]

/-- `main` stops the reaper and the delivery layer and leaves the `try` block. -/
def stopOthers : List (Label Flag ThreadName) :=
  [.owner, .thread .reaper, .thread .reaper, .owner, .owner, .owner, .thread .writer, .thread .writer,
    .thread .dashboard, .thread .dashboard, .owner, .owner, .owner, .owner]

/-- The signal handler makes `pcap_loop` return, after `stop` has tested the flag. -/
def interruptedRun : List (Label Flag ThreadName) :=
  startUp ++ signal ++ [.owner, .owner, .owner, .thread .producer, .thread .producer, .thread .producer, .owner] ++
    stopOthers ++ List.replicate 16 .owner

theorem orderly_run_stops_interrupted :
    ∃ s, program.machine.run program.machine.start interruptedRun = some s ∧ s.terminated = false ∧ Stopped s := by
  have guarded : program.machine.Guarded orderly.Holds program.machine.start interruptedRun := by decide +kernel
  have returns : (program.machine.run program.machine.start interruptedRun).any (·.code.isEmpty) = true := by
    decide +kernel
  obtain ⟨s, hrun, ended⟩ := (Option.any_eq_true _ _).mp returns
  obtain ⟨alive, stopped⟩ := orderly_run_stops interruptedRun s guarded hrun
  exact ⟨s, hrun, alive, stopped (List.isEmpty_iff.mp ended)⟩

/-! ## Threads left joinable -/

/-- `pcap_loop` ends by an error of the interface and `producer_loop` clears the flag; at the next Ctrl-C
`stop` returns early, and the destructor of `CaptureLayer` meets a joinable thread. -/
def interfaceErrorRun : List (Label Flag ThreadName) :=
  startUp ++ [.thread .producer, .thread .producer, .thread .producer] ++ signal ++ [.owner, .owner] ++
    stopOthers ++ List.replicate 14 .owner

/-- The interface cannot be opened: the exception destroys the running `consumer`. -/
def openFailsRun : List (Label Flag ThreadName) := List.replicate 18 .owner ++ [.throw, .owner]

theorem thread_left_joinable :
    (∃ s, program.machine.run program.machine.start interfaceErrorRun = some s ∧ s.terminated = true) ∧
      ∃ s, program.machine.run program.machine.start openFailsRun = some s ∧ s.terminated = true :=
  ⟨Option.map_eq_some_iff.mp (by decide +kernel), Option.map_eq_some_iff.mp (by decide +kernel)⟩

end Nte.Lifecycle
