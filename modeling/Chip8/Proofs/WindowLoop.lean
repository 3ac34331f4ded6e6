import Chip8.Host.Window
import Chip8.Proofs.Chunking
import Chip8.Proofs.Diagnosis
import Chip8.Proofs.Reachable

/-! The loop of a window as a sequence of inputs: the events one by one, and a frame at the end of
every turn. A session that has halted stands still at the instruction that failed until it is
reset, a paused one stands still as well, and a reset is a fresh start from the key at which the
random stream has arrived, whatever came before. -/
namespace Chip8

namespace Session

/-- A verdict that halts is about a fault, and leaves the machine as it was. -/
theorem judge_of_halted {s : Session} {m : Machine} {fault : Option Fault}
    (h : (s.judge m fault).halted = true) :
    (s.judge m fault).machine = m ∧ ∃ f, fault = some f := by
  cases fault with
  | none => cases h
  | some f =>
    unfold judge at h ⊢
    dsimp only at h ⊢
    split at h
    · cases h
    · rename_i stays
      rw [if_neg stays]
      exact ⟨rfl, f, rfl⟩

end Session

namespace Window

/-- What a window goes through: an event arrives, or a frame is due. -/
inductive Input
  | event (e : Event)
  | frame
deriving DecidableEq

/-- The key that resets the machine. -/
def resetKey : Input := .event (.pressed "F5")

def step (s : Session) (w : Window) : Input → Window
  | .event e => (w.handle s e).1
  | .frame => (w.advance s).1

def play (s : Session) (w : Window) (inputs : List Input) : Window := inputs.foldl (step s) w

/-- The inputs of one turn. -/
def inputsOf (events : List Event) : List Input := events.map .event ++ [.frame]

theorem handleAll_eq_play (s : Session) (w : Window) (events : List Event) :
    (w.handleAll s events).1 = w.play s (events.map .event) := by
  induction events generalizing w with
  | nil => rfl
  | cons e events ih => exact ih (w.handle s e).1

theorem play_append (s : Session) (w : Window) (first rest : List Input) :
    w.play s (first ++ rest) = (w.play s first).play s rest :=
  List.foldl_append

theorem turn_eq_play (s : Session) (scheme : Scheme) (w : Window) (events : List Event) :
    (w.turn s scheme events).1 = w.play s (inputsOf events) := by
  rw [inputsOf, play_append, ← handleAll_eq_play]
  rfl

/-- The windows at the end of every turn; the turn that closes the window is the last. -/
def windows (s : Session) : Window → List (List Event) → List Window
  | _, [] => []
  | w, events :: rest =>
    let w := w.play s (inputsOf events)
    w :: if w.isOpen then windows s w rest else []

/-- What a window shows. -/
def view (s : Session) (scheme : Scheme) (w : Window) : Image × Option (List String) :=
  (w.image s.settings.scale scheme, if w.overlay then some w.overlayLines else none)

def Shot.view (shot : Shot) : Image × Option (List String) := (shot.image, shot.overlay)

theorem view_turn (s : Session) (scheme : Scheme) (w : Window) (events : List Event) :
    (w.turn s scheme events).2.view = (w.play s (inputsOf events)).view s scheme := by
  rw [← turn_eq_play s scheme]
  rfl

/-- The turns of the loop show the windows that the inputs lead to. -/
theorem view_turns (s : Session) (scheme : Scheme) (w : Window) (schedule : List (List Event)) :
    (w.turns s scheme schedule).map Shot.view =
      (windows s w (schedule ++ [[.quit]])).map (view s scheme) := by
  induction schedule generalizing w with
  | nil => simp [turns, windows, view_turn]
  | cons events rest ih =>
    simp only [turns, turn_eq_play, List.cons_append, windows]
    split
    · simp [view_turn, ih]
    · simp [view_turn]

/-- A loop whose frames cannot be counted shows the same windows up to its first frame. -/
theorem view_idleTurns (s : Session) (scheme : Scheme) (w : Window)
    (schedule : List (List Event)) :
    (w.idleTurns s scheme schedule).1.map Shot.view <+:
      (windows s w (schedule ++ [[.quit]])).map (view s scheme) := by
  induction schedule generalizing w with
  | nil =>
    rw [idleTurns]
    split
    · exact List.nil_prefix
    · simp [windows, view_turn]
  | cons events rest ih =>
    rw [idleTurns]
    split
    · exact List.nil_prefix
    · simp only [turn_eq_play, List.cons_append, windows]
      split
      · simp [view_turn, ih]
      · simp [view_turn]

/-- Only the reset key reaches the machine or takes back a halt. -/
theorem handle_of_ne {s : Session} {w : Window} {e : Event} (h : e ≠ .pressed "F5") :
    (w.handle s e).1.machine = w.machine ∧ (w.handle s e).1.halted = w.halted := by
  unfold handle
  split
  case h_5 => exact absurd rfl h
  case h_6 => split <;> exact ⟨rfl, rfl⟩
  case h_7 => split <;> exact ⟨rfl, rfl⟩
  all_goals exact ⟨rfl, rfl⟩

theorem advance_of_idle {s : Session} {w : Window} (h : w.paused = true ∨ w.halted = true) :
    (w.advance s).1 = w := by
  have idle : (w.paused || w.halted) = true := by simpa using h
  rw [advance, if_pos idle]

/-- A frame that is run puts the verdict on it into the window. -/
theorem step_frame_of_running {s : Session} {w : Window} (active : w.paused = false)
    (running : w.halted = false) :
    let r := Session.frame s.perTick s.perFrame w.keypad.mask w.machine
    let v := s.judge r.machine r.fault
    w.step s .frame = { w with machine := v.machine, halted := v.halted } := by
  have busy : ¬(w.paused || w.halted) = true := by simp [active, running]
  simp only [step, advance, if_neg busy]

/-- While the session is paused, only the reset key changes the machine. -/
theorem step_of_paused {s : Session} {w : Window} {i : Input} (paused : w.paused = true)
    (other : i ≠ resetKey) : (w.step s i).machine = w.machine := by
  cases i with
  | event e => exact (handle_of_ne fun h => other (congrArg _ h)).1
  | frame => exact congrArg machine (advance_of_idle (.inl paused))

theorem step_of_halted {s : Session} {w : Window} {i : Input} (halted : w.halted = true)
    (other : i ≠ resetKey) :
    (w.step s i).machine = w.machine ∧ (w.step s i).halted = true := by
  cases i with
  | event e =>
    obtain ⟨machine, kept⟩ := handle_of_ne (s := s) (w := w) fun h => other (congrArg Input.event h)
    exact ⟨machine, kept.trans halted⟩
  | frame =>
    have same : w.step s .frame = w := advance_of_idle (.inr halted)
    rw [same]
    exact ⟨rfl, halted⟩

/-- A halted session stands still as long as it is not reset. -/
theorem play_of_halted {s : Session} {w : Window} {inputs : List Input} (halted : w.halted = true)
    (others : resetKey ∉ inputs) :
    (w.play s inputs).machine = w.machine ∧ (w.play s inputs).halted = true := by
  induction inputs generalizing w with
  | nil => exact ⟨rfl, halted⟩
  | cons i inputs ih =>
    obtain ⟨first, rest⟩ := List.ne_and_not_mem_of_not_mem_cons others
    obtain ⟨machine, still⟩ := step_of_halted (s := s) halted first.symm
    obtain ⟨machine', halted'⟩ := ih still rest
    exact ⟨machine'.trans machine, halted'⟩

/-- A frame that halts leaves the machine at the instruction that failed. -/
theorem step_error_of_halt {s : Session} {w : Window} (running : w.halted = false)
    (halts : (w.step s .frame).halted = true) :
    ∃ fault, (Session.frame s.perTick s.perFrame w.keypad.mask w.machine).fault = some fault ∧
      (w.step s .frame).machine.step = .error fault := by
  cases active : w.paused with
  | true =>
    have same : w.step s .frame = w := advance_of_idle (.inl active)
    rw [same, running] at halts
    cases halts
  | false =>
    rw [step_frame_of_running active running] at halts ⊢
    obtain ⟨machine, fault, failed⟩ := Session.judge_of_halted halts
    refine ⟨fault, failed, ?_⟩
    dsimp only
    rw [machine, Machine.step_eq_error_iff]
    exact Machine.obstacle_of_run failed

/-- Every input keeps what holds of a machine in the hands of a host. -/
theorem step_sound {s : Session} {w : Window} (h : w.machine.Sound s.settings.dialect)
    (i : Input) : (w.step s i).machine.Sound s.settings.dialect := by
  cases i with
  | event e =>
    by_cases reset : e = .pressed "F5"
    · subst reset
      exact (h.apply .reset).apply (.load s.program)
    · rw [step, (handle_of_ne reset).1]
      exact h
  | frame =>
    simp only [step, advance]
    split
    · exact h
    · exact (h.apply (.frame s w.keypad.mask)).apply (.judge s _)

theorem play_sound {s : Session} {w : Window} (h : w.machine.Sound s.settings.dialect)
    (inputs : List Input) : (w.play s inputs).machine.Sound s.settings.dialect := by
  induction inputs generalizing w with
  | nil => exact h
  | cons i inputs ih => exact ih (step_sound h i)

end Window

namespace Session

theorem boot_sound {s : Session} {m : Machine} (booted : s.boot? = some m) :
    m.Sound s.settings.dialect := by
  obtain ⟨key, _, rfl⟩ := Option.map_eq_some_iff.mp booted
  exact (Machine.powerOn_sound key s.settings.dialect).apply (.load s.program)

/-- A restart is a power-on with the key at which the random stream has arrived. -/
theorem restart_eq_powerOn {s : Session} {m : Machine} (h : m.Sound s.settings.dialect) :
    s.restart m = s.powerOn m.streamKey := by
  rw [restart, powerOn, Machine.reset, h.dialect]

/-- A program that a session was made from can be loaded at any time. -/
theorem loadBytes_of_ofBytes {s : Session} {settings : Settings} {bytes : Array UInt8}
    (made : ofBytes settings bytes = .ok s) (m : Machine) :
    s.settings = settings ∧ m.loadBytes bytes = .ok (m.load s.program) := by
  unfold ofBytes at made
  unfold Machine.loadBytes
  cases read : Program.ofBytes bytes with
  | error e =>
    rw [read] at made
    cases made
  | ok p =>
    rw [read] at made
    obtain rfl := Except.ok.inj made
    exact ⟨rfl, rfl⟩

end Session

namespace Window

/-- What a window shows are the windows that its schedule leads to, up to the first frame if frames
cannot be counted. -/
theorem view_runWindow {s : Session} {scheme : Scheme} {m : Machine}
    (known : Scheme.named s.settings.colorScheme = .ok scheme) (booted : s.boot? = some m)
    (o : CommandLine.Options) (schedule : List (List Event)) :
    ∃ playback, (Host.runWindow o s schedule).playback = some playback ∧
      let shown := (windows s { machine := m } (schedule ++ [[.quit]])).map (view s scheme)
      playback.shots.map Shot.view <+: shown ∧
      (s.countsFrames = true → playback.shots.map Shot.view = shown) := by
  rw [Host.runWindow, known, booted]
  -- The bounds of a count are large numbers, so the test is not to be unfolded.
  generalize s.countsFrames = counts
  cases counts with
  | true =>
    have same := view_turns s scheme { machine := m } schedule
    exact ⟨_, rfl, same ▸ List.prefix_rfl, fun _ => same⟩
  | false => exact ⟨_, rfl, view_idleTurns s scheme { machine := m } schedule, nofun⟩

/-- The loop of a window on a session made from `bytes`. What it shows are the windows that its
schedule leads to, up to the first frame if frames cannot be counted. Whatever inputs have led to a
window: after a frame that halts, the machine does not change and its next instruction fails as
before until the reset key is pressed; while paused, only that key changes the machine; and the
key loads the program into a machine at power-on with the random stream where it was, taking back
a halt but not a pause. -/
theorem window_stands_until_reset {settings : Settings} {bytes : Array UInt8} {s : Session}
    (made : Session.ofBytes settings bytes = .ok s) {scheme : Scheme}
    (known : Scheme.named settings.colorScheme = .ok scheme) {m : Machine}
    (booted : s.boot? = some m) (o : CommandLine.Options) (schedule : List (List Event)) :
    (∃ playback, (Host.runWindow o s schedule).playback = some playback ∧
      let shown := (windows s { machine := m } (schedule ++ [[.quit]])).map (view s scheme)
      playback.shots.map Shot.view <+: shown ∧
      (s.countsFrames = true → playback.shots.map Shot.view = shown)) ∧
    ∀ inputs, let w : Window := play s { machine := m } inputs
      (w.halted = false → (w.step s .frame).halted = true →
        ∃ fault, (Session.frame s.perTick s.perFrame w.keypad.mask w.machine).fault = some fault ∧
          ∀ later, resetKey ∉ later → let w' := (w.step s .frame).play s later
            w'.halted = true ∧ w'.machine = (w.step s .frame).machine ∧
            w'.machine.step = .error fault) ∧
      (w.paused = true → ∀ i, i ≠ resetKey → (w.step s i).machine = w.machine) ∧
      ∃ m', w.machine.reset.loadBytes bytes = .ok m' ∧ m' = s.powerOn w.machine.streamKey ∧
        w.step s resetKey = { w with machine := m', halted := false } := by
  obtain ⟨kept, -⟩ := Session.loadBytes_of_ofBytes made m
  refine ⟨view_runWindow (kept ▸ known) booted o schedule, fun inputs => ?_⟩
  · intro w
    have sound : w.machine.Sound s.settings.dialect := play_sound (Session.boot_sound booted) inputs
    refine ⟨fun running halts => ?_, fun paused i other => step_of_paused paused other, ?_⟩
    · obtain ⟨fault, failed, stuck⟩ := step_error_of_halt running halts
      refine ⟨fault, failed, fun later others => ?_⟩
      obtain ⟨machine, halted⟩ := play_of_halted (s := s) halts others
      exact ⟨halted, machine, machine ▸ stuck⟩
    · obtain ⟨-, loaded⟩ := Session.loadBytes_of_ofBytes made w.machine.reset
      exact ⟨_, loaded, Session.restart_eq_powerOn sound, rfl⟩

/-- A session on a program that is no instruction. -/
def brokenSession : Session := ⟨⟨#[0xFF, 0xFF], by decide⟩, {}⟩

def brokenMachine : Machine := brokenSession.powerOn ⟨0, 0⟩

theorem decode_brokenMachine : Instruction.decode? (brokenMachine.withKeys 0).fetch = none := by
  have word : (brokenMachine.withKeys 0).fetch = wordOfBytes 0xFF 0xFF :=
    Machine.fetch_of_load (p := brokenSession.program) rfl (k := 0) (by decide) rfl
  rw [word]
  decide

theorem frame_brokenMachine :
    Session.frame brokenSession.perTick brokenSession.perFrame 0 brokenMachine =
      ⟨brokenMachine.withKeys 0, some .unknownOpcode, 0⟩ :=
  (Machine.run_self _ _).trans
    (Machine.cycles_of_error (Machine.cycle_of_unknown decode_brokenMachine _)
      brokenSession.perFrame_pos)

theorem first_frame {s : Session} {m : Machine} {r : Run}
    (ran : Session.frame s.perTick s.perFrame 0 m = r) :
    step s { machine := m } .frame =
      { machine := (s.judge r.machine r.fault).machine
        halted := (s.judge r.machine r.fault).halted } := by
  subst ran
  exact step_frame_of_running rfl rfl

theorem halted_brokenMachine :
    (step brokenSession { machine := brokenMachine } .frame).halted = true := by
  rw [first_frame frame_brokenMachine]
  rfl

/-- It halts in its first frame, stays there while keys come and go, and a reset starts it again. -/
theorem window_stands_until_reset_on_broken_program :
    let s := brokenSession
    let w := step s { machine := brokenMachine } .frame
    let keys : List Input := [.event (.pressed "p"), .event (.pressed "q"), .frame]
    let w' := w.play s keys
    Session.ofBytes {} #[0xFF, 0xFF] = .ok s ∧
    Scheme.named ({} : Settings).colorScheme = .ok ⟨[0, 255, 0], [0, 0, 0]⟩ ∧
    s.boot? = some brokenMachine ∧ w.halted = true ∧ resetKey ∉ keys ∧
    w'.halted = true ∧ w'.machine = w.machine ∧ w'.machine.step = .error .unknownOpcode ∧
    ∃ m', w'.machine.reset.loadBytes #[0xFF, 0xFF] = .ok m' ∧
      w'.step s resetKey = { w' with machine := m', halted := false } := by
  intro s w keys w'
  have made : Session.ofBytes {} #[0xFF, 0xFF] = .ok s := rfl
  have known : Scheme.named ({} : Settings).colorScheme = .ok ⟨[0, 255, 0], [0, 0, 0]⟩ := rfl
  have booted : s.boot? = some brokenMachine := rfl
  have others : resetKey ∉ keys := by decide
  obtain ⟨-, visited⟩ := window_stands_until_reset made known booted { rom := "a.ch8" } []
  obtain ⟨stands, -, -⟩ := visited []
  obtain ⟨fault, caused, still⟩ := stands rfl halted_brokenMachine
  obtain ⟨halted, machine, fails⟩ := still keys others
  have first : fault = .unknownOpcode :=
    Option.some.inj (caused.symm.trans (congrArg Run.fault frame_brokenMachine))
  have next : play s { machine := brokenMachine } (.frame :: keys) = w' := List.foldl_cons ..
  obtain ⟨-, -, m', loaded, -, restarted⟩ := visited (.frame :: keys)
  rw [next] at loaded restarted
  exact ⟨made, known, booted, halted_brokenMachine, others, halted, machine, first ▸ fails, m',
    loaded, restarted⟩

end Window

end Chip8
