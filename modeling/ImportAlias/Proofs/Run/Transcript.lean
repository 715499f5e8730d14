import ImportAlias.Proofs.Run.Parallel

/-!
# What a run says to people

What a console has said by the end of a run is the transcript of the events, as every call adds what
the console says to the event. A console neither touches the tree nor fails, so the events are the
same for every console. Colour shows in the lines for changes only: with and without
it the transcripts of some events agree exactly if no change is among them.
-/
namespace ImportAlias

namespace Console

/-- A console that has been told of some events. -/
def after (cwd : Path) (c : Console) (events : List Event) : Console :=
  events.foldl (fun c e => (c.step cwd e).1) c

/-- All that a console says to some events. -/
def transcript (cwd : Path) : Console → List Event → Text
  | _, [] => []
  | c, e :: events => (c.step cwd e).2 ++ transcript cwd (c.step cwd e).1 events

theorem after_concat (cwd : Path) (c : Console) (events : List Event) (e : Event) :
    c.after cwd (events ++ [e]) = ((c.after cwd events).step cwd e).1 := by
  rw [after, List.foldl_append]
  rfl

theorem transcript_concat (cwd : Path) (c : Console) (events : List Event) (e : Event) :
    c.transcript cwd (events ++ [e]) =
      c.transcript cwd events ++ ((c.after cwd events).step cwd e).2 := by
  induction events generalizing c with
  | nil => exact List.append_nil _
  | cons first events ih =>
    rw [List.cons_append, transcript, transcript, ih, List.append_assoc]
    rfl

theorem length_green (t : Text) : (green t).length = t.length + 17 := by
  have hlength : ∀ first last : Text, first.length = 13 → last.length = 4 →
      (first ++ t ++ last).length = t.length + 17 := by
    intro first last hfirst hlast
    rw [List.length_append, List.length_append, hfirst, hlast]
    omega
  exact hlength _ _ (by decide) (by decide)

/-- Each line for a change is longer by the control sequences around its label. -/
theorem length_transcript_coloured (cwd : Path) (mode : Mode) (events : List Event) :
    (transcript cwd ⟨true, mode⟩ events).length =
      (transcript cwd ⟨false, mode⟩ events).length +
        17 * (events.filterMap Event.change?).length := by
  induction events generalizing mode with
  | nil => rfl
  | cons e events ih =>
    cases e with
    | start s =>
      rw [List.filterMap_cons_none rfl, transcript, transcript, List.length_append,
        List.length_append]
      have hrest := ih s.mode
      simp only [step, line]
      omega
    | change ch =>
      rw [List.filterMap_cons_some (f := Event.change?) rfl, transcript, transcript, List.length_append,
        List.length_append, List.length_cons]
      have hrest := ih mode
      have hlabel := length_green (label mode)
      simp only [step, line, if_true, Bool.false_eq_true, if_false, List.length_append]
      omega
    | finish s =>
      rw [List.filterMap_cons_none rfl, transcript, transcript, List.length_append,
        List.length_append]
      have hrest := ih mode
      simp only [step, line]
      omega

theorem transcript_eq_of_no_change (cwd : Path) (mode : Mode) {events : List Event}
    (h : ∀ ch, .change ch ∉ events) :
    transcript cwd ⟨true, mode⟩ events = transcript cwd ⟨false, mode⟩ events := by
  induction events generalizing mode with
  | nil => rfl
  | cons e events ih =>
    have hrest : ∀ ch, .change ch ∉ events := fun ch hch => h ch (List.mem_cons_of_mem e hch)
    cases e with
    | start s => exact congrArg (banner cwd s ++ ['\n'] ++ ·) (ih s.mode hrest)
    | change ch => exact absurd List.mem_cons_self (h ch)
    | finish s => exact congrArg (closing s ++ ['\n'] ++ ·) (ih mode hrest)

/-- Colour makes no difference exactly where no change is told of. -/
theorem transcript_coloured_eq_iff (cwd : Path) (mode : Mode) (events : List Event) :
    transcript cwd ⟨false, mode⟩ events = transcript cwd ⟨true, mode⟩ events ↔
      ∀ ch, .change ch ∉ events := by
  constructor
  · intro heq ch hch
    have hlength := length_transcript_coloured cwd mode events
    rw [heq] at hlength
    have hnone : events.filterMap Event.change? = [] := List.length_eq_zero_iff.1 (by omega)
    have hmem : ch ∈ events.filterMap Event.change? := List.mem_filterMap.2 ⟨_, hch, rfl⟩
    rw [hnone] at hmem
    cases hmem
  · intro h
    exact (transcript_eq_of_no_change cwd mode h).symm

end Console

namespace Run

/-- A console is in the state that the events have left it in, and what has been put out is what it
has said to them. -/
structure Voiced (cwd : Path) (c : Console) (w : World Reporter) : Prop where
  listener : w.listener = .console (c.after cwd w.events)
  output : w.output = c.transcript cwd w.events

section Voiced
variable {cwd : Path} {c : Console} {w : World Reporter}

theorem Voiced.stored (h : Voiced cwd c w) (s : Settings) (d : Due) :
    Voiced cwd c (stored s w d) := by
  constructor
  · rw [listener_stored, events_stored, h.listener]
  · rw [output_stored, events_stored, h.output]

theorem Voiced.told (h : Voiced cwd c w) (e : Event) :
    Voiced cwd c (w.told (reporting cwd) e) := by
  constructor
  · simp only [World.told, reporting, h.listener, Reporter.step, Console.after_concat]
  · simp only [World.told, reporting, h.listener, h.output, Reporter.step,
      Console.transcript_concat]

theorem voiced_heard (cwd : Path) (c : Console) (s : Settings) (t : Tree) (budget : Nat) :
    Voiced cwd c (heard budget (reporting cwd) (.console c) s t).state.world :=
  world_heard (fun _ d h => h.stored s d) (fun _ e h => h.told e) ⟨rfl, rfl⟩ budget

end Voiced

/-- All consoles are told of the same events, and each says what it has to say to them. -/
theorem output_console (c c' : Console) (s : Settings) (t : Tree) :
    (reported (.console c) s t).state.output =
      c.transcript t.cwdPath (reported (.console c') s t).state.events := by
  have hpassive := passive_reporting t.cwdPath
  have hevents : (reported (.console c) s t).state.events =
      (reported (.console c') s t).state.events :=
    events_heard_eq hpassive hpassive (Nat.le_refl _) (Nat.le_refl _)
      (result?_reporting_ne_output (by simp) _ _ _) (result?_reporting_ne_output (by simp) _ _ _)
  rw [← hevents]
  exact (voiced_heard t.cwdPath c s t (Walk.budget t)).output

end Run

end ImportAlias
