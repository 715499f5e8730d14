import ImportAlias.Proofs.Rule.Idempotence
import ImportAlias.Proofs.Run.History
import Mathlib.Data.List.Nodup

/-!
# What a run accounts for

A run that ends well has told of its start, of each change in its summary and of its end, and the
numbers in the summary are those of its changes. `Run.Accounts` is what holds of a run that goes on,
after every step that does not stop it and whatever the listener does to the tree. A text differs
from what a rule makes of it only if the rule has counted something, so every change counts.
-/
namespace ImportAlias

namespace Run

theorem one_le_count_of_due? {s : Settings} {t : Tree} {p : Path} {d : Due}
    (h : due? s t p = some d) : 1 ≤ d.change.count := by
  obtain ⟨place, bytes, old, -, -, hother, rfl⟩ := exists_of_due? h
  by_contra hcount
  have hzero : ((Rule.ofSettings s).apply (Document.relativeTo s.root p) old).1.count = 0 := by
    simpa using hcount
  exact hother (Rule.output_of_count_eq_zero hzero)

section Ends
variable {σ : Type} {l : Listener σ} {s : Settings} {st : State σ} {P R : State σ → Prop}

/-- A run has nothing left to visit, or is not followed any further, or something has stopped it:
`P` is what holds while it goes on, and `R` what holds where it was stopped. -/
inductive Ends (l : Listener σ) (s : Settings) (P R : State σ → Prop) (out : Outcome σ) : Prop
  | finished {last : State σ} (hstate : P last) (hpending : last.pending = [])
      (hout : out = step l s last)
  | unfinished (hstate : P out.state) (hresult : out.result? = none)
  | stopped {e : Error} (hstate : R out.state) (hresult : out.result? = some (.error e))

/-- Only a run with nothing left ends well. -/
theorem result?_ne_ok (hpending : st.pending ≠ []) (summary : Summary) :
    (step l s st).result? ≠ some (.ok summary) := by
  intro hok
  rcases pending_cases st.pending with hnil | ⟨p, rest, hfile⟩ | ⟨item, rest, hitem, hopen⟩
  · exact absurd hnil hpending
  · obtain ⟨f, failure?, -, -, -, -, hresult⟩ := step_file (l := l) (s := s) hfile
    rw [hok] at hresult
    cases failure? <;> cases hresult
  · obtain ⟨-, -, -, ⟨_, -, -, hresult⟩ | ⟨_, -, -, hresult⟩⟩ :=
      step_open (l := l) (s := s) hitem hopen
    · rw [hok] at hresult
      cases hresult
    · rw [hok] at hresult
      cases hresult

theorem ends_steps
    (hgoes : ∀ st, P st → (step l s st).result? = none → P (step l s st).state)
    (hstops : ∀ st, P st → st.pending ≠ [] → R (step l s st).state) (h : P st) (n : Nat) :
    Ends l s P R (steps l s n st) := by
  induction n generalizing st with
  | zero => exact .unfinished h rfl
  | succ n ih =>
    cases hresult : (step l s st).result? with
    | none =>
      rw [steps_succ_of_none hresult]
      exact ih (hgoes st h hresult)
    | some result =>
      rw [steps_succ_of_some hresult]
      by_cases hpending : st.pending = []
      · exact .finished h hpending rfl
      · cases result with
        | ok summary => exact absurd hresult (result?_ne_ok hpending summary)
        | error e => exact .stopped (hstops st h hpending) hresult

theorem ends_heard {a : σ} {t : Tree} (hinitial : R (initial s a t))
    (hstart : t.isDir s.root = true → P (call l (initial s a t) (.start s)).1)
    (hweaker : ∀ st, P st → R st)
    (hgoes : ∀ st, P st → (step l s st).result? = none → P (step l s st).state)
    (hstops : ∀ st, P st → st.pending ≠ [] → R (step l s st).state) (budget : Nat) :
    Ends l s P R (heard budget l a s t) := by
  rw [heard]
  split
  · rename_i hdir
    have hcalled := hstart hdir
    generalize call l (initial s a t) (.start s) = called at hcalled
    obtain ⟨st, failure?⟩ := called
    cases failure? with
    | none => exact ends_steps hgoes hstops hcalled budget
    | some e => exact .stopped (hweaker st hcalled) rfl
  · exact .stopped hinitial rfl

end Ends

/-- What has been told, the summary and the files visited agree with one another. -/
structure Accounts (s : Settings) (events : List Event) (summary : Summary)
    (visited : List Path) : Prop where
  events : events = .start s :: summary.changes.map .change
  filesChanged : summary.filesChanged = summary.changes.length
  filesScanned : summary.filesScanned = visited.length
  importsChanged : summary.importsChanged = summary.changes.foldl (fun n c => n + c.count) 0
  counts : ∀ c ∈ summary.changes, 1 ≤ c.count
  walked : (summary.changes.map Change.path).Sublist visited

theorem accounts_start (s : Settings) : Accounts s [.start s] (.start s) [] := by
  refine ⟨rfl, rfl, rfl, rfl, ?_, List.Sublist.refl []⟩
  intro c hc
  cases hc

section Entries
variable {s : Settings} {events : List Event} {summary : Summary} {visited : List Path}

/-- A file that is kept is counted as visited. -/
theorem Accounts.kept (h : Accounts s events summary visited) (p : Path) :
    Accounts s events summary.scanned (visited ++ [p]) := by
  refine ⟨h.events, h.filesChanged, ?_, h.importsChanged, h.counts, ?_⟩
  · simp [Summary.scanned, h.filesScanned]
  · exact h.walked.trans (List.sublist_append_left _ _)

/-- A file that is changed is told of, and its count is added. -/
theorem Accounts.changed (h : Accounts s events summary visited) {c : Change}
    (hcount : 1 ≤ c.count) :
    Accounts s (events ++ [.change c]) (summary.scanned.record c) (visited ++ [c.path]) := by
  constructor
  · simp [Summary.record, Summary.scanned, h.events]
  · simp [Summary.record, Summary.scanned, h.filesChanged]
  · simp [Summary.record, Summary.scanned, h.filesScanned]
  · simp [Summary.record, Summary.scanned, h.importsChanged]
  · intro other hother
    rcases List.mem_append.1 hother with hold | hnew
    · exact h.counts other hold
    · obtain rfl := List.mem_singleton.1 hnew
      exact hcount
  · have hwalked := h.walked.append (List.Sublist.refl [c.path])
    simpa [Summary.record, Summary.scanned] using hwalked

end Entries

section Runs
variable {σ : Type} {l : Listener σ} {s : Settings} {st : State σ}

/-- A step after which the run goes on keeps the accounts right. -/
theorem Accounts.step (h : Accounts s st.events st.summary st.visited)
    (hgoes : (step l s st).result? = none) :
    let after := (step l s st).state
    Accounts s after.events after.summary after.visited := by
  intro after
  rcases pending_cases st.pending with hnil | ⟨p, rest, hfile⟩ | ⟨item, rest, hitem, hopen⟩
  · obtain ⟨-, -, -, hresult⟩ := step_finish (l := l) (s := s) hnil
    rw [hgoes] at hresult
    cases hresult
  · obtain ⟨f, failure?, hvisit, -, hvisited, hsummary, hresult⟩ :=
      step_file (l := l) (s := s) hfile
    rw [hgoes] at hresult
    generalize hworld : (Run.step l s st).state.world = w at hvisit
    -- The two other kinds of visit stop the run.
    cases hvisit with
    | unreadable _ => cases hresult
    | refused _ _ => cases hresult
    | kept _ _ =>
      have hevents : after.events = st.events := congrArg World.events hworld
      rw [hevents, hsummary, hvisited]
      exact h.kept p
    | @changed d hdue _ =>
      have hevents : after.events = st.events ++ [.change d.change] :=
        (congrArg World.events hworld).trans
          (congrArg (· ++ [Event.change d.change]) (events_stored s st.world d))
      obtain ⟨-, hpath, -⟩ := warranted_of_due? hdue
      rw [hevents, hsummary, hvisited, ← hpath]
      exact h.changed (one_le_count_of_due? hdue)
  · obtain ⟨hworld, hvisited, hsummary, -⟩ := step_open (l := l) (s := s) hitem hopen
    have hevents : after.events = st.events := congrArg World.events hworld
    rw [hevents, hsummary, hvisited]
    exact h

/-- A run that ends well has come to its last step with its accounts right. -/
theorem exists_accounts {a : σ} {t : Tree} {budget : Nat} {summary : Summary}
    (h : (heard budget l a s t).result? = some (.ok summary)) :
    ∃ last, Accounts s last.events last.summary last.visited ∧ last.pending = [] ∧
      last.summary = summary ∧ heard budget l a s t = Run.step l s last := by
  have hstart : let st := (call l (initial s a t) (.start s)).1
      Accounts s st.events st.summary st.visited := by
    intro st
    obtain ⟨hworld, -, hvisited, hsummary, -⟩ := call_told l (initial s a t) (.start s)
    have hevents : st.events = [.start s] := congrArg World.events hworld
    rw [hevents, hsummary, hvisited]
    exact accounts_start s
  have hends : Ends l s (fun st => Accounts s st.events st.summary st.visited) (fun _ => True)
      (heard budget l a s t) :=
    ends_heard trivial (fun _ => hstart) (fun _ _ => trivial) (fun _ hst hgoes => hst.step hgoes)
      (fun _ _ _ => trivial) budget
  cases hends with
  | unfinished _ hresult =>
    rw [h] at hresult
    cases hresult
  | stopped _ hresult =>
    rw [h] at hresult
    cases hresult
  | @finished last hlast hpending hout =>
    obtain ⟨-, -, -, hresult⟩ := step_finish (l := l) (s := s) hpending
    rw [← hout, h] at hresult
    cases hanswer : last.world.answer? l (.finish last.summary) with
    | some reason =>
      rw [hanswer] at hresult
      cases hresult
    | none =>
      rw [hanswer] at hresult
      obtain rfl : summary = last.summary := by simpa using hresult
      exact ⟨last, hlast, hpending, rfl, hout⟩

/-- Whatever becomes of the tree, the files that are come to stand below the root, and apart. -/
theorem frontier_visited (l : Listener σ) (a : σ) {s : Settings} {t : Tree}
    (hdir : t.isDir s.root = true) (budget : Nat) :
    Walk.Frontier s.root (heard budget l a s t).state.visited := by
  have hne := Tree.bytes_ne_nil_of_isDir hdir
  have hinitial := account_initial l s a t
  have haccount := heard_induction (P := Account l s { tree := t, listener := a }) hinitial
    (fun _ => hinitial.call rfl) (fun _ _ h => h.step hne) budget
  exact haccount.frontier.sublist (List.sublist_append_left _ _)

/-- No file is come to twice. -/
theorem nodup_visited (l : Listener σ) (a : σ) (s : Settings) (t : Tree) (budget : Nat) :
    (heard budget l a s t).state.visited.Nodup := by
  by_cases hdir : t.isDir s.root = true
  · exact (frontier_visited l a hdir budget).nodup (Tree.bytes_ne_nil_of_isDir hdir)
  · rw [heard_of_not_isDir hdir]
    exact List.nodup_nil

/-- A run that ends well has told its listener of the start, then of the changes in its summary, one
by one and in order, and then of the end. The summary numbers these changes and the clauses that
they replace, of which each change has at least one. They are changes to different files, in the
order in which the walk came to them. -/
theorem events_of_heard_ok (l : Listener σ) (a : σ) (s : Settings) (t : Tree) (budget : Nat)
    (summary : Summary) (h : (heard budget l a s t).result? = some (.ok summary)) :
    let out := (heard budget l a s t).state
    out.events = .start s :: summary.changes.map .change ++ [.finish summary] ∧
      summary.filesChanged = summary.changes.length ∧
      summary.filesChanged ≤ summary.filesScanned ∧ summary.filesScanned = out.visited.length ∧
      summary.importsChanged = summary.changes.foldl (fun n c => n + c.count) 0 ∧
      (∀ c ∈ summary.changes, 1 ≤ c.count) ∧ (summary.changes.map Change.path).Nodup ∧
      (summary.changes.map Change.path).Sublist out.visited := by
  intro out
  have hnodup : out.visited.Nodup := nodup_visited l a s t budget
  obtain ⟨last, hlast, hpending, rfl, hout⟩ := exists_accounts h
  obtain ⟨hworld, -, hvisited, -⟩ := step_finish (l := l) (s := s) hpending
  have hstate : out = (step l s last).state := congrArg Outcome.state hout
  have hevents : (step l s last).state.events = last.events ++ [.finish last.summary] :=
    congrArg World.events hworld
  have hwalked : (last.summary.changes.map Change.path).Sublist out.visited := by
    rw [hstate, hvisited]
    exact hlast.walked
  have hlength := hwalked.length_le
  rw [List.length_map] at hlength
  refine ⟨?_, hlast.filesChanged, ?_, ?_, hlast.importsChanged, hlast.counts,
    hnodup.sublist hwalked, hwalked⟩
  · rw [hstate, hevents, hlast.events]
  · rw [hlast.filesChanged, hlast.filesScanned, ← hvisited, ← hstate]
    exact hlength
  · rw [hlast.filesScanned, ← hvisited, ← hstate]

end Runs

section Sample

/-- Puts a file beside the others when the run starts, and takes it away when it has changed. -/
def restlessListener : Listener Unit where
  hear _ e _ :=
    match e with
    | .start _ =>
      ((), { edits := [⟨Path.ofText "g.ts".toList,
        some (.file (Utf8.encode "from '../../lib'; from './x'".toList))⟩] })
    | .change _ => ((), { edits := [⟨Path.ofText "g.ts".toList, none⟩] })
    | .finish _ => ((), {})

def restlessSettings : Settings := { root := Path.ofText ".".toList }

def restlessTree : Tree :=
  (Tree.empty {} []).put [.ofText "f.ts".toList] (.file (Utf8.encode "from './a'".toList))

def restlessSummary : Summary :=
  { Summary.start restlessSettings with
    filesScanned := 2
    filesChanged := 1
    importsChanged := 1
    changes := [{ path := Path.ofText "./g.ts".toList, relative := "g.ts".toList, count := 1 }] }

/-- The file that is changed is not there before the run, nor after it. -/
theorem events_of_heard_ok_restless :
    let out := heard 10 restlessListener () restlessSettings restlessTree
    let summary := restlessSummary
    out.result? = some (.ok summary) ∧
      out.state.events =
        .start restlessSettings :: summary.changes.map .change ++ [.finish summary] ∧
      summary.filesChanged = summary.changes.length ∧
      summary.filesChanged ≤ summary.filesScanned ∧
      summary.filesScanned = out.state.visited.length ∧
      summary.importsChanged = summary.changes.foldl (fun n c => n + c.count) 0 ∧
      (∀ c ∈ summary.changes, 1 ≤ c.count) ∧ (summary.changes.map Change.path).Nodup ∧
      (summary.changes.map Change.path).Sublist out.state.visited := by
  have hresult : (heard 10 restlessListener () restlessSettings restlessTree).result? =
      some (.ok restlessSummary) := by
    decide +kernel
  exact ⟨hresult, events_of_heard_ok _ _ _ _ _ _ hresult⟩

end Sample

end Run

end ImportAlias
