import ImportAlias.Proofs.Run.Visits
import ImportAlias.Proofs.Walk.Frontier

/-!
# No stale write

The listener of a run may do anything to the tree while it is called, and may end the run. Whatever
it does, a run is a sequence of acts, each a call or a write, that the world goes through one after
the other. Each write is warranted by the tree right before it: the path is read there, and what is
written is what the rule makes of it. No path is written twice, and at each call the files that have
been written are those whose changes have been told.
-/
namespace ImportAlias

/-- What a run does to the world. -/
inductive Act where
  | call (e : Event)
  | write (new : Write)

namespace World
variable {σ : Type}

def perform (l : Listener σ) (w : World σ) : Act → World σ
  | .call e => w.told l e
  | .write new => w.wrote new

/-- The world after some acts. -/
def after (l : Listener σ) (w : World σ) (acts : List Act) : World σ := acts.foldl (perform l) w

theorem after_concat (l : Listener σ) (w : World σ) (acts : List Act) (act : Act) :
    w.after l (acts ++ [act]) = (w.after l acts).perform l act := by
  rw [after, List.foldl_append]
  rfl

end World

/-- The file that an event tells of. -/
def Event.changed? (e : Event) : Option Path := e.change?.map Change.path

namespace Run

/-- The write puts what the rule makes of the file's text in place of that text, and touches nothing
else. -/
structure Warranted (s : Settings) (t : Tree) (new : Write) : Prop where
  changes : ∃ bytes old, t.readFile new.path = .ok bytes ∧ Utf8.decode? bytes = some old ∧
    new.text = ((Rule.ofSettings s).apply (Document.relativeTo s.root new.path) old).1.result old ∧
    new.text ≠ old
  lands : (t.put new.place (.file (Utf8.encode new.text))).readFile new.path =
    .ok (Utf8.encode new.text)
  alone : ∀ place, place ≠ new.place →
    (t.put new.place (.file (Utf8.encode new.text))).entryAt place = t.entryAt place

section Acts
variable {σ : Type} {l : Listener σ} {s : Settings} {w w' start : World σ} {acts : List Act}
  {p : Path}

/-- The files written are those whose changes have been told. -/
def Balanced (s : Settings) (writes : List Write) (events : List Event) : Prop :=
  s.dryRun = false → writes.map Write.path = events.filterMap Event.changed?

/-- A write is warranted, and a call finds its own event told of all files written. -/
def Sound (s : Settings) (w : World σ) : Act → Prop
  | .call e => Balanced s w.writes (w.events ++ [e])
  | .write new => Warranted s w.tree new

/-- Acts that are sound, each in the world that it meets, lead from one world to another. -/
inductive History (l : Listener σ) (s : Settings) (start : World σ) : List Act → World σ → Prop
  | nil : History l s start [] start
  | concat {acts : List Act} {w : World σ} (before : History l s start acts w) (act : Act)
      (hsound : Sound s w act) : History l s start (acts ++ [act]) (w.perform l act)

theorem History.after_eq (h : History l s start acts w) : start.after l acts = w := by
  induction h with
  | nil => rfl
  | concat _ _ _ ih => rw [World.after_concat, ih]

theorem History.sound (h : History l s start acts w) {before later : List Act} {act : Act}
    (hacts : acts = before ++ act :: later) : Sound s (start.after l before) act := by
  induction h generalizing later with
  | nil => simp at hacts
  | @concat acts w hbefore last hsound ih =>
    rcases List.eq_nil_or_concat later with rfl | ⟨more, final, rfl⟩
    · obtain ⟨rfl, hlast⟩ := List.append_inj' hacts rfl
      cases hlast
      rw [hbefore.after_eq]
      exact hsound
    · have hsplit : acts ++ [last] = (before ++ act :: more) ++ [final] := by
        rw [hacts]
        simp
      exact ih (List.append_inj' hsplit rfl).1

/-- What is due to a file is warranted. -/
theorem warranted_of_due? {t : Tree} {d : Due} (h : due? s t p = some d) :
    d.write.path = p ∧ d.change.path = p ∧ Warranted s t d.write := by
  obtain ⟨place, bytes, old, hlocate, hdecode, hother, rfl⟩ := exists_of_due? h
  refine ⟨rfl, rfl, ?_, ?_, ?_⟩
  · exact ⟨bytes, old, Tree.readFile_of_locate hlocate, hdecode, rfl, hother⟩
  · exact Tree.readFile_of_locate (Tree.locate_put_file hlocate _)
  · intro other hne
    exact Tree.entryAt_put_file_of_ne (Tree.find?_of_locate hlocate) _ hne

theorem Balanced.told {writes : List Write} {events : List Event} {e : Event}
    (h : Balanced s writes events) (he : e.changed? = none) :
    Balanced s writes (events ++ [e]) := by
  intro hdry
  rw [List.filterMap_append, List.filterMap_cons, he]
  simpa using h hdry

theorem Balanced.changed {writes : List Write} {events : List Event} {new : Write} {e : Event}
    (h : Balanced s writes events) (he : e.changed? = some new.path) :
    Balanced s (writes ++ [new]) (events ++ [e]) := by
  intro hdry
  rw [List.map_append, List.filterMap_append, h hdry, List.filterMap_cons, he]
  rfl

/-- The change of a file goes into the history: a write, unless the run is a dry one, and the call
that tells of it. -/
theorem History.change (h : History l s start acts w) (hbalanced : Balanced s w.writes w.events)
    {d : Due} (hdue : due? s w.tree p = some d) :
    let told := (stored s w d).told l (.change d.change)
    ∃ acts', History l s start acts' told ∧ Balanced s told.writes told.events := by
  obtain ⟨hwrite, hchange, hwarranted⟩ := warranted_of_due? hdue
  cases hdry : s.dryRun with
  | true =>
    have hcall : Balanced s w.writes (w.events ++ [.change d.change]) := by
      intro hwet
      rw [hdry] at hwet
      cases hwet
    rw [stored, hdry]
    exact ⟨_, h.concat (.call (.change d.change)) hcall, hcall⟩
  | false =>
    have htold : Event.changed? (.change d.change) = some d.write.path := by
      rw [hwrite, ← hchange]
      rfl
    have hcall := hbalanced.changed htold
    have hwritten := h.concat (.write d.write) hwarranted
    rw [stored, hdry]
    exact ⟨_, hwritten.concat (.call (.change d.change)) hcall, hcall⟩

/-- A visit writes to the path that is visited, or not at all. -/
theorem Visit.writes_eq {f : Summary → Summary} {failure? : Option Error}
    (h : Visit l s p w w' f failure?) :
    w'.writes = w.writes ∨
      s.dryRun = false ∧ ∃ new : Write, new.path = p ∧ w'.writes = w.writes ++ [new] := by
  have hstored : ∀ d, due? s w.tree p = some d → (stored s w d).writes = w.writes ∨
      s.dryRun = false ∧ ∃ new : Write, new.path = p ∧
        (stored s w d).writes = w.writes ++ [new] := by
    intro d hdue
    rw [writes_stored]
    cases hdry : s.dryRun with
    | true => exact Or.inl rfl
    | false => exact Or.inr ⟨rfl, d.write, (warranted_of_due? hdue).1, rfl⟩
  cases h with
  | unreadable _ => exact Or.inl rfl
  | kept _ _ => exact Or.inl rfl
  | refused hdue _ => exact hstored _ hdue
  | changed hdue _ => exact hstored _ hdue

/-- A visit takes the history on, and leaves it balanced. -/
theorem History.visit (h : History l s start acts w) (hbalanced : Balanced s w.writes w.events)
    {f : Summary → Summary} {failure? : Option Error} (hvisit : Visit l s p w w' f failure?) :
    ∃ acts', History l s start acts' w' ∧ Balanced s w'.writes w'.events := by
  cases hvisit with
  | unreadable _ => exact ⟨acts, h, hbalanced⟩
  | kept _ _ => exact ⟨acts, h, hbalanced⟩
  | refused hdue _ => exact h.change hbalanced hdue
  | changed hdue _ => exact h.change hbalanced hdue

end Acts

section Runs
variable {σ : Type} {l : Listener σ} {s : Settings} {start : World σ} {st : State σ} {p : Path}
  {rest : List Walk.Item}

/-- How a run has come to its state. -/
structure Account (l : Listener σ) (s : Settings) (start : World σ) (st : State σ) : Prop where
  history : ∃ acts, History l s start acts st.world
  balanced : Balanced s st.writes st.events
  dry : s.dryRun = true → st.writes = []
  written : (st.writes.map Write.path).Sublist st.visited
  frontier : Walk.Frontier s.root (st.visited ++ st.pending.map Walk.Item.path)

/-- A call that tells of no change leaves the files as they are counted. -/
theorem Account.call (h : Account l s start st) {e : Event} (he : e.changed? = none) :
    Account l s start (call l st e).1 := by
  obtain ⟨hworld, hpending, hvisited, -⟩ := call_told l st e
  obtain ⟨acts, hacts⟩ := h.history
  have hwrites : (Run.call l st e).1.writes = st.writes := congrArg World.writes hworld
  have hevents : (Run.call l st e).1.events = st.events ++ [e] := congrArg World.events hworld
  have hcall : Balanced s st.writes (st.events ++ [e]) := h.balanced.told he
  constructor
  · rw [hworld]
    exact ⟨_, hacts.concat (.call e) hcall⟩
  · rw [hwrites, hevents]
    exact hcall
  · rw [hwrites]
    exact h.dry
  · rw [hwrites, hvisited]
    exact h.written
  · rw [hvisited, hpending]
    exact h.frontier

theorem Account.step_file (h : Account l s start st) (hpending : st.pending = .file p :: rest) :
    Account l s start (step l s st).state := by
  obtain ⟨f, failure?, hvisit, hrest, hvisited, -, -⟩ := Run.step_file (l := l) (s := s) hpending
  obtain ⟨acts, hacts⟩ := h.history
  obtain ⟨acts', hacts', hbalanced⟩ := hacts.visit h.balanced hvisit
  have hwrites : (step l s st).state.writes = st.writes ∨ s.dryRun = false ∧
      ∃ new : Write, new.path = p ∧ (step l s st).state.writes = st.writes ++ [new] :=
    hvisit.writes_eq
  constructor
  · exact ⟨acts', hacts'⟩
  · exact hbalanced
  · intro hdry
    rcases hwrites with hsame | ⟨hwet, -⟩
    · rw [hsame]
      exact h.dry hdry
    · rw [hdry] at hwet
      cases hwet
  · rw [hvisited]
    rcases hwrites with hsame | ⟨-, new, rfl, hnew⟩
    · rw [hsame]
      exact h.written.trans (List.sublist_append_left _ _)
    · rw [hnew, List.map_append]
      exact h.written.append (List.Sublist.refl _)
  · have hfrontier := h.frontier
    rw [hpending] at hfrontier
    rw [hvisited, hrest, List.append_assoc]
    exact hfrontier

theorem Account.step_open (h : Account l s start st) (hne : s.root.bytes ≠ []) {item : Walk.Item}
    (hitem : ∀ p, item ≠ .file p) (hpending : st.pending = item :: rest) :
    Account l s start (step l s st).state := by
  obtain ⟨hworld, hvisited, -, hopened⟩ := Run.step_open (l := l) (s := s) hitem hpending
  have hwrites : (step l s st).state.writes = st.writes := congrArg World.writes hworld
  have hevents : (step l s st).state.events = st.events := congrArg World.events hworld
  have hfrontier := h.frontier
  rw [hpending] at hfrontier
  constructor
  · rw [hworld]
    exact h.history
  · rw [hwrites, hevents]
    exact h.balanced
  · rw [hwrites]
    exact h.dry
  · rw [hwrites, hvisited]
    exact h.written
  · rw [hvisited]
    rcases hopened with ⟨items, hexpand, hnow, -⟩ | ⟨e, -, hnow, -⟩
    · rw [hnow, List.map_append, ← List.append_assoc]
      rcases Walk.exists_names_of_expand hexpand with hsame | ⟨names, hnames, hpaths⟩
      · rw [hsame, List.append_assoc]
        exact hfrontier
      · rw [hpaths]
        exact hfrontier.opened hne hnames
    · rw [hnow]
      exact hfrontier.sublist ((List.Sublist.refl _).append (List.sublist_cons_self _ _))

/-- Every step takes the account on. -/
theorem Account.step (h : Account l s start st) (hne : s.root.bytes ≠ []) :
    Account l s start (step l s st).state := by
  rcases pending_cases st.pending with hnil | ⟨p, rest, hfile⟩ | ⟨item, rest, hitem, hopen⟩
  · have hstep : (Run.step l s st).state = (Run.call l st (.finish st.summary)).1 := by
      rw [Run.step, hnil]
    rw [hstep]
    exact h.call rfl
  · exact h.step_file hfile
  · exact h.step_open hne hitem hopen

theorem account_initial (l : Listener σ) (s : Settings) (a : σ) (t : Tree) :
    Account l s { tree := t, listener := a } (initial s a t) := by
  constructor
  · exact ⟨[], .nil⟩
  · exact fun _ => rfl
  · exact fun _ => rfl
  · exact List.Sublist.refl []
  · exact Walk.frontier_root s.root

/-- However far a run is followed, and whatever its listener does, the run has gone through acts
that lead from the world at its start to the world that it has reached. Each write puts what the
rule makes of the text that its path leads to right before the write, which is another text. At each
call of a run that is not dry, the files written so far are those of the changes told so far, this
one included. No path is written twice, each was come to by the walk, and a dry run writes
nothing. -/
theorem exists_history (l : Listener σ) (a : σ) (s : Settings) (t : Tree) (budget : Nat) :
    let out := (heard budget l a s t).state
    let start : World σ := { tree := t, listener := a }
    (∃ acts, start.after l acts = out.world ∧
      (∀ before new later, acts = before ++ .write new :: later →
        Warranted s (start.after l before).tree new) ∧
      (∀ before e later, acts = before ++ .call e :: later → s.dryRun = false →
        (start.after l before).writes.map Write.path =
          ((start.after l before).events ++ [e]).filterMap Event.changed?)) ∧
      (out.writes.map Write.path).Nodup ∧ (∀ new ∈ out.writes, new.path ∈ out.visited) ∧
      (s.dryRun = true → out.writes = []) := by
  intro out start
  have hinitial := account_initial l s a t
  have haccount : Account l s start out :=
    heard_induction hinitial (fun _ => hinitial.call rfl)
      (fun hdir st h => h.step (Tree.bytes_ne_nil_of_isDir hdir)) budget
  have hnodup : out.visited.Nodup := by
    by_cases hdir : t.isDir s.root = true
    · have hvisited := haccount.frontier.sublist (List.sublist_append_left _ _)
      exact hvisited.nodup (Tree.bytes_ne_nil_of_isDir hdir)
    · have hout : out = initial s a t := congrArg Outcome.state (heard_of_not_isDir hdir l a budget)
      rw [hout]
      exact List.nodup_nil
  obtain ⟨acts, hacts⟩ := haccount.history
  refine ⟨⟨acts, hacts.after_eq, ?_, ?_⟩, ?_, ?_, haccount.dry⟩
  · intro before new later hsplit
    exact hacts.sound hsplit
  · intro before e later hsplit
    exact hacts.sound hsplit
  · exact hnodup.sublist haccount.written
  · intro new hnew
    exact haccount.written.subset (List.mem_map_of_mem hnew)

end Runs

end Run

end ImportAlias
