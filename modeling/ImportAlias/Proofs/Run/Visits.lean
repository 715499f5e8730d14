import ImportAlias.Proofs.Run.Effects

/-!
# What a step of a run can do

Everything that one step of a run can do, whatever the listener does to the tree meanwhile. What
counts of a state is its `World`: the tree, the listener, and what has been written, told and put
out so far. A file that is visited cannot be read as text, or is kept, or is changed; `Run.Visit`
has a case for each, and for a change that the listener refuses. What holds of a whole run is
derived from these cases.
-/
namespace ImportAlias

/-- The change that an event tells of. -/
def Event.change? : Event → Option Change
  | .change c => some c
  | _ => none

/-- A tree and a listener, with what has been written, told and put out. -/
structure World (σ : Type) where
  tree : Tree
  listener : σ
  writes : List Write := []
  events : List Event := []
  output : Text := []

namespace World
variable {σ : Type}

/-- The listener hears of an event, and its edits are made. -/
def told (l : Listener σ) (w : World σ) (e : Event) : World σ :=
  let heard := l.hear w.listener e w.tree
  { w with
    tree := heard.2.edits.foldl (fun t edit => (edit.apply t).1) w.tree
    listener := heard.1
    events := w.events ++ [e]
    output := w.output ++ heard.2.output }

/-- Why the listener would fail at an event. -/
def answer? (l : Listener σ) (w : World σ) (e : Event) : Option Text :=
  (l.hear w.listener e w.tree).2.failure?

/-- A text is put into the file at its place. -/
def wrote (w : World σ) (new : Write) : World σ :=
  { w with
    tree := w.tree.put new.place (.file (Utf8.encode new.text))
    writes := w.writes ++ [new] }

end World

namespace Run

/-- The write that is due is made, unless the run is a dry one. -/
def stored {σ : Type} (s : Settings) (w : World σ) (d : Due) : World σ :=
  if s.dryRun then w else w.wrote d.write

section Stored
variable {σ : Type} (s : Settings) (w : World σ) (d : Due)

theorem tree_stored : (stored s w d).tree = if s.dryRun then w.tree else d.apply w.tree := by
  unfold stored
  split <;> rfl

theorem writes_stored :
    (stored s w d).writes = if s.dryRun then w.writes else w.writes ++ [d.write] := by
  unfold stored
  split <;> rfl

theorem events_stored : (stored s w d).events = w.events := by
  unfold stored
  split <;> rfl

theorem listener_stored : (stored s w d).listener = w.listener := by
  unfold stored
  split <;> rfl

theorem output_stored : (stored s w d).output = w.output := by
  unfold stored
  split <;> rfl

end Stored

def State.world {σ : Type} (st : State σ) : World σ where
  tree := st.tree
  listener := st.listener
  writes := st.writes
  events := st.events
  output := st.output

section Visits
variable {σ : Type} {l : Listener σ} {s : Settings} {st : State σ} {p : Path}

/-- What a visit does to the world and to the summary, and why it ends the run, if it does. -/
inductive Visit (l : Listener σ) (s : Settings) (p : Path) (w : World σ) :
    World σ → (Summary → Summary) → Option Error → Prop
  | unreadable {e : Error} (hload : Document.load w.tree s.root p = .error e) :
      Visit l s p w w id (some e)
  | kept (htext : IsText w.tree p) (hdue : due? s w.tree p = none) :
      Visit l s p w w Summary.scanned none
  | refused {d : Due} {reason : Text} (hdue : due? s w.tree p = some d)
      (hanswer : (stored s w d).answer? l (.change d.change) = some reason) :
      Visit l s p w ((stored s w d).told l (.change d.change)) Summary.scanned
        (some (.output reason))
  | changed {d : Due} (hdue : due? s w.tree p = some d)
      (hanswer : (stored s w d).answer? l (.change d.change) = none) :
      Visit l s p w ((stored s w d).told l (.change d.change))
        (fun summary => summary.scanned.record d.change) none

theorem foldl_applyEdit (edits : List Edit) (st : State σ) :
    let after := edits.foldl State.applyEdit st
    after.world = { st.world with
        tree := edits.foldl (fun t edit => (edit.apply t).1) st.tree } ∧
      after.pending = st.pending ∧ after.visited = st.visited ∧ after.summary = st.summary := by
  induction edits generalizing st with
  | nil => exact ⟨rfl, rfl, rfl, rfl⟩
  | cons edit edits ih => exact ih (st.applyEdit edit)

theorem call_told (l : Listener σ) (st : State σ) (e : Event) :
    (call l st e).1.world = st.world.told l e ∧
      (call l st e).1.pending = st.pending ∧ (call l st e).1.visited = st.visited ∧
      (call l st e).1.summary = st.summary ∧
      (call l st e).2 = (st.world.answer? l e).map .output := by
  obtain ⟨hworld, hpending, hvisited, hsummary⟩ := foldl_applyEdit
    (l.hear st.listener e st.tree).2.edits
    { st with
      listener := (l.hear st.listener e st.tree).1
      events := st.events ++ [e]
      output := st.output ++ (l.hear st.listener e st.tree).2.output }
  exact ⟨hworld, hpending, hvisited, hsummary, rfl⟩

theorem announce_told (l : Listener σ) (st : State σ) (d : Document) (count : Nat) :
    let change : Change := { path := d.path, relative := d.relative.display, count }
    let told := announce l st d count
    told.1.world = st.world.told l (.change change) ∧ told.1.pending = st.pending ∧
      told.1.visited = st.visited ∧
      told.2 = (st.world.answer? l (.change change)).map .output ∧
      told.1.summary = if st.world.answer? l (.change change) = none
        then st.summary.record change else st.summary := by
  intro change
  have hcall := call_told l st (.change change)
  rw [announce]
  dsimp only
  generalize call l st (.change change) = called at hcall ⊢
  obtain ⟨after, failure?⟩ := called
  obtain ⟨hworld, hpending, hvisited, hsummary, hanswer : failure? = _⟩ := hcall
  subst hanswer
  cases st.world.answer? l (.change change) with
  | none =>
    rw [← hsummary]
    exact ⟨hworld, hpending, hvisited, rfl, rfl⟩
  | some reason => exact ⟨hworld, hpending, hvisited, rfl, hsummary⟩

/-- A text that was read can be stored: the write does not fail. -/
theorem exists_store (s : Settings) (st : State σ) {d : Document} {place : Place} {bytes : Bytes}
    (hlocate : st.tree.locate .use d.path = .ok (.taken place (.file bytes))) {text : Text}
    (hother : text ≠ d.text) (change : Change) :
    ∃ after, store s.dryRun st d text = .ok after ∧
      after.world = stored s st.world ⟨⟨d.path, place, text⟩, change⟩ ∧
      after.pending = st.pending ∧ after.visited = st.visited ∧ after.summary = st.summary := by
  cases hdry : s.dryRun with
  | true =>
    refine ⟨st, rfl, ?_, rfl, rfl, rfl⟩
    rw [stored, hdry]
    rfl
  | false =>
    have hwrite := Tree.writeFile_of_locate hlocate (Utf8.encode text)
    refine ⟨st.written d text place (st.tree.put place (.file (Utf8.encode text))), ?_, ?_, rfl,
      rfl, rfl⟩
    · simp only [store, Document.save, if_neg hother, hwrite, Bool.false_eq_true, if_false]
    · rw [stored, hdry]
      rfl

/-- Telling of a change that has been stored ends the visit. -/
theorem announce_visits {d : Document} {count : Nat} {due : Due} {after : State σ}
    (hdue : due? s st.tree p = some due)
    (hchange : due.change = { path := d.path, relative := d.relative.display, count })
    (hafter : after.world = stored s st.world due)
    (hsummary : after.summary = st.summary.scanned) :
    ∃ f, Visit l s p st.world (announce l after d count).1.world f (announce l after d count).2 ∧
      (announce l after d count).1.summary = f st.summary := by
  obtain ⟨hworld, -, -, hanswer, hcounted⟩ := announce_told l after d count
  rw [← hchange, hafter] at hworld hanswer hcounted
  rw [hworld, hanswer, hcounted, hsummary]
  cases hfails : (stored s st.world due).answer? l (.change due.change) with
  | none => exact ⟨_, .changed hdue hfails, rfl⟩
  | some reason => exact ⟨_, .refused hdue hfails, rfl⟩

/-- Every visit is one of the cases. -/
theorem visit_visits (l : Listener σ) (s : Settings) (st : State σ) (p : Path) :
    let after := (visit l s st p).1
    after.pending = st.pending ∧ after.visited = st.visited ++ [p] ∧
      ∃ count, Visit l s p st.world after.world count (visit l s st p).2 ∧
        after.summary = count st.summary := by
  cases hload : Document.load st.tree s.root p with
  | error e =>
    have hvisit : visit l s st p = ({ st with visited := st.visited ++ [p] }, some e) := by
      rw [visit]
      dsimp only
      rw [hload]
    rw [hvisit]
    exact ⟨rfl, rfl, id, .unreadable hload, rfl⟩
  | ok d =>
    obtain ⟨place, bytes, hlocate, hdecode, rfl, hrelative⟩ :=
      Document.exists_locate_of_load hload
    have hdue := due?_of_locate (s := s) hlocate hdecode
    dsimp only at hdue
    rw [← hrelative] at hdue
    rw [visit]
    dsimp only
    rw [hload]
    dsimp only
    generalize (Rule.ofSettings s).apply d.relative d.text = applied at hdue ⊢
    obtain ⟨sub, records⟩ := applied
    dsimp only at hdue ⊢
    split
    · rename_i hsame
      rw [if_pos hsame] at hdue
      exact ⟨rfl, rfl, _, .kept (isText_of_load hload) hdue, rfl⟩
    · rename_i hother
      rw [if_neg hother] at hdue
      let scanned : State σ := State.logged
        { st with visited := st.visited ++ [d.path], summary := st.summary.scanned }
        (scanLog d sub records)
      obtain ⟨after, hstore, hworld, hpending, hvisited, hsummary⟩ :=
        exists_store s scanned hlocate hother ⟨d.path, d.relative.display, sub.count⟩
      rw [hstore]
      dsimp only
      generalize [note _ _ _] = told
      obtain ⟨-, hpending', hvisited', -⟩ := announce_told l (after.logged told) d sub.count
      exact ⟨hpending'.trans hpending, hvisited'.trans hvisited,
        announce_visits hdue rfl hworld hsummary⟩

end Visits

section Steps
variable {σ : Type} {l : Listener σ} {s : Settings} {st : State σ} {rest : List Walk.Item}

/-- What is left to visit is nothing, or starts with a file, or with something to look into. -/
theorem pending_cases (pending : List Walk.Item) :
    pending = [] ∨ (∃ p rest, pending = .file p :: rest) ∨
      ∃ item rest, (∀ p, item ≠ .file p) ∧ pending = item :: rest := by
  cases pending with
  | nil => exact Or.inl rfl
  | cons item rest =>
    cases item with
    | file p => exact Or.inr (Or.inl ⟨p, rest, rfl⟩)
    | root p => exact Or.inr (Or.inr ⟨.root p, rest, by simp, rfl⟩)
    | dir p => exact Or.inr (Or.inr ⟨.dir p, rest, by simp, rfl⟩)

/-- With nothing left, the listener is told of the end. -/
theorem step_finish (hpending : st.pending = []) :
    let out := step l s st
    out.state.world = st.world.told l (.finish st.summary) ∧ out.state.pending = [] ∧
      out.state.visited = st.visited ∧
      out.result? = some (match st.world.answer? l (.finish st.summary) with
        | some reason => .error (.output reason)
        | none => .ok st.summary) := by
  obtain ⟨hworld, hpending', hvisited, -, hanswer⟩ := call_told l st (.finish st.summary)
  rw [step, hpending]
  dsimp only
  rw [hanswer]
  refine ⟨hworld, hpending'.trans hpending, hvisited, ?_⟩
  cases st.world.answer? l (.finish st.summary) <;> rfl

theorem step_file {p : Path} (hpending : st.pending = .file p :: rest) :
    let out := step l s st
    ∃ f failure?, Visit l s p st.world out.state.world f failure? ∧ out.state.pending = rest ∧
      out.state.visited = st.visited ++ [p] ∧ out.state.summary = f st.summary ∧
      out.result? = failure?.map .error := by
  obtain ⟨hrest, hvisited, f, hvisit, hsummary⟩ := visit_visits l s { st with pending := rest } p
  rw [step, hpending]
  exact ⟨f, _, hvisit, hrest, hvisited, hsummary, rfl⟩

/-- Looking into a directory does nothing to the world. -/
theorem step_open {item : Walk.Item} (hitem : ∀ p, item ≠ .file p)
    (hpending : st.pending = item :: rest) :
    let out := step l s st
    out.state.world = st.world ∧ out.state.visited = st.visited ∧
      out.state.summary = st.summary ∧
      ((∃ items, Walk.expand s.selection st.tree item = .ok items ∧
          out.state.pending = items ++ rest ∧ out.result? = none) ∨
        ∃ e, Walk.expand s.selection st.tree item = .error e ∧ out.state.pending = rest ∧
          out.result? = some (.error e)) := by
  cases hexpand : Walk.expand s.selection st.tree item with
  | ok items =>
    have hstep : step l s st = ⟨{ st with pending := items ++ rest }, none⟩ := by
      cases item with
      | file p => exact absurd rfl (hitem p)
      | root p => simp only [step, hpending, hexpand]
      | dir p => simp only [step, hpending, hexpand]
    rw [hstep]
    exact ⟨rfl, rfl, rfl, Or.inl ⟨items, rfl, rfl, rfl⟩⟩
  | error e =>
    have hstep : step l s st = ⟨{ st with pending := rest }, some (.error e)⟩ := by
      cases item with
      | file p => exact absurd rfl (hitem p)
      | root p => simp only [step, hpending, hexpand]
      | dir p => simp only [step, hpending, hexpand]
    rw [hstep]
    exact ⟨rfl, rfl, rfl, Or.inr ⟨e, rfl, rfl, rfl⟩⟩

theorem steps_succ_of_none (h : (step l s st).result? = none) (n : Nat) :
    steps l s (n + 1) st = steps l s n (step l s st).state := by
  rw [steps]
  generalize step l s st = outcome at h ⊢
  obtain ⟨after, result?⟩ := outcome
  cases h
  rfl

theorem steps_succ_of_some {result : Except Error Summary} (h : (step l s st).result? = some result)
    (n : Nat) : steps l s (n + 1) st = step l s st := by
  rw [steps]
  generalize step l s st = outcome at h ⊢
  obtain ⟨after, result?⟩ := outcome
  cases h
  rfl

/-- What every step preserves holds however far a run is followed. -/
theorem steps_induction {P : State σ → Prop} (hstep : ∀ st, P st → P (step l s st).state)
    (h : P st) (n : Nat) : P (steps l s n st).state := by
  induction n generalizing st with
  | zero => exact h
  | succ n ih =>
    cases hresult : (step l s st).result? with
    | none =>
      rw [steps_succ_of_none hresult]
      exact ih (hstep st h)
    | some result =>
      rw [steps_succ_of_some hresult]
      exact hstep st h

theorem heard_induction {P : State σ → Prop} {a : σ} {t : Tree} (hinitial : P (initial s a t))
    (hstart : t.isDir s.root = true → P (call l (initial s a t) (.start s)).1)
    (hstep : t.isDir s.root = true → ∀ st, P st → P (step l s st).state) (budget : Nat) :
    P (heard budget l a s t).state := by
  rw [heard]
  split
  · rename_i hdir
    have hcalled := hstart hdir
    generalize call l (initial s a t) (.start s) = called at hcalled
    obtain ⟨st, failure?⟩ := called
    cases failure? with
    | none => exact steps_induction (hstep hdir) hcalled budget
    | some e => exact hcalled
  · exact hinitial

theorem heard_of_not_isDir {t : Tree} (hdir : ¬ t.isDir s.root = true) (l : Listener σ) (a : σ)
    (budget : Nat) :
    heard budget l a s t = ⟨initial s a t, some (.error (.rootMissing s.root))⟩ := by
  rw [heard, if_neg hdir]

end Steps

section Worlds
variable {σ : Type} {l : Listener σ} {s : Settings} {st : State σ} {P : World σ → Prop}

/-- What writes and the telling of changes preserve, a visit preserves. -/
theorem Visit.preserves {p : Path} {w w' : World σ} {f : Summary → Summary}
    {failure? : Option Error} (hstored : ∀ w d, P w → P (stored s w d))
    (htold : ∀ w c, P w → P (w.told l (.change c))) (h : Visit l s p w w' f failure?) (hw : P w) :
    P w' := by
  cases h with
  | unreadable _ => exact hw
  | kept _ _ => exact hw
  | refused _ _ => exact htold _ _ (hstored _ _ hw)
  | changed _ _ => exact htold _ _ (hstored _ _ hw)

/-- As long as something is left to visit, the listener is told of changes only. -/
theorem world_step_of_pending (hstored : ∀ w d, P w → P (stored s w d))
    (htold : ∀ w c, P w → P (w.told l (.change c))) (hpending : st.pending ≠ [])
    (h : P st.world) : P (step l s st).state.world := by
  rcases pending_cases st.pending with hnil | ⟨p, rest, hfile⟩ | ⟨item, rest, hitem, hopen⟩
  · exact absurd hnil hpending
  · obtain ⟨f, failure?, hvisit, -⟩ := step_file (l := l) (s := s) hfile
    exact hvisit.preserves hstored htold h
  · obtain ⟨hworld, -⟩ := step_open (l := l) (s := s) hitem hopen
    rw [hworld]
    exact h

/-- What writes and calls preserve, a step preserves. -/
theorem world_step (hstored : ∀ w d, P w → P (stored s w d)) (htold : ∀ w e, P w → P (w.told l e))
    (h : P st.world) : P (step l s st).state.world := by
  by_cases hpending : st.pending = []
  · obtain ⟨hworld, -⟩ := step_finish (l := l) (s := s) hpending
    rw [hworld]
    exact htold _ _ h
  · exact world_step_of_pending hstored (fun w c => htold w (.change c)) hpending h

theorem world_heard (hstored : ∀ w d, P w → P (stored s w d))
    (htold : ∀ w e, P w → P (w.told l e)) {a : σ} {t : Tree}
    (h : P { tree := t, listener := a }) (budget : Nat) :
    P (heard budget l a s t).state.world := by
  refine heard_induction (P := fun st => P st.world) h ?_ ?_ budget
  · intro _
    obtain ⟨hworld, -⟩ := call_told l (initial s a t) (.start s)
    rw [hworld]
    exact htold _ _ h
  · intro _ st hst
    exact world_step hstored htold hst

variable {Q : σ → Prop} (hkeeps : ∀ a e t, Q a → Q (l.hear a e t).1)
include hkeeps

/-- What no call changes about a listener, a step does not change. -/
theorem listener_step (h : Q st.world.listener) : Q (step l s st).state.world.listener :=
  world_step (P := fun w => Q w.listener) (fun w d hw => (listener_stored s w d).symm ▸ hw)
    (fun _ _ hw => hkeeps _ _ _ hw) h

theorem listener_heard {a : σ} (ha : Q a) (t : Tree) (budget : Nat) :
    Q (heard budget l a s t).state.world.listener :=
  world_heard (P := fun w => Q w.listener) (fun w d hw => (listener_stored s w d).symm ▸ hw)
    (fun _ _ hw => hkeeps _ _ _ hw) ha budget

end Worlds

section Unstopped
variable {σ : Type} {l : Listener σ} {s : Settings} {st : State σ} {Q : σ → Prop} {reason : Text}

theorem load_ne_output (t : Tree) (root p : Path) (reason : Text) :
    Document.load t root p ≠ .error (.output reason) := by
  intro h
  rw [Document.load] at h
  split at h
  · cases h
  · split at h
    · cases h
    · cases h

theorem expand_ne_output (s : Selection) (t : Tree) (item : Walk.Item) (reason : Text) :
    Walk.expand s t item ≠ .error (.output reason) := by
  have hlist : ∀ p, Walk.list s t p ≠ .error (.output reason) := by
    intro p h
    rw [Walk.list] at h
    split at h <;> cases h
  intro h
  cases item with
  | file p => cases h
  | dir p => exact hlist p h
  | root p =>
    rw [Walk.expand, Walk.openRoot] at h
    split at h
    · cases h
    · split at h
      · cases h
      · exact hlist p h
      · cases h
      · split at h
        · cases h
        · exact hlist p h
        · cases h

/-- A step does not fail for want of a listener that takes what it is told. -/
theorem result?_step_ne_output (htakes : ∀ a e t, Q a → (l.hear a e t).2.failure? = none)
    (h : Q st.world.listener) : (step l s st).result? ≠ some (.error (.output reason)) := by
  intro hresult
  rcases pending_cases st.pending with hnil | ⟨p, rest, hfile⟩ | ⟨item, rest, hitem, hopen⟩
  · obtain ⟨-, -, -, hend⟩ := step_finish (l := l) (s := s) hnil
    rw [hresult, World.answer?, htakes _ _ _ h] at hend
    cases hend
  · obtain ⟨f, failure?, hvisit, -, -, -, hend⟩ := step_file (l := l) (s := s) hfile
    rw [hresult] at hend
    generalize (step l s st).state.world = w at hvisit
    cases hvisit with
    | unreadable hload =>
      cases hend
      exact load_ne_output _ _ _ _ hload
    | kept _ _ => cases hend
    | changed _ _ => cases hend
    | @refused d _ _ hanswer =>
      rw [World.answer?, listener_stored, htakes _ _ _ h] at hanswer
      cases hanswer
  · obtain ⟨-, -, -, ⟨_, -, -, hend⟩ | ⟨e, hexpand, -, hend⟩⟩ :=
      step_open (l := l) (s := s) hitem hopen
    · rw [hresult] at hend
      cases hend
    · rw [hresult] at hend
      cases hend
      exact expand_ne_output _ _ _ _ hexpand

theorem result?_steps_ne_output (hkeeps : ∀ a e t, Q a → Q (l.hear a e t).1)
    (htakes : ∀ a e t, Q a → (l.hear a e t).2.failure? = none) (h : Q st.world.listener) (n : Nat) :
    (steps l s n st).result? ≠ some (.error (.output reason)) := by
  induction n generalizing st with
  | zero =>
    intro hresult
    cases hresult
  | succ n ih =>
    cases hstep : (step l s st).result? with
    | none =>
      rw [steps_succ_of_none hstep]
      exact ih (listener_step hkeeps h)
    | some result =>
      rw [steps_succ_of_some hstep]
      exact result?_step_ne_output htakes h

/-- A listener that takes what it is told, in all states that it comes to, does not stop a run. -/
theorem result?_heard_ne_output (hkeeps : ∀ a e t, Q a → Q (l.hear a e t).1)
    (htakes : ∀ a e t, Q a → (l.hear a e t).2.failure? = none) {a : σ} (ha : Q a) (s : Settings)
    (t : Tree) (budget : Nat) (reason : Text) :
    (heard budget l a s t).result? ≠ some (.error (.output reason)) := by
  rw [heard]
  split
  · obtain ⟨hworld, -, -, -, hanswer⟩ := call_told l (initial s a t) (.start s)
    have hlistener : Q (call l (initial s a t) (.start s)).1.world.listener := by
      rw [hworld]
      exact hkeeps a (.start s) t ha
    have hnone : (call l (initial s a t) (.start s)).2 = none :=
      hanswer.trans (congrArg _ (htakes a (.start s) t ha))
    generalize call l (initial s a t) (.start s) = called at hlistener hnone
    obtain ⟨st, failure?⟩ := called
    subst hnone
    exact result?_steps_ne_output hkeeps htakes hlistener budget
  · intro hresult
    cases hresult

end Unstopped

end Run

end ImportAlias
